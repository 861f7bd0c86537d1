import TunnelitRelay.Draining

namespace TunnelitRelay

open Concurrent

/-! # The traffic of a stopped tunnel

Stopping a tunnel aborts its listener.  The tasks of the connections accepted
before hold the agent's channel themselves and are not told.
-/

section Stopping

variable [Externals] {tunnelId : Uuid} {portRange : UInt16 × UInt16}

/-- A request that takes the tunnel down has been answered. -/
inductive TakenDown (tunnelId : Uuid) (config : Config process) : Prop where
  | toggledOff {thread : Thread process} {id : String} {result} (member : thread ∈ config.threads)
      (answered : thread.isFinished = true) (request : thread.job = .serve (.toggleTunnel id))
      (names : parseUuid id = some tunnelId)
      (did : Did thread.past (.db (.setTunnelEnabled id false)) result)
  | deleted {thread : Thread process} {id : String} {result} (member : thread ∈ config.threads)
      (answered : thread.isFinished = true) (request : thread.job = .serve (.deleteTunnel id))
      (names : parseUuid id = some tunnelId) (did : Did thread.past (.db (.deleteTunnel id)) result)
  | ownerBanned {thread : Thread process} {id : String} {headers : HeaderMap}
      (member : thread ∈ config.threads) (answered : thread.isFinished = true)
      (request : thread.job = .serve (.adminBanUser id headers))
      (did : Did thread.past (.removeTunnelTask tunnelId) ())
  | agentDeleted {thread : Thread process} {id : String} {result} {agentId : Uuid}
      (member : thread ∈ config.threads) (answered : thread.isFinished = true)
      (request : thread.job = .serve (.deleteAgent id)) (names : parseUuid id = some agentId)
      (did : Did thread.past (.db (.deleteAgent id)) result)
      (serves : (∃ task listener, config.state.proxies.listeners task = some listener ∧
          listener.tunnelId = tunnelId ∧ listener.agentId = agentId) ∨
        ∃ connId connection, config.state.proxies.connections connId = some connection ∧
          connection.tunnelId = tunnelId ∧ connection.agentId = agentId)

/-- No listener task of the tunnel runs, and the tasks of its TCP connections
have left their loops. -/
structure Quiet (tunnelId : Uuid) (state : Process) : Prop where
  listeners : ∀ task listener, state.proxies.listeners task = some listener → listener.tunnelId ≠ tunnelId
  connections : ∀ connId connection, state.proxies.connections connId = some connection →
    connection.tunnelId = tunnelId → connection.transport = .tcp → connection.stage.inLoop = false

structure Stopped (tunnelId : Uuid) (config : Config process) : Prop where
  takenDown : TakenDown tunnelId config
  quiet : Quiet tunnelId config.state

/-- No listener is spawned for the tunnel. -/
def unstarted (tunnelId : Uuid) : Check process := fun _ _ _ op =>
  match op with
  | .spawnProxy _ _ other _ _ => other != tunnelId
  | _ => true

/-- The message announces a connection of the tunnel or carries its data. -/
def Proxies.concerns (proxies : Proxies) (tunnelId : Uuid) : RelayMessage → Bool
  | .newConnection other _ => other == tunnelId
  | .data connId _ => (proxies.connections connId).any (·.tunnelId == tunnelId)
  | _ => false

/-- What a step puts on the agents' channels does not concern the tunnel, and it
writes nothing to the tunnel's clients; a restart empties the channels. -/
structure Hushed (tunnelId : Uuid) (before after : Process) : Prop where
  messages : ∀ channel, after.world.sent channel = [] ∨ ∃ more,
    after.world.sent channel = before.world.sent channel ++ more ∧
      ∀ message ∈ more, before.proxies.concerns tunnelId message = false
  written : ∀ connId connection later, before.proxies.connections connId = some connection →
    after.proxies.connections connId = some later → connection.tunnelId = tunnelId →
      later.written = connection.written

/-! ## Keeping a tunnel quiet -/

section Parts

variable {state : Process} {world : World} {proxies : Proxies} {connId : Uuid} {task : Nat}
  {connection : Connection} {listener : Option Listener}

omit [Externals] in
theorem Quiet.setListener (quiet : Quiet tunnelId ⟨world, proxies⟩)
    (other : ∀ found, listener = some found → found.tunnelId ≠ tunnelId) :
    Quiet tunnelId ⟨world, proxies.setListener task listener⟩ where
  listeners := by
    intro index found there
    change Function.update proxies.listeners task listener index = some found at there
    by_cases here : index = task
    · rw [here, Function.update_self] at there
      exact other found there
    · rw [Function.update_of_ne here] at there
      exact quiet.listeners index found there
  connections := quiet.connections

omit [Externals] in
theorem Quiet.setConnection (quiet : Quiet tunnelId ⟨world, proxies⟩)
    (left : connection.tunnelId = tunnelId → connection.transport = .tcp →
      connection.stage.inLoop = false) :
    Quiet tunnelId ⟨world, proxies.setConnection connId connection⟩ where
  listeners := quiet.listeners
  connections := by
    intro other found there
    change Function.update proxies.connections connId (some connection) other = some found at there
    by_cases here : other = connId
    · rw [here, Function.update_self] at there
      cases there
      exact left
    · rw [Function.update_of_ne here] at there
      exact quiet.connections other found there

omit [Externals] in
theorem Quiet.anyWorld {later : World} (quiet : Quiet tunnelId ⟨world, proxies⟩) :
    Quiet tunnelId ⟨later, proxies⟩ :=
  ⟨quiet.listeners, quiet.connections⟩

omit [Externals] in
/-- What has passed through a socket matters to no task. -/
theorem Quiet.record {socket : Option Socket}
    (both : Quiet tunnelId ⟨world, proxies⟩ ∧ Hushed tunnelId state ⟨world, proxies⟩) :
    Quiet tunnelId ⟨world, proxies.record task socket⟩ ∧
      Hushed tunnelId state ⟨world, proxies.record task socket⟩ :=
  ⟨⟨both.1.listeners, both.1.connections⟩, both.2.messages, both.2.written⟩

omit [Externals] in
/-- A step that puts nothing on a channel. -/
theorem Hushed.silent {before after : Process} (sent : after.world.sent = before.world.sent)
    (written : ∀ connId connection later, before.proxies.connections connId = some connection →
      after.proxies.connections connId = some later → connection.tunnelId = tunnelId →
        later.written = connection.written) : Hushed tunnelId before after where
  messages := fun channel => .inr ⟨[], by rw [sent, List.append_nil], fun _ member => by cases member⟩
  written := written

omit [Externals] in
/-- A step that may put one message of another tunnel on a channel. -/
theorem Hushed.offer {before : Process} {later : World} {others : Proxies} {sender : Channel}
    {message : RelayMessage} (foreign : before.proxies.concerns tunnelId message = false)
    (same : later.sent = before.world.sent)
    (written : ∀ connId connection found, before.proxies.connections connId = some connection →
      others.connections connId = some found → connection.tunnelId = tunnelId →
        found.written = connection.written) :
    Hushed tunnelId before ⟨later.offer before.proxies sender message, others⟩ where
  messages := by
    intro channel
    right
    unfold World.offer
    split
    · exact ⟨[], by rw [same, List.append_nil], fun _ member => by cases member⟩
    · dsimp only
      rw [same]
      by_cases here : channel = sender
      · refine ⟨[message], by rw [here, Function.update_self], fun found member => ?_⟩
        rw [List.mem_singleton.mp member]
        exact foreign
      · exact ⟨[], by rw [Function.update_of_ne here, List.append_nil], fun _ member => by cases member⟩
  written := written

omit [Externals] in
/-- Setting one connection writes nothing if what is written to it stays the
same or it is a connection of another tunnel. -/
theorem written_setConnection
    (same : ∀ found, proxies.connections connId = some found → found.tunnelId = tunnelId →
      connection.written = found.written) :
    ∀ other found later, proxies.connections other = some found →
      (proxies.setConnection connId connection).connections other = some later →
        found.tunnelId = tunnelId → later.written = found.written := by
  intro other found later there there' of
  change Function.update proxies.connections connId (some connection) other = some later at there'
  by_cases here : other = connId
  · rw [here, Function.update_self] at there'
    rw [← Option.some.inj there']
    exact same found (here ▸ there) of
  · rw [Function.update_of_ne here] at there'
    rw [Option.some.inj (there.symm.trans there')]

omit [Externals] in
theorem written_same : ∀ other found later, proxies.connections other = some found →
    proxies.connections other = some later → found.tunnelId = tunnelId → later.written = found.written :=
  fun _ _ _ there there' _ => by rw [Option.some.inj (there.symm.trans there')]

end Parts

section Performed

variable {state : Process} {world : World} {proxies : Proxies} {action : ProxyAction}

/-- The listener of another tunnel keeps the tunnel quiet. -/
theorem Quiet.listen {task : Nat} {listener : Listener} (quiet : Quiet tunnelId state) (sound : state.Sound)
    (there : state.proxies.listeners task = some listener)
    (performed : state.proxies.listen state.world task listener action = some (world, proxies)) :
    Quiet tunnelId ⟨world, proxies⟩ ∧ Hushed tunnelId state ⟨world, proxies⟩ := by
  have other := quiet.listeners task listener there
  have anchored := sound.listeners task listener there
  -- A change of the listener alone.
  have moves {later : World} {next : Option Listener}
      (alike : ∀ found, next = some found → found.tunnelId = listener.tunnelId)
      (sent : later.sent = state.world.sent) :
      Quiet tunnelId ⟨later, state.proxies.setListener task next⟩ ∧
        Hushed tunnelId state ⟨later, state.proxies.setListener task next⟩ :=
    ⟨(Quiet.anyWorld quiet).setListener fun found same => by rw [alike found same]; exact other,
      .silent sent written_same⟩
  have stays {found : Listener} (same : found.tunnelId = listener.tunnelId) :
      ∀ next, some found = some next → next.tunnelId = listener.tunnelId :=
    fun _ alike => Option.some.inj alike ▸ same
  -- The connections the listener refers to are not the tunnel's.
  have foreign {connId : Uuid} {connection : Connection}
      (known : state.proxies.connections connId = some connection)
      (elsewhere : connection.tunnelId ≠ tunnelId) :
      ∀ found, state.proxies.connections connId = some found → found.tunnelId ≠ tunnelId :=
    fun found known' => Option.some.inj (known.symm.trans known') ▸ elsewhere
  have client {addr : SocketAddr} {connId : Uuid} (member : (addr, connId) ∈ listener.addrToConn) :
      ∃ connection, state.proxies.connections connId = some connection ∧ connection.tunnelId ≠ tunnelId := by
    obtain ⟨connection, known, _, _, same⟩ := anchored.clients addr connId member
    exact ⟨connection, known, same ▸ other⟩
  have accepted {connId : Uuid} (stage : listener.stage = .registering connId) :
      ∃ connection, state.proxies.connections connId = some connection ∧ connection.tunnelId ≠ tunnelId := by
    obtain ⟨connection, known, tcp, announced, _⟩ := anchored.registering connId stage
    refine ⟨connection, known, fun same => ?_⟩
    have left := quiet.connections connId connection known same tcp
    rw [announced] at left
    exact Bool.noConfusion left
  -- A connection of another tunnel is introduced or changed along with the listener.
  have sets {connId : Uuid} {connection : Connection} {later : World} {next : Listener}
      (elsewhere : connection.tunnelId ≠ tunnelId) (same : next.tunnelId = listener.tunnelId)  :
      Quiet tunnelId ⟨later, (state.proxies.setListener task (some next)).setConnection connId connection⟩ :=
    ((Quiet.anyWorld quiet).setListener fun found alike => by
      rw [← Option.some.inj alike, same]
      exact other).setConnection fun here => absurd here elsewhere
  have announces {connId : Uuid} {connection : Connection} {next : Listener} (new : connId ∉ state.world.drawn)
      (elsewhere : connection.tunnelId ≠ tunnelId) (same : next.tunnelId = listener.tunnelId) :
      Quiet tunnelId ⟨(state.world.draw connId).offer state.proxies listener.agentSender
          (.newConnection listener.tunnelId connId),
        (state.proxies.setListener task (some next)).setConnection connId connection⟩ ∧
      Hushed tunnelId state ⟨(state.world.draw connId).offer state.proxies listener.agentSender
          (.newConnection listener.tunnelId connId),
        (state.proxies.setListener task (some next)).setConnection connId connection⟩ := by
    have unused : state.proxies.connections connId = none := congrArg View.connection (sound.fresh connId new)
    refine ⟨sets elsewhere same, .offer (beq_eq_false_iff_ne.mpr other) rfl ?_⟩
    exact @written_setConnection tunnelId state.proxies connId connection fun found there =>
      absurd (unused.symm.trans there) (Option.some_ne_none _).symm
  cases action with
  | cancel =>
      simp only [Proxies.listen] at performed
      split at performed
      · split at performed
        · rename_i connId stage
          obtain ⟨connection, known, elsewhere⟩ := accepted stage
          rw [known] at performed
          cases performed
          refine ⟨(quiet.setListener fun _ same => by contradiction).setConnection fun here => ?_, .silent rfl ?_⟩
          · exact absurd here elsewhere
          · exact @written_setConnection tunnelId state.proxies connId _ fun found there here =>
              absurd here (foreign known elsewhere found there)
        · cases performed
          exact moves (fun _ same => by contradiction) rfl
      · contradiction
  | check =>
      simp only [Proxies.listen] at performed
      split at performed
      · split at performed
        · cases performed
          exact moves (fun _ same => by contradiction) rfl
        · cases performed
          exact moves (stays rfl) rfl
      · contradiction
  | fault =>
      simp only [Proxies.listen] at performed
      split at performed
      · cases performed
        exact moves (stays rfl) rfl
      · contradiction
  | accept _ connId =>
      simp only [Proxies.listen] at performed
      split at performed
      · rename_i ready
        split at performed
        · cases performed
          exact moves (fun _ same => by contradiction) rfl
        · cases performed
          exact announces ready.2.2 other rfl
      · contradiction
  | register =>
      simp only [Proxies.listen] at performed
      split at performed
      · rename_i connId stage
        obtain ⟨connection, known, elsewhere⟩ := accepted stage
        rw [known] at performed
        cases performed
        refine ⟨sets elsewhere rfl, .silent rfl ?_⟩
        exact @written_setConnection tunnelId state.proxies connId _ fun found there here =>
          absurd here (foreign known elsewhere found there)
      · contradiction
  | receive _ addr bytes connId =>
      simp only [Proxies.listen] at performed
      split at performed
      · split at performed
        · cases performed
          refine Quiet.record ?_
          exact moves (stays rfl) rfl
        · split at performed
          · rename_i new
            cases performed
            refine Quiet.record ?_
            exact announces new other rfl
          · contradiction
      · contradiction
  | forwardDatagram =>
      simp only [Proxies.listen] at performed
      split at performed
      · rename_i connId bytes stage
        obtain ⟨addr, member⟩ := anchored.forwarding connId bytes stage
        obtain ⟨connection, known, elsewhere⟩ := client member
        cases performed
        refine ⟨(Quiet.anyWorld quiet).setListener fun _ same => ?_, .offer ?_ rfl written_same⟩
        · rw [← Option.some.inj same]
          exact other
        · simp [Proxies.concerns, known, elsewhere]
      · contradiction
  | takeReply =>
      simp only [Proxies.listen] at performed
      split at performed
      · split at performed
        · split at performed
          · cases performed
            exact moves (stays rfl) rfl
          · cases performed
            exact moves (stays rfl) rfl
        · contradiction
      · contradiction
  | sendTo =>
      simp only [Proxies.listen] at performed
      split at performed
      · rename_i connId addr data stage
        obtain ⟨connection, known, elsewhere⟩ := client (anchored.replying connId addr data stage)
        rw [known] at performed
        cases performed
        refine Quiet.record ?_
        refine ⟨sets elsewhere rfl, .silent rfl ?_⟩
        exact @written_setConnection tunnelId state.proxies connId _ fun found there here =>
          absurd here (foreign known elsewhere found there)
      · contradiction
  | _ => contradiction

/-- The task and the client of a TCP connection. -/
theorem Quiet.serveTcp {connId : Uuid} {connection : Connection} (quiet : Quiet tunnelId state)
    (known : state.proxies.connections connId = some connection) (tcp : connection.transport = .tcp)
    (names : action.connection = some connId)
    (performed : state.proxies.serveTcp state.world connId connection action = some (world, proxies)) :
    Quiet tunnelId ⟨world, proxies⟩ ∧ Hushed tunnelId state ⟨world, proxies⟩ := by
  have out (here : connection.tunnelId = tunnelId) := quiet.connections connId connection known here tcp
  -- A task in its loop serves another tunnel's connection.
  have elsewhere {stage : ConnStage} (stands : connection.stage = stage) (loops : stage.inLoop = true) :
      connection.tunnelId ≠ tunnelId :=
    fun here => Bool.noConfusion ((stands ▸ loops).symm.trans (out here))
  have written {later : Connection}
      (same : connection.tunnelId = tunnelId → later.written = connection.written) :=
    @written_setConnection tunnelId state.proxies connId later fun found there => by
      rw [← Option.some.inj (known.symm.trans there)]
      exact same
  -- A change of the connection alone.
  have moves {later : Connection} {next : World} (sent : next.sent = state.world.sent)
      (left : later.tunnelId = tunnelId → later.stage.inLoop = false)
      (same : connection.tunnelId = tunnelId → later.written = connection.written) :
      Quiet tunnelId ⟨next, state.proxies.setConnection connId later⟩ ∧
        Hushed tunnelId state ⟨next, state.proxies.setConnection connId later⟩ :=
    ⟨(Quiet.anyWorld quiet).setConnection fun here _ => left here, .silent sent (written same)⟩
  cases action with
  | arrive | finish =>
      cases names
      simp only [Proxies.serveTcp] at performed
      (try split at performed) <;> cases performed
      exact moves rfl out fun _ => rfl
  | read | readEof =>
      cases names
      simp only [Proxies.serveTcp] at performed
      split at performed
      · rename_i ready
        cases performed
        exact moves rfl (fun here => absurd here (elsewhere ready.1 rfl)) fun _ => rfl
      · contradiction
  | readError =>
      cases names
      simp only [Proxies.serveTcp] at performed
      split at performed
      · cases performed
        exact moves rfl (fun _ => rfl) fun _ => rfl
      · contradiction
  | forward =>
      cases names
      simp only [Proxies.serveTcp] at performed
      split at performed
      · rename_i bytes stage
        have foreign := elsewhere stage rfl
        split at performed
        · cases performed
          exact moves rfl (fun _ => rfl) fun _ => rfl
        · cases performed
          refine ⟨(Quiet.anyWorld quiet).setConnection fun here => absurd here foreign,
            .offer ?_ rfl (written fun _ => rfl)⟩
          simp [Proxies.concerns, known, foreign]
      · contradiction
  | take =>
      cases names
      simp only [Proxies.serveTcp] at performed
      split at performed
      · rename_i stage
        split at performed
        · cases performed
          exact moves rfl (fun here => absurd here (elsewhere stage rfl)) fun _ => rfl
        · contradiction
      · contradiction
  | writeAll | writeError =>
      cases names
      simp only [Proxies.serveTcp] at performed
      split at performed
      · rename_i data stage
        have foreign := elsewhere stage rfl
        cases performed
        exact moves rfl (fun here => absurd here foreign) fun here => absurd here foreign
      · contradiction
  | close =>
      cases names
      simp only [Proxies.serveTcp] at performed
      split at performed
      · cases performed
        exact ⟨(Quiet.anyWorld quiet).setConnection fun _ _ => rfl, .offer rfl rfl (written fun _ => rfl)⟩
      · contradiction
  | remove =>
      cases names
      simp only [Proxies.serveTcp] at performed
      split at performed
      · cases performed
        exact moves rfl (fun _ => rfl) fun _ => rfl
      · contradiction
  | _ => contradiction

omit [Externals] in
/-- The task of a UDP client only passes payloads on to its listener. -/
theorem Quiet.serveUdp {connId : Uuid} {connection : Connection} (quiet : Quiet tunnelId state)
    (known : state.proxies.connections connId = some connection) (udp : connection.transport = .udp)
    (names : action.connection = some connId)
    (performed : state.proxies.serveUdp state.world connId connection action = some (world, proxies)) :
    Quiet tunnelId ⟨world, proxies⟩ ∧ Hushed tunnelId state ⟨world, proxies⟩ := by
  have datagrams {later : Connection} (same : later.transport = connection.transport) :
      later.tunnelId = tunnelId → later.transport = .tcp → later.stage.inLoop = false := by
    intro _ tcp
    rw [same, udp] at tcp
    contradiction
  have moves {later : Connection} {next : World} (sent : next.sent = state.world.sent)
      (transport : later.transport = connection.transport) (same : later.written = connection.written) :
      Quiet tunnelId ⟨next, state.proxies.setConnection connId later⟩ ∧
        Hushed tunnelId state ⟨next, state.proxies.setConnection connId later⟩ := by
    refine ⟨(Quiet.anyWorld quiet).setConnection (datagrams transport), .silent sent ?_⟩
    refine @written_setConnection tunnelId state.proxies connId later fun found there _ => ?_
    rw [← Option.some.inj (known.symm.trans there)]
    exact same
  cases action with
  | enroll =>
      cases names
      simp only [Proxies.serveUdp] at performed
      split at performed
      · cases performed
        exact moves rfl rfl rfl
      · contradiction
  | passOn =>
      cases names
      simp only [Proxies.serveUdp] at performed
      split at performed
      · split at performed
        · split at performed
          · rename_i listener there
            cases performed
            have moved : Quiet tunnelId ⟨state.world, state.proxies.setConnection connId
                { connection with taken := connection.taken + 1 }⟩ ∧ Hushed tunnelId state
                  ⟨state.world, state.proxies.setConnection connId
                    { connection with taken := connection.taken + 1 }⟩ := moves rfl rfl rfl
            refine ⟨moved.1.setListener fun found same => ?_, .silent rfl moved.2.written⟩
            rw [← Option.some.inj same]
            exact quiet.listeners _ listener there
          · cases performed
            exact moves rfl rfl rfl
        · contradiction
      · contradiction
  | retire =>
      cases names
      simp only [Proxies.serveUdp] at performed
      split at performed
      · cases performed
        exact moves rfl rfl rfl
      · contradiction
  | _ => contradiction

theorem Quiet.perform (quiet : Quiet tunnelId state) (sound : state.Sound)
    (performed : state.proxies.perform state.world action = some (world, proxies)) :
    Quiet tunnelId ⟨world, proxies⟩ ∧ Hushed tunnelId state ⟨world, proxies⟩ := by
  unfold Proxies.perform at performed
  split at performed
  · cases performed
    exact ⟨⟨quiet.listeners, quiet.connections⟩, .silent rfl written_same⟩
  · split at performed
    · split at performed
      · rename_i there
        exact quiet.listen sound there performed
      · contradiction
    · split at performed
      · rename_i names
        split at performed
        · rename_i known
          split at performed
          · rename_i tcp
            exact quiet.serveTcp known tcp names performed
          · rename_i udp
            exact quiet.serveUdp known udp names performed
        · contradiction
      · contradiction

end Performed

omit [Externals] in
/-- Only messages about a connection are traffic. -/
theorem concerns_of_about {proxies : Proxies} {message : RelayMessage} (silent : message.about = none) :
    proxies.concerns tunnelId message = false := by
  cases message with
  | newConnection | data => contradiction
  | _ => rfl

theorem Quiet.called {state : Process} {choice : Choice} {op : Op} {world : World} {result : op.Result}
    (quiet : Quiet tunnelId state) (executed : exec state.world choice op = some (world, result))
    (silent : ∀ sender message, op = .send sender message → message.about = none)
    (idle : ∀ transport port agentId sender, op ≠ .spawnProxy transport port tunnelId agentId sender) :
    Quiet tunnelId ⟨world, state.proxies.after state.world op⟩ ∧
      Hushed tunnelId state ⟨world, state.proxies.after state.world op⟩ := by
  have sent := exec_sent executed
  have written : ∀ connId connection later, state.proxies.connections connId = some connection →
      (state.proxies.after state.world op).connections connId = some later →
        connection.tunnelId = tunnelId → later.written = connection.written := by
    rw [Proxies.after_connections]
    exact written_same
  cases op with
  | spawnProxy transport port other agentId sender =>
      refine Quiet.record ?_
      refine ⟨(Quiet.anyWorld quiet).setListener fun found same => ?_, .silent sent written⟩
      rw [← Option.some.inj same]
      intro here
      exact idle transport port agentId sender (here ▸ rfl)
  | removeTunnelTask other =>
      refine ⟨?_, .silent sent written⟩
      simp only [Proxies.after]
      split
      · refine (Quiet.anyWorld quiet).setListener fun found same => ?_
        obtain ⟨old, known, rfl⟩ := Option.map_eq_some_iff.mp same
        exact quiet.listeners _ old known
      · exact Quiet.anyWorld quiet
  | send sender message =>
      cases executed
      refine ⟨Quiet.anyWorld quiet, fun channel => .inr ?_, written⟩
      by_cases here : channel = sender
      · refine ⟨[message], by simp [here], fun found member => ?_⟩
        rw [List.mem_singleton.mp member]
        exact concerns_of_about (silent sender message rfl)
      · exact ⟨[], by simp [Function.update_of_ne here], fun _ member => by cases member⟩
  | _ => exact ⟨Quiet.anyWorld quiet, .silent sent written⟩

/-- The step lemma: a quiet tunnel that is not started again stays quiet, and
the step does nothing for it. -/
theorem Quiet.step {before after : Config process} {action : Action process}
    (runs : Runs anyStep portRange before) (quiet : Quiet tunnelId before.state)
    (idle : (unstarted tunnelId).condition before action) (step : Step before action after) :
    Quiet tunnelId after.state ∧ Hushed tunnelId before.state after.state := by
  cases step with
  | @start job state admitted =>
      cases job with
      | serve job =>
          obtain ⟨world, accepted, rfl⟩ := Option.map_eq_some_iff.mp admitted
          obtain ⟨sessions, rfl⟩ := accept_same accepted
          exact ⟨Quiet.anyWorld quiet, .silent rfl written_same⟩
      | proxy action =>
          obtain ⟨⟨world, proxies⟩, performed, rfl⟩ := Option.map_eq_some_iff.mp admitted
          exact quiet.perform runs.sound performed
  | @call task thread op next choice state result found head executed =>
      obtain ⟨⟨world, answer⟩, executed, same⟩ := Option.map_eq_some_iff.mp executed
      cases same
      refine quiet.called executed (silent_call runs.lawful found head) ?_
      intro transport port agentId sender spawns
      subst spawns
      have other := idle thread _ next found head
      simp [unstarted] at other
  | acquire | release => exact ⟨quiet, .silent rfl written_same⟩
  | reboot =>
      refine ⟨⟨fun _ _ there => ?_, fun _ _ there => ?_⟩, fun _ => .inl rfl, fun _ _ _ _ there => ?_⟩
      all_goals simp [Proxies.none] at there

/-- In every run in which a tunnel is quiet when an operation that takes it down
has completed, and until it is started again, no step sends a message for a
connection of the tunnel or writes to one of its clients. -/
theorem stopped_hushed {first before after : Config process} {action : Action process}
    (runs : Runs anyStep portRange first) (stopped : Stopped tunnelId first)
    (steps : Steps (unstarted tunnelId).condition first before)
    (idle : (unstarted tunnelId).condition before action) (step : Step before action after) :
    Hushed tunnelId before.state after.state := by
  have quiet : Quiet tunnelId before.state ∧ Runs anyStep portRange before := by
    clear idle step
    induction steps with
    | refl => exact ⟨stopped.quiet, runs⟩
    | tail _ last ih =>
        obtain ⟨action, permitted, step⟩ := last
        exact ⟨(ih.1.step ih.2 permitted step).1, ih.2.tail ⟨action, trivial, step⟩⟩
  exact (quiet.1.step quiet.2 idle step).2

/-! ## Checking that a tunnel is quiet -/

def isQuiet (tunnelId : Uuid) (state : Process) : Bool :=
  ((List.range state.world.spawned).all fun task =>
    (state.proxies.listeners task).all (·.tunnelId != tunnelId)) &&
  state.world.drawn.all fun connId => (state.proxies.connections connId).all fun connection =>
    connection.tunnelId != tunnelId || connection.transport != .tcp || !connection.stage.inLoop

theorem Runs.quiet {config : Config process} (runs : Runs anyStep portRange config)
    (passed : isQuiet tunnelId config.state = true) : Quiet tunnelId config.state := by
  simp only [isQuiet, Bool.and_eq_true, List.all_eq_true, List.mem_range] at passed
  refine ⟨fun task listener there => ?_, fun connId connection there of tcp => ?_⟩
  · have each := passed.1 task (runs.sound.numbered task listener there)
    rw [there] at each
    simpa using each
  · have each := passed.2 connId (runs.drawn there)
    rw [there] at each
    simpa [of, tcp] using each

/-- The request of a task, with the operation by which it takes a tunnel down. -/
def hasDone (job : Job) (op : Op) (config : Config process) : Bool :=
  config.threads.any fun thread => thread.isFinished && decide (thread.job = .serve job) &&
    thread.past.any fun event => decide (event.1 = op)

theorem hasDone_iff {job : Job} {op : Op} {config : Config process} (did : hasDone job op config = true) :
    ∃ thread ∈ config.threads, thread.isFinished = true ∧ thread.job = .serve job ∧
      ∃ result, Did thread.past op result := by
  simp only [hasDone, List.any_eq_true, Bool.and_eq_true, decide_eq_true_eq] at did
  obtain ⟨thread, member, ⟨finished, request⟩, ⟨other, result⟩, happened, rfl⟩ := did
  exact ⟨thread, member, finished, request, result, happened⟩

/-- A TCP connection of the tunnel that holds a chunk for its agent. -/
theorem unhushed {before : Config process} {connId : Uuid} {connection : Connection} {bytes : List UInt8}
    (there : before.state.proxies.connections connId = some connection)
    (of : connection.tunnelId = tunnelId) (tcp : connection.transport = .tcp)
    (stage : connection.stage = .forwarding bytes)
    (hears : before.state.proxies.closed connection.agentSender = false) :
    ∃ after, Step before (.start (.proxy (.forward connId))) after ∧
      ¬ Hushed tunnelId before.state after.state := by
  have performed : process.accept before.state (.proxy (.forward connId)) = some
      ⟨before.state.world.offer before.state.proxies connection.agentSender
          (.data connId (encodeBase64 bytes)),
        before.state.proxies.setConnection connId { connection with stage := .selecting }⟩ := by
    simp [Proxies.perform, ProxyAction.task, ProxyAction.connection, there, tcp, Proxies.serveTcp, stage, hears]
  refine ⟨_, .start performed, fun hushed => ?_⟩
  rcases hushed.messages connection.agentSender with emptied | ⟨more, grown, foreign⟩
  · simp [World.offer, hears] at emptied
  · simp only [World.offer, hears, Bool.false_eq_true, if_false, Function.update_self,
      List.append_cancel_left_eq] at grown
    have concerned := foreign (.data connId (encodeBase64 bytes)) (by simp [← grown])
    simp [Proxies.concerns, there, of] at concerned

end Stopping

/-- Alice's tunnel with one client, who has closed the connection, is switched off. -/
theorem stopped_hushed_closed :
    ∃ first after : Config process, Stopped 6 first ∧ Step first (.start (.serve (.connect 1))) after ∧
      Hushed 6 first.state after.state := by
  have passed : (process.follow (fun _ _ _ _ => true) 200 (works 0 (tunnelOpened ++ proxied
      [.check 0, .accept 0 1000, .register 0, .finish 1000, .readEof 1000, .close 1000, .remove 1000] ++
      [(.serve (.toggleTunnel (uuidToString 6)), answer 0 0)] ++ proxied [.cancel 0]))
      ⟨newProcess, []⟩).any (fun first => hasDone (.toggleTunnel (uuidToString 6))
        (.db (.setTunnelEnabled (uuidToString 6) false)) first && isQuiet 6 first.state &&
          (first.state.world.sessions 1).isNone && parseUuid (uuidToString 6) == some 6) = true := by
    decide +kernel
  obtain ⟨first, runs, tested⟩ := newProcess_run passed
  simp only [Bool.and_eq_true, Option.isNone_iff_eq_none, beq_iff_eq] at tested
  obtain ⟨⟨⟨did, quiet⟩, unconnected⟩, names⟩ := tested
  obtain ⟨thread, member, finished, request, result, happened⟩ := hasDone_iff did
  have stopped : Stopped 6 first := ⟨.toggledOff member finished request names happened, runs.quiet quiet⟩
  have step : ∃ after, Step first (.start (.serve (.connect 1))) after :=
    ⟨_, .start (by simp only [accept, unconnected, Option.map_some]; rfl)⟩
  obtain ⟨after, step⟩ := step
  have idle : (unstarted 6).condition first (.start (.serve (.connect 1))) := trivial
  exact ⟨first, after, stopped, step, stopped_hushed runs stopped .refl idle step⟩

/-- Alice's tunnel is switched off while a client's connection is open; the
client sends, and its data goes to the agent. -/
theorem stopped_traffic :
    ¬ ∀ (first before after : Config process) (action : Action process),
      Runs anyStep (10000, 60000) first → TakenDown 6 first →
      Steps (unstarted 6).condition first before → (unstarted 6).condition before action →
      Step before action after → Hushed 6 before.state after.state := by
  have passed : (process.follow (fun _ _ _ _ => true) 200 (works 0 (tunnelOpened ++ proxied
      [.check 0, .accept 0 1000, .register 0] ++
      [(.serve (.toggleTunnel (uuidToString 6)), answer 0 0)] ++ proxied [.cancel 0]))
      ⟨newProcess, []⟩).any (fun first => (process.follow (unstarted 6) 200
        (works 10 (proxied [.arrive 1000 [1], .read 1000 1])) first).any fun before =>
          hasDone (.toggleTunnel (uuidToString 6)) (.db (.setTunnelEnabled (uuidToString 6) false)) first &&
            parseUuid (uuidToString 6) == some 6 &&
            (before.state.proxies.connections 1000).any fun connection => connection.tunnelId == 6 &&
              connection.transport == .tcp && connection.stage == .forwarding [1] &&
              !before.state.proxies.closed connection.agentSender) = true := by decide +kernel
  obtain ⟨first, before, runs, steps, tested⟩ := newProcess_follows passed
  simp only [Bool.and_eq_true, beq_iff_eq] at tested
  obtain ⟨⟨did, names⟩, alive⟩ := tested
  obtain ⟨thread, member, finished, request, result, happened⟩ := hasDone_iff did
  obtain ⟨connection, there, facts⟩ := (Option.any_eq_true _ _).mp alive
  simp only [Bool.and_eq_true, beq_iff_eq, Bool.not_eq_true'] at facts
  obtain ⟨⟨⟨of, tcp⟩, stage⟩, hears⟩ := facts
  obtain ⟨after, step, loud⟩ := unhushed there of tcp stage hears
  have idle : (unstarted 6).condition before (.start (.proxy (.forward 1000))) := trivial
  intro always
  exact loud (always first before after _ runs (.toggledOff member finished request names happened) steps
    idle step)

end TunnelitRelay
