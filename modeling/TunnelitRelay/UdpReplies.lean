import TunnelitRelay.UdpFlows

namespace TunnelitRelay

open Concurrent

/-! # The answers to the clients of a UDP listener

A payload for a client is queued, passed on to the inbox of the listener, taken
from it and sent.  It is queued only while the connection is in the map, where
the client's forwarder task puts it once.
-/

/-- The values kept under one key. -/
def valuesOf {α β : Type} [BEq α] (entries : List (α × β)) (key : α) : List β :=
  (entries.filter (·.1 == key)).map Prod.snd

/-- What the task of a UDP client has passed on to the listener task. -/
def Process.passed (state : Process) (task : Nat) (connId : Uuid) : List (List UInt8) :=
  match state.proxies.connections connId with
  | some connection =>
      if connection.transport = .udp ∧ connection.listener = task then
        (state.world.queued connId).take connection.taken
      else []
  | none => []

/-- What the listener has sent for a connection. -/
def Socket.answers (socket : Socket) (connId : Uuid) : List (List UInt8) :=
  valuesOf (socket.sent.map fun (client, _, data) => (client, data)) connId

/-- What the listener has taken from its inbox for a connection and not yet sent. -/
def ListenerStage.reply (connId : Uuid) : ListenerStage → List (List UInt8)
  | .replying client _ data => if client = connId then [data] else []
  | _ => []

/-- What the listener holds for a connection. -/
def Listener.holds (listener : Listener) (connId : Uuid) : List (List UInt8) :=
  listener.stage.reply connId ++ valuesOf listener.inbox connId

/-- Nothing passed on to the listener task is lost or added. -/
def Conserved (state : Process) (task : Nat) : Prop :=
  ∀ listener socket, state.proxies.listeners task = some listener → state.proxies.sockets task = some socket →
    ∀ connId, socket.answers connId ++ listener.holds connId = state.passed task connId

section Conservation

variable [Externals] {state : Process} {world : World} {proxies : Proxies} {action : ProxyAction}
  {task acting : Nat} {listener : Listener} {connId : Uuid}

omit [Externals] in
theorem passed_setConnection {other : Uuid} {connection later : Connection}
    (known : proxies.connections other = some connection) (alike : connection.Alike later)
    (taken : later.taken = connection.taken ∨ later.transport = .tcp) :
    Process.passed ⟨world, proxies.setConnection other later⟩ task connId =
      Process.passed ⟨world, proxies⟩ task connId := by
  by_cases here : connId = other
  · subst here
    rcases taken with taken | tcp
    · simp [Process.passed, Proxies.setConnection, known, alike.transport, alike.listener, taken]
    · simp [Process.passed, Proxies.setConnection, known, tcp, alike.transport.symm.trans tcp]
  · simp [Process.passed, Proxies.setConnection, Function.update_of_ne here]

omit [Externals] in
theorem passed_insert {other : Uuid} {connection : Connection} (absent : proxies.connections other = none)
    (fresh : connection.taken = 0) :
    Process.passed ⟨world, proxies.setConnection other connection⟩ task connId =
      Process.passed ⟨world, proxies⟩ task connId := by
  by_cases here : connId = other
  · subst here
    simp [Process.passed, Proxies.setConnection, absent, fresh]
  · simp [Process.passed, Proxies.setConnection, Function.update_of_ne here]

omit [Externals] in
theorem passed_queued {later : World} (queued : later.queued = world.queued) :
    Process.passed ⟨later, proxies⟩ task connId = Process.passed ⟨world, proxies⟩ task connId := by
  simp only [Process.passed, queued]

omit [Externals] in
theorem offer_queued {sender : Channel} {message : RelayMessage} :
    (world.offer proxies sender message).queued = world.queued := by
  unfold World.offer
  split <;> rfl

omit [Externals] in
/-- The task of a client passes one payload on. -/
theorem passed_passOn {other : Uuid} {connection : Connection} {data : List UInt8}
    (known : proxies.connections connId = some connection) (udp : connection.transport = .udp)
    (next : (world.queued connId)[connection.taken]? = some data) :
    Process.passed ⟨world, proxies.setConnection connId { connection with taken := connection.taken + 1 }⟩
      task other = Process.passed ⟨world, proxies⟩ task other ++
        if connId = other ∧ connection.listener = task then [data] else [] := by
  by_cases here : connId = other
  · subst here
    by_cases own : connection.listener = task
    · simp [Process.passed, Proxies.setConnection, known, udp, own, List.take_add_one, next]
    · simp [Process.passed, Proxies.setConnection, known, own]
  · simp [Process.passed, Proxies.setConnection, Function.update_of_ne (Ne.symm here), here]

/-- No action of a listener passes a payload on to any. -/
theorem Process.Sound.passed_listen (sound : state.Sound)
    (performed : state.proxies.listen state.world acting listener action = some (world, proxies)) :
    Process.passed ⟨world, proxies⟩ task connId = state.passed task connId := by
  have absent {other : Uuid} (new : other ∉ state.world.drawn) : state.proxies.connections other = none :=
    congrArg View.connection (sound.fresh other new)
  unfold Proxies.listen at performed
  split at performed <;> (repeat' split at performed) <;> cases performed
  all_goals first
    | rfl
    | rename_i known
      exact passed_setConnection known ⟨rfl, rfl, rfl, rfl, rfl⟩ (.inl rfl)
    | rename_i ready _
      exact (passed_insert (absent ready.2.2) rfl).trans (passed_queued offer_queued)
    | rename_i new
      exact (passed_insert (absent new) rfl).trans (passed_queued offer_queued)
    | exact passed_queued offer_queued

omit [Externals] in
/-- What the listener holds for its clients comes from their tasks. -/
theorem Conserved.client (conserved : Conserved state task) (listener : Listener) {socket : Socket}
    (there : state.proxies.listeners task = some listener) (bound : state.proxies.sockets task = some socket)
    {data : List UInt8} (held : data ∈ listener.holds connId) : state.proxies.serves task connId = true := by
  have passed := conserved listener socket there bound connId
  have member : data ∈ state.passed task connId := passed ▸ List.mem_append_right _ held
  unfold Process.passed at member
  split at member
  · rename_i connection known
    split at member
    · rename_i own
      rw [serves_of known]
      simp [own]
    · contradiction
  · contradiction

omit [Externals] in
theorem valuesOf_append {α β : Type} [BEq α] {left right : List (α × β)} {key : α} :
    valuesOf (left ++ right) key = valuesOf left key ++ valuesOf right key := by
  simp [valuesOf]

omit [Externals] in
theorem Socket.answers_send {socket : Socket} {client : Uuid} {addr : SocketAddr} {data : List UInt8} :
    (socket.send client addr data).answers connId =
      socket.answers connId ++ ListenerStage.reply connId (.replying client addr data) := by
  simp only [Socket.answers, Socket.send, List.map_append, valuesOf_append, ListenerStage.reply]
  by_cases here : client = connId <;> simp [valuesOf, here]

/-- What a listener has sent and what it holds stays the same. -/
theorem Conserved.answers (conserved : Conserved state task) (there : state.proxies.listeners task = some listener)
    {before socket : Socket} {later : Listener} (bound : state.proxies.sockets task = some before)
    (carries : ∃ flows, (state.flow task).Carries state.proxies.closed before flows)
    (performed : state.proxies.listen state.world task listener action = some (world, proxies))
    (after : proxies.listeners task = some later) (opened : proxies.sockets task = some socket) :
    socket.answers connId ++ later.holds connId = before.answers connId ++ listener.holds connId := by
  have idle {later : Listener} {socket : Socket} (sent : socket.sent = before.sent)
      (inbox : later.inbox = listener.inbox) (now : later.stage.reply connId = [])
      (was : listener.stage.reply connId = []) :
      socket.answers connId ++ later.holds connId = before.answers connId ++ listener.holds connId := by
    simp only [Socket.answers, Listener.holds, sent, inbox, now, was]
  unfold Proxies.listen at performed
  split at performed <;> (repeat' split at performed) <;> cases performed
  all_goals
    simp only [Proxies.record, Proxies.setConnection, Proxies.setListener, Function.update_self,
      Option.some.injEq, reduceCtorEq, bound, Option.map_some] at after opened
  all_goals
    subst after
    subst opened
  · rename_i stage _
    exact idle rfl rfl rfl (by rw [stage]; rfl)
  · rename_i stage
    exact idle rfl rfl rfl (by rw [stage]; rfl)
  · rename_i ready _
    exact idle rfl rfl rfl (by rw [ready.2.1]; rfl)
  · rename_i stage _ _ _
    exact idle rfl rfl rfl (by rw [stage]; rfl)
  · rename_i ready _ _ _ _
    exact idle rfl rfl rfl (by rw [ready.2]; rfl)
  · rename_i ready _ _ _
    exact idle rfl rfl rfl (by rw [ready.2]; rfl)
  · rename_i stage
    exact idle rfl rfl rfl (by rw [stage]; rfl)
  · rename_i ready _ client data rest inbox _ _ addr _
    have taken : ListenerStage.reply connId (.replying client addr data) ++ valuesOf rest connId =
        valuesOf listener.inbox connId := by
      rw [inbox, ListenerStage.reply]
      by_cases here : client = connId <;> simp [valuesOf, here]
    rw [Listener.holds, Listener.holds, ready.2, taken]
    rfl
  · -- The listener knows the clients its inbox is filled for.
    rename_i ready _ client data rest inbox _ missing
    obtain ⟨flows, carries⟩ := carries
    obtain ⟨_, _, _, conns, _⟩ := carries.live listener there
    have held : data ∈ listener.holds client := by simp [Listener.holds, inbox, valuesOf]
    have served := (carries.serves client).mp (conserved.client listener there bound held)
    obtain ⟨entry, member, rfl⟩ := List.mem_map.mp served
    exact absurd (List.find?_eq_none.mp missing entry.swap (conns ▸ List.mem_map.mpr ⟨entry, member, rfl⟩))
      (by simp)
  · rename_i stage _ _ _
    rw [Socket.answers_send, Listener.holds, Listener.holds, stage, List.append_assoc]
    rfl

theorem Proxies.listen_sockets (performed : state.proxies.listen state.world acting listener action =
    some (world, proxies)) (elsewhere : task ≠ acting) : proxies.sockets task = state.proxies.sockets task := by
  unfold Proxies.listen at performed
  split at performed <;> (repeat' split at performed) <;> cases performed
  all_goals first
    | rfl
    | exact Function.update_of_ne elsewhere ..

theorem Conserved.listen (conserved : Conserved state task) (sound : state.Sound)
    (carried : (state.flow task).Carried state.proxies.closed)
    (there : state.proxies.listeners acting = some listener)
    (performed : state.proxies.listen state.world acting listener action = some (world, proxies)) :
    Conserved ⟨world, proxies⟩ task := by
  intro later socket after bound other
  rw [sound.passed_listen performed]
  by_cases here : task = acting
  · subst here
    obtain ⟨before, opened⟩ := Option.isSome_iff_exists.mp (carried.1 (by
      rw [show (state.flow task).listener = some listener from there]; rfl))
    rw [← conserved listener before there opened other]
    exact conserved.answers there opened (carried.2 before opened) performed after bound
  · obtain ⟨next, listeners, _⟩ := Proxies.listen_listeners performed
    refine conserved later socket ?_ ?_ other
    · rwa [listeners, Function.update_of_ne here] at after
    · rwa [Proxies.listen_sockets performed here] at bound

omit [Externals] in
theorem Conserved.serveUdp {connection : Connection} (conserved : Conserved state task)
    (known : state.proxies.connections connId = some connection) (udp : connection.transport = .udp)
    (performed : state.proxies.serveUdp state.world connId connection action = some (world, proxies)) :
    Conserved ⟨world, proxies⟩ task := by
  unfold Proxies.serveUdp at performed
  split at performed <;> (repeat' split at performed) <;> cases performed
  · intro listener socket there bound other
    refine (conserved listener socket there bound other).trans (Eq.symm ?_)
    exact passed_setConnection known ⟨rfl, rfl, rfl, rfl, rfl⟩ (.inl rfl)
  · rename_i data next _ listener there
    intro later socket after bound other
    refine Eq.trans ?_ (passed_passOn known udp next).symm
    rcases update_cases after with ⟨rfl, ⟨⟩⟩ | ⟨elsewhere, old⟩
    · have before := conserved listener socket there bound other
      rw [show Process.passed ⟨state.world, state.proxies⟩ connection.listener other = _ from before.symm]
      by_cases here : connId = other <;> simp [Listener.holds, valuesOf, here]
    · rw [if_neg fun own => elsewhere own.2.symm, List.append_nil]
      exact conserved later socket old bound other
  · rename_i data next _ unserved
    intro later socket there bound other
    refine Eq.trans ?_ (passed_passOn known udp next).symm
    have elsewhere : connection.listener ≠ task := fun same => by
      rw [same] at unserved
      exact absurd (there.symm.trans unserved) (by simp)
    rw [if_neg fun own => elsewhere own.2, List.append_nil]
    exact conserved later socket there bound other
  · intro listener socket there bound other
    refine (conserved listener socket there bound other).trans (Eq.symm ?_)
    exact passed_setConnection known ⟨rfl, rfl, rfl, rfl, rfl⟩ (.inl rfl)

theorem Conserved.perform (conserved : Conserved state task) (sound : state.Sound)
    (carried : (state.flow task).Carried state.proxies.closed)
    (performed : state.proxies.perform state.world action = some (world, proxies)) :
    Conserved ⟨world, proxies⟩ task := by
  have same (listeners : proxies.listeners = state.proxies.listeners)
      (sockets : proxies.sockets = state.proxies.sockets)
      (passed : ∀ connId, Process.passed ⟨world, proxies⟩ task connId = state.passed task connId) :
      Conserved ⟨world, proxies⟩ task := by
    intro listener socket there bound connId
    rw [passed]
    exact conserved listener socket (listeners ▸ there) (sockets ▸ bound) connId
  unfold Proxies.perform at performed
  split at performed
  · cases performed
    exact same rfl rfl fun _ => rfl
  · split at performed
    · split at performed
      · rename_i there
        exact conserved.listen sound carried there performed
      · contradiction
    · split at performed
      · split at performed
        · rename_i connection known
          split at performed
          · rename_i tcp
            unfold Proxies.serveTcp at performed
            split at performed <;> (repeat' split at performed) <;> cases performed
            all_goals first
              | exact same rfl rfl fun _ => passed_setConnection known ⟨rfl, rfl, rfl, rfl, rfl⟩ (.inr tcp)
              | exact same rfl rfl fun _ =>
                  (passed_queued offer_queued).trans
                    (passed_setConnection known ⟨rfl, rfl, rfl, rfl, rfl⟩ (.inr tcp))
          · rename_i udp
            exact conserved.serveUdp known udp performed
        · contradiction
      · contradiction

/-- No more has been taken of a queue than was put there. -/
def View.Bounded (view : View) : Prop :=
  ∀ connection, view.connection = some connection → connection.transport = .udp →
    connection.taken ≤ view.queue.length

theorem View.Bounded.step {before after : View} {closed : Channel → Bool} {old drawn : List Uuid}
    {label : Option ProxyAction} (bounded : before.Bounded)
    (step : View.Step closed old drawn connId label before after) : after.Bounded := by
  intro connection there udp
  cases step with
  | same | unregistered => exact bounded connection there udp
  | enqueued =>
      have short := bounded connection there udp
      rw [List.length_append]
      omega
  | rebooted => contradiction
  | announced | unannounced =>
      cases there
      exact Nat.zero_le _
  | passedOn _ _ next =>
      cases there
      exact next
  | registered known | replied known | retired known =>
      cases there
      have short := bounded _ known udp
      exact short
  | datagram known => exact bounded connection there udp
  | dropped _ tcp | arrived _ tcp | finished _ tcp | read _ tcp | leftEof _ tcp | leftError _ tcp
  | leftUnsent _ tcp | forwarded _ tcp | took _ tcp | wrote _ tcp | leftUnwritten _ tcp | closed _ tcp
  | closedUnheard _ tcp | removed _ tcp =>
      cases there
      rw [show _ = Transport.tcp from tcp] at udp
      contradiction

theorem passed_called {choice : Choice} {op : Op} {result : op.Result}
    (executed : exec state.world choice op = some (world, result))
    (bounded : ∀ connId, (state.view connId).Bounded) :
    Process.passed ⟨world, state.proxies.after state.world op⟩ task connId = state.passed task connId := by
  simp only [Process.passed, Proxies.after_connections]
  split
  · rename_i connection known
    split
    · rename_i own
      have short := bounded connId connection known own.1
      have queued := exec_queued executed
      cases op with
      | enqueueData other data =>
          rw [queued]
          dsimp only
          split
          · by_cases here : connId = other
            · subst here
              rw [Function.update_self]
              exact List.take_append_of_le_length short
            · rw [Function.update_of_ne here]
          · rfl
      | _ => rw [queued]
    · rfl
  · rfl

omit [Externals] in
theorem Proxies.after_sockets {op : Op} (numbered : task ≠ world.spawned) :
    (proxies.after world op).sockets task = proxies.sockets task := by
  unfold Proxies.after
  split
  · exact Function.update_of_ne numbered ..
  · split <;> rfl
  · rfl

theorem Conserved.called {choice : Choice} {op : Op} {result : op.Result} (conserved : Conserved state task)
    (sound : state.Sound) (bounded : ∀ connId, (state.view connId).Bounded)
    (executed : exec state.world choice op = some (world, result)) :
    Conserved ⟨world, state.proxies.after state.world op⟩ task := by
  intro later socket there bound connId
  rw [passed_called executed bounded]
  rcases Proxies.after_listeners there with ⟨transport, port, tunnelId, agentId, sender, rfl, rfl, rfl⟩ |
    ⟨listener, known, same, _⟩
  · simp only [Proxies.after, Proxies.record, Function.update_self, Option.some.injEq] at bound
    subst bound
    have none : state.passed state.world.spawned connId = [] := by
      unfold Process.passed
      split
      · rename_i connection known
        rw [if_neg fun own => absurd (sound.spawned connId connection known) (by omega)]
      · rfl
    rw [none]
    rfl
  · have numbered := sound.numbered task listener known
    rw [Proxies.after_sockets (Nat.ne_of_lt numbered)] at bound
    rw [same]
    exact conserved listener socket known bound connId

theorem Process.Change.conserved {label : Option ProxyAction} {later : Process}
    (change : Process.Change label state later) (sound : state.Sound)
    (bounded : ∀ connId, (state.view connId).Bounded) (carried : (state.flow task).Carried state.proxies.closed)
    (conserved : Conserved state task) : Conserved later task := by
  cases change with
  | same | accepted => exact conserved
  | called executed => exact conserved.called sound bounded executed
  | performed performed => exact conserved.perform sound carried performed
  | rebooted => exact fun _ _ there => by contradiction

end Conservation

/-! ## Runs -/

section Runs

variable [Externals] {portRange : UInt16 × UInt16} {allowed : Condition process} {config : Config process}
  {connId : Uuid}

theorem Runs.conserved (runs : Runs allowed portRange config) (task : Nat) : Conserved config.state task := by
  refine @Reachable.induct _ process allowed (fun config => Conserved config.state task) _ _
    (fun _ _ there => by contradiction) ?_ runs
  intro before action after earlier conserved _ step
  have bounded (connId : Uuid) : (before.state.view connId).Bounded :=
    Runs.always (fun _ there => by contradiction) (fun bounded step => bounded.step step) earlier
  exact (Step.change (Runs.lawful earlier) step).conserved (Runs.sound earlier) bounded
    (Runs.carried earlier task) conserved

/-- The session a task serves a frame of. -/
def Work.session : Work → Option SessionId
  | .serve (.frame session _) => some session
  | _ => none

/-- The agent of the connection closes it. -/
def agentCloses (connId : Uuid) : Check process := fun config thread _ op =>
  op == .removeConnSender connId && (config.state.proxies.connections connId).any fun connection =>
    thread.job.session == some connection.agentSender

/-- Only its own agent closes a UDP connection. -/
def closesOwn : Check process := fun config thread choice op =>
  match op with
  | .removeConnSender connId => (config.state.proxies.connections connId).all fun connection =>
      connection.transport == .tcp || agentCloses connId config thread choice op
  | _ => true

/-- A datagram is passed to the agent only for a connection that is in the map. -/
def forwardsRegistered (config : Config process) : ProxyAction → Bool
  | .forwardDatagram task => (config.state.proxies.listeners task).all fun listener =>
      match listener.stage with
      | .forwarding connId _ => config.state.world.tcpConnSenders connId
      | _ => true
  | _ => true

/-- The condition under which UDP clients stay answerable. -/
def answerable : Condition process := fun config action =>
  onProxy forwardsRegistered config action ∧ closesOwn.condition config action

/-- Payloads for the connection are queued, and sent to the address when their turn comes. -/
structure Answered (state : Process) (task : Nat) (connId : Uuid) (addr : SocketAddr) : Prop where
  registered : state.world.tcpConnSenders connId = true
  /-- While the listener lives, every payload queued has been sent to the address
  or is on its way. -/
  delivered : ∀ listener, state.proxies.listeners task = some listener →
    ∃ connection socket onTheWay, state.proxies.connections connId = some connection ∧
      state.proxies.sockets task = some socket ∧
      state.world.queued connId = socket.answers connId ++ onTheWay ∧
      (listener.holds connId = [] → connection.taken = (state.world.queued connId).length → onTheWay = []) ∧
      ∀ client data, (connId, client, data) ∈ socket.sent → client = addr

theorem View.Step.stays {before after : View} {closed : Channel → Bool} {old drawn : List Uuid}
    {action : ProxyAction} {connection : Connection}
    (step : View.Step closed old drawn connId (some action) before after)
    (known : before.connection = some connection) (udp : connection.transport = .udp)
    (registered : before.registered = true) : after.registered = true := by
  cases step with
  | removed there tcp =>
      obtain rfl := Option.some.inj (known.symm.trans there)
      rw [udp] at tcp
      contradiction
  | registered => rfl
  | announced | unannounced => contradiction
  | _ => exact registered

theorem Flow.Step.kept {closed : Channel → Bool} {flow after : Flow} {later : Listener} {addr : SocketAddr}
    (step : Flow.Step closed flow after) (served : flow.serves connId = true)
    (client : ∀ listener, flow.listener = some listener → (addr, connId) ∈ listener.addrToConn)
    (there : after.listener = some later) : (addr, connId) ∈ later.addrToConn := by
  cases step with
  | same => exact client later there
  | rebooted | ended => contradiction
  | spawned unserved =>
      rw [unserved] at served
      contradiction
  | moved known _ _ addrs =>
      cases there
      rw [addrs]
      exact client _ known
  | received known | replied known =>
      cases there
      have member := client _ known
      exact member
  | introduced known =>
      rw [Flow.tell_eq] at there
      cases there
      exact List.mem_cons_of_mem _ (client _ known)
  | forwarded known =>
      rw [Flow.tell_eq] at there
      cases there
      have member := client _ known
      exact member

/-- A connection keeps the values it was accepted with, unless the process is restarted. -/
theorem View.Step.alike {before after : View} {closed : Channel → Bool} {old drawn : List Uuid}
    {label : Option ProxyAction} {connection : Connection}
    (step : View.Step closed old drawn connId label before after)
    (known : before.connection = some connection) :
    after.connection = .none ∨ ∃ later, after.connection = some later ∧ connection.Alike later := by
  cases step with
  | same | enqueued | unregistered | datagram => exact .inr ⟨connection, known, rfl, rfl, rfl, rfl, rfl⟩
  | rebooted => exact .inl rfl
  | announced | unannounced => contradiction
  | registered there | dropped there | arrived there | finished there | read there | leftEof there
  | leftError there | leftUnsent there | forwarded there | took there | wrote there | leftUnwritten there
  | closed there | closedUnheard there | removed there | replied there | passedOn there | retired there =>
      obtain rfl := Option.some.inj (known.symm.trans there)
      exact .inr ⟨_, rfl, rfl, rfl, rfl, rfl, rfl⟩

theorem View.Step.absent {before after : View} {closed : Channel → Bool} {old drawn : List Uuid}
    {label : Option ProxyAction} (step : View.Step closed old drawn connId label before after)
    (absent : before.connection = .none) (known : connId ∈ old) : after.connection = .none := by
  cases step with
  | same | enqueued | unregistered => exact absent
  | rebooted => rfl
  | announced new | unannounced new => contradiction
  | registered there | dropped there | arrived there | finished there | read there | leftEof there
  | leftError there | leftUnsent there | forwarded there | took there | wrote there | leftUnwritten there
  | closed there | closedUnheard there | removed there | datagram there | replied there | passedOn there
  | retired there =>
      rw [absent] at there
      contradiction

/-- The client keeps its connection and its place in the map. -/
def Kept (state : Process) (task : Nat) (connId : Uuid) (addr : SocketAddr) : Prop :=
  state.proxies.connections connId = none ∧ connId ∈ state.world.drawn ∨
    state.proxies.serves task connId = true ∧ state.world.tcpConnSenders connId = true ∧
      ∀ listener, state.proxies.listeners task = some listener → (addr, connId) ∈ listener.addrToConn

/-- A UDP connection is taken out of the map only by a call of its agent. -/
theorem registered_kept {before after : Config process} {action : Action process} {connection : Connection}
    (runs : Runs allowed portRange before) (known : before.state.proxies.connections connId = some connection)
    (udp : connection.transport = .udp) (registered : before.state.world.tcpConnSenders connId = true)
    (own : closesOwn.condition before action)
    (unclosed : Check.condition (fun config thread choice op => !agentCloses connId config thread choice op)
      before action) (step : Step before action after) (stays : after.state.proxies.connections connId ≠ none) :
    after.state.world.tcpConnSenders connId = true := by
  have view := (Runs.follows runs step).views connId
  cases step with
  | @start job state admitted =>
      cases job with
      | serve job =>
          obtain ⟨world, accepted, rfl⟩ := Option.map_eq_some_iff.mp admitted
          obtain ⟨sessions, rfl⟩ := accept_same accepted
          exact registered
      | proxy action => exact view.stays known udp registered
  | @call task thread op next choice state result found head executed =>
      obtain ⟨⟨world, answer⟩, executed', same⟩ := Option.map_eq_some_iff.mp executed
      cases same
      rw [exec_tcpConnSenders executed']
      have closes := own thread op next found head
      have open' := unclosed thread op next found head
      cases op with
      | removeConnSender other =>
          by_cases here : connId = other
          · subst here
            simp only [closesOwn, known, Option.all_some, udp] at closes
            rw [Bool.or_eq_true] at closes
            rcases closes with tcp | closes
            · contradiction
            · simp only [closes, Bool.not_true] at open'
              contradiction
          · exact (Function.update_of_ne here ..).trans registered
      | _ => exact registered
  | acquire | release => exact registered
  | reboot => exact absurd rfl stays

theorem Kept.step {before after : Config process} {action : Action process} {task : Nat} {addr : SocketAddr}
    (kept : Kept before.state task connId addr) (runs : Runs allowed portRange before)
    (own : closesOwn.condition before action)
    (unclosed : Check.condition (fun config thread choice op => !agentCloses connId config thread choice op)
      before action) (step : Step before action after) : Kept after.state task connId addr := by
  have follows := Runs.follows runs step
  have view := follows.views connId
  rcases kept with ⟨absent, drawn⟩ | ⟨served, registered, client⟩
  · exact .inl ⟨view.absent absent drawn, follows.drawn drawn⟩
  · obtain ⟨connection, known, own'⟩ := (Option.any_eq_true _ _).mp served
    simp only [Bool.and_eq_true, beq_iff_eq] at own'
    rcases view.alike known with gone | ⟨later, there, alike⟩
    · exact .inl ⟨gone, follows.drawn (Runs.drawn runs known)⟩
    · refine .inr ⟨?_, ?_, fun listener serving => ?_⟩
      · rw [serves_of there, alike.transport, alike.listener]
        simp [own']
      · refine registered_kept runs known own'.1 registered own unclosed step fun gone => ?_
        exact absurd (gone.symm.trans there) (by simp)
      · have change := Step.change (Runs.lawful runs) step
        have flow := @Process.Change.flow _ task _ _ _ change (Runs.sound runs) (.of_carried (Runs.carried runs))
        exact flow.kept served client serving

theorem Kept.answered {task : Nat} {addr : SocketAddr} (kept : Kept config.state task connId addr)
    (runs : Runs allowed portRange config) (remains : config.state.proxies.connections connId ≠ none) :
    Answered config.state task connId addr := by
  rcases kept with ⟨absent, _⟩ | ⟨served, registered, client⟩
  · exact absurd absent remains
  · refine ⟨registered, fun listener serving => ?_⟩
    obtain ⟨connection, known, own⟩ := (Option.any_eq_true _ _).mp served
    simp only [Bool.and_eq_true, beq_iff_eq] at own
    obtain ⟨bound, carries⟩ := Runs.carried runs task
    obtain ⟨socket, opened⟩ := Option.isSome_iff_exists.mp
      (bound (by rw [show (config.state.flow task).listener = some listener from serving]; rfl))
    obtain ⟨flows, carries⟩ := carries socket opened
    obtain ⟨_, _, addrs, _⟩ := carries.live listener serving
    have passed := Runs.conserved runs task listener socket serving opened connId
    simp only [Process.passed, known, own, and_self, if_true] at passed
    refine ⟨connection, socket, listener.holds connId ++ (config.state.world.queued connId).drop connection.taken,
      known, opened, ?_, ?_, ?_⟩
    · rw [← List.append_assoc, passed, List.take_append_drop]
    · intro idle all
      rw [idle, all, List.drop_length]
      rfl
    · intro other data member
      have own' : (addr, connId) ∈ flows := addrs ▸ client listener serving
      have same := List.inj_on_of_nodup_map carries.conns (carries.sent connId other data member) own' rfl
      exact congrArg Prod.fst same

theorem Kept.steps {first last : Config process} {task : Nat} {addr : SocketAddr}
    (kept : Kept first.state task connId addr) (runs : Runs answerable portRange first)
    (steps : Steps (fun config action => answerable config action ∧
      Check.condition (fun config thread choice op => !agentCloses connId config thread choice op) config action)
      first last) : Runs answerable portRange last ∧ Kept last.state task connId addr := by
  induction steps with
  | refl => exact ⟨runs, kept⟩
  | tail _ next ih =>
      obtain ⟨action, ⟨answers, unclosed⟩, step⟩ := next
      obtain ⟨earlier, kept⟩ := ih
      exact ⟨.tail earlier ⟨action, answers, step⟩, kept.step earlier answers.2 unclosed step⟩

end Runs

/-- Moves of tasks in which no agent closes the connection. -/
def leavesOpen (connId : Uuid) : Check process := fun config thread choice op =>
  closesOwn config thread choice op && !agentCloses connId config thread choice op

theorem served_open {connId : Uuid} {turns : List (Turn process)} {before after : Config process}
    (followed : process.follow (leavesOpen connId) 200 turns before = some after)
    (serving : turns.all serves = true) :
    Steps (fun config action => answerable config action ∧
      Check.condition (fun config thread choice op => !agentCloses connId config thread choice op) config action)
      before after := by
  refine follow_serving followed serving ?_ fun _ _ => ⟨⟨trivial, trivial⟩, trivial⟩
  rintro config action ⟨checked, running⟩
  obtain ⟨own, unclosed⟩ := Check.condition_and checked
  refine ⟨⟨?_, own⟩, unclosed⟩
  unfold onProxy
  split
  · exact absurd rfl (running.1 _)
  · trivial

theorem acted_open {connId : Uuid} {actions : List ProxyAction} {before after : Config process}
    (acted : actAll forwardsRegistered actions before = some after) :
    Steps (fun config action => answerable config action ∧
      Check.condition (fun config thread choice op => !agentCloses connId config thread choice op) config action)
      before after :=
  actAll_allowed acted fun _ _ permitted => ⟨⟨permitted, trivial⟩, trivial⟩

end TunnelitRelay
