import TunnelitRelay.AgentClose
import TunnelitRelay.ListenerTasks

namespace TunnelitRelay

open Concurrent

/-! # What is left of a connection

The task of a TCP connection announces its close and takes the connection out
of the map when it ends.  A connection that has no task yet, and every client of
a UDP listener, is dropped with its listener and leaves both undone.
-/

section Runs

variable [Externals] {connId : Uuid} {portRange : UInt16 × UInt16}

/-! ## The channel of a connection -/

/-- Messages about a connection are on its agent's channel only. -/
structure View.Placed (view : View) : Prop where
  unused : view.connection = Option.none → view.messages = fun _ => []
  own : ∀ connection, view.connection = some connection → ∀ channel, channel ≠ connection.agentSender →
    view.messages channel = []

omit [Externals] in
theorem View.Placed.set {view : View} {connection later : Connection} (placed : view.Placed)
    (there : view.connection = some connection) (same : later.agentSender = connection.agentSender) :
    (view.set later).Placed := by
  refine ⟨fun absent => by contradiction, fun found known channel other => ?_⟩
  cases known
  exact placed.own connection there channel (same ▸ other)

omit [Externals] in
theorem View.Placed.tell {view : View} {connection : Connection} {message : RelayMessage}
    (placed : view.Placed) (there : view.connection = some connection) :
    (view.tell connection.agentSender message).Placed := by
  refine ⟨fun absent => absurd (there.symm.trans absent) (by simp), fun found known channel other => ?_⟩
  obtain rfl := Option.some.inj (there.symm.trans known)
  exact (Function.update_of_ne other ..).trans (placed.own connection there channel other)

theorem View.Placed.step {before after : View} {closed : Channel → Bool} {old drawn : List Uuid}
    {label : Option ProxyAction} (placed : before.Placed)
    (step : View.Step closed old drawn connId label before after) : after.Placed := by
  cases step with
  | same => exact placed
  | enqueued | unregistered => exact ⟨placed.unused, placed.own⟩
  | rebooted => exact ⟨fun _ => rfl, fun _ known => by contradiction⟩
  | @announced _ listener task =>
      refine @View.Placed.tell _ (listener.accepted task) _ ⟨fun absent => by contradiction, ?_⟩ rfl
      exact fun _ _ _ _ => rfl
  | unannounced => exact ⟨fun absent => by contradiction, fun _ _ _ _ => rfl⟩
  | @registered _ connection _ there =>
      obtain ⟨unused, own⟩ := @View.Placed.set before connection { connection with stage := .selecting }
        placed there rfl
      exact ⟨unused, own⟩
  | @removed connection _ there =>
      obtain ⟨unused, own⟩ := @View.Placed.set before connection { connection with stage := .ended }
        placed there rfl
      exact ⟨unused, own⟩
  | @forwarded connection _ _ there =>
      have moved := @View.Placed.set before connection { connection with stage := .selecting } placed there rfl
      exact @View.Placed.tell _ { connection with stage := .selecting } _ moved rfl
  | @closed connection _ there =>
      have moved := @View.Placed.set before connection { connection with stage := .removing } placed there rfl
      exact @View.Placed.tell _ { connection with stage := .removing } _ moved rfl
  | datagram there => exact placed.tell there
  | dropped there | arrived there | finished there | read there | leftEof there | leftError there
  | leftUnsent there | took there | wrote there | leftUnwritten there | closedUnheard there
  | replied there | passedOn there | retired there => exact placed.set there rfl

theorem Runs.placed {allowed : Condition process} {config : Config process}
    (runs : Runs allowed portRange config) : (config.state.view connId).Placed :=
  Runs.always ⟨fun _ => rfl, fun _ known => by contradiction⟩ (fun placed step => placed.step step) runs

/-! ## Connections without a task -/

/-- The TCP stream, or the proxy task of the UDP client, exists no longer. -/
def Taskless (state : Process) (connection : Connection) : Prop :=
  match connection.transport with
  | .tcp => connection.stage = .ended
  | .udp => state.proxies.listeners connection.listener = none

/-- A listener is dropped only while it has no UDP clients and is not about to
register a TCP connection. -/
def dropsNoClient (state : Process) : ProxyAction → Bool
  | .cancel task => (state.proxies.listeners task).all fun listener =>
      match listener.stage with
      | .registering _ => false
      | _ => listener.addrToConn.isEmpty
  | _ => true

/-- What a TCP connection has told its open agent when it is about to end, and
that it is out of the map when it has. -/
def View.Closed (connId : Uuid) (closed : Channel → Bool) (view : View) : Prop :=
  ∀ connection, view.connection = some connection → connection.transport = .tcp →
    closed connection.agentSender = false →
      (connection.stage = .removing ∨ connection.stage = .ended →
        .closeConnection connId ∈ view.messages connection.agentSender) ∧
      (connection.stage = .ended → view.registered = false)

/-- A UDP client of an open agent has a listener. -/
def Attached (state : Process) : Prop :=
  ∀ connId connection, state.proxies.connections connId = some connection → connection.transport = .udp →
    state.proxies.closed connection.agentSender = false →
      ∃ listener addr, state.proxies.listeners connection.listener = some listener ∧
        listener.agentSender = connection.agentSender ∧ (addr, connId) ∈ listener.addrToConn

theorem View.Closed.step {before after : View} {closed later : Channel → Bool} {old drawn : List Uuid}
    {label : Option ProxyAction} (holds : before.Closed connId closed)
    (opens : ∀ channel, later channel = false → closed channel = false)
    (step : View.Step closed old drawn connId label before after)
    (undropped : ∀ task, label = some (.cancel task) → after.connection = before.connection) :
    after.Closed connId later := by
  intro connection there tcp heard
  have heard' := opens _ heard
  cases step with
  | same => exact holds connection there tcp heard'
  | enqueued => exact holds connection there tcp heard'
  | unregistered =>
      exact ⟨(holds connection there tcp heard').1, fun _ => rfl⟩
  | rebooted => contradiction
  | announced | unannounced =>
      cases there
      exact ⟨fun stage => by simp [Listener.accepted] at stage, fun stage => by simp [Listener.accepted] at stage⟩
  | dropped known _ stage =>
      cases there
      have same := congrArg Connection.stage (Option.some.inj ((undropped _ rfl).trans known))
      rw [stage] at same
      contradiction
  | closed known _ stage =>
      cases there
      refine ⟨fun _ => ?_, fun stage => by contradiction⟩
      simp [View.tell]
  | closedUnheard _ _ _ deaf =>
      cases there
      rw [heard'] at deaf
      contradiction
  | removed known tcp' stage =>
      cases there
      exact ⟨fun _ => (holds _ known tcp' heard').1 (.inl stage), fun _ => rfl⟩
  | arrived known tcp' | finished known tcp' =>
      cases there
      have before' := holds _ known tcp' heard'
      exact before'
  | datagram known udp =>
      obtain rfl := Option.some.inj (known.symm.trans there)
      rw [udp] at tcp
      contradiction
  | replied known udp | passedOn known udp | retired known udp =>
      cases there
      rw [udp] at tcp
      contradiction
  | registered | read | leftEof | leftError | leftUnsent | forwarded | took | wrote | leftUnwritten =>
      cases there
      exact ⟨fun stage => by simp at stage, fun stage => by contradiction⟩

/-- Dropping a listener that is not about to register a connection leaves all
connections as they are. -/
theorem connections_dropped {state : Process} {task : Nat} {world : World} {proxies : Proxies}
    (permitted : dropsNoClient state (.cancel task) = true)
    (performed : state.proxies.perform state.world (.cancel task) = some (world, proxies)) :
    proxies.connections = state.proxies.connections := by
  simp only [Proxies.perform, ProxyAction.task] at performed
  split at performed
  · rename_i listener known
    simp only [Proxies.listen] at performed
    split at performed
    · split at performed
      · rename_i stage
        simp [dropsNoClient, known, stage] at permitted
      · cases performed
        rfl
    · contradiction
  · contradiction

theorem Attached.perform {state : Process} {action : ProxyAction} {world : World} {proxies : Proxies}
    (attached : Attached state) (permitted : dropsNoClient state action = true)
    (performed : state.proxies.perform state.world action = some (world, proxies)) :
    Attached ⟨world, proxies⟩ := by
  intro connId later there udp heard
  have open' (channel : Channel) (heard : proxies.closed channel = false) :
      state.proxies.closed channel = false := by
    by_contra deaf
    rw [Proxies.perform_closed performed (by simpa using deaf)] at heard
    contradiction
  have alike {task : Nat} {listener next : Listener} (known : state.proxies.listeners task = some listener)
      (after : proxies.listeners task = some next) : next.agentSender = listener.agentSender := by
    obtain ⟨old, known', same⟩ := Proxies.perform_listeners performed after
    rw [known, Option.some.injEq] at known'
    rw [known', same.agentSender]
  rcases Proxies.perform_connections performed there with ⟨connection, known, same⟩ |
    ⟨_, task, listener, next, known, rfl, after, clients⟩
  · rw [same.agentSender] at heard ⊢
    rw [same.listener]
    obtain ⟨listener, addr, serving, sender, client⟩ :=
      attached connId connection known (same.transport ▸ udp) (open' _ heard)
    rcases Proxies.perform_kept performed serving with ⟨next, after, clients⟩ | deaf | rfl
    · exact ⟨next, addr, after, (alike serving after).trans sender, clients client⟩
    · rw [sender, open' _ heard] at deaf
      contradiction
    · -- A listener with clients is not dropped.
      simp only [dropsNoClient, serving, Option.all_some] at permitted
      split at permitted
      · contradiction
      · rw [List.isEmpty_iff.mp permitted] at client
        contradiction
  · obtain ⟨addr, client⟩ := clients udp
    exact ⟨next, addr, after, alike known after, client⟩

omit [Externals] in
theorem Proxies.after_kept {world : World} {proxies : Proxies} {op : Op} {task : Nat} {listener : Listener}
    (there : proxies.listeners task = some listener) (numbered : task < world.spawned) :
    ∃ aborted, (proxies.after world op).listeners task = some { listener with aborted } := by
  unfold Proxies.after
  split
  · exact ⟨listener.aborted, (Function.update_of_ne (Nat.ne_of_lt numbered) ..).trans there⟩
  · split
    · rename_i handle _
      by_cases here : task = handle.task
      · subst here
        exact ⟨true, by simp [Proxies.setListener, there]⟩
      · exact ⟨listener.aborted, (Function.update_of_ne here ..).trans there⟩
    · exact ⟨listener.aborted, there⟩
  · exact ⟨listener.aborted, there⟩

theorem Process.Change.attached {label : Option ProxyAction} {state later : Process}
    (change : Process.Change label state later) (sound : state.Sound) (attached : Attached state)
    (permitted : ∀ action, label = some action → dropsNoClient state action = true) : Attached later := by
  cases change with
  | same | accepted => exact attached
  | called executed =>
      intro connId connection there udp heard
      rw [Proxies.after_connections] at there
      rw [Proxies.after_closed] at heard
      obtain ⟨listener, addr, serving, sender, client⟩ := attached connId connection there udp heard
      obtain ⟨aborted, after⟩ := Proxies.after_kept serving (sound.numbered _ listener serving)
      exact ⟨_, addr, after, sender, client⟩
  | performed performed => exact attached.perform (permitted _ rfl) performed
  | rebooted => exact fun _ _ there => by contradiction

theorem Runs.attached {config : Config process}
    (runs : Runs (onProxy fun config => dropsNoClient config.state) portRange config) :
    Attached config.state := by
  refine @Reachable.induct _ process _ (fun config => Attached config.state) _ _
    (fun _ _ there => by contradiction) ?_ runs
  intro before action after earlier attached permitted step
  exact (Step.change (Runs.lawful earlier) step).attached (Runs.sound earlier) attached
    fun performed same => onProxy_of permitted same

theorem Process.Change.undropped {label : Option ProxyAction} {state later : Process}
    (change : Process.Change label state later)
    (permitted : ∀ action, label = some action → dropsNoClient state action = true) :
    ∀ task, label = some (.cancel task) → later.proxies.connections = state.proxies.connections := by
  rintro task rfl
  cases change with
  | performed performed => exact connections_dropped (permitted _ rfl) performed

theorem Runs.closed {config : Config process}
    (runs : Runs (onProxy fun config => dropsNoClient config.state) portRange config) :
    (config.state.view connId).Closed connId config.state.proxies.closed := by
  refine @Reachable.induct _ process _
    (fun config => (config.state.view connId).Closed connId config.state.proxies.closed) _ _
    (fun _ there => by contradiction) ?_ runs
  intro before action after earlier closed permitted step
  have change := Step.change (Runs.lawful earlier) step
  by_cases restarted : after.state.proxies = .none
  · intro connection there
    rw [show (after.state.view connId).connection = after.state.proxies.connections connId from rfl,
      restarted] at there
    contradiction
  · refine closed.step (fun channel heard => ?_) ((Runs.follows earlier step).views connId) fun task same => ?_
    · by_contra deaf
      rcases change.closed (by simpa using deaf) with still | none
      · rw [heard] at still
        contradiction
      · exact restarted none
    · exact congrFun (change.undropped (fun performed same => onProxy_of permitted same) task same) connId

/-- In every run in which no listener is dropped together with a client, every
connection announced on an open channel whose task is gone has been announced as
closed there, and is in the map no more. -/
theorem teardown_complete {config : Config process}
    (runs : Runs (onProxy fun config => dropsNoClient config.state) portRange config) {tunnelId : Uuid}
    {channel : Channel} (announced : .newConnection tunnelId connId ∈ config.state.world.sent channel)
    (heard : config.state.proxies.closed channel = false) :
    ∃ connection, config.state.proxies.connections connId = some connection ∧
      (Taskless config.state connection → .closeConnection connId ∈ config.state.world.sent channel ∧
        config.state.world.tcpConnSenders connId = false) := by
  have placed := @Runs.placed _ connId _ _ _ runs
  have about : .newConnection tunnelId connId ∈ (config.state.view connId).messages channel :=
    List.mem_filter.mpr ⟨announced, by simp [RelayMessage.about]⟩
  cases known : config.state.proxies.connections connId with
  | none =>
      rw [placed.unused known] at about
      contradiction
  | some connection =>
      have own : channel = connection.agentSender := by
        by_contra other
        rw [placed.own connection known channel other] at about
        contradiction
      subst own
      refine ⟨connection, rfl, fun gone => ?_⟩
      cases transport : connection.transport with
      | tcp =>
          simp only [Taskless, transport] at gone
          obtain ⟨told, removed⟩ := Runs.closed runs connection known transport heard
          exact ⟨List.mem_of_mem_filter (told (.inr gone)), removed gone⟩
      | udp =>
          simp only [Taskless, transport] at gone
          obtain ⟨listener, _, serving, _⟩ := runs.attached connId connection known transport heard
          rw [gone] at serving
          contradiction

end Runs

/-- A client connects, sends a few bytes and closes. -/
theorem teardown_complete_closed :
    ∃ config : Config process, ∃ connection, config.state.proxies.connections 1000 = some connection ∧
      Taskless config.state connection ∧ .closeConnection 1000 ∈ config.state.world.sent 0 ∧
        config.state.world.tcpConnSenders 1000 = false := by
  have passed : ((works 0 tunnelOpened).all serves &&
      (process.follow (fun _ _ _ _ => true) 200 (works 0 tunnelOpened) ⟨newProcess, []⟩).any fun first =>
        (actAll (fun config => dropsNoClient config.state) [.check 0, .accept 0 1000, .register 0,
          .arrive 1000 [1, 2, 3], .read 1000 3, .forward 1000, .finish 1000, .readEof 1000, .close 1000,
          .remove 1000] first).any fun config =>
            decide (.newConnection 6 1000 ∈ config.state.world.sent 0) &&
            !config.state.proxies.closed 0 && (config.state.proxies.connections 1000).any fun connection =>
              connection.transport == .tcp && connection.stage == .ended) = true := by decide +kernel
  obtain ⟨config, runs, tested⟩ := newProcess_permitted passed
  simp only [Bool.and_eq_true, decide_eq_true_eq, Bool.not_eq_true', Option.any_eq_true, beq_iff_eq]
    at tested
  obtain ⟨⟨announced, heard⟩, found, known, tcp, ended⟩ := tested
  obtain ⟨connection, there, complete⟩ := teardown_complete runs announced heard
  obtain rfl := Option.some.inj (known.symm.trans there)
  have gone : Taskless config.state found := by
    simp only [Taskless, tcp]
    exact ended
  exact ⟨config, found, there, gone, complete gone⟩

/-- A UDP tunnel is switched off while it has a client. -/
theorem client_dropped_with_listener :
    ¬ ∀ config : Config process, Runs anyStep (10000, 60000) config → ∀ connection,
      config.state.proxies.connections 1000 = some connection →
      .newConnection 6 1000 ∈ config.state.world.sent 0 → config.state.proxies.closed 0 = false →
      Taskless config.state connection →
        .closeConnection 1000 ∈ config.state.world.sent 0 ∧
          config.state.world.tcpConnSenders 1000 = false := by
  have passed : (process.follow (fun _ _ _ _ => true) 200 (works 0 (udpTunnelOpened ++
      proxied [.check 0, .receive 0 5 [1] 1000, .forwardDatagram 0, .enroll 1000] ++
      [(.serve (.toggleTunnel (uuidToString 6)), answer 0 0)] ++ proxied [.cancel 0]))
      ⟨newProcess, []⟩).any (fun config =>
        decide (.newConnection 6 1000 ∈ config.state.world.sent 0) && !config.state.proxies.closed 0 &&
          (config.state.proxies.connections 1000).any (fun connection =>
            connection.transport == .udp && (config.state.proxies.listeners connection.listener).isNone) &&
          decide (.closeConnection 1000 ∉ config.state.world.sent 0) &&
          config.state.world.tcpConnSenders 1000) = true := by decide +kernel
  obtain ⟨config, runs, tested⟩ := newProcess_run passed
  simp only [Bool.and_eq_true, decide_eq_true_eq, Bool.not_eq_true', Option.any_eq_true, beq_iff_eq,
    Option.isNone_iff_eq_none] at tested
  obtain ⟨⟨⟨⟨announced, heard⟩, connection, there, udp, stopped⟩, unclosed⟩, _⟩ := tested
  intro always
  have gone : Taskless config.state connection := by
    simp only [Taskless, udp]
    exact stopped
  exact unclosed (always config runs connection there announced heard gone).1

end TunnelitRelay
