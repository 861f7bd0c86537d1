import TunnelitRelay.Traffic

namespace TunnelitRelay

open Concurrent

/-! # Sessions and the connections of others

All sessions share one map of connections.  A data or close message is looked
up in it by its connection alone; nothing compares the sender with the agent
whose tunnel the connection came in on.
-/

/-- The connection a message of an agent is about. -/
def AgentMessage.about : AgentMessage → Option Uuid
  | .data connId _ | .closeConnection connId => some connId
  | _ => none

/-- The task that takes a step. -/
def Concurrent.Action.task {signature : Signature} {system : System signature} :
    Action system → Option Nat
  | .call task _ | .acquire task | .release task => some task
  | _ => none

section Foreign

variable [Externals] {connId : Uuid} {session : SessionId} {portRange : UInt16 × UInt16}

/-- The session is authenticated as the agent whose tunnel the connection was
accepted on. -/
def authorised (session : SessionId) (connId : Uuid) (state : Process) : Bool :=
  (state.world.sessions session).any fun locals =>
    (state.proxies.connections connId).any fun connection =>
      locals.authenticatedAgentId == some connection.agentId

/-- The next move of a task is to look the connection up in the map. -/
def looksUp (connId : Uuid) (thread : Thread process) : Bool :=
  match thread.rest with
  | .call (.enqueueData other _) _ | .call (.removeConnSender other) _ => other == connId
  | _ => false

/-- The queue and the registration of a connection are what they were. -/
def Untouched (connId : Uuid) (before after : Process) : Prop :=
  after.world.queued connId = before.world.queued connId ∧
    after.world.tcpConnSenders connId = before.world.tcpConnSenders connId

/-- What a step may do for the session's message about a connection. -/
structure Contained (session : SessionId) (connId : Uuid) (before after : Process) : Prop where
  others : ∀ other, other ≠ connId → Untouched other before after
  own : Untouched connId before after ∨ authorised session connId before = true

/-- A task that does not look the connection up leaves it as it is. -/
theorem untouched_call {world later : World} {choice : Choice} {op : Op} {result : op.Result}
    {proxies proxies' : Proxies} (executed : exec world choice op = some (later, result))
    (elsewhere : ∀ data, op ≠ .enqueueData connId data) (kept : op ≠ .removeConnSender connId) :
    Untouched connId ⟨world, proxies⟩ ⟨later, proxies'⟩ := by
  have queues := exec_queued executed
  have senders := exec_tcpConnSenders executed
  cases op with
  | enqueueData other data =>
      have different : connId ≠ other := fun same => elsewhere data (same ▸ rfl)
      refine ⟨?_, congrFun senders connId⟩
      rw [show later.queued connId = _ from congrFun queues connId]
      dsimp only
      split
      · exact Function.update_of_ne different _ _
      · rfl
  | removeConnSender other =>
      have different : connId ≠ other := fun same => kept (same ▸ rfl)
      refine ⟨congrFun queues connId, ?_⟩
      rw [show later.tcpConnSenders connId = _ from congrFun senders connId]
      exact Function.update_of_ne different _ _
  | _ => exact ⟨congrFun queues connId, congrFun senders connId⟩

/-- A look-up changes the connection exactly if the connection is in the map. -/
theorem untouched_iff {world later : World} {choice : Choice} {op : Op} {result : op.Result}
    {proxies proxies' : Proxies} (executed : exec world choice op = some (later, result))
    (looks : (∃ data, op = .enqueueData connId data) ∨ op = .removeConnSender connId) :
    Untouched connId ⟨world, proxies⟩ ⟨later, proxies'⟩ ↔ world.tcpConnSenders connId = false := by
  have queues := exec_queued executed
  have senders := exec_tcpConnSenders executed
  rcases looks with ⟨data, rfl⟩ | rfl
  · simp only [Untouched, queues, senders, and_true]
    cases listed : world.tcpConnSenders connId <;> simp
  · simp only [Untouched, queues, senders, true_and, Function.update_self]
    exact eq_comm

/-- A message of a session is looked up under the connection it is about. -/
theorem looked_up_own {job : Job} {past : Past} {held : Held} {op : Op} {message : AgentMessage}
    (permitted : Permitted job past held op) (framed : job = .frame session (.message message))
    (about : message.about = some connId) {other : Uuid}
    (looks : (∃ data, op = .enqueueData other data) ∨ op = .removeConnSender other) : other = connId := by
  subst framed
  rcases looks with ⟨data, rfl⟩ | rfl
  · obtain ⟨_, _, payload, same, _⟩ := permitted
    cases same
    exact Option.some.inj about
  · obtain ⟨_, _, same⟩ := permitted
    cases same
    exact Option.some.inj about

/-- Every step by which a session's data or close message is processed leaves
all other connections as they are, and it leaves the connection the message is
about to its own agent exactly if that connection is not being looked up, is not
in the map, or is the agent's own. -/
theorem foreign_connections {before after : Config process} {action : Action process} {task : Nat}
    {thread : Thread process} {message : AgentMessage} (runs : Runs anyStep portRange before)
    (found : before.threads[task]? = some thread)
    (framed : thread.job = .serve (.frame session (.message message)))
    (about : message.about = some connId) (actor : action.task = some task)
    (step : Step before action after) :
    Contained session connId before.state after.state ↔
      looksUp connId thread = false ∨ before.state.world.tcpConnSenders connId = false ∨
        authorised session connId before.state = true := by
  cases step with
  | start | reboot => contradiction
  | acquire there head | release there head =>
      cases actor
      obtain rfl := Option.some.inj (found.symm.trans there)
      simp only [looksUp, head, true_or, iff_true]
      exact ⟨fun _ _ => ⟨rfl, rfl⟩, .inl ⟨rfl, rfl⟩⟩
  | @call _ _ op next choice state result there head executed =>
      cases actor
      obtain rfl := Option.some.inj (found.symm.trans there)
      obtain ⟨⟨world, answer⟩, executed, same⟩ := Option.map_eq_some_iff.mp executed
      cases same
      have permitted : Permitted (.frame session (.message message)) thread.past thread.held op := by
        have law := runs.lawful.call (List.mem_of_getElem? found) head
        rw [framed] at law
        exact law.2.2
      have own {other : Uuid} := @looked_up_own _ connId session _ _ _ _ _ permitted rfl about other
      have others (other : Uuid) (different : other ≠ connId) :
          Untouched other before.state ⟨world, before.state.proxies.after before.state.world op⟩ :=
        untouched_call executed (fun data same => different (own (.inl ⟨data, same⟩)))
          fun same => different (own (.inr same))
      by_cases looks : (∃ data, op = .enqueueData connId data) ∨ op = .removeConnSender connId
      · have looking : looksUp connId thread = true := by
          rcases looks with ⟨data, rfl⟩ | rfl <;> simp [looksUp, head]
        have touched := @untouched_iff _ connId _ _ _ _ _ before.state.proxies
          (before.state.proxies.after before.state.world op) executed looks
        constructor
        · intro contained
          exact .inr (contained.own.imp_left touched.mp)
        · intro allowed
          have allowed := allowed.resolve_left (by rw [looking]; exact Bool.noConfusion)
          exact ⟨others, allowed.imp_left touched.mpr⟩
      · rw [not_or] at looks
        have idle : looksUp connId thread = false := by
          unfold looksUp
          rw [head]
          cases op with
          | enqueueData other data =>
              exact beq_eq_false_iff_ne.mpr fun same => looks.1 ⟨data, same ▸ rfl⟩
          | removeConnSender other =>
              exact beq_eq_false_iff_ne.mpr fun same => looks.2 (same ▸ rfl)
          | _ => rfl
        simp only [idle, true_or, iff_true]
        exact ⟨others, .inl (untouched_call executed (fun data same => looks.1 ⟨data, same⟩) looks.2)⟩

/-- A task about to look the connection up may do so at any time. -/
theorem look_up {before : Config process} {task : Nat} {thread : Thread process}
    (found : before.threads[task]? = some thread) (looks : looksUp connId thread = true) (choice : Choice) :
    ∃ after, Step before (.call task choice) after ∧ (Untouched connId before.state after.state ↔
      before.state.world.tcpConnSenders connId = false) := by
  have step {op : Op} {next : op.Result → Program relaySignature Reply} {world : World} {result : op.Result}
      (head : thread.rest = .call op next)
      (named : (∃ data, op = .enqueueData connId data) ∨ op = .removeConnSender connId)
      (executed : exec before.state.world choice op = some (world, result)) :
      ∃ after, Step before (.call task choice) after ∧ (Untouched connId before.state after.state ↔
        before.state.world.tcpConnSenders connId = false) :=
    ⟨_, .call found head (Option.map_eq_some_iff.mpr ⟨_, executed, rfl⟩), untouched_iff executed named⟩
  unfold looksUp at looks
  split at looks
  · rename_i other data next head
    obtain rfl := eq_of_beq looks
    cases listed : before.state.world.tcpConnSenders other with
    | true => exact listed ▸ step head (.inl ⟨data, rfl⟩) (by simp only [exec, listed, if_true]; rfl)
    | false =>
        exact listed ▸ step head (.inl ⟨data, rfl⟩)
          (by simp only [exec, listed, Bool.false_eq_true, if_false]; rfl)
  · rename_i other next head
    obtain rfl := eq_of_beq looks
    exact step head (.inr rfl) rfl
  · contradiction

end Foreign

/-- The client's connection 1000 is open, and the task of the session's message
is about to look it up. -/
def messageArrived (session : SessionId) (message : AgentMessage) : List (Turn process) :=
  works 0 (tunnelOpened ++ proxied [.check 0, .accept 0 1000, .register 0] ++
      [(.serve (.connect 1), answer 0 0)]) ++
    [.start (.serve (.frame session (.message message))), .move 9 (answer 0 0)]

/-- The agent itself closes the connection. -/
theorem foreign_connections_own :
    ∃ before after : Config process, Contained 0 1000 before.state after.state ∧
      ¬ Untouched 1000 before.state after.state := by
  have passed : (process.follow (fun _ _ _ _ => true) 200 (messageArrived 0 (.closeConnection 1000))
      ⟨newProcess, []⟩).any (fun before => authorised 0 1000 before.state &&
        before.state.world.tcpConnSenders 1000 && (before.threads[9]?).any fun thread =>
          decide (thread.job = .serve (.frame 0 (.message (.closeConnection 1000)))) &&
            looksUp 1000 thread) = true := by decide +kernel
  obtain ⟨before, runs, tested⟩ := newProcess_run passed
  simp only [Bool.and_eq_true] at tested
  obtain ⟨thread, found, facts⟩ := (Option.any_eq_true _ _).mp tested.2
  simp only [Bool.and_eq_true, decide_eq_true_eq] at facts
  obtain ⟨after, step, touched⟩ := look_up found facts.2 (answer 0 0)
  refine ⟨before, after, (foreign_connections runs found facts.1 rfl rfl step).mpr (.inr (.inr tested.1.1)), ?_⟩
  rw [touched, tested.1.2]
  exact Bool.noConfusion

/-- A session that has not authenticated closes the connection of another's agent. -/
theorem foreign_connection_closed :
    ¬ ∀ (before after : Config process) (action : Action process) (task : Nat) (thread : Thread process)
      (session : SessionId) (connId : Uuid) (message : AgentMessage), Runs anyStep (10000, 60000) before →
      before.threads[task]? = some thread → thread.job = .serve (.frame session (.message message)) →
      message.about = some connId → action.task = some task → Step before action after →
        Contained session connId before.state after.state := by
  have passed : (process.follow (fun _ _ _ _ => true) 200 (messageArrived 1 (.closeConnection 1000))
      ⟨newProcess, []⟩).any (fun before => !authorised 1 1000 before.state &&
        before.state.world.tcpConnSenders 1000 && (before.threads[9]?).any fun thread =>
          decide (thread.job = .serve (.frame 1 (.message (.closeConnection 1000)))) &&
            looksUp 1000 thread) = true := by decide +kernel
  obtain ⟨before, runs, tested⟩ := newProcess_run passed
  simp only [Bool.and_eq_true, Bool.not_eq_true'] at tested
  obtain ⟨thread, found, facts⟩ := (Option.any_eq_true _ _).mp tested.2
  simp only [Bool.and_eq_true, decide_eq_true_eq] at facts
  obtain ⟨after, step, touched⟩ := look_up found facts.2 (answer 0 0)
  intro always
  rcases (always _ _ _ _ _ _ _ _ runs found facts.1 rfl rfl step).own with kept | entitled
  · exact Bool.noConfusion (tested.1.2.symm.trans (touched.mp kept))
  · exact Bool.noConfusion (tested.1.1.symm.trans entitled)

end TunnelitRelay
