import TunnelitRelay.Traffic

namespace TunnelitRelay

open Concurrent

/-! # From the agent to the client -/

/-- The task of the connection has not left its loop. -/
def ConnStage.inLoop : ConnStage → Bool
  | .leaving | .removing | .ended => false
  | _ => true

section Queues

variable [Externals] {connId : Uuid} {portRange : UInt16 × UInt16}

/-- The task has taken every payload queued for the connection. -/
def drained (state : Process) (connId : Uuid) : Bool :=
  (state.proxies.connections connId).all fun connection =>
    connection.taken == (state.world.queued connId).length

/-- The loop of the connection ends by the client's end, an error of the read
side or a closed channel only when nothing is queued. -/
def leavesDrained (connId : Uuid) (config : Config process) : ProxyAction → Bool
  | .readEof other | .readError other => other != connId || drained config.state connId
  | .forward other => other != connId || drained config.state connId ||
      (config.state.proxies.connections connId).all fun connection =>
        !config.state.proxies.closed connection.agentSender
  | _ => true

/-- No write to the connection's client fails. -/
def writesSucceed (connId : Uuid) (action : ProxyAction) : Bool := action != .writeError connId

/-- What the task has taken of the queue is written, apart from a payload it is
about to write; a connection not in the map yet has no queue. -/
def ConnStage.Wrote (queue : List (List UInt8)) (registered : Bool) (taken : Nat)
    (written : List (List UInt8)) : ConnStage → Prop
  | .announced => queue = [] ∧ registered = false ∧ written = []
  | .selecting | .forwarding _ => written = queue.take taken
  | .writing data => written ++ [data] = queue.take taken
  | .leaving | .removing | .ended => True

def View.Wrote (view : View) : Prop :=
  ∀ connection, view.connection = some connection → connection.transport = .tcp →
    connection.taken ≤ view.queue.length ∧
      connection.stage.Wrote view.queue view.registered connection.taken connection.written

theorem View.Wrote.step {before after : View} {closed : Channel → Bool} {old drawn : List Uuid}
    {label : Option ProxyAction} (wrote : before.Wrote)
    (step : View.Step closed old drawn connId label before after) : after.Wrote := by
  -- Most moves keep the queue and what has been taken of it.
  have keep {connection later : Connection} {view : View} (there : before.connection = some connection)
      (tcp : connection.transport = .tcp) (after : view.connection = some later)
      (queue : view.queue = before.queue) (taken : later.taken = connection.taken)
      (next : connection.stage.Wrote before.queue before.registered connection.taken connection.written →
        later.stage.Wrote before.queue view.registered connection.taken later.written) : view.Wrote := by
    intro found known _
    obtain rfl := Option.some.inj (after.symm.trans known)
    obtain ⟨within, stage⟩ := wrote connection there tcp
    rw [queue, taken]
    exact ⟨within, next stage⟩
  have datagrams {connection : Connection} {view : View} (there : view.connection = some connection)
      (other : connection.transport ≠ .tcp) : view.Wrote := by
    intro found known tcp
    obtain rfl := Option.some.inj (there.symm.trans known)
    exact absurd tcp other
  cases step with
  | same => exact wrote
  | @enqueued _ data registered =>
      intro connection there tcp
      obtain ⟨within, stage⟩ := wrote connection there tcp
      refine ⟨Nat.le_trans within (by simp), ?_⟩
      have same : (before.queue ++ [data]).take connection.taken = before.queue.take connection.taken :=
        List.take_append_of_le_length within
      cases at' : connection.stage with
      | announced =>
          rw [at'] at stage
          rw [stage.2.1] at registered
          contradiction
      | selecting | forwarding | writing =>
          rw [at'] at stage
          simp only [ConnStage.Wrote, same] at stage ⊢
          exact stage
      | leaving | removing | ended => trivial
  | unregistered =>
      intro connection there tcp
      obtain ⟨within, stage⟩ := wrote connection there tcp
      refine ⟨within, ?_⟩
      cases at' : connection.stage <;> rw [at'] at stage
      case announced => exact ⟨stage.1, rfl, stage.2.2⟩
      all_goals exact stage
  | rebooted => exact fun _ known => by contradiction
  | announced =>
      intro found known _
      obtain rfl := Option.some.inj known
      exact ⟨Nat.le_refl _, rfl, rfl, rfl⟩
  | unannounced _ _ udp => exact datagrams rfl (by simp [Listener.accepted, udp])
  | @registered _ connection _ there stage =>
      by_cases tcp : connection.transport = .tcp
      · refine keep there tcp rfl rfl rfl fun holds => ?_
        rw [stage] at holds
        obtain ⟨empty, _, none⟩ := holds
        simp [ConnStage.Wrote, empty, none]
      · exact datagrams rfl tcp
  | arrived there tcp | finished there tcp => exact keep there tcp rfl rfl rfl fun holds => holds
  | read there tcp stage | forwarded there tcp stage =>
      refine keep there tcp rfl rfl rfl fun holds => ?_
      rw [stage] at holds
      exact holds
  | wrote there tcp stage =>
      refine keep there tcp rfl rfl rfl fun holds => ?_
      rw [stage] at holds
      exact holds
  | @took connection data _ there tcp stage next =>
      intro found known _
      obtain rfl := Option.some.inj known
      obtain ⟨_, holds⟩ := wrote connection there tcp
      rw [stage] at holds
      refine ⟨(List.getElem?_eq_some_iff.mp next).1, ?_⟩
      have grown : before.queue.take (connection.taken + 1) = before.queue.take connection.taken ++ [data] := by
        rw [List.take_add_one, next]
        rfl
      change connection.written ++ [data] = before.queue.take (connection.taken + 1)
      rw [grown, show connection.written = _ from holds]
  | dropped there tcp | leftEof there tcp | leftError there tcp | leftUnsent there tcp
  | leftUnwritten there tcp | closed there tcp | closedUnheard there tcp | removed there tcp =>
      exact keep there tcp rfl rfl rfl fun _ => trivial
  | datagram there udp => exact datagrams there (by simp [udp])
  | replied there udp | passedOn there udp | retired there udp => exact datagrams rfl (by simp [udp])

theorem Runs.wrote {allowed : Condition process} {config : Config process}
    (runs : Runs allowed portRange config) : (config.state.view connId).Wrote :=
  Runs.always (fun _ known => by contradiction) (fun wrote step => wrote.step step) runs

/-- The connection owes its client these payloads: they are queued while its
task is in the loop, and written when it has left. -/
def View.Owes (payloads : List (List UInt8)) (view : View) : Prop :=
  ∀ connection, view.connection = some connection → connection.transport = .tcp ∧
    if connection.stage.inLoop then payloads <+: view.queue else payloads <+: connection.written

theorem View.Owes.step {payloads : List (List UInt8)} {before after : View} {closed : Channel → Bool}
    {old drawn : List Uuid} {label : Option ProxyAction} (owes : before.Owes payloads)
    (wrote : before.Wrote) (known : connId ∈ old)
    (drains : ∀ connection, before.connection = some connection →
      label = some (.readEof connId) ∨ label = some (.readError connId) ∨
        (label = some (.forward connId) ∧ closed connection.agentSender = true) →
      connection.taken = before.queue.length)
    (succeeds : label ≠ some (.writeError connId))
    (step : View.Step closed old drawn connId label before after) : after.Owes payloads := by
  have keep {connection later : Connection} {view : View} (there : before.connection = some connection)
      (after : view.connection = some later) (same : later.transport = connection.transport)
      (queue : view.queue = before.queue) (stays : later.stage.inLoop = connection.stage.inLoop)
      (written : connection.written <+: later.written) : view.Owes payloads := by
    intro found known
    obtain rfl := Option.some.inj (after.symm.trans known)
    obtain ⟨tcp, paid⟩ := owes connection there
    refine ⟨same.trans tcp, ?_⟩
    rw [stays, queue]
    split at paid
    · rename_i inside
      rw [if_pos inside]
      exact paid
    · rename_i outside
      rw [if_neg outside]
      exact paid.trans written
  -- A task that leaves with nothing queued has written everything.
  have leave {connection : Connection} (there : before.connection = some connection)
      (inside : connection.stage.inLoop = true) (later : ConnStage) (outside : later.inLoop = false)
      (all : connection.written = before.queue) :
      (before.set { connection with stage := later }).Owes payloads := by
    intro found known
    obtain rfl := Option.some.inj known
    obtain ⟨tcp, paid⟩ := owes connection there
    rw [if_pos inside] at paid
    refine ⟨tcp, ?_⟩
    rw [if_neg (by simp [outside])]
    exact all ▸ paid
  have drainedAt {connection : Connection} (there : before.connection = some connection)
      (stage : connection.stage = .selecting ∨ ∃ bytes, connection.stage = .forwarding bytes)
      (empty : connection.taken = before.queue.length) : connection.written = before.queue := by
    obtain ⟨_, holds⟩ := wrote connection there (owes connection there).1
    rw [empty] at holds
    rcases stage with at' | ⟨bytes, at'⟩ <;> rw [at'] at holds
    · exact holds.trans (List.take_length ..)
    · exact holds.trans (List.take_length ..)
  cases step with
  | same => exact owes
  | enqueued registered =>
      intro connection there
      obtain ⟨tcp, paid⟩ := owes connection there
      refine ⟨tcp, ?_⟩
      split at paid
      · rename_i inside
        rw [if_pos inside]
        exact paid.trans (List.prefix_append ..)
      · rename_i outside
        rw [if_neg outside]
        exact paid
  | unregistered => exact owes
  | rebooted => exact fun _ there => by contradiction
  | announced new | unannounced new => exact absurd known new
  | registered there stage => exact keep there rfl rfl rfl (by rw [stage]; rfl) (List.prefix_refl _)
  | dropped there tcp stage =>
      obtain ⟨_, holds⟩ := wrote _ there tcp
      rw [stage] at holds
      exact leave there (by rw [stage]; rfl) .ended rfl (holds.2.2.trans holds.1.symm)
  | arrived there | finished there => exact keep there rfl rfl rfl rfl (List.prefix_refl _)
  | read there tcp stage | forwarded there tcp stage | took there tcp stage =>
      exact keep there rfl rfl rfl (by rw [stage]; rfl) (List.prefix_refl _)
  | wrote there tcp stage => exact keep there rfl rfl rfl (by rw [stage]; rfl) (List.prefix_append ..)
  | leftEof there tcp stage =>
      exact leave there (by rw [stage]; rfl) .leaving rfl
        (drainedAt there (.inl stage) (drains _ there (.inl rfl)))
  | leftError there tcp stage =>
      exact leave there (by rw [stage]; rfl) .leaving rfl
        (drainedAt there (.inl stage) (drains _ there (.inr (.inl rfl))))
  | leftUnsent there tcp stage deaf =>
      exact leave there (by rw [stage]; rfl) .leaving rfl
        (drainedAt there (.inr ⟨_, stage⟩) (drains _ there (.inr (.inr ⟨rfl, deaf⟩))))
  | leftUnwritten => exact absurd rfl succeeds
  | closed there tcp stage | closedUnheard there tcp stage | removed there tcp stage =>
      exact keep there rfl rfl rfl (by rw [stage]; rfl) (List.prefix_refl _)
  | datagram there => exact keep there there rfl rfl rfl (List.prefix_refl _)
  | replied there => exact keep there rfl rfl rfl rfl (List.prefix_append ..)
  | passedOn there => exact keep there rfl rfl rfl rfl (List.prefix_refl _)
  | retired there udp =>
      rw [(owes _ there).1] at udp
      contradiction

/-- In every run in which the loop of a TCP connection ends with nothing queued,
unless a write fails, whatever is queued while the task is in its loop is written
in order by the time it has left. -/
theorem queue_written {first last : Config process} (runs : Runs anyStep portRange first)
    (steps : Steps (fun config action => onProxy (leavesDrained connId) config action ∧
      onProxy (fun _ => writesSucceed connId) config action) first last)
    {connection later : Connection} (there : first.state.proxies.connections connId = some connection)
    (tcp : connection.transport = .tcp) (inside : connection.stage.inLoop = true)
    (then' : last.state.proxies.connections connId = some later) (left : later.stage.inLoop = false) :
    first.state.world.queued connId <+: later.written := by
  have owed : connId ∈ last.state.world.drawn ∧
      (last.state.view connId).Owes (first.state.world.queued connId) := by
    refine @Runs.keep _ _ portRange first last connId _ (fun state => connId ∈ state.world.drawn ∧
      (state.view connId).Owes (first.state.world.queued connId)) runs ⟨runs.drawn there, ?_⟩ ?_ steps
    · intro found same
      obtain rfl : connection = found := Option.some.inj (there.symm.trans same)
      refine ⟨tcp, ?_⟩
      rw [if_pos inside]
      exact List.prefix_refl _
    · intro before after action reached ⟨old, owes⟩ ⟨drains, succeeds⟩ grows step
      refine ⟨grows old, owes.step reached.wrote old ?_ ?_ step⟩
      · intro found same leaves
        have empty (drained : drained before.state connId = true) :
            found.taken = (before.state.world.queued connId).length := by
          have open' : before.state.proxies.connections connId = some found := same
          simpa [TunnelitRelay.drained, open'] using drained
        rcases leaves with eof | error | ⟨forward, deaf⟩
        · exact empty (by simpa [leavesDrained] using onProxy_of drains eof)
        · exact empty (by simpa [leavesDrained] using onProxy_of drains error)
        · have open' : before.state.proxies.connections connId = some found := same
          refine empty ?_
          simpa [leavesDrained, open', deaf] using onProxy_of drains forward
      · intro fails
        have unfailing := onProxy_of succeeds fails
        simp [writesSucceed] at unfailing
  have paid := (owed.2 later then').2
  rwa [if_neg (by simp [left])] at paid

end Queues

/-- The agent answers, the answer is written, and then the client closes. -/
theorem queue_written_answer :
    ∃ first : Config process, ∃ later : Connection, first.state.world.queued 1000 = [[72, 105]] ∧
      later.stage = .ended ∧ first.state.world.queued 1000 <+: later.written := by
  have passed : (process.follow (fun _ _ _ _ => true) 200 (works 0 (tunnelOpened ++ proxied
      [.check 0, .accept 0 1000, .register 0] ++
      [(.serve (.frame 0 (.message (.data 1000 "SGk="))), answer 0 0)])) ⟨newProcess, []⟩).any (fun first =>
        (actAll (fun config action => leavesDrained 1000 config action && writesSucceed 1000 action)
          [.finish 1000, .take 1000, .writeAll 1000, .readEof 1000, .close 1000, .remove 1000]
          first).any fun last => decide (first.state.world.queued 1000 = [[72, 105]] ∧
            (first.state.proxies.connections 1000).any (fun connection =>
              connection.transport == .tcp && connection.stage.inLoop) ∧
            (last.state.proxies.connections 1000).any fun later => later.stage == .ended)) = true := by
    decide +kernel
  obtain ⟨first, last, runs, steps, tested⟩ := newProcess_acts passed
  obtain ⟨queued, before, after⟩ := of_decide_eq_true tested
  obtain ⟨connection, there, open'⟩ := (Option.any_eq_true _ _).mp before
  obtain ⟨later, left, ended⟩ := (Option.any_eq_true _ _).mp after
  simp only [Bool.and_eq_true, beq_iff_eq] at open' ended
  exact ⟨first, later, queued, ended, queue_written runs
    (Steps.weaken steps fun _ _ both => onProxy_and both) there open'.1 open'.2 left (by rw [ended]; rfl)⟩

/-- The client closes its sending side while the answer is queued. -/
theorem queue_dropped :
    ¬ ∀ first last : Config process, Runs anyStep (10000, 60000) first →
      Steps (onProxy fun _ => writesSucceed 1000) first last →
      ∀ connection later, first.state.proxies.connections 1000 = some connection →
        connection.transport = .tcp → connection.stage.inLoop = true →
        last.state.proxies.connections 1000 = some later → later.stage.inLoop = false →
          first.state.world.queued 1000 <+: later.written := by
  have passed : (process.follow (fun _ _ _ _ => true) 200 (works 0 (tunnelOpened ++ proxied
      [.check 0, .accept 0 1000, .register 0] ++
      [(.serve (.frame 0 (.message (.data 1000 "SGk="))), answer 0 0)])) ⟨newProcess, []⟩).any (fun first =>
        (actAll (fun _ => writesSucceed 1000) [.finish 1000, .readEof 1000, .close 1000, .remove 1000]
          first).any fun last => decide (first.state.world.queued 1000 = [[72, 105]] ∧
            (first.state.proxies.connections 1000).any (fun connection =>
              connection.transport == .tcp && connection.stage.inLoop) ∧
            (last.state.proxies.connections 1000).any fun later =>
              !later.stage.inLoop && later.written == [])) = true := by decide +kernel
  obtain ⟨first, last, runs, steps, tested⟩ := newProcess_acts passed
  obtain ⟨queued, before, after⟩ := of_decide_eq_true tested
  obtain ⟨connection, there, open'⟩ := (Option.any_eq_true _ _).mp before
  obtain ⟨later, left, closed⟩ := (Option.any_eq_true _ _).mp after
  simp only [Bool.and_eq_true, beq_iff_eq, Bool.not_eq_true'] at open' closed
  intro always
  have kept := always first last runs steps connection later there open'.1 open'.2 left closed.1
  rw [queued, closed.2] at kept
  exact absurd kept (by decide)

end TunnelitRelay
