import TunnelitRelay.Draining

namespace TunnelitRelay

open Concurrent

/-! # A connection closed by its agent

`CloseConnection` takes the sender out of the map.  The task of the connection
sees a queue that stays empty, and its `select!` goes on with the read side.
-/

def RelayMessage.isData : RelayMessage → Bool
  | .data .. => true
  | _ => false

/-- The data messages of a connection on a channel. -/
def View.data (view : View) (channel : Channel) : List RelayMessage :=
  (view.messages channel).filter RelayMessage.isData

section Closing

variable [Externals] {connId : Uuid} {portRange : UInt16 × UInt16} {connection : Connection}

/-- Some handler has processed the agent's `CloseConnection` for the connection. -/
def hasClosed (connId : Uuid) (config : Config process) : Bool :=
  config.threads.any fun thread => thread.past.any fun event =>
    decide (event.1 = Op.removeConnSender connId)

/-- The agent has closed a TCP connection whose task has been spawned. -/
structure AgentClosed (connId : Uuid) (connection : Connection) (config : Config process) : Prop where
  there : config.state.proxies.connections connId = some connection
  tcp : connection.transport = .tcp
  spawned : connection.stage ≠ .announced
  processed : hasClosed connId config = true

/-- Since the first view nothing more was read from the client, and no data
message was sent; after a restart of the process, nothing of the connection is
left. -/
def View.Silent (first last : View) : Prop :=
  last = View.none ∨ ∃ connection later, first.connection = some connection ∧
    last.connection = some later ∧ later.read = connection.read ∧
    ∀ channel, last.data channel = first.data channel

/-- The task has left its loop or is about to leave it, or the client has sent
everything and everything has been read. -/
def Connection.exhausted (closed : Channel → Bool) (connection : Connection) : Bool :=
  match connection.stage with
  | .leaving | .removing | .ended => true
  | .forwarding _ => closed connection.agentSender
  | _ => connection.finished && connection.unread == []

/-! ## A channel does not open again -/

omit [Externals] in
theorem Proxies.after_closed {world : World} {proxies : Proxies} {op : Op} :
    (proxies.after world op).closed = proxies.closed := by
  cases op with
  | removeTunnelTask tunnelId =>
      simp only [Proxies.after]
      split <;> rfl
  | _ => rfl

theorem Proxies.listen_closed {world world' : World} {proxies proxies' : Proxies} {task : Nat}
    {listener : Listener} {action : ProxyAction}
    (performed : proxies.listen world task listener action = some (world', proxies')) :
    proxies'.closed = proxies.closed := by
  unfold Proxies.listen at performed
  split at performed <;> (repeat' split at performed) <;> cases performed <;> rfl

theorem Proxies.serveTcp_closed {world world' : World} {proxies proxies' : Proxies}
    {action : ProxyAction}
    (performed : proxies.serveTcp world connId connection action = some (world', proxies')) :
    proxies'.closed = proxies.closed := by
  unfold Proxies.serveTcp at performed
  split at performed <;> (repeat' split at performed) <;> cases performed <;> rfl

omit [Externals] in
theorem Proxies.serveUdp_closed {world world' : World} {proxies proxies' : Proxies}
    {action : ProxyAction}
    (performed : proxies.serveUdp world connId connection action = some (world', proxies')) :
    proxies'.closed = proxies.closed := by
  unfold Proxies.serveUdp at performed
  split at performed <;> (repeat' split at performed) <;> cases performed <;> rfl

theorem Proxies.perform_closed {world world' : World} {proxies proxies' : Proxies} {channel : Channel}
    {action : ProxyAction} (performed : proxies.perform world action = some (world', proxies'))
    (closed : proxies.closed channel = true) : proxies'.closed channel = true := by
  unfold Proxies.perform at performed
  split at performed
  · rename_i sender
    cases performed
    by_cases same : channel = sender
    · rw [same]
      exact Function.update_self ..
    · exact (Function.update_of_ne same ..).trans closed
  · split at performed
    · split at performed
      · rwa [Proxies.listen_closed performed]
      · contradiction
    · split at performed
      · split at performed
        · split at performed
          · rwa [Proxies.serveTcp_closed performed]
          · rwa [Proxies.serveUdp_closed performed]
        · contradiction
      · contradiction

/-- A channel whose receiver is gone stays closed until a restart. -/
theorem Process.Change.closed {label : Option ProxyAction} {state later : Process} {channel : Channel}
    (change : Process.Change label state later) (closed : state.proxies.closed channel = true) :
    later.proxies.closed channel = true ∨ later.proxies = .none := by
  cases change with
  | same | accepted => exact .inl closed
  | called => exact .inl (by rwa [Proxies.after_closed])
  | performed performed => exact .inl (Proxies.perform_closed performed closed)
  | rebooted => exact .inr rfl

/-! ## An exhausted connection stays silent -/

/-- The connection is exhausted and has been silent since the first view. -/
def View.Exhausted (closed : Channel → Bool) (view first : View) : Prop :=
  view = View.none ∨ ∃ connection later, first.connection = some connection ∧
    view.connection = some later ∧ later.transport = .tcp ∧ later.stage ≠ .announced ∧
      later.exhausted closed = true ∧ later.read = connection.read ∧
        ∀ channel, view.data channel = first.data channel

theorem View.Exhausted.step {first before after : View} {closed : Channel → Bool}
    {old drawn : List Uuid} {label : Option ProxyAction} (exhausted : before.Exhausted closed first)
    (known : connId ∈ old) (step : View.Step closed old drawn connId label before after) :
    after.Exhausted closed first := by
  rcases exhausted with rfl | ⟨connection, now, start, there, tcp, spawned, spent, same, silent⟩
  · cases step with
    | same | unregistered | rebooted => exact .inl rfl
    | announced new | unannounced new => exact absurd known new
    | enqueued registered => exact absurd registered Bool.false_ne_true
    | _ there => exact absurd there (Option.some_ne_none _).symm
  · -- A move that reads nothing and sends no data.
    have keep {later : Connection} {view : View} (moved : view.connection = some later)
        (transport : later.transport = now.transport) (left : later.stage ≠ .announced)
        (spent : later.exhausted closed = true) (read : later.read = now.read)
        (quiet : ∀ channel, view.data channel = before.data channel) : view.Exhausted closed first :=
      .inr ⟨connection, later, start, moved, transport.trans tcp, left, spent, read.trans same,
        fun channel => (quiet channel).trans (silent channel)⟩
    have its {other : Connection} (found : before.connection = some other) : now = other :=
      Option.some.inj (there.symm.trans found)
    cases step with
    | same => exact .inr ⟨connection, now, start, there, tcp, spawned, spent, same, silent⟩
    | enqueued | unregistered => exact keep there rfl spawned spent rfl fun _ => rfl
    | rebooted => exact .inl rfl
    | announced | unannounced => simp [View.none] at there
    | registered found stage | dropped found _ stage =>
        rw [its found] at spawned
        exact absurd stage spawned
    | @arrived other bytes _ found _ open' =>
        obtain rfl := its found
        refine keep rfl rfl spawned ?_ rfl fun _ => rfl
        -- Only a task that does not read again leaves the client free to send.
        cases stage : now.stage <;> simp_all [Connection.exhausted]
    | finished found =>
        obtain rfl := its found
        refine keep rfl rfl spawned ?_ rfl fun _ => rfl
        cases stage : now.stage <;> simp_all [Connection.exhausted]
    | read found _ stage some' =>
        obtain rfl := its found
        simp [Connection.exhausted, stage] at spent
        rw [spent.2] at some'
        exact absurd some'.2 (Nat.not_le.mpr some'.1)
    | leftEof found | leftError found | leftUnsent found | leftUnwritten found | closedUnheard found
    | removed found =>
        obtain rfl := its found
        exact keep rfl rfl (by simp) rfl rfl fun _ => rfl
    | forwarded found _ stage hears =>
        obtain rfl := its found
        simp [Connection.exhausted, stage, hears] at spent
    | took found _ stage | wrote found _ stage =>
        obtain rfl := its found
        refine keep rfl rfl (by simp) ?_ rfl fun _ => rfl
        simpa [Connection.exhausted, stage] using spent
    | closed found =>
        obtain rfl := its found
        refine keep rfl rfl (by simp) rfl rfl fun channel => ?_
        by_cases here : channel = now.agentSender
        · subst here
          simp [View.data, View.tell, View.set, RelayMessage.isData]
        · simp [View.data, View.tell, View.set, Function.update_of_ne here]
    | datagram found udp | replied found udp | passedOn found udp | retired found udp =>
        obtain rfl := its found
        rw [tcp] at udp
        contradiction

omit [Externals] in
theorem View.Exhausted.closed {first view : View} {closed later : Channel → Bool}
    (exhausted : view.Exhausted closed first) (shut : ∀ channel, closed channel = true → later channel = true) :
    view.Exhausted later first := by
  rcases exhausted with gone | ⟨connection, now, start, there, tcp, spawned, spent, rest⟩
  · exact .inl gone
  · refine .inr ⟨connection, now, start, there, tcp, spawned, ?_, rest⟩
    cases stage : now.stage <;> simp_all [Connection.exhausted]

theorem Runs.exhausted {first last : Config process} (runs : Runs anyStep portRange first)
    (closed : AgentClosed connId connection first)
    (spent : connection.exhausted first.state.proxies.closed = true) (steps : Steps anyStep first last) :
    (last.state.view connId).Exhausted last.state.proxies.closed (first.state.view connId) := by
  have kept : connId ∈ last.state.world.drawn ∧
      (last.state.view connId).Exhausted last.state.proxies.closed (first.state.view connId) := by
    induction steps with
    | refl =>
        exact ⟨runs.drawn closed.there, .inr ⟨connection, connection, closed.there, closed.there, closed.tcp,
          closed.spawned, spent, rfl, fun _ => rfl⟩⟩
    | tail earlier next ih =>
        obtain ⟨action, _, step⟩ := next
        have reached : Runs anyStep portRange _ := runs.trans earlier
        have follows := reached.follows step
        have change := Step.change reached.lawful step
        have moved := ih.2.step ih.1 (follows.views connId)
        refine ⟨follows.drawn ih.1, ?_⟩
        rcases moved with gone | still
        · exact .inl gone
        · refine View.Exhausted.closed (.inr still) fun channel shut => (change.closed shut).resolve_right ?_
          intro gone
          obtain ⟨_, later, _, there, _⟩ := still
          simp [Process.view, gone, Proxies.none] at there
  exact kept.2

/-! ## Any other connection goes on -/

/-- The proxies may perform an action at any time. -/
theorem Steps.act {config : Config process} {action : ProxyAction} {world : World} {proxies : Proxies}
    (performed : config.state.proxies.perform config.state.world action = some (world, proxies)) :
    ∃ after : Config process, Steps anyStep config after ∧ after.state = ⟨world, proxies⟩ := by
  have accepted : process.accept config.state (.proxy action) = some ⟨world, proxies⟩ := by
    simp only [performed, Option.map_some]
  exact ⟨_, .single ⟨.start (.proxy action), trivial, .start accepted⟩, rfl⟩

/-- The task or the client of a TCP connection may act at any time. -/
theorem Steps.serve {config : Config process} {world : World} {later : Connection} (action : ProxyAction)
    (there : config.state.proxies.connections connId = some connection) (tcp : connection.transport = .tcp)
    (acts : action.connection = some connId)
    (served : config.state.proxies.serveTcp config.state.world connId connection action =
      some (world, config.state.proxies.setConnection connId later)) :
    ∃ after : Config process, Steps anyStep config after ∧ after.state.world = world ∧
      after.state.proxies.connections connId = some later := by
  have performed : config.state.proxies.perform config.state.world action =
      some (world, config.state.proxies.setConnection connId later) := by
    cases action <;> simp_all [Proxies.perform, ProxyAction.task, ProxyAction.connection]
  obtain ⟨after, steps, state⟩ := Steps.act performed
  exact ⟨after, steps, by rw [state], by rw [state]; exact Function.update_self ..⟩

/-- A task at its `select!` reads what its client sends. -/
theorem reads_on {config : Config process}
    (there : config.state.proxies.connections connId = some connection) (tcp : connection.transport = .tcp)
    (stage : connection.stage = .selecting)
    (left : connection.finished = false ∨ connection.unread ≠ []) :
    ∃ last, Steps anyStep config last ∧ ∃ later, last.state.proxies.connections connId = some later ∧
      later.read ≠ connection.read := by
  have reads {config : Config process} {now : Connection}
      (there : config.state.proxies.connections connId = some now) (tcp : now.transport = .tcp)
      (stage : now.stage = .selecting) (some' : now.unread ≠ []) (same : now.read = connection.read) :
      ∃ last, Steps anyStep config last ∧ ∃ later, last.state.proxies.connections connId = some later ∧
        later.read ≠ connection.read := by
    have waits : 1 ≤ now.unread.length := List.length_pos_iff.mpr some'
    obtain ⟨last, steps, _, there'⟩ := Steps.serve (.read connId 1) there tcp rfl
      (if_pos ⟨stage, Nat.one_pos, by omega, waits⟩)
    exact ⟨last, steps, _, there', by simp [same]⟩
  by_cases some' : connection.unread = []
  · have open' := left.resolve_right (not_not_intro some')
    obtain ⟨next, steps, _, there'⟩ := Steps.serve (.arrive connId [0]) there tcp rfl (if_pos open')
    obtain ⟨last, more, result⟩ := reads there' tcp stage (by simp) rfl
    exact ⟨last, steps.trans more, result⟩
  · exact reads there tcp stage some' rfl

/-- A task that is not exhausted reads on, or passes a chunk to the agent. -/
theorem goes_on {config : Config process}
    (there : config.state.proxies.connections connId = some connection) (tcp : connection.transport = .tcp)
    (spawned : connection.stage ≠ .announced)
    (going : connection.exhausted config.state.proxies.closed = false) :
    ∃ last, Steps anyStep config last ∧ ¬ (config.state.view connId).Silent (last.state.view connId) := by
  have noise {last : Config process} {later : Connection}
      (there' : last.state.proxies.connections connId = some later)
      (loud : later.read = connection.read →
        ∃ channel, (last.state.view connId).data channel ≠ (config.state.view connId).data channel) :
      ¬ (config.state.view connId).Silent (last.state.view connId) := by
    rintro (gone | ⟨first, final, start, ended, same, quiet⟩)
    · exact absurd (there'.symm.trans (congrArg View.connection gone)) (Option.some_ne_none _)
    · obtain rfl : connection = first := Option.some.inj (there.symm.trans start)
      obtain rfl : later = final := Option.some.inj (there'.symm.trans ended)
      obtain ⟨channel, differs⟩ := loud same
      exact differs (quiet channel)
  cases stage : connection.stage with
  | announced => exact absurd stage spawned
  | leaving | removing | ended => simp [Connection.exhausted, stage] at going
  | selecting =>
      have left : connection.finished = false ∨ connection.unread ≠ [] := by
        simpa [Connection.exhausted, stage, imp_iff_not_or] using going
      obtain ⟨last, steps, later, there', read⟩ := reads_on there tcp stage left
      exact ⟨last, steps, noise there' fun same => absurd same read⟩
  | writing data =>
      have left : connection.finished = false ∨ connection.unread ≠ [] := by
        simpa [Connection.exhausted, stage, imp_iff_not_or] using going
      obtain ⟨next, steps, _, written⟩ := Steps.serve (.writeAll connId) there tcp rfl
        (by simp only [Proxies.serveTcp, stage]; rfl)
      obtain ⟨last, more, later, there', read⟩ := reads_on written tcp rfl left
      exact ⟨last, steps.trans more, noise there' fun same => absurd same read⟩
  | forwarding bytes =>
      have hears : config.state.proxies.closed connection.agentSender = false := by
        simpa [Connection.exhausted, stage] using going
      obtain ⟨last, steps, world, there'⟩ := Steps.serve (.forward connId) there tcp rfl
        (by simp only [Proxies.serveTcp, stage, hears, Bool.false_eq_true, if_false]; rfl)
      refine ⟨last, steps, noise there' fun _ => ⟨connection.agentSender, fun same => ?_⟩⟩
      have told : (last.state.view connId).data connection.agentSender =
          (config.state.view connId).data connection.agentSender ++ [.data connId (encodeBase64 bytes)] := by
        simp [View.data, Process.view, world, World.messagesAbout, World.offer, hears, RelayMessage.about,
          RelayMessage.isData]
      rw [told] at same
      simp at same

/-- Once its agent has closed it, a connection is silent in every later state
of every run exactly if its task has left its loop or the client has sent its
last byte and the relay has read it. -/
theorem agent_close_honoured {first : Config process} (runs : Runs anyStep portRange first)
    (closed : AgentClosed connId connection first) :
    (∀ last, Steps anyStep first last → (first.state.view connId).Silent (last.state.view connId)) ↔
      connection.exhausted first.state.proxies.closed = true := by
  constructor
  · intro silent
    by_contra going
    obtain ⟨last, steps, loud⟩ := goes_on closed.there closed.tcp closed.spawned (by simpa using going)
    exact loud (silent last steps)
  · intro spent last steps
    rcases runs.exhausted closed spent steps with gone | ⟨found, later, start, there, _, _, _, rest⟩
    · exact .inl gone
    · exact .inr ⟨found, later, start, there, rest⟩

end Closing

/-- The agent closes after the client has finished. -/
theorem agent_close_honoured_finished :
    ∃ first : Config process, drained first.state 1000 = true ∧ ∀ last, Steps anyStep first last →
      (first.state.view 1000).Silent (last.state.view 1000) := by
  have passed : (process.follow (fun _ _ _ _ => true) 200 (works 0 (tunnelOpened ++ proxied
      [.check 0, .accept 0 1000, .register 0, .finish 1000] ++
      [(.serve (.frame 0 (.message (.closeConnection 1000))), answer 0 0)])) ⟨newProcess, []⟩).any
        (fun first => decide (hasClosed 1000 first = true ∧ drained first.state 1000 = true ∧
          (first.state.proxies.connections 1000).any fun connection => connection.transport == .tcp &&
            connection.stage != .announced && connection.exhausted first.state.proxies.closed)) = true := by
    decide +kernel
  obtain ⟨first, runs, tested⟩ := newProcess_run passed
  obtain ⟨processed, empty, before⟩ := of_decide_eq_true tested
  obtain ⟨connection, there, facts⟩ := (Option.any_eq_true _ _).mp before
  simp only [Bool.and_eq_true, beq_iff_eq, bne_iff_ne] at facts
  exact ⟨first, empty, (agent_close_honoured runs ⟨there, facts.1.1, facts.1.2, processed⟩).mpr facts.2⟩

/-- The agent closes a connection whose queue is empty; the client sends, and
the relay reads on and passes what it reads to the agent. -/
theorem agent_close_ignored :
    ¬ ∀ (first : Config process) (connection : Connection), Runs anyStep (10000, 60000) first →
      AgentClosed 1000 connection first → drained first.state 1000 = true →
      ∀ last, Steps anyStep first last → (first.state.view 1000).Silent (last.state.view 1000) := by
  have passed : (process.follow (fun _ _ _ _ => true) 200 (works 0 (tunnelOpened ++ proxied
      [.check 0, .accept 0 1000, .register 0] ++
      [(.serve (.frame 0 (.message (.closeConnection 1000))), answer 0 0)])) ⟨newProcess, []⟩).any
        (fun first => (actAll (fun _ _ => true) [.arrive 1000 [1], .read 1000 1, .forward 1000] first).any
          fun last => decide (hasClosed 1000 first = true ∧ drained first.state 1000 = true ∧
            (first.state.proxies.connections 1000).any (fun connection => connection.transport == .tcp &&
              connection.stage == .selecting && connection.read == []) ∧
            (last.state.proxies.connections 1000).any (·.read == [[1]]) ∧
            last.state.world.messagesAbout 1000 0 =
              [.newConnection 6 1000, .data 1000 (encodeBase64 [1])])) = true := by decide +kernel
  obtain ⟨first, last, runs, steps, tested⟩ := newProcess_acts passed
  obtain ⟨processed, empty, before, after, _⟩ := of_decide_eq_true tested
  obtain ⟨connection, there, facts⟩ := (Option.any_eq_true _ _).mp before
  obtain ⟨later, there', more⟩ := (Option.any_eq_true _ _).mp after
  simp only [Bool.and_eq_true, beq_iff_eq] at facts more
  intro always
  have silent := always first connection runs ⟨there, facts.1.1, by rw [facts.1.2]; simp, processed⟩ empty
    last (Steps.weaken steps fun _ _ _ => trivial)
  rcases silent with gone | ⟨start, final, found, ended, same, _⟩
  · exact absurd (there'.symm.trans (congrArg View.connection gone)) (Option.some_ne_none _)
  · have started : start.read = [] := by
      rw [← Option.some.inj (there.symm.trans found)]
      exact facts.2
    have read : final.read = [[1]] := by
      rw [← Option.some.inj (there'.symm.trans ended)]
      exact more
    rw [started, read] at same
    exact List.cons_ne_nil _ _ same

end TunnelitRelay
