import TunnelitRelay.Draining

namespace TunnelitRelay

open Concurrent

/-! # The agent's data after the announcement -/

section Lookups

variable [Externals] {connId : Uuid} {portRange : UInt16 × UInt16} {allowed : Condition process}

/-- The payload that a step looks up the connection for, if it is one of these. -/
def lookedUp (connId : Uuid) (config : Config process) : Action process → List (List UInt8)
  | .call task _ =>
      match config.threads[task]? with
      | some thread =>
          match thread.rest with
          | .call (.enqueueData other data) _ => if other = connId then [data] else []
          | _ => []
      | none => []
  | _ => []

theorem lookedUp_call {config : Config process} {task : Nat} {choice : Choice} {thread : Thread process}
    {op : Op} {next} (found : config.threads[task]? = some thread) (head : thread.rest = .call op next) :
    lookedUp connId config (.call task choice) = match op with
      | .enqueueData other data => if other = connId then [data] else []
      | _ => [] := by
  simp only [lookedUp, found, head]
  cases op <;> rfl

/-- A run, with the payloads of the connection's data messages in the order in
which they are looked up. -/
inductive Hears (allowed : Condition process) (connId : Uuid) (first : Config process) :
    List (List UInt8) → Config process → Prop where
  | refl : Hears allowed connId first [] first
  | tail {payloads before action after} (earlier : Hears allowed connId first payloads before)
      (permitted : allowed before action) (step : Step before action after) :
      Hears allowed connId first (payloads ++ lookedUp connId before action) after

theorem Hears.of_steps {first last : Config process} (steps : Steps allowed first last) :
    ∃ payloads, Hears allowed connId first payloads last := by
  induction steps with
  | refl => exact ⟨[], .refl⟩
  | tail _ next ih =>
      obtain ⟨payloads, hears⟩ := ih
      obtain ⟨action, permitted, step⟩ := next
      exact ⟨_, hears.tail permitted step⟩

theorem Hears.runs {first last : Config process} {payloads : List (List UInt8)}
    (hears : Hears allowed connId first payloads last) (runs : Runs anyStep portRange first) :
    Runs anyStep portRange last := by
  induction hears with
  | refl => exact runs
  | tail _ _ step ih => exact ih.tail ⟨_, trivial, step⟩

/-- Some task has looked up the connection for the payload. -/
def hasLookedUp (connId : Uuid) (data : List UInt8) (config : Config process) : Bool :=
  config.threads.any fun thread => thread.past.any fun event =>
    decide (event.1 = Op.enqueueData connId data)

theorem hasLookedUp_iff {config : Config process} {data : List UInt8} :
    hasLookedUp connId data config = true ↔
      ∃ thread ∈ config.threads, ∃ event ∈ thread.past, event.1 = Op.enqueueData connId data := by
  simp only [hasLookedUp, List.any_eq_true, decide_eq_true_eq]

/-- Every payload that was looked up on the way is among those heard. -/
theorem Hears.did {first last : Config process} {payloads : List (List UInt8)} {data : List UInt8}
    (hears : Hears allowed connId first payloads last) (did : hasLookedUp connId data last = true) :
    hasLookedUp connId data first = true ∨ data ∈ payloads := by
  induction hears with
  | refl => exact .inl did
  | @tail payloads before action after earlier permitted step ih =>
      have old (before' : ∃ thread ∈ before.threads, ∃ event ∈ thread.past,
          event.1 = Op.enqueueData connId data) :
          hasLookedUp connId data first = true ∨ data ∈ payloads ++ lookedUp connId before action :=
        (ih (hasLookedUp_iff.mpr before')).imp_right (List.mem_append_left _)
      rw [hasLookedUp_iff] at did
      obtain ⟨thread, member, event, past, named⟩ := did
      cases step with
      | start =>
          rcases List.mem_append.mp member with there | new
          · exact old ⟨thread, there, event, past, named⟩
          · rw [List.mem_singleton.mp new] at past
            simp [Thread.fresh] at past
      | @call task running op next choice state result found head executed =>
          rcases List.mem_or_eq_of_mem_set member with there | rfl
          · exact old ⟨thread, there, event, past, named⟩
          · rcases List.mem_cons.mp past with rfl | earlier'
            · cases named
              refine .inr (List.mem_append_right _ ?_)
              rw [lookedUp_call found head]
              simp
            · exact old ⟨running, List.mem_of_getElem? found, event, earlier', named⟩
      | @acquire task running lock mode next found head free =>
          rcases List.mem_or_eq_of_mem_set member with there | rfl
          · exact old ⟨thread, there, event, past, named⟩
          · exact old ⟨running, List.mem_of_getElem? found, event, past, named⟩
      | @release task running lock next found head =>
          rcases List.mem_or_eq_of_mem_set member with there | rfl
          · exact old ⟨thread, there, event, past, named⟩
          · exact old ⟨running, List.mem_of_getElem? found, event, past, named⟩
      | reboot => simp at member

/-- A data message for the connection is looked up only when the connection has
been put into the map. -/
def registersFirst (connId : Uuid) : Check process := fun config _ _ op =>
  match op with
  | .enqueueData other _ => other != connId ||
      (config.state.proxies.connections connId).all (·.stage != .announced)
  | _ => true

/-- The agent does not close the connection. -/
def keptOpen (connId : Uuid) : Check process := fun _ _ _ op =>
  match op with
  | .removeConnSender other => other != connId
  | _ => true

/-- A connection that is only announced has no queue and is not in the map. -/
def View.Unlisted (view : View) : Prop :=
  ∀ connection, view.connection = some connection → connection.stage = .announced →
    view.queue = [] ∧ view.registered = false

theorem View.Unlisted.step {before after : View} {closed : Channel → Bool} {old drawn : List Uuid}
    {label : Option ProxyAction} (unlisted : before.Unlisted)
    (step : View.Step closed old drawn connId label before after) : after.Unlisted := by
  cases step with
  | same => exact unlisted
  | enqueued registered =>
      intro connection there stage
      rw [(unlisted connection there stage).2] at registered
      contradiction
  | unregistered => exact fun connection there stage => ⟨(unlisted connection there stage).1, rfl⟩
  | rebooted => exact fun _ there => by contradiction
  | announced | unannounced => exact fun _ _ _ => ⟨rfl, rfl⟩
  | arrived found | finished found | replied found | passedOn found =>
      intro connection there stage
      obtain rfl := Option.some.inj there
      exact unlisted _ found stage
  | datagram => exact unlisted
  | _ =>
      intro connection there stage
      obtain rfl := Option.some.inj there
      contradiction

theorem Runs.unlisted {config : Config process} (runs : Runs allowed portRange config) :
    (config.state.view connId).Unlisted :=
  Runs.always (fun _ there => by contradiction) (fun unlisted step => unlisted.step step) runs

/-- While the connection is open it is in the map, or about to be, and the
payloads looked up so far are those queued. -/
structure Hearing (connId : Uuid) (payloads : List (List UInt8)) (state : Process) : Prop where
  drawn : connId ∈ state.world.drawn
  heard : ∀ connection, state.proxies.connections connId = some connection →
    connection.stage.inLoop = true → state.world.queued connId = payloads ∧
      (connection.stage = .announced ∨ state.world.tcpConnSenders connId = true)

/-- An action of the proxies queues nothing, and takes a connection out of the
map only after its loop. -/
theorem View.Step.hearing {before after : View} {closed : Channel → Bool} {old drawn : List Uuid}
    {action : ProxyAction} (step : View.Step closed old drawn connId (some action) before after)
    (known : connId ∈ old) {connection : Connection} (there : after.connection = some connection)
    (inside : connection.stage.inLoop = true) :
    after.queue = before.queue ∧ ∃ earlier, before.connection = some earlier ∧
      earlier.stage.inLoop = true ∧
      (earlier.stage = .announced ∨ before.registered = true →
        connection.stage = .announced ∨ after.registered = true) := by
  cases step with
  | same => exact ⟨rfl, connection, there, inside, fun holds => holds⟩
  | announced new | unannounced new => exact absurd known new
  | registered found stage => exact ⟨rfl, _, found, by rw [stage]; rfl, fun _ => .inr rfl⟩
  | arrived found | finished found | replied found | passedOn found =>
      obtain rfl := Option.some.inj there
      exact ⟨rfl, _, found, inside, fun holds => holds⟩
  | datagram found => exact ⟨rfl, connection, there, inside, fun holds => holds⟩
  | read found tcp stage | forwarded found tcp stage | took found tcp stage | wrote found tcp stage =>
      obtain rfl := Option.some.inj there
      refine ⟨rfl, _, found, by rw [stage]; rfl, fun holds => .inr (holds.resolve_left ?_)⟩
      rw [stage]
      exact fun same => by contradiction
  | dropped | leftEof | leftError | leftUnsent | leftUnwritten | closed | closedUnheard | removed | retired =>
      obtain rfl := Option.some.inj there
      contradiction

theorem Hearing.step {payloads : List (List UInt8)} {before after : Config process}
    {action : Action process} (hearing : Hearing connId payloads before.state)
    (runs : Runs anyStep portRange before) (registers : (registersFirst connId).condition before action)
    (keeps : (keptOpen connId).condition before action) (step : Step before action after) :
    Hearing connId (payloads ++ lookedUp connId before action) after.state := by
  have follows := runs.follows step
  refine ⟨follows.drawn hearing.drawn, ?_⟩
  cases step with
  | @start job state admitted =>
      simp only [lookedUp, List.append_nil]
      cases job with
      | serve job =>
          obtain ⟨world, accepted, rfl⟩ := Option.map_eq_some_iff.mp admitted
          obtain ⟨sessions, rfl⟩ := accept_same accepted
          exact hearing.heard
      | proxy action =>
          intro connection there inside
          obtain ⟨queue, earlier, found, loops, stays⟩ :=
            (follows.views connId).hearing hearing.drawn there inside
          obtain ⟨heard, registered⟩ := hearing.heard earlier found loops
          exact ⟨queue.trans heard, stays registered⟩
  | @call task thread op next choice state result found head executed =>
      obtain ⟨⟨world, answer⟩, executed, same⟩ := Option.map_eq_some_iff.mp executed
      cases same
      have connections : (before.state.proxies.after before.state.world op).connections =
          before.state.proxies.connections := Proxies.after_connections
      have senders := exec_tcpConnSenders executed
      have queues := exec_queued executed
      intro connection there inside
      simp only [connections] at there
      obtain ⟨heard, registered⟩ := hearing.heard connection there inside
      rw [lookedUp_call found head]
      cases op with
      | enqueueData other data =>
          by_cases here : other = connId
          · subst here
            have waits := registers thread _ next found head
            simp only [registersFirst, bne_self_eq_false, Bool.false_or, there, Option.all_some,
              bne_iff_ne, ne_eq] at waits
            have listed := registered.resolve_left waits
            dsimp only
            rw [if_pos rfl, queues, senders]
            simp only [listed, if_true, Function.update_self, heard]
            exact ⟨trivial, .inr trivial⟩
          · dsimp only
            rw [if_neg here, List.append_nil, queues, senders]
            refine ⟨?_, registered⟩
            dsimp only
            split
            · rw [Function.update_of_ne (Ne.symm here)]
              exact heard
            · exact heard
      | removeConnSender other =>
          have other' := keeps thread _ next found head
          simp only [keptOpen, bne_iff_ne, ne_eq] at other'
          dsimp only
          rw [List.append_nil, queues, senders]
          exact ⟨heard, by
            dsimp only
            rwa [Function.update_of_ne (Ne.symm other')]⟩
      | _ =>
          dsimp only
          rw [List.append_nil, queues, senders]
          exact ⟨heard, registered⟩
  | acquire | release =>
      simp only [lookedUp, List.append_nil]
      exact hearing.heard
  | reboot => exact fun connection there => by contradiction

/-- In every run in which data messages for a connection are looked up only
after it has been put into the map, each of them is queued once and in order
while the connection is open. -/
theorem first_bytes_kept {first last : Config process} {payloads : List (List UInt8)}
    (runs : Runs anyStep portRange first) {connection later : Connection}
    (there : first.state.proxies.connections connId = some connection)
    (announced : connection.stage = .announced)
    (hears : Hears (fun config action => (registersFirst connId).condition config action ∧
      (keptOpen connId).condition config action) connId first payloads last)
    (then' : last.state.proxies.connections connId = some later) (inside : later.stage.inLoop = true) :
    last.state.world.queued connId = payloads := by
  have hearing : Hearing connId payloads last.state := by
    clear then'
    induction hears with
    | refl =>
        refine ⟨runs.drawn there, fun found same inside => ?_⟩
        obtain rfl : connection = found := Option.some.inj (there.symm.trans same)
        exact ⟨(runs.unlisted connection there announced).1, .inl announced⟩
    | tail earlier permitted step ih =>
        exact ih.step (earlier.runs runs) permitted.1 permitted.2 step
  exact (hearing.heard later then' inside).1

end Lookups

/-- The agent answers after the connection has been put into the map. -/
theorem first_bytes_kept_registered :
    ∃ first last : Config process, Hears (fun config action =>
        (registersFirst 1000).condition config action ∧ (keptOpen 1000).condition config action)
        1000 first [[72, 105]] last ∧ last.state.world.queued 1000 = [[72, 105]] := by
  have passed : (process.follow (fun _ _ _ _ => true) 200
      (works 0 (tunnelOpened ++ proxied [.check 0, .accept 0 1000])) ⟨newProcess, []⟩).any (fun first =>
        (process.follow (fun config thread choice op => registersFirst 1000 config thread choice op &&
            keptOpen 1000 config thread choice op) 200 (works 7 (proxied [.register 0] ++
          [(.serve (.frame 0 (.message (.data 1000 "SGk="))), answer 0 0)])) first).any fun last =>
        decide ((first.state.proxies.connections 1000).any (·.stage == .announced) ∧
          last.state.world.queued 1000 = [[72, 105]] ∧
          (last.state.proxies.connections 1000).any (·.stage.inLoop))) = true := by decide +kernel
  obtain ⟨first, last, runs, steps, tested⟩ := newProcess_follows passed
  obtain ⟨before, queued, after⟩ := of_decide_eq_true tested
  obtain ⟨connection, there, announced⟩ := (Option.any_eq_true _ _).mp before
  obtain ⟨later, stays, inside⟩ := (Option.any_eq_true _ _).mp after
  obtain ⟨payloads, hears⟩ := Hears.of_steps (Steps.weaken steps fun _ _ both => Check.condition_and both)
  have kept := first_bytes_kept runs there (by simpa using announced) hears stays inside
  rw [queued] at kept
  exact ⟨first, last, kept ▸ hears, queued⟩

/-- A server that speaks first: the agent's data is looked up between the
announcement and the entry in the map. -/
theorem first_bytes_dropped :
    ¬ ∀ (first last : Config process) (payloads : List (List UInt8)), Runs anyStep (10000, 60000) first →
      ∀ connection later, first.state.proxies.connections 1000 = some connection →
        connection.stage = .announced → Hears (keptOpen 1000).condition 1000 first payloads last →
        last.state.proxies.connections 1000 = some later → later.stage.inLoop = true →
          last.state.world.queued 1000 = payloads := by
  have passed : (process.follow (fun _ _ _ _ => true) 200
      (works 0 (tunnelOpened ++ proxied [.check 0, .accept 0 1000])) ⟨newProcess, []⟩).any (fun first =>
        (process.follow (keptOpen 1000) 200 (works 7
          ([(.serve (.frame 0 (.message (.data 1000 "SGk="))), answer 0 0)] ++ proxied [.register 0]))
          first).any fun last =>
        decide ((first.state.proxies.connections 1000).any (·.stage == .announced) ∧
          last.state.world.queued 1000 = [] ∧
          (last.state.proxies.connections 1000).any (·.stage.inLoop) ∧
          hasLookedUp 1000 [72, 105] first = false ∧ hasLookedUp 1000 [72, 105] last = true)) =
            true := by decide +kernel
  obtain ⟨first, last, runs, steps, tested⟩ := newProcess_follows passed
  obtain ⟨before, queued, after, unheard, did⟩ := of_decide_eq_true tested
  obtain ⟨connection, there, announced⟩ := (Option.any_eq_true _ _).mp before
  obtain ⟨later, stays, inside⟩ := (Option.any_eq_true _ _).mp after
  obtain ⟨payloads, hears⟩ := Hears.of_steps steps
  intro always
  have kept := always first last payloads runs connection later there (by simpa using announced) hears
    stays inside
  have dropped : payloads = [] := kept.symm.trans queued
  subst dropped
  rcases hears.did did with before | heard
  · exact Bool.false_ne_true (unheard.symm.trans before)
  · exact List.not_mem_nil heard

end TunnelitRelay
