import TunnelitRelay.Concurrent.Embedding

namespace TunnelitRelay.Concurrent

/-! # Simulation of one system by another

A system may be part of a larger one: some jobs of the larger system run the
programs of the smaller, embedded into the larger signature, and all others are
hidden.  Where every move of the larger system is matched, or has no effect that
the smaller one could see, each of its runs is a run of the smaller system.
-/

variable {small large : Signature}

/-- What relates a system to a larger one, and the moves that keep it. -/
structure Simulation (embedding : Embedding small large) (abstract : System small)
    (concrete : System large) where
  Relates : abstract.State → concrete.State → Prop
  /-- `none` for a job that is hidden. -/
  shown : concrete.Job → Option abstract.Job
  reply : abstract.Reply → concrete.Reply
  /-- The operations that hidden jobs may perform. -/
  silent : large.Op → Prop
  program : ∀ {job visible}, shown job = some visible → concrete.program job =
    ((abstract.program visible).embed embedding).bind fun value => .done (reply value)
  hidden : ∀ {job}, shown job = none → (concrete.program job).Avoids fun op => ¬ silent op
  admits : ∀ {state shared after job visible}, Relates state shared → shown job = some visible →
    concrete.accept shared job = some after →
      ∃ later, abstract.accept state visible = some later ∧ Relates later after
  ignores : ∀ {state shared after job}, Relates state shared → shown job = none →
    concrete.accept shared job = some after → Relates state after
  performs : ∀ {state shared choice after op result}, Relates state shared →
    concrete.exec shared choice (embedding.op op) = some (after, result) →
      ∃ chosen later, abstract.exec state chosen op = some (later, embedding.result op result) ∧
        Relates later after
  unseen : ∀ {state shared choice after op result}, Relates state shared → silent op →
    concrete.exec shared choice op = some (after, result) → Relates state after
  reboots : ∀ {state shared}, Relates state shared → Relates (abstract.reboot state) (concrete.reboot shared)

variable {embedding : Embedding small large} {abstract : System small} {concrete : System large}

/-- An event, as the larger system records it. -/
inductive Embedding.Records (embedding : Embedding small large) : Event small → Event large → Prop where
  | event (op : small.Op) (result : large.Result (embedding.op op)) :
      Records embedding ⟨op, embedding.result op result⟩ ⟨embedding.op op, result⟩

def Embedding.guards (embedding : Embedding small large) (held : List (Guard small)) : List (Guard large) :=
  held.map fun own => (embedding.lock own.1, own.2)

namespace Simulation

variable (simulation : Simulation embedding abstract concrete)

/-- The tasks have done the same, hold the same guards and have the same to do. -/
structure Matches (thread : Thread abstract) (thread' : Thread concrete) : Prop where
  job : simulation.shown thread'.job = some thread.job
  past : List.Forall₂ embedding.Records thread.past thread'.past
  held : thread'.held = embedding.guards thread.held
  rest : thread'.rest = (thread.rest.embed embedding).bind fun value => .done (simulation.reply value)

structure Hidden (thread' : Thread concrete) : Prop where
  job : simulation.shown thread'.job = none
  rest : thread'.rest.Avoids fun op => ¬ simulation.silent op

/-- The tasks of the smaller system are those of the larger one that are not hidden. -/
inductive Tasks : List (Thread abstract) → List (Thread concrete) → Prop where
  | nil : Tasks [] []
  | shown {thread thread' threads threads'} (alike : simulation.Matches thread thread')
      (rest : Tasks threads threads') : Tasks (thread :: threads) (thread' :: threads')
  | hidden {thread' threads threads'} (unseen : simulation.Hidden thread')
      (rest : Tasks threads threads') : Tasks threads (thread' :: threads')

structure Related (config : Config abstract) (config' : Config concrete) : Prop where
  state : simulation.Relates config.state config'.state
  tasks : simulation.Tasks config.threads config'.threads

variable {simulation} {threads : List (Thread abstract)} {threads' : List (Thread concrete)}

/-! ## The tasks of two related systems -/

theorem Tasks.append {thread thread'} (tasks : simulation.Tasks threads threads')
    (alike : simulation.Matches thread thread') :
    simulation.Tasks (threads ++ [thread]) (threads' ++ [thread']) := by
  induction tasks with
  | nil => exact .shown alike .nil
  | shown first rest ih => exact .shown first ih
  | hidden unseen rest ih => exact .hidden unseen ih

theorem Tasks.append_hidden {thread'} (tasks : simulation.Tasks threads threads')
    (unseen : simulation.Hidden thread') : simulation.Tasks threads (threads' ++ [thread']) := by
  induction tasks with
  | nil => exact .hidden unseen .nil
  | shown first rest ih => exact .shown first ih
  | hidden first rest ih => exact .hidden first ih

theorem Tasks.mem {thread} (tasks : simulation.Tasks threads threads') (member : thread ∈ threads) :
    ∃ thread' ∈ threads', simulation.Matches thread thread' := by
  induction tasks with
  | nil => contradiction
  | @shown first first' threads threads' alike rest ih =>
      rcases List.mem_cons.mp member with rfl | later
      · exact ⟨first', List.mem_cons_self, alike⟩
      · obtain ⟨thread', there, alike⟩ := ih later
        exact ⟨thread', List.mem_cons_of_mem _ there, alike⟩
  | hidden unseen rest ih =>
      obtain ⟨thread', there, alike⟩ := ih member
      exact ⟨thread', List.mem_cons_of_mem _ there, alike⟩

variable (simulation) in
/-- A task of the larger system that is not hidden has its match, and the tasks
stay matched when the two move together. -/
structure Pair (threads : List (Thread abstract)) (threads' : List (Thread concrete)) (task' task : Nat)
    (thread : Thread abstract) (thread' : Thread concrete) : Prop where
  found : threads[task]? = some thread
  alike : simulation.Matches thread thread'
  moves : ∀ {next next'}, simulation.Matches next next' →
    simulation.Tasks (threads.set task next) (threads'.set task' next')

theorem Tasks.find {task' : Nat} {thread' : Thread concrete} (tasks : simulation.Tasks threads threads')
    (found : threads'[task']? = some thread') :
    (∃ task thread, simulation.Pair threads threads' task' task thread thread') ∨
      simulation.Hidden thread' ∧
        ∀ {next'}, simulation.Hidden next' → simulation.Tasks threads (threads'.set task' next') := by
  induction tasks generalizing task' with
  | nil => simp at found
  | @shown first first' threads threads' alike rest ih =>
      cases task' with
      | zero =>
          rw [List.getElem?_cons_zero, Option.some.injEq] at found
          subst found
          exact .inl ⟨0, first, rfl, alike, fun moved => .shown moved rest⟩
      | succ task' =>
          rw [List.getElem?_cons_succ] at found
          rcases ih found with ⟨task, thread, same⟩ | ⟨unseen, moves⟩
          · exact .inl ⟨task + 1, thread, same.found, same.alike, fun moved => .shown alike (same.moves moved)⟩
          · exact .inr ⟨unseen, fun moved => .shown alike (moves moved)⟩
  | @hidden first' threads threads' unseen rest ih =>
      cases task' with
      | zero =>
          rw [List.getElem?_cons_zero, Option.some.injEq] at found
          subst found
          exact .inr ⟨unseen, fun moved => .hidden moved rest⟩
      | succ task' =>
          rw [List.getElem?_cons_succ] at found
          rcases ih found with ⟨task, thread, same⟩ | ⟨still, moves⟩
          · exact .inl ⟨task, thread, same.found, same.alike, fun moved => .hidden unseen (same.moves moved)⟩
          · exact .inr ⟨still, fun moved => .hidden unseen (moves moved)⟩

/-- A task that is not hidden is one of the smaller system. -/
theorem Related.seen {config : Config abstract} {config' : Config concrete} {thread' : Thread concrete}
    {job : abstract.Job} (related : simulation.Related config config') (member : thread' ∈ config'.threads)
    (visible : simulation.shown thread'.job = some job) :
    ∃ thread ∈ config.threads, simulation.Matches thread thread' ∧ thread.job = job := by
  obtain ⟨task', found⟩ := List.mem_iff_getElem?.mp member
  rcases related.tasks.find found with ⟨task, thread, same⟩ | ⟨unseen, _⟩
  · refine ⟨thread, List.mem_of_getElem? same.found, same.alike, ?_⟩
    exact Option.some.inj (same.alike.job.symm.trans visible)
  · rw [unseen.job] at visible
    contradiction

/-! ## Steps -/

theorem Related.start {job' : concrete.Job} {config : Config abstract} {config' : Config concrete}
    {after : concrete.State} (related : simulation.Related config config')
    (admitted : concrete.accept config'.state job' = some after) :
    ∃ later, Steps anyStep config later ∧
      simulation.Related later ⟨after, config'.threads ++ [Thread.fresh concrete job']⟩ := by
  cases visible : simulation.shown job' with
  | none =>
      have unseen : simulation.Hidden (Thread.fresh concrete job') := ⟨visible, simulation.hidden visible⟩
      exact ⟨config, .refl, simulation.ignores related.state visible admitted, related.tasks.append_hidden unseen⟩
  | some job =>
      obtain ⟨later, admits, relates⟩ := simulation.admits related.state visible admitted
      have alike : simulation.Matches (Thread.fresh abstract job) (Thread.fresh concrete job') :=
        ⟨visible, .nil, rfl, simulation.program visible⟩
      exact ⟨_, .single ⟨.start job, trivial, .start admits⟩, relates, related.tasks.append alike⟩

theorem Matches.call {thread : Thread abstract} {thread' : Thread concrete} {op' next'}
    (alike : simulation.Matches thread thread') (head : thread'.rest = .call op' next') :
    ∃ op next, thread.rest = .call op next ∧ op' = embedding.op op := by
  have same := alike.rest.symm.trans head
  cases rest : thread.rest with
  | done | acquire | release =>
      rw [rest] at same
      contradiction
  | call op next =>
      rw [rest] at same
      exact ⟨op, next, rfl, (Program.call.inj same).1.symm⟩

theorem Matches.called {thread : Thread abstract} {thread' : Thread concrete} {op : small.Op} {next next'}
    {result : large.Result (embedding.op op)} (alike : simulation.Matches thread thread')
    (head : thread.rest = .call op next) (head' : thread'.rest = .call (embedding.op op) next') :
    simulation.Matches
      { thread with past := ⟨op, embedding.result op result⟩ :: thread.past, rest := next (embedding.result op result) }
      { thread' with past := ⟨embedding.op op, result⟩ :: thread'.past, rest := next' result } := by
  have same := alike.rest.symm.trans head'
  rw [head] at same
  have nexts := eq_of_heq (Program.call.inj same).2
  exact ⟨alike.job, .cons (.event op result) alike.past, alike.held, by rw [← nexts]⟩

theorem Related.call {config : Config abstract} {config' : Config concrete} {task' : Nat}
    {thread' : Thread concrete} {choice op' next' after} {result : large.Result op'}
    (related : simulation.Related config config') (found : config'.threads[task']? = some thread')
    (head : thread'.rest = .call op' next') (executed : concrete.exec config'.state choice op' = some (after, result)) :
    ∃ later, Steps anyStep config later ∧ simulation.Related later ⟨after, config'.threads.set task'
      { thread' with past := ⟨op', result⟩ :: thread'.past, rest := next' result }⟩ := by
  rcases related.tasks.find found with ⟨task, thread, same⟩ | ⟨unseen, moves⟩
  · obtain ⟨op, next, head', rfl⟩ := same.alike.call head
    obtain ⟨chosen, later, performed, relates⟩ := simulation.performs related.state executed
    exact ⟨_, .single ⟨.call task chosen, trivial, .call same.found head' performed⟩, relates,
      same.moves (same.alike.called head' head)⟩
  · have avoids := unseen.rest
    rw [head] at avoids
    exact ⟨config, .refl, simulation.unseen related.state (not_not.mp avoids.1) executed,
      moves ⟨unseen.job, avoids.2 result⟩⟩

/-- A lock that is free in the larger system is free in the smaller one. -/
theorem Related.free {config : Config abstract} {config' : Config concrete} {lock : small.Lock} {mode : Mode}
    (related : simulation.Related config config') (free : config'.Free (embedding.lock lock) mode) :
    config.Free lock mode := by
  intro thread member held holds
  obtain ⟨thread', there, alike⟩ := related.tasks.mem member
  refine free thread' there held ?_
  rw [alike.held]
  exact List.mem_map.mpr ⟨_, holds, rfl⟩

theorem Related.acquire {config : Config abstract} {config' : Config concrete} {task' : Nat}
    {thread' : Thread concrete} {lock' mode next'} (related : simulation.Related config config')
    (found : config'.threads[task']? = some thread') (head : thread'.rest = .acquire lock' mode next')
    (free : config'.Free lock' mode) :
    ∃ later, Steps anyStep config later ∧ simulation.Related later ⟨config'.state, config'.threads.set task'
      { thread' with held := (lock', mode) :: thread'.held, rest := next' }⟩ := by
  rcases related.tasks.find found with ⟨task, thread, same⟩ | ⟨unseen, moves⟩
  · have alike := same.alike.rest.symm.trans head
    cases rest : thread.rest with
    | done | call | release =>
        rw [rest] at alike
        contradiction
    | acquire lock mode' next =>
        rw [rest] at alike
        obtain ⟨rfl, rfl, rfl⟩ := Program.acquire.inj alike
        refine ⟨_, .single ⟨.acquire task, trivial, .acquire same.found rest (related.free free)⟩, related.state,
          same.moves ⟨same.alike.job, same.alike.past, ?_, rfl⟩⟩
        exact congrArg (List.cons _) same.alike.held
  · have avoids := unseen.rest
    rw [head] at avoids
    exact ⟨config, .refl, related.state, moves ⟨unseen.job, avoids⟩⟩

theorem Related.release {config : Config abstract} {config' : Config concrete} {task' : Nat}
    {thread' : Thread concrete} {lock' next'} (related : simulation.Related config config')
    (found : config'.threads[task']? = some thread') (head : thread'.rest = .release lock' next') :
    ∃ later, Steps anyStep config later ∧ simulation.Related later ⟨config'.state, config'.threads.set task'
      { thread' with held := dropGuard lock' thread'.held, rest := next' }⟩ := by
  rcases related.tasks.find found with ⟨task, thread, same⟩ | ⟨unseen, moves⟩
  · have alike := same.alike.rest.symm.trans head
    cases rest : thread.rest with
    | done | call | acquire =>
        rw [rest] at alike
        contradiction
    | release lock next =>
        rw [rest] at alike
        obtain ⟨rfl, rfl⟩ := Program.release.inj alike
        refine ⟨_, .single ⟨.release task, trivial, .release same.found rest⟩, related.state,
          same.moves ⟨same.alike.job, same.alike.past, ?_, rfl⟩⟩
        exact (congrArg (dropGuard _) same.alike.held).trans Embedding.dropGuard
  · have avoids := unseen.rest
    rw [head] at avoids
    exact ⟨config, .refl, related.state, moves ⟨unseen.job, avoids⟩⟩

/-- One step of the larger system is matched by the smaller one. -/
theorem Related.step {config : Config abstract} {before after : Config concrete} {action : Action concrete}
    (related : simulation.Related config before) (step : Step before action after) :
    ∃ later, Steps anyStep config later ∧ simulation.Related later after := by
  cases step with
  | start admitted => exact related.start admitted
  | call found head executed => exact related.call found head executed
  | acquire found head free => exact related.acquire found head free
  | release found head => exact related.release found head
  | reboot => exact ⟨_, .single ⟨.reboot, trivial, .reboot⟩, simulation.reboots related.state, .nil⟩

theorem Related.steps {config : Config abstract} {before after : Config concrete}
    (related : simulation.Related config before) (steps : Steps anyStep before after) :
    ∃ later, Steps anyStep config later ∧ simulation.Related later after := by
  induction steps with
  | refl => exact ⟨config, .refl, related⟩
  | tail _ last ih =>
      obtain ⟨middle, earlier, related⟩ := ih
      obtain ⟨_, _, step⟩ := last
      obtain ⟨later, next, related⟩ := related.step step
      exact ⟨later, earlier.trans next, related⟩

/-- Every run of the larger system is a run of the smaller one. -/
theorem refines {initial : abstract.State} {initial' : concrete.State} {config' : Config concrete}
    (simulation : Simulation embedding abstract concrete) (relates : simulation.Relates initial initial')
    (reachable : Reachable anyStep initial' config') :
    ∃ config, Reachable anyStep initial config ∧ simulation.Related config config' :=
  Related.steps ⟨relates, .nil⟩ reachable

/-- A task that has returned has returned in the smaller system too, with the same reply. -/
theorem Matches.returned {thread : Thread abstract} {thread' : Thread concrete} {value' : concrete.Reply}
    (alike : simulation.Matches thread thread') (ended : thread'.rest = .done value') :
    ∃ value, thread.rest = .done value ∧ value' = simulation.reply value := by
  have same := alike.rest.symm.trans ended
  cases rest : thread.rest with
  | call | acquire | release =>
      rw [rest] at same
      contradiction
  | done value =>
      rw [rest] at same
      exact ⟨value, rfl, (Program.done.inj same).symm⟩

end Simulation

/-! ## Embedded programs -/

variable {signature : Signature} {α : Type}

/-- Every operation and every lock stands for itself. -/
def Embedding.refl (signature : Signature) : Embedding signature signature where
  op := fun op => op
  result := fun _ result => result
  lock := fun lock => lock
  locks := fun _ _ same => same

/-- A program that is embedded into its own signature and returns what it returned is the program. -/
theorem Program.embed_refl {program : Program signature α} :
    ((program.embed (.refl signature)).bind fun value => .done value) = program := by
  induction program with
  | done value => rfl
  | call op next ih => exact congrArg (Program.call op) (funext ih)
  | acquire lock mode next ih => exact congrArg (Program.acquire lock mode) ih
  | release lock next ih => exact congrArg (Program.release lock) ih

theorem Program.Avoids.embed {program : Program small α} {restricted : large.Op → Prop}
    (avoids : program.Avoids fun op => restricted (embedding.op op)) : (program.embed embedding).Avoids restricted := by
  induction program with
  | done value => trivial
  | call op next ih => exact ⟨avoids.1, fun result => ih _ (avoids.2 _)⟩
  | acquire lock mode next ih => exact ih avoids
  | release lock next ih => exact ih avoids

end TunnelitRelay.Concurrent
