import TunnelitRelay.Concurrent.System

namespace TunnelitRelay.Concurrent

/-! # Undisturbed runs

One program run to its end with no other task in between.  Such a run is a
special interleaved run (`Performs.steps`), so whatever holds of every
interleaved run holds of sequences of completed jobs.
-/

variable {signature : Signature} {system : System signature} {α β γ : Type}

/-- The lock is granted to a task that holds `held` while nobody else holds any. -/
def Grants (held : List (Guard signature)) (lock : signature.Lock) (mode : Mode) : Prop :=
  ∀ own, (lock, own) ∈ held → own = .shared ∧ mode = .shared

/-- The program runs from one state and set of guards to another and returns a value. -/
def Program.Executes (system : System signature) : List (Guard signature) → system.State →
    Program signature α → List (Guard signature) → system.State → α → Prop
  | held, before, .done value, left, after, returned => left = held ∧ after = before ∧ returned = value
  | held, before, .call op next, left, after, returned =>
      ∃ choice middle result, system.exec before choice op = some (middle, result) ∧
        (next result).Executes system held middle left after returned
  | held, before, .acquire lock mode next, left, after, returned =>
      Grants held lock mode ∧ next.Executes system ((lock, mode) :: held) before left after returned
  | held, before, .release lock next, left, after, returned =>
      next.Executes system (dropGuard lock held) before left after returned

/-- The job is admitted, runs undisturbed and replies. -/
def Performs (system : System signature) (before : system.State) (job : system.Job)
    (after : system.State) (reply : system.Reply) : Prop :=
  ∃ admitted, system.accept before job = some admitted ∧
    (system.program job).Executes system [] admitted [] after reply

theorem Program.Executes.bind {program : Program signature α} {rest : α → Program signature β}
    {held middle left : List (Guard signature)} {before between after : system.State} {value : α} {returned : β}
    (first : program.Executes system held before middle between value)
    (next : (rest value).Executes system middle between left after returned) :
    (program.bind rest).Executes system held before left after returned := by
  induction program generalizing held before with
  | done result =>
      obtain ⟨rfl, rfl, rfl⟩ := first
      exact next
  | call op more ih =>
      obtain ⟨choice, later, result, executed, remaining⟩ := first
      exact ⟨choice, later, result, executed, ih result remaining⟩
  | acquire lock mode more ih => exact ⟨first.1, ih first.2⟩
  | release lock more ih => exact ih first

/-- One operation under a guard of its own. -/
theorem Program.Executes.guarded {op : signature.Op} {lock : signature.Lock} {mode : Mode}
    {held : List (Guard signature)} {before after : system.State} {result : signature.Result op}
    (grants : Grants held lock mode) (executed : ∃ choice, system.exec before choice op = some (after, result)) :
    (Program.guarded lock mode (.perform op)).Executes system held before held after result := by
  obtain ⟨choice, executed⟩ := executed
  exact ⟨grants, choice, after, result, executed, by simp [dropGuard], rfl, rfl⟩

/-! ## Undisturbed runs are interleaved runs -/

theorem Program.Executes.steps {others : List (Thread system)}
    (idle : ∀ thread ∈ others, thread.held = [])
    {program : Program signature system.Reply} {job : system.Job} {past : List (Event signature)}
    {held left : List (Guard signature)} {before after : system.State} {reply : system.Reply}
    (executes : program.Executes system held before left after reply) :
    ∃ past', Steps anyStep ⟨before, others ++ [⟨job, past, held, program⟩]⟩
      ⟨after, others ++ [⟨job, past', left, .done reply⟩]⟩ := by
  have last (thread : Thread system) : (others ++ [thread])[others.length]? = some thread := by simp
  have replace (thread other : Thread system) :
      (others ++ [thread]).set others.length other = others ++ [other] := by simp
  induction program generalizing before past held with
  | done value =>
      obtain ⟨rfl, rfl, rfl⟩ := executes
      exact ⟨past, .refl⟩
  | call op next ih =>
      obtain ⟨choice, middle, result, executed, remaining⟩ := executes
      have step := @Step.call _ system ⟨before, others ++ [⟨job, past, held, .call op next⟩]⟩
        _ _ _ _ _ _ _ (last _) rfl executed
      rw [replace] at step
      obtain ⟨final, steps⟩ := @ih result (⟨op, result⟩ :: past) _ _ remaining
      exact ⟨final, .head ⟨_, trivial, step⟩ steps⟩
  | acquire lock mode next ih =>
      obtain ⟨grants, remaining⟩ := executes
      have free : Config.Free ⟨before, others ++ [⟨job, past, held, .acquire lock mode next⟩]⟩
          lock mode := by
        intro thread member own holds
        rcases List.mem_append.mp member with other | self
        · rw [idle thread other] at holds
          simp at holds
        · rw [List.mem_singleton.mp self] at holds
          exact grants own holds
      have step := Step.acquire (last _) rfl free
      rw [replace] at step
      obtain ⟨final, steps⟩ := @ih past _ _ remaining
      exact ⟨final, .head ⟨_, trivial, step⟩ steps⟩
  | release lock next ih =>
      have step := @Step.release _ system ⟨before, others ++ [⟨job, past, held, .release lock next⟩]⟩
        _ _ _ _ (last _) rfl
      rw [replace] at step
      obtain ⟨final, steps⟩ := @ih past _ _ executes
      exact ⟨final, .head ⟨_, trivial, step⟩ steps⟩

/-- No task is in progress. -/
def Config.Quiet (config : Config system) : Prop :=
  ∀ thread ∈ config.threads, thread.held = [] ∧ thread.finished

theorem Performs.steps {config : Config system} {job : system.Job} {after : system.State}
    {reply : system.Reply} (quiet : config.Quiet)
    (performs : Performs system config.state job after reply) :
    ∃ threads, Steps anyStep config ⟨after, threads⟩ ∧ Config.Quiet ⟨after, threads⟩ := by
  obtain ⟨admitted, accepted, executes⟩ := performs
  obtain ⟨past, steps⟩ := @Program.Executes.steps _ _ config.threads
    (fun thread member => (quiet thread member).1) _ job [] _ _ _ _ _ executes
  refine ⟨_, .head ⟨_, trivial, .start accepted⟩ steps, ?_⟩
  intro thread member
  rcases List.mem_append.mp member with old | new
  · exact quiet thread old
  · rw [List.mem_singleton.mp new]
    exact ⟨rfl, reply, rfl⟩

/-! ## Sequences of completed jobs -/

/-- States reached by jobs that each run to completion, and by restarts, when
every job meets a condition on the state it finds. -/
inductive Completed (allowed : system.State → system.Job → Prop) (initial : system.State) :
    system.State → Prop where
  | initial : Completed allowed initial initial
  | job {before job after reply} (earlier : Completed allowed initial before)
      (holds : allowed before job) (performs : Performs system before job after reply) :
      Completed allowed initial after
  | reboot {before} (earlier : Completed allowed initial before) :
      Completed allowed initial (system.reboot before)

theorem Completed.reachable {allowed : system.State → system.Job → Prop}
    {initial state : system.State} (completed : Completed allowed initial state) :
    ∃ threads, Reachable anyStep initial ⟨state, threads⟩ ∧ Config.Quiet ⟨state, threads⟩ := by
  induction completed with
  | initial => exact ⟨[], .refl, fun _ member => by simp at member⟩
  | job _ _ performs ih =>
      obtain ⟨threads, reached, quiet⟩ := ih
      obtain ⟨later, steps, settled⟩ := performs.steps quiet
      exact ⟨later, reached.trans steps, settled⟩
  | reboot _ ih =>
      obtain ⟨threads, reached, _⟩ := ih
      exact ⟨[], reached.tail ⟨.reboot, trivial, .reboot⟩, fun _ member => by simp at member⟩

/-! ## Running a job -/

/-- An undisturbed run with one answer of the environment for every operation. -/
def Program.evaluate (system : System signature) (choice : system.Choice) :
    List (Guard signature) → system.State → Program signature α →
      Option (List (Guard signature) × system.State × α)
  | held, state, .done value => some (held, state, value)
  | held, state, .call op next =>
      match system.exec state choice op with
      | some (after, result) => (next result).evaluate system choice held after
      | none => none
  | held, state, .acquire lock mode next =>
      if held.all fun own => own.1 ≠ lock ∨ own.2 = .shared ∧ mode = .shared then
        next.evaluate system choice ((lock, mode) :: held) state
      else none
  | held, state, .release lock next => next.evaluate system choice (dropGuard lock held) state

theorem Program.evaluate_executes {program : Program signature α} {choice : system.Choice}
    {held left : List (Guard signature)} {before after : system.State} {value : α}
    (evaluated : program.evaluate system choice held before = some (left, after, value)) :
    program.Executes system held before left after value := by
  induction program generalizing held before with
  | done returned =>
      simp only [evaluate, Option.some.injEq, Prod.mk.injEq] at evaluated
      obtain ⟨rfl, rfl, rfl⟩ := evaluated
      exact ⟨rfl, rfl, rfl⟩
  | call op next ih =>
      simp only [evaluate] at evaluated
      split at evaluated
      · rename_i middle result executed
        exact ⟨choice, middle, result, executed, ih result evaluated⟩
      · contradiction
  | acquire lock mode next ih =>
      simp only [evaluate] at evaluated
      split at evaluated
      · rename_i granted
        refine ⟨?_, ih evaluated⟩
        intro own holds
        have compatible := List.all_eq_true.mp granted _ holds
        simpa using compatible
      · contradiction
  | release lock next ih => exact ih evaluated

/-- Perform a list of jobs one after the other, each with its own answer of
the environment. -/
def System.performAll (system : System signature) :
    List (system.Job × system.Choice) → system.State → Option system.State
  | [], state => some state
  | (job, choice) :: rest, state =>
      match system.accept state job with
      | none => none
      | some admitted =>
          match (system.program job).evaluate system choice [] admitted with
          | some ([], after, _) => system.performAll rest after
          | _ => none

theorem System.performAll_completed {jobs : List (system.Job × system.Choice)}
    {allowed : system.State → system.Job → Prop} {initial before after : system.State}
    (always : ∀ entry ∈ jobs, ∀ state, allowed state entry.1)
    (earlier : Completed allowed initial before)
    (performed : system.performAll jobs before = some after) : Completed allowed initial after := by
  induction jobs generalizing before with
  | nil =>
      cases performed
      exact earlier
  | cons entry rest ih =>
      simp only [performAll] at performed
      split at performed
      · contradiction
      · rename_i admitted accepted
        split at performed
        · rename_i middle reply evaluated
          exact ih (fun later member => always later (List.mem_cons_of_mem _ member))
            (.job earlier (always _ List.mem_cons_self _)
              ⟨admitted, accepted, Program.evaluate_executes evaluated⟩) performed
        · contradiction

/-- A check passed by the state after a list of jobs is passed by a reachable
state in which no task is in progress. -/
theorem System.performAll_check {jobs : List (system.Job × system.Choice)} {initial : system.State}
    {check : system.State → Bool} (passed : (system.performAll jobs initial).any check = true) :
    ∃ state threads, Reachable anyStep initial ⟨state, threads⟩ ∧
      Config.Quiet ⟨state, threads⟩ ∧ check state = true := by
  obtain ⟨state, performed, checked⟩ := Option.any_eq_true _ _ |>.mp passed
  obtain ⟨threads, reached, quiet⟩ :=
    (@System.performAll_completed _ _ _ (fun _ _ => True) _ _ _ (fun _ _ _ => trivial) .initial
      performed).reachable
  exact ⟨state, threads, reached, quiet, checked⟩

end TunnelitRelay.Concurrent
