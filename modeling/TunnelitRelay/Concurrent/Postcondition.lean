import TunnelitRelay.Concurrent.Sequential

namespace TunnelitRelay.Concurrent

/-! # Postconditions of undisturbed runs -/

variable {signature : Signature} {system : System signature} {α β γ : Type}

/-- Every undisturbed run of the program from a state ends as `post` says.
Guards play no part, since no other task can hold one. -/
def Program.Always (system : System signature) (post : system.State → α → Prop) :
    system.State → Program signature α → Prop
  | state, .done value => post state value
  | state, .call op next => ∀ choice after result,
      system.exec state choice op = some (after, result) → (next result).Always system post after
  | state, .acquire _ _ next => next.Always system post state
  | state, .release _ next => next.Always system post state

namespace Program

variable {state : system.State} {post other : system.State → α → Prop}

@[simp] theorem always_done {value : α} :
    (done value : Program signature α).Always system post state ↔ post state value := Iff.rfl

@[simp] theorem always_perform {op : signature.Op} {post} :
    (perform op).Always system post state ↔ ∀ choice after result,
      system.exec state choice op = some (after, result) → post after result := Iff.rfl

theorem always_bind {program : Program signature α} {rest : α → Program signature β}
    {post : system.State → β → Prop} : (program.bind rest).Always system post state ↔
      program.Always system (fun state value => (rest value).Always system post state) state := by
  induction program generalizing state with
  | done value => rfl
  | call op next ih => simp only [bind, Always, ih]
  | acquire lock mode next ih => simp only [bind, Always, ih]
  | release lock next ih => simp only [bind, Always, ih]

@[simp] theorem always_guarded {lock : signature.Lock} {mode : Mode} {body : Program signature α} :
    (guarded lock mode body).Always system post state ↔ body.Always system post state := by
  simp only [guarded, Always, always_bind]

theorem Always.mono {program : Program signature α} (always : program.Always system post state)
    (weaker : ∀ state value, post state value → other state value) :
    program.Always system other state := by
  induction program generalizing state with
  | done value => exact weaker _ _ always
  | call op next ih => exact fun choice after result executed => ih result (always _ _ _ executed)
  | acquire lock mode next ih => exact ih always
  | release lock next ih => exact ih always

/-- What holds of all items before the loop, and of the remaining ones after
each pass, holds of none after the loop. -/
theorem always_forEach {body : γ → Program signature Unit} {items : List γ}
    {invariant : List γ → system.State → Prop}
    (pass : ∀ item rest state, invariant (item :: rest) state →
      (body item).Always system (fun after _ => invariant rest after) state)
    (holds : invariant items state) :
    (forEach body items).Always system (fun after _ => invariant [] after) state := by
  induction items generalizing state with
  | nil => exact holds
  | cons item rest ih => exact always_bind.mpr ((pass item rest state holds).mono fun _ _ => ih)

theorem Executes.always {program : Program signature α} {held left : List (Guard signature)}
    {before after : system.State} {value : α}
    (executes : program.Executes system held before left after value)
    (always : program.Always system post before) : post after value := by
  induction program generalizing held before with
  | done returned =>
      obtain ⟨rfl, rfl, rfl⟩ := executes
      exact always
  | call op next ih =>
      obtain ⟨choice, middle, result, executed, remaining⟩ := executes
      exact ih result remaining (always _ _ _ executed)
  | acquire lock mode next ih => exact ih executes.2 always
  | release lock next ih => exact ih executes always

/-- What a program's text promises carries an invariant of its past and the
state through an undisturbed run. -/
theorem Obeys.always {program : Program signature α} {law : Law signature}
    {promise : List (Event signature) → List (Guard signature) → α → Prop}
    {past : List (Event signature)} {held : List (Guard signature)}
    {invariant : List (Event signature) → system.State → Prop}
    (obeys : program.Obeys law promise past held)
    (keeps : ∀ {past held op choice state after} {result : signature.Result op},
      law past held (.call op) → invariant past state →
      system.exec state choice op = some (after, result) → invariant (⟨op, result⟩ :: past) after)
    (holds : invariant past state) :
    program.Always system (fun after value => ∃ past held, invariant past after ∧
      promise past held value) state := by
  induction program generalizing past held state with
  | done value => exact ⟨past, held, holds, obeys⟩
  | call op next ih =>
      intro choice after result executed
      exact ih result (obeys.2 result) (keeps obeys.1 holds executed)
  | acquire lock mode next ih => exact ih obeys.2 holds
  | release lock next ih => exact ih obeys.2 holds

/-- What every operation but the restricted ones keeps is kept by a program that
does nothing restricted. -/
theorem Avoids.always {program : Program signature α} {restricted : signature.Op → Prop}
    {invariant : system.State → Prop} (avoids : program.Avoids restricted)
    (keeps : ∀ {choice op state after} {result : signature.Result op}, ¬ restricted op → invariant state →
      system.exec state choice op = some (after, result) → invariant after)
    (holds : invariant state) : program.Always system (fun after _ => invariant after) state := by
  induction program generalizing state with
  | done value => exact holds
  | call op next ih =>
      intro choice after result executed
      exact ih result (avoids.2 result) (keeps avoids.1 holds executed)
  | acquire lock mode next ih => exact ih avoids holds
  | release lock next ih => exact ih avoids holds

theorem Always.and {program : Program signature α} (left : program.Always system post state)
    (right : program.Always system other state) :
    program.Always system (fun state value => post state value ∧ other state value) state := by
  induction program generalizing state with
  | done value => exact ⟨left, right⟩
  | call op next ih => exact fun choice after result executed => ih result (left _ _ _ executed) (right _ _ _ executed)
  | acquire lock mode next ih => exact ih left right
  | release lock next ih => exact ih left right

/-- A program that does nothing the environment may leave unanswered has a run
to its end. -/
theorem Avoids.finishes {program : Program signature α} {stuck : signature.Op → Prop}
    (avoids : program.Avoids stuck) (moves : ∀ op state, ¬ stuck op →
      ∃ choice after result, system.exec state choice op = some (after, result)) :
    ¬ program.Always system (fun _ _ => False) state := by
  induction program generalizing state with
  | done value => exact id
  | call op next ih =>
      intro always
      obtain ⟨choice, after, result, executed⟩ := moves op state avoids.1
      exact ih result (avoids.2 result) (always choice after result executed)
  | acquire lock mode next ih => exact ih avoids
  | release lock next ih => exact ih avoids

/-- What holds after every undisturbed run always holds, where the text of the
program never asks for a lock it already holds. -/
theorem Obeys.always_of_executes {program : Program signature α} {law : Law signature}
    {promise : List (Event signature) → List (Guard signature) → α → Prop}
    {past : List (Event signature)} {held : List (Guard signature)}
    (obeys : program.Obeys law promise past held)
    (apart : ∀ {past held lock mode}, law past held (.acquire lock mode) → ∀ own ∈ held, own.1 ≠ lock)
    (all : ∀ past left after value, program.Executes system held state left after value →
      promise past left value → post after value) : program.Always system post state := by
  induction program generalizing past held state with
  | done value => exact all past held state value ⟨rfl, rfl, rfl⟩ obeys
  | call op next ih =>
      intro choice middle result executed
      refine ih result (obeys.2 result) fun past left after value executes kept => ?_
      exact all past left after value ⟨choice, middle, result, executed, executes⟩ kept
  | acquire lock mode next ih =>
      refine ih obeys.2 fun past left after value executes kept => ?_
      exact all past left after value
        ⟨fun own holds => absurd rfl (apart obeys.1 (lock, own) holds), executes⟩ kept
  | release lock next ih => exact ih obeys.2 all

end Program

/-- A job performed without disturbance ends as its program always does. -/
theorem Performs.always {before after : system.State} {job : system.Job} {reply : system.Reply}
    {post : system.State → system.Reply → Prop} (performs : Performs system before job after reply)
    (always : ∀ admitted, system.accept before job = some admitted →
      (system.program job).Always system post admitted) : post after reply := by
  obtain ⟨admitted, accepted, executes⟩ := performs
  exact executes.always (always admitted accepted)

/-- Whatever a job can end with, its program always ends with, where its text
never asks for a lock it holds and it holds none in the end. -/
theorem Performs.always_iff {state : system.State} {job : system.Job} {law : Law signature}
    {promise : List (Event signature) → List (Guard signature) → system.Reply → Prop}
    {post : system.State → system.Reply → Prop} (admitted : system.accept state job = some state)
    (obeys : (system.program job).Obeys law promise [] [])
    (apart : ∀ {past held lock mode}, law past held (.acquire lock mode) → ∀ own ∈ held, own.1 ≠ lock)
    (ends : ∀ {past left reply}, promise past left reply → left = []) :
    (∀ after reply, Performs system state job after reply → post after reply) ↔
      (system.program job).Always system post state := by
  constructor
  · intro each
    refine obeys.always_of_executes apart fun past left after reply executes kept => ?_
    obtain rfl := ends kept
    exact each after reply ⟨state, admitted, executes⟩
  · intro always after reply performs
    exact performs.always fun later accepted => by
      obtain rfl := Option.some.inj (admitted.symm.trans accepted)
      exact always

/-- What holds at the start and is kept by every allowed job holds after every
sequence of completed jobs. -/
theorem Completed.always {allowed : system.State → system.Job → Prop}
    {invariant : system.State → Prop} {initial state : system.State} (initially : invariant initial)
    (each : ∀ {before job admitted}, invariant before → allowed before job →
      system.accept before job = some admitted →
      (system.program job).Always system (fun after _ => invariant after) admitted)
    (reboot : ∀ {before}, invariant before → invariant (system.reboot before))
    (completed : Completed allowed initial state) : invariant state := by
  induction completed with
  | initial => exact initially
  | job _ permitted performs ih => exact performs.always fun _ accepted => each ih permitted accepted
  | reboot _ ih => exact reboot ih

/-! ## A system in which the environment answers only under a condition -/

/-- The same programs where an operation is performed only if a condition on the
state and the environment's answer holds. -/
abbrev System.restrict (system : System signature)
    (meets : system.State → system.Choice → signature.Op → Bool) : System signature where
  State := system.State
  Choice := system.Choice
  Job := system.Job
  Reply := system.Reply
  exec := fun state choice op => if meets state choice op then system.exec state choice op else none
  accept := system.accept
  program := system.program
  reboot := system.reboot

variable {meets : system.State → system.Choice → signature.Op → Bool}

theorem System.restrict_exec {state after : system.State} {choice : system.Choice} {op : signature.Op}
    {result : signature.Result op} :
    (system.restrict meets).exec state choice op = some (after, result) ↔
      meets state choice op = true ∧ system.exec state choice op = some (after, result) := by
  by_cases holds : meets state choice op <;> simp [System.restrict, holds]

/-- What always holds after a program holds after it under the condition. -/
theorem Program.Always.restrict {program : Program signature α} {state : system.State}
    {post : system.State → α → Prop} (always : program.Always system post state) :
    program.Always (system.restrict meets) post state := by
  induction program generalizing state with
  | done value => exact always
  | call op next ih =>
      exact fun choice after result executed =>
        ih result (always choice after result (System.restrict_exec.mp executed).2)
  | acquire lock mode next ih => exact ih always
  | release lock next ih => exact ih always

theorem Program.Executes.unrestrict {program : Program signature α} {held left : List (Guard signature)}
    {before after : system.State} {value : α}
    (executes : program.Executes (system.restrict meets) held before left after value) :
    program.Executes system held before left after value := by
  induction program generalizing held before with
  | done returned => exact executes
  | call op next ih =>
      obtain ⟨choice, middle, result, executed, remaining⟩ := executes
      exact ⟨choice, middle, result, (System.restrict_exec.mp executed).2, ih result remaining⟩
  | acquire lock mode next ih => exact ⟨executes.1, ih executes.2⟩
  | release lock next ih => exact ih executes

/-- Jobs completed under the condition are completed jobs. -/
theorem Completed.unrestrict {allowed : system.State → system.Job → Prop}
    {initial state : (system.restrict meets).State}
    (completed : @Completed _ (system.restrict meets) allowed initial state) :
    @Completed _ system allowed initial state := by
  induction completed with
  | initial => exact .initial
  | job _ permitted performs ih =>
      obtain ⟨admitted, accepted, executes⟩ := performs
      exact .job ih permitted ⟨admitted, accepted, executes.unrestrict⟩
  | reboot _ ih => exact .reboot ih

end TunnelitRelay.Concurrent
