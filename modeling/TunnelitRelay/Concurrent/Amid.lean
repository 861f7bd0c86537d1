import TunnelitRelay.Concurrent.Postcondition
import TunnelitRelay.Concurrent.Schedule

namespace TunnelitRelay.Concurrent

/-! # One task while the others stand still

Jobs may be admitted at any time, and admitting one may change the state; of
the tasks only one moves.
-/

variable {signature : Signature} {system : System signature} {α β : Type}

/-- Jobs are admitted, and the tasks they start do not move. -/
abbrev System.Admits (system : System signature) : system.State → system.State → Prop :=
  Relation.ReflTransGen fun before after => ∃ job, system.accept before job = some after

/-- What the environment may answer. -/
abbrev Answers (system : System signature) := system.State → system.Choice → signature.Op → Bool

/-- Only the given task moves. -/
def onlyMoves (task : Nat) (answers : Answers system) : Condition system
  | _, .start _ => True
  | config, .call other choice => other = task ∧ ∀ thread op next, config.threads[other]? = some thread →
      thread.rest = .call op next → answers config.state choice op = true
  | _, .acquire other | _, .release other => other = task
  | _, .reboot => False

namespace Program

/-- However the program runs while jobs are admitted before each of its
operations and at the end, `post` holds. -/
def AlwaysAmid (answers : Answers system) (post : system.State → α → Prop) :
    Program signature α → system.State → Prop
  | .done value, state => ∀ after, system.Admits state after → post after value
  | .call op next, state => ∀ before, system.Admits state before → ∀ choice after result,
      answers before choice op = true → system.exec before choice op = some (after, result) →
        (next result).AlwaysAmid answers post after
  | .acquire _ _ next, state => next.AlwaysAmid answers post state
  | .release _ next, state => next.AlwaysAmid answers post state

variable {answers : Answers system} {post other : system.State → α → Prop} {state later : system.State}

theorem AlwaysAmid.admits {program : Program signature α} (always : program.AlwaysAmid answers post state)
    (admits : system.Admits state later) : program.AlwaysAmid answers post later := by
  induction program generalizing state with
  | done value => exact fun after more => always after (admits.trans more)
  | call op next ih => exact fun before more => always before (admits.trans more)
  | acquire lock mode next ih => exact ih always admits
  | release lock next ih => exact ih always admits

theorem AlwaysAmid.mono {program : Program signature α} (always : program.AlwaysAmid answers post state)
    (implies : ∀ after value, post after value → other after value) : program.AlwaysAmid answers other state := by
  induction program generalizing state with
  | done value => exact fun after admits => implies after value (always after admits)
  | call op next ih =>
      exact fun before admits choice after result answered executed =>
        ih result (always before admits choice after result answered executed)
  | acquire lock mode next ih => exact ih always
  | release lock next ih => exact ih always

theorem alwaysAmid_bind {program : Program signature α} {rest : α → Program signature β}
    {post : system.State → β → Prop} :
    (program.bind rest).AlwaysAmid answers post state ↔
      program.AlwaysAmid answers (fun middle value => (rest value).AlwaysAmid answers post middle) state := by
  induction program generalizing state with
  | done value => exact ⟨fun always _ admits => always.admits admits, fun always => always state .refl⟩
  | call op next ih => simp only [bind, AlwaysAmid, ih]
  | acquire lock mode next ih => simp only [bind, AlwaysAmid, ih]
  | release lock next ih => simp only [bind, AlwaysAmid, ih]

theorem alwaysAmid_map {program : Program signature α} {reply : α → β} {post : system.State → β → Prop} :
    (program.bind fun value => .done (reply value)).AlwaysAmid answers post state ↔
      program.AlwaysAmid answers (fun after value => post after (reply value)) state := by
  induction program generalizing state with
  | done value => rfl
  | call op next ih => simp only [bind, AlwaysAmid, ih]
  | acquire lock mode next ih => simp only [bind, AlwaysAmid, ih]
  | release lock next ih => simp only [bind, AlwaysAmid, ih]

/-- The rest of the task, in every run in which no other task moves. -/
theorem AlwaysAmid.steps {post : system.State → system.Reply → Prop} {before after : Config system} {task : Nat}
    {thread : Thread system} (always : thread.rest.AlwaysAmid answers post before.state)
    (found : before.threads[task]? = some thread) (steps : Steps (onlyMoves task answers) before after) :
    ∃ later, after.threads[task]? = some later ∧ later.rest.AlwaysAmid answers post after.state := by
  induction steps with
  | refl => exact ⟨thread, found, always⟩
  | @tail middle last _ moved ih =>
      obtain ⟨running, there, always⟩ := ih
      obtain ⟨action, permitted, step⟩ := moved
      have inside := (List.getElem?_eq_some_iff.mp there).1
      cases step with
      | start admitted =>
          refine ⟨running, by rwa [List.getElem?_append_left inside], always.admits (.single ⟨_, admitted⟩)⟩
      | call found' head executed =>
          obtain ⟨rfl, answered⟩ := permitted
          rw [there, Option.some.injEq] at found'
          subst found'
          refine ⟨_, List.getElem?_set_self inside, ?_⟩
          rw [head] at always
          exact always _ .refl _ _ _ (answered _ _ _ there head) executed
      | acquire found' head free =>
          obtain rfl := permitted
          rw [there, Option.some.injEq] at found'
          subst found'
          refine ⟨_, List.getElem?_set_self inside, ?_⟩
          rwa [head] at always
      | release found' head =>
          obtain rfl := permitted
          rw [there, Option.some.injEq] at found'
          subst found'
          refine ⟨_, List.getElem?_set_self inside, ?_⟩
          rwa [head] at always
      | reboot => exact permitted.elim

theorem AlwaysAmid.returned {post : system.State → system.Reply → Prop} {before after : Config system} {task : Nat}
    {thread later : Thread system} {value : system.Reply} (always : thread.rest.AlwaysAmid answers post before.state)
    (found : before.threads[task]? = some thread) (steps : Steps (onlyMoves task answers) before after)
    (there : after.threads[task]? = some later) (ended : later.rest = .done value) : post after.state value := by
  obtain ⟨same, there', always⟩ := always.steps found steps
  rw [there, Option.some.injEq] at there'
  subst there'
  rw [ended] at always
  exact always _ .refl

end Program

/-! ## Schedules of one task -/

/-- The check that the environment's answers are such. -/
def Answers.check (answers : Answers system) : Check system := fun config _ choice op => answers config.state choice op

variable {answers : Answers system}

theorem Check.movesOf.only {task : Nat} {config : Config system} {action : Action system}
    (moved : answers.check.movesOf task config action) : onlyMoves task answers config action := by
  cases action with
  | start | reboot => exact moved.elim
  | call | acquire | release => exact moved

/-- Moves of one task and jobs admitted in between. -/
def Turn.only (task : Nat) : Turn system → Bool
  | .start _ => true
  | .move other _ | .finish other _ => other == task
  | .reboot => false

theorem System.follow_only {task fuel : Nat} {turns : List (Turn system)} {before after : Config system}
    (followed : system.follow answers.check fuel turns before = some after)
    (only : turns.all (Turn.only task) = true) : Steps (onlyMoves task answers) before after := by
  induction turns generalizing before with
  | nil =>
      cases followed
      exact .refl
  | cons turn rest ih =>
      rw [List.all_cons, Bool.and_eq_true] at only
      obtain ⟨first, others⟩ := only
      cases turn with
      | start job =>
          obtain ⟨state, admitted, followed⟩ := Option.bind_eq_some_iff.mp followed
          exact .head ⟨.start job, trivial, .start admitted⟩ (ih followed others)
      | move other choice =>
          obtain rfl := eq_of_beq first
          obtain ⟨middle, moved, followed⟩ := Option.bind_eq_some_iff.mp followed
          exact ((Config.move_steps moved).weaken fun _ _ moved => moved.only).trans (ih followed others)
      | finish other choice =>
          obtain rfl := eq_of_beq first
          obtain ⟨middle, finished, followed⟩ := Option.bind_eq_some_iff.mp followed
          exact ((Config.finish_steps finished).weaken fun _ _ moved => moved.only).trans (ih followed others)
      | reboot => contradiction

end TunnelitRelay.Concurrent
