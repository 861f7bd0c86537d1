import Mathlib.Algebra.BigOperators.Group.Finset.Piecewise
import TunnelitRelay.Concurrent.Termination

namespace TunnelitRelay.Concurrent

/-! # What programs cost

Where every operation uses up some of a resource, a program that has a bound on
what it performs has a bound on what it uses up, and so have all tasks together.
-/

variable {signature : Signature} {system : System signature} {α β : Type} {cost : signature.Op → Nat}

namespace Program

/-- However it runs, the program costs no more than the budget. -/
def Within (cost : signature.Op → Nat) : Nat → Program signature α → Prop
  | _, .done _ => True
  | budget, .call op next => cost op ≤ budget ∧ ∀ result, (next result).Within cost (budget - cost op)
  | budget, .acquire _ _ next => next.Within cost budget
  | budget, .release _ next => next.Within cost budget

theorem Within.mono {program : Program signature α} {budget more : Nat} (within : program.Within cost budget)
    (less : budget ≤ more) : program.Within cost more := by
  induction program generalizing budget more with
  | done value => trivial
  | call op next ih => exact ⟨within.1.trans less, fun result => ih result (within.2 result) (Nat.sub_le_sub_right less _)⟩
  | acquire lock mode next ih => exact ih within less
  | release lock next ih => exact ih within less

theorem Within.bind {program : Program signature α} {rest : α → Program signature β} {budget later : Nat}
    (within : program.Within cost budget) (rests : ∀ value, (rest value).Within cost later) :
    (program.bind rest).Within cost (budget + later) := by
  induction program generalizing budget with
  | done value => exact (rests value).mono (Nat.le_add_left _ _)
  | call op next ih =>
      refine ⟨within.1.trans (Nat.le_add_right _ _), fun result => ?_⟩
      rw [Nat.sub_add_comm within.1]
      exact ih result (within.2 result)
  | acquire lock mode next ih => exact ih within
  | release lock next ih => exact ih within

/-- What comes first costs nothing. -/
theorem Within.free_bind {program : Program signature α} {rest : α → Program signature β} {budget : Nat}
    (within : program.Within cost 0) (rests : ∀ value, (rest value).Within cost budget) :
    (program.bind rest).Within cost budget :=
  Nat.zero_add budget ▸ within.bind rests

/-- What comes last costs nothing. -/
theorem Within.bind_free {program : Program signature α} {rest : α → Program signature β} {budget : Nat}
    (within : program.Within cost budget) (rests : ∀ value, (rest value).Within cost 0) :
    (program.bind rest).Within cost budget :=
  within.bind rests

theorem Within.guarded {program : Program signature α} {lock : signature.Lock} {mode : Mode} {budget : Nat}
    (within : program.Within cost budget) : (Program.guarded lock mode program).Within cost budget := by
  have ends (value : α) : (Program.release lock (.done value) : Program signature α).Within cost 0 := trivial
  exact Within.bind within ends

theorem within_perform {op : signature.Op} {budget : Nat} (affords : cost op ≤ budget) :
    (perform op).Within cost budget :=
  ⟨affords, fun _ => trivial⟩

/-- A program that performs nothing which costs anything costs nothing. -/
theorem Avoids.within {program : Program signature α} (avoids : program.Avoids fun op => cost op ≠ 0) :
    program.Within cost 0 := by
  induction program with
  | done value => trivial
  | call op next ih =>
      have free := not_not.mp avoids.1
      refine ⟨Nat.le_of_eq free, fun result => ?_⟩
      rw [free]
      exact ih result (avoids.2 result)
  | acquire lock mode next ih => exact ih avoids
  | release lock next ih => exact ih avoids

end Program

/-- The tasks keep to budgets of their own. -/
def Config.Budgeted (cost : signature.Op → Nat) (budget : Nat → Nat) (config : Config system) : Prop :=
  ∀ (task : Nat) thread, config.threads[task]? = some thread → thread.rest.Within cost (budget task)

variable {config later : Config system} {allowed : Condition system} {bound : Nat}

theorem Config.Budgeted.set {budget : Nat → Nat} {state : system.State} {task left : Nat} {next : Thread system}
    (budgeted : config.Budgeted cost budget) (within : next.rest.Within cost left) :
    Config.Budgeted cost (Function.update budget task left) ⟨state, config.threads.set task next⟩ := by
  intro index other there
  rcases getElem?_set_cases there with ⟨rfl, rfl⟩ | ⟨elsewhere, old⟩
  · rwa [Function.update_self]
  · rw [Function.update_of_ne elsewhere]
    exact budgeted index other old

/-- In every run the rest of a task keeps to the bound of the programs. -/
theorem Reachable.within {initial : system.State} (programs : ∀ job, (system.program job).Within cost bound)
    (reachable : Reachable allowed initial config) : config.Budgeted cost fun _ => bound := by
  refine @Reachable.induct _ _ allowed (fun config => config.Budgeted cost fun _ => bound) _ _
    (fun task thread found => by simp at found) ?_ reachable
  intro before action after _ budgeted _ step
  have replaced {state : system.State} {task : Nat} {next : Thread system} (within : next.rest.Within cost bound) :
      Config.Budgeted cost (fun _ => bound) ⟨state, before.threads.set task next⟩ := by
    have set := @Config.Budgeted.set _ _ _ _ _ state task _ _ budgeted within
    rwa [Function.update_eq_self] at set
  cases step with
  | start admitted =>
      intro task thread there
      rcases getElem?_append_cases there with ⟨_, rfl⟩ | old
      · exact programs _
      · exact budgeted task thread old
  | call found head executed =>
      have within := budgeted _ _ found
      rw [head] at within
      exact replaced ((within.2 _).mono (Nat.sub_le _ _))
  | acquire found head free =>
      have within := budgeted _ _ found
      rw [head] at within
      exact replaced within
  | release found head =>
      have within := budgeted _ _ found
      rw [head] at within
      exact replaced within
  | reboot => exact fun task thread found => by simp at found

variable {spent : system.State → Nat}

/-- Whatever a task uses up comes out of its budget. -/
theorem Config.Budgeted.step {before after : Config system} {action : Action system} {budget : Nat → Nat}
    (costs : ∀ {state choice op after result}, system.exec state choice op = some (after, result) →
      spent after ≤ spent state + cost op) (budgeted : before.Budgeted cost budget)
    (moves : tasksOnly before action) (step : Step before action after) :
    ∃ budget', after.Budgeted cost budget' ∧ after.threads.length = before.threads.length ∧
      spent after.state + ∑ task ∈ Finset.range after.threads.length, budget' task ≤
        spent before.state + ∑ task ∈ Finset.range before.threads.length, budget task := by
  cases step with
  | start | reboot => cases moves
  | @call task thread op next choice state result found head executed =>
      have within := budgeted task thread found
      rw [head] at within
      refine ⟨_, budgeted.set (within.2 result), List.length_set, ?_⟩
      have inside : task ∈ Finset.range before.threads.length :=
        Finset.mem_range.mpr (List.getElem?_eq_some_iff.mp found).1
      rw [List.length_set, Finset.sum_update_of_mem inside, ← Finset.add_sum_erase _ _ inside, Finset.sdiff_singleton_eq_erase]
      have used := costs executed
      have enough := within.1
      change spent state + _ ≤ _
      omega
  | @acquire task thread lock mode next found head free =>
      refine ⟨budget, ?_, List.length_set, by rw [List.length_set]⟩
      have within := budgeted task thread found
      rw [head] at within
      have set := @Config.Budgeted.set _ _ _ _ _ before.state task _
        { thread with held := (lock, mode) :: thread.held, rest := next } budgeted within
      rwa [Function.update_eq_self] at set
  | @release task thread lock next found head =>
      refine ⟨budget, ?_, List.length_set, by rw [List.length_set]⟩
      have within := budgeted task thread found
      rw [head] at within
      have set := @Config.Budgeted.set _ _ _ _ _ before.state task _
        { thread with held := dropGuard lock thread.held, rest := next } budgeted within
      rwa [Function.update_eq_self] at set

/-- All tasks together use up no more than their number times the bound. -/
theorem Steps.spends (costs : ∀ {state choice op after result}, system.exec state choice op = some (after, result) →
      spent after ≤ spent state + cost op) (budgeted : config.Budgeted cost fun _ => bound)
    (steps : Steps tasksOnly config later) : spent later.state ≤ spent config.state + config.threads.length * bound := by
  have tracked : ∃ budget, later.Budgeted cost budget ∧ later.threads.length = config.threads.length ∧
      spent later.state + ∑ task ∈ Finset.range later.threads.length, budget task ≤
        spent config.state + ∑ task ∈ Finset.range config.threads.length, bound := by
    induction steps with
    | refl => exact ⟨_, budgeted, rfl, Nat.le_refl _⟩
    | tail _ last ih =>
        obtain ⟨budget, kept, same, sum⟩ := ih
        obtain ⟨action, moves, step⟩ := last
        obtain ⟨budget', kept', same', sum'⟩ := kept.step costs moves step
        exact ⟨budget', kept', same'.trans same, sum'.trans sum⟩
  obtain ⟨budget, _, _, sum⟩ := tracked
  rw [Finset.sum_const, Finset.card_range, smul_eq_mul] at sum
  omega

end TunnelitRelay.Concurrent
