import Mathlib.Algebra.BigOperators.Group.List.Basic
import Mathlib.Algebra.GroupWithZero.Nat
import TunnelitRelay.Concurrent.Schedule

namespace TunnelitRelay.Concurrent

/-! # Counting events

The events of a run are kept in the pasts of its tasks, so that they can be
counted: every call adds one event, and only a restart forgets any.
-/

variable {signature : Signature} {system : System signature}

/-- How many of the events performed by the tasks of a configuration are counted. -/
def Config.occurrences (counts : Event signature → Bool) (config : Config system) : Nat :=
  (config.threads.map fun thread => thread.past.countP counts).sum

/-- Runs in which the system is never restarted. -/
def noReboot : Condition system := fun _ action =>
  match action with
  | .reboot => False
  | _ => True

theorem Check.moves.noReboot {check : Check system} {config : Config system} {action : Action system}
    (moves : check.moves config action) : noReboot config action := by
  cases action with
  | reboot => exact moves.2.2 rfl
  | _ => trivial

/-- Tasks that have each performed a counted event are no more than the events. -/
theorem Config.countP_le_occurrences {config : Config system} {counts : Event signature → Bool}
    {selects : Thread system → Bool}
    (performed : ∀ thread ∈ config.threads, selects thread → ∃ event ∈ thread.past, counts event) :
    config.threads.countP selects ≤ config.occurrences counts := by
  obtain ⟨state, threads⟩ := config
  simp only [occurrences] at performed ⊢
  induction threads with
  | nil => simp
  | cons thread rest ih =>
      have others := ih fun other member => performed other (by simp [member])
      simp only [List.countP_cons, List.map_cons, List.sum_cons]
      by_cases selected : selects thread = true
      · have counted := List.countP_pos_iff.mpr (performed thread (by simp) selected)
        simp only [selected, if_true]
        omega
      · simp only [selected, Bool.false_eq_true, if_false]
        omega

/-- Where each task of a kind has performed one counted event and the others
none, the events are as many as these tasks. -/
theorem Config.occurrences_eq {config : Config system} {counts : Event signature → Bool}
    {selects : Thread system → Bool}
    (each : ∀ thread ∈ config.threads, thread.past.countP counts = (selects thread).toNat) :
    config.occurrences counts = config.threads.countP selects := by
  obtain ⟨state, threads⟩ := config
  simp only [Config.occurrences] at each ⊢
  induction threads with
  | nil => rfl
  | cons thread rest ih =>
      have others := ih fun other member => each other (by simp [member])
      have first := each thread (by simp)
      rw [List.map_cons, List.sum_cons, others, first, List.countP_cons]
      cases selects thread <;> simp [Nat.add_comm]

theorem sum_map_set {α : Type} {items : List α} {index : Nat} {item other : α} {weight : α → Nat}
    {more : Nat} (found : items[index]? = some item) (heavier : weight other = weight item + more) :
    ((items.set index other).map weight).sum = (items.map weight).sum + more := by
  induction items generalizing index with
  | nil => simp at found
  | cons first rest ih =>
      cases index with
      | zero =>
          simp only [List.getElem?_cons_zero, Option.some.injEq] at found
          subst found
          simp only [List.set_cons_zero, List.map_cons, List.sum_cons, heavier]
          omega
      | succ index =>
          simp only [List.getElem?_cons_succ] at found
          simp only [List.set_cons_succ, List.map_cons, List.sum_cons, ih found]
          omega

theorem occurrences_call {config : Config system} {task : Nat} {thread : Thread system}
    {counts : Event signature → Bool} {op result state rest}
    (found : config.threads[task]? = some thread) :
    Config.occurrences counts ⟨state, config.threads.set task
      { thread with past := ⟨op, result⟩ :: thread.past, rest }⟩ =
        config.occurrences counts + (counts ⟨op, result⟩).toNat := by
  refine sum_map_set found ?_
  cases counted : counts ⟨op, result⟩ <;> simp [counted]

/-- What a step that is not a call does to a count. -/
theorem occurrences_same {config : Config system} {task : Nat} {thread : Thread system}
    {counts : Event signature → Bool} {held rest}
    (found : config.threads[task]? = some thread) :
    Config.occurrences counts ⟨config.state, config.threads.set task { thread with held, rest }⟩ =
      config.occurrences counts :=
  @sum_map_set _ _ _ _ _ _ 0 found rfl

theorem occurrences_start {config : Config system} {state : system.State} {job : system.Job}
    {counts : Event signature → Bool} :
    Config.occurrences counts ⟨state, config.threads ++ [Thread.fresh system job]⟩ =
      config.occurrences counts := by
  simp [Config.occurrences, Thread.fresh]

/-- The invariant of a run without a restart that depends on the state, on what
the tasks have done, and on how often something has been done. -/
theorem Reachable.tally {allowed : Condition system} {counts : Event signature → Bool}
    {invariant : Nat → Config system → Prop} {initial : system.State} {config : Config system}
    (initially : invariant 0 ⟨initial, []⟩)
    (call : ∀ {before after : Config system} {task thread choice op} {result : signature.Result op},
      Reachable allowed initial before → invariant (before.occurrences counts) before →
      allowed before (.call task choice) → Called before task thread choice op result after →
      invariant (before.occurrences counts + (counts ⟨op, result⟩).toNat) after)
    (quiet : ∀ {before after : Config system} {count : Nat}, invariant count before →
      before.SameTasks after →
      (after.state = before.state ∨ ∃ job, system.accept before.state job = some after.state) →
      invariant count after)
    (running : ∀ before, ¬ allowed before .reboot)
    (reachable : Reachable allowed initial config) : invariant (config.occurrences counts) config := by
  refine @Reachable.induct _ _ allowed (fun config => invariant (config.occurrences counts) config) _ _
    initially ?_ reachable
  intro before action after earlier holds permitted step
  cases step with
  | start admitted =>
      rw [occurrences_start]
      exact quiet holds .start (.inr ⟨_, admitted⟩)
  | call found head executed =>
      rw [occurrences_call found]
      exact call earlier holds permitted ⟨found, executed, _, head, rfl⟩
  | acquire found head free =>
      rw [occurrences_same found]
      exact quiet holds (.replace found) (.inl rfl)
  | release found head =>
      rw [occurrences_same found]
      exact quiet holds (.replace found) (.inl rfl)
  | reboot => exact absurd permitted (running before)

/-- A balance of the state against two counts: what one kind of event takes
from the state, another kind has put there before. -/
theorem Steps.balance {first last : Config system} {balance : system.State → Nat}
    {takes puts : Event signature → Bool} {sound : system.State → Prop}
    (start : ∀ {state job admitted}, system.accept state job = some admitted →
      sound state → sound admitted ∧ balance admitted = balance state)
    (call : ∀ {state choice op after} {result : signature.Result op}, sound state →
      system.exec state choice op = some (after, result) → sound after ∧
        balance after + (takes ⟨op, result⟩).toNat ≤ balance state + (puts ⟨op, result⟩).toNat)
    (initially : sound first.state) (steps : Steps noReboot first last) :
    balance last.state + last.occurrences takes + first.occurrences puts ≤
      balance first.state + first.occurrences takes + last.occurrences puts := by
  have all : sound last.state ∧
      balance last.state + last.occurrences takes + first.occurrences puts ≤
        balance first.state + first.occurrences takes + last.occurrences puts := by
    induction steps with
    | refl => exact ⟨initially, Nat.le_refl _⟩
    | tail _ next ih =>
        obtain ⟨holds, bounded⟩ := ih
        obtain ⟨action, running, step⟩ := next
        cases step with
        | start admitted =>
            obtain ⟨kept, same⟩ := start admitted holds
            refine ⟨kept, ?_⟩
            rw [occurrences_start, occurrences_start]
            simpa only [same] using bounded
        | call found head executed =>
            obtain ⟨kept, paid⟩ := call holds executed
            refine ⟨kept, ?_⟩
            rw [occurrences_call found, occurrences_call found]
            dsimp only at paid ⊢
            omega
        | acquire found head free =>
            refine ⟨holds, ?_⟩
            rw [occurrences_same found, occurrences_same found]
            exact bounded
        | release found head =>
            refine ⟨holds, ?_⟩
            rw [occurrences_same found, occurrences_same found]
            exact bounded
        | reboot => exact running.elim
  exact all.2

end TunnelitRelay.Concurrent
