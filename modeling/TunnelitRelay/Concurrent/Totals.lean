import Mathlib.Algebra.Group.Defs
import TunnelitRelay.Concurrent.System

namespace TunnelitRelay.Concurrent

/-! # Adding up what the steps of a run weigh -/

variable {signature : Signature} {system : System signature} {M : Type} [AddMonoid M]

/-- Runs together with the sum of the weights of their steps. -/
inductive Totalled (weight : Config system → Action system → Config system → M) (allowed : Condition system)
    (initial : system.State) : M → Config system → Prop where
  | initial : Totalled weight allowed initial 0 ⟨initial, []⟩
  | step {total before action after} (earlier : Totalled weight allowed initial total before)
      (permitted : allowed before action) (step : Step before action after) :
      Totalled weight allowed initial (total + weight before action after) after

variable {weight : Config system → Action system → Config system → M} {allowed : Condition system}
  {initial : system.State} {config : Config system} {total : M}

theorem Totalled.reachable (totalled : Totalled weight allowed initial total config) :
    Reachable allowed initial config := by
  induction totalled with
  | initial => exact .refl
  | step _ permitted step ih => exact ih.tail ⟨_, permitted, step⟩

/-- Every run has a total. -/
theorem Reachable.totalled (reachable : Reachable allowed initial config) :
    ∃ total, Totalled weight allowed initial total config := by
  induction reachable with
  | refl => exact ⟨0, .initial⟩
  | tail _ last ih =>
      obtain ⟨total, earlier⟩ := ih
      obtain ⟨action, permitted, step⟩ := last
      exact ⟨_, .step earlier permitted step⟩

/-- The invariant of a run that depends on the total so far. -/
theorem Totalled.induct {invariant : M → Config system → Prop} (initially : invariant 0 ⟨initial, []⟩)
    (preserved : ∀ {total before action after}, Reachable allowed initial before → invariant total before →
      allowed before action → Step before action after → invariant (total + weight before action after) after)
    (totalled : Totalled weight allowed initial total config) : invariant total config := by
  induction totalled with
  | initial => exact initially
  | step earlier permitted step ih => exact preserved earlier.reachable ih permitted step

end TunnelitRelay.Concurrent
