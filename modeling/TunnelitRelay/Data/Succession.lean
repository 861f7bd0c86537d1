import Mathlib.Data.List.Basic

namespace TunnelitRelay.Data

/-! # Lists of which items are taken away and to which items are added

What matters is the lasting part of the items: of the old items some are left,
in their order, and all others come after them and are new.
-/

variable {α κ : Type} {lasting : α → κ} {new fewer : κ → Prop} {before middle after : List α}

/-- The later list consists of old items, in their order, followed by new ones. -/
def Succeeds (lasting : α → κ) (new : κ → Prop) (before after : List α) : Prop :=
  ∃ kept added, after.map lasting = kept ++ added ∧ kept.Sublist (before.map lasting) ∧ ∀ key ∈ added, new key

namespace Succeeds

theorem refl (items : List α) : Succeeds lasting new items items :=
  ⟨items.map lasting, [], by simp, List.Sublist.refl _, by simp⟩

theorem append {item : α} (brought : new (lasting item)) : Succeeds lasting new before (before ++ [item]) :=
  ⟨before.map lasting, [lasting item], by simp, List.Sublist.refl _, by simpa using brought⟩

theorem map {change : α → α} (same : ∀ item, lasting (change item) = lasting item) :
    Succeeds lasting new before (before.map change) :=
  ⟨before.map lasting, [], by simp [Function.comp_def, same], List.Sublist.refl _, by simp⟩

theorem filter {keeps : α → Bool} : Succeeds lasting new before (before.filter keeps) :=
  ⟨(before.filter keeps).map lasting, [], by simp, List.filter_sublist.map lasting, by simp⟩

theorem mono (succeeds : Succeeds lasting fewer before after) (weaker : ∀ key, fewer key → new key) :
    Succeeds lasting new before after := by
  obtain ⟨kept, added, same, sublist, brought⟩ := succeeds
  exact ⟨kept, added, same, sublist, fun key member => weaker key (brought key member)⟩

theorem trans (first : Succeeds lasting new before middle) (second : Succeeds lasting new middle after) :
    Succeeds lasting new before after := by
  obtain ⟨kept, added, between, old, brought⟩ := first
  obtain ⟨left, more, same, sublist, brought'⟩ := second
  rw [between] at sublist
  obtain ⟨fromKept, fromAdded, rfl, there, recent⟩ := List.sublist_append_iff.mp sublist
  refine ⟨fromKept, fromAdded ++ more, by rw [same, List.append_assoc], there.trans old, fun key member => ?_⟩
  rcases List.mem_append.mp member with early | late
  · exact brought key (recent.subset early)
  · exact brought' key late

/-- An item of the later list is an old one or a new one. -/
theorem origin (succeeds : Succeeds lasting new before after) {item : α} (member : item ∈ after) :
    (∃ old ∈ before, lasting old = lasting item) ∨ new (lasting item) := by
  obtain ⟨kept, added, same, sublist, brought⟩ := succeeds
  have listed : lasting item ∈ kept ++ added := same ▸ List.mem_map_of_mem member
  rcases List.mem_append.mp listed with old | recent
  · exact .inl (List.mem_map.mp (sublist.subset old))
  · exact .inr (brought _ recent)

end Succeeds

end TunnelitRelay.Data
