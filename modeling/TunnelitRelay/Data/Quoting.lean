import Mathlib.Data.List.Basic

namespace TunnelitRelay.Data

/-! # Quoted words

A word between quotes ends at the next quote.  It is literal if up to there
every character stands for itself.
-/

variable {quote : Char} {special : Char → Bool} {text rest : List Char}

/-- Read a word after its opening quote, and what follows the closing one. -/
def readLiteral (quote : Char) (special : Char → Bool) : List Char → Option (List Char × List Char)
  | [] => none
  | c :: rest =>
      if c = quote then some ([], rest)
      else if special c then none
      else (readLiteral quote special rest).map fun read => (c :: read.1, read.2)

/-- A text between quotes is read as one literal word exactly if it has no quote
and no special character. -/
theorem readLiteral_iff : readLiteral quote special (text ++ quote :: rest) = some (text, rest) ↔
    ∀ c ∈ text, c ≠ quote ∧ special c = false := by
  induction text with
  | nil => simp [readLiteral]
  | cons c text ih =>
      simp only [List.cons_append, readLiteral, List.forall_mem_cons]
      split
      · rename_i closes
        simp [closes]
      · rename_i inside
        split
        · rename_i marked
          simp [marked]
        · rename_i plain
          rw [← ih]
          simp only [Option.map_eq_some_iff, Prod.mk.injEq, List.cons.injEq, true_and]
          constructor
          · rintro ⟨⟨word, later⟩, read, rfl, rfl⟩
            exact ⟨⟨inside, by simpa using plain⟩, read⟩
          · exact fun ⟨_, read⟩ => ⟨(text, rest), read, rfl, rfl⟩

/-- Two texts put between the same two texts are the same if the results are. -/
theorem between_inj {before after left right : String} :
    before ++ left ++ after = before ++ right ++ after ↔ left = right := by
  simp [← String.toList_inj]

end TunnelitRelay.Data
