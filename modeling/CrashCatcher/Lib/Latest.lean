import Mathlib.Data.List.Sort
import Mathlib.Order.Defs.LinearOrder

namespace CrashCatcher.Lib

/-- The `limit` rows of the largest keys, the largest first; which of equal ones are among them is open. -/
structure Latest {α κ : Type*} [LE κ] (key : α → κ) (limit : Nat) (rows answer : List α) : Prop where
  descending : answer.Pairwise fun a b => key b ≤ key a
  length : answer.length = min limit rows.length
  chosen : ∃ rest, rows.Perm (answer ++ rest) ∧ ∀ a ∈ answer, ∀ b ∈ rest, key b ≤ key a

namespace Latest
variable {α κ : Type*} [LinearOrder κ] {key : α → κ} {limit : Nat} {rows : List α}

theorem of_append {answer rest : List α} (descending : (answer ++ rest).Pairwise fun a b => key b ≤ key a)
    (length : answer.length = min limit (answer ++ rest).length) :
    Latest key limit (answer ++ rest) answer := by
  obtain ⟨within, -, across⟩ := List.pairwise_append.mp descending
  exact ⟨within, length, rest, .refl _, across⟩

/-- Searching only the first rows of an order finds the first rows that match exactly when all of these match
or none of the others does. -/
theorem filter_take_iff (descending : rows.Pairwise fun a b => key b ≤ key a) (p : α → Bool) :
    Latest key limit (rows.filter p) ((rows.take limit).filter p) ↔
      (∀ row ∈ rows.take limit, p row) ∨ ∀ row ∈ rows.drop limit, ¬ p row := by
  have split : rows.filter p = (rows.take limit).filter p ++ (rows.drop limit).filter p := by
    rw [← List.filter_append, List.take_append_drop]
  have all_iff := List.length_filter_eq_length_iff (p := p) (l := rows.take limit)
  have none_iff := List.filter_eq_nil_iff (p := p) (l := rows.drop limit)
  have within : ((rows.take limit).filter p).length ≤ (rows.take limit).length := List.length_filter_le _ _
  have taken : (rows.take limit).length = min limit rows.length := List.length_take
  have left : (rows.drop limit).length = rows.length - limit := List.length_drop
  have beyond : ((rows.drop limit).filter p).length ≤ (rows.drop limit).length := List.length_filter_le _ _
  rw [split, ← all_iff, ← none_iff, ← List.length_eq_zero_iff]
  constructor
  · intro latest
    have length := latest.length
    rw [List.length_append] at length
    omega
  · intro either
    refine of_append ?_ ?_
    · rw [← split]
      exact descending.filter p
    · rw [List.length_append]
      omega

end Latest
end CrashCatcher.Lib
