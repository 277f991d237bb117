import CrashCatcher.Lib.Utf8
import Mathlib.Data.Nat.Basic

namespace CrashCatcher.Lib.Decimal

theorem toDigits_injective : Function.Injective (Nat.toDigits 10) := by
  intro m n same
  rw [← Nat.ofDigitChars_ten_toDigits (n := m), ← Nat.ofDigitChars_ten_toDigits (n := n), same]

theorem isDigit_of_mem_toDigits {n : Nat} {c : Char} (member : c ∈ Nat.toDigits 10 n) : c.isDigit = true :=
  Nat.isDigit_of_mem_toDigits (by decide) (by decide) member

theorem minus_notMem_toDigits (n : Nat) : '-' ∉ Nat.toDigits 10 n := by
  intro member
  cases isDigit_of_mem_toDigits member

theorem toString_nat (n : Nat) : (toString n).toList = Nat.toDigits 10 n := by
  show (Nat.repr n).toList = _
  simp

theorem toString_int_cases (value : Int) :
    (∃ n : Nat, value = n ∧ (toString value).toList = Nat.toDigits 10 n) ∨
      ∃ n : Nat, value = -n ∧ (toString value).toList = '-' :: Nat.toDigits 10 n := by
  cases value with
  | ofNat n =>
      refine .inl ⟨n, rfl, ?_⟩
      show (Int.repr (n : Int)).toList = _
      simp [Int.repr]
  | negSucc n =>
      refine .inr ⟨n + 1, rfl, ?_⟩
      show (Int.repr (Int.negSucc n)).toList = _
      simp [Int.repr]

theorem toString_int_injective {a b : Int} (same : (toString a).toList = (toString b).toList) : a = b := by
  rcases toString_int_cases a with ⟨m, rfl, left⟩ | ⟨m, rfl, left⟩ <;>
    rcases toString_int_cases b with ⟨n, rfl, right⟩ | ⟨n, rfl, right⟩ <;> rw [left, right] at same
  · rw [toDigits_injective same]
  · exact absurd (same ▸ List.mem_cons_self) (minus_notMem_toDigits m)
  · exact absurd (same ▸ List.mem_cons_self) (minus_notMem_toDigits n)
  · rw [toDigits_injective (List.cons.inj same).2]

theorem length_toString_int_le {value : Int} {k : Nat} (positive : 0 < k) (small : value.natAbs < 10 ^ k) :
    (toString value).toList.length ≤ k + 1 := by
  rcases toString_int_cases value with ⟨n, rfl, text⟩ | ⟨n, rfl, text⟩
  · rw [Int.natAbs_natCast] at small
    rw [text]
    exact ((Nat.length_toDigits_le_iff (by decide) positive).mpr small).trans (Nat.le_succ k)
  · rw [Int.natAbs_neg, Int.natAbs_natCast] at small
    rw [text, List.length_cons]
    exact Nat.succ_le_succ ((Nat.length_toDigits_le_iff (by decide) positive).mpr small)

theorem length_toString_nat_le {n k : Nat} (positive : 0 < k) (small : n < 10 ^ k) :
    (toString n).toList.length ≤ k := by
  rw [toString_nat]
  exact (Nat.length_toDigits_le_iff (by decide) positive).mpr small

end CrashCatcher.Lib.Decimal
