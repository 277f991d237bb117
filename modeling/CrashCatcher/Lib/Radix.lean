import Mathlib.Data.List.Lex
import Mathlib.Data.Nat.ModEq
import Mathlib.Order.Monotone.Basic

namespace CrashCatcher.Lib.Radix

/-- The last `w` digits of `v` in base `b`, most significant first. -/
def digits (b : Nat) : Nat → Nat → List Nat
  | 0, _ => []
  | w + 1, v => v / b ^ w :: digits b w (v % b ^ w)

variable {b : Nat}

@[simp] theorem length_digits (b w v : Nat) : (digits b w v).length = w := by
  induction w generalizing v with
  | zero => rfl
  | succ w ih => simp [digits, ih]

theorem digit_lt (hb : 0 < b) {w v d : Nat} (hv : v < b ^ w) (hd : d ∈ digits b w v) : d < b := by
  induction w generalizing v with
  | zero => cases hd
  | succ w ih =>
      cases hd with
      | head => exact Nat.div_lt_of_lt_mul (by rwa [pow_succ] at hv)
      | tail _ hd => exact ih (Nat.mod_lt _ (Nat.pow_pos hb)) hd

theorem digits_succ_eq_append {w v : Nat} (hv : v < b ^ (w + 1)) :
    digits b (w + 1) v = digits b w (v / b) ++ [v % b] := by
  induction w generalizing v with
  | zero =>
      have hv : v < b := by simpa using hv
      simp [digits, Nat.mod_eq_of_lt hv]
  | succ w ih =>
      have hb : 0 < b := Nat.pos_of_ne_zero (by rintro rfl; simp at hv)
      rw [digits, ih (Nat.mod_lt _ (Nat.pow_pos hb)), digits, List.cons_append]
      congr 1
      · rw [Nat.div_div_eq_div_mul, pow_succ']
      · rw [pow_succ', Nat.mod_mul_right_div_self, Nat.mod_mul_right_mod]

theorem foldl_digits {w v : Nat} (acc : Nat) (hv : v < b ^ w) :
    (digits b w v).foldl (fun v d => v * b + d) acc = acc * b ^ w + v := by
  induction w generalizing v acc with
  | zero =>
      have hv : v = 0 := by simpa using hv
      simp [digits, hv]
  | succ w ih =>
      have hb : 0 < b := Nat.pos_of_ne_zero (by rintro rfl; simp at hv)
      rw [digits, List.foldl_cons, ih _ (Nat.mod_lt _ (Nat.pow_pos hb)), Nat.add_mul, pow_succ',
        ← Nat.mul_assoc, Nat.add_assoc, Nat.div_add_mod']

/-- Fixed-width numerals are ordered as the numbers they stand for. -/
theorem digits_lt_digits {w v v' : Nat} (hv' : v' < b ^ w) (h : v < v') :
    digits b w v < digits b w v' := by
  induction w generalizing v v' with
  | zero => simp at hv'; omega
  | succ w ih =>
      have hb : 0 < b := Nat.pos_of_ne_zero (by rintro rfl; simp at hv')
      rw [digits, digits, List.cons_lt_cons_iff]
      rcases (Nat.div_le_div_right (c := b ^ w) h.le).lt_or_eq with high | high
      · exact Or.inl high
      · refine Or.inr ⟨high, ih (Nat.mod_lt _ (Nat.pow_pos hb)) ?_⟩
        have low := Nat.div_add_mod v (b ^ w)
        have low' := Nat.div_add_mod v' (b ^ w)
        rw [high] at low
        omega

theorem map_lt_map {α β : Type*} [LT α] [LT β] {f : α → β} {as bs : List α}
    (mono : ∀ a ∈ as, ∀ b ∈ bs, a < b → f a < f b) (h : as < bs) : as.map f < bs.map f := by
  induction as generalizing bs with
  | nil =>
      cases bs with
      | nil => cases h
      | cons b bs => exact List.Lex.nil
  | cons a as ih =>
      cases bs with
      | nil => cases h
      | cons b bs =>
          rw [List.cons_lt_cons_iff] at h
          rw [List.map_cons, List.map_cons, List.cons_lt_cons_iff]
          rcases h with h | ⟨rfl, h⟩
          · exact Or.inl (mono a List.mem_cons_self b List.mem_cons_self h)
          · refine Or.inr ⟨rfl, ih (fun x hx y hy => ?_) h⟩
            exact mono x (List.mem_cons_of_mem _ hx) y (List.mem_cons_of_mem _ hy)

end CrashCatcher.Lib.Radix
