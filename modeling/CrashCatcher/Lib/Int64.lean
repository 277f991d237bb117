import Mathlib.Data.Int.Order.Basic
import Mathlib.Order.Lattice
import Mathlib.Tactic.Linarith

namespace CrashCatcher.Lib

structure I64 where
  val : Int
  lower : -2 ^ 63 ≤ val
  upper : val ≤ 2 ^ 63 - 1

namespace I64

@[ext] theorem ext {a b : I64} (h : a.val = b.val) : a = b := by
  cases a
  cases b
  cases h
  rfl

instance : DecidableEq I64 := fun a b => decidable_of_iff (a.val = b.val) ⟨ext, congrArg _⟩
instance : LE I64 := ⟨fun a b => a.val ≤ b.val⟩
instance : LT I64 := ⟨fun a b => a.val < b.val⟩
instance : DecidableLE I64 := fun a b => inferInstanceAs (Decidable (a.val ≤ b.val))
instance : DecidableLT I64 := fun a b => inferInstanceAs (Decidable (a.val < b.val))

theorem le_def {a b : I64} : a ≤ b ↔ a.val ≤ b.val := Iff.rfl
theorem lt_def {a b : I64} : a < b ↔ a.val < b.val := Iff.rfl

instance : LinearOrder I64 where
  le_refl a := Int.le_refl a.val
  le_trans _ _ _ := Int.le_trans
  le_antisymm _ _ h h' := ext (Int.le_antisymm h h')
  le_total a b := Int.le_total a.val b.val
  lt_iff_le_not_ge a b := by simp only [lt_def, le_def]; omega
  toDecidableLE := inferInstance
  toDecidableLT := inferInstance

def clamp (n : Int) : I64 :=
  ⟨max (-2 ^ 63) (min n (2 ^ 63 - 1)), by omega, by omega⟩

def ofInt? (n : Int) : Option I64 :=
  if bounds : -2 ^ 63 ≤ n ∧ n ≤ 2 ^ 63 - 1 then some ⟨n, bounds.1, bounds.2⟩ else none

theorem ofInt?_val (value : I64) : ofInt? value.val = some value := dif_pos ⟨value.lower, value.upper⟩

instance (n : Nat) : OfNat I64 n := ⟨clamp n⟩
instance : Inhabited I64 := ⟨0⟩

def minValue : I64 := ⟨-2 ^ 63, by decide, by decide⟩
def maxValue : I64 := ⟨2 ^ 63 - 1, by decide, by decide⟩

def wrap (n : Int) : I64 :=
  ⟨n.bmod 18446744073709551616, by
    have within := @Int.le_bmod n 18446744073709551616 (by decide)
    omega, by
    have within := @Int.bmod_lt n 18446744073709551616 (by decide)
    omega⟩

def saturatingAdd (a b : I64) : I64 := clamp (a.val + b.val)
def saturatingSub (a b : I64) : I64 := clamp (a.val - b.val)

def absDiff (a b : I64) : Nat := (a.val - b.val).natAbs

@[simp] theorem val_ofNat (n : Nat) [n.AtLeastTwo] :
    (OfNat.ofNat n : I64).val = max (-2 ^ 63) (min (n : Int) (2 ^ 63 - 1)) := rfl

@[simp] theorem val_zero : (0 : I64).val = 0 := by decide
@[simp] theorem val_one : (1 : I64).val = 1 := by decide

theorem val_wrap {n : Int} (lower : -2 ^ 63 ≤ n) (upper : n < 2 ^ 63) : (wrap n).val = n :=
  Int.bmod_eq_of_le (by simpa using lower) (by simpa using upper)

theorem val_saturatingAdd (a b : I64) :
    (a.saturatingAdd b).val = max (-2 ^ 63) (min (a.val + b.val) (2 ^ 63 - 1)) := rfl

theorem le_saturatingAdd {a b c : I64} (h : c.val ≤ a.val + b.val) : c ≤ a.saturatingAdd b := by
  rw [le_def, val_saturatingAdd]
  have := c.upper
  have := c.lower
  omega

@[simp] theorem val_min (a b : I64) : (min a b).val = min a.val b.val := by
  rcases le_total a b with h | h <;> simp [h, le_def.1 h]

@[simp] theorem val_max (a b : I64) : (max a b).val = max a.val b.val := by
  rcases le_total a b with h | h <;> simp [h, le_def.1 h]

end I64
end CrashCatcher.Lib
