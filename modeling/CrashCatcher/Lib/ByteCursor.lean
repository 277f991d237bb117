import CrashCatcher.Lib.Checked
import Mathlib.Algebra.Group.Nat.Defs
import Mathlib.Data.List.Infix

namespace CrashCatcher.Lib

namespace LittleEndian

def toLe : Nat → Nat → List UInt8
  | 0, _ => []
  | width + 1, n => UInt8.ofNat (n % 256) :: toLe width (n / 256)

def ofLe : List UInt8 → Nat
  | [] => 0
  | byte :: bytes => byte.toNat + 256 * ofLe bytes

@[simp] theorem length_toLe (width n : Nat) : (toLe width n).length = width := by
  induction width generalizing n with
  | zero => rfl
  | succ width ih => rw [toLe, List.length_cons, ih]

theorem ofLe_lt (bytes : List UInt8) : ofLe bytes < 256 ^ bytes.length := by
  induction bytes with
  | nil => exact Nat.one_pos
  | cons byte bytes ih =>
      have small := byte.toNat_lt
      rw [ofLe, List.length_cons, Nat.pow_succ']
      omega

theorem ofLe_toLe {width n : Nat} (fits : n < 256 ^ width) : ofLe (toLe width n) = n := by
  induction width generalizing n with
  | zero => exact (Nat.lt_one_iff.mp fits).symm
  | succ width ih =>
      rw [Nat.pow_succ'] at fits
      have low : (UInt8.ofNat (n % 256)).toNat = n % 256 := by simp
      rw [toLe, ofLe, ih (Nat.div_lt_of_lt_mul fits), low]
      exact Nat.mod_add_div n 256

theorem toLe_ofLe (bytes : List UInt8) : toLe bytes.length (ofLe bytes) = bytes := by
  induction bytes with
  | nil => rfl
  | cons byte bytes ih =>
      have small := byte.toNat_lt
      have low : (byte.toNat + 256 * ofLe bytes) % 256 = byte.toNat := by omega
      have high : (byte.toNat + 256 * ofLe bytes) / 256 = ofLe bytes := by omega
      rw [List.length_cons, ofLe, toLe, low, high, ih, UInt8.ofNat_toNat]

theorem ofLe_eq_iff {bytes : List UInt8} {n : Nat} :
    ofLe bytes = n ↔ n < 256 ^ bytes.length ∧ bytes = toLe bytes.length n := by
  constructor
  · rintro rfl
    exact ⟨ofLe_lt bytes, (toLe_ofLe bytes).symm⟩
  · rintro ⟨fits, same⟩
    rw [same, length_toLe] at *
    exact ofLe_toLe fits

end LittleEndian

structure ByteCursor where
  bytes : List UInt8
  position : Nat
deriving DecidableEq

namespace ByteCursor
open Checked LittleEndian
variable {ε : Type}

def new (bytes : List UInt8) : ByteCursor := { bytes, position := 0 }

/-- The difference saturates at zero. -/
def remaining (self : ByteCursor) : Nat := self.bytes.length - self.position

def rest (self : ByteCursor) : List UInt8 := self.bytes.drop self.position

def skip (self : ByteCursor) (count : Nat) : ByteCursor :=
  { self with position := self.position + count }

structure Inside (target : Target) (cursor : ByteCursor) : Prop where
  place : cursor.position ≤ cursor.bytes.length
  addressable : cursor.bytes.length ≤ target.usizeMax

def read (target : Target) (count : Nat) (short : Nat → ε) (self : ByteCursor) :
    Checked ε (List UInt8 × ByteCursor) :=
  if count > self.remaining then .error (short self.remaining)
  else do
    let position ← add target.usizeMax self.position count
    let bytes ← slice self.bytes self.position position
    return (bytes, { self with position })

@[simp] theorem rest_new (bytes : List UInt8) : (new bytes).rest = bytes := rfl

theorem length_rest (self : ByteCursor) : self.rest.length = self.remaining := List.length_drop

@[simp] theorem rest_skip (self : ByteCursor) (count : Nat) :
    (self.skip count).rest = self.rest.drop count := by
  rw [rest, rest, List.drop_drop]
  rfl

@[simp] theorem skip_skip (self : ByteCursor) (m n : Nat) : (self.skip m).skip n = self.skip (m + n) := by
  rw [skip, skip, skip, Nat.add_assoc]

@[simp] theorem skip_zero (self : ByteCursor) : self.skip 0 = self := rfl

theorem inside_new {target : Target} {bytes : List UInt8} (fits : bytes.length ≤ target.usizeMax) :
    (new bytes).Inside target :=
  ⟨Nat.zero_le _, fits⟩

variable {target : Target} {self : ByteCursor}

theorem Inside.skip (inside : self.Inside target) {count : Nat} (fits : count ≤ self.rest.length) :
    (self.skip count).Inside target where
  place := by
    have place := inside.place
    rw [length_rest, remaining] at fits
    show self.position + count ≤ self.bytes.length
    omega
  addressable := inside.addressable

theorem read_of_le (inside : self.Inside target) {count : Nat} (fits : count ≤ self.rest.length)
    (short : Nat → ε) :
    self.read target count short = .ok (self.rest.take count, self.skip count) := by
  have place : self.position + count ≤ self.bytes.length := (inside.skip fits).place
  have small : self.position + count ≤ target.usizeMax := place.trans inside.addressable
  rw [length_rest] at fits
  rw [read, if_neg (Nat.not_lt.mpr fits), add_of_le small, ok_bind,
    slice_of_le (Nat.le_add_right _ _) place, Nat.add_sub_cancel_left]
  rfl

theorem read_of_lt {count : Nat} (lacks : self.rest.length < count) (short : Nat → ε) :
    self.read target count short = .error (short self.rest.length) := by
  rw [length_rest] at lacks ⊢
  rw [read, if_pos lacks]

theorem returns_read (inside : self.Inside target) (count : Nat) (short : Nat → ε) :
    (self.read target count short).Returns := by
  by_cases fits : count ≤ self.rest.length
  · rw [read_of_le inside fits]
    trivial
  · rw [read_of_lt (Nat.not_le.mp fits)]
    trivial

theorem read_eq_ok_iff (inside : self.Inside target) {count : Nat} {short : Nat → ε} {bytes : List UInt8}
    {after : ByteCursor} :
    self.read target count short = .ok (bytes, after) ↔
      bytes <+: self.rest ∧ bytes.length = count ∧ after = self.skip count := by
  by_cases fits : count ≤ self.rest.length
  · rw [read_of_le inside fits, Checked.ok.injEq, Prod.mk.injEq]
    constructor
    · rintro ⟨rfl, rfl⟩
      exact ⟨List.take_prefix _ _, List.length_take_of_le fits, rfl⟩
    · rintro ⟨start, length, rfl⟩
      refine ⟨?_, rfl⟩
      rw [← length]
      exact (List.prefix_iff_eq_take.mp start).symm
  · rw [read_of_lt (Nat.not_le.mp fits)]
    constructor
    · intro impossible
      cases impossible
    · rintro ⟨start, length, -⟩
      exact absurd (length ▸ start.length_le) fits

/-- An unsigned number of so many bytes; each of them is taken by its index. -/
def readLe (target : Target) (width : Nat) (short : Nat → ε) (self : ByteCursor) :
    Checked ε (Nat × ByteCursor) := do
  let (bytes, after) ← self.read target width short
  let array ← slice bytes 0 width
  return (ofLe array, after)

theorem readLe_eq_ok_iff (inside : self.Inside target) {width : Nat} {short : Nat → ε} {n : Nat}
    {after : ByteCursor} :
    self.readLe target width short = .ok (n, after) ↔
      n < 256 ^ width ∧ toLe width n <+: self.rest ∧ after = self.skip width := by
  rw [readLe, bind_eq_ok]
  constructor
  · rintro ⟨⟨bytes, next⟩, ran, indexed⟩
    obtain ⟨start, rfl, rfl⟩ := (read_eq_ok_iff inside).mp ran
    simp only [slice_of_le (Nat.zero_le _) (Nat.le_refl _), ok_bind, pure_eq, Checked.ok.injEq, Prod.mk.injEq,
      List.drop_zero, Nat.sub_zero, List.take_length] at indexed
    obtain ⟨number, rfl⟩ := indexed
    obtain ⟨fits, same⟩ := ofLe_eq_iff.mp number
    exact ⟨fits, same ▸ start, rfl⟩
  · rintro ⟨fits, start, rfl⟩
    refine ⟨(toLe width n, self.skip width), (read_eq_ok_iff inside).mpr ⟨start, length_toLe _ _, rfl⟩, ?_⟩
    have whole : (toLe width n).take width = toLe width n := List.take_of_length_le (length_toLe _ _).le
    simp only [slice_of_le (Nat.zero_le _) (length_toLe width n).ge, ok_bind, pure_eq, List.drop_zero,
      Nat.sub_zero, whole, ofLe_toLe fits]

theorem returns_readLe (inside : self.Inside target) (width : Nat) (short : Nat → ε) :
    (self.readLe target width short).Returns := by
  apply (returns_read inside width short).bind
  rintro ⟨bytes, after⟩ ran
  obtain ⟨-, rfl, -⟩ := (read_eq_ok_iff inside).mp ran
  show (slice bytes 0 bytes.length >>= fun array => pure (ofLe array, after)).Returns
  rw [slice_of_le (Nat.zero_le _) (Nat.le_refl _)]
  trivial

end ByteCursor
end CrashCatcher.Lib
