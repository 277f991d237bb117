import CrashCatcher.Lib.Decimal
import Mathlib.Algebra.Group.Int.Defs

namespace CrashCatcher.Lib

/-- `char::to_digit`. -/
def digitOf (radix : Nat) (c : Char) : Option Nat :=
  let value :=
    if c.isDigit then c.toNat - 48
    else if 'a' ≤ c ∧ c ≤ 'z' then c.toNat - 87
    else if 'A' ≤ c ∧ c ≤ 'Z' then c.toNat - 55
    else radix
  if value < radix then some value else none

def readFrom (radix : Nat) : Nat → Str → Option Nat
  | n, [] => some n
  | n, c :: s => match digitOf radix c with
    | none => none
    | some digit => readFrom radix (n * radix + digit) s

def readDigits (radix : Nat) (s : Str) : Option Nat := if s.isEmpty then none else readFrom radix 0 s

/-- `from_str_radix` of an unsigned type, which takes a leading plus sign. -/
def parseUnsigned (radix limit : Nat) (s : Str) : Option Nat :=
  let digits := if s.head? = some '+' then s.tail else s
  (readDigits radix digits).filter fun n => n < limit

def parseU64 (s : Str) : Option UInt64 := (parseUnsigned 10 UInt64.size s).map UInt64.ofNat
def parseHexU64 (s : Str) : Option UInt64 := (parseUnsigned 16 UInt64.size s).map UInt64.ofNat

def parseI32 (s : Str) : Option Int :=
  if s.head? = some '-' then
    ((readDigits 10 s.tail).filter fun n => n ≤ 2147483648).map fun n => -(n : Int)
  else (parseUnsigned 10 2147483648 s).map fun n => (n : Int)

theorem digitOf_of_isDigit {c : Char} (digit : c.isDigit = true) : digitOf 10 c = some (c.toNat - 48) := by
  have small : c.toNat - 48 < 10 := by
    have range := (Char.isDigit_iff_toNat.mp digit).2
    have nine : '9'.toNat = 57 := rfl
    omega
  simp only [digitOf, digit, if_true, small]

theorem readFrom_of_digits {s : Str} (digits : ∀ c ∈ s, c.isDigit = true) (n : Nat) :
    readFrom 10 n s = some (Nat.ofDigitChars 10 s n) := by
  induction s generalizing n with
  | nil => rw [readFrom, Nat.ofDigitChars_nil]
  | cons c s ih =>
      obtain ⟨first, later⟩ := List.forall_mem_cons.mp digits
      simp only [readFrom, digitOf_of_isDigit first]
      rw [ih later, Nat.ofDigitChars_cons, Nat.mul_comm]
      rfl

theorem readDigits_toDigits (n : Nat) : readDigits 10 (Nat.toDigits 10 n) = some n := by
  rw [readDigits, if_neg (by simp), readFrom_of_digits fun c => Decimal.isDigit_of_mem_toDigits,
    Nat.ofDigitChars_ten_toDigits]

theorem isWhitespace_of_isAlphanum {c : Char} (letter : c.isAlphanum = true) : Text.isWhitespace c = false := by
  have range : 48 ≤ c.toNat ∧ c.toNat ≤ 122 := by
    rcases Bool.or_eq_true_iff.mp letter with alpha | digit
    · rcases Bool.or_eq_true_iff.mp alpha with upper | lower
      · have ends : 65 ≤ c.toNat ∧ c.toNat ≤ 90 := of_decide_eq_true upper
        omega
      · obtain ⟨first, last⟩ := Bool.and_eq_true_iff.mp lower
        have ends : 97 ≤ c.toNat ∧ c.toNat ≤ 122 := ⟨of_decide_eq_true first, of_decide_eq_true last⟩
        omega
    · obtain ⟨first, last⟩ := Bool.and_eq_true_iff.mp digit
      have ends : 48 ≤ c.toNat ∧ c.toNat ≤ 57 := ⟨of_decide_eq_true first, of_decide_eq_true last⟩
      omega
  simp only [Text.isWhitespace, Bool.or_eq_false_iff, Bool.and_eq_false_iff, decide_eq_false_iff_not,
    beq_eq_false_iff_ne]
  omega

theorem isAlphanum_of_digitOf {radix : Nat} {c : Char} (digit : (digitOf radix c).isSome) :
    c.isAlphanum = true := by
  rw [digitOf] at digit
  by_cases decimal : c.isDigit = true
  · exact Bool.or_eq_true_iff.mpr (.inr decimal)
  · by_cases lower : 'a' ≤ c ∧ c ≤ 'z'
    · have lower' : c.isLower = true := Bool.and_eq_true_iff.mpr
        ⟨decide_eq_true lower.1, decide_eq_true lower.2⟩
      exact Bool.or_eq_true_iff.mpr (.inl (Bool.or_eq_true_iff.mpr (.inr lower')))
    · by_cases upper : 'A' ≤ c ∧ c ≤ 'Z'
      · have upper' : c.isUpper = true := decide_eq_true upper
        exact Bool.or_eq_true_iff.mpr (.inl (Bool.or_eq_true_iff.mpr (.inl upper')))
      · simp [decimal, lower, upper] at digit

theorem digitOf_of_readFrom {radix n value : Nat} {s : Str} (read : readFrom radix n s = some value) :
    ∀ c ∈ s, (digitOf radix c).isSome := by
  induction s generalizing n with
  | nil => simp
  | cons c s ih =>
      rw [readFrom] at read
      cases digit : digitOf radix c with
      | none => simp [digit] at read
      | some d =>
          rw [digit] at read
          exact List.forall_mem_cons.mpr ⟨by rw [digit]; rfl, ih read⟩

theorem digitOf_of_readDigits {radix value : Nat} {s : Str} (read : readDigits radix s = some value) :
    s ≠ [] ∧ ∀ c ∈ s, (digitOf radix c).isSome := by
  rw [readDigits] at read
  split_ifs at read with empty
  exact ⟨by simpa using empty, digitOf_of_readFrom read⟩

theorem isAlphanum_of_readDigits {radix value : Nat} {s : Str} (read : readDigits radix s = some value) :
    s ≠ [] ∧ ∀ c ∈ s, c.isAlphanum = true := by
  obtain ⟨nonempty, digits⟩ := digitOf_of_readDigits read
  exact ⟨nonempty, fun c member => isAlphanum_of_digitOf (digits c member)⟩

theorem parseUnsigned_of_readDigits {radix limit n : Nat} {s : Str} (read : readDigits radix s = some n)
    (small : n < limit) : parseUnsigned radix limit s = some n := by
  have plus : s.head? ≠ some '+' := fun head => by
    have letter := (isAlphanum_of_readDigits read).2 '+' (List.mem_of_mem_head? head)
    cases letter
  rw [parseUnsigned, if_neg plus, read, Option.filter_some, if_pos (decide_eq_true small)]

theorem parseU64_toDigits (n : UInt64) : parseU64 (Nat.toDigits 10 n.toNat) = some n := by
  rw [parseU64, parseUnsigned_of_readDigits (readDigits_toDigits _) n.toNat_lt, Option.map_some,
    UInt64.ofNat_toNat]

theorem parseHexU64_of_readDigits {s : Str} {n : UInt64} (read : readDigits 16 s = some n.toNat) :
    parseHexU64 s = some n := by
  rw [parseHexU64, parseUnsigned_of_readDigits read n.toNat_lt, Option.map_some, UInt64.ofNat_toNat]

theorem parseI32_toString {value : Int} (lower : -2 ^ 31 ≤ value) (upper : value < 2 ^ 31) :
    parseI32 (toString value).toList = some value := by
  rcases Decimal.toString_int_cases value with ⟨n, nonneg, text⟩ | ⟨n, neg, text⟩
  · have minus : (Nat.toDigits 10 n).head? ≠ some '-' := fun head =>
      Decimal.minus_notMem_toDigits n (List.mem_of_mem_head? head)
    rw [text, parseI32, if_neg minus, parseUnsigned_of_readDigits (readDigits_toDigits n) (by omega), nonneg]
    rfl
  · rw [text, parseI32, List.head?_cons, if_pos rfl, List.tail_cons, readDigits_toDigits, Option.filter_some,
      if_pos (decide_eq_true (by omega)), neg]
    rfl

/-! Characters of written numbers. -/

theorem notMem_toDigits {c : Char} (other : c.isDigit = false) (n : Nat) : c ∉ Nat.toDigits 10 n := by
  intro member
  rw [Decimal.isDigit_of_mem_toDigits member] at other
  cases other

theorem toString_int_chars (value : Int) : ∀ c ∈ (toString value).toList, c = '-' ∨ c.isDigit = true := by
  rcases Decimal.toString_int_cases value with ⟨n, -, text⟩ | ⟨n, -, text⟩
  · rw [text]
    exact fun c member => .inr (Decimal.isDigit_of_mem_toDigits member)
  · rw [text]
    exact List.forall_mem_cons.mpr ⟨.inl rfl, fun c member => .inr (Decimal.isDigit_of_mem_toDigits member)⟩

theorem toString_int_ne_nil (value : Int) : (toString value).toList ≠ [] := by
  rcases Decimal.toString_int_cases value with ⟨n, -, text⟩ | ⟨n, -, text⟩
  · rw [text]
    exact Nat.toDigits_ne_nil
  · rw [text]
    exact List.cons_ne_nil _ _

theorem solid_toString_int (value : Int) : ∀ c ∈ (toString value).toList, Text.isWhitespace c = false := by
  intro c member
  rcases toString_int_chars value c member with rfl | digit
  · decide
  · exact isWhitespace_of_isAlphanum (by simp [Char.isAlphanum, digit])

theorem notMem_toString_int {c : Char} (minus : c ≠ '-') (digit : c.isDigit = false) (value : Int) :
    c ∉ (toString value).toList := by
  intro member
  rcases toString_int_chars value c member with same | same
  · exact minus same
  · rw [digit] at same
    cases same

end CrashCatcher.Lib
