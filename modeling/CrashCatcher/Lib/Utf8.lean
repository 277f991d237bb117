import CrashCatcher.Lib.Text
import Mathlib.Algebra.Group.Nat.Defs

namespace CrashCatcher.Lib.Utf8

def encode (s : Str) : List UInt8 := s.flatMap String.utf8EncodeChar

def size : Str → Nat
  | [] => 0
  | c :: s => c.utf8Size + size s

@[simp] theorem size_nil : size [] = 0 := rfl
@[simp] theorem size_cons (c : Char) (s : Str) : size (c :: s) = c.utf8Size + size s := rfl

@[simp] theorem size_append (s t : Str) : size (s ++ t) = size s + size t := by
  induction s with
  | nil => exact (Nat.zero_add _).symm
  | cons c s ih => rw [List.cons_append, size_cons, size_cons, ih, Nat.add_assoc]

theorem length_encode (s : Str) : (encode s).length = size s := by
  induction s with
  | nil => rfl
  | cons c s ih =>
      rw [encode, List.flatMap_cons, List.length_append, String.length_utf8EncodeChar, size_cons, ← ih]
      rfl

def replacement : Char := '\uFFFD'

/-- Where a decoder stands between two bytes: at a character's start, or inside one that goes on
with a byte from a range and `more` bytes after it. -/
inductive Decoding where
  | start
  | within (lower upper : UInt8) (more value : Nat)
deriving DecidableEq

def lead (b : UInt8) : Str × Decoding :=
  let payload (mask : Nat) : Nat := b.toNat &&& mask
  if b < 0x80 then ([Char.ofNat b.toNat], .start)
  else if b < 0xC2 then ([replacement], .start)
  else if b < 0xE0 then ([], .within 0x80 0xBF 0 (payload 0x1F))
  else if b = 0xE0 then ([], .within 0xA0 0xBF 1 (payload 0x0F))
  else if b = 0xED then ([], .within 0x80 0x9F 1 (payload 0x0F))
  else if b < 0xF0 then ([], .within 0x80 0xBF 1 (payload 0x0F))
  else if b = 0xF0 then ([], .within 0x90 0xBF 2 (payload 0x07))
  else if b < 0xF4 then ([], .within 0x80 0xBF 2 (payload 0x07))
  else if b = 0xF4 then ([], .within 0x80 0x8F 2 (payload 0x07))
  else ([replacement], .start)

def extend (value : Nat) (b : UInt8) : Nat → Str × Decoding
  | 0 => ([Char.ofNat (value * 64 + (b.toNat &&& 0x3F))], .start)
  | more + 1 => ([], .within 0x80 0xBF more (value * 64 + (b.toNat &&& 0x3F)))

/-- A byte that cannot go on with a character ends it as malformed and starts the next one. -/
def next : Decoding → UInt8 → Str × Decoding
  | .start, b => lead b
  | .within lower upper more value, b =>
      if lower ≤ b ∧ b ≤ upper then extend value b more
      else (replacement :: (lead b).1, (lead b).2)

def lossyFrom : Decoding → List UInt8 → Str
  | .start, [] => []
  | .within _ _ _ _, [] => [replacement]
  | state, b :: rest => (next state b).1 ++ lossyFrom (next state b).2 rest

/-- `String::from_utf8_lossy`: each maximal part of a malformed sequence becomes one U+FFFD. -/
def fromUtf8Lossy (bytes : List UInt8) : Str := lossyFrom .start bytes

def fromUtf8 (bytes : List UInt8) : Option Str :=
  bytes.toByteArray.utf8Decode?.map Array.toList

theorem fromUtf8_encode (s : Str) : fromUtf8 (encode s) = some s := by
  have decoded : (encode s).toByteArray.utf8Decode? = some s.toArray := List.utf8Decode?_utf8Encode
  rw [fromUtf8, decoded]
  rfl

theorem fromUtf8_eq_some_iff {bytes : List UInt8} {s : Str} : fromUtf8 bytes = some s ↔ bytes = encode s := by
  constructor
  · intro read
    have decodes : bytes.toByteArray.utf8Decode?.isSome := by
      rw [fromUtf8, Option.map_eq_some_iff] at read
      obtain ⟨chars, decoded, -⟩ := read
      rw [decoded]
      rfl
    obtain ⟨text, same⟩ := ByteArray.isSome_utf8Decode?_iff.mp decodes
    have whole : bytes = encode text := by
      have data := congrArg (fun array => array.data.toList) same
      simp only [List.utf8Encode, List.data_toByteArray] at data
      exact data
    rw [whole, fromUtf8_encode, Option.some.injEq] at read
    rw [whole, read]
  · rintro rfl
    exact fromUtf8_encode s

example : fromUtf8Lossy [0x61, 0xE0, 0x9F, 0xF0, 0x90, 0x80, 0x62, 0xC3, 0xA9] =
    ['a', replacement, replacement, replacement, 'b', 'é'] := by decide

def Wide (n : Nat) : Prop := 0x80 ≤ n ∧ (n < 0xD800 ∨ 0xE000 ≤ n ∧ n < 0x110000)

def Decoding.Sound : Decoding → Prop
  | .start => True
  | .within lower upper more value =>
      0x80 ≤ lower.toNat ∧ upper.toNat ≤ 0xBF ∧
        0x80 ≤ (value * 64 + (lower.toNat - 0x80)) * 64 ^ more ∧
        ((value * 64 + (upper.toNat - 0x80) + 1) * 64 ^ more ≤ 0xD800 ∨
          0xE000 ≤ (value * 64 + (lower.toNat - 0x80)) * 64 ^ more ∧
            (value * 64 + (upper.toNat - 0x80) + 1) * 64 ^ more ≤ 0x110000)

instance : DecidablePred Decoding.Sound
  | .start => .isTrue trivial
  | .within _ _ _ _ => inferInstanceAs (Decidable (_ ∧ _))

theorem sound_lead (b : UInt8) : (lead b).2.Sound := by
  have known : ∀ n, n < 256 → (lead (UInt8.ofNat n)).2.Sound := by decide +kernel
  simpa using known b.toNat b.toNat_lt

theorem and_mask_of_tail {b : UInt8} (tail : 0x80 ≤ b.toNat) (below : b.toNat ≤ 0xBF) :
    b.toNat &&& 0x3F = b.toNat - 0x80 := by
  have known : ∀ n : Nat, n < 64 → (n + 0x80) &&& 0x3F = n := by decide
  have here := known (b.toNat - 0x80) (by omega)
  rwa [Nat.sub_add_cancel tail] at here

theorem sound_within {lower upper b : UInt8} {more value : Nat}
    (sound : (Decoding.within lower upper more value).Sound) (from' : lower ≤ b) (upTo : b ≤ upper) :
    let value' := value * 64 + (b.toNat &&& 0x3F)
    0x80 ≤ value' * 64 ^ more ∧ (value' * 64 ^ more + 64 ^ more ≤ 0xD800 ∨
      0xE000 ≤ value' * 64 ^ more ∧ value' * 64 ^ more + 64 ^ more ≤ 0x110000) := by
  obtain ⟨tail, below, wide, valid⟩ := sound
  have from' : lower.toNat ≤ b.toNat := from'
  have upTo : b.toNat ≤ upper.toNat := upTo
  have masked := and_mask_of_tail (tail.trans from') (upTo.trans below)
  have least : (value * 64 + (lower.toNat - 0x80)) * 64 ^ more ≤
      (value * 64 + (b.toNat - 0x80)) * 64 ^ more := Nat.mul_le_mul_right _ (by omega)
  have most : (value * 64 + (b.toNat - 0x80) + 1) * 64 ^ more ≤
      (value * 64 + (upper.toNat - 0x80) + 1) * 64 ^ more := Nat.mul_le_mul_right _ (by omega)
  rw [Nat.succ_mul (value * 64 + (b.toNat - 0x80))] at most
  simp only [masked]
  omega

theorem sound_next {state : Decoding} (sound : state.Sound) (b : UInt8) : (next state b).2.Sound := by
  cases state with
  | start => exact sound_lead b
  | within lower upper more value =>
      by_cases goesOn : lower ≤ b ∧ b ≤ upper
      · rw [next, if_pos goesOn]
        cases more with
        | zero => trivial
        | succ more =>
            have narrowed := sound_within sound goesOn.1 goesOn.2
            simp only [Nat.pow_succ'] at narrowed
            refine ⟨by decide, by decide, ?_⟩
            simp only [show (0x80 : UInt8).toNat = 0x80 from rfl, show (0xBF : UInt8).toNat = 0xBF from rfl,
              Nat.sub_self, Nat.add_zero, Nat.mul_assoc, Nat.add_assoc, Nat.add_mul _ _ (64 ^ more)]
            omega
      · rw [next, if_neg goesOn]
        exact sound_lead b

theorem toNat_ofNat_of_wide {n : Nat} (wide : Wide n) : (Char.ofNat n).toNat = n := by
  have valid : n.isValidChar := by
    rcases wide.2 with below | above
    · exact .inl below
    · exact .inr ⟨by omega, above.2⟩
  rw [Char.ofNat, dif_pos valid]
  rfl

theorem toNat_ofNat_byte (b : UInt8) : (Char.ofNat b.toNat).toNat = b.toNat := by
  have valid : b.toNat.isValidChar := .inl (b.toNat_lt.trans (by decide))
  rw [Char.ofNat, dif_pos valid]
  rfl

section Ascii
variable {p : Char → Bool} (ascii : ∀ c, p c = true → c.toNat < 0x80)
include ascii

theorem countP_wide {c : Char} (wide : 0x80 ≤ c.toNat) : [c].countP p = 0 := by
  rw [List.countP_singleton, if_neg]
  intro holds
  exact absurd (ascii c holds) (Nat.not_lt.mpr wide)

theorem countP_byte_wide {b : UInt8} (wide : 0x80 ≤ b.toNat) : p (Char.ofNat b.toNat) = false := by
  rw [← Bool.not_eq_true]
  intro holds
  have small := ascii _ holds
  rw [toNat_ofNat_byte] at small
  omega

theorem countP_lead (b : UInt8) :
    (lead b).1.countP p = if p (Char.ofNat b.toNat) then 1 else 0 := by
  have malformed : [replacement].countP p = 0 := countP_wide ascii (by decide)
  by_cases small : b < 0x80
  · rw [lead, if_pos small, List.countP_singleton]
  · have wide : 0x80 ≤ b.toNat := Nat.not_lt.mp small
    rw [countP_byte_wide ascii wide, lead, if_neg small]
    split_ifs <;> first | rfl | exact malformed | contradiction

theorem countP_next {state : Decoding} (sound : state.Sound) (b : UInt8) :
    (next state b).1.countP p = if p (Char.ofNat b.toNat) then 1 else 0 := by
  cases state with
  | start => exact countP_lead ascii b
  | within lower upper more value =>
      by_cases goesOn : lower ≤ b ∧ b ≤ upper
      · have wide : 0x80 ≤ b.toNat := sound.1.trans goesOn.1
        rw [countP_byte_wide ascii wide, next, if_pos goesOn]
        cases more with
        | zero =>
            have narrowed := sound_within sound goesOn.1 goesOn.2
            simp only [Nat.pow_zero, Nat.mul_one] at narrowed
            have wide : Wide (value * 64 + (b.toNat &&& 0x3F)) := ⟨narrowed.1, by omega⟩
            refine countP_wide ascii ?_
            rw [toNat_ofNat_of_wide wide]
            exact wide.1
        | succ more => rfl
      · have malformed : [replacement].countP p = 0 := countP_wide ascii (by decide)
        rw [next, if_neg goesOn, ← List.singleton_append, List.countP_append, malformed, Nat.zero_add]
        exact countP_lead ascii b

theorem countP_lossyFrom {state : Decoding} (sound : state.Sound) (bytes : List UInt8) :
    (lossyFrom state bytes).countP p = bytes.countP fun b => p (Char.ofNat b.toNat) := by
  induction bytes generalizing state with
  | nil =>
      cases state with
      | start => rfl
      | within => exact countP_wide ascii (c := replacement) (by decide)
  | cons b rest ih =>
      rw [lossyFrom, List.countP_append, countP_next ascii sound, ih (sound_next sound b),
        List.countP_cons, Nat.add_comm]

theorem countP_fromUtf8Lossy (bytes : List UInt8) :
    (fromUtf8Lossy bytes).countP p = bytes.countP fun b => p (Char.ofNat b.toNat) := by
  have start : Decoding.Sound .start := trivial
  exact countP_lossyFrom ascii start bytes

end Ascii

section SplitOnce
variable {b : UInt8} (small : b < 0x80)
include small

theorem lead_ascii : lead b = ([Char.ofNat b.toNat], .start) := by rw [lead, if_pos small]

theorem next_ascii {state : Decoding} (sound : state.Sound) :
    ∃ before, (next state b) = (before ++ [Char.ofNat b.toNat], .start) ∧ Char.ofNat b.toNat ∉ before := by
  have ascii : b.toNat < 0x80 := small
  cases state with
  | start => exact ⟨[], lead_ascii small, List.not_mem_nil⟩
  | within lower upper more value =>
      have apart : ¬ (lower ≤ b ∧ b ≤ upper) := fun goesOn =>
        absurd ascii (Nat.not_lt.mpr (sound.1.trans goesOn.1))
      refine ⟨[replacement], ?_, ?_⟩
      · rw [next, if_neg apart, lead_ascii small, List.singleton_append]
      · intro member
        have same := congrArg Char.toNat (List.mem_singleton.mp member)
        have far : (0x80 : Nat) ≤ replacement.toNat := by decide
        rw [toNat_ofNat_byte] at same
        omega

theorem not_mem_next {state : Decoding} (sound : state.Sound) {x : UInt8} (apart : x ≠ b) :
    Char.ofNat b.toNat ∉ (next state x).1 := by
  have ascii : ∀ c : Char, (c == Char.ofNat b.toNat) = true → c.toNat < 0x80 := by
    intro c same
    rw [beq_iff_eq.mp same, toNat_ofNat_byte]
    exact small
  have other : (Char.ofNat x.toNat == Char.ofNat b.toNat) = false := by
    rw [beq_eq_false_iff_ne]
    intro same
    have bytes := congrArg Char.toNat same
    rw [toNat_ofNat_byte, toNat_ofNat_byte] at bytes
    exact apart (UInt8.toNat_inj.mp bytes)
  have none := countP_next ascii sound x
  rw [other, if_neg Bool.false_ne_true, List.countP_eq_zero] at none
  exact fun member => none _ member (beq_self_eq_true _)

theorem splitOnce_lossyFrom {state : Decoding} (sound : state.Sound) (bytes : List UInt8) :
    ((Text.splitOnce (Char.ofNat b.toNat) (lossyFrom state bytes)).map Prod.snd).getD [] =
      fromUtf8Lossy (bytes.dropWhile (· ≠ b)).tail := by
  induction bytes generalizing state with
  | nil =>
      cases state with
      | start => rfl
      | within lower upper more value =>
          have apart : Char.ofNat b.toNat ∉ [replacement] := by
            intro member
            have same := congrArg Char.toNat (List.mem_singleton.mp member)
            have far : (0x80 : Nat) ≤ replacement.toNat := by decide
            have ascii : b.toNat < 0x80 := small
            rw [toNat_ofNat_byte] at same
            omega
          rw [lossyFrom, Text.splitOnce_eq_none apart]
          rfl
  | cons x rest ih =>
      rw [lossyFrom]
      by_cases here : x = b
      · subst here
        obtain ⟨before, stepped, apart⟩ := next_ascii small sound
        rw [stepped, List.append_assoc, Text.splitOnce_append apart, List.dropWhile_cons_of_neg (by simp)]
        simp [Text.splitOnce, fromUtf8Lossy]
      · rw [Text.splitOnce_append (not_mem_next small sound here),
          List.dropWhile_cons_of_pos (by simpa using here), ← ih (sound_next sound x)]
        cases Text.splitOnce (Char.ofNat b.toNat) (lossyFrom (next state x).2 rest) <;> rfl

end SplitOnce
end CrashCatcher.Lib.Utf8
