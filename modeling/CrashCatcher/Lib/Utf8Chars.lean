import CrashCatcher.Lib.Utf8Split

namespace CrashCatcher.Lib.Utf8

/-! The bytes of one character. -/

def tailByte (n : Nat) : UInt8 := UInt8.ofNat (n + 0x80)

theorem toNat_tailByte {n : Nat} (small : n < 64) : (tailByte n).toNat = n + 0x80 := by
  rw [tailByte, UInt8.toNat_ofNat']
  exact Nat.mod_eq_of_lt (by omega)

theorem continuation_tailByte {n : Nat} (small : n < 64) : Continuation (tailByte n) := by
  rw [tail_iff, toNat_tailByte small]
  omega

theorem mask_tailByte {n : Nat} (small : n < 64) : (tailByte n).toNat &&& 0x3F = n := by
  have value := toNat_tailByte small
  rw [and_mask_of_tail (by omega) (by omega), value]
  omega

inductive Spelling (c : Char) : List UInt8 → Prop where
  | one (small : c.toNat < 0x80) : Spelling c [UInt8.ofNat c.toNat]
  | two {a b : Nat} (lead : 2 ≤ a ∧ a < 32) (tail : b < 64) (spelled : c.toNat = a * 64 + b) :
      Spelling c [UInt8.ofNat (a + 0xC0), tailByte b]
  | three {a b d : Nat} (lead : a < 16) (tail : b < 64) (tail' : d < 64) (long : a = 0 → 32 ≤ b)
      (scalar : a = 13 → b < 32) (spelled : c.toNat = (a * 64 + b) * 64 + d) :
      Spelling c [UInt8.ofNat (a + 0xE0), tailByte b, tailByte d]
  | four {a b d e : Nat} (lead : a < 5) (tail : b < 64) (tail' : d < 64) (tail'' : e < 64)
      (long : a = 0 → 16 ≤ b)
      (scalar : a = 4 → b < 16) (spelled : c.toNat = ((a * 64 + b) * 64 + d) * 64 + e) :
      Spelling c [UInt8.ofNat (a + 0xF0), tailByte b, tailByte d, tailByte e]

theorem spelling (c : Char) : Spelling c (String.utf8EncodeChar c) := by
  have valid : c.toNat < 0xD800 ∨ 0xDFFF < c.toNat ∧ c.toNat < 0x110000 := c.valid
  have value : c.val.toNat = c.toNat := rfl
  rw [String.utf8EncodeChar]
  simp only [value]
  split_ifs with one two three
  · exact .one (by omega)
  · have lead : c.toNat / 64 % 32 = c.toNat / 64 := by omega
    rw [lead]
    exact .two (by omega) (by omega) (by omega)
  · have lead : c.toNat / 4096 % 16 = c.toNat / 4096 := by omega
    rw [lead]
    exact .three (by omega) (by omega) (by omega) (by omega) (by omega) (by omega)
  · have lead : c.toNat / 262144 % 8 = c.toNat / 262144 := by omega
    rw [lead]
    exact .four (by omega) (by omega) (by omega) (by omega) (by omega) (by omega) (by omega)

theorem lead_two {a : Nat} (range : 2 ≤ a ∧ a < 32) :
    lead (UInt8.ofNat (a + 0xC0)) = ([], .within 0x80 0xBF 0 a) := by
  have known : ∀ a, a < 32 → 2 ≤ a → lead (UInt8.ofNat (a + 0xC0)) = ([], .within 0x80 0xBF 0 a) := by decide
  exact known a range.2 range.1

theorem lead_three {a : Nat} (small : a < 16) : lead (UInt8.ofNat (a + 0xE0)) =
    ([], .within (if a = 0 then 0xA0 else 0x80) (if a = 13 then 0x9F else 0xBF) 1 a) := by
  have known : ∀ a, a < 16 → lead (UInt8.ofNat (a + 0xE0)) =
      ([], .within (if a = 0 then 0xA0 else 0x80) (if a = 13 then 0x9F else 0xBF) 1 a) := by decide
  exact known a small

theorem lead_four {a : Nat} (small : a < 5) : lead (UInt8.ofNat (a + 0xF0)) =
    ([], .within (if a = 0 then 0x90 else 0x80) (if a = 4 then 0x8F else 0xBF) 2 a) := by
  have known : ∀ a, a < 5 → lead (UInt8.ofNat (a + 0xF0)) =
      ([], .within (if a = 0 then 0x90 else 0x80) (if a = 4 then 0x8F else 0xBF) 2 a) := by decide
  exact known a small

theorem next_start (b : UInt8) : next .start b = lead b := rfl

theorem next_tailByte {lower upper : UInt8} {more value n : Nat} (small : n < 64)
    (within : lower.toNat ≤ n + 0x80 ∧ n + 0x80 ≤ upper.toNat) :
    next (.within lower upper more value) (tailByte n) = match more with
      | 0 => ([Char.ofNat (value * 64 + n)], .start)
      | more + 1 => ([], .within 0x80 0xBF more (value * 64 + n)) := by
  have range : lower ≤ tailByte n ∧ tailByte n ≤ upper := by
    rw [UInt8.le_iff_toNat_le, UInt8.le_iff_toNat_le, toNat_tailByte small]
    exact within
  rw [next, if_pos range]
  cases more <;> rw [extend, mask_tailByte small]

theorem next_anyTail {more value n : Nat} (small : n < 64) :
    next (.within 0x80 0xBF more value) (tailByte n) = match more with
      | 0 => ([Char.ofNat (value * 64 + n)], .start)
      | more + 1 => ([], .within 0x80 0xBF more (value * 64 + n)) := by
  have range : (0x80 : UInt8).toNat ≤ n + 0x80 ∧ n + 0x80 ≤ (0xBF : UInt8).toNat := by
    show 0x80 ≤ n + 0x80 ∧ n + 0x80 ≤ 0xBF
    omega
  exact next_tailByte small range

theorem Spelling.feed {c : Char} {bytes : List UInt8} (spelled : Spelling c bytes) :
    feed .start bytes = ([c], .start) := by
  have value : Char.ofNat c.toNat = c := Char.ofNat_toNat c
  cases spelled with
  | one small =>
      have byte : (UInt8.ofNat c.toNat).toNat = c.toNat := by
        rw [UInt8.toNat_ofNat']
        exact Nat.mod_eq_of_lt (by omega)
      have ascii : UInt8.ofNat c.toNat < 0x80 := by
        rw [UInt8.lt_iff_toNat_lt, byte]
        exact small
      simp only [Utf8.feed, next, lead_ascii ascii, byte, value, List.append_nil]
  | @two a b first tail spelled =>
      rw [spelled] at value
      simp only [Utf8.feed, next_start, lead_two first, next_anyTail tail, value, List.append_nil,
        List.nil_append]
  | @three a b d first tail tail' long scalar spelled =>
      rw [spelled] at value
      have low : (0x80 : UInt8).toNat = 0x80 ∧ (0xBF : UInt8).toNat = 0xBF := ⟨rfl, rfl⟩
      have second : (if a = 0 then 0xA0 else 0x80 : UInt8).toNat ≤ b + 0x80 ∧
          b + 0x80 ≤ (if a = 13 then 0x9F else 0xBF : UInt8).toNat := by
        have range : (0xA0 : UInt8).toNat = 0xA0 ∧ (0x9F : UInt8).toNat = 0x9F := ⟨rfl, rfl⟩
        split_ifs with zero surrogate <;> omega
      simp only [Utf8.feed, next_start, lead_three first, next_tailByte tail second, next_anyTail tail', value,
        List.append_nil, List.nil_append]
  | @four a b d e first tail tail' tail'' long scalar spelled =>
      rw [spelled] at value
      have low : (0x80 : UInt8).toNat = 0x80 ∧ (0xBF : UInt8).toNat = 0xBF := ⟨rfl, rfl⟩
      have second : (if a = 0 then 0x90 else 0x80 : UInt8).toNat ≤ b + 0x80 ∧
          b + 0x80 ≤ (if a = 4 then 0x8F else 0xBF : UInt8).toNat := by
        have range : (0x90 : UInt8).toNat = 0x90 ∧ (0x8F : UInt8).toNat = 0x8F := ⟨rfl, rfl⟩
        split_ifs with zero high <;> omega
      simp only [Utf8.feed, next_start, lead_four first, next_tailByte tail second, next_anyTail tail',
        next_anyTail tail'', value, List.append_nil, List.nil_append]

def LeadOf (lead : UInt8) (tails : Nat) : Prop :=
  tails = 0 ∧ lead.toNat < 0x80 ∨ tails = 1 ∧ 0xC0 ≤ lead.toNat ∧ lead.toNat ≤ 0xDF ∨
    tails = 2 ∧ 0xE0 ≤ lead.toNat ∧ lead.toNat ≤ 0xEF ∨ tails = 3 ∧ 0xF0 ≤ lead.toNat ∧ lead.toNat ≤ 0xF7

theorem LeadOf.not_continuation {lead : UInt8} {tails : Nat} (of : LeadOf lead tails) :
    ¬ Continuation lead := by
  rw [tail_iff]
  unfold LeadOf at of
  omega

theorem Spelling.shape {c : Char} {bytes : List UInt8} (spelled : Spelling c bytes) :
    ∃ lead tails, bytes = lead :: tails ∧ LeadOf lead tails.length ∧ ∀ b ∈ tails, Continuation b := by
  have byte : ∀ {n : Nat}, n < 256 → (UInt8.ofNat n).toNat = n := by
    intro n small
    rw [UInt8.toNat_ofNat']
    exact Nat.mod_eq_of_lt small
  cases spelled with
  | one small =>
      refine ⟨_, [], rfl, .inl ⟨rfl, ?_⟩, by simp⟩
      rwa [byte (by omega)]
  | @two a b lead tail =>
      refine ⟨_, [tailByte b], rfl, .inr (.inl ⟨rfl, ?_⟩), by simp [continuation_tailByte tail]⟩
      rw [byte (by omega)]
      omega
  | @three a b d lead tail tail' =>
      refine ⟨_, [tailByte b, tailByte d], rfl, .inr (.inr (.inl ⟨rfl, ?_⟩)),
        by simp [continuation_tailByte tail, continuation_tailByte tail']⟩
      rw [byte (by omega)]
      omega
  | @four a b d e lead tail tail' tail'' =>
      refine ⟨_, [tailByte b, tailByte d, tailByte e], rfl, .inr (.inr (.inr ⟨rfl, ?_⟩)),
        by simp [continuation_tailByte tail, continuation_tailByte tail', continuation_tailByte tail'']⟩
      rw [byte (by omega)]
      omega

theorem encode_cons (c : Char) (s : Str) : encode (c :: s) = String.utf8EncodeChar c ++ encode s :=
    List.flatMap_cons

theorem encode_append (s t : Str) : encode (s ++ t) = encode s ++ encode t := List.flatMap_append

/-- The first bytes of the first character of a text, where not all of them are there; or none. -/
def Begun (part : List UInt8) (left : Str) : Prop :=
  part = [] ∨ ∃ c later more, left = c :: later ∧ String.utf8EncodeChar c = part ++ more ∧ part ≠ [] ∧ more ≠ []

theorem exists_cut {front back : List UInt8} {s : Str} (whole : front ++ back = encode s) :
    ∃ done left part, s = done ++ left ∧ front = encode done ++ part ∧ part ++ back = encode left ∧
      Begun part left := by
  induction s generalizing front with
  | nil =>
      obtain ⟨rfl, rfl⟩ := List.append_eq_nil_iff.mp whole
      exact ⟨[], [], [], rfl, rfl, rfl, .inl rfl⟩
  | cons c s ih =>
      rw [encode_cons] at whole
      rcases List.append_eq_append_iff.mp whole with ⟨more, inside, rest⟩ | ⟨more, rfl, rest⟩
      · by_cases none : front = []
        · refine ⟨[], c :: s, [], rfl, none, ?_, .inl rfl⟩
          rw [List.nil_append, encode_cons, ← whole, none, List.nil_append]
        by_cases all : more = []
        · rw [all, List.append_nil] at inside
          rw [all, List.nil_append] at rest
          refine ⟨[c], s, [], rfl, ?_, rest, .inl rfl⟩
          rw [encode_cons, inside]
          simp [encode]
        · refine ⟨[], c :: s, front, rfl, rfl, ?_, .inr ⟨c, s, more, rfl, inside, none, all⟩⟩
          rw [encode_cons, whole]
      · obtain ⟨done, left, part, rfl, rfl, behind, begun⟩ := ih rest.symm
        refine ⟨c :: done, left, part, rfl, ?_, behind, begun⟩
        rw [encode_cons, List.append_assoc]

theorem lossyFrom_encode (s : Str) (rest : List UInt8) :
    lossyFrom .start (encode s ++ rest) = s ++ lossyFrom .start rest := by
  induction s with
  | nil => rfl
  | cons c s ih =>
      rw [encode, List.flatMap_cons, List.append_assoc, lossyFrom_append, (spelling c).feed]
      exact congrArg (c :: ·) ih

theorem fromUtf8Lossy_encode (s : Str) : fromUtf8Lossy (encode s) = s := by
  have whole := lossyFrom_encode s []
  rw [List.append_nil] at whole
  rw [fromUtf8Lossy, whole, lossyFrom_nil]
  exact List.append_nil s

theorem zero_notMem_encode {s : Str} (plain : Char.ofNat 0 ∉ s) : (0 : UInt8) ∉ encode s := by
  have ascii : ∀ c : Char, (c == Char.ofNat 0) = true → c.toNat < 0x80 := by
    intro c same
    rw [beq_iff_eq.mp same]
    decide
  have counts := countP_fromUtf8Lossy ascii (encode s)
  have none : s.countP (· == Char.ofNat 0) = 0 := by
    rw [List.countP_eq_zero]
    intro c member same
    exact plain (beq_iff_eq.mp same ▸ member)
  rw [fromUtf8Lossy_encode, none] at counts
  intro member
  exact List.countP_eq_zero.mp counts.symm 0 member rfl

end CrashCatcher.Lib.Utf8
