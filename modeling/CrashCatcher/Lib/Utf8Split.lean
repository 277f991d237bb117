import CrashCatcher.Lib.Utf8

namespace CrashCatcher.Lib.Utf8

/-! Where bytes can be cut so that both parts decode to the parts of the whole text. -/

def Continuation (b : UInt8) : Prop := b &&& 0xC0 = 0x80

instance : DecidablePred Continuation := fun b => inferInstanceAs (Decidable (b &&& 0xC0 = 0x80))

theorem tail_iff (b : UInt8) : Continuation b ↔ 0x80 ≤ b.toNat ∧ b.toNat ≤ 0xBF := by
  have known : ∀ n, n < 256 → (Continuation (UInt8.ofNat n) ↔ 0x80 ≤ n ∧ n ≤ 0xBF) := by decide +kernel
  simpa using known b.toNat b.toNat_lt

/-- The text that bytes give on the way, and where the decoder stands after them. -/
def feed : Decoding → List UInt8 → Str × Decoding
  | state, [] => ([], state)
  | state, b :: rest => ((next state b).1 ++ (feed (next state b).2 rest).1, (feed (next state b).2 rest).2)

theorem feed_cons (state : Decoding) (b : UInt8) (rest : List UInt8) :
    (feed state (b :: rest)).2 = (feed (next state b).2 rest).2 := rfl

/-- What the end of the bytes gives: a character that was begun is malformed. -/
def flush : Decoding → Str
  | .start => []
  | .within _ _ _ _ => [replacement]

theorem lossyFrom_nil (state : Decoding) : lossyFrom state [] = flush state := by
  cases state <;> rfl

theorem lossyFrom_append (state : Decoding) (bytes more : List UInt8) :
    lossyFrom state (bytes ++ more) = (feed state bytes).1 ++ lossyFrom (feed state bytes).2 more := by
  induction bytes generalizing state with
  | nil => rfl
  | cons b rest ih => rw [List.cons_append, lossyFrom, feed, ih, List.append_assoc]

theorem lossyFrom_feed (state : Decoding) (bytes : List UInt8) :
    lossyFrom state bytes = (feed state bytes).1 ++ flush (feed state bytes).2 := by
  have ended := lossyFrom_append state bytes []
  rwa [List.append_nil, lossyFrom_nil] at ended

theorem sound_feed {state : Decoding} (sound : state.Sound) (bytes : List UInt8) :
    (feed state bytes).2.Sound := by
  induction bytes generalizing state with
  | nil => exact sound
  | cons b rest ih => exact ih (sound_next sound b)

theorem lossyFrom_of_not_tail {state : Decoding} (sound : state.Sound) {b : UInt8} (apart : ¬ Continuation b)
    (rest : List UInt8) : lossyFrom state (b :: rest) = flush state ++ lossyFrom .start (b :: rest) := by
  cases state with
  | start => rfl
  | within lower upper more value =>
      have outside : ¬ (lower ≤ b ∧ b ≤ upper) := by
        rintro ⟨from', upTo⟩
        have from' : lower.toNat ≤ b.toNat := from'
        have upTo : b.toNat ≤ upper.toNat := upTo
        exact apart ((tail_iff b).mpr ⟨sound.1.trans from', upTo.trans sound.2.1⟩)
      rw [lossyFrom, next, if_neg outside]
      rfl

def Decoding.owed : Decoding → Nat
  | .start => 0
  | .within _ _ more _ => more + 1

theorem owed_eq_zero {state : Decoding} (none : state.owed = 0) : state = .start := by
  cases state with
  | start => rfl
  | within => cases none

theorem owed_lead (b : UInt8) : (lead b).2.owed ≤ 3 := by
  unfold lead
  split_ifs <;> simp [Decoding.owed]

theorem lead_tail {b : UInt8} (tail : Continuation b) : (lead b).2 = .start := by
  obtain ⟨from', upTo⟩ := (tail_iff b).mp tail
  have wide : ¬ b < 0x80 := Nat.not_lt.mpr from'
  have low : b < 0xC2 := show b.toNat < 0xC2 by omega
  rw [lead, if_neg wide, if_pos low]

theorem owed_next_tail (state : Decoding) {b : UInt8} (tail : Continuation b) :
    (next state b).2.owed ≤ state.owed - 1 := by
  cases state with
  | start => rw [next, lead_tail tail]; exact Nat.zero_le _
  | within lower upper more value =>
      by_cases goesOn : lower ≤ b ∧ b ≤ upper
      · rw [next, if_pos goesOn]
        cases more <;> exact le_refl _
      · rw [next, if_neg goesOn, lead_tail tail]
        exact Nat.zero_le _

theorem owed_feed_tails (state : Decoding) {bytes : List UInt8} (tails : ∀ b ∈ bytes, Continuation b) :
    (feed state bytes).2.owed ≤ state.owed - bytes.length := by
  induction bytes generalizing state with
  | nil => exact le_refl _
  | cons b rest ih =>
      have first := owed_next_tail state (tails b List.mem_cons_self)
      have others := ih (next state b).2 fun c there => tails c (List.mem_cons_of_mem _ there)
      rw [feed_cons, List.length_cons]
      omega

theorem feed_tails_start {b : UInt8} {rest : List UInt8} (tails : ∀ c ∈ rest, Continuation c)
    (enough : 3 ≤ rest.length) :
    (feed .start (b :: rest)).2 = .start := by
  apply owed_eq_zero
  have first : (next .start b).2.owed ≤ 3 := owed_lead b
  have others := owed_feed_tails (next .start b).2 tails
  rw [feed_cons]
  omega

/-- A cut between two characters, or where no character is begun. -/
def CleanCut (front back : List UInt8) : Prop :=
    (∀ b ∈ back.head?, ¬ Continuation b) ∨ (feed .start front).2 = .start

theorem fromUtf8Lossy_append {front back : List UInt8} (clean : CleanCut front back) :
    fromUtf8Lossy (front ++ back) = fromUtf8Lossy front ++ fromUtf8Lossy back := by
  have start : Decoding.Sound .start := trivial
  unfold fromUtf8Lossy
  rw [lossyFrom_append, lossyFrom_feed .start front, List.append_assoc]
  congr 1
  rcases clean with apart | done
  · cases back with
    | nil => rw [lossyFrom_nil]; exact (List.append_nil _).symm
    | cons b rest => exact lossyFrom_of_not_tail (sound_feed start front) (apart b rfl) rest
  · rw [done]
    rfl

end CrashCatcher.Lib.Utf8
