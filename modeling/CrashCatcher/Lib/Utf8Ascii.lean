import CrashCatcher.Lib.Utf8

namespace CrashCatcher.Lib.Utf8

def Ascii (s : Str) : Prop := ∀ c ∈ s, c.toNat < 0x80

instance (s : Str) : Decidable (Ascii s) := List.decidableBAll (fun c : Char => c.toNat < 0x80) s

theorem encode_byte {b : UInt8} (small : b.toNat < 0x80) :
    String.utf8EncodeChar (Char.ofNat b.toNat) = [b] := by
  have known : ∀ n, n < 128 → String.utf8EncodeChar (Char.ofNat n) = [UInt8.ofNat n] := by decide +kernel
  simpa using known b.toNat small

theorem lead_settles {b : UInt8} (ascii : Ascii (lead b).1) (settled : (lead b).2 = .start) :
    b.toNat < 0x80 := by
  have known : ∀ n, n < 256 → Ascii (lead (UInt8.ofNat n)).1 → (lead (UInt8.ofNat n)).2 = .start →
      n < 0x80 := by
    decide +kernel
  have here := known b.toNat b.toNat_lt
  rw [UInt8.ofNat_toNat] at here
  exact here ascii settled

theorem next_settles {state : Decoding} (sound : state.Sound) {b : UInt8} (ascii : Ascii (next state b).1)
    (settled : (next state b).2 = .start) : state = .start ∧ b.toNat < 0x80 := by
  cases state with
  | start => exact ⟨rfl, lead_settles ascii settled⟩
  | within lower upper more value =>
      by_cases goesOn : lower ≤ b ∧ b ≤ upper
      · rw [next, if_pos goesOn] at ascii settled
        cases more with
        | succ more => cases settled
        | zero =>
            have narrowed := sound_within sound goesOn.1 goesOn.2
            have wide : Wide (value * 64 + (b.toNat &&& 0x3F)) := by
              simp only [Nat.pow_zero, Nat.mul_one] at narrowed
              exact ⟨narrowed.1, by omega⟩
            have small := ascii _ (List.mem_singleton_self _)
            rw [toNat_ofNat_of_wide wide] at small
            exact absurd small (Nat.not_lt.mpr wide.1)
      · rw [next, if_neg goesOn] at ascii
        exact absurd (ascii replacement List.mem_cons_self) (by decide)

theorem lossyFrom_settles {state : Decoding} (sound : state.Sound) {bytes : List UInt8}
    (ascii : Ascii (lossyFrom state bytes)) : state = .start ∧ ∀ b ∈ bytes, b.toNat < 0x80 := by
  induction bytes generalizing state with
  | nil =>
      cases state with
      | start => exact ⟨rfl, by simp⟩
      | within lower upper more value =>
          exact absurd (ascii replacement (List.mem_singleton_self _)) (by decide)
  | cons b rest ih =>
      rw [lossyFrom] at ascii
      have later := ih (sound_next sound b) fun c member => ascii c (List.mem_append_right _ member)
      have here := next_settles sound (fun c member => ascii c (List.mem_append_left _ member)) later.1
      exact ⟨here.1, List.forall_mem_cons.mpr ⟨here.2, later.2⟩⟩

theorem lossyFrom_of_small {bytes : List UInt8} (small : ∀ b ∈ bytes, b.toNat < 0x80) :
    lossyFrom .start bytes = bytes.map fun b => Char.ofNat b.toNat := by
  induction bytes with
  | nil => rfl
  | cons b rest ih =>
      obtain ⟨first, later⟩ := List.forall_mem_cons.mp small
      rw [lossyFrom, next, lead_ascii first, ih later]
      rfl

theorem encode_of_small {bytes : List UInt8} (small : ∀ b ∈ bytes, b.toNat < 0x80) :
    encode (bytes.map fun b => Char.ofNat b.toNat) = bytes := by
  induction bytes with
  | nil => rfl
  | cons b rest ih =>
      obtain ⟨first, later⟩ := List.forall_mem_cons.mp small
      rw [List.map_cons, encode, List.flatMap_cons, encode_byte first]
      exact congrArg (b :: ·) (ih later)

theorem exists_bytes_of_ascii {s : Str} (ascii : Ascii s) :
    ∃ bytes : List UInt8, (∀ b ∈ bytes, b.toNat < 0x80) ∧ s = bytes.map fun b => Char.ofNat b.toNat := by
  induction s with
  | nil => exact ⟨[], by simp, rfl⟩
  | cons c s ih =>
      obtain ⟨first, later⟩ := List.forall_mem_cons.mp ascii
      obtain ⟨bytes, small, rfl⟩ := ih later
      have number : (UInt8.ofNat c.toNat).toNat = c.toNat := by
        rw [UInt8.toNat_ofNat']
        exact Nat.mod_eq_of_lt (first.trans (by decide))
      refine ⟨UInt8.ofNat c.toNat :: bytes, List.forall_mem_cons.mpr ⟨by rwa [number], small⟩, ?_⟩
      rw [List.map_cons, number, Char.ofNat_toNat]

/-- Only the bytes of an ASCII text are read as that text. -/
theorem fromUtf8Lossy_eq_iff {s : Str} (ascii : Ascii s) {bytes : List UInt8} :
    fromUtf8Lossy bytes = s ↔ bytes = encode s := by
  constructor
  · rintro rfl
    have small := (@lossyFrom_settles .start trivial bytes ascii).2
    rw [fromUtf8Lossy, lossyFrom_of_small small, encode_of_small small]
  · rintro rfl
    obtain ⟨bytes, small, rfl⟩ := exists_bytes_of_ascii ascii
    rw [encode_of_small small, fromUtf8Lossy, lossyFrom_of_small small]

end CrashCatcher.Lib.Utf8
