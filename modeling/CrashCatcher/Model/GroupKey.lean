import CrashCatcher.Lib.Decimal
import CrashCatcher.Model.Fingerprint

namespace CrashCatcher.Model.GroupKey
open Lib

/-- A text that memory can hold: at most `isize::MAX` bytes. -/
def Addressable (s : Str) : Prop := Utf8.size s < 2 ^ 63

instance : DecidablePred Addressable := fun s => inferInstanceAs (Decidable (Utf8.size s < 2 ^ 63))

structure Representable (key : GroupKey) : Prop where
  packageName : Addressable key.packageName
  processName : Addressable key.processName
  userId : -2 ^ 31 ≤ key.userId ∧ key.userId < 2 ^ 31
  primary : Addressable key.fingerprint.primary
  frames : ∀ frame ∈ key.fingerprint.frames, Addressable frame
  frameCount : key.fingerprint.frames.length < 2 ^ 63

theorem u64BE_inj {m n : Nat} (hm : m < 2 ^ 64) (hn : n < 2 ^ 64) (same : u64BE m = u64BE n) : m = n := by
  simp [u64BE, List.range_succ, ← UInt8.toNat_inj] at same
  omega

theorem length_u64BE (n : Nat) : (u64BE n).length = 8 := by
  rw [u64BE, List.length_map, List.length_range]

theorem utf8_injective : Function.Injective utf8 := by
  intro s t same
  have read := Utf8.fromUtf8_encode s
  rw [show Utf8.encode s = Utf8.encode t from same, Utf8.fromUtf8_encode] at read
  exact (Option.some.inj read).symm

theorem feed_append_inj {a b : Str} {s t : List UInt8} (ha : Addressable a) (hb : Addressable b)
    (same : feed a ++ s = feed b ++ t) : a = b ∧ s = t := by
  have la : (utf8 a).length < 2 ^ 63 := (Utf8.length_encode a).symm ▸ ha
  have lb : (utf8 b).length < 2 ^ 63 := (Utf8.length_encode b).symm ▸ hb
  rw [feed, feed, List.append_assoc, List.append_assoc] at same
  obtain ⟨prefixes, rest⟩ := List.append_inj same (by rw [length_u64BE, length_u64BE])
  have length := u64BE_inj (by omega) (by omega) prefixes
  obtain ⟨bytes, rest⟩ := List.append_inj rest length
  exact ⟨utf8_injective bytes, rest⟩

theorem feed_ne_nil (value : Str) : feed value ≠ [] := by
  intro none
  have length := congrArg List.length none
  rw [feed, List.length_append, length_u64BE] at length
  simp at length

theorem flatMap_feed_inj {frames frames' : List Str} (h : ∀ frame ∈ frames, Addressable frame)
    (h' : ∀ frame ∈ frames', Addressable frame) (same : frames.flatMap feed = frames'.flatMap feed) :
    frames = frames' := by
  induction frames generalizing frames' with
  | nil =>
      cases frames' with
      | nil => rfl
      | cons frame rest => exact absurd (List.append_eq_nil_iff.mp same.symm).1 (feed_ne_nil frame)
  | cons frame rest ih =>
      cases frames' with
      | nil => exact absurd (List.append_eq_nil_iff.mp same).1 (feed_ne_nil frame)
      | cons frame' rest' =>
          rw [List.flatMap_cons, List.flatMap_cons] at same
          rw [List.forall_mem_cons] at h h'
          obtain ⟨head, tail⟩ := feed_append_inj h.1 h'.1 same
          rw [head, ih h.2 h'.2 tail]

theorem size_le (s : Str) : Utf8.size s ≤ 4 * s.length := by
  induction s with
  | nil => exact Nat.le_refl 0
  | cons c s ih =>
      have wide := c.utf8Size_le_four
      rw [Utf8.size_cons, List.length_cons]
      omega

theorem addressable_of_short {s : Str} (short : s.length ≤ 20) : Addressable s := by
  have size := size_le s
  unfold Addressable
  omega

theorem addressable_int {value : Int} (small : value.natAbs < 10 ^ 10) :
    Addressable (toString value).toList :=
  addressable_of_short ((Decimal.length_toString_int_le (by decide) small).trans (by decide))

theorem addressable_nat {n : Nat} (small : n < 2 ^ 63) : Addressable (toString n).toList :=
  addressable_of_short (Decimal.length_toString_nat_le (by decide) (small.trans (by decide)))

theorem natAbs_asI64 (kind : CrashKind) : kind.asI64.natAbs < 10 ^ 10 := by
  cases kind <;> decide

theorem hashInput_inj {key key' : GroupKey} (h : key.Representable) (h' : key'.Representable)
    (same : key.hashInput = key'.hashInput) : key = key' := by
  obtain ⟨package, process, user, ⟨kind, primary, frames⟩⟩ := key
  obtain ⟨package', process', user', ⟨kind', primary', frames'⟩⟩ := key'
  have user32 := h.userId
  have user32' := h'.userId
  simp only at user32 user32'
  simp only [hashInput, List.append_assoc] at same
  obtain ⟨packages, same⟩ := feed_append_inj h.packageName h'.packageName same
  obtain ⟨processes, same⟩ := feed_append_inj h.processName h'.processName same
  obtain ⟨userText, same⟩ :=
    feed_append_inj (addressable_int (by omega)) (addressable_int (by omega)) same
  obtain ⟨kindText, same⟩ :=
    feed_append_inj (addressable_int (natAbs_asI64 _)) (addressable_int (natAbs_asI64 _)) same
  obtain ⟨primaries, same⟩ := feed_append_inj h.primary h'.primary same
  obtain ⟨_, same⟩ := feed_append_inj (addressable_nat h.frameCount) (addressable_nat h'.frameCount) same
  have users := Decimal.toString_int_injective userText
  have kinds := CrashKind.asI64_injective (Decimal.toString_int_injective kindText)
  have lists := flatMap_feed_inj h.frames h'.frames same
  subst packages processes users kinds primaries lists
  rfl

theorem hexDigit_inj {m n : Nat} (hm : m < 16) (hn : n < 16) (same : hexDigit m = hexDigit n) : m = n := by
  have apart : ∀ m < 16, ∀ n < 16, hexDigit m = hexDigit n → m = n := by decide
  exact apart m hm n hn same

theorem hexEncode_injective : Function.Injective hexEncode := by
  intro a b same
  induction a generalizing b with
  | nil =>
      cases b with
      | nil => rfl
      | cons y b => cases same
  | cons x a ih =>
      cases b with
      | nil => cases same
      | cons y b =>
          simp only [hexEncode, List.flatMap_cons, List.cons_append, List.nil_append, List.cons.injEq] at same
          obtain ⟨high, low, rest⟩ := same
          have hx := x.toNat_lt
          have hy := y.toNat_lt
          have high := hexDigit_inj (by omega) (by omega) high
          have low := hexDigit_inj (by omega) (by omega) low
          have byte : x = y := UInt8.toNat_inj.mp (by omega)
          rw [byte, ih rest]

/-- Keys that differ feed different bytes to the hash, so that their groups are one group only
when the truncated hash collides. -/
theorem keys_differ_in_hash_input {key key' : GroupKey} (h : key.Representable) (h' : key'.Representable)
    (differ : key ≠ key') : key.hashInput ≠ key'.hashInput ∧
      ∀ sha256, groupId sha256 key = groupId sha256 key' →
        (sha256 key.hashInput).take 16 = (sha256 key'.hashInput).take 16 :=
  ⟨fun same => differ (hashInput_inj h h' same), fun _ same => hexEncode_injective same⟩

def wtfKey (primary : Str) (frames : List Str) : GroupKey where
  packageName := ['p']
  processName := ['p']
  userId := 0
  fingerprint := { kind := .wtf, primary, frames }

theorem separator_not_forged :
    (wtfKey "a\u001fb".toList []).hashInput ≠ (wtfKey ['a'] [['b']]).hashInput :=
  (keys_differ_in_hash_input ⟨by decide, by decide, by decide, by decide, by decide, by decide⟩
    ⟨by decide, by decide, by decide, by decide, by decide, by decide⟩ (by decide)).1

end CrashCatcher.Model.GroupKey
