import CrashCatcher.Lib.Text
import CrashCatcher.Lib.Radix
import Mathlib.Data.Char

namespace CrashCatcher.Model
open Lib

def alphabet : List Char := "0123456789ABCDEFGHJKMNPQRSTVWXYZ".toList
def timestampBits : Nat := 48
def sequenceBits : Nat := 128 - timestampBits
def idChars : Nat := 26

structure RecordId where
  text : Str
deriving DecidableEq

namespace RecordId

@[ext] theorem ext {a b : RecordId} (h : a.text = b.text) : a = b := by
  cases a
  cases b
  cases h
  rfl

instance : LinearOrder RecordId := LinearOrder.lift' text fun _ _ => ext

theorem lt_def {a b : RecordId} : a < b ↔ a.text < b.text := Iff.rfl

def parse (value : Str) : Option RecordId :=
  if value.length ≠ idChars then none
  else if value.all (alphabet.contains ·) then some ⟨value⟩ else none

def decodeStep (value : Nat) (c : Char) : Option Nat :=
  (alphabet.idxOf? c).map fun digit => (value <<< 5) % 2 ^ 128 ||| digit

def decode (id : RecordId) : Option Nat := id.text.foldlM decodeStep 0

def encodeSlots : Nat → Nat → Str → Str
  | 0, _, buffer => buffer
  | slots + 1, remaining, buffer =>
      encodeSlots slots (remaining >>> 5) (alphabet.getD (remaining &&& 0x1f) '0' :: buffer)

def encode (value : Nat) : RecordId := ⟨encodeSlots idChars value []⟩

def symbol (digit : Nat) : Char := alphabet.getD digit '0'

theorem symbol_mem {digit : Nat} (h : digit < 32) : alphabet.contains (symbol digit) := by
  revert digit; decide

theorem idxOf_symbol {digit : Nat} (h : digit < 32) : alphabet.idxOf? (symbol digit) = some digit := by
  revert digit; decide

theorem symbol_lt_symbol {a b : Nat} (hb : b < 32) (h : a < b) : symbol a < symbol b := by
  have ordered : ∀ b < 32, ∀ a < b, symbol a < symbol b := by decide
  exact ordered b hb a h

theorem encodeSlots_eq {slots value : Nat} (buffer : Str) (h : value < 32 ^ slots) :
    encodeSlots slots value buffer = (Radix.digits 32 slots value).map symbol ++ buffer := by
  induction slots generalizing value buffer with
  | zero => rfl
  | succ slots ih =>
      have shifted : value >>> 5 = value / 32 := Nat.shiftRight_eq_div_pow value 5
      have low : value &&& 0x1f = value % 32 := Nat.and_two_pow_sub_one_eq_mod value 5
      have rest : value / 32 < 32 ^ slots := Nat.div_lt_of_lt_mul (by rwa [pow_succ'] at h)
      rw [encodeSlots, shifted, low, ih _ rest, Radix.digits_succ_eq_append h, List.map_append]
      simp only [List.map_cons, List.map_nil, List.append_assoc, List.cons_append, List.nil_append]
      rfl

theorem fits_width {value : Nat} (h : value < 2 ^ 128) : value < 32 ^ idChars :=
  h.trans (by decide)

theorem encode_text {value : Nat} (h : value < 2 ^ 128) :
    (encode value).text = (Radix.digits 32 idChars value).map symbol := by
  rw [encode, encodeSlots_eq [] (fits_width h), List.append_nil]

theorem encode_lt_encode {a b : Nat} (hb : b < 2 ^ 128) (h : a < b) : encode a < encode b := by
  rw [lt_def, encode_text (h.trans hb), encode_text hb]
  apply Radix.map_lt_map _ (Radix.digits_lt_digits (fits_width hb) h)
  intro x _ y hy hxy
  exact symbol_lt_symbol (Radix.digit_lt (by decide) (fits_width hb) hy) hxy

theorem encode_lt_encode_iff {a b : Nat} (ha : a < 2 ^ 128) (hb : b < 2 ^ 128) :
    encode a < encode b ↔ a < b := by
  have mono : StrictMonoOn encode {v | v < 2 ^ 128} := fun _ _ _ hb h => encode_lt_encode hb h
  exact mono.lt_iff_lt ha hb

theorem encode_inj {a b : Nat} (ha : a < 2 ^ 128) (hb : b < 2 ^ 128) (h : encode a = encode b) :
    a = b := by
  have mono : StrictMonoOn encode {v | v < 2 ^ 128} := fun _ _ _ hb h => encode_lt_encode hb h
  exact mono.injOn ha hb h

/-- What `parse` checks. -/
structure WellFormed (id : RecordId) : Prop where
  wide : id.text.length = idChars
  known : ∀ c ∈ id.text, alphabet.contains c

theorem wellFormed_encode {value : Nat} (h : value < 2 ^ 128) : (encode value).WellFormed where
  wide := by rw [encode_text h, List.length_map, Radix.length_digits]
  known c hc := by
    rw [encode_text h] at hc
    obtain ⟨digit, hd, rfl⟩ := List.mem_map.mp hc
    exact symbol_mem (Radix.digit_lt (by decide) (fits_width h) hd)

theorem WellFormed.parse_text {id : RecordId} (h : id.WellFormed) : parse id.text = some id := by
  rw [parse, if_neg (not_not.mpr h.wide), if_pos (List.all_eq_true.mpr h.known)]

theorem parse_encode {value : Nat} (h : value < 2 ^ 128) :
    parse (encode value).text = some (encode value) :=
  (wellFormed_encode h).parse_text

theorem decodeStep_symbol {value digit : Nat} (h : digit < 32) :
    decodeStep (value % 2 ^ 128) (symbol digit) = some ((value * 32 + digit) % 2 ^ 128) := by
  have shifted : ((value % 2 ^ 128) <<< 5) % 2 ^ 128 = (value % 2 ^ 123) <<< 5 := by
    rw [Nat.shiftLeft_eq, Nat.shiftLeft_eq]
    omega
  rw [decodeStep, idxOf_symbol h, Option.map_some, shifted,
    ← Nat.shiftLeft_add_eq_or_of_lt (by omega), Nat.shiftLeft_eq]
  congr 1
  omega

theorem foldlM_symbols {ds : List Nat} (h : ∀ d ∈ ds, d < 32) (value : Nat) :
    (ds.map symbol).foldlM decodeStep (value % 2 ^ 128) =
      some (ds.foldl (fun v d => v * 32 + d) value % 2 ^ 128) := by
  induction ds generalizing value with
  | nil => rfl
  | cons d ds ih =>
      rw [List.map_cons, List.foldlM_cons, decodeStep_symbol (h d List.mem_cons_self)]
      exact ih (fun d hd => h d (List.mem_cons_of_mem _ hd)) _

theorem decode_encode {value : Nat} (h : value < 2 ^ 128) : decode (encode value) = some value := by
  have small : ∀ d ∈ Radix.digits 32 idChars value, d < 32 := fun d hd =>
    Radix.digit_lt (by decide) (fits_width h) hd
  have folded := foldlM_symbols small 0
  rw [decode, encode_text h]
  rw [Radix.foldl_digits 0 (fits_width h), Nat.zero_mul, Nat.zero_add, Nat.mod_eq_of_lt h] at folded
  exact folded

end RecordId

structure RecordIdGenerator where
  lastMs : Nat
  sequence : Nat
deriving DecidableEq

namespace RecordIdGenerator

def new : RecordIdGenerator := { lastMs := 0, sequence := 0 }

def resumeAfter (generator : RecordIdGenerator) (id : RecordId) : RecordIdGenerator :=
  match id.decode with
  | none => generator
  | some value =>
      let timestamp := value >>> sequenceBits
      let sequence := value &&& (2 ^ sequenceBits - 1)
      if timestamp > generator.lastMs ∨
          timestamp = generator.lastMs ∧ sequence ≥ generator.sequence then
        { lastMs := timestamp, sequence }
      else generator

def stamp (generator : RecordIdGenerator) (nowMs : Nat) : Nat :=
  max nowMs generator.lastMs &&& (2 ^ timestampBits - 1)

def advance (generator : RecordIdGenerator) (nowMs : Nat) : RecordIdGenerator :=
  if generator.stamp nowMs = generator.lastMs then
    { generator with
      sequence := (generator.sequence + 1) % 2 ^ 128 &&& (2 ^ sequenceBits - 1) }
  else { lastMs := generator.stamp nowMs, sequence := 0 }

def value (generator : RecordIdGenerator) : Nat :=
  generator.lastMs <<< sequenceBits ||| generator.sequence

def next (generator : RecordIdGenerator) (nowMs : Nat) : RecordId × RecordIdGenerator :=
  (RecordId.encode (generator.advance nowMs).value, generator.advance nowMs)

structure Fits (generator : RecordIdGenerator) : Prop where
  timestamp : generator.lastMs < 2 ^ timestampBits
  sequence : generator.sequence < 2 ^ sequenceBits

theorem fits_new : new.Fits := ⟨by decide, by decide⟩

theorem value_eq {generator : RecordIdGenerator} (fits : generator.Fits) :
    generator.value = generator.lastMs * 2 ^ 80 + generator.sequence := by
  rw [value, ← Nat.shiftLeft_add_eq_or_of_lt fits.sequence, Nat.shiftLeft_eq]
  rfl

theorem value_lt {generator : RecordIdGenerator} (fits : generator.Fits) :
    generator.value < 2 ^ 128 := by
  have timestamp : generator.lastMs < 2 ^ 48 := fits.timestamp
  have sequence : generator.sequence < 2 ^ 80 := fits.sequence
  rw [value_eq fits]
  omega

theorem stamp_eq (generator : RecordIdGenerator) (nowMs : Nat) :
    generator.stamp nowMs = max nowMs generator.lastMs % 2 ^ 48 :=
  Nat.and_two_pow_sub_one_eq_mod _ 48

theorem advance_cases {generator : RecordIdGenerator} (fits : generator.Fits) (nowMs : Nat) :
    generator.stamp nowMs = generator.lastMs ∧
        generator.advance nowMs =
          { generator with sequence := (generator.sequence + 1) % 2 ^ 80 } ∨
      generator.stamp nowMs ≠ generator.lastMs ∧
        generator.advance nowMs = { lastMs := generator.stamp nowMs, sequence := 0 } := by
  have sequence : generator.sequence < 2 ^ 80 := fits.sequence
  by_cases same : generator.stamp nowMs = generator.lastMs
  · left
    have wrapped : (generator.sequence + 1) % 2 ^ 128 &&& (2 ^ sequenceBits - 1) =
        (generator.sequence + 1) % 2 ^ 80 := by
      rw [Nat.mod_eq_of_lt (by omega)]
      exact Nat.and_two_pow_sub_one_eq_mod _ 80
    rw [advance, if_pos same, wrapped]
    exact ⟨same, rfl⟩
  · right
    rw [advance, if_neg same]
    exact ⟨same, rfl⟩

theorem Fits.advance {generator : RecordIdGenerator} (fits : generator.Fits) (nowMs : Nat) :
    (generator.advance nowMs).Fits := by
  rcases advance_cases fits nowMs with ⟨_, stepped⟩ | ⟨_, stepped⟩
  · rw [stepped]
    exact ⟨fits.timestamp, Nat.mod_lt _ (by decide)⟩
  · rw [stepped]
    refine ⟨?_, Nat.two_pow_pos _⟩
    show generator.stamp nowMs < 2 ^ 48
    rw [stamp_eq]
    exact Nat.mod_lt _ (by decide)

theorem resumeAfter_encode {generator : RecordIdGenerator} (fits : generator.Fits) :
    new.resumeAfter (RecordId.encode generator.value) = generator := by
  have sequence : generator.sequence < 2 ^ 80 := fits.sequence
  have high : generator.value >>> sequenceBits = generator.lastMs := by
    rw [Nat.shiftRight_eq_div_pow, value_eq fits]
    show (generator.lastMs * 2 ^ 80 + generator.sequence) / 2 ^ 80 = generator.lastMs
    omega
  have low : generator.value &&& (2 ^ sequenceBits - 1) = generator.sequence := by
    rw [Nat.and_two_pow_sub_one_eq_mod, value_eq fits]
    show (generator.lastMs * 2 ^ 80 + generator.sequence) % 2 ^ 80 = generator.sequence
    omega
  have later : generator.lastMs > new.lastMs ∨
      generator.lastMs = new.lastMs ∧ generator.sequence ≥ new.sequence := by
    rcases Nat.eq_zero_or_pos generator.lastMs with zero | positive
    · exact Or.inr ⟨zero, Nat.zero_le _⟩
    · exact Or.inl positive
  unfold resumeAfter
  rw [RecordId.decode_encode (value_lt fits)]
  simp only [high, low, if_pos later]

end RecordIdGenerator
end CrashCatcher.Model
