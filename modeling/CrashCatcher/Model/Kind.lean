import Mathlib.Data.BitVec
import Mathlib.Order.Defs.LinearOrder
import CrashCatcher.Lib.Int64
import CrashCatcher.Lib.Text

namespace CrashCatcher.Model
open Lib

inductive CrashKind where
  | javaException
  | anr
  | nativeCrash
  | wtf
deriving DecidableEq, Repr

namespace CrashKind

def asI64 : CrashKind → Int
  | javaException => 0
  | anr => 1
  | nativeCrash => 2
  | wtf => 3

def fromI64 (value : Int) : Option CrashKind :=
  if value = 0 then some javaException
  else if value = 1 then some anr
  else if value = 2 then some nativeCrash
  else if value = 3 then some wtf
  else none

def debug : CrashKind → Str
  | javaException => "JavaException".toList
  | anr => "Anr".toList
  | nativeCrash => "NativeCrash".toList
  | wtf => "Wtf".toList

theorem fromI64_asI64 (kind : CrashKind) : fromI64 kind.asI64 = some kind := by
  cases kind <;> rfl

theorem asI64_injective : Function.Injective asI64 := by
  intro a b same
  have read := fromI64_asI64 a
  rw [same, fromI64_asI64] at read
  exact (Option.some.inj read).symm

end CrashKind

/-- Which collectors observed an occurrence, one bit each. -/
structure SourceMask where
  bits : BitVec 32
deriving DecidableEq, Repr

namespace SourceMask

def events : SourceMask := ⟨1 <<< 0⟩
def crashBuffer : SourceMask := ⟨1 <<< 1⟩
def dropbox : SourceMask := ⟨1 <<< 2⟩
def tombstone : SourceMask := ⟨1 <<< 3⟩
def anrFile : SourceMask := ⟨1 <<< 4⟩
def known : BitVec 32 := 0b11111

def fromBitsTruncate (bits : BitVec 32) : SourceMask := ⟨bits &&& known⟩
def contains (self other : SourceMask) : Bool := self.bits &&& other.bits == other.bits
def union (self other : SourceMask) : SourceMask := ⟨self.bits ||| other.bits⟩
def intersects (self other : SourceMask) : Bool := self.bits &&& other.bits != 0

theorem contains_self (m : SourceMask) : m.contains m = true := by simp [contains]

theorem contains_union_left {m c : SourceMask} (other : SourceMask) (h : m.contains c = true) :
    (m.union other).contains c = true := by
  have within : m.bits &&& c.bits = c.bits := by simpa [contains] using h
  have wider : (m.bits ||| other.bits) &&& c.bits = c.bits := by
    ext i hi
    have bit := congrArg (fun bits => bits[i]) within
    grind
  simpa [contains, union] using wider

theorem contains_union_self (m other : SourceMask) : (other.union m).contains m = true := by
  have wider : (other.bits ||| m.bits) &&& m.bits = m.bits := by
    ext i hi
    grind
  simpa [contains, union] using wider

def IsSingle (mask : SourceMask) : Prop := ∃ i, i < 32 ∧ mask.bits = BitVec.twoPow 32 i

private theorem contains_iff_bit (m : SourceMask) {i : Nat} (hi : i < 32) {c : SourceMask}
    (hc : c.bits = BitVec.twoPow 32 i) : m.contains c = m.bits.getLsbD i := by
  have nonzero : 0#32 ≠ BitVec.twoPow 32 i := by
    intro zero
    have selected := congrArg (fun bits => bits.getLsbD i) zero
    simp [hi] at selected
  simp only [contains, hc, BitVec.and_twoPow]
  cases m.bits.getLsbD i <;> simp [nonzero]

theorem contains_union_of_single {a b c : SourceMask} (single : c.IsSingle) :
    (a.union b).contains c = (a.contains c || b.contains c) := by
  obtain ⟨i, hi, hc⟩ := single
  simp [contains_iff_bit _ hi hc, union]

theorem contains_single {a b : SourceMask} (ha : a.IsSingle) (hb : b.IsSingle) :
    a.contains b = true ↔ a = b := by
  obtain ⟨i, hi, ha⟩ := ha
  obtain ⟨j, hj, hb⟩ := hb
  rw [contains_iff_bit _ hj hb, ha]
  constructor
  · intro h
    rw [BitVec.getLsbD_twoPow] at h
    have same : i = j := by simpa [hi] using h
    cases a
    cases b
    simp_all
  · intro h
    have same : BitVec.twoPow 32 i = BitVec.twoPow 32 j := by rw [← ha, ← hb, h]
    rw [same]
    simp [hj]

end SourceMask

inductive PayloadState where
  | present
  | truncated
  | evicted
  | absent
deriving DecidableEq, Repr

namespace PayloadState

def asI64 : PayloadState → Int
  | present => 0
  | truncated => 1
  | evicted => 2
  | absent => 3

def fromI64 (value : Int) : Option PayloadState :=
  if value = 0 then some present
  else if value = 1 then some truncated
  else if value = 2 then some evicted
  else if value = 3 then some absent
  else none

def isReadable (state : PayloadState) : Bool := state = present || state = truncated

end PayloadState

inductive PayloadCodec where
  | raw
  | zstd
deriving DecidableEq, Repr

end CrashCatcher.Model
