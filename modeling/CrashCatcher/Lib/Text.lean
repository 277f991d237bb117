import Mathlib.Data.List.DropRight
import Mathlib.Data.List.Infix

namespace CrashCatcher.Lib

/-- Text as its characters; slices of it are sublists, so no byte offsets are needed. -/
abbrev Str := List Char

namespace Text

/-- The Unicode `White_Space` property. -/
def isWhitespace (c : Char) : Bool :=
  (9 ≤ c.toNat && c.toNat ≤ 13) || c.toNat == 0x20 || c.toNat == 0x85 || c.toNat == 0xA0 ||
    c.toNat == 0x1680 || (0x2000 ≤ c.toNat && c.toNat ≤ 0x200A) || c.toNat == 0x2028 ||
    c.toNat == 0x2029 || c.toNat == 0x202F || c.toNat == 0x205F || c.toNat == 0x3000

def trimStart (s : Str) : Str := s.dropWhile isWhitespace
def trimEnd (s : Str) : Str := s.rdropWhile isWhitespace
def trim (s : Str) : Str := trimStart (trimEnd s)

def before (c : Char) (s : Str) : Str := s.takeWhile (· != c)

def afterLast (c : Char) (s : Str) : Str := s.rtakeWhile (· != c)

def splitOnce (c : Char) : Str → Option (Str × Str)
  | [] => none
  | d :: s => if d = c then some ([], s) else (splitOnce c s).map fun p => (d :: p.1, p.2)

def rsplitOnce (c : Char) : Str → Option (Str × Str)
  | [] => none
  | d :: s => match rsplitOnce c s with
    | some (left, right) => some (d :: left, right)
    | none => if d = c then some ([], s) else none

theorem splitOnce_append {c : Char} {start : Str} (apart : c ∉ start) (s : Str) :
    splitOnce c (start ++ s) = (splitOnce c s).map fun p => (start ++ p.1, p.2) := by
  induction start with
  | nil => simp
  | cons d start ih =>
      have differs : d ≠ c := fun same => apart (same ▸ List.mem_cons_self)
      rw [List.cons_append, splitOnce, if_neg differs, ih fun member => apart (List.mem_cons_of_mem _ member)]
      cases splitOnce c s <;> rfl

theorem splitOnce_eq_none {c : Char} {s : Str} (apart : c ∉ s) : splitOnce c s = none := by
  have split := splitOnce_append apart []
  rw [List.append_nil] at split
  exact split

/-- `str::splitn`: at most so many parts, the last with all of the rest. -/
def splitn (c : Char) : Nat → Str → List Str
  | 0, _ => []
  | 1, s => [s]
  | n + 2, s => match splitOnce c s with
    | some (part, rest) => part :: splitn c (n + 1) rest
    | none => [s]

theorem splitn_cons {c : Char} {part : Str} (apart : c ∉ part) (n : Nat) (rest : Str) :
    splitn c (n + 2) (part ++ c :: rest) = part :: splitn c (n + 1) rest := by
  have split : splitOnce c (part ++ c :: rest) = some (part, rest) := by
    rw [splitOnce_append apart, splitOnce, if_pos rfl, Option.map_some, List.append_nil]
  rw [splitn, split]

def splitWhitespace (s : Str) : List Str :=
  (s.splitBy fun a b => isWhitespace a == isWhitespace b).filter
    fun word => !(word.all isWhitespace)

def contains (needle s : Str) : Bool := s.tails.any fun rest => needle.isPrefixOf rest

end Text
end CrashCatcher.Lib
