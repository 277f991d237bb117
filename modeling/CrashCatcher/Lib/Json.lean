import CrashCatcher.Lib.Utf8
import Mathlib.Data.List.Sort

namespace CrashCatcher.Lib

inductive Json where
  | null
  | bool (value : Bool)
  | num (value : Int)
  | str (text : Str)
  | arr (items : List Json)
  | obj (members : List (Str × Json))

namespace Json
open Utf8

def shortEscape : Char → Option Char
  | '"' => some '"'
  | '\\' => some '\\'
  | '\x08' => some 'b'
  | '\t' => some 't'
  | '\n' => some 'n'
  | '\x0c' => some 'f'
  | '\r' => some 'r'
  | _ => none

def isShort (c : Char) : Bool := (shortEscape c).isSome

def isControl (c : Char) : Bool := !isShort c && c.toNat < 0x20

def escapeChar (c : Char) : Str :=
  match shortEscape c with
  | some letter => ['\\', letter]
  | none =>
      if c.toNat < 0x20 then
        ['\\', 'u', '0', '0', Nat.digitChar (c.toNat / 16), Nat.digitChar (c.toNat % 16)]
      else [c]

def quote (text : Str) : Str := '"' :: (text.flatMap escapeChar ++ ['"'])

def joined (separator : Str) : List Str → Str
  | [] => []
  | [part] => part
  | part :: rest => part ++ separator ++ joined separator rest

def indent (depth : Nat) : Str := List.replicate (2 * depth) ' '

def block (depth : Nat) (left right : Char) : List Str → Str
  | [] => [left, right]
  | parts =>
      let lineOf (depth : Nat) : Str := '\n' :: indent depth
      left :: (lineOf (depth + 1) ++ joined (',' :: lineOf (depth + 1)) parts ++ lineOf depth ++ [right])

mutual

def compact : Json → Str
  | null => "null".toList
  | bool value => (toString value).toList
  | num value => (toString value).toList
  | str text => quote text
  | arr items => '[' :: (joined [','] (compactItems items) ++ [']'])
  | obj members => '{' :: (joined [','] (compactMembers members) ++ ['}'])

def compactItems : List Json → List Str
  | [] => []
  | item :: rest => compact item :: compactItems rest

def compactMembers : List (Str × Json) → List Str
  | [] => []
  | (name, value) :: rest => (quote name ++ ':' :: compact value) :: compactMembers rest

end

mutual

/-- `serde_json::to_string_pretty`, at some depth of nesting. -/
def pretty : Nat → Json → Str
  | _, null => "null".toList
  | _, bool value => (toString value).toList
  | _, num value => (toString value).toList
  | _, str text => quote text
  | depth, arr items => block depth '[' ']' (prettyItems (depth + 1) items)
  | depth, obj members => block depth '{' '}' (prettyMembers (depth + 1) members)

def prettyItems : Nat → List Json → List Str
  | _, [] => []
  | depth, item :: rest => pretty depth item :: prettyItems depth rest

def prettyMembers : Nat → List (Str × Json) → List Str
  | _, [] => []
  | depth, (name, value) :: rest =>
      (quote name ++ ':' :: ' ' :: pretty depth value) :: prettyMembers depth rest

end

mutual

/-- `serde_json::Value` keeps the members of an object by their names. -/
def toValue : Json → Json
  | arr items => arr (toValues items)
  | obj members => obj ((toValueMembers members).insertionSort fun a b => a.1 ≤ b.1)
  | other => other

def toValues : List Json → List Json
  | [] => []
  | item :: rest => toValue item :: toValues rest

def toValueMembers : List (Str × Json) → List (Str × Json)
  | [] => []
  | (name, value) :: rest => (name, toValue value) :: toValueMembers rest

end

def optional {α : Type} (json : α → Json) : Option α → Json
  | none => null
  | some a => json a

example : (pretty 0 (toValue (obj [("b".toList, arr [num (-1), null]), ("a".toList, obj [])]))) =
    "\x7b\n  \"a\": \x7b\x7d,\n  \"b\": [\n    -1,\n    null\n  ]\n\x7d".toList := by decide

/-! How many bytes the serialised forms take. -/

theorem size_singleton_of_ascii {c : Char} (ascii : c.toNat < 0x80) : c.utf8Size = 1 :=
  Char.utf8Size_eq_one_iff.mpr (Nat.le_of_lt_succ ascii)

theorem size_digitChar {n : Nat} (digit : n < 16) : (Nat.digitChar n).utf8Size = 1 := by
  have known : ∀ n, n < 16 → (Nat.digitChar n).utf8Size = 1 := by decide
  exact known n digit

theorem shortEscape_ascii {c letter : Char} (short : shortEscape c = some letter) :
    c.utf8Size = 1 ∧ letter.utf8Size = 1 := by
  unfold shortEscape at short
  split at short <;> cases short <;> exact ⟨by decide, by decide⟩

theorem size_escapeChar (c : Char) : size (escapeChar c) =
    c.utf8Size + (if isShort c then 1 else 0) + 5 * if isControl c then 1 else 0 := by
  unfold escapeChar isControl isShort
  cases short : shortEscape c with
  | some letter =>
      obtain ⟨one, one'⟩ := shortEscape_ascii short
      have backslash : ('\\').utf8Size = 1 := by decide
      simp [one, one', backslash]
  | none =>
      by_cases control : c.toNat < 0x20
      · have one : c.utf8Size = 1 := size_singleton_of_ascii (by omega)
        have high : (Nat.digitChar (c.toNat / 16)).utf8Size = 1 := size_digitChar (by omega)
        have low : (Nat.digitChar (c.toNat % 16)).utf8Size = 1 := size_digitChar (by omega)
        have start : size ['\\', 'u', '0', '0'] = 4 := by decide
        rw [if_pos control, ← List.take_append_drop 4 ['\\', 'u', '0', '0', _, _], size_append]
        simp only [List.take, List.drop, start, size_cons, size_nil, high, low, one]
        simp [control]
      · simp [control]

/-- The size of a text inside quotes: one byte more for each short escape, five for each other. -/
def escapedSize (text : Str) : Nat := size text + text.countP isShort + 5 * text.countP isControl

@[simp] theorem escapedSize_nil : escapedSize [] = 0 := rfl

@[simp] theorem escapedSize_append (s t : Str) :
    escapedSize (s ++ t) = escapedSize s + escapedSize t := by
  simp only [escapedSize, size_append, List.countP_append]
  omega

theorem size_escape (text : Str) : size (text.flatMap escapeChar) = escapedSize text := by
  induction text with
  | nil => rfl
  | cons c rest ih =>
      rw [List.flatMap_cons, size_append, size_escapeChar, ih, escapedSize, escapedSize, size_cons,
        List.countP_cons, List.countP_cons]
      omega

@[simp] theorem size_quote (text : Str) : size (quote text) = escapedSize text + 2 := by
  have mark : ('"').utf8Size = 1 := by decide
  rw [quote, size_cons, size_append, size_escape, mark]
  simp only [size_cons, size_nil, mark]
  omega

theorem size_le_escapedSize (text : Str) : size text ≤ escapedSize text := by
  rw [escapedSize, Nat.add_assoc]
  exact Nat.le_add_right _ _

theorem escapedSize_le (text : Str) : escapedSize text ≤ 6 * size text := by
  induction text with
  | nil => exact Nat.zero_le _
  | cons c rest ih =>
      have one := Char.utf8Size_pos c
      have apart : isShort c = true → isControl c = false := by
        intro short
        rw [isControl, short]
        rfl
      simp only [escapedSize, size_cons, List.countP_cons] at ih ⊢
      cases short : isShort c with
      | true =>
          rw [apart short]
          simp only [if_true, Bool.false_eq_true, if_false]
          omega
      | false =>
          simp only [Bool.false_eq_true, if_false]
          split <;> omega

def total {α : Type} (weight : α → Nat) : List α → Nat
  | [] => 0
  | a :: rest => weight a + total weight rest

theorem total_le {α : Type} {weight : α → Nat} {items : List α} {most : Nat}
    (within : ∀ a ∈ items, weight a ≤ most) : total weight items ≤ items.length * most := by
  induction items with
  | nil => exact Nat.zero_le _
  | cons a rest ih =>
      have first := within a List.mem_cons_self
      have later := ih fun b member => within b (List.mem_cons_of_mem _ member)
      rw [total, List.length_cons, Nat.succ_mul]
      omega

theorem measure_joined {measure : Str → Nat} (nil : measure [] = 0)
    (append : ∀ s t, measure (s ++ t) = measure s + measure t) (separator : Str) (parts : List Str) :
    measure (joined separator parts) = total measure parts + (parts.length - 1) * measure separator := by
  induction parts with
  | nil => simp [joined, total, nil]
  | cons part rest ih =>
      cases rest with
      | nil => simp [joined, total]
      | cons other rest =>
          have parts : total measure (part :: other :: rest) =
              measure part + total measure (other :: rest) := rfl
          rw [joined, append, append, ih, parts]
          · simp only [List.length_cons, Nat.add_sub_cancel, Nat.succ_mul]
            omega
          · exact nofun

theorem size_joined (separator : Str) (parts : List Str) :
    size (joined separator parts) = total size parts + (parts.length - 1) * size separator :=
  measure_joined size_nil size_append separator parts

theorem escapedSize_joined (separator : Str) (parts : List Str) :
    escapedSize (joined separator parts) =
      total escapedSize parts + (parts.length - 1) * escapedSize separator :=
  measure_joined escapedSize_nil escapedSize_append separator parts

theorem compactItems_eq_map (items : List Json) : compactItems items = items.map compact := by
  induction items with
  | nil => rfl
  | cons item rest ih => rw [compactItems, ih, List.map_cons]

theorem compactMembers_eq_map (members : List (Str × Json)) :
    compactMembers members = members.map fun member => quote member.1 ++ ':' :: compact member.2 := by
  induction members with
  | nil => rfl
  | cons member rest ih => rw [compactMembers, ih, List.map_cons]

theorem prettyItems_eq_map (depth : Nat) (items : List Json) :
    prettyItems depth items = items.map (pretty depth) := by
  induction items with
  | nil => rfl
  | cons item rest ih => rw [prettyItems, ih, List.map_cons]

theorem total_map {α β : Type} (weight : β → Nat) (f : α → β) (items : List α) :
    total weight (items.map f) = total (fun a => weight (f a)) items := by
  induction items with
  | nil => rfl
  | cons a rest ih => rw [List.map_cons, total, ih, total]

def frameSize (names : List Str) : Nat :=
  2 + total (fun name => escapedSize name + 3) names + (names.length - 1)

theorem size_compact_arr (items : List Json) :
    size (compact (arr items)) = 2 + total (fun item => size (compact item)) items + (items.length - 1) := by
  have brackets : ('[').utf8Size = 1 ∧ size [']'] = 1 ∧ size [','] = 1 := by decide
  rw [compact, size_cons, size_append, size_joined, compactItems_eq_map, total_map, List.length_map,
    brackets.1, brackets.2.1, brackets.2.2]
  omega

theorem size_compact_obj (members : List (Str × Json)) :
    size (compact (obj members)) = frameSize (members.map Prod.fst) +
      total (fun value => size (compact value)) (members.map Prod.snd) := by
  have brackets : ('{').utf8Size = 1 ∧ size ['}'] = 1 ∧ size [','] = 1 ∧ (':').utf8Size = 1 := by decide
  have split : ∀ members : List (Str × Json),
      total (fun m => size (quote m.1 ++ ':' :: compact m.2)) members =
        total (fun m => escapedSize m.1 + 3) members + total (fun m => size (compact m.2)) members := by
    intro members
    induction members with
    | nil => rfl
    | cons m rest ih =>
        rw [total, total, total, ih, size_append, size_quote, size_cons, brackets.2.2.2]
        omega
  rw [compact, size_cons, size_append, size_joined, compactMembers_eq_map, total_map, List.length_map,
    brackets.1, brackets.2.1, brackets.2.2.1, split, frameSize, total_map, total_map, List.length_map]
  omega

@[simp] theorem size_compact_str (text : Str) : size (compact (str text)) = escapedSize text + 2 :=
  size_quote text

@[simp] theorem size_compact_null : size (compact null) = 4 := by decide

def digits (value : Int) : Nat := size (toString value).toList

theorem size_of_ascii {text : Str} (ascii : ∀ c ∈ text, c.toNat < 0x80) : size text = text.length := by
  induction text with
  | nil => rfl
  | cons c rest ih =>
      have one := size_singleton_of_ascii (ascii c List.mem_cons_self)
      rw [size_cons, one, ih fun d member => ascii d (List.mem_cons_of_mem _ member), List.length_cons,
        Nat.add_comm]

theorem digits_natCast_le {n k : Nat} (positive : 0 < k) (below : n < 10 ^ k) : digits n ≤ k := by
  have list : (toString (n : Int)).toList = Nat.toDigits 10 n := by
    show (Int.repr (n : Int)).toList = _
    simp [Int.repr]
  have ascii : ∀ c ∈ Nat.toDigits 10 n, c.toNat < 0x80 := by
    intro c member
    have digit := Nat.isDigit_of_mem_toDigits (by decide) (by decide) member
    simp only [Char.isDigit, Bool.and_eq_true, decide_eq_true_eq] at digit
    exact Nat.lt_of_le_of_lt digit.2 (by decide)
  rw [digits, list, size_of_ascii ascii]
  exact (Nat.length_toDigits_le_iff (by decide) positive).mpr below

theorem digits_le (value : Int) {k : Nat} (positive : 0 < k) (below : value.natAbs < 10 ^ k) :
    digits value ≤ k + 1 := by
  cases value with
  | ofNat n => exact (digits_natCast_le positive below).trans (Nat.le_succ k)
  | negSucc n =>
      have sign : ('-').utf8Size = 1 := by decide
      have list : (toString (Int.negSucc n)).toList = '-' :: (toString ((n + 1 : Nat) : Int)).toList := by
        show (Int.repr (Int.negSucc n)).toList = '-' :: (Int.repr ((n + 1 : Nat) : Int)).toList
        simp [Int.repr]
      have rest : digits ((n + 1 : Nat) : Int) ≤ k := digits_natCast_le positive below
      rw [digits, list, size_cons, sign]
      show 1 + digits ((n + 1 : Nat) : Int) ≤ k + 1
      omega

@[simp] theorem size_compact_num (value : Int) : size (compact (num value)) = digits value := rfl

def boolSize (value : Bool) : Nat := if value then 4 else 5

@[simp] theorem size_compact_bool (value : Bool) : size (compact (bool value)) = boolSize value := by
  cases value <;> decide

def optionalSize {α : Type} (weight : α → Nat) : Option α → Nat
  | none => 4
  | some a => weight a

@[simp] theorem size_compact_optional {α : Type} (json : α → Json) (value : Option α) :
    size (compact (optional json value)) = optionalSize (fun a => size (compact (json a))) value := by
  cases value with
  | none => exact size_compact_null
  | some a => rfl

end Json
end CrashCatcher.Lib
