import CrashCatcher.Lib.Int64
import CrashCatcher.Lib.Members

namespace CrashCatcher.Lib

/-! What serde's derived `Deserialize` reads from a JSON value. -/

namespace Serde
open Json
variable {α : Type}

def bool : Json → Option Bool
  | .bool value => some value
  | _ => none

def string : Json → Option Str
  | .str text => some text
  | _ => none

def unsigned (size : Nat) : Json → Option Nat
  | .num value => if 0 ≤ value ∧ value < size then some value.toNat else none
  | _ => none

def u32 : Json → Option Nat := unsigned UInt32.size
def u64 : Json → Option Nat := unsigned UInt64.size

def i32 : Json → Option Int
  | .num value => if -2 ^ 31 ≤ value ∧ value < 2 ^ 31 then some value else none
  | _ => none

def i64 : Json → Option I64
  | .num value => I64.ofInt? value
  | _ => none

def list (item : Json → Option α) : Json → Option (List α)
  | .arr items => items.mapM item
  | _ => none

def option (some' : Json → Option α) : Json → Option (Option α)
  | .null => some none
  | json => (some' json).map some

def unitVariant (variants : List α) (name : α → Str) : Json → Option α
  | .str text => variants.find? (name · = text)
  | _ => none

def unique (members : List (Str × Json)) (name : Str) : Bool := (valuesOf name members).length ≤ 1

/-- Visits the members for the fields of a struct: a field that stands twice is refused, and the members
that are no fields are passed over. -/
def fields (names : List String) (visit : Slots α names) (members : List (Str × Json)) : Option α :=
  if (names.map String.toList).all (unique members) then visit.apply
    ((names.map String.toList).map (last members))
  else none

def struct (names : List String) (visit : Slots α names) : Json → Option α
  | .obj members => fields names visit members
  | _ => none

def required (read : Json → Option α) : Option Json → Option α
  | some json => read json
  | none => none

/-- A field under `#[serde(default)]`. -/
def defaulted (value : α) (read : Json → Option α) : Option Json → Option α
  | some json => read json
  | none => some value

@[simp] theorem required_some (read : Json → Option α) (json : Json) :
    required read (some json) = read json := rfl

@[simp] theorem defaulted_some (value : α) (read : Json → Option α) (json : Json) :
    defaulted value read (some json) = read json := rfl

@[simp] theorem defaulted_none (value : α) (read : Json → Option α) :
    defaulted value read none = some value := rfl

/-- An internally tagged enum's variant and the members beside the tag. -/
def tagged (tag : String) (members : List (Str × Json)) : Option (Str × List (Str × Json)) := do
  if unique members tag.toList then
    let name ← required string (last members tag.toList)
    return (name, without tag.toList members)
  else none

def enum (tag : String) (variants : List (String × (List (Str × Json) → Option α))) : Json → Option α
  | .obj members => do
      let (name, rest) ← tagged tag members
      let (_, read) ← variants.find? (·.1.toList = name)
      read rest
  | _ => none

theorem fields_present {names : List String} {visit : Slots α names} {entries : List (Str × Option Json)}
    (named : entries.map Prod.fst = names.map String.toList) (distinct : (names.map String.toList).Nodup) :
    fields names visit (present entries) = visit.apply (entries.map Prod.snd) := by
  rw [← named] at distinct
  have once : (names.map String.toList).all (unique (present entries)) = true := by
    rw [← named, List.all_eq_true]
    intro name there
    obtain ⟨entry, member, rfl⟩ := List.mem_map.mp there
    rw [unique, valuesOf_present distinct member]
    cases entry.2 <;> rfl
  rw [fields, if_pos once, ← named, lasts_present distinct]

theorem fields_of_nodup {names : List String} (visit : Slots α names) {members : List (Str × Json)}
    (distinct : (members.map Prod.fst).Nodup) :
    fields names visit members = visit.apply ((names.map String.toList).map (last members)) := by
  have once : (names.map String.toList).all (unique members) = true := by
    rw [List.all_eq_true]
    intro name there
    by_cases within : name ∈ members.map Prod.fst
    · obtain ⟨member, inside, rfl⟩ := List.mem_map.mp within
      rw [unique, valuesOf_of_mem distinct inside]
      rfl
    · rw [unique, valuesOf_eq_nil within]
      rfl
  rw [fields, if_pos once]

theorem tagged_cons {tag : String} {name : Str} {members : List (Str × Json)}
    (apart : tag.toList ∉ members.map Prod.fst) :
    tagged tag ((tag.toList, .str name) :: members) = some (name, members) := by
  have found : valuesOf tag.toList ((tag.toList, .str name) :: members) = [.str name] := by
    have rest := valuesOf_eq_nil apart
    simp only [valuesOf, List.map_eq_nil_iff] at rest
    simp [valuesOf, rest]
  have others : without tag.toList ((tag.toList, .str name) :: members) = members := by
    have rest := without_eq_self apart
    simpa [without] using rest
  simp [tagged, unique, last, found, others, string]

theorem enum_cons {tag name : String} {variants : List (String × (List (Str × Json) → Option α))}
    {read : List (Str × Json) → Option α} {text : Str} {members : List (Str × Json)}
    (apart : tag.toList ∉ members.map Prod.fst)
      (found : variants.find? (·.1.toList = text) = some (name, read)) :
    enum tag variants (.obj ((tag.toList, .str text) :: members)) = read members := by
  simp [enum, tagged_cons apart, found]

theorem unsigned_num {size : Nat} {value : Int} (least : 0 ≤ value) (most : value < size) :
    unsigned size (.num value) = some value.toNat := if_pos ⟨least, most⟩

theorem option_of_ne_null {read : Json → Option α} {json : Json} (value : json ≠ .null) :
    option read json = (read json).map some := by
  cases json with
  | null => exact absurd rfl value
  | _ => rfl

theorem defaulted_option {β : Type} {read : Json → Option α} {json : β → Json} {value : β → α} {b : Option β}
    (values : ∀ b, json b ≠ .null) (reads : ∀ b' ∈ b, read (json b') = some (value b')) :
    defaulted none (option read) (b.map json) = some (b.map value) := by
  cases b with
  | none => rfl
  | some b => simp [defaulted, option_of_ne_null (values b), reads b rfl]

theorem list_map {β : Type} {item : Json → Option α} {json : β → Json} {value : β → α} {items : List β}
    (reads : ∀ b ∈ items, item (json b) = some (value b)) :
    list item (.arr (items.map json)) = some (items.map value) := by
  induction items with
  | nil => rfl
  | cons b rest ih =>
      have later := ih fun c member => reads c (List.mem_cons_of_mem _ member)
      simp only [list] at later
      simp [list, reads b List.mem_cons_self, later]

end Serde
end CrashCatcher.Lib
