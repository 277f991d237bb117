import CrashCatcher.Lib.Kotlinx

namespace CrashCatcher.Lib

/-- What Android's `org.json` does with a value; a refusal is given by its text. -/
structure OrgJson where
  toText : Json → Str
  toInt : Json → Option Int
  toLong : Json → Option Int
  refusal : Str → Option Json → Str
  /-- The bytes of a value's text, which may escape each character of the shortest text once more. -/
  size : Json → Nat
  toText_str : ∀ text, toText (.str text) = text
  toInt_num : ∀ {n}, Kotlinx.IsInt n → toInt (.num n) = some n
  toLong_num : ∀ {n}, Kotlinx.IsLong n → toLong (.num n) = some n
  size_le : ∀ json, size json ≤ 2 * Utf8.size json.compact

namespace OrgJson
open Json

def plain : OrgJson where
  toText json := match json with
    | .str text => text
    | _ => []
  toInt json := match json with
    | .num n => some n
    | _ => none
  toLong json := match json with
    | .num n => some n
    | _ => none
  refusal name _ := name
  size json := Utf8.size json.compact
  toText_str _ := rfl
  toInt_num _ := rfl
  toLong_num _ := rfl
  size_le _ := Nat.le_mul_of_pos_left _ (by decide)

variable (org : OrgJson) (members : List (Str × Json)) (name : Str)

def get : Except Str Json :=
  match last members name with
  | some value => .ok value
  | none => .error (org.refusal name none)

def getString : Except Str Str := do return org.toText (← org.get members name)

def getInt : Except Str Int := do
  let value ← org.get members name
  match org.toInt value with
  | some n => .ok n
  | none => .error (org.refusal name (some value))

def object : Json → Except Str (List (Str × Json))
  | .obj members => .ok members
  | value => .error (org.refusal name (some value))

def getJSONObject : Except Str (List (Str × Json)) := do org.object name (← org.get members name)

def optString (fallback : Str) : Str :=
  match last members name with
  | some value => org.toText value
  | none => fallback

def optLong (fallback : Int) : Int := ((last members name).bind org.toLong).getD fallback

def optJSONArray : Option (List Json) :=
  match last members name with
  | some (.arr items) => some items
  | _ => none

def optJSONObject : Option (List (Str × Json)) :=
  match last members name with
  | some (.obj members) => some members
  | _ => none

/-- The text under a name; `null` and no value at all are the same. -/
def nullableString : Option Str :=
  match last members name with
  | some .null => none
  | some value => some (org.toText value)
  | none => none

/-- An object keeps a key where it came first. -/
def keys : List Str := (members.map Prod.fst).eraseDups

variable {org members} {name}

theorem get_last {value : Json} (there : last members name = some value) :
    org.get members name = .ok value := by
  unfold get
  rw [there]

theorem getString_last {text : Str} (there : last members name = some (.str text)) :
    org.getString members name = .ok text := by
  unfold getString
  rw [get_last there]
  exact congrArg Except.ok (org.toText_str text)

theorem getInt_last {n : Int} (there : last members name = some (.num n)) (int : Kotlinx.IsInt n) :
    org.getInt members name = .ok n := by
  unfold getInt
  rw [get_last there]
  simp only [bind, Except.bind, org.toInt_num int]

theorem getJSONObject_last {inner : List (Str × Json)} (there : last members name = some (.obj inner)) :
    org.getJSONObject members name = .ok inner := by
  unfold getJSONObject
  rw [get_last there]
  rfl

theorem optString_last {text fallback : Str} (there : last members name = some (.str text)) :
    org.optString members name fallback = text := by
  unfold optString
  rw [there]
  exact org.toText_str text

theorem optLong_last {n fallback : Int} (there : last members name = some (.num n))
    (long : Kotlinx.IsLong n) : org.optLong members name fallback = n := by
  unfold optLong
  rw [there, Option.bind_some, org.toLong_num long, Option.getD_some]

theorem nullableString_last {text : Option Str}
    (there : last members name = some (Json.optional .str text)) :
    org.nullableString members name = text := by
  unfold nullableString
  rw [there]
  cases text with
  | none => rfl
  | some text => exact congrArg some (org.toText_str text)

theorem eraseDups_of_nodup {α : Type*} [BEq α] [LawfulBEq α] {items : List α} (distinct : items.Nodup) :
    items.eraseDups = items := by
  induction items with
  | nil => rfl
  | cons a rest ih =>
      obtain ⟨apart, distinct⟩ := List.nodup_cons.mp distinct
      have others : rest.filter (fun b => !b == a) = rest := by
        apply List.filter_eq_self.mpr
        intro b member
        have other : b ≠ a := fun same => apart (same ▸ member)
        simpa using other
      rw [List.eraseDups_cons, others, ih distinct]

theorem mapM_getString {texts : List (Str × Str)} (distinct : (texts.map Prod.fst).Nodup) :
    (keys (texts.map fun entry => (entry.1, .str entry.2))).mapM (fun key => do
      return (key, ← org.getString (texts.map fun entry => (entry.1, Json.str entry.2)) key)) =
        Except.ok texts := by
  have names : (texts.map fun entry => (entry.1, Json.str entry.2)).map Prod.fst = texts.map Prod.fst := by
    simp [Function.comp_def]
  have found : ∀ entry ∈ texts, org.getString (texts.map fun entry => (entry.1, Json.str entry.2)) entry.1 =
      .ok entry.2 := by
    intro entry member
    refine getString_last ?_
    exact last_of_mem (names ▸ distinct) (List.mem_map_of_mem (f := fun e => (e.1, Json.str e.2)) member)
  rw [keys, names, eraseDups_of_nodup distinct]
  generalize texts.map (fun entry => (entry.1, Json.str entry.2)) = members at found
  clear names distinct
  induction texts with
  | nil => rfl
  | cons entry rest ih =>
      have first := found entry List.mem_cons_self
      have later := ih fun other member => found other (List.mem_cons_of_mem _ member)
      rw [List.map_cons, List.mapM_cons, first, later]
      rfl

end OrgJson
end CrashCatcher.Lib
