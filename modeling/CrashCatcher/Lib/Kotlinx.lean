import CrashCatcher.Lib.Serde

namespace CrashCatcher.Lib.Kotlinx
open Json
variable {α : Type}

/-! What kotlinx.serialization writes to JSON with names in snake case, absent values left out and
defaults written. -/

/-- The loop that separates the words of a property's name; the builder's last character goes first. -/
structure Words where
  builder : Str := []
  bufferedChar : Option Char := none
  previousUpperCharsCount : Nat := 0

def Words.append (self : Words) (c : Char) : Words :=
  if c.isUpper then
    let starts := self.previousUpperCharsCount = 0 && !self.builder.isEmpty && self.builder.head? != some '_'
    { builder := self.bufferedChar.toList ++ if starts then '_' :: self.builder else self.builder
      bufferedChar := some c.toLower
      previousUpperCharsCount := self.previousUpperCharsCount + 1 }
  else
    match self.bufferedChar with
    | some buffered =>
        let ends := 1 < self.previousUpperCharsCount && c.isAlpha
        { builder := c :: buffered :: if ends then '_' :: self.builder else self.builder }
    | none => { self with builder := c :: self.builder }

/-- `JsonNamingStrategy.SnakeCase`. -/
def snakeCase (name : String) : Str :=
  let words := name.toList.foldl Words.append {}
  (words.bufferedChar.toList ++ words.builder).reverse

example : snakeCase "hideBuildDisplayId" = "hide_build_display_id".toList := by decide

/-- A class's serial descriptor: each property's name and what is written for it. -/
abbrev Properties (α : Type) := List (String × (α → Option Json))

def Properties.names (properties : Properties α) : List Str :=
    properties.map fun property => snakeCase property.1

def Properties.entries (properties : Properties α) (a : α) : List (Str × Option Json) :=
  properties.map fun property => (snakeCase property.1, property.2 a)

def Properties.write (properties : Properties α) (a : α) : Json := .obj (present (properties.entries a))

/-- A class of a sealed hierarchy: its serial name goes first, under the discriminator. -/
def Properties.writeTagged (properties : Properties α) (discriminator serialName : String) (a : α) : Json :=
  .obj ((discriminator.toList, .str serialName.toList) :: present (properties.entries a))

def Properties.Mirror (properties : Properties α) (fields : List String) : Prop :=
  properties.names = fields.map String.toList ∧ (fields.map String.toList).Nodup

instance (properties : Properties α) (fields : List String) : Decidable (properties.Mirror fields) :=
  inferInstanceAs (Decidable (_ ∧ _))

variable {properties : Properties α} {names : List String}

theorem names_entries (properties : Properties α) (a : α) :
    (properties.entries a).map Prod.fst = properties.names := by
  simp [Properties.entries, Properties.names, Function.comp_def]

theorem Properties.Mirror.fields {β : Type} (mirror : properties.Mirror names)
    (visit : Slots β names) (a : α) :
    Serde.fields names visit (present (properties.entries a)) = visit.apply (properties.map (·.2 a)) := by
  rw [Serde.fields_present ((names_entries properties a).trans mirror.1) mirror.2]
  simp [Properties.entries, Function.comp_def]

theorem Properties.Mirror.struct {β : Type} (mirror : properties.Mirror names)
    (visit : Slots β names) (a : α) :
    Serde.struct names visit (properties.write a) = visit.apply (properties.map (·.2 a)) :=
      mirror.fields visit a

theorem enum_writeTagged {β : Type} {variants : List (String × (List (Str × Json) → Option β))}
    {discriminator serialName name : String} {read : List (Str × Json) → Option β}
    (apart : discriminator.toList ∉ properties.names)
    (found : variants.find? (·.1.toList = serialName.toList) = some (name, read)) (a : α) :
    Serde.enum discriminator variants (properties.writeTagged discriminator serialName a) =
      read (present (properties.entries a)) := by
  refine Serde.enum_cons (fun there => apart ?_) found
  rw [← names_entries properties a]
  exact names_present_subset _ there

theorem enum_fields {β : Type} {variants : List (String × (List (Str × Json) → Option β))}
    {discriminator serialName name : String} {visit : Slots β names}
    (apart : discriminator.toList ∉ properties.names)
    (found : variants.find? (·.1.toList = serialName.toList) = some (name, Serde.fields names visit))
    (mirror : properties.Mirror names) (a : α) :
    Serde.enum discriminator variants (properties.writeTagged discriminator serialName a) =
      visit.apply (properties.map (·.2 a)) := by
  rw [enum_writeTagged apart found, mirror.fields]

/-! What it reads: unknown names are passed over, the last of equal names counts, and an absent property
takes its default, which is `null` for a nullable one. -/

def boolean : Json → Option Bool
  | .bool value => some value
  | _ => none

def string : Json → Option Str
  | .str text => some text
  | _ => none

def IsInt (n : Int) : Prop := -2 ^ 31 ≤ n ∧ n < 2 ^ 31

def IsLong (n : Int) : Prop := -2 ^ 63 ≤ n ∧ n < 2 ^ 63

instance (n : Int) : Decidable (IsInt n) := inferInstanceAs (Decidable (_ ∧ _))
instance (n : Int) : Decidable (IsLong n) := inferInstanceAs (Decidable (_ ∧ _))

def int : Json → Option Int
  | .num value => if IsInt value then some value else none
  | _ => none

def long : Json → Option Int
  | .num value => if IsLong value then some value else none
  | _ => none

def list (item : Json → Option α) : Json → Option (List α)
  | .arr items => items.mapM item
  | _ => none

def enumEntry (entries : List α) (serialName : α → Str) : Json → Option α
  | .str text => entries.find? (serialName · = text)
  | _ => none

def required (read : Json → Option α) : Option Json → Option α
  | some json => read json
  | none => none

def defaulted (value : α) (read : Json → Option α) : Option Json → Option α
  | some json => read json
  | none => some value

def nullable (read : Json → Option α) : Option Json → Option (Option α)
  | none | some .null => some none
  | some json => (read json).map some

def readClass (elements : List String) (build : Slots α elements) : Json → Option α
  | .obj members => build.apply ((elements.map snakeCase).map (last members))
  | _ => none

/-- A sealed hierarchy: the discriminator names the class. -/
def readSealed (discriminator : String) (classes : List (String × (Json → Option α))) : Json → Option α
  | .obj members => do
      let serialName ← required string (last members discriminator.toList)
      let (_, read) ← classes.find? (·.1.toList = serialName)
      read (.obj members)
  | _ => none

@[simp] theorem required_some (read : Json → Option α) (json : Json) :
    required read (some json) = read json := by
  rw [required]

@[simp] theorem defaulted_some (value : α) (read : Json → Option α) (json : Json) :
    defaulted value read (some json) = read json := by rw [defaulted]

@[simp] theorem boolean_bool (value : Bool) : boolean (.bool value) = some value := by rw [boolean]

@[simp] theorem string_str (text : Str) : string (.str text) = some text := by rw [string]

theorem int_num {n : Int} (isInt : IsInt n) : int (.num n) = some n := if_pos isInt

theorem long_num {n : Int} (isLong : IsLong n) : long (.num n) = some n := if_pos isLong

theorem long_natCast {n : Nat} (small : n < 2 ^ 63) : long (.num n) = some (n : Int) :=
  long_num ⟨by omega, by exact_mod_cast small⟩

theorem int_natCast_iff {n : Nat} {value : Int} : int (.num n) = some value ↔ n < 2 ^ 31 ∧ value = n := by
  have isInt : IsInt n ↔ n < 2 ^ 31 := ⟨fun h => by exact_mod_cast h.2, fun h => ⟨by omega, by exact_mod_cast h⟩⟩
  simp only [int, isInt]
  split <;> simp_all [eq_comm]

@[simp] theorem nullable_null (read : Json → Option α) : nullable read (some .null) = some none := by
  rw [nullable]

@[simp] theorem nullable_num (read : Json → Option α) (n : Int) :
    nullable read (some (.num n)) = (read (.num n)).map some := by rw [nullable]; exact nofun

@[simp] theorem nullable_str (read : Json → Option α) (text : Str) :
    nullable read (some (.str text)) = (read (.str text)).map some := by rw [nullable]; exact nofun

@[simp] theorem nullable_bool (read : Json → Option α) (value : Bool) :
    nullable read (some (.bool value)) = (read (.bool value)).map some := by rw [nullable]; exact nofun

theorem list_map {β : Type} {item : Json → Option α} {json : β → Json} {value : β → α} {items : List β}
    (reads : ∀ b ∈ items, item (json b) = some (value b)) :
    list item (.arr (items.map json)) = some (items.map value) := by
  induction items with
  | nil => rfl
  | cons b rest ih =>
      have later := ih fun c member => reads c (List.mem_cons_of_mem _ member)
      simp only [list] at later
      simp [list, reads b List.mem_cons_self, later]

def Reads (result : Option α) (fits : Prop) (value : α) : Prop :=
    ∀ read, result = some read ↔ fits ∧ read = value

variable {β : Type} {result : Option α} {fits more : Prop} {value : α}

theorem Reads.of_eq (same : result = some value) : Reads result True value := by
  intro read
  simp [same, eq_comm]

theorem Reads.eq_some_iff (reads : Reads result fits value) : result = some value ↔ fits := by
  simp [reads value]

theorem Reads.congr (reads : Reads result fits value) (same : fits ↔ more) : Reads result more value := by
  intro read
  rw [reads read, same]

theorem Reads.bind {rest : α → Option β} {next : β} (reads : Reads result fits value)
    (readsRest : Reads (rest value) more next) : Reads (result.bind rest) (fits ∧ more) next := by
  intro read
  simp only [Option.bind_eq_some_iff, reads _, and_assoc]
  constructor
  · rintro ⟨_, holds, rfl, later⟩
    exact ⟨holds, (readsRest read).mp later⟩
  · rintro ⟨holds, later⟩
    exact ⟨value, holds, rfl, (readsRest read).mpr later⟩

theorem Reads.build (reads : Reads result fits value) (f : α → β) :
    Reads (result.bind fun a => some (f a)) fits (f value) := by
  have done : Reads (some (f value)) True (f value) := .of_eq rfl
  exact (reads.bind done).congr (by simp)

theorem Reads.map (reads : Reads result fits value) (f : α → β) : Reads (result.map f) fits (f value) := by
  rw [Option.map_eq_bind]
  exact reads.build f

theorem reads_count (n : Nat) : Reads (int (.num n)) (n < 2 ^ 31) (n : Int) := fun _ => int_natCast_iff

theorem reads_list {item : Json → Option α} {json : β → Json} {value : β → α} {fits : β → Prop} {items : List β}
    (reads : ∀ b ∈ items, Reads (item (json b)) (fits b) (value b)) :
    Reads (list item (.arr (items.map json))) (∀ b ∈ items, fits b) (items.map value) := by
  induction items with
  | nil => exact (Reads.of_eq rfl).congr (by simp)
  | cons b rest ih =>
      have later := ih fun c member => reads c (List.mem_cons_of_mem _ member)
      have both : Reads ((item (json b)).bind fun a => (list item (.arr (rest.map json))).map (a :: ·))
          (fits b ∧ ∀ b ∈ rest, fits b) (value b :: rest.map value) :=
        (reads b List.mem_cons_self).bind (later.map (value b :: ·))
      simp only [list, List.map_cons, List.mapM_cons, Option.map_eq_bind] at both ⊢
      exact both.congr List.forall_mem_cons.symm

theorem reads_nullable {read : Json → Option α} {json : β → Json} {value : β → α} {fits : β → Prop}
    {held : Option β}
    (notNull : ∀ b, json b ≠ .null) (reads : ∀ b ∈ held, Reads (read (json b)) (fits b) (value b)) :
    Reads (nullable read (some (optional json held))) (∀ b ∈ held, fits b) (held.map value) := by
  cases held with
  | none => exact (Reads.of_eq rfl).congr (by simp)
  | some b =>
      have here := (reads b rfl).map some
      have passed : nullable read (some (json b)) = (read (json b)).map some := by
        rw [nullable]
        exact fun null => notNull b null
      exact (passed ▸ here).congr (by simp)

theorem readClass_obj {elements : List String} {build : Slots α elements} {members : List (Str × Json)}
    (named : members.map Prod.fst = elements.map snakeCase) (distinct : (members.map Prod.fst).Nodup) :
    readClass elements build (.obj members) = build.apply (members.map (some ·.2)) := by
  rw [readClass, ← named, lasts_of_subset distinct (List.Subset.refl members)]

theorem readClass_present {elements : List String} {build : Slots α elements}
    {entries : List (Str × Option Json)}
    (named : entries.map Prod.fst = elements.map snakeCase) (distinct : (entries.map Prod.fst).Nodup) :
    readClass elements build (.obj (present entries)) = build.apply (entries.map Prod.snd) := by
  rw [readClass, ← named, lasts_present distinct]

theorem readSealed_found {discriminator name : String} {classes : List (String × (Json → Option α))}
    {read : Json → Option α} {text : Str} {members : List (Str × Json)}
    (found : classes.find? (·.1.toList = text) = some (name, read))
    (distinct : (discriminator.toList :: members.map Prod.fst).Nodup) :
    readSealed discriminator classes (.obj ((discriminator.toList, .str text) :: members)) =
      read (.obj ((discriminator.toList, .str text) :: members)) := by
  have tag : last ((discriminator.toList, .str text) :: members) discriminator.toList = some (.str text) :=
    @last_of_mem ((discriminator.toList, .str text) :: members) distinct _ List.mem_cons_self
  simp [readSealed, tag, found]

theorem readSealed_class {discriminator name : String} {classes : List (String × (Json → Option α))}
    {elements : List String} {build : Slots α elements} {text : Str} {members : List (Str × Json)}
    (found : classes.find? (·.1.toList = text) = some (name, readClass elements build))
    (named : members.map Prod.fst = elements.map snakeCase)
    (distinct : (discriminator.toList :: members.map Prod.fst).Nodup) :
    readSealed discriminator classes (.obj ((discriminator.toList, .str text) :: members)) =
      build.apply (members.map (some ·.2)) := by
  have others : (members.map Prod.fst).map (last ((discriminator.toList, .str text) :: members)) =
      members.map (some ·.2) :=
    @lasts_of_subset ((discriminator.toList, .str text) :: members) members distinct (List.subset_cons_self _ _)
  rw [readSealed_found found distinct, readClass, ← named, others]

end CrashCatcher.Lib.Kotlinx
