import CrashCatcher.Lib.Json

namespace CrashCatcher.Lib.Json

def present (entries : List (Str × Option Json)) : List (Str × Json) :=
  entries.filterMap fun entry => entry.2.map (entry.1, ·)

def valuesOf (name : Str) (members : List (Str × Json)) : List Json :=
  (members.filter (·.1 = name)).map Prod.snd

def last (members : List (Str × Json)) (name : Str) : Option Json := (valuesOf name members).getLast?

@[reducible] def Slots (α : Type) : List String → Type
  | [] => Option α
  | _ :: rest => Option Json → Slots α rest

@[simp] def Slots.apply {α : Type} : {names : List String} → Slots α names → List (Option Json) → Option α
  | [], build, _ => build
  | _ :: _, build, [] => apply (build none) []
  | _ :: _, build, value :: values => apply (build value) values

/-- As congruence rules: a chain of binds is simplified from its start. -/
theorem bind_congr_start {α β : Type} {first first' : Option α} (same : first = first') (rest : α → Option β) :
    (first >>= rest) = (first' >>= rest) := by rw [same]

theorem option_bind_congr_start {α β : Type} {first first' : Option α} (same : first = first')
    (rest : α → Option β) : first.bind rest = first'.bind rest := by rw [same]

/-- Not by `rfl`: the kernel would compare the start of the chain with what follows by running it. -/
theorem option_bind_start {α β : Type} (value : α) (rest : α → Option β) :
    (some value).bind rest = rest value := by
  rw [Option.bind_some]

def without (name : Str) (members : List (Str × Json)) : List (Str × Json) := members.filter (·.1 ≠ name)

theorem present_cons (entry : Str × Option Json) (entries : List (Str × Option Json)) :
    present (entry :: entries) = (entry.2.map (entry.1, ·)).toList ++ present entries := by
  cases value : entry.2 <;> simp [present, value]

theorem valuesOf_append (name : Str) (members more : List (Str × Json)) :
    valuesOf name (members ++ more) = valuesOf name members ++ valuesOf name more := by
  simp [valuesOf]

theorem valuesOf_eq_nil {name : Str} {members : List (Str × Json)} (apart : name ∉ members.map Prod.fst) :
    valuesOf name members = [] := by
  simp only [valuesOf, List.map_eq_nil_iff, List.filter_eq_nil_iff, decide_eq_true_eq]
  intro member there same
  exact apart (List.mem_map.mpr ⟨member, there, same⟩)

theorem last_eq_none {name : Str} {members : List (Str × Json)} (apart : name ∉ members.map Prod.fst) :
    last members name = none := by
  rw [last, valuesOf_eq_nil apart, List.getLast?_nil]

theorem names_present_subset (entries : List (Str × Option Json)) :
    (present entries).map Prod.fst ⊆ entries.map Prod.fst := by
  intro name there
  simp only [present, List.map_filterMap, List.mem_filterMap, Option.map_map] at there
  obtain ⟨entry, member, named⟩ := there
  cases value : entry.2 with
  | none => simp [value] at named
  | some json =>
      rw [value] at named
      exact List.mem_map.mpr ⟨entry, member, Option.some.inj named⟩

theorem valuesOf_present {entries : List (Str × Option Json)} (distinct : (entries.map Prod.fst).Nodup)
    {entry : Str × Option Json} (member : entry ∈ entries) :
    valuesOf entry.1 (present entries) = entry.2.toList := by
  induction entries with
  | nil => exact absurd member List.not_mem_nil
  | cons first rest ih =>
      obtain ⟨apart, distinct⟩ := List.nodup_cons.mp distinct
      rw [present_cons, valuesOf_append]
      rcases List.mem_cons.mp member with rfl | later
      · rw [valuesOf_eq_nil fun there => apart (names_present_subset rest there), List.append_nil]
        cases entry.2 <;> simp [valuesOf]
      · have other : first.1 ≠ entry.1 := fun same => apart (same ▸ List.mem_map_of_mem later)
        rw [ih distinct later]
        cases first.2 <;> simp [valuesOf, other]

theorem last_present {entries : List (Str × Option Json)} (distinct : (entries.map Prod.fst).Nodup)
    {entry : Str × Option Json} (member : entry ∈ entries) : last (present entries) entry.1 = entry.2 := by
  rw [last, valuesOf_present distinct member]
  cases entry.2 <;> rfl

theorem lasts_present {entries : List (Str × Option Json)} (distinct : (entries.map Prod.fst).Nodup) :
    (entries.map Prod.fst).map (last (present entries)) = entries.map Prod.snd := by
  rw [List.map_map]
  exact List.map_congr_left fun entry member => last_present distinct member

theorem present_some (members : List (Str × Json)) :
    present (members.map fun member => (member.1, some member.2)) = members := by
  simp [present, List.filterMap_map]

theorem valuesOf_of_mem {members : List (Str × Json)} (distinct : (members.map Prod.fst).Nodup)
    {member : Str × Json} (there : member ∈ members) : valuesOf member.1 members = [member.2] := by
  have names : (members.map fun member => (member.1, some member.2)).map Prod.fst = members.map Prod.fst := by
    simp
  have found := valuesOf_present (names ▸ distinct) (List.mem_map_of_mem (f := fun m => (m.1, some m.2)) there)
  rwa [present_some] at found

theorem last_of_mem {members : List (Str × Json)} (distinct : (members.map Prod.fst).Nodup)
    {member : Str × Json} (there : member ∈ members) : last members member.1 = some member.2 := by
  have names : (members.map fun member => (member.1, some member.2)).map Prod.fst = members.map Prod.fst := by
    simp
  have found := last_present (names ▸ distinct) (List.mem_map_of_mem (f := fun m => (m.1, some m.2)) there)
  rwa [present_some] at found

theorem lasts_of_subset {members part : List (Str × Json)} (distinct : (members.map Prod.fst).Nodup)
    (within : part ⊆ members) : (part.map Prod.fst).map (last members) = part.map (some ·.2) := by
  rw [List.map_map]
  exact List.map_congr_left fun member there => last_of_mem distinct (within there)

theorem without_eq_self {name : Str} {members : List (Str × Json)} (apart : name ∉ members.map Prod.fst) :
    without name members = members := by
  apply List.filter_eq_self.mpr
  intro member there
  exact decide_eq_true fun same => apart (List.mem_map.mpr ⟨member, there, same⟩)

end CrashCatcher.Lib.Json
