import Mathlib.Order.Basic
import Mathlib.Data.List.Find
import Mathlib.Data.List.Induction

/-! A map whose entries stand in the order of their keys. -/

namespace CrashCatcher.Lib

structure BTreeMap (κ α : Type*) [LinearOrder κ] where
  entries : List (κ × α)
  sorted : entries.Pairwise fun entry other => entry.1 < other.1

namespace BTreeMap
variable {κ α : Type*} [LinearOrder κ]

def place (key : κ) (value : α) : List (κ × α) → List (κ × α)
  | [] => [(key, value)]
  | entry :: rest =>
      if key < entry.1 then (key, value) :: entry :: rest
      else if key = entry.1 then (key, value) :: rest
      else entry :: place key value rest

variable {key : κ} {value : α} {entry : κ × α} {entries : List (κ × α)}

theorem mem_place (sorted : entries.Pairwise fun entry other => entry.1 < other.1) :
    entry ∈ place key value entries ↔ entry = (key, value) ∨ entry ∈ entries ∧ entry.1 ≠ key := by
  induction entries with
  | nil => simp [place]
  | cons first rest ih =>
      obtain ⟨least, sorted⟩ := List.pairwise_cons.mp sorted
      unfold place
      split
      next before =>
        have apart : ∀ other ∈ first :: rest, other.1 ≠ key := by
          intro other member
          rcases List.mem_cons.mp member with same | later
          · rw [same]
            exact before.ne'
          · exact (before.trans (least other later)).ne'
        simp only [List.mem_cons] at apart ⊢
        exact or_congr_right ⟨fun member => ⟨member, apart entry member⟩, And.left⟩
      next =>
        split
        next same =>
          have apart : ∀ other ∈ rest, other.1 ≠ key := fun other member => by
            rw [same]
            exact (least other member).ne'
          simp only [List.mem_cons]
          refine or_congr_right ⟨fun member => ⟨.inr member, apart entry member⟩, ?_⟩
          rintro ⟨here | later, other⟩
          · exact absurd (by rw [here, same]) other
          · exact later
        next other =>
          rw [List.mem_cons, ih sorted, List.mem_cons]
          constructor
          · rintro (here | new | ⟨later, apart⟩)
            · exact .inr ⟨.inl here, by rw [here]; exact Ne.symm other⟩
            · exact .inl new
            · exact .inr ⟨.inr later, apart⟩
          · rintro (new | ⟨here | later, apart⟩)
            · exact .inr (.inl new)
            · exact .inl here
            · exact .inr (.inr ⟨later, apart⟩)

theorem sorted_place (sorted : entries.Pairwise fun entry other => entry.1 < other.1) :
    (place key value entries).Pairwise fun entry other => entry.1 < other.1 := by
  induction entries with
  | nil => exact List.pairwise_singleton _ _
  | cons first rest ih =>
      obtain ⟨least, later⟩ := List.pairwise_cons.mp sorted
      unfold place
      split
      next before =>
        refine List.pairwise_cons.mpr ⟨fun other member => ?_, sorted⟩
        rcases List.mem_cons.mp member with same | member
        · rw [same]
          exact before
        · exact before.trans (least other member)
      next notBefore =>
        split
        next same => exact List.pairwise_cons.mpr ⟨fun other member => same ▸ least other member, later⟩
        next apart =>
          refine List.pairwise_cons.mpr ⟨fun other member => ?_, ih later⟩
          rcases (mem_place later).mp member with new | ⟨member, -⟩
          · rw [new]
            exact lt_of_le_of_ne (not_lt.mp notBefore) (Ne.symm apart)
          · exact least other member

def empty : BTreeMap κ α := ⟨[], .nil⟩

def insert (m : BTreeMap κ α) (entry : κ × α) : BTreeMap κ α :=
  ⟨place entry.1 entry.2 m.entries, sorted_place m.sorted⟩

def fromIter (entries : List (κ × α)) : BTreeMap κ α := entries.foldl insert empty

theorem mem_insert {m : BTreeMap κ α} {new : κ × α} :
    entry ∈ (m.insert new).entries ↔ entry = new ∨ entry ∈ m.entries ∧ entry.1 ≠ new.1 := mem_place m.sorted

theorem fromIter_concat (entries : List (κ × α)) (new : κ × α) :
    fromIter (entries ++ [new]) = (fromIter entries).insert new := by
  unfold fromIter
  rw [List.foldl_append]
  rfl

theorem mem_fromIter : entry ∈ (fromIter entries).entries ↔
    entries.reverse.find? (fun other => decide (other.1 = entry.1)) = some entry := by
  induction entries using List.reverseRecOn with
  | nil => simp [fromIter, empty]
  | append_singleton rest new ih =>
      rw [fromIter_concat, mem_insert, ih, List.reverse_concat, List.find?_cons]
      by_cases same : new.1 = entry.1
      · rw [decide_eq_true same]
        constructor
        · rintro (rfl | ⟨-, apart⟩)
          · rfl
          · exact absurd same.symm apart
        · intro last
          exact .inl (Option.some.inj last).symm
      · rw [decide_eq_false same]
        constructor
        · rintro (rfl | ⟨later, -⟩)
          · exact absurd rfl same
          · exact later
        · exact fun later => .inr ⟨later, Ne.symm same⟩

theorem mem_of_mem_fromIter (member : entry ∈ (fromIter entries).entries) : entry ∈ entries :=
  List.mem_reverse.mp (List.mem_of_find?_eq_some (mem_fromIter.mp member))

theorem find?_fromIter {p : κ → Bool}
    (unique : ∀ entry ∈ entries, ∀ other ∈ entries, p entry.1 = true → p other.1 = true → entry.1 = other.1) :
    (fromIter entries).entries.find? (fun entry => p entry.1) =
      entries.reverse.find? fun entry => p entry.1 := by
  cases found : entries.reverse.find? fun entry => p entry.1 with
  | none =>
      rw [List.find?_eq_none] at found ⊢
      exact fun entry member => found entry (List.mem_reverse.mpr (mem_of_mem_fromIter member))
  | some entry =>
      have member := List.mem_reverse.mp (List.mem_of_find?_eq_some found)
      have holds := List.find?_some found
      have keyed : entries.reverse.find? (fun other => decide (other.1 = entry.1)) = some entry := by
        rw [← found]
        refine List.find?_congr fun other member' => ?_
        rw [Bool.eq_iff_iff, decide_eq_true_iff]
        constructor
        · intro same
          rw [same]
          exact holds
        · exact fun holds' => unique other (List.mem_reverse.mp member') entry member holds' holds
      cases again : (fromIter entries).entries.find? fun entry => p entry.1 with
      | none => exact absurd holds (List.find?_eq_none.mp again entry (mem_fromIter.mpr keyed))
      | some other =>
          have kept := List.mem_of_find?_eq_some again
          have holds' := List.find?_some again
          have same := unique other (mem_of_mem_fromIter kept) entry member holds' holds
          have last := mem_fromIter.mp kept
          rw [same, keyed] at last
          exact last.symm

end BTreeMap
end CrashCatcher.Lib
