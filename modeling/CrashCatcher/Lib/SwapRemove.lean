import Mathlib.Data.List.Induction
import Mathlib.Data.List.Perm.Basic

namespace CrashCatcher.Lib
open scoped List
variable {α β : Type*}

def swapRemove (l : List α) (i : Nat) : List α :=
  match l.getLast? with
  | none => []
  | some last => (l.set i last).dropLast

theorem swapRemove_concat (l : List α) (a : α) (i : Nat) :
    swapRemove (l ++ [a]) i = if i < l.length then l.set i a else l := by
  simp only [swapRemove, List.getLast?_concat]
  split_ifs with inside
  · rw [List.set_append_left _ _ inside, List.dropLast_concat]
  · rw [List.set_append_right _ _ (Nat.le_of_not_lt inside)]
    cases i - l.length <;> simp

@[simp] theorem length_swapRemove (l : List α) (i : Nat) :
    (swapRemove l i).length = l.length - 1 := by
  induction l using List.reverseRecOn with
  | nil => rfl
  | append_singleton l a _ =>
      rw [swapRemove_concat]
      split_ifs <;> simp

theorem perm_swapRemove {l : List α} {i : Nat} (inside : i < l.length) :
    l.Perm (l[i] :: swapRemove l i) := by
  induction l using List.reverseRecOn with
  | nil => simp at inside
  | append_singleton l a _ =>
      rw [swapRemove_concat]
      split_ifs with front
      · rw [List.getElem_append_left front]
        calc
          l ++ [a] ~ a :: l := List.perm_append_singleton a l
          _ ~ a :: l[i] :: l.eraseIdx i := (List.getElem_cons_eraseIdx_perm front).symm.cons a
          _ ~ l[i] :: a :: l.eraseIdx i := .swap ..
          _ ~ l[i] :: l.set i a := (List.set_perm_cons_eraseIdx front a).symm.cons _
      · obtain rfl : i = l.length := by simp at inside; omega
        simp

theorem getElem_swapRemove {l : List α} {i j : Nat} (before : j < i) (inside : i < l.length) :
    (swapRemove l i)[j]? = l[j]? := by
  induction l using List.reverseRecOn with
  | nil => simp at inside
  | append_singleton l a _ =>
      simp only [List.length_append, List.length_singleton] at inside
      rw [swapRemove_concat, List.getElem?_append_left (by omega)]
      split_ifs
      · rw [List.getElem?_set_ne (by omega)]
      · rfl

theorem map_swapRemove (f : α → β) (l : List α) (i : Nat) :
    (swapRemove l i).map f = swapRemove (l.map f) i := by
  induction l using List.reverseRecOn with
  | nil => rfl
  | append_singleton l a _ =>
      rw [List.map_append, List.map_singleton, swapRemove_concat, swapRemove_concat,
        List.length_map]
      split_ifs
      · exact List.map_set
      · rfl

/-- One pass over a list that takes out, by `swapRemove`, everything satisfying `p`.

`remaining` counts the elements from position `i` on: a removal shortens the list, any other step
advances `i`. -/
def extractFrom (p : α → Bool) : Nat → Nat → List α → List α × List α
  | 0, _, l => ([], l)
  | remaining + 1, i, l =>
    match l[i]? with
    | none => ([], l)
    | some a =>
      if p a then
        let rest := extractFrom p remaining i (swapRemove l i)
        (a :: rest.1, rest.2)
      else extractFrom p remaining (i + 1) l

def extract (p : α → Bool) (l : List α) : List α × List α := extractFrom p l.length 0 l

theorem extractFrom_perm (p : α → Bool) (remaining i : Nat) (l : List α) :
    ((extractFrom p remaining i l).1 ++ (extractFrom p remaining i l).2).Perm l := by
  induction remaining generalizing i l with
  | zero => exact .refl _
  | succ n ih =>
      simp only [extractFrom]
      split
      · exact .refl _
      · rename_i a found
        split_ifs
        · obtain ⟨inside, rfl⟩ := List.getElem?_eq_some_iff.mp found
          exact ((ih i _).cons _).trans (perm_swapRemove inside).symm
        · exact ih (i + 1) l

theorem extractFrom_removed (p : α → Bool) (remaining i : Nat) (l : List α) :
    ∀ a ∈ (extractFrom p remaining i l).1, p a := by
  induction remaining generalizing i l with
  | zero => simp [extractFrom]
  | succ n ih =>
      simp only [extractFrom]
      split
      · simp
      · split_ifs with removed
        · intro a member
          rcases List.mem_cons.mp member with rfl | later
          · exact removed
          · exact ih i _ a later
        · exact ih (i + 1) l

theorem extractFrom_kept (p : α → Bool) (remaining i : Nat) (l : List α)
    (count : l.length = i + remaining) (seen : ∀ j < i, ∀ a, l[j]? = some a → p a = false) :
    ∀ a ∈ (extractFrom p remaining i l).2, p a = false := by
  induction remaining generalizing i l with
  | zero =>
      intro a member
      obtain ⟨j, inside, rfl⟩ := List.getElem_of_mem member
      have bound : j < l.length := inside
      exact seen j (by omega) _ (List.getElem?_eq_getElem bound)
  | succ n ih =>
      have inside : i < l.length := by omega
      simp only [extractFrom, List.getElem?_eq_getElem inside]
      split_ifs with removed
      · apply ih i _ (by rw [length_swapRemove]; omega)
        intro j before a found
        rw [getElem_swapRemove before inside] at found
        exact seen j before a found
      · apply ih (i + 1) l (by omega)
        intro j before a found
        rcases Nat.lt_succ_iff_lt_or_eq.mp before with earlier | rfl
        · exact seen j earlier a found
        · rw [List.getElem?_eq_getElem inside, Option.some.injEq] at found
          subst found
          simpa using removed

theorem extract_perm (p : α → Bool) (l : List α) :
    ((extract p l).1 ++ (extract p l).2).Perm l := extractFrom_perm ..

theorem extract_removed (p : α → Bool) (l : List α) : ∀ a ∈ (extract p l).1, p a :=
  extractFrom_removed p l.length 0 l

theorem extract_kept (p : α → Bool) (l : List α) : ∀ a ∈ (extract p l).2, p a = false :=
  extractFrom_kept _ _ _ _ (by simp) (by simp)

theorem extract_taken (p : α → Bool) (l : List α) : (extract p l).1.Perm (l.filter p) := by
  have all := (extract_perm p l).filter p
  rwa [List.filter_append, List.filter_eq_self.mpr (extract_removed p l),
    List.filter_eq_nil_iff.mpr (by simpa using extract_kept p l), List.append_nil] at all

theorem extract_left (p : α → Bool) (l : List α) : (extract p l).2.Perm (l.filter fun a => !p a) := by
  have all := (extract_perm p l).filter fun a => !p a
  rwa [List.filter_append, List.filter_eq_nil_iff.mpr (by simpa using extract_removed p l),
    List.filter_eq_self.mpr (by simpa using extract_kept p l), List.nil_append] at all

end CrashCatcher.Lib
