import Mathlib.Data.List.MinMax

namespace CrashCatcher.Lib.Selection
variable {α κ : Type*} [LinearOrder κ]

def lastBest (rank : α → κ) (l : List α) : Option α := l.reverse.argmax rank

def keep (rank : α → κ) (cell a : α) : α := if rank cell ≤ rank a then a else cell

theorem lastBest_concat (rank : α → κ) (l : List α) (a : α) :
    lastBest rank (l ++ [a]) = some (((lastBest rank l).map fun c => keep rank c a).getD a) := by
  simp only [lastBest, List.reverse_append, List.reverse_singleton, List.singleton_append,
    List.argmax_cons]
  cases l.reverse.argmax rank with
  | none => rfl
  | some c =>
      simp only [Option.map_some, Option.getD_some, keep, ← not_lt]
      split_ifs <;> rfl

theorem lastBest_cons (rank : α → κ) (a : α) (l : List α) :
    lastBest rank (a :: l) = some (((lastBest rank l).map fun b => keep rank a b).getD a) := by
  simp only [lastBest, List.reverse_cons, List.argmax_concat]
  cases l.reverse.argmax rank with
  | none => rfl
  | some b =>
      simp only [Option.map_some, Option.getD_some, keep, ← not_lt]
      split_ifs <;> rfl

@[simp] theorem lastBest_nil (rank : α → κ) : lastBest rank [] = none := rfl

@[simp] theorem lastBest_eq_none {rank : α → κ} {l : List α} : lastBest rank l = none ↔ l = [] := by
  simp [lastBest]

theorem lastBest_mem {rank : α → κ} {l : List α} {a : α} (h : lastBest rank l = some a) : a ∈ l :=
  List.mem_reverse.mp (List.argmax_mem h)

theorem le_of_lastBest {rank : α → κ} {l : List α} {a b : α} (h : lastBest rank l = some a)
    (member : b ∈ l) : rank b ≤ rank a :=
  List.le_of_mem_argmax (List.mem_reverse.mpr member) h

theorem lastBest_split {rank : α → κ} {l : List α} {a : α} (h : lastBest rank l = some a) :
    ∃ earlier later, l = earlier ++ a :: later ∧ ∀ b ∈ later, rank b < rank a := by
  induction l using List.reverseRecOn generalizing a with
  | nil => cases h
  | append_singleton l c ih =>
      rw [lastBest_concat] at h
      cases best : lastBest rank l with
      | none =>
          rw [lastBest_eq_none] at best
          subst best
          obtain rfl : c = a := by simpa using h
          exact ⟨[], [], rfl, by simp⟩
      | some b =>
          simp only [best, Option.map_some, Option.getD_some, Option.some.injEq, keep] at h
          split_ifs at h with replaces
          · subst h
            exact ⟨l, [], rfl, by simp⟩
          · subst h
            obtain ⟨earlier, later, rfl, below⟩ := ih best
            refine ⟨earlier, later ++ [c], by simp, ?_⟩
            intro d member
            rcases List.mem_append.mp member with old | new
            · exact below d old
            · rw [List.mem_singleton.mp new]
              exact not_le.mp replaces

theorem foldl_keep (rank : α → κ) (a : α) (l : List α) :
    some (l.foldl (keep rank) a) = lastBest rank (a :: l) := by
  induction l using List.reverseRecOn with
  | nil => rfl
  | append_singleton l b ih =>
      rw [List.foldl_concat, ← List.cons_append, lastBest_concat, ← ih]
      rfl

theorem lastBest_cons_eq {rank : α → κ} {a : α} {l : List α} (h : ∃ b ∈ l, rank a ≤ rank b) :
    lastBest rank (a :: l) = lastBest rank l := by
  obtain ⟨b, member, le⟩ := h
  rw [lastBest_cons]
  cases best : lastBest rank l with
  | none => simp [lastBest_eq_none.mp best] at member
  | some c => simp [keep, le.trans (le_of_lastBest best member)]

theorem lastBest_cons_self {rank : α → κ} {a : α} {l : List α} (h : ∀ b ∈ l, rank b < rank a) :
    lastBest rank (a :: l) = some a := by
  rw [lastBest_cons]
  cases best : lastBest rank l with
  | none => rfl
  | some c => simp [keep, not_le.mpr (h c (lastBest_mem best))]

end CrashCatcher.Lib.Selection
