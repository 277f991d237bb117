import Mathlib.Data.List.Perm.Basic

namespace CrashCatcher.Lib
variable {α β : Type*}

theorem map_modify_eq {f : α → β} {g : α → α} (same : ∀ a, f (g a) = f a) (l : List α) (i : Nat) :
    (l.modify i g).map f = l.map f := by
  apply List.ext_getElem?
  intro j
  rw [List.getElem?_map, List.getElem?_map, List.getElem?_modify]
  split_ifs <;> cases l[j]? <;> simp [same]

theorem perm_modify {l : List α} {i : Nat} {a : α} (found : l[i]? = some a) (g : α → α) :
    ∃ rest, l.Perm (a :: rest) ∧ (l.modify i g).Perm (g a :: rest) := by
  obtain ⟨inside, rfl⟩ := List.getElem?_eq_some_iff.mp found
  refine ⟨l.eraseIdx i, (List.getElem_cons_eraseIdx_perm inside).symm, ?_⟩
  rw [List.modify_eq_take_cons_drop inside, List.eraseIdx_eq_take_drop_succ]
  exact List.perm_middle

theorem filter_modify_of_not {p : α → Bool} {g : α → α} {l : List α} {i : Nat} {a : α}
    (found : l[i]? = some a) (before : p a = false) (after : p (g a) = false) :
    (l.modify i g).filter p = l.filter p := by
  obtain ⟨inside, rfl⟩ := List.getElem?_eq_some_iff.mp found
  calc
    (l.modify i g).filter p = (l.take i).filter p ++ (l.drop (i + 1)).filter p := by
      simp [List.modify_eq_take_cons_drop inside, after]
    _ = (l.take i ++ l[i] :: l.drop (i + 1)).filter p := by
      rw [List.filter_append, List.filter_cons_of_neg (by simp [before])]
    _ = l.filter p := by rw [List.getElem_cons_drop inside, List.take_append_drop]

end CrashCatcher.Lib
