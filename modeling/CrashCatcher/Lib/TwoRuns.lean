import Mathlib.Data.List.Forall2

/-! What two runs of a program over related values have in common. -/

namespace CrashCatcher.Lib

/-- Two results that are the same error or related values. -/
inductive Related {ε α β : Type} (R : α → β → Prop) : Except ε α → Except ε β → Prop where
  | error (e : ε) : Related R (.error e) (.error e)
  | ok {a : α} {b : β} (related : R a b) : Related R (.ok a) (.ok b)

namespace Related
variable {ε α β α' β' : Type} {R : α → β → Prop} {S : α' → β' → Prop} {x : Except ε α} {y : Except ε β}

theorem refl (x : Except ε α) : Related Eq x x := by
  cases x with
  | error e => exact .error e
  | ok a => exact .ok rfl

theorem bind {f : α → Except ε α'} {g : β → Except ε β'} (first : Related R x y)
    (rest : ∀ a b, R a b → Related S (f a) (g b)) : Related S (x >>= f) (y >>= g) := by
  cases first with
  | error e => exact .error e
  | ok related => exact rest _ _ related

end Related

section
variable {α β : Type} {R : α → α → Prop} {p : α → Bool} {as bs : List α}

def Tells (R : α → α → Prop) (p : α → Bool) : Prop := ∀ a b, R a b → p a = p b ∧ (p a = true → a = b)

theorem find?_eq_of_tells (tells : Tells R p) (related : List.Forall₂ R as bs) : as.find? p = bs.find? p := by
  induction related with
  | nil => rfl
  | @cons a b _ _ here _ ih =>
      obtain ⟨same, equal⟩ := tells a b here
      rw [List.find?_cons, List.find?_cons, ← same, ih]
      cases passed : p a with
      | false => rfl
      | true => rw [equal passed]

theorem isSome_find?_eq_of_forall₂ (alike : ∀ a b, R a b → p a = p b) (related : List.Forall₂ R as bs) :
    (as.find? p).isSome = (bs.find? p).isSome := by
  induction related with
  | nil => rfl
  | @cons a b _ _ here _ ih =>
      rw [List.find?_cons, List.find?_cons, ← alike a b here]
      cases p a with
      | false => exact ih
      | true => rfl

theorem findSome?_eq_of_forall₂ {f : α → Option β} (alike : ∀ a b, R a b → f a = f b)
    (related : List.Forall₂ R as bs) : as.findSome? f = bs.findSome? f := by
  induction related with
  | nil => rfl
  | cons here _ ih => rw [List.findSome?_cons, List.findSome?_cons, alike _ _ here, ih]

theorem filterMap_eq_of_forall₂ {f : α → Option β} (alike : ∀ a b, R a b → f a = f b)
    (related : List.Forall₂ R as bs) : as.filterMap f = bs.filterMap f := by
  induction related with
  | nil => rfl
  | cons here _ ih => rw [List.filterMap_cons, List.filterMap_cons, alike _ _ here, ih]

theorem map_filter_eq_of_forall₂ {g : α → β} (alike : ∀ a b, R a b → p a = p b ∧ g a = g b)
    (related : List.Forall₂ R as bs) : (as.filter p).map g = (bs.filter p).map g := by
  induction related with
  | nil => rfl
  | @cons a b _ _ here _ ih =>
      obtain ⟨tested, same⟩ := alike a b here
      rw [List.filter_cons, List.filter_cons, ← tested]
      split_ifs
      · rw [List.map_cons, List.map_cons, same, ih]
      · exact ih

end

end CrashCatcher.Lib
