import Mathlib.Data.List.Basic
import Mathlib.Data.List.Induction

namespace CrashCatcher.Lib

/-- Which elements open a run, and which keep an open one going. -/
structure RunRule (α : Type) where
  opens : α → Bool
  joins : α → Bool
  joins_of_opens : ∀ {a : α}, opens a = true → joins a = true

namespace RunRule
variable {α : Type} (rule : RunRule α)

def IsRun (run : List α) : Prop :=
  ∃ first rest, run = first :: rest ∧ rule.opens first = true ∧ ∀ a ∈ rest, rule.joins a = true

def Reaches (as : List α) : Prop := ∃ before run, as = before ++ run ∧ rule.IsRun run

/-- A run of a list between what is before and what is after, which cannot be made longer. -/
structure MaximalIn (as before run after : List α) : Prop where
  split : as = before ++ run ++ after
  isRun : rule.IsRun run
  left : ¬ rule.Reaches before
  right : ∀ a ∈ after.head?, rule.joins a = false

variable {rule} {as before run after done : List α} {a : α}

theorem isRun_singleton (opened : rule.opens a = true) : rule.IsRun [a] := ⟨a, [], rfl, opened, by simp⟩

theorem IsRun.append (isRun : rule.IsRun run) {more : List α} (joined : ∀ a ∈ more, rule.joins a = true) :
    rule.IsRun (run ++ more) := by
  obtain ⟨first, rest, rfl, opened, inside⟩ := isRun
  exact ⟨first, rest ++ more, rfl, opened, List.forall_mem_append.mpr ⟨inside, joined⟩⟩

theorem IsRun.ne_nil (isRun : rule.IsRun run) : run ≠ [] := by
  obtain ⟨first, rest, rfl, _, _⟩ := isRun
  simp

theorem IsRun.joins (isRun : rule.IsRun run) : ∀ a ∈ run, rule.joins a = true := by
  obtain ⟨first, rest, rfl, opened, inside⟩ := isRun
  exact List.forall_mem_cons.mpr ⟨rule.joins_of_opens opened, inside⟩

theorem IsRun.left {start rest : List α} (isRun : rule.IsRun (start ++ rest)) (nonempty : start ≠ []) :
    rule.IsRun start := by
  obtain ⟨first, start, rfl⟩ := List.exists_cons_of_ne_nil nonempty
  obtain ⟨opening, inner, same, opened, inside⟩ := isRun
  obtain ⟨rfl, rfl⟩ := List.cons.inj same
  exact ⟨first, start, rfl, opened, fun a member => inside a (List.mem_append_left rest member)⟩

theorem IsRun.reaches (isRun : rule.IsRun run) (before : List α) : rule.Reaches (before ++ run) :=
  ⟨before, run, rfl, isRun⟩

theorem not_reaches_nil : ¬ rule.Reaches ([] : List α) := by
  rintro ⟨before, run, same, isRun⟩
  exact isRun.ne_nil (List.append_eq_nil_iff.mp same.symm).2

theorem reaches_concat : rule.Reaches (as ++ [a]) ↔ rule.opens a = true ∨ rule.Reaches as ∧
    rule.joins a = true := by
  constructor
  · rintro ⟨before, run, same, isRun⟩
    obtain ⟨start, last, rfl⟩ := List.eq_nil_or_concat' run |>.resolve_left isRun.ne_nil
    rw [← List.append_assoc] at same
    obtain ⟨rfl, ended⟩ := List.append_inj' same rfl
    obtain rfl := List.singleton_inj.mp ended
    by_cases alone : start = []
    · obtain ⟨first, rest, opening, opened, _⟩ := isRun
      rw [alone, List.nil_append] at opening
      rw [(List.cons.inj opening).1]
      exact .inl opened
    · exact .inr ⟨(isRun.left alone).reaches before, isRun.joins a (by simp)⟩
  · rintro (opened | ⟨⟨before, run, rfl, isRun⟩, joined⟩)
    · exact (isRun_singleton opened).reaches as
    · rw [List.append_assoc]
      exact (isRun.append (by simpa using joined)).reaches before

theorem Reaches.exists_first (reached : rule.Reaches as) :
    ∃ before run, as = before ++ run ∧ rule.IsRun run ∧ ¬ rule.Reaches before := by
  induction as using List.reverseRecOn with
  | nil => exact absurd reached not_reaches_nil
  | append_singleton as a ih =>
      by_cases earlier : rule.Reaches as ∧ rule.joins a = true
      · obtain ⟨before, run, rfl, isRun, unreached⟩ := ih earlier.1
        exact ⟨before, run ++ [a], List.append_assoc before run [a],
          isRun.append (by simpa using earlier.2), unreached⟩
      · have opened := (reaches_concat.mp reached).resolve_right earlier
        exact ⟨as, [a], rfl, isRun_singleton opened,
          fun inside => earlier ⟨inside, rule.joins_of_opens opened⟩⟩

theorem IsRun.prefix_of_append_eq {before' run' : List α} (isRun : rule.IsRun run)
    (unreached : ¬ rule.Reaches before') (same : before ++ run = before' ++ run') : before' <+: before := by
  rcases List.append_eq_append_iff.mp same with ⟨between, rfl, rfl⟩ | ⟨between, rfl, _⟩
  · by_cases empty : between = []
    · simp [empty]
    · exact absurd ((isRun.left empty).reaches before) unreached
  · exact List.prefix_append before' between

theorem IsRun.unique {before' run' : List α} (isRun : rule.IsRun run) (isRun' : rule.IsRun run')
    (unreached : ¬ rule.Reaches before) (unreached' : ¬ rule.Reaches before')
    (same : before ++ run = before' ++ run') : before = before' ∧ run = run' := by
  have lengths := (isRun.prefix_of_append_eq unreached' same).length_le
  have starts := (isRun'.prefix_of_append_eq unreached same.symm).eq_of_length_le lengths
  exact ⟨starts, List.append_cancel_left (starts ▸ same)⟩

theorem MaximalIn.eq_of_longer (maximal : rule.MaximalIn as before run after) {before' run' after' : List α}
    (split : as = before' ++ run' ++ after') (isRun : rule.IsRun run') (starts : before' <+: before)
    (ends : after' <:+ after) : run' = run := by
  obtain ⟨earlier, rfl⟩ := starts
  obtain ⟨later, rfl⟩ := ends
  have middle : run' = earlier ++ run ++ later := by
    have same : before' ++ run' ++ after' = before' ++ (earlier ++ run ++ later) ++ after' := by
      rw [← split, maximal.split]
      simp only [List.append_assoc]
    exact List.append_cancel_left (List.append_cancel_right same)
  subst middle
  have none_earlier : earlier = [] := by
    by_contra some_earlier
    rw [List.append_assoc] at isRun
    exact maximal.left ((isRun.left some_earlier).reaches before')
  have none_later : later = [] := by
    cases later with
    | nil => rfl
    | cons a later =>
        have apart := maximal.right a rfl
        rw [isRun.joins a (by simp)] at apart
        exact absurd apart (by simp)
  rw [none_earlier, none_later, List.nil_append, List.append_nil]

theorem maximalIn_iff : rule.MaximalIn as before run after ↔
    as = before ++ run ++ after ∧ rule.IsRun run ∧ ∀ before' run' after', as = before' ++ run' ++ after' →
      rule.IsRun run' → before' <+: before → after' <:+ after → run' = run := by
  constructor
  · intro maximal
    exact ⟨maximal.split, maximal.isRun, fun _ _ _ split isRun starts ends =>
      maximal.eq_of_longer split isRun starts ends⟩
  · rintro ⟨rfl, isRun, longest⟩
    refine ⟨rfl, isRun, ?_, fun a head => ?_⟩
    · rintro ⟨earlier, extra, rfl, isRun'⟩
      have same := longest earlier (extra ++ run) after (by simp) (isRun'.append isRun.joins)
        (List.prefix_append earlier extra) List.suffix_rfl
      exact isRun'.ne_nil (List.append_left_eq_self.mp same)
    · obtain ⟨rest, rfl⟩ := List.head?_eq_some_iff.mp head
      refine Bool.eq_false_iff.mpr fun joined => ?_
      have same := longest before (run ++ [a]) rest (by simp) (isRun.append (by simpa using joined))
        List.prefix_rfl (List.suffix_cons a rest)
      simp at same

theorem maximalIn_concat (apart : ¬ rule.Reaches (as ++ [a])) :
    rule.MaximalIn (as ++ [a]) before run after ↔
      ∃ after', rule.MaximalIn as before run after' ∧ after = after' ++ [a] := by
  constructor
  · rintro ⟨split, isRun, left, right⟩
    rcases List.eq_nil_or_concat' after with rfl | ⟨after', last, rfl⟩
    · rw [List.append_nil] at split
      exact absurd (isRun.reaches before) (split ▸ apart)
    · rw [← List.append_assoc] at split
      obtain ⟨rfl, ended⟩ := List.append_inj' split rfl
      obtain rfl := List.singleton_inj.mp ended
      refine ⟨after', ⟨rfl, isRun, left, fun b head => right b ?_⟩, rfl⟩
      cases after' with
      | nil => simp at head
      | cons c after' => exact head
  · rintro ⟨after', ⟨rfl, isRun, left, right⟩, rfl⟩
    refine ⟨by simp, isRun, left, fun b head => ?_⟩
    cases after' with
    | nil =>
        obtain rfl : a = b := by simpa using head
        rw [List.append_nil] at apart
        have reached := isRun.reaches before
        exact Bool.eq_false_iff.mpr fun joined => apart (reaches_concat.mpr (.inr ⟨reached, joined⟩))
    | cons c after' => exact right b head

theorem maximalIn_append_run (pending : rule.IsRun run) (unreached : ¬ rule.Reaches done)
    {found : List α} : rule.MaximalIn (done ++ run) before found after ↔
      (∃ after', rule.MaximalIn done before found after' ∧ after = after' ++ run) ∨
        before = done ∧ found = run ∧ after = [] := by
  constructor
  · rintro ⟨split, isRun, left, right⟩
    cases after with
    | nil =>
        rw [List.append_nil] at split
        obtain ⟨rfl, rfl⟩ := pending.unique isRun unreached left split
        exact .inr ⟨rfl, rfl, rfl⟩
    | cons a after =>
        have apart := right a rfl
        rcases List.append_eq_append_iff.mp split with ⟨later, prior, rfl⟩ | ⟨after', rfl, tail⟩
        · have joined := pending.joins a (by simp)
          rw [apart] at joined
          exact absurd joined (by simp)
        · cases after' with
          | nil =>
              rw [List.nil_append] at tail
              have joined := pending.joins a (tail ▸ List.mem_cons_self)
              rw [apart] at joined
              exact absurd joined (by simp)
          | cons b after' =>
              exact .inl ⟨b :: after', ⟨rfl, isRun, left, fun c head => right c (by rw [tail]; exact head)⟩,
                tail⟩
  · rintro (⟨after', ⟨rfl, isRun, left, right⟩, rfl⟩ | ⟨rfl, rfl, rfl⟩)
    · refine ⟨by simp, isRun, left, fun b head => ?_⟩
      cases after' with
      | nil => exact absurd (by simpa using isRun.reaches before) unreached
      | cons c after' => exact right b head
    · exact ⟨by simp, pending, unreached, by simp⟩

end RunRule
end CrashCatcher.Lib
