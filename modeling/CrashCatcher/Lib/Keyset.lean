import Mathlib.Data.List.Sort

namespace CrashCatcher.Lib.Keyset
variable {α κ : Type*} (before : κ → κ → Prop) [DecidableRel before] (key : α → κ)

def ordered (rows : List α) : List α :=
  rows.mergeSort fun a b => !decide (before (key b) (key a))

def past (cursor : Option κ) (rows : List α) : List α :=
  ordered before key (rows.filter fun row => cursor.all fun last => decide (before last (key row)))

/-- One page: a row too many is fetched to learn whether another page follows. -/
def page (limit : Nat) (cursor : Option κ) (rows : List α) : List α × Option κ :=
  let items := (past before key cursor rows).take (limit + 1)
  if items.length > limit then (items.take limit, (items.take limit).getLast?.map key)
  else (items, none)

structure Walk (α κ : Type*) where
  cursor : Option κ
  returned : List α
  finished : Bool

namespace Walk

def start : Walk α κ := { cursor := none, returned := [], finished := false }

def turn (walk : Walk α κ) (rows : List α) (limit : Nat) : Walk α κ :=
  let (items, next) := page before key limit walk.cursor rows
  { cursor := next, returned := walk.returned ++ items, finished := next.isNone }

/-- What the walk would still return if the rows stayed as they are. -/
def rest (walk : Walk α κ) (rows : List α) : List α :=
  if walk.finished then [] else past before key walk.cursor rows

structure Sorted (walk : Walk α κ) : Prop where
  pairwise : walk.returned.Pairwise fun a b => before (key a) (key b)
  behind : walk.finished = false → ∀ row ∈ walk.returned, ∃ last ∈ walk.cursor,
    ¬ before last (key row)

def owes (walk : Walk α κ) (k : κ) : Bool :=
  !walk.finished && walk.cursor.all fun last => decide (before last k)

end Walk

structure Keeps (p : α → Bool) (k : κ) (rows : List α) : Prop where
  present : ∃ row ∈ rows, p row
  keyed : ∀ row ∈ rows, p row → key row = k

section
variable {before} {key} {rows : List α} {cursor : Option κ}

theorem mem_past {row : α} :
    row ∈ past before key cursor rows ↔ row ∈ rows ∧ ∀ last ∈ cursor, before last (key row) := by
  rw [past, ordered, List.mem_mergeSort, List.mem_filter]
  cases cursor <;> simp

theorem past_none : past before key none rows = ordered before key rows := by
  simp [past]

theorem map_past {β : Type*} {f : α → β} {key' : β → κ}
    (same : ∀ row ∈ rows, key' (f row) = key row) :
    (past before key cursor rows).map f = past before key' cursor (rows.map f) := by
  have order : ∀ l : List α, (∀ a ∈ l, a ∈ rows) →
      (ordered before key l).map f = ordered before key' (l.map f) := by
    intro l members
    refine List.map_mergeSort fun a ha b hb => ?_
    rw [same a (members a ha), same b (members b hb)]
  rw [past, past, order _ fun _ => List.mem_of_mem_filter, List.filter_map]
  congr 2
  refine List.filter_congr fun row member => ?_
  rw [Function.comp_apply, same row member]

/-- A page either takes all that is left or ends at its cursor. -/
theorem page_cases (before : κ → κ → Prop) [DecidableRel before] (key : α → κ) (cursor : Option κ)
    (rows : List α) {limit : Nat} (room : 0 < limit) :
    page before key limit cursor rows = (past before key cursor rows, none) ∨
      ∃ init last rest, past before key cursor rows = init ++ last :: rest ∧
        page before key limit cursor rows = (init ++ [last], some (key last)) := by
  generalize listed : past before key cursor rows = all
  unfold page
  rw [listed]
  by_cases fits : all.length ≤ limit
  · left
    rw [List.take_of_length_le (by omega)]
    exact if_neg (by omega)
  · right
    have truncated : (all.take (limit + 1)).take limit = all.take limit := by
      rw [List.take_take, Nat.min_eq_left (by omega)]
    rcases List.eq_nil_or_concat (all.take limit) with empty | ⟨init, last, taken⟩
    · have short := congrArg List.length empty
      simp only [List.length_take, List.length_nil] at short
      omega
    · refine ⟨init, last, all.drop limit, ?_, ?_⟩
      · have split := List.take_append_drop limit all
        rw [taken, List.concat_append] at split
        exact split.symm
      · have long : (all.take (limit + 1)).length > limit := by
          rw [List.length_take]
          omega
        simp only [if_pos long, truncated, taken, List.concat_eq_append, List.getLast?_concat,
          Option.map_some]

theorem countP_of_keeps {p : α → Bool} {k : κ} (distinct : (rows.map key).Nodup)
    (keeps : Keeps key p k rows) : rows.countP p = 1 := by
  obtain ⟨row, member, selected⟩ := keeps.present
  have some := List.countP_pos_iff.mpr ⟨row, member, selected⟩
  have few : ∀ {rows : List α}, (rows.map key).Nodup → (∀ row ∈ rows, p row → key row = k) →
      rows.countP p ≤ 1 := by
    intro rows distinct keyed
    induction rows with
    | nil => exact Nat.zero_le 1
    | cons head rows ih =>
        obtain ⟨fresh, distinct⟩ := List.nodup_cons.mp distinct
        by_cases hit : p head
        · have none : rows.countP p = 0 := List.countP_eq_zero.mpr fun row member selected => by
            have same := (keyed row (List.mem_cons_of_mem _ member) selected).trans
              (keyed head List.mem_cons_self hit).symm
            exact fresh (same ▸ List.mem_map_of_mem member)
          rw [List.countP_cons_of_pos hit, none]
        · rw [List.countP_cons_of_neg hit]
          exact ih distinct fun row member => keyed row (List.mem_cons_of_mem _ member)
  exact Nat.le_antisymm (few distinct keeps.keyed) some

theorem countP_past (before : κ → κ → Prop) [DecidableRel before] (cursor : Option κ)
    {p : α → Bool} {k : κ} (distinct : (rows.map key).Nodup)
    (keeps : Keeps key p k rows) :
    (past before key cursor rows).countP p =
      if cursor.all fun last => decide (before last k) then 1 else 0 := by
  have counted : (past before key cursor rows).countP p =
      rows.countP fun row => p row && cursor.all fun last => decide (before last (key row)) := by
    rw [past, ordered, (List.mergeSort_perm _ _).countP_eq, List.countP_filter]
  rw [counted, ← countP_of_keeps distinct keeps]
  split
  next due =>
    refine List.countP_congr fun row member => ?_
    rw [Bool.and_eq_true, and_iff_left_iff_imp]
    intro selected
    rw [keeps.keyed row member selected]
    exact due
  next passed =>
    refine List.countP_eq_zero.mpr fun row member selected => ?_
    obtain ⟨selected, due⟩ := Bool.and_eq_true_iff.mp selected
    rw [keeps.keyed row member selected] at due
    exact passed due

theorem Walk.countP_rest (before : κ → κ → Prop) [DecidableRel before] {p : α → Bool} {k : κ}
    (walk : Walk α κ) (distinct : (rows.map key).Nodup)
    (keeps : Keeps key p k rows) :
    (walk.rest before key rows).countP p = (walk.owes before k).toNat := by
  cases going : walk.finished with
  | true => simp [Walk.rest, Walk.owes, going]
  | false =>
      have counted := countP_past before walk.cursor distinct keeps
      rw [Walk.rest, Walk.owes, going, if_neg Bool.false_ne_true, counted]
      cases walk.cursor.all fun last => decide (before last k) <;> rfl

omit [DecidableRel before] in
theorem Walk.sorted_start : (start : Walk α κ).Sorted before key where
  pairwise := List.Pairwise.nil
  behind _ _ h := by cases h

end

section Strict
variable [IsStrictTotalOrder κ before] {before} {key} {rows : List α} {cursor : Option κ}

omit [DecidableRel before] in
theorem before_trans {a b c : κ} (lower : before a b) (upper : before b c) : before a c :=
  IsTrans.trans a b c lower upper

omit [DecidableRel before] in
theorem before_of_not_before {a b c : κ} (first : ¬ before b a) (second : before b c) :
    before a c := by
  rcases trichotomous_of before a b with lower | same | higher
  · exact before_trans lower second
  · rwa [same]
  · exact absurd higher first

theorem pairwise_ordered (distinct : (rows.map key).Nodup) :
    (ordered before key rows).Pairwise fun a b => before (key a) (key b) := by
  have sorted : (ordered before key rows).Pairwise fun a b => !decide (before (key b) (key a)) := by
    apply List.pairwise_mergeSort
    · intro a b c hab hbc
      simp only [Bool.not_eq_true', decide_eq_false_iff_not] at hab hbc ⊢
      intro hca
      exact hab (before_of_not_before hbc hca)
    · intro a b
      simp only [Bool.or_eq_true, Bool.not_eq_true', decide_eq_false_iff_not]
      exact not_and_or.mp fun h => asymm h.1 h.2
  have apart : (ordered before key rows).Pairwise fun a b => key a ≠ key b :=
    List.pairwise_map.mp (((List.mergeSort_perm rows _).map key).nodup_iff.mpr distinct)
  refine (sorted.and apart).imp fun {a b} h => ?_
  simp only [Bool.not_eq_true', decide_eq_false_iff_not] at h
  rcases trichotomous_of before (key a) (key b) with lower | same | higher
  · exact lower
  · exact absurd same h.2
  · exact absurd higher h.1

theorem pairwise_past (before : κ → κ → Prop) [DecidableRel before] [IsStrictTotalOrder κ before]
    (cursor : Option κ) (distinct : (rows.map key).Nodup) :
    (past before key cursor rows).Pairwise fun a b => before (key a) (key b) :=
  pairwise_ordered (distinct.sublist (List.filter_sublist.map key))

omit [DecidableRel before] in
theorem nodup_of_pairwise {l : List α} (h : l.Pairwise fun a b => before (key a) (key b)) :
    l.Nodup := by
  refine h.imp ?_
  rintro a _ hab rfl
  exact irrefl (key a) hab

omit [DecidableRel before] in
theorem eq_of_mem_iff {l m : List α} (hl : l.Pairwise fun a b => before (key a) (key b))
    (hm : m.Pairwise fun a b => before (key a) (key b)) (same : ∀ a, a ∈ l ↔ a ∈ m) : l = m := by
  have perm : l.Perm m :=
    (List.perm_ext_iff_of_nodup (nodup_of_pairwise hl) (nodup_of_pairwise hm)).mpr same
  exact perm.eq_of_pairwise (fun a b _ _ hab hba => absurd hba (asymm hab)) hl hm

theorem past_last {init rest : List α} {last : α} (distinct : (rows.map key).Nodup)
    (split : past before key cursor rows = init ++ last :: rest) :
    past before key (some (key last)) rows = rest := by
  have strict := pairwise_past before cursor distinct
  rw [split, List.pairwise_append] at strict
  obtain ⟨_, tail, cross⟩ := strict
  obtain ⟨above, tail⟩ := List.pairwise_cons.mp tail
  refine eq_of_mem_iff (pairwise_past before _ distinct) tail fun row => ?_
  have found : last ∈ past before key cursor rows :=
    split ▸ List.mem_append_right _ List.mem_cons_self
  rw [mem_past]
  constructor
  · rintro ⟨member, later⟩
    have later := later _ rfl
    have listed : row ∈ past before key cursor rows :=
      mem_past.mpr ⟨member, fun c hc => before_trans ((mem_past.mp found).2 c hc) later⟩
    rw [split] at listed
    rcases List.mem_append.mp listed with early | listed
    · exact absurd later (asymm (cross row early last List.mem_cons_self))
    · rcases List.mem_cons.mp listed with rfl | listed
      · exact absurd later (irrefl _)
      · exact listed
  · intro listed
    have member : row ∈ past before key cursor rows :=
      split ▸ List.mem_append_right _ (List.mem_cons_of_mem _ listed)
    refine ⟨(mem_past.mp member).1, fun c hc => ?_⟩
    cases hc
    exact above row listed

namespace Walk
variable {walk : Walk α κ} {limit : Nat}

theorem turn_returned_rest (before : κ → κ → Prop) [DecidableRel before]
    [IsStrictTotalOrder κ before] (walk : Walk α κ) (distinct : (rows.map key).Nodup) (room : 0 < limit)
    (going : walk.finished = false) :
    (walk.turn before key rows limit).returned ++
        (walk.turn before key rows limit).rest before key rows =
      walk.returned ++ walk.rest before key rows := by
  rcases page_cases before key walk.cursor rows room with all | ⟨init, last, rest, split, found⟩
  · simp [turn, Walk.rest, all, going]
  · simp [turn, Walk.rest, found, past_last distinct split, split, going]

theorem turn_rest_length (before : κ → κ → Prop) [DecidableRel before]
    [IsStrictTotalOrder κ before] (walk : Walk α κ) (distinct : (rows.map key).Nodup) (room : 0 < limit)
    (going : walk.finished = false) :
    (walk.turn before key rows limit).finished = true ∨
      ((walk.turn before key rows limit).rest before key rows).length <
        (walk.rest before key rows).length := by
  rcases page_cases before key walk.cursor rows room with all | ⟨init, last, rest, split, found⟩
  · simp [turn, all]
  · right
    simp [turn, Walk.rest, found, past_last distinct split, split, going]
    omega

theorem turn_sorted (sorted : walk.Sorted before key) (distinct : (rows.map key).Nodup)
    (room : 0 < limit) (going : walk.finished = false) :
    (walk.turn before key rows limit).Sorted before key := by
  have strict := pairwise_past before walk.cursor distinct
  have whole : (walk.returned ++ past before key walk.cursor rows).Pairwise
      fun a b => before (key a) (key b) := by
    refine List.pairwise_append.mpr ⟨sorted.pairwise, strict, fun row returned next member => ?_⟩
    obtain ⟨last, cursor, behind⟩ := sorted.behind going row returned
    exact before_of_not_before behind ((mem_past.mp member).2 last cursor)
  rcases page_cases before key walk.cursor rows room with all | ⟨init, last, rest, split, found⟩
  · simp only [turn, all]
    exact ⟨whole, nofun⟩
  · rw [split, ← List.singleton_append, ← List.append_assoc, ← List.append_assoc,
      List.append_assoc walk.returned] at whole
    have upTo := (List.pairwise_append.mp whole).1
    simp only [turn, found]
    refine ⟨upTo, fun _ row returned => ⟨_, rfl, ?_⟩⟩
    rw [← List.append_assoc] at upTo returned
    rcases List.mem_append.mp returned with returned | returned
    · exact asymm ((List.pairwise_append.mp upTo).2.2 row returned last List.mem_cons_self)
    · rw [List.mem_singleton.mp returned]
      exact irrefl _

theorem turn_countP (before : κ → κ → Prop) [DecidableRel before] [IsStrictTotalOrder κ before]
    (walk : Walk α κ) {p : α → Bool} {k : κ} (distinct : (rows.map key).Nodup)
    (keeps : Keeps key p k rows) (room : 0 < limit) (going : walk.finished = false) :
    (walk.turn before key rows limit).returned.countP p +
        ((walk.turn before key rows limit).owes before k).toNat =
      walk.returned.countP p + (walk.owes before k).toNat := by
  rw [← countP_rest before _ distinct keeps, ← countP_rest before _ distinct keeps, ← List.countP_append,
    ← List.countP_append, turn_returned_rest before walk distinct room going]

end Walk
end Strict
end CrashCatcher.Lib.Keyset
