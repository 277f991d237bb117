import Mathlib.Data.List.Nodup
import Mathlib.Data.List.Pairwise
import Mathlib.Data.List.Perm.Basic

namespace CrashCatcher.Lib.Ranking
variable {α κ : Type*} {le : α → α → Bool}

/-! Keeping the last rows of an order. -/

structure TotalOrder (le : α → α → Bool) : Prop where
  trans : ∀ a b c, le a b = true → le b c = true → le a c = true
  total : ∀ a b, (le a b || le b a) = true

namespace TotalOrder
variable (order : TotalOrder le)
include order

theorem of_not {a b : α} (not : ¬ le a b = true) : le b a = true := by
  have either := order.total a b
  rw [Bool.or_eq_true] at either
  exact either.resolve_left not

theorem refl (a : α) : le a a = true := by
  have either := order.total a a
  rwa [Bool.or_self] at either

theorem exists_first (a : α) (rows : List α) : ∃ first ∈ a :: rows, ∀ row ∈ a :: rows, le first row = true := by
  induction rows generalizing a with
  | nil =>
      refine ⟨a, List.mem_singleton_self a, fun row member => ?_⟩
      rw [List.mem_singleton.mp member]
      exact order.refl a
  | cons b rest ih =>
      obtain ⟨first, member, before⟩ := ih b
      by_cases earlier : le a first = true
      · refine ⟨a, List.mem_cons_self, fun row member => ?_⟩
        rcases List.mem_cons.mp member with rfl | later
        · exact order.refl row
        · exact order.trans _ _ _ earlier (before row later)
      · refine ⟨first, List.mem_cons_of_mem _ member, fun row member => ?_⟩
        rcases List.mem_cons.mp member with rfl | later
        · exact order.of_not earlier
        · exact before row later

end TotalOrder

def rank (le : α → α → Bool) (rows : List α) (row : α) : Nat := rows.countP (le row)

theorem rank_le_of_sublist {rows rows' : List α} (within : rows'.Sublist rows) (row : α) :
    rank le rows' row ≤ rank le rows row := within.countP_le

theorem rank_le_of_le (order : TotalOrder le) (rows : List α) {row later : α} (before : le row later = true) :
    rank le rows later ≤ rank le rows row :=
  List.countP_mono_left fun _ _ after => order.trans _ _ _ before after

theorem length_filter_rank_le (order : TotalOrder le) (rows : List α) (n : Nat) :
    (rows.filter fun row => decide (rank le rows row ≤ n)).length ≤ n := by
  cases kept : rows.filter fun row => decide (rank le rows row ≤ n) with
  | nil => exact Nat.zero_le n
  | cons head rest =>
      obtain ⟨first, member, before⟩ := order.exists_first head rest
      rw [← kept] at member before ⊢
      have ranked : rank le rows first ≤ n := of_decide_eq_true (List.mem_filter.mp member).2
      have counted : rank le (rows.filter fun row => decide (rank le rows row ≤ n)) first =
          (rows.filter fun row => decide (rank le rows row ≤ n)).length := List.countP_eq_length.mpr before
      calc (rows.filter fun row => decide (rank le rows row ≤ n)).length
          = rank le (rows.filter fun row => decide (rank le rows row ≤ n)) first := counted.symm
        _ ≤ rank le rows first := rank_le_of_sublist List.filter_sublist first
        _ ≤ n := ranked

theorem le_of_rank (order : TotalOrder le) (rows : List α) {n : Nat} {gone kept : α}
    (back : n < rank le rows gone) (front : rank le rows kept ≤ n) : le gone kept = true := by
  by_contra later
  have ranked := rank_le_of_le order rows (order.of_not later)
  omega

section Sorted
variable {key : α → κ} {rows : List α}

theorem disjoint_keys {front back : List α} (split : rows.Perm (front ++ back))
    (distinct : (rows.map key).Nodup) : (front.map key).Disjoint (back.map key) := by
  have nodup := (split.map key).nodup_iff.mp distinct
  rw [List.map_append] at nodup
  exact List.disjoint_of_nodup_append nodup

variable [BEq κ] [LawfulBEq κ]

theorem perm_filter_of_mem {front back : List α} (split : rows.Perm (front ++ back))
    (distinct : (rows.map key).Nodup) :
    (rows.filter fun row => (front.map key).contains (key row)).Perm front := by
  have apart := disjoint_keys split distinct
  have first : front.filter (fun row => (front.map key).contains (key row)) = front := by
    refine List.filter_eq_self.mpr fun row member => ?_
    rw [List.contains_iff_mem]
    exact List.mem_map_of_mem member
  have later : back.filter (fun row => (front.map key).contains (key row)) = [] := by
    refine List.filter_eq_nil_iff.mpr fun row member => ?_
    rw [List.contains_iff_mem]
    exact fun taken => apart taken (List.mem_map_of_mem member)
  have filtered := split.filter fun row => (front.map key).contains (key row)
  rwa [List.filter_append, first, later, List.append_nil] at filtered

theorem perm_filter_of_split {front back : List α} (split : rows.Perm (front ++ back))
    (distinct : (rows.map key).Nodup) :
    (rows.filter fun row => !(front.map key).contains (key row)).Perm back := by
  have apart := disjoint_keys split distinct
  have first : front.filter (fun row => !(front.map key).contains (key row)) = [] := by
    refine List.filter_eq_nil_iff.mpr fun row member => ?_
    simp only [Bool.not_eq_true', Bool.not_eq_false, List.contains_iff_mem]
    exact List.mem_map_of_mem member
  have later : back.filter (fun row => !(front.map key).contains (key row)) = back := by
    refine List.filter_eq_self.mpr fun row member => ?_
    rw [Bool.not_eq_true', Bool.eq_false_iff, Ne, List.contains_iff_mem]
    exact fun taken => apart taken (List.mem_map_of_mem member)
  have filtered := split.filter fun row => !(front.map key).contains (key row)
  rwa [List.filter_append, first, later] at filtered

theorem perm_drop_mergeSort (le : α → α → Bool) (distinct : (rows.map key).Nodup) (n : Nat) :
    (rows.filter fun row => !(((rows.mergeSort le).take n).map key).contains (key row)).Perm
      ((rows.mergeSort le).drop n) := by
  refine perm_filter_of_split ?_ distinct
  rw [List.take_append_drop]
  exact (List.mergeSort_perm rows le).symm

theorem le_of_mem_take_drop (order : TotalOrder le) {n : Nat} {gone kept : α}
    (taken : gone ∈ (rows.mergeSort le).take n) (left : kept ∈ (rows.mergeSort le).drop n) :
    le gone kept = true := by
  have sorted := List.pairwise_mergeSort order.trans order.total rows
  rw [← List.take_append_drop n (rows.mergeSort le), List.pairwise_append] at sorted
  exact sorted.2.2 gone taken kept left

end Sorted

section Quota
variable (weight : α → Nat)

def load : List α → Nat
  | [] => 0
  | row :: rest => weight row + load rest

theorem load_map {β : Type*} (f : β → α) (rows : List β) :
    load weight (rows.map f) = load (fun row => weight (f row)) rows := by
  induction rows with
  | nil => rfl
  | cons row rest ih => rw [List.map_cons, load, load, ih]

def enough : List α → Nat → List α
  | [], _ => []
  | row :: rest, need => if need = 0 then [] else row :: enough rest (need - weight row)

theorem enough_zero (rows : List α) : enough weight rows 0 = [] := by
  cases rows with
  | nil => rfl
  | cons row rest => exact if_pos rfl

theorem enough_eq_take (rows : List α) (need : Nat) :
    ∃ n, enough weight rows need = rows.take n ∧ (∀ m < n, load weight (rows.take m) < need) ∧
      (need ≤ load weight (rows.take n) ∨ rows.take n = rows) := by
  induction rows generalizing need with
  | nil => exact ⟨0, rfl, fun m below => absurd below (Nat.not_lt_zero m), .inr rfl⟩
  | cons row rest ih =>
      by_cases done : need = 0
      · subst done
        exact ⟨0, enough_zero weight _, fun m below => absurd below (Nat.not_lt_zero m), .inl (Nat.zero_le _)⟩
      · obtain ⟨n, same, shorter, heavy⟩ := ih (need - weight row)
        refine ⟨n + 1, ?_, fun m below => ?_, ?_⟩
        · rw [enough, if_neg done, same, List.take_succ_cons]
        · cases m with
          | zero => exact Nat.pos_of_ne_zero done
          | succ m =>
              have short := shorter m (Nat.lt_of_succ_lt_succ below)
              rw [List.take_succ_cons, load]
              omega
        · rw [List.take_succ_cons, load]
          rcases heavy with sufficient | all
          · exact .inl (by omega)
          · exact .inr (congrArg (row :: ·) all)

end Quota
end CrashCatcher.Lib.Ranking
