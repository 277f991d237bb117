import Mathlib.Data.List.Nodup

namespace CrashCatcher.Lib

structure Table {α κ : Type*} (key : α → κ) where
  rows : List α
  distinct : (rows.map key).Nodup

namespace Table
variable {α κ : Type*} {key : α → κ}

def empty : Table key := ⟨[], List.nodup_nil⟩

@[ext] theorem ext {t u : Table key} (h : t.rows = u.rows) : t = u := by
  cases t
  cases u
  cases h
  rfl

instance [DecidableEq α] : DecidableEq (Table key) := fun t u =>
  decidable_of_iff (t.rows = u.rows) ⟨ext, congrArg _⟩

theorem eq_of_key_eq (t : Table key) {r r' : α} (hr : r ∈ t.rows) (hr' : r' ∈ t.rows)
    (h : key r = key r') : r = r' :=
  List.inj_on_of_nodup_map t.distinct hr hr' h

def find? [DecidableEq κ] (t : Table key) (k : κ) : Option α := t.rows.find? fun row => key row = k

theorem find?_eq_some_iff [DecidableEq κ] (t : Table key) {k : κ} {row : α} :
    t.find? k = some row ↔ row ∈ t.rows ∧ key row = k := by
  constructor
  · intro found
    exact ⟨List.mem_of_find?_eq_some found, by simpa using List.find?_some found⟩
  · rintro ⟨member, rfl⟩
    cases found : t.find? (key row) with
    | none => simpa using List.find?_eq_none.mp found row member
    | some other =>
        have same : key other = key row := by simpa using List.find?_some found
        rw [t.eq_of_key_eq (List.mem_of_find?_eq_some found) member same]

def insert? [DecidableEq κ] (t : Table key) (row : α) : Option (Table key) :=
  if fresh : key row ∈ t.rows.map key then none
  else some ⟨t.rows ++ [row], by
    rw [List.map_append]
    exact t.distinct.append (List.nodup_singleton _) (by simpa using fresh)⟩

theorem insert?_eq_some [DecidableEq κ] {t u : Table key} {row : α} (h : t.insert? row = some u) :
    (∀ r ∈ t.rows, key r ≠ key row) ∧ u.rows = t.rows ++ [row] := by
  unfold insert? at h
  split at h
  · cases h
  next fresh =>
    cases h
    exact ⟨fun r hr same => fresh (List.mem_map.mpr ⟨r, hr, same⟩), rfl⟩

theorem insert?_eq_none_iff [DecidableEq κ] {t : Table key} {row : α} :
    t.insert? row = none ↔ ∃ r ∈ t.rows, key r = key row := by
  unfold insert?
  split
  next stored => simpa using stored
  next fresh => simpa using fresh

def delete (t : Table key) (gone : α → Bool) : Table key where
  rows := t.rows.filter fun row => !gone row
  distinct := t.distinct.sublist (List.filter_sublist.map key)

@[simp] theorem mem_delete {t : Table key} {gone : α → Bool} {row : α} :
    row ∈ (t.delete gone).rows ↔ row ∈ t.rows ∧ gone row = false := by
  simp [delete]

theorem delete_eq_self {t : Table key} {gone : α → Bool} (h : ∀ row ∈ t.rows, gone row = false) :
    t.delete gone = t := by
  apply ext
  exact List.filter_eq_self.mpr fun row hrow => by rw [h row hrow]; rfl

def modify (t : Table key) (hit : α → Bool) (f : α → α) (keeps : ∀ row, key (f row) = key row) :
    Table key where
  rows := t.rows.map fun row => if hit row then f row else row
  distinct := by
    have same : (key ∘ fun row => if hit row then f row else row) = key := by
      funext row
      by_cases h : hit row <;> simp [h, keeps]
    rw [List.map_map, same]
    exact t.distinct

theorem rows_modify (t : Table key) (hit : α → Bool) (f : α → α)
    (keeps : ∀ row, key (f row) = key row) :
    (t.modify hit f keeps).rows = t.rows.map fun row => if hit row then f row else row := rfl

theorem mem_modify {t : Table key} {hit : α → Bool} {f : α → α}
    {keeps : ∀ row, key (f row) = key row} {row : α} :
    row ∈ (t.modify hit f keeps).rows ↔ ∃ old ∈ t.rows, (if hit old then f old else old) = row := by
  simp [modify]

@[simp] theorem map_key_modify (t : Table key) (hit : α → Bool) (f : α → α)
    (keeps : ∀ row, key (f row) = key row) :
    (t.modify hit f keeps).rows.map key = t.rows.map key := by
  rw [modify, List.map_map]
  apply List.map_congr_left
  intro row _
  by_cases h : hit row <;> simp [h, keeps]

section Total
variable (of : α → Bool) (weight : α → Nat)

def total : List α → Nat
  | [] => 0
  | row :: rows => (if of row then weight row else 0) + total rows

theorem total_cons (row : α) (rows : List α) :
    total of weight (row :: rows) = (if of row then weight row else 0) + total of weight rows := rfl

theorem total_append (rows rows' : List α) :
    total of weight (rows ++ rows') = total of weight rows + total of weight rows' := by
  induction rows with
  | nil => exact (Nat.zero_add _).symm
  | cons row rows ih => rw [List.cons_append, total_cons, total_cons, ih, Nat.add_assoc]

theorem total_map (f : α → α) (rows : List α) (same : ∀ row ∈ rows, of (f row) = of row)
    (weighs : ∀ row ∈ rows, weight (f row) = weight row) :
    total of weight (rows.map f) = total of weight rows := by
  induction rows with
  | nil => rfl
  | cons row rows ih =>
      rw [List.map_cons, total_cons, total_cons, same row List.mem_cons_self,
        weighs row List.mem_cons_self]
      rw [ih (fun r hr => same r (List.mem_cons_of_mem _ hr))
        (fun r hr => weighs r (List.mem_cons_of_mem _ hr))]

theorem total_eq_zero {rows : List α} (h : ∀ row ∈ rows, of row = false) :
    total of weight rows = 0 := by
  induction rows with
  | nil => rfl
  | cons row rows ih =>
      rw [total_cons, h row List.mem_cons_self, ih fun r hr => h r (List.mem_cons_of_mem _ hr)]
      rfl

theorem total_filter (p : α → Bool) (rows : List α) :
    total of weight (rows.filter p) = total (fun row => of row && p row) weight rows := by
  induction rows with
  | nil => rfl
  | cons row rows ih => cases h : p row <;> simp [total_cons, h, ih]

theorem total_partition (gone : α → Bool) (rows : List α) :
    total of weight (rows.filter fun row => !gone row) + total of weight (rows.filter gone) =
      total of weight rows := by
  induction rows with
  | nil => rfl
  | cons row rows ih =>
      cases h : gone row
      · rw [List.filter_cons_of_pos (by simp [h]), List.filter_cons_of_neg (by simp [h]), total_cons,
          total_cons]
        omega
      · rw [List.filter_cons_of_neg (by simp [h]), List.filter_cons_of_pos h, total_cons, total_cons]
        omega

theorem total_perm {rows rows' : List α} (same : rows.Perm rows') :
    total of weight rows = total of weight rows' := by
  induction same with
  | nil => rfl
  | cons row _ ih => rw [total_cons, total_cons, ih]
  | swap row row' rows =>
      simp only [total_cons]
      omega
  | trans _ _ ih ih' => exact ih.trans ih'

variable [DecidableEq κ]

theorem total_eq_add_others {rows : List α} (distinct : (rows.map key).Nodup) {row : α}
    (member : row ∈ rows) :
    total of weight rows = (if of row then weight row else 0) +
      total of weight (rows.filter fun r => !decide (key r = key row)) := by
  induction rows with
  | nil => cases member
  | cons head rows ih =>
      rw [total_cons]
      cases member with
      | head =>
          rw [List.filter_cons_of_neg (by simp), List.filter_eq_self.mpr]
          intro r hr
          have apart : key r ≠ key row := fun same =>
            (List.nodup_cons.mp distinct).1 (same ▸ List.mem_map_of_mem hr)
          simp [apart]
      | tail _ member =>
          have apart : key head ≠ key row := fun same =>
            (List.nodup_cons.mp distinct).1 (same ▸ List.mem_map_of_mem member)
          rw [List.filter_cons_of_pos (by simp [apart]), total_cons,
            ih (List.nodup_cons.mp distinct).2 member]
          omega

theorem total_delete_row {t : Table key} {row : α} (member : row ∈ t.rows) :
    (if of row then weight row else 0) + total of weight (t.delete fun r => key r = key row).rows =
      total of weight t.rows :=
  (total_eq_add_others of weight t.distinct member).symm

theorem others_modify (t : Table key) (k : κ) (f : α → α) (keeps : ∀ row, key (f row) = key row) :
    (t.modify (fun r => key r = k) f keeps).rows.filter (fun r => !decide (key r = k)) =
      t.rows.filter fun r => !decide (key r = k) := by
  rw [rows_modify]
  induction t.rows with
  | nil => rfl
  | cons head rows ih =>
      rw [List.map_cons]
      by_cases h : key head = k
      · rw [List.filter_cons_of_neg (by simp [h, keeps]), List.filter_cons_of_neg (by simp [h]), ih]
      · rw [List.filter_cons_of_pos (by simp [h]), List.filter_cons_of_pos (by simp [h]), ih]
        simp [h]

theorem total_modify_row {t : Table key} {row : α} (member : row ∈ t.rows) (f : α → α)
    (keeps : ∀ row, key (f row) = key row) :
    total of weight (t.modify (fun r => key r = key row) f keeps).rows +
        (if of row then weight row else 0) =
      total of weight t.rows + (if of (f row) then weight (f row) else 0) := by
  have rewritten : f row ∈ (t.modify (fun r => key r = key row) f keeps).rows :=
    mem_modify.mpr ⟨row, member, by simp⟩
  rw [total_eq_add_others of weight (Table.distinct _) rewritten,
    total_eq_add_others of weight t.distinct member, keeps, others_modify]
  omega

end Total
end Table
end CrashCatcher.Lib
