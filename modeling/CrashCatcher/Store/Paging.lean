import CrashCatcher.Lib.Keyset
import CrashCatcher.Lib.Run
import CrashCatcher.Store.Invariant
import CrashCatcher.Store.Read

namespace CrashCatcher.Wire
open Lib

abbrev PageKey := CursorAnchor × Str

def Cursor.key (cursor : Cursor) : PageKey := (cursor.anchor, cursor.tiebreak)

end CrashCatcher.Wire

namespace CrashCatcher.Store
open Lib Lib.Run Model Wire Fallible

def Before (sort : SortKey) (a b : PageKey) : Prop :=
  if sort.isDescending then toLex b < toLex a else toLex a < toLex b

instance (sort : SortKey) : DecidableRel (Before sort) := fun a b => by
  unfold Before
  infer_instance

instance (sort : SortKey) : IsStrictTotalOrder PageKey (Before sort) := by
  cases sort with
  | packageAsc => exact inferInstanceAs (IsStrictTotalOrder (Lex PageKey) (· < ·))
  | _ => exact inferInstanceAs (IsStrictTotalOrder (Lex PageKey) (· > ·))

def groupKey (sort : SortKey) (group : GroupSummary) : PageKey :=
  (groupSortColumn sort group, group.groupId)

def recordKey (record : RecordSummary) : PageKey :=
  (.int record.happenedAtMs.val, record.id.text)

theorem key_cursorAfter (sort : SortKey) (group : GroupSummary) :
    (cursorAfter sort group).key = groupKey sort group := by
  cases sort <;> rfl

theorem validateFor_cursorAfter (sort : SortKey) (group : GroupSummary) :
    (cursorAfter sort group).validateFor sort = .ok () := by
  cases sort <;> rfl

theorem before_of_descending {sort : SortKey} (h : sort.isDescending) {a b : PageKey} :
    Before sort a b ↔ b.1 < a.1 ∨ b.1 = a.1 ∧ b.2 < a.2 := by
  rw [Before, if_pos h, Prod.Lex.toLex_lt_toLex]

theorem before_of_ascending {sort : SortKey} (h : ¬ sort.isDescending) {a b : PageKey} :
    Before sort a b ↔ a.1 < b.1 ∨ b.1 = a.1 ∧ a.2 < b.2 := by
  rw [Before, if_neg h, Prod.Lex.toLex_lt_toLex, eq_comm]

theorem not_before_of_descending {sort : SortKey} (h : sort.isDescending) {a b : PageKey} :
    ¬ Before sort b a ↔ b.1 < a.1 ∨ a.1 = b.1 ∧ b.2 ≤ a.2 := by
  rw [Before, if_pos h, not_lt, Prod.Lex.toLex_le_toLex, eq_comm]

theorem not_before_of_ascending {sort : SortKey} (h : ¬ sort.isDescending) {a b : PageKey} :
    ¬ Before sort b a ↔ a.1 < b.1 ∨ a.1 = b.1 ∧ a.2 ≤ b.2 := by
  rw [Before, if_neg h, not_lt, Prod.Lex.toLex_le_toLex]

theorem cursorPredicate_eq {cursor : Cursor} {sort : SortKey}
    (valid : cursor.validateFor sort = .ok ()) :
    cursorPredicate cursor sort =
      .ok fun group => decide (Before sort cursor.key (groupKey sort group)) := by
  unfold cursorPredicate
  rw [valid]
  by_cases h : sort.isDescending
  · refine (if_pos h).trans (congrArg Except.ok (funext fun group => ?_))
    rw [Bool.eq_iff_iff, decide_eq_true_iff, before_of_descending h]
    simp [groupKey, Cursor.key]
  · refine (if_neg h).trans (congrArg Except.ok (funext fun group => ?_))
    rw [Bool.eq_iff_iff, decide_eq_true_iff, before_of_ascending h]
    simp [groupKey, Cursor.key]

theorem groupOrderBy_eq (sort : SortKey) (a b : GroupSummary) :
    groupOrderBy sort a b = !decide (Before sort (groupKey sort b) (groupKey sort a)) := by
  rw [← decide_not, Bool.eq_iff_iff, decide_eq_true_iff]
  by_cases h : sort.isDescending
  · rw [not_before_of_descending h]
    simp [groupOrderBy, h, groupKey]
  · rw [not_before_of_ascending h]
    simp [groupOrderBy, h, groupKey]

theorem int_lt_int {a b : Int} : CursorAnchor.int a < .int b ↔ a < b := Sum.Lex.inl_lt_inl_iff

def rowKey (row : RecordRow) : PageKey := (.int row.happenedAtMs.val, row.id.text)

theorem recordPredicate_eq {cursor : Cursor} (valid : cursor.validateFor .lastSeenDesc = .ok ()) :
    recordPredicate cursor =
      .ok fun row => decide (Before .lastSeenDesc cursor.key (rowKey row)) := by
  unfold recordPredicate
  rw [valid]
  obtain ⟨sort, anchor, tiebreak⟩ := cursor
  cases anchor with
  | int anchor =>
      refine congrArg Except.ok (funext fun row => ?_)
      rw [Bool.eq_iff_iff, decide_eq_true_iff, before_of_descending rfl]
      simp [rowKey, Cursor.key, int_lt_int]
  | text anchor =>
      unfold Cursor.validateFor at valid
      split at valid
      · cases valid
      · cases valid

theorem recordOrderBy_eq (a b : RecordRow) :
    recordOrderBy a b = !decide (Before .lastSeenDesc (rowKey b) (rowKey a)) := by
  rw [← decide_not, Bool.eq_iff_iff, decide_eq_true_iff, not_before_of_descending rfl]
  simp [recordOrderBy, rowKey, int_lt_int, I64.lt_def, I64.ext_iff]

theorem recordKey_mapRecord {row : RecordRow} (wellFormed : row.id.WellFormed) :
    recordKey (mapRecord row) = rowKey row := by
  simp [recordKey, mapRecord, rowKey, wellFormed.parse_text]

section
variable {α : Type} {s : StoreState}

theorem request_bind {β : Type} {checked : Except WireError β} {b : β} (ok : checked = .ok b)
    (f : β → StoreM α) : request checked >>= f = f b := by
  rw [ok]
  rfl

theorem Ends.request_bind {β : Type} {checked : Except WireError β} {f : β → StoreM α}
    {post : α → StoreState → Prop} {failed : StoreState → Prop} (lost : failed s)
    (next : ∀ b, checked = .ok b → Ends s (f b) post failed) :
    Ends s (request checked >>= f) post failed := by
  cases checked with
  | ok b => exact next b rfl
  | error error => exact Ends.fail lost

theorem pageOf_eq {limit : Nat} {after : α → Cursor} {sort : SortKey} {key : α → PageKey}
    {cursor : Option PageKey} {rows listed : List α} (named : ∀ a, (after a).key = key a)
    (all : listed = Keyset.past (Before sort) key cursor rows) :
    ((pageOf limit after (listed.take (limit + 1))).items,
        (pageOf limit after (listed.take (limit + 1))).nextCursor.map Cursor.key) =
      Keyset.page (Before sort) key limit cursor rows := by
  have named : Cursor.key ∘ after = key := funext named
  unfold pageOf Keyset.page
  rw [← all]
  by_cases long : (listed.take (limit + 1)).length > limit
  · simp only [if_pos long, Option.map_map, named]
  · simp only [if_neg long, Option.map_none]

/-- `WHERE p AND after cursor ORDER BY key` lists what lies past the cursor among the rows of `p`. -/
theorem mergeSort_eq_past {order : α → α → Bool} {p resumes : α → Bool} {sort : SortKey}
    {key : α → PageKey} {cursor : Option PageKey} {rows : List α}
    (ordered : ∀ a b, order a b = !decide (Before sort (key b) (key a)))
    (resumed : ∀ a, resumes a = cursor.all fun last => decide (Before sort last (key a))) :
    (rows.filter fun a => p a && resumes a).mergeSort order =
      Keyset.past (Before sort) key cursor (rows.filter p) := by
  have order_eq : order = fun a b => !decide (Before sort (key b) (key a)) :=
    funext fun a => funext fun b => ordered a b
  have filtered : (rows.filter fun a => p a && resumes a) =
      (rows.filter p).filter fun a => cursor.all fun last => decide (Before sort last (key a)) := by
    rw [List.filter_filter]
    refine List.filter_congr fun a _ => ?_
    rw [resumed, Bool.and_comm]
  rw [Keyset.past, Keyset.ordered, filtered, order_eq]

theorem mem_pageOf {limit : Nat} {after : α → Cursor} {items : List α} {cursor : Cursor}
    (h : cursor ∈ (pageOf limit after items).nextCursor) : ∃ a, cursor = after a := by
  unfold pageOf at h
  split at h
  · obtain ⟨a, _, rfl⟩ := Option.mem_map.mp h
    exact ⟨a, rfl⟩
  · cases h

end

structure Listing (α : Type) where
  fetch : Option Cursor → Nat → StoreM (Page α)
  rows : Database → List α
  sort : SortKey
  key : α → PageKey
  accepted : Prop

namespace Listing
variable {α : Type} (listing : Listing α)

def groups (page : PageRequest) : Listing GroupSummary where
  fetch cursor limit := listGroups { page with cursor, limit }
  rows db := db.groups.rows.filter (groupFilter page.filter)
  sort := page.sort
  key := groupKey page.sort
  accepted := page.filter.validate = .ok ()

def records (groupId : Str) (page : PageRequest) : Listing RecordSummary where
  fetch cursor limit := listRecords groupId { page with cursor, limit }
  rows db := (db.records.rows.filter fun row => row.groupId == groupId).map mapRecord
  sort := .lastSeenDesc
  key := recordKey
  accepted := True

structure Paged : Prop where
  distinct : ∀ {db : Database}, WellKept db → ((listing.rows db).map fun a => (listing.key a).2).Nodup
  fetched : ∀ {s : StoreState} (cursor : Option Cursor) (limit : Nat), WellKept s.db →
    (∀ c ∈ cursor, c.validateFor listing.sort = .ok ()) →
    Ends s (listing.fetch cursor limit)
      (fun page t => t = s ∧ (∀ c ∈ page.nextCursor, c.validateFor listing.sort = .ok ()) ∧
        ∃ room, 0 < room ∧ (page.items, page.nextCursor.map Cursor.key) =
          Keyset.page (Before listing.sort) listing.key room (cursor.map Cursor.key)
            (listing.rows s.db))
      fun t => t = s
  answered : ∀ {s : StoreState} {cursor : Option Cursor} (limit : Nat), listing.accepted →
    (∀ c ∈ cursor, c.validateFor listing.sort = .ok ()) →
    ∃ page, listing.fetch cursor limit (quiet s) = (.ok page, quiet s)

theorem paged_groups (page : PageRequest) : (groups page).Paged where
  distinct {db} _ := db.groups.distinct.sublist (List.filter_sublist.map GroupSummary.groupId)
  fetched {s} cursor limit kept valid := by
    have room := PageRequest.effectiveLimit_pos { page with cursor, limit }
    refine Ends.request_bind rfl fun _ _ => Ends.request_bind rfl fun resumes ok => ?_
    refine Ends.query_bind rfl (Ends.pure ⟨rfl, fun c h => ?_, _, room, ?_⟩)
    · obtain ⟨group, rfl⟩ := mem_pageOf h
      exact validateFor_cursorAfter page.sort group
    · have resumed : ∀ group, resumes group =
          (cursor.map Cursor.key).all fun last =>
            decide (Before page.sort last (groupKey page.sort group)) := by
        intro group
        cases cursor with
        | none =>
            cases ok
            rfl
        | some cursor =>
            cases (cursorPredicate_eq (valid cursor rfl)).symm.trans ok
            rfl
      exact pageOf_eq (key_cursorAfter page.sort)
        (mergeSort_eq_past (groupOrderBy_eq page.sort) resumed)
  answered {s cursor} limit accepted valid := by
    have validated : PageRequest.validate { page with cursor, limit } = .ok () := by
      unfold PageRequest.validate
      rw [accepted]
      cases cursor with
      | none => rfl
      | some cursor => exact valid cursor rfl
    show ∃ items, listGroups { page with cursor, limit } (quiet s) = (.ok items, quiet s)
    unfold listGroups
    rw [request_bind validated]
    cases cursor with
    | none => exact ⟨_, rfl⟩
    | some cursor =>
        have resumes := request_bind (α := Page GroupSummary) (cursorPredicate_eq (valid cursor rfl))
        exact ⟨_, (congrFun (resumes _) _).trans rfl⟩

theorem paged_records (groupId : Str) (page : PageRequest) : (records groupId page).Paged where
  distinct {db} kept := by
    have ids : ((db.records.rows.filter fun row => row.groupId == groupId).map (·.id)).Nodup :=
      db.records.distinct.sublist (List.filter_sublist.map _)
    have texts := ids.map fun _ _ => RecordId.ext
    rw [List.map_map] at texts
    show (((db.records.rows.filter _).map mapRecord).map _).Nodup
    rw [List.map_map]
    refine (List.map_congr_left fun row member => ?_) ▸ texts
    exact congrArg Prod.snd (recordKey_mapRecord
      (kept.rows row (List.mem_of_mem_filter member)).issued.wellFormed).symm
  fetched {s} cursor limit kept valid := by
    have room := PageRequest.effectiveLimit_pos { page with cursor, limit }
    refine Ends.request_bind rfl fun resumes ok => ?_
    refine Ends.query_bind rfl (Ends.pure ⟨rfl, fun c h => ?_, _, room, ?_⟩)
    · obtain ⟨record, rfl⟩ := mem_pageOf h
      rfl
    · have resumed : ∀ row, resumes row =
          (cursor.map Cursor.key).all fun last =>
            decide (Before .lastSeenDesc last (rowKey row)) := by
        intro row
        cases cursor with
        | none =>
            cases ok
            rfl
        | some cursor =>
            cases (recordPredicate_eq (valid cursor rfl)).symm.trans ok
            rfl
      rw [List.map_take]
      refine pageOf_eq (fun _ => rfl) ?_
      rw [mergeSort_eq_past recordOrderBy_eq resumed]
      exact Keyset.map_past fun row member => recordKey_mapRecord
        (kept.rows row (List.mem_of_mem_filter member)).issued.wellFormed
  answered {s cursor} limit _ valid := by
    cases cursor with
    | none => exact ⟨_, rfl⟩
    | some cursor =>
        show ∃ items, listRecords groupId { page with cursor := some cursor, limit } (quiet s) =
          (.ok items, quiet s)
        unfold listRecords
        rw [request_bind (recordPredicate_eq (valid cursor rfl))]
        exact ⟨_, rfl⟩

end Listing
end CrashCatcher.Store
