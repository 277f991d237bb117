import CrashCatcher.Lib.Sql
import CrashCatcher.Store.Effects
import Mathlib.Data.Sum.Order
import Mathlib.Data.Prod.Lex

namespace CrashCatcher.Store
open Lib Model Wire Fallible
open Lib.Sql (like)

def likePattern (query : Str) : Str :=
  '%' :: query.flatMap (fun c => if c = '\\' ∨ c = '%' ∨ c = '_' then ['\\', c] else [c]) ++ ['%']

/-- A search text without anything but whitespace is not a filter. -/
def searchText (query : Option Str) : Option Str :=
  (query.map Text.trim).filter (!·.isEmpty)

/-- The `WHERE` clause of a filter; a time range selects the groups it overlaps. -/
def groupFilter (filter : CrashFilter) (group : GroupSummary) : Bool :=
  (filter.packages.isEmpty || filter.packages.contains group.packageName) &&
  (filter.kinds.isEmpty || (filter.kinds.map CrashKind.asI64).contains group.kind.asI64) &&
  (filter.userIds.isEmpty || filter.userIds.contains group.userId) &&
  filter.timeFromMs.all (fun lower => decide (group.lastSeenMs ≥ lower)) &&
  filter.timeToMs.all (fun upper => decide (group.firstSeenMs < upper)) &&
  (filter.includeSystemApps || !(group.isSystemApp && group.packageInstalled)) &&
  (filter.includeSystemProcesses || group.packageInstalled) &&
  (!filter.onlyMainProcess || group.isMainProcess) &&
  (!filter.onlySelfHandled || group.selfHandled) &&
  (searchText filter.query).all fun query =>
    let pattern := likePattern query
    like pattern group.packageName || like pattern (group.summaryClass.getD []) ||
      like pattern (group.summaryText.getD [])

/-- SQLite's order of values: integers, then texts by their code points. -/
def sqlOrder : CursorAnchor → Lex (Int ⊕ Str)
  | .int value => Sum.inlₗ value
  | .text value => Sum.inrₗ value

theorem sqlOrder_injective : Function.Injective sqlOrder := by
  intro a b same
  cases a <;> cases b <;> simp_all [sqlOrder]

instance : LinearOrder CursorAnchor := LinearOrder.lift' sqlOrder sqlOrder_injective

def groupSortColumn (sort : SortKey) (group : GroupSummary) : CursorAnchor :=
  match sort with
  | .lastSeenDesc => .int group.lastSeenMs.val
  | .firstSeenDesc => .int group.firstSeenMs.val
  | .occurrenceDesc => .int group.occurrence
  | .packageAsc => .text group.packageName

def cursorPredicate (cursor : Cursor) (sort : SortKey) : Except WireError (GroupSummary → Bool) := do
  cursor.validateFor sort
  let column := groupSortColumn sort
  if sort.isDescending then
    pure fun group => decide (column group < cursor.anchor) ||
      column group == cursor.anchor && decide (group.groupId < cursor.tiebreak)
  else
    pure fun group => decide (column group > cursor.anchor) ||
      column group == cursor.anchor && decide (group.groupId > cursor.tiebreak)

/-- `ORDER BY column, group_id`, both in the direction of the sort key. -/
def groupOrderBy (sort : SortKey) (a b : GroupSummary) : Bool :=
  let column := groupSortColumn sort
  if sort.isDescending then
    decide (column a > column b) || column a == column b && decide (a.groupId ≥ b.groupId)
  else
    decide (column a < column b) || column a == column b && decide (a.groupId ≤ b.groupId)

def cursorAfter (sort : SortKey) (group : GroupSummary) : Cursor :=
  let anchor := match sort with
    | .lastSeenDesc => .int group.lastSeenMs.val
    | .firstSeenDesc => .int group.firstSeenMs.val
    | .occurrenceDesc => .int group.occurrence
    | .packageAsc => .text group.packageName
  { sort, anchor, tiebreak := group.groupId }

def pageOf {α : Type} (limit : Nat) (after : α → Cursor) (items : List α) : Page α :=
  if items.length > limit then
    let items := items.take limit
    { items, nextCursor := items.getLast?.map after }
  else { items, nextCursor := none }

def request {α : Type} : Except WireError α → StoreM α
  | .ok a => pure a
  | .error error => Fallible.fail (.request error)

def listGroups (page : PageRequest) : StoreM (Page GroupSummary) := do
  request page.validate
  let limit := page.effectiveLimit
  let resumes ← request (match page.cursor with
    | some cursor => cursorPredicate cursor page.sort
    | none => pure fun _ => true)
  let items ← query fun db =>
    ((db.groups.rows.filter fun group => groupFilter page.filter group && resumes group).mergeSort
      (groupOrderBy page.sort)).take (limit + 1)
  pure (pageOf limit (cursorAfter page.sort) items)

/-- A row as it is read back; an id that does not parse does not fail the page. -/
def mapRecord (row : RecordRow) : RecordSummary :=
  { row.toRecordSummary with
    id := (RecordId.parse row.id.text).getD (RecordIdGenerator.new.next 0).1
    sources := .fromBitsTruncate row.sources.bits }

def recordPredicate (cursor : Cursor) : Except WireError (RecordRow → Bool) := do
  cursor.validateFor .lastSeenDesc
  match cursor.anchor with
  | .int anchor =>
      pure fun row => decide (row.happenedAtMs.val < anchor) ||
        row.happenedAtMs.val == anchor && decide (row.id.text < cursor.tiebreak)
  | .text _ => .error (.cursorInvalidated "record pages anchor on a timestamp".toList)

/-- `ORDER BY happened_at_ms DESC, id DESC`. -/
def recordOrderBy (a b : RecordRow) : Bool :=
  decide (a.happenedAtMs > b.happenedAtMs) ||
    a.happenedAtMs == b.happenedAtMs && decide (a.id.text ≥ b.id.text)

def cursorAfterRecord (record : RecordSummary) : Cursor :=
  { sort := .lastSeenDesc, anchor := .int record.happenedAtMs.val, tiebreak := record.id.text }

def listRecords (groupId : Str) (page : PageRequest) : StoreM (Page RecordSummary) := do
  let limit := page.effectiveLimit
  let resumes ← request (match page.cursor with
    | some cursor => recordPredicate cursor
    | none => pure fun _ => true)
  let items ← query fun db =>
    (((db.records.rows.filter fun row => row.groupId == groupId && resumes row).mergeSort
      recordOrderBy).take (limit + 1)).map mapRecord
  pure (pageOf limit cursorAfterRecord items)

end CrashCatcher.Store
