import CrashCatcher.Daemon.Announced
import CrashCatcher.Wire.Cursor

namespace CrashCatcher.Daemon
open Lib Model Store Wire

def RoundTrips (sort : SortKey) (group : GroupSummary) : Prop :=
  Cursor.fromStr (cursorAfter sort group).display = .ok (cursorAfter sort group)

theorem roundTrips_int {sort : SortKey} {group : GroupSummary} (value : I64)
    (anchor : (cursorAfter sort group).anchor = .int value.val) : RoundTrips sort group := by
  unfold RoundTrips
  rcases named : cursorAfter sort group with ⟨sort', anchor', tiebreak⟩
  rw [named] at anchor
  obtain rfl : anchor' = .int value.val := anchor
  exact Cursor.fromStr_display_int sort' value tiebreak

theorem fromStr_cursorAfter_split {group : GroupSummary} {front back : Str} (apart : '|' ∉ front)
    (named : group.packageName = front ++ '|' :: back) :
    Cursor.fromStr (cursorAfter .packageAsc group).display =
      .ok { sort := .packageAsc, anchor := .text front, tiebreak := back ++ '|' :: group.groupId } := by
  rw [cursorAfter, named]
  exact Cursor.fromStr_display_split apart

theorem split_of_mem {text : Str} (member : '|' ∈ text) :
    ∃ front back, '|' ∉ front ∧ text = front ++ '|' :: back := by
  obtain ⟨front, back, same, apart⟩ := List.eq_append_cons_of_mem member
  exact ⟨front, back, apart, same⟩

theorem not_roundTrips_of_mem {group : GroupSummary} (member : '|' ∈ group.packageName) :
    ¬ RoundTrips .packageAsc group := by
  obtain ⟨front, back, apart, named⟩ := split_of_mem member
  intro same
  unfold RoundTrips at same
  rw [fromStr_cursorAfter_split apart named] at same
  have anchors : front = group.packageName :=
    CursorAnchor.text.inj (congrArg Cursor.anchor (Except.ok.inj same))
  exact apart (anchors ▸ member)

/-- A count is one that an SQL integer can hold. -/
theorem roundTrips_iff (sort : SortKey) (group : GroupSummary) (stored : group.occurrence ≤ I64.maxValue.val) :
    RoundTrips sort group ↔ sort ≠ .packageAsc ∨ '|' ∉ group.packageName := by
  cases sort with
  | lastSeenDesc => exact ⟨fun _ => .inl nofun, fun _ => roundTrips_int group.lastSeenMs rfl⟩
  | firstSeenDesc => exact ⟨fun _ => .inl nofun, fun _ => roundTrips_int group.firstSeenMs rfl⟩
  | occurrenceDesc =>
      refine ⟨fun _ => .inl nofun, fun _ => roundTrips_int ⟨group.occurrence, ?_, stored⟩ rfl⟩
      exact le_trans (by decide) (Int.natCast_nonneg _)
  | packageAsc =>
      refine ⟨fun same => .inr fun member => not_roundTrips_of_mem member same, fun apart => ?_⟩
      exact Cursor.fromStr_display_text (apart.resolve_left fun other => other rfl)

def databaseAfter (record : CrashRecord) : Database :=
  (unconfiguredCore.ingestWithSources record [] (fun _ => 0)
    (.facing .fresh noFaults noFaults)).2.world.store.db

def pipedCrash : CrashRecord := { oneByteCrash with packageName := "a|b".toList, processName := "a|b".toList }

theorem piped_group_lost : ∃ group ∈ (databaseAfter pipedCrash).groups.rows,
    ¬ RoundTrips .packageAsc group := by
  have stored : ∃ group ∈ (databaseAfter pipedCrash).groups.rows, '|' ∈ group.packageName := by decide +kernel
  obtain ⟨group, listed, member⟩ := stored
  exact ⟨group, listed, not_roundTrips_of_mem member⟩

theorem plain_group_kept :
    ∃ group ∈ (databaseAfter oneByteCrash).groups.rows, RoundTrips .packageAsc group := by
  have stored : ∃ group ∈ (databaseAfter oneByteCrash).groups.rows,
      group.occurrence ≤ I64.maxValue.val ∧ '|' ∉ group.packageName := by decide +kernel
  obtain ⟨group, listed, counted, apart⟩ := stored
  exact ⟨group, listed, (roundTrips_iff .packageAsc group counted).mpr (.inr apart)⟩

end CrashCatcher.Daemon
