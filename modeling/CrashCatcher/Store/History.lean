import CrashCatcher.Store.Accounting

namespace CrashCatcher.Store
open Lib Model

namespace Database

def countIn (db : Database) (groupId : Str) : Nat :=
  db.records.rows.countP fun row => row.groupId == groupId

end Database

/-- What a group's row says of the records that are still stored for it. -/
structure GroupSummary.Covers (group : GroupSummary) (db : Database) : Prop where
  counted : db.countIn group.groupId ≤ group.occurrence
  spans : ∀ row ∈ db.records.rows, row.groupId = group.groupId →
    group.firstSeenMs ≤ row.happenedAtMs ∧ row.happenedAtMs ≤ group.lastSeenMs

def Covered (db : Database) : Prop := ∀ group ∈ db.groups.rows, group.Covers db

theorem covered_empty : Covered .empty := by
  intro group member
  cases member

/-- The columns of a group that the records it still has are measured against. -/
def GroupSummary.SameCover (group other : GroupSummary) : Prop :=
  other.groupId = group.groupId ∧ other.occurrence = group.occurrence ∧
    other.firstSeenMs = group.firstSeenMs ∧ other.lastSeenMs = group.lastSeenMs

structure Shrinks (db db' : Database) : Prop where
  groups : ∀ group ∈ db'.groups.rows, ∃ old ∈ db.groups.rows, group.SameCover old
  records : ∃ f : RecordRow → RecordRow,
    (∀ row, (f row).groupId = row.groupId ∧ (f row).happenedAtMs = row.happenedAtMs) ∧
      db'.records.rows.Sublist (db.records.rows.map f)

section
variable {db db' : Database}

theorem GroupSummary.SameCover.refl (group : GroupSummary) : group.SameCover group := ⟨rfl, rfl, rfl, rfl⟩

theorem Shrinks.trans {db'' : Database} (first : Shrinks db db') (next : Shrinks db' db'') :
    Shrinks db db'' where
  groups group member := by
    obtain ⟨middle, member, id, occurrence, firstSeen, lastSeen⟩ := next.groups group member
    obtain ⟨old, member, id', occurrence', firstSeen', lastSeen'⟩ := first.groups middle member
    exact ⟨old, member, id'.trans id, occurrence'.trans occurrence, firstSeen'.trans firstSeen,
      lastSeen'.trans lastSeen⟩
  records := by
    obtain ⟨f, keeps, part⟩ := first.records
    obtain ⟨g, keeps', part'⟩ := next.records
    refine ⟨g ∘ f, fun row => ?_, ?_⟩
    · exact ⟨(keeps' (f row)).1.trans (keeps row).1, (keeps' (f row)).2.trans (keeps row).2⟩
    · rw [← List.map_map]
      exact part'.trans (part.map g)

theorem shrinks_of_records (groups : db'.groups = db.groups)
    (records : ∃ f : RecordRow → RecordRow,
      (∀ row, (f row).groupId = row.groupId ∧ (f row).happenedAtMs = row.happenedAtMs) ∧
        db'.records.rows.Sublist (db.records.rows.map f)) : Shrinks db db' where
  groups group member := ⟨group, groups ▸ member, .refl group⟩
  records := records

theorem shrinks_of_sublist (groups : ∀ group ∈ db'.groups.rows, group ∈ db.groups.rows)
    (records : db'.records.rows.Sublist db.records.rows) : Shrinks db db' where
  groups group member := ⟨group, groups group member, .refl group⟩
  records := ⟨id, fun _ => ⟨rfl, rfl⟩, by rwa [List.map_id]⟩

theorem shrinks_deleteRecords (db : Database) (gone : RecordRow → Bool) :
    Shrinks db { db with records := db.records.delete gone } :=
  shrinks_of_sublist (fun _ member => member) List.filter_sublist

theorem shrinks_deleteGroups (db : Database) (gone : GroupSummary → Bool) :
    Shrinks db (db.deleteGroups gone) :=
  shrinks_of_sublist (fun _ member => (Table.mem_delete.mp member).1) List.filter_sublist

theorem shrinks_updateRecord (db : Database) (id : RecordId) {f : RecordRow → RecordRow}
    (keeps : ∀ row, (f row).id = row.id)
    (same : ∀ row, (f row).groupId = row.groupId ∧ (f row).happenedAtMs = row.happenedAtMs) :
    Shrinks db (db.updateRecord id f keeps) := by
  refine shrinks_of_records rfl ⟨fun row => if decide (row.id = id) then f row else row, ?_, .refl _⟩
  intro row
  by_cases hit : row.id = id
  · simpa [hit] using same row
  · simp [hit]

theorem shrinks_updateGroup (db : Database) (groupId : Str) {f : GroupSummary → GroupSummary}
    (keeps : ∀ row, (f row).groupId = row.groupId) (same : ∀ group, (f group).SameCover group) :
    Shrinks db (db.updateGroup groupId f keeps) where
  groups group member := by
    have rewritten : group ∈ (db.groups.modify (fun row => row.groupId = groupId) f keeps).rows := member
    obtain ⟨old, stored, rfl⟩ := Table.mem_modify.mp rewritten
    refine ⟨old, stored, ?_⟩
    split
    · exact same old
    · exact .refl old
  records := ⟨id, fun _ => ⟨rfl, rfl⟩, by rw [List.map_id]; exact .refl _⟩

theorem Covered.shrink (covered : Covered db) (shrinks : Shrinks db db') : Covered db' := by
  intro group member
  obtain ⟨old, stored, id, occurrence, firstSeen, lastSeen⟩ := shrinks.groups group member
  obtain ⟨f, keeps, part⟩ := shrinks.records
  have covers := covered old stored
  refine ⟨?_, fun row left same => ?_⟩
  · have fewer := part.countP_le (p := fun row => row.groupId == group.groupId)
    have sameKey : (fun row : RecordRow => row.groupId == group.groupId) ∘ f =
        fun row => row.groupId == old.groupId := by
      funext row
      rw [Function.comp_apply, (keeps row).1, id]
    rw [List.countP_map, sameKey] at fewer
    calc db'.countIn group.groupId
        ≤ db.countIn old.groupId := fewer
      _ ≤ old.occurrence := covers.counted
      _ = group.occurrence := occurrence
  · obtain ⟨before, stored, rfl⟩ := List.mem_map.mp (part.subset left)
    have spans := covers.spans before stored (((keeps before).1.symm.trans same).trans id.symm)
    rwa [firstSeen, lastSeen, ← (keeps before).2] at spans

theorem countIn_append {row : RecordRow} (rows : db'.records.rows = db.records.rows ++ [row])
    (groupId : Str) :
    db'.countIn groupId = db.countIn groupId + if row.groupId = groupId then 1 else 0 := by
  rw [Database.countIn, rows, List.countP_append, List.countP_singleton]
  simp [Database.countIn]

theorem countIn_eq_zero {groupId : Str} (none : ∀ row ∈ db.records.rows, row.groupId ≠ groupId) :
    db.countIn groupId = 0 :=
  List.countP_eq_zero.mpr fun row member => by simpa using none row member

theorem Covers.other {group : GroupSummary} {row : RecordRow} (covers : group.Covers db)
    (rows : db'.records.rows = db.records.rows ++ [row]) (apart : row.groupId ≠ group.groupId) :
    group.Covers db' where
  counted := by
    rw [countIn_append rows, if_neg apart]
    exact covers.counted
  spans stored member same := by
    rw [rows] at member
    rcases List.mem_append.mp member with old | new
    · exact covers.spans stored old same
    · rw [List.mem_singleton.mp new] at same
      exact absurd same apart

theorem Covers.first {group : GroupSummary} {row : RecordRow}
    (none : ∀ stored ∈ db.records.rows, stored.groupId ≠ group.groupId)
    (rows : db'.records.rows = db.records.rows ++ [row]) (once : group.occurrence = 1)
    (since : group.firstSeenMs = row.happenedAtMs) (upTo : group.lastSeenMs = row.happenedAtMs) :
    group.Covers db' where
  counted := by
    rw [countIn_append rows, countIn_eq_zero none, once]
    split <;> omega
  spans stored member same := by
    rw [rows] at member
    rcases List.mem_append.mp member with old | new
    · exact absurd same (none stored old)
    · rw [List.mem_singleton.mp new, since, upTo]
      exact ⟨le_refl _, le_refl _⟩

theorem Covers.again {old group : GroupSummary} {row : RecordRow} (covers : old.Covers db)
    (rows : db'.records.rows = db.records.rows ++ [row])
    (since : group.firstSeenMs = row.happenedAtMs) (upTo : group.lastSeenMs = row.happenedAtMs) :
    (group.sightAgain old).Covers db' where
  counted := by
    have more := countIn_append rows old.groupId
    have counted := covers.counted
    show db'.countIn old.groupId ≤ old.occurrence + 1
    split_ifs at more <;> omega
  spans stored member same := by
    show min old.firstSeenMs group.firstSeenMs ≤ _ ∧ _ ≤ max old.lastSeenMs group.lastSeenMs
    rw [rows] at member
    rcases List.mem_append.mp member with kept | new
    · obtain ⟨after, before⟩ := covers.spans stored kept same
      exact ⟨(min_le_left _ _).trans after, before.trans (le_max_left _ _)⟩
    · rw [List.mem_singleton.mp new, since, upTo]
      exact ⟨min_le_right _ _, le_max_right _ _⟩

theorem Covered.insertCrash (covered : Covered db) (kept : WellKept db) {group : GroupSummary}
    {row : RecordRow} (same : row.groupId = group.groupId) (once : group.occurrence = 1)
    (since : group.firstSeenMs = row.happenedAtMs) (upTo : group.lastSeenMs = row.happenedAtMs)
    (inserted : db.insertCrash group row = some db') : Covered db' := by
  obtain ⟨_, rows, groups⟩ := Database.insertCrash_eq_some inserted
  intro other member
  rw [groups, Database.upsertGroup] at member
  cases upserted : db.groups.insert? group with
  | some groups' =>
      obtain ⟨fresh, groupRows⟩ := Table.insert?_eq_some upserted
      simp only [upserted, groupRows] at member
      rcases List.mem_append.mp member with old | new
      · refine Covers.other (covered other old) rows fun eq => ?_
        exact fresh other old (eq.symm.trans same)
      · rw [List.mem_singleton.mp new]
        refine Covers.first (fun stored member eq => ?_) rows once since upTo
        obtain ⟨known, member, id⟩ := List.mem_map.mp (kept.grouped stored member)
        exact fresh known member (id.trans eq)
  | none =>
      simp only [upserted] at member
      obtain ⟨old, stored, rfl⟩ := Table.mem_modify.mp member
      by_cases hit : old.groupId = group.groupId
      · rw [if_pos (by simpa using hit)]
        exact Covers.again (covered old stored) rows since upTo
      · rw [if_neg (by simpa using hit)]
        exact Covers.other (covered old stored) rows fun eq => hit (eq.symm.trans same)

theorem Move.covered (move : Move db db') (kept : WellKept db) (covered : Covered db) :
    Covered db' := by
  cases move with
  | insert issued payload inserted => exact covered.insertCrash kept rfl rfl rfl rfl inserted
  | ingestSource row =>
      obtain ⟨groups, records⟩ := insertSource_rows db row
      exact covered.shrink (shrinks_of_sublist (fun _ member => groups ▸ member) (records ▸ .refl _))
  | foldSources id sources =>
      exact covered.shrink (shrinks_updateRecord db id _ fun _ => ⟨rfl, rfl⟩)
  | @adopt row adopted stored absent payload =>
      have adopts := shrinks_updateRecord db row.id (RecordRow.id_adopt adopted) fun _ => ⟨rfl, rfl⟩
      refine covered.shrink (adopts.trans ?_)
      exact shrinks_updateGroup _ _ _ fun _ => ⟨rfl, rfl, rfl, rfl⟩
  | @drop row stored =>
      have drops := shrinks_deleteRecords db fun stored => stored.id = row.id
      refine covered.shrink (drops.trans ?_)
      exact shrinks_updateGroup _ _ _ fun _ => ⟨rfl, rfl, rfl, rfl⟩
  | @evict row stored =>
      have evicts := shrinks_updateRecord db row.id RecordRow.id_evict fun _ => ⟨rfl, rfl⟩
      refine covered.shrink (evicts.trans ?_)
      exact shrinks_updateGroup _ _ _ fun _ => ⟨rfl, rfl, rfl, rfl⟩
  | dropEmpty cutoffMs => exact covered.shrink (shrinks_deleteGroups db _)
  | prune gone => exact covered.shrink (shrinks_of_sublist (fun _ member => member) (.refl _))

theorem Moves.covered (moves : Moves db db') (kept : WellKept db) (covered : Covered db) :
    Covered db' := by
  induction moves with
  | refl => exact covered
  | tail before move ih => exact move.covered (Moves.wellKept before kept) ih

theorem Covered.erase (covered : Covered db) (target : DeleteTarget) : Covered (db.erase target) := by
  have erased : ∀ records groups, Shrinks db (db.eraseWhere records groups) := fun records groups =>
    (shrinks_deleteRecords db records).trans (shrinks_deleteGroups _ _)
  unfold Database.erase
  split
  · exact covered.shrink (erased _ _)
  · exact covered.shrink (erased _ _)
  · exact covered
  · exact covered.shrink (erased _ _)

theorem Op.Commits.covered {op : Op} (commits : op.Commits db db') (kept : WellKept db)
    (covered : Covered db) : Covered db' := by
  cases op with
  | insert => exact Moves.covered commits kept covered
  | fold => exact Moves.covered commits kept covered
  | sweep => exact Moves.covered commits kept covered
  | delete target =>
      rcases commits with same | same
      · exact same ▸ covered
      · exact same ▸ covered.erase target

theorem Reachable.covered {platform : Platform} {s : StoreState} (reachable : Reachable platform s) :
    Covered s.db := by
  induction reachable with
  | empty => exact covered_empty
  | step op faults before ih =>
      have commits := apply_commits platform before.kept.1 op faults
      exact commits.2.covered before.kept.2 ih

end

structure HistoryIntegrity (db : Database) : Prop where
  grouped : ∀ record ∈ db.records.rows, ∃ group ∈ db.groups.rows, group.groupId = record.groupId
  covered : Covered db

theorem history_integrity (platform : Platform) {s : StoreState} (reachable : Reachable platform s) :
    HistoryIntegrity s.db where
  grouped record stored := List.mem_map.mp (reachable.kept.2.grouped record stored)
  covered := reachable.covered

def twoSightings : StoreState :=
  let later : CrashRecord := { oneByteCrash with happenedAtMs := 2 }
  (StoreState.empty.apply plainPlatform (.insert later {} [] 0) noFaults).apply plainPlatform
    (.insert oneByteCrash {} [] 0) noFaults

theorem history_integrity_of_two_sightings : HistoryIntegrity twoSightings.db :=
  history_integrity plainPlatform (.step _ noFaults (.step _ noFaults .empty))

example : twoSightings.db.groups.rows.map (fun group => (group.occurrence, group.firstSeenMs)) =
    [(2, 1)] := by decide +kernel

end CrashCatcher.Store
