import CrashCatcher.Store.Atomic

namespace CrashCatcher.Store
open Lib Model Config

namespace Database

def recordsOf (db : Database) (groupId : Str) : List RecordRow :=
    db.records.rows.filter fun row => row.groupId == groupId

def KeepsGroup (db db' : Database) (group : GroupSummary) : Prop :=
  group ∈ db'.groups.rows ∧ db'.recordsOf group.groupId = db.recordsOf group.groupId

def SparesOthers (db db' : Database) (ids : List RecordId) : Prop :=
  ∀ group ∈ db.groups.rows, (∀ row ∈ db.recordsOf group.groupId, row.id ∉ ids) → db.KeepsGroup db' group

variable {db : Database}

theorem mem_recordsOf {row : RecordRow} {groupId : Str} :
    row ∈ db.recordsOf groupId ↔ row ∈ db.records.rows ∧ row.groupId = groupId := by
  simp [recordsOf]

theorem SparesOthers.refl (db : Database) (ids : List RecordId) : db.SparesOthers db ids :=
  fun _ stored _ => ⟨stored, rfl⟩

theorem recordsOf_delete {gone : RecordRow → Bool} {groupId : Str}
    (spared : ∀ row ∈ db.recordsOf groupId, gone row = false) :
    { db with records := db.records.delete gone : Database }.recordsOf groupId = db.recordsOf groupId := by
  simp only [recordsOf, Table.delete, List.filter_filter]
  apply List.filter_congr
  intro row stored
  by_cases same : row.groupId = groupId
  · simp [same, spared row (mem_recordsOf.mpr ⟨stored, same⟩)]
  · simp [same]

theorem erase_ids_spares_iff (ids : List RecordId) :
    db.SparesOthers (db.erase (.ids ids)) ids ↔
      ids = [] ∨ ∀ group ∈ db.groups.rows, db.hasRecordIn group.groupId := by
  cases ids with
  | nil => exact iff_of_true (SparesOthers.refl db []) (.inl rfl)
  | cons id rest =>
      let chosen (row : RecordRow) : Bool := (id :: rest).contains row.id
      let left : Database := { db with records := db.records.delete chosen }
      have erased : db.erase (.ids (id :: rest)) =
          left.deleteGroups fun group => !left.hasRecordIn group.groupId :=
        rfl
      have records : (db.erase (.ids (id :: rest))).records = left.records :=
        records_deleteGroups fun group _ gone => by simpa using gone
      have stays (group : GroupSummary) : group ∈ (db.erase (.ids (id :: rest))).groups.rows ↔
          group ∈ db.groups.rows ∧ left.hasRecordIn group.groupId := by
        rw [erased, deleteGroups, Table.mem_delete]
        simp [left]
      constructor
      · intro spares
        refine .inr fun group stored => ?_
        by_contra bare
        have none : ∀ row ∈ db.recordsOf group.groupId, row.id ∉ id :: rest := fun row member =>
          absurd (hasRecordIn_iff.mpr ⟨row, mem_recordsOf.mp member⟩) bare
        obtain ⟨row, member, same⟩ := hasRecordIn_iff.mp ((stays group).mp (spares group stored none).1).2
        exact bare (hasRecordIn_iff.mpr ⟨row, (Table.mem_delete.mp member).1, same⟩)
      · rintro (empty | peopled) group stored others
        · cases empty
        · have spared : ∀ row ∈ db.recordsOf group.groupId, chosen row = false := fun row member => by
            simpa [chosen] using others row member
          obtain ⟨row, member, same⟩ := hasRecordIn_iff.mp (peopled group stored)
          have kept : row ∈ left.records.rows :=
            Table.mem_delete.mpr ⟨member, spared row (mem_recordsOf.mpr ⟨member, same⟩)⟩
          refine ⟨(stays group).mpr ⟨stored, hasRecordIn_iff.mpr ⟨row, kept, same⟩⟩, ?_⟩
          rw [recordsOf, records]
          exact recordsOf_delete spared

end Database

/-- A delete by id that fails concerns no group at all. One that succeeds also deletes the groups whose records
retention had already deleted. -/
theorem delete_ids_spares_others (s : StoreState) (ids : List RecordId) :
    Ends s (delete (.ids ids))
      (fun _ t => s.db.SparesOthers t.db ids ↔ ids = [] ∨ ∀ group ∈ s.db.groups.rows,
        s.db.hasRecordIn group.groupId)
      fun t => s.db.SparesOthers t.db ids := by
  refine (delete_ends (.ids ids)).consequence ?_ ?_
  · rintro _ t ⟨_, erased⟩
    rw [erased]
    exact Database.erase_ids_spares_iff ids
  · rintro t ⟨_, same⟩
    rw [same]
    exact .refl s.db ids

def otherCrash : CrashRecord :=
  { oneByteCrash with packageName := "other".toList, happenedAtMs := I64.clamp (41 * msPerDay) }

def otherId : RecordId := RecordId.encode ((41 * msPerDay).toNat * 2 ^ 80)

/-- The first of two crashes leaves with its age, the second was deleted by the user, and their group stays for as
long as it was last seen within the window. -/
def historyOps : List Op := [
  .insert oneByteCrash {} [] 0,
  .insert { oneByteCrash with happenedAtMs := I64.clamp (40 * msPerDay) } {} [] 0,
  .delete (.ids [RecordId.encode ((40 * msPerDay).toNat * 2 ^ 80)]),
  .sweep (I64.clamp (41 * msPerDay)) {},
  .insert otherCrash {} [] 0]

def historyStore : StoreState := historyOps.foldl (quietStep plainPlatform) .empty

/-- Deleting the only record of the other app deletes the history of the first one. -/
theorem delete_by_id_drops_history :
    ¬ ∀ s, Reachable plainPlatform s → ∀ ids faults,
      s.db.SparesOthers (delete (.ids ids) { store := s, faults }).2.store.db ids := by
  intro always
  have reachable : Reachable plainPlatform historyStore := reachable_foldl plainPlatform .empty historyOps
  have spares := always historyStore reachable [otherId] noFaults
  rw [show (⟨historyStore, noFaults⟩ : World) = quiet historyStore from rfl,
    delete_quiet reachable.kept.2, Database.erase_ids_spares_iff] at spares
  have bare : ¬ ∀ group ∈ historyStore.db.groups.rows, historyStore.db.hasRecordIn group.groupId := by
    decide +kernel
  exact spares.elim nofun bare

end CrashCatcher.Store
