import CrashCatcher.Daemon.Ingest
import CrashCatcher.Store.Retained

namespace CrashCatcher.Store
open Lib Model Relation

theorem WellKept.marks {db db' : Database} (kept : WellKept db) (marks : Marks db db') : WellKept db' where
  rows row stored := kept.rows row (marks.records ▸ stored)
  grouped row stored := by
    rw [Database.groupIds, marks.groups]
    exact kept.grouped row (marks.records ▸ stored)

theorem foldInto_moves {db : Database} {row : RecordRow} (stored : row ∈ db.records.rows)
    {existing : RecordSummary} (id : existing.id = row.id) (groupId : existing.groupId = row.groupId)
    (record : CrashRecord) {adopted : Option WrittenPayload} (written : WrittenFor row.id adopted)
    (absent : adopted.isSome → row.payloadState = .absent) :
      Moves db (db.foldInto existing record adopted) := by
  let sources := existing.sources.union record.sources
  have folded : Moves db (db.foldSources row.id sources) := .single (.foldSources _ _)
  unfold Database.foldInto
  rw [id, groupId]
  cases adopted with
  | none => exact folded
  | some adopted =>
      have kept : row.setSources sources ∈ (db.foldSources row.id sources).records.rows :=
        List.mem_map.mpr ⟨row, stored, by simp⟩
      have filled := Move.adopt kept (absent rfl) written
      exact folded.tail filled

theorem companion_stored {db : Database} {record : CrashRecord} {windowMs : Int} {row : RecordRow}
    (found : db.companion record windowMs = some row) :
    row ∈ db.records.rows ∧ db.isCompanion record windowMs row = true :=
  List.mem_filter.mp (List.argmin_mem found)

end CrashCatcher.Store

namespace CrashCatcher.Daemon
open Lib Model Config Store Fallible Relation

theorem mapRecord_id {db : Database} (kept : WellKept db) {row : RecordRow} (stored : row ∈ db.records.rows) :
    (mapRecord row).id = row.id := by
  simp [mapRecord, (kept.rows row stored).issued.wellFormed.parse_text]

structure Stands (s : StoreState) : Prop where
  fits : s.ids.Fits
  rows : WellKept s.db

theorem Stands.empty : Stands .empty := ⟨RecordIdGenerator.fits_new, wellKept_empty⟩

section
variable {core : DaemonCore} {config : ConfigDocument} {s t : StoreState} {record : CrashRecord}
variable {sourceKeys : List Str} {clock : Nat → I64} {result : Option Inserted}

theorem IngestOutcome.kept (outcome : IngestOutcome core config s record sourceKeys clock result t)
    (before : Stands s) :
    Stands t := by
  cases outcome with
  | excluded _ => exact ⟨before.fits, before.rows.marks (marks_markAll _ _ _)⟩
  | @folded row adopted t _ _ found absent written ids _ rows =>
      have stored := (companion_stored found).1
      have id := mapRecord_id before.rows stored
      have moves := foldInto_moves stored id rfl record (id ▸ written) absent
      refine ⟨ids ▸ before.fits, ?_⟩
      rw [rows]
      exact (moves.wellKept before.rows).marks (marks_ingest _ _ _)
  | inserted _ _ recorded =>
      cases recorded with
      | @intro written db u payload ids added rows swept =>
          obtain ⟨faults, rfl⟩ := swept
          have fits : (s.nextIds record.happenedAtMs).Fits := before.fits.advance _
          have inserted : Move s.db db := .insert ⟨_, fits, rfl⟩ payload added
          have stored : Stands u := ⟨ids ▸ fits,
            rows ▸ (inserted.wellKept before.rows).marks (marks_ingest _ _ _)⟩
          have moved : ∀ v, Moved u v → Stands v := fun v moved =>
            ⟨moved.1 ▸ stored.fits, moved.2.wellKept stored.rows⟩
          exact trySweep_always ((sweep_ends _ _).consequence (fun _ => moved) moved) faults

theorem Lost.kept (lost : Lost record s t) (before : Stands s) : Stands t := by
  refine ⟨?_, before.rows.marks lost.marks⟩
  rcases lost.ids with same | same
  · exact same ▸ before.fits
  · exact same ▸ before.fits.advance _

end

/-- A store that ingests have led to, completed or failed, whatever else of the daemon changed in
between. -/
inductive Ingests (core : DaemonCore) (allowed : CoreState → CrashRecord → (Nat → I64) → Prop) :
    StoreState → Prop
  | empty : Ingests core allowed .empty
  | ingest {state : CoreState} (before : Ingests core allowed state.world.store) (record : CrashRecord)
      (sourceKeys : List Str) (clock : Nat → I64) (meets : allowed state record clock) :
      Ingests core allowed (core.ingestWithSources record sourceKeys clock state).2.world.store

section
variable {core : DaemonCore} {allowed : CoreState → CrashRecord → (Nat → I64) → Prop}

theorem ingest_always (record : CrashRecord) (sourceKeys : List Str) (clock : Nat → I64) (state : CoreState) :
    (∃ result config, core.configStore.parse state.disk.files = .ok config ∧
      IngestOutcome core config state.world.store (enrichRecord state record) sourceKeys clock result
        (core.ingestWithSources record sourceKeys clock state).2.world.store) ∨
      Lost (enrichRecord state record) state.world.store
        (core.ingestWithSources record sourceKeys clock state).2.world.store := by
  have leaves := core.ingest_leaves record sourceKeys clock state rfl
  rcases ran : core.ingestWithSources record sourceKeys clock state with ⟨answer, after⟩
  rw [ran] at leaves
  cases answer with
  | ok result =>
      obtain ⟨-, -, config, parsed, outcome⟩ := leaves
      exact .inl ⟨result, config, parsed, outcome⟩
  | error _ => exact .inr leaves.2.2

theorem Ingests.kept {s : StoreState} (run : Ingests core allowed s) : Stands s := by
  induction run with
  | empty => exact .empty
  | ingest before record sourceKeys clock meets ih =>
      rcases ingest_always record sourceKeys clock _ with ⟨_, _, _, outcome⟩ | lost
      · exact outcome.kept ih
      · exact lost.kept ih

end
end CrashCatcher.Daemon
