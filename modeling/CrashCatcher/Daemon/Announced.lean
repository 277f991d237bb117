import CrashCatcher.Daemon.Ingests
import CrashCatcher.Store.Ceilings
import CrashCatcher.Store.Quiet

namespace CrashCatcher.Store
open Lib Model Config Fallible

section
variable {s : StoreState}

theorem getRecord_quiet (kept : WellKept s.db) {row : RecordRow} (stored : row ∈ s.db.records.rows) :
    ∃ detail, getRecord row.id (quiet s) = (.ok detail, quiet s) ∧ detail.record.id = row.id ∧
      detail.group.groupId = row.groupId := by
  have found : s.db.records.find? row.id = some row := (Table.find?_eq_some_iff _).mpr ⟨stored, rfl⟩
  obtain ⟨group, member, same⟩ := List.mem_map.mp (kept.grouped row stored)
  have grouped : querySome (fun db => db.groups.find? (mapRecord row).groupId) (quiet s) =
      (.ok group, quiet s) :=
    querySome_quiet ((Table.find?_eq_some_iff _).mpr ⟨member, same⟩)
  have id := Daemon.mapRecord_id kept stored
  refine ⟨{ record := mapRecord row, group }, ?_, id, same⟩
  unfold getRecord
  simp only [bind_run, query_quiet, found, grouped]
  rfl

theorem getRecord_stored {id : RecordId} {detail : Wire.RecordDetail} {world : World}
    (read : getRecord id (quiet s) = (.ok detail, world)) : ∃ row ∈ s.db.records.rows, row.id = id := by
  cases found : s.db.records.find? id with
  | some row => exact ⟨row, (Table.find?_eq_some_iff _).mp found⟩
  | none =>
      unfold getRecord at read
      simp only [bind_run, query_quiet, found] at read
      cases read

theorem write_completes (platform : Platform) (id : RecordId) {source : PayloadSource} (maxBytes : Nat)
    {content : List UInt8} (read : PayloadStore.raw platform source = .ok content) :
    Completes s (PayloadStore.write platform id source maxBytes) fun _ t => t.db = s.db := by
  cases content with
  | nil =>
      unfold PayloadStore.write
      rw [read]
      exact .pure rfl
  | cons byte rest =>
      obtain ⟨payload, bytes, -, wrote⟩ := write_quiet_of_storable platform (s := s) id maxBytes
        ⟨byte, rest, read⟩
      exact ⟨_, _, wrote, rfl⟩

end

theorem retained_congr {nowMs : I64} {retention : RetentionPolicy} {rows rows' : List RecordRow}
    (same : rows.map RecordRow.bare = rows'.map RecordRow.bare) {row : RecordRow}
    (left : row ∈ retained nowMs retention rows) : ∃ row' ∈ retained nowMs retention rows', row'.bare =
      row.bare := by
  have member := List.mem_map_of_mem (f := RecordRow.bare) left
  rw [map_bare_retained, same, ← map_bare_retained] at member
  exact List.mem_map.mp member

end CrashCatcher.Store

namespace CrashCatcher.Daemon
open Lib Model Config Store Fallible

/-- At the end of an ingest, every record that it broadcast or notified of can be read, and names
the group that was broadcast. -/
def AnnouncedReadable (core : DaemonCore) (state : CoreState) (record : CrashRecord) (sourceKeys : List Str)
    (clock : Nat → I64) : Prop :=
  ∀ storeFaults diskFaults effect id,
    let after := (core.ingestWithSources record sourceKeys clock (state.facing storeFaults diskFaults)).2
    effect ∈ after.effects.drop state.effects.length → effect.about = some id →
      ∃ detail, (getRecord id (quiet after.world.store)).1 = .ok detail ∧ detail.record.id = id ∧
        ∀ inserted, effect.recorded = some inserted → detail.group.groupId = inserted.group.groupId

structure Announceable (core : DaemonCore) (config : ConfigDocument) (s : StoreState) (record : CrashRecord) :
    Prop where
  admitted : admits config record = true
  unseen : record.pid ≠ 0 → s.db.companion record (companionWindowMs record.kind).val = none
  readable : ∃ content, PayloadStore.raw core.platform record.payload = .ok content
  fresh : ∀ row ∈ s.db.records.rows, row.id ≠ s.newId record.happenedAtMs

def SurvivesSweep (core : DaemonCore) (config : ConfigDocument) (s : StoreState) (record : CrashRecord)
    (nowMs : I64) : Prop :=
  let row := rowOf core.platform s.db (s.newId record.happenedAtMs) record none
  row ∈ retained nowMs config.global.retention (s.db.records.rows ++ [row])

section
variable {core : DaemonCore} {config : ConfigDocument} {s t : StoreState} {record : CrashRecord}
variable {sourceKeys : List Str} {clock : Nat → I64}

theorem map_bare_inserted (rows : List RecordRow) (db : Database) (id : RecordId)
    (written written' : Option WrittenPayload) :
    (rows ++ [rowOf core.platform db id record written]).map RecordRow.bare =
      (rows ++ [rowOf core.platform db id record written']).map RecordRow.bare := by
  rw [List.map_append, List.map_append]
  rfl

theorem Recorded.fresh (recorded : Recorded core config s record sourceKeys clock t) :
    ∀ row ∈ s.db.records.rows, row.id ≠ s.newId record.happenedAtMs := by
  cases recorded with
  | @intro written db u payload ids added rows swept => exact (Database.insertCrash_eq_some added).1

theorem Recorded.survives (recorded : Recorded core config s record sourceKeys clock t)
    (survives : SurvivesSweep core config s record (clock 1)) :
    ∃ row ∈ t.db.records.rows, row.id = s.newId record.happenedAtMs ∧
      row.groupId = record.groupId core.platform.sha256 := by
  cases recorded with
  | @intro written db u payload ids added rows swept =>
      obtain ⟨faults, rfl⟩ := swept
      have holds := trySweep_always (sweep_holds (s := u) (clock 1) config.global.retention) faults
      have records : u.db.records.rows = s.db.records.rows ++
          [rowOf core.platform s.db (s.newId record.happenedAtMs) record written] := by
        rw [rows, (marks_ingest _ _ _).records, (Database.insertCrash_eq_some added).2.1]
      obtain ⟨kept, left, same⟩ := retained_congr (map_bare_inserted _ _ _ none written) survives
      rw [← records] at left
      obtain ⟨row, stored, same'⟩ := List.mem_map.mp (holds (List.mem_map_of_mem left))
      have bare := same'.trans same
      exact ⟨row, stored, congrArg (fun row => row.id) bare, congrArg (fun row => row.groupId) bare⟩

theorem quietly_survives (before : Stands s) (sourceKeys : List Str) (clock : Nat → I64)
    (announceable : Announceable core config s record) :
    ∃ answer stored, insertWithSources core.platform record config.global.retention sourceKeys (clock 0)
        (quiet s) = (.ok answer, stored) ∧
      ((∃ row ∈ (trySweep (clock 1) config.global.retention stored).2.store.db.records.rows,
          row.id = s.newId record.happenedAtMs) →
        SurvivesSweep core config s record (clock 1)) := by
  obtain ⟨content, read⟩ := announceable.readable
  obtain ⟨written, t, wrote, rows⟩ := write_completes (s := { s with ids := s.nextIds record.happenedAtMs })
    core.platform (s.newId record.happenedAtMs) config.global.retention.maxPayloadBytesPerRecord read
  have payload : WrittenFor (s.newId record.happenedAtMs) written :=
    (Holds.ok (write_rows core.platform _ _ _) rfl wrote).2.2
  obtain ⟨answer, db, added, ran⟩ := insertWithSources_quiet core.platform record config.global.retention
    sourceKeys (clock 0) announceable.fresh wrote rows
  refine ⟨answer, _, ran, ?_⟩
  let u : StoreState := { t with db := db.ingest sourceKeys (clock 0) }
  have inserted : Move s.db db := .insert ⟨_, before.fits.advance _, rfl⟩ payload added
  have kept : WellKept u.db := (inserted.wellKept before.rows).marks (marks_ingest _ _ _)
  have records : u.db.records.rows = s.db.records.rows ++
      [rowOf core.platform s.db (s.newId record.happenedAtMs) record written] :=
    (congrArg Table.rows (marks_ingest db sourceKeys (clock 0)).records).trans
      (Database.insertCrash_eq_some added).2.1
  obtain ⟨outcome, v, sweeps, -, left, -, -⟩ := (sweep_completes kept (clock 1) config.global.retention).ends
    (sweep_exact (clock 1) config.global.retention)
  have swept : (trySweep (clock 1) config.global.retention (quiet u)).2.store = v := by
    unfold trySweep recover
    rw [bind_of_ok sweeps]
    rfl
  rw [swept]
  rintro ⟨row, stored, named⟩
  rw [left] at stored
  obtain ⟨kept, member, rfl⟩ := List.mem_map.mp stored
  have named : kept.id = s.newId record.happenedAtMs := by
    split at named <;> exact named
  have own : rowOf core.platform s.db (s.newId record.happenedAtMs) record written ∈ u.db.records.rows := by
    rw [records]
    exact List.mem_append_right _ List.mem_cons_self
  have within : kept ∈ u.db.records.rows :=
    keepRecent_subset (keepPerGroup_subset (keepNewest_subset member))
  obtain rfl := u.db.records.eq_of_key_eq within own named
  rw [records] at member
  obtain ⟨row, left, bare⟩ := retained_congr (map_bare_inserted _ _ _ written none) member
  have id : row.id = s.newId record.happenedAtMs := congrArg (fun row => row.id) bare
  have within := keepRecent_subset (keepPerGroup_subset (keepNewest_subset left))
  rcases List.mem_append.mp within with old | new
  · exact absurd id (announceable.fresh row old)
  · rw [List.mem_singleton.mp new] at left
    exact left

/-- What an ingest announces is readable exactly when, should the crash be stored as a record of its
own, the sweep that follows keeps it. -/
theorem announced_readable_iff {core : DaemonCore} {state : CoreState}
    (reachable : Reachable core.platform state.world.store) (record : CrashRecord) (sourceKeys : List Str)
    (clock : Nat → I64) :
    AnnouncedReadable core state record sourceKeys clock ↔
      ∀ config, core.configStore.parse state.disk.files = .ok config →
        Announceable core config state.world.store (enrichRecord state record) →
          SurvivesSweep core config state.world.store (enrichRecord state record) (clock 1) := by
  obtain ⟨fits, kept⟩ := reachable.kept
  have before : Stands state.world.store := ⟨fits, kept⟩
  constructor
  · intro readable config parsed announceable
    let start := state.facing noFaults noFaults
    obtain ⟨answer, stored, inserts, survives⟩ := quietly_survives before sourceKeys clock announceable
    have read : core.configStore.load start.disk = (.ok config, start.disk.popFault) := by
      rw [ConfigStore.load_of_reads rfl]
      exact congrArg (·, start.disk.popFault) parsed
    have unseen : companionRecord (enrichRecord start record)
        (companionWindowMs (enrichRecord start record).kind).val start.world = (.ok none, start.world) := by
      unfold companionRecord
      by_cases anonymous : (enrichRecord start record).pid = 0
      · rw [if_pos anonymous]
        rfl
      · rw [if_neg anonymous]
        have none := announceable.unseen anonymous
        exact congrArg (fun found => (Except.ok (Option.map mapRecord found), start.world)) none
    obtain ⟨effects, ran⟩ := core.ingest_stores read announceable.admitted unseen inserts
    have leaves := core.ingest_leaves record sourceKeys clock start rfl
    rw [ran] at leaves
    obtain ⟨-, ⟨named, -, -, news, same, -⟩, -⟩ := leaves
    have listed : Effect.crashRecorded answer ∈ effects.drop state.effects.length := by
      have same : effects = state.effects ++ .crashRecorded answer :: news := same
      rw [same, List.drop_left]
      exact List.mem_cons_self
    have told := readable noFaults noFaults (.crashRecorded answer) answer.record.id
    rw [ran] at told
    obtain ⟨detail, found, -⟩ := told listed rfl
    apply survives
    obtain ⟨row, stored, id⟩ := getRecord_stored (Prod.ext found rfl)
    exact ⟨row, stored, id.trans named⟩
  · intro survives storeFaults diskFaults effect id after announced about
    have leaves := core.ingest_leaves record sourceKeys clock (state.facing storeFaults diskFaults) rfl
    rcases ran : core.ingestWithSources record sourceKeys clock (state.facing storeFaults diskFaults) with
      ⟨answer, after'⟩
    obtain rfl : after = after' := congrArg Prod.snd ran
    rw [ran] at leaves
    have silent : after.effects ≠ state.effects := by
      intro same
      rw [same, List.drop_length] at announced
      cases announced
    cases answer with
    | error _ => exact absurd leaves.2.1 silent
    | ok result =>
        obtain ⟨-, announces, config, parsed, outcome⟩ := leaves
        generalize after.world.store = t at outcome ⊢
        have left := outcome.kept before
        cases outcome with
        | excluded _ => exact absurd announces silent
        | folded _ _ _ _ _ _ _ _ => exact absurd announces silent
        | @inserted answer _ admitted unseen recorded =>
            obtain ⟨named, group, readable, news, same, others⟩ := announces
            obtain ⟨row, stored, rowNamed, rowGroup⟩ :=
              recorded.survives (survives config parsed ⟨admitted, unseen, readable, recorded.fresh⟩)
            obtain ⟨detail, found, detailNamed, detailGroup⟩ := getRecord_quiet left.rows stored
            have same : after.effects = state.effects ++ .crashRecorded answer :: news := same
            rw [same, List.drop_left] at announced
            have listed : effect = .crashRecorded answer ∨ effect ∈ news := List.mem_cons.mp announced
            have id : id = row.id := by
              rw [rowNamed]
              refine Eq.trans ?_ named
              rcases listed with rfl | later
              · exact (Option.some.inj about).symm
              · exact Option.some.inj (about.symm.trans (others effect later).1)
            refine ⟨detail, id ▸ congrArg Prod.fst found, detailNamed.trans id.symm,
              fun inserted broadcast => ?_⟩
            rcases listed with rfl | later
            · cases broadcast
              exact (detailGroup.trans rowGroup).trans group.symm
            · cases (others effect later).2.symm.trans broadcast

end

def unconfiguredCore : DaemonCore := .plain .printing

theorem first_crash_announced_readable :
    AnnouncedReadable unconfiguredCore .fresh oneByteCrash [] fun _ => 0 := by
  refine (announced_readable_iff .empty oneByteCrash [] fun _ => 0).mpr fun config parsed _ => ?_
  obtain rfl : ({} : ConfigDocument) = config := Except.ok.inj parsed
  unfold SurvivesSweep
  decide +kernel

/-- A crash older than the retention is broadcast after the sweep has removed it. -/
theorem old_crash_announced_unreadable :
    ¬ AnnouncedReadable unconfiguredCore .fresh oneByteCrash [] fun _ => 1753000000000 := by
  intro readable
  let after := (unconfiguredCore.ingestWithSources oneByteCrash [] (fun _ => 1753000000000)
    (CoreState.fresh.facing noFaults noFaults)).2
  have announced : (after.effects.drop 0).head?.bind Effect.about = some (StoreState.empty.newId 1) := by
    decide +kernel
  have gone : after.world.store.db.records.rows = [] := by decide +kernel
  cases listed : (after.effects.drop 0).head? with
  | none =>
      rw [listed] at announced
      cases announced
  | some effect =>
      rw [listed] at announced
      obtain ⟨detail, found, -⟩ := readable noFaults noFaults effect _ (List.mem_of_head? listed) announced
      obtain ⟨row, stored, -⟩ := getRecord_stored (Prod.ext found rfl)
      rw [gone] at stored
      cases stored

end CrashCatcher.Daemon
