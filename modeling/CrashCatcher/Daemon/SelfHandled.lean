import CrashCatcher.Daemon.Ingests

namespace CrashCatcher.Model

theorem SourceMask.contains_truncated_events (mask other : SourceMask) :
    ((fromBitsTruncate mask.bits).union other).contains events =
      (mask.contains events || other.contains events) := by
  have single : events.IsSingle := ⟨0, by decide, by decide⟩
  rw [contains_union_of_single single]
  congr 1
  have known : known &&& events.bits = events.bits := by decide
  unfold contains fromBitsTruncate
  rw [BitVec.and_assoc, known]

end CrashCatcher.Model

namespace CrashCatcher.Daemon
open Lib Model Config Store Fallible Merge

/-- A Java group that is called self-handled has a record that the events buffer did not see. -/
def VerdictTracks (db : Database) : Prop :=
  ∀ group ∈ db.groups.rows, group.kind = .javaException →
    (∀ row ∈ db.records.rows, row.groupId = group.groupId → row.sources.contains .events = true) →
      group.selfHandled = false

def Unseen (rows : List RecordRow) (groupId : Str) : Prop :=
  ∃ row ∈ rows, row.groupId = groupId ∧ row.sources.contains .events = false

def Backed (groups : List GroupSummary) (rows : List RecordRow) : Prop :=
  ∀ group ∈ groups, group.kind = .javaException → group.selfHandled = true → Unseen rows group.groupId

theorem verdictTracks_iff (db : Database) : VerdictTracks db ↔ Backed db.groups.rows db.records.rows := by
  constructor
  · intro tracks group stored java handled
    by_contra seen
    refine absurd (tracks group stored java fun row member same => ?_) (by simp [handled])
    by_contra unseen
    exact seen ⟨row, member, same, by simpa using unseen⟩
  · intro backed group stored java seen
    by_contra handled
    obtain ⟨row, member, same, unseen⟩ := backed group stored java (by simpa using handled)
    cases (seen row member same).symm.trans unseen

/-- An ingest does not take away the last record without the events buffer from a group that is called
self-handled: a fold does not bring that source to it, and retention does not remove it. -/
def KeepsVerdict (core : DaemonCore) (state : CoreState) (record : CrashRecord) (clock : Nat → I64) : Prop :=
  let record := enrichRecord state record
  let db := state.world.store.db
  let rows := db.records.rows
  ∀ config, core.configStore.parse state.disk.files = .ok config → admits config record →
    (record.pid ≠ 0 → ∀ row, db.companion record (companionWindowMs record.kind).val = some row →
      record.sources.contains .events = true → ∀ group ∈ db.groups.rows, group.groupId = row.groupId →
        group.kind = .javaException → group.selfHandled = true →
          Unseen (rows.filter fun other => other.id ≠ row.id) group.groupId) ∧
    ((record.pid ≠ 0 → db.companion record (companionWindowMs record.kind).val = none) →
      let added := rowOf core.platform db (state.world.store.newId record.happenedAtMs) record none
      let left := retained (clock 1) config.global.retention (rows ++ [added])
      (record.selfHandled = true → Unseen left added.groupId) ∧
        ∀ group ∈ db.groups.rows, group.groupId ≠ added.groupId → group.kind = .javaException →
          group.selfHandled = true → Unseen left group.groupId)

theorem Unseen.of_bare {rows rows' : List RecordRow} {groupId : Str}
    (same : rows.map RecordRow.bare ⊆ rows'.map RecordRow.bare) (unseen : Unseen rows groupId) :
    Unseen rows' groupId := by
  obtain ⟨row, member, here, unseen⟩ := unseen
  obtain ⟨other, member, same⟩ := List.mem_map.mp (same (List.mem_map_of_mem member))
  have groupIds : other.groupId = row.groupId := congrArg (fun row => row.groupId) same
  have sources : other.sources = row.sources := congrArg (fun row => row.sources) same
  exact ⟨other, member, groupIds.trans here, sources ▸ unseen⟩

def Comes (groups : List GroupSummary) (group : GroupSummary) : Prop :=
  ∃ old ∈ groups, old.groupId = group.groupId ∧ old.kind = group.kind ∧ old.selfHandled = group.selfHandled

theorem Comes.ignoresBytes (groups : List GroupSummary) : IgnoresBytes (Comes groups) := fun _ _ comes => comes

theorem every_comes (db : Database) : Every (Comes db.groups.rows) db :=
  fun group stored => ⟨group, stored, rfl, rfl, rfl⟩

theorem Backed.comes {groups : List GroupSummary} {db : Database} {rows : List RecordRow}
    (backed : Backed groups rows) (comes : Every (Comes groups) db) : Backed db.groups.rows rows := by
  intro group stored java handled
  obtain ⟨old, member, id, kind, verdict⟩ := comes group stored
  exact id ▸ backed old member (kind.trans java) (verdict.trans handled)

section
variable {core : DaemonCore} {state : CoreState} {config : ConfigDocument} {record : CrashRecord}
variable {sourceKeys : List Str} {clock : Nat → I64} {result : Option Inserted} {t : StoreState}

theorem backed_foldInto {db : Database} {row : RecordRow} {adopted : Option WrittenPayload}
    (backed : Backed db.groups.rows db.records.rows) (stored : row ∈ db.records.rows)
    (id : (mapRecord row).id = row.id)
    (others : record.sources.contains .events = true → ∀ group ∈ db.groups.rows,
      group.groupId = row.groupId → group.kind = .javaException → group.selfHandled = true →
        Unseen (db.records.rows.filter fun other => other.id ≠ row.id) group.groupId) :
    Backed (db.foldInto (mapRecord row) record adopted).groups.rows
      (db.foldInto (mapRecord row) record adopted).records.rows := by
  have comes := (every_comes db).foldInto (Comes.ignoresBytes _) (mapRecord row) record adopted
  refine Backed.comes (fun group member java handled => ?_) comes
  rw [Database.foldInto_rows, id]
  have untouched : ∀ other ∈ db.records.rows, other.id ≠ row.id → other.groupId = group.groupId →
      other.sources.contains .events = false → Unseen (db.records.rows.map fun other =>
        if other.id = row.id then other.folded ((mapRecord row).sources.union record.sources) adopted
        else other) group.groupId := by
    intro other member apart here unseen
    exact ⟨other, List.mem_map.mpr ⟨other, member, if_neg apart⟩, here, unseen⟩
  obtain ⟨other, member', here, unseen⟩ := backed group member java handled
  by_cases same : other.id = row.id
  · obtain rfl : other = row := db.records.eq_of_key_eq member' stored same
    cases brought : record.sources.contains .events with
    | false =>
        refine ⟨other.folded ((mapRecord other).sources.union record.sources) adopted,
          List.mem_map.mpr ⟨other, stored, if_pos rfl⟩, ?_, ?_⟩
        · cases adopted <;> exact here
        · have sources : (other.folded ((mapRecord other).sources.union record.sources) adopted).sources =
              (mapRecord other).sources.union record.sources := by cases adopted <;> rfl
          rw [sources]
          refine (SourceMask.contains_truncated_events _ _).trans ?_
          rw [unseen, brought]
          rfl
    | true =>
        obtain ⟨another, left, here', unseen'⟩ := others brought group member here.symm java handled
        obtain ⟨stored', apart⟩ := List.mem_filter.mp left
        exact untouched another stored' (of_decide_eq_true apart) here' unseen'
  · exact untouched other member' same here unseen

theorem IngestOutcome.backed (outcome : IngestOutcome core config state.world.store
    (enrichRecord state record) sourceKeys
      clock result t) (kept : Stands state.world.store)
    (parsed : core.configStore.parse state.disk.files = .ok config)
    (keeps : KeepsVerdict core state record clock)
    (before : Backed state.world.store.db.groups.rows state.world.store.db.records.rows) :
    Backed t.db.groups.rows t.db.records.rows := by
  have keeps := keeps config parsed
  generalize enrichRecord state record = record at keeps outcome
  generalize state.world.store = s at keeps outcome kept before
  cases outcome with
  | excluded _ =>
      have marks := marks_markAll s.db clock sourceKeys
      show Backed (s.db.markAll clock sourceKeys).groups.rows (s.db.markAll clock sourceKeys).records.rows
      rw [marks.groups, marks.records]
      exact before
  | @folded row adopted t admitted known found absent written ids files rows =>
      have stored := (companion_stored found).1
      have id := mapRecord_id kept.rows stored
      have marks := marks_ingest (s.db.foldInto (mapRecord row) record adopted) sourceKeys (clock 0)
      rw [rows, marks.groups, marks.records]
      exact backed_foldInto before stored id ((keeps admitted).1 known row found)
  | inserted admitted unseen recorded =>
      cases recorded with
      | @intro written db u payload ids added rows swept =>
          obtain ⟨faults, rfl⟩ := swept
          obtain ⟨own, others⟩ := (keeps admitted).2 unseen
          let bare := rowOf core.platform s.db (s.newId record.happenedAtMs) record none
          let left := retained (clock 1) config.global.retention (s.db.records.rows ++ [bare])
          have spec := Database.insertCrash_eq_some added
          have marks := marks_ingest db sourceKeys (clock 0)
          have groups : ∀ group ∈ u.db.groups.rows, group.kind = .javaException → group.selfHandled = true →
              Unseen left group.groupId := by
            intro group member java handled
            rw [rows, marks.groups, spec.2.2] at member
            rcases Database.mem_upsertGroup member with ⟨old, apart⟩ | ⟨rfl, -⟩ | ⟨old, -, same, rfl⟩
            · exact others group old apart java handled
            · exact own handled
            · have here : old.groupId = bare.groupId := same
              rw [GroupSummary.groupId_sightAgain, here]
              exact own handled
          have same : left.map RecordRow.bare =
              (retained (clock 1) config.global.retention u.db.records.rows).map RecordRow.bare := by
            rw [map_bare_retained, map_bare_retained, rows, marks.records, spec.2.1, List.map_append,
              List.map_append]
            rfl
          have upkeep := (upkeep_every (Comes.ignoresBytes u.db.groups.rows)).sweep (s := u) (clock 1)
            config.global.retention
          have swept := trySweep_always ((upkeep.and
            (sweep_holds (clock 1) config.global.retention)).consequence
            (fun _ _ done => done) fun _ lost => lost) faults
          refine Backed.comes (fun group member java handled => ?_) (swept.1.2 (every_comes u.db))
          exact (groups group member java handled).of_bare (same ▸ swept.2)

end

/-- In every run of ingests that keep verdicts, a Java group all of whose records the events buffer saw is
not called self-handled. -/
theorem verdict_tracks {core : DaemonCore} {s : StoreState} (run : Ingests core (KeepsVerdict core) s) :
    VerdictTracks s.db := by
  rw [verdictTracks_iff]
  induction run with
  | empty => exact fun group stored => by cases stored
  | @ingest state before record sourceKeys clock keeps ih =>
      rcases ingest_always record sourceKeys clock state with ⟨_, config, parsed, outcome⟩ | lost
      · exact outcome.backed before.kept parsed keeps ih
      · rw [lost.marks.groups, lost.marks.records]
        exact ih

def crashBufferView : CrashRecord := { oneByteCrash with selfHandled := true, sources := .crashBuffer }

def eventsView : CrashRecord := { oneByteCrash with happenedAtMs := 2 }

def afterCrashBuffer : CoreState :=
  ((DaemonCore.plain .printing).ingestWithSources crashBufferView [] (fun _ => 0) .fresh).2

def afterEvents : CoreState :=
  ((DaemonCore.plain .printing).ingestWithSources eventsView [] (fun _ => 0) afterCrashBuffer).2

instance (rows : List RecordRow) (groupId : Str) : Decidable (Unseen rows groupId) :=
  inferInstanceAs (Decidable (∃ row ∈ rows, _))

def arriving (core : DaemonCore) (state : CoreState) (record : CrashRecord) : RecordRow :=
  rowOf core.platform state.world.store.db (state.world.store.newId (enrichRecord state record).happenedAtMs)
    (enrichRecord state record) none

/-- The condition, where the configuration is read. -/
theorem keepsVerdict_of_parsed {core : DaemonCore} {state : CoreState} {record : CrashRecord} {clock : Nat → I64}
    {config : ConfigDocument} (parsed : core.configStore.parse state.disk.files = .ok config)
    (folds : ∀ row ∈ state.world.store.db.companion (enrichRecord state record)
        (companionWindowMs (enrichRecord state record).kind).val,
      ∀ group ∈ state.world.store.db.groups.rows, group.groupId = row.groupId →
        Unseen (state.world.store.db.records.rows.filter fun other => other.id ≠ row.id) group.groupId)
    (stores : ∀ groupId ∈ (arriving core state record).groupId ::
        state.world.store.db.groups.rows.map (·.groupId),
      Unseen (retained (clock 1) config.global.retention
        (state.world.store.db.records.rows ++ [arriving core state record])) groupId) : KeepsVerdict core state record clock := by
  intro config' parsed' _
  cases parsed.symm.trans parsed'
  refine ⟨fun _ row found _ group stored same _ _ => folds row found group stored same, fun _ => ⟨fun _ => ?_, ?_⟩⟩
  · exact stores _ List.mem_cons_self
  · exact fun group stored _ _ _ => stores _ (List.mem_cons_of_mem _ (List.mem_map_of_mem stored))

/-- The app crashes again an hour later, and the events buffer saw the first crash only. -/
def crashBufferAgain : CrashRecord := { crashBufferView with happenedAtMs := 3600000, pid := 8 }

def facing (s : StoreState) : CoreState := { CoreState.fresh with world := quiet s }

def ingested (s : StoreState) (record : CrashRecord) : StoreState :=
  ((DaemonCore.plain .printing).ingestWithSources record [] (fun _ => 0) (facing s)).2.world.store

theorem Ingests.ingested {s : StoreState} {record : CrashRecord}
    (before : Ingests (.plain .printing) (KeepsVerdict (.plain .printing)) s)
    (keeps : KeepsVerdict (.plain .printing) (facing s) record fun _ => 0) :
    Ingests (.plain .printing) (KeepsVerdict (.plain .printing)) (ingested s record) :=
  @Ingests.ingest _ _ (facing s) before record [] (fun _ => 0) keeps

def afterAgain : StoreState := ingested (ingested .empty crashBufferView) crashBufferAgain

theorem verdict_tracks_of_crash_buffer : VerdictTracks (ingested afterAgain eventsView).db ∧
    (ingested afterAgain eventsView).db.records.rows.map (fun row => row.sources.contains .events) = [true, false] ∧
    (ingested afterAgain eventsView).db.groups.rows.map (·.selfHandled) = [true] := by
  have first : KeepsVerdict (.plain .printing) (facing .empty) crashBufferView fun _ => 0 :=
    keepsVerdict_of_parsed rfl (by decide +kernel) (by decide +kernel)
  have again : KeepsVerdict (.plain .printing) (facing (ingested .empty crashBufferView)) crashBufferAgain
      fun _ => 0 := keepsVerdict_of_parsed rfl (by decide +kernel) (by decide +kernel)
  have late : KeepsVerdict (.plain .printing) (facing afterAgain) eventsView fun _ => 0 :=
    keepsVerdict_of_parsed rfl (by decide +kernel) (by decide +kernel)
  have run := ((Ingests.empty.ingested first).ingested again).ingested late
  exact ⟨verdict_tracks run, by decide +kernel, by decide +kernel⟩

/-- The late events evidence is folded into the record and leaves the verdict of its group. -/
theorem late_events_leave_verdict :
    ¬ ∀ (core : DaemonCore) (s : StoreState), Ingests core (fun _ _ _ => True) s → VerdictTracks s.db := by
  intro always
  have run : Ingests (.plain .printing) (fun _ _ _ => True) afterEvents.world.store :=
    .ingest (.ingest .empty _ _ _ trivial) _ _ _ trivial
  have tracks := always _ _ run
  have stored : afterEvents.world.store.db.groups.rows.map (fun group =>
      (group.kind, group.selfHandled)) = [(.javaException, true)] := by decide +kernel
  have seen : afterEvents.world.store.db.records.rows.all (fun row => row.sources.contains .events) = true := by
    decide +kernel
  obtain ⟨group, member, same⟩ : ∃ group ∈ afterEvents.world.store.db.groups.rows,
      (group.kind, group.selfHandled) = (CrashKind.javaException, true) :=
    List.mem_map.mp (stored ▸ List.mem_cons_self)
  injection same with java handled
  have verdict := tracks group member java fun row stored _ => List.all_eq_true.mp seen row stored
  cases handled.symm.trans verdict

end CrashCatcher.Daemon
