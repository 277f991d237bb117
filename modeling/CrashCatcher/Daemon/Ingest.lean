import CrashCatcher.Daemon.Leaves

namespace CrashCatcher.Store
open Lib Model Config Fallible

section
variable {s : StoreState}

theorem foldIntoRecord_files (platform : Platform) (existing : RecordSummary) (record : CrashRecord)
    (retention : RetentionPolicy) (sourceKeys : List Str) (ingestedAtMs : I64) :
    Ends s (foldIntoRecord platform existing record retention sourceKeys ingestedAtMs)
      (fun _ t => existing.payloadState ≠ .absent → t.files = s.files)
      fun t => existing.payloadState ≠ .absent → t.files = s.files := by
  by_cases missing : existing.payloadState = .absent
  · exact (foldIntoRecord_exact platform existing record retention sourceKeys ingestedAtMs).consequence
      (fun _ _ _ present => absurd missing present) fun _ _ present => absurd missing present
  suffices kept : Ends s (foldIntoRecord platform existing record retention sourceKeys ingestedAtMs)
      (fun _ t => t.files = s.files) fun t => t.files = s.files from
    kept.consequence (fun _ _ same _ => same) fun _ same _ => same
  have nothing : Ends s (adoptPayload platform existing record retention)
      (fun adopted t => adopted = none ∧ t = s) fun t => t.files = s.files :=
    Ends.ite (fun absent => absurd absent missing) fun _ => Ends.pure ⟨rfl, rfl⟩
  refine Ends.bind nothing ?_
  rintro _ _ ⟨rfl, rfl⟩
  refine Ends.onError ((foldRows_exact existing record none sourceKeys ingestedAtMs).consequence ?_
    fun _ lost => lost) ?_
  · rintro _ _ rfl
    rfl
  · rintro _ rfl
    exact Ends.pure rfl

theorem insertRows_answers (platform : Platform) (id : RecordId) (record : CrashRecord)
    (written : Option WrittenPayload) (sourceKeys : List Str) (ingestedAtMs : I64) :
    Ends s (insertRows platform id record written sourceKeys ingestedAtMs)
      (fun inserted _ => inserted.record.id = id ∧ inserted.group.groupId = record.groupId platform.sha256)
      fun t => t = s := by
  have body : Ends s (insertRows platform id record written sourceKeys ingestedAtMs)
      (fun inserted t => (t.ids = s.ids ∧ t.files = s.files) ∧ inserted.record.id = id ∧
        inserted.group.groupId = record.groupId platform.sha256) fun t => t = s := by
    refine Ends.transaction (fun _ _ done => done.1) ?_ rfl
    refine Ends.query_bind ⟨rfl, rfl⟩ (Ends.write_bind ⟨rfl, rfl⟩ ?_)
    refine Ends.execute_bind ⟨rfl, rfl⟩ fun _ db _ => ?_
    refine Ends.querySome_bind ⟨rfl, rfl⟩ fun group grouped => ?_
    refine Ends.querySome_bind ⟨rfl, rfl⟩ fun stored found => ?_
    refine Ends.bind (insertSources_exact sourceKeys ingestedAtMs) ?_
    rintro _ _ rfl
    exact Ends.pure ⟨⟨rfl, rfl⟩, ((Table.find?_eq_some_iff _).mp found).2,
      ((Table.find?_eq_some_iff _).mp grouped).2⟩
  exact body.consequence (fun _ _ done => done.2) fun _ same => same

theorem write_reads (platform : Platform) (id : RecordId) (source : PayloadSource) (maxBytes : Nat) :
    Ends s (PayloadStore.write platform id source maxBytes)
      (fun _ _ => ∃ content, PayloadStore.raw platform source = .ok content) fun _ => True := by
  cases read : PayloadStore.raw platform source with
  | ok content =>
      exact (write_rows platform id source maxBytes).consequence
        (fun _ _ _ => ⟨content, rfl⟩) fun _ _ => trivial
  | error error =>
      unfold PayloadStore.write
      rw [read]
      exact Ends.fail trivial

theorem insertWithSources_answers (platform : Platform) (record : CrashRecord) (retention : RetentionPolicy)
    (sourceKeys : List Str) (ingestedAtMs : I64) :
    Ends s (insertWithSources platform record retention sourceKeys ingestedAtMs)
      (fun inserted _ => inserted.record.id = s.newId record.happenedAtMs ∧
        inserted.group.groupId = record.groupId platform.sha256 ∧
        ∃ content, PayloadStore.raw platform record.payload = .ok content) fun _ => True := by
  refine Ends.bind (nextId_ends record.happenedAtMs) ?_
  rintro _ _ ⟨rfl, rfl⟩
  refine Ends.bind (write_reads platform _ _ _) ?_
  rintro written t read
  refine Ends.onError ((insertRows_answers platform _ record written sourceKeys ingestedAtMs).consequence
    (fun _ _ answers => ⟨answers.1, answers.2, read⟩) fun _ same => same) ?_
  rintro _ rfl
  exact (discard_rows written).consequence (fun _ _ _ => trivial) fun _ _ => trivial

end
end CrashCatcher.Store

namespace CrashCatcher.Daemon
open Lib Model Config Store Fallible

def Effect.about : Effect → Option RecordId
  | .crashRecorded inserted => some inserted.record.id
  | .configChanged | .setDebug _ => none
  | .startAlertActivity recordId _ _ => some recordId
  | .postNotification notification => some notification.recordId

def Effect.recorded : Effect → Option Inserted
  | .crashRecorded inserted => some inserted
  | .configChanged | .setDebug _ | .startAlertActivity _ _ _ | .postNotification _ => none

section
variable {s : StoreState}

theorem markAllIngested_exact (clock : Nat → I64) (sourceKeys : List Str) :
    Ends s (markAllIngested clock sourceKeys)
      (fun _ t => t = { s with db := s.db.markAll clock sourceKeys })
      fun t => t.ids = s.ids ∧ t.files = s.files ∧ Marks s.db t.db := by
  induction sourceKeys generalizing s clock with
  | nil => exact Ends.pure rfl
  | cons sourceKey rest ih =>
      refine Ends.bind ((markIngested_exact sourceKey (clock 0)).consequence (fun _ _ same => same) ?_) ?_
      · rintro _ rfl
        exact ⟨rfl, rfl, .refl _⟩
      · rintro _ _ rfl
        refine (ih fun reading => clock (reading + 1)).consequence (fun _ _ same => same) ?_
        rintro t ⟨ids, files, marks⟩
        exact ⟨ids, files, (marks_insertSource s.db _).trans marks⟩

end

structure Frame (state after : CoreState) : Prop where
  files : after.disk.files = state.disk.files
  packages : after.packages = state.packages
  cachedPackage : after.cachedPackage = state.cachedPackage
  volatileMutes : after.volatileMutes = state.volatileMutes

structure Announced (core : DaemonCore) (state : CoreState) (record : CrashRecord) (inserted : Inserted)
    (effects : List Effect) : Prop where
  id : inserted.record.id = state.world.store.newId record.happenedAtMs
  group : inserted.group.groupId = record.groupId core.platform.sha256
  readable : ∃ content, PayloadStore.raw core.platform record.payload = .ok content
  news : ∃ news, effects = state.effects ++ .crashRecorded inserted :: news ∧
    ∀ effect ∈ news, effect.about = some inserted.record.id ∧ effect.recorded = none

def Announces (core : DaemonCore) (state : CoreState) (record : CrashRecord) (effects : List Effect) :
    Option Inserted → Prop
  | none => effects = state.effects
  | some inserted => Announced core state record inserted effects

/-- A crash was stored with its sources, and a sweep followed that may have failed anywhere. -/
inductive Recorded (core : DaemonCore) (config : ConfigDocument) (s : StoreState) (record : CrashRecord)
    (sourceKeys : List Str) (clock : Nat → I64) (t : StoreState) : Prop
  | intro {written : Option WrittenPayload} {db : Database} {u : StoreState}
      (payload : WrittenFor (s.newId record.happenedAtMs) written)
      (ids : u.ids = s.nextIds record.happenedAtMs)
      (added : s.db.insertCrash (sightingOf core.platform record written)
        (rowOf core.platform s.db (s.newId record.happenedAtMs) record written) = some db)
      (rows : u.db = db.ingest sourceKeys (clock 0))
      (swept : ∃ faults, t =
        (trySweep (clock 1) config.global.retention { store := u, faults }).2.store)

/-- What a completed ingest of an enriched record did to the store, by the configuration it read. -/
inductive IngestOutcome (core : DaemonCore) (config : ConfigDocument) (s : StoreState) (record : CrashRecord)
    (sourceKeys : List Str) (clock : Nat → I64) : Option Inserted → StoreState → Prop
  | excluded (refused : admits config record = false) :
      IngestOutcome core config s record sourceKeys clock none
        { s with db := s.db.markAll clock sourceKeys }
  | folded {row : RecordRow} {adopted : Option WrittenPayload} {t : StoreState}
      (admitted : admits config record = true) (known : record.pid ≠ 0)
      (found : s.db.companion record (companionWindowMs record.kind).val = some row)
      (absent : adopted.isSome → row.payloadState = .absent)
      (written : WrittenFor (mapRecord row).id adopted) (ids : t.ids = s.ids)
      (files : row.payloadState ≠ .absent → t.files = s.files)
      (rows : t.db = (s.db.foldInto (mapRecord row) record adopted).ingest sourceKeys (clock 0)) :
      IngestOutcome core config s record sourceKeys clock none t
  | inserted {answer : Inserted} {t : StoreState} (admitted : admits config record = true)
      (unseen : record.pid ≠ 0 → s.db.companion record (companionWindowMs record.kind).val = none)
      (recorded : Recorded core config s record sourceKeys clock t) :
      IngestOutcome core config s record sourceKeys clock (some answer) t

structure Lost (record : CrashRecord) (s t : StoreState) : Prop where
  ids : t.ids = s.ids ∨ t.ids = s.nextIds record.happenedAtMs
  marks : Marks s.db t.db
  files : ∀ row, record.pid ≠ 0 → s.db.companion record (companionWindowMs record.kind).val = some row →
    row.payloadState ≠ .absent → t.files = s.files

theorem Lost.of_eq {record : CrashRecord} {s t : StoreState} (same : t = s) : Lost record s t where
  ids := .inl (congrArg StoreState.ids same)
  marks := .of_eq (congrArg StoreState.db same)
  files _ _ _ _ := congrArg StoreState.files same

theorem trySweep_never_fails (nowMs : I64) (retention : RetentionPolicy) (world : World)
    (error : StoreError) (after : World) : trySweep nowMs retention world ≠ (.error error, after) := by
  unfold trySweep recover
  intro failed
  split at failed <;> cases failed

theorem trySweep_always {s : StoreState} {nowMs : I64} {retention : RetentionPolicy}
    {kept : StoreState → Prop} (ends : Ends s (sweep nowMs retention) (fun _ => kept) kept)
    (faults : Nat → Option Nat) : kept (trySweep nowMs retention { store := s, faults }).2.store := by
  have swept : Ends s (do let _ ← sweep nowMs retention) (fun _ => kept) kept :=
    Ends.bind ends fun _ _ holds => Ends.pure holds
  have tried : Ends s (trySweep nowMs retention) (fun _ => kept) kept :=
    Holds.recover swept fun _ => Holds.pure fun _ holds => holds
  exact tried.always faults

section
variable {state : CoreState}

theorem alert_leaves (config : ConfigDocument) (record : CrashRecord) (inserted : Inserted)
    {failed : CoreState → Prop} :
    Leaves state (alert config record inserted)
      (fun _ after => ∃ news, after = state.setEffects (state.effects ++ news) ∧
        ∀ effect ∈ news, effect.about = some inserted.record.id ∧ effect.recorded = none)
      failed := by
  have performed : ∀ effect : Effect, effect.about = some inserted.record.id →
      effect.recorded = none → Leaves state (perform effect)
        (fun _ after => ∃ news, after = state.setEffects (state.effects ++ news) ∧
          ∀ effect ∈ news, effect.about = some inserted.record.id ∧ effect.recorded = none)
        failed := by
    intro effect about unrecorded
    refine .update ⟨[effect], rfl, fun one member => ?_⟩
    rw [List.mem_singleton.mp member]
    exact ⟨about, unrecorded⟩
  have quiet : Leaves state (pure () : CoreM Unit)
      (fun _ after => ∃ news, after = state.setEffects (state.effects ++ news) ∧
        ∀ effect ∈ news, effect.about = some inserted.record.id ∧ effect.recorded = none)
      failed := by
    refine .pure ⟨[], ?_, fun one member => by cases member⟩
    rw [List.append_nil]
    rfl
  refine .get_bind (.ite (fun _ => ?_) fun _ => quiet)
  cases config.effectiveNotifyMode record.packageName with
  | nothing => exact quiet
  | dialog =>
      apply performed
      · rfl
      · rfl
  | notification =>
      apply performed
      · rfl
      · rfl
  | toast =>
      apply performed
      · rfl
      · rfl

namespace DaemonCore
variable (self : DaemonCore)

theorem loadConfig_bind {α : Type} {f : ConfigDocument → CoreM α} {post : α → CoreState → Prop}
    {failed : CoreState → Prop} (lost : failed (state.setDisk state.disk.popFault))
    (next : ∀ config, self.configStore.parse state.disk.files = .ok config →
      Leaves (state.setDisk state.disk.popFault) (f config) post failed) :
    Leaves state (self.loadConfig >>= f) post failed := by
  intro before same
  obtain rfl : before = state := same
  rcases read : self.configStore.load before.disk with ⟨result, disk⟩
  cases result with
  | error error =>
      have loaded : self.loadConfig before = (.error (.config error), before.setDisk disk) := by
        unfold loadConfig onDisk zoom
        simp only [read]
      rw [bind_of_error loaded, ConfigStore.load_error read]
      exact lost
  | ok config =>
      obtain ⟨parsed, same⟩ := ConfigStore.load_ok read
      have loaded : self.loadConfig before = (.ok config, before.setDisk disk) := onDisk_of_ok read
      rw [bind_of_ok loaded, same]
      exact next config parsed _ rfl

theorem recordCrash_leaves (config : ConfigDocument) (record : CrashRecord) (sourceKeys : List Str)
    (clock : Nat → I64) :
    Leaves state (self.recordCrash config record sourceKeys clock)
      (fun inserted after => ∃ world effects, after = (state.setWorld world).setEffects effects ∧
        Announced self state record inserted effects ∧
        Recorded self config state.world.store record sourceKeys clock world.store)
      fun after => ∃ world, after = state.setWorld world ∧
        world.store.ids = state.world.store.nextIds record.happenedAtMs ∧
        world.store.db = state.world.store.db := by
  have inserts := (insertWithSources_exact (s := state.world.store) self.platform record
    config.global.retention sourceKeys (clock 0)).and
      (insertWithSources_answers self.platform record config.global.retention sourceKeys (clock 0))
  refine .onStore_bind inserts (fun world lost => ⟨world, rfl, lost.1⟩) ?_
  rintro inserted world ⟨⟨ids, written, db, payload, added, rows⟩, id, group, readable⟩
  refine .onStore_always (trySweep_never_fails _ _) fun _ swept ran => ?_
  refine .update_bind (.bind (alert_leaves config record inserted) ?_)
  rintro _ _ ⟨news, rfl, about⟩
  refine .pure ⟨swept, _, rfl, ⟨id, group, readable, news, ?_, about⟩,
    .intro payload ids added rows ⟨world.faults, ?_⟩⟩
  · exact List.append_assoc _ _ _
  have ran : trySweep (clock 1) config.global.retention world = (.ok (), swept) := ran
  rw [ran]

theorem ingest_leaves (record : CrashRecord) (sourceKeys : List Str) (clock : Nat → I64) :
    Leaves state (self.ingestWithSources record sourceKeys clock)
      (fun result after => Frame state after ∧
        Announces self state (enrichRecord state record) after.effects result ∧
        ∃ config, self.configStore.parse state.disk.files = .ok config ∧
          IngestOutcome self config state.world.store (enrichRecord state record) sourceKeys clock result
            after.world.store)
      fun after => Frame state after ∧ after.effects = state.effects ∧
        Lost (enrichRecord state record) state.world.store after.world.store := by
  refine .get_bind (self.loadConfig_bind ⟨⟨rfl, rfl, rfl, rfl⟩, rfl, .of_eq rfl⟩ fun config parsed => ?_)
  generalize enrichRecord state record = enriched
  refine .ite (fun admitted => ?_) fun refused => ?_
  · refine .onStore_bind (companionRecord_exact enriched _)
      (fun world same => ⟨⟨rfl, rfl, rfl, rfl⟩, rfl, .of_eq same⟩) ?_
    rintro found world ⟨unchanged, answered⟩
    have unchanged : world.store = state.world.store := unchanged
    cases found with
    | some existing =>
        have known : enriched.pid ≠ 0 := by
          intro zero
          rw [if_pos zero] at answered
          cases answered
        rw [if_neg known] at answered
        obtain ⟨row, found, rfl⟩ := Option.map_eq_some_iff.mp answered.symm
        have folds := (foldIntoRecord_exact (s := world.store) self.platform (mapRecord row) enriched
          config.global.retention sourceKeys (clock 0)).and
            (foldIntoRecord_files self.platform (mapRecord row) enriched config.global.retention sourceKeys
              (clock 0))
        refine .onStore_bind folds ?_ ?_
        · rintro lost ⟨⟨ids, rows⟩, files⟩
          rw [unchanged] at ids rows files
          refine ⟨⟨rfl, rfl, rfl, rfl⟩, rfl, .inl ids, .of_eq rows, fun other _ here present => files ?_⟩
          cases found.symm.trans here
          exact present
        · rintro _ folded ⟨⟨ids, adopted, absent, written, rows⟩, files⟩
          rw [unchanged] at ids rows files
          exact .pure ⟨⟨rfl, rfl, rfl, rfl⟩, rfl, config, parsed,
            .folded admitted known found absent written ids files rows⟩
    | none =>
        have unseen : enriched.pid ≠ 0 →
            state.world.store.db.companion enriched (companionWindowMs enriched.kind).val = none := by
          intro known
          rw [if_neg known] at answered
          exact Option.map_eq_none_iff.mp answered.symm
        refine .bind ((self.recordCrash_leaves config enriched sourceKeys clock).consequence
          (fun _ _ recorded => recorded) ?_) ?_
        · rintro _ ⟨lost, rfl, ids, rows⟩
          have ids : lost.store.ids = world.store.nextIds enriched.happenedAtMs := ids
          have rows : lost.store.db = world.store.db := rows
          rw [unchanged] at ids rows
          refine ⟨⟨rfl, rfl, rfl, rfl⟩, rfl, .inr ids, .of_eq rows, fun row known here => ?_⟩
          cases (unseen known).symm.trans here
        · rintro inserted _ ⟨swept, effects, rfl, announced, recorded⟩
          have recorded : Recorded self config world.store enriched sourceKeys clock swept.store := recorded
          rw [unchanged] at recorded
          have id : inserted.record.id = world.store.newId enriched.happenedAtMs := announced.id
          rw [unchanged] at id
          exact .pure ⟨⟨rfl, rfl, rfl, rfl⟩, ⟨id, announced.group, announced.readable, announced.news⟩,
            config, parsed, .inserted admitted unseen recorded⟩
  · refine .onStore_bind (markAllIngested_exact clock sourceKeys) ?_ ?_
    · rintro world ⟨ids, files, marks⟩
      exact ⟨⟨rfl, rfl, rfl, rfl⟩, rfl, .inl ids, marks, fun _ _ _ _ => files⟩
    · rintro _ world stored
      have stored : world.store = { state.world.store with
        db := state.world.store.db.markAll clock sourceKeys } := stored
      refine .pure ⟨⟨rfl, rfl, rfl, rfl⟩, rfl, config, parsed, ?_⟩
      show IngestOutcome self config state.world.store enriched sourceKeys clock none world.store
      rw [stored]
      exact .excluded (by simpa using refused)

section Completed
variable {record : CrashRecord} {sourceKeys : List Str} {clock : Nat → I64} {config : ConfigDocument}
variable {disk : Disk} {found : Option RecordSummary}

theorem ingest_stores {answer : Inserted} {stored : World}
    (read : self.configStore.load state.disk = (.ok config, disk))
    (admitted : admits config (enrichRecord state record) = true)
    (unseen : companionRecord (enrichRecord state record)
      (companionWindowMs (enrichRecord state record).kind).val state.world = (.ok none, state.world))
    (ran : insertWithSources self.platform (enrichRecord state record) config.global.retention sourceKeys
      (clock 0) state.world = (.ok answer, stored)) :
    ∃ effects, self.ingestWithSources record sourceKeys clock state = (.ok (some answer),
      ((state.setDisk disk).setWorld (trySweep (clock 1) config.global.retention stored).2).setEffects
        effects) := by
  rcases swept : trySweep (clock 1) config.global.retention stored with ⟨result, world⟩
  cases result with
  | error error => exact absurd swept (trySweep_never_fails _ _ _ _ _)
  | ok _ =>
      let record' := enrichRecord state record
      let reported := ((state.setDisk disk).setWorld world).setEffects
        (state.effects ++ [.crashRecorded answer])
      have alerts : Leaves reported (alert config record' answer)
          (fun _ after => ∃ effects, after = reported.setEffects effects) fun _ => False :=
        (alert_leaves config record' answer).consequence
          (fun _ _ ⟨news, same, _⟩ => ⟨_, same⟩) fun _ lost => lost
      obtain ⟨_, _, alerted, effects, rfl⟩ := alerts.completes
      have loaded : self.loadConfig state = (.ok config, state.setDisk disk) := onDisk_of_ok read
      have looked : onStore (companionRecord record' (companionWindowMs record'.kind).val)
          (state.setDisk disk) = (.ok none, state.setDisk disk) := onStore_of_ok unseen
      have inserts : onStore (insertWithSources self.platform record' config.global.retention sourceKeys
          (clock 0)) (state.setDisk disk) = (.ok answer, (state.setDisk disk).setWorld stored) :=
        onStore_of_ok ran
      have sweeps : onStore (trySweep (clock 1) config.global.retention)
          ((state.setDisk disk).setWorld stored) = (.ok (), (state.setDisk disk).setWorld world) :=
        onStore_of_ok swept
      have recorded : self.recordCrash config record' sourceKeys clock (state.setDisk disk) =
          (.ok answer, reported.setEffects effects) :=
        (bind_of_ok inserts).trans ((bind_of_ok sweeps).trans (bind_of_ok alerted))
      refine ⟨effects, (bind_of_ok loaded).trans ?_⟩
      rw [if_pos admitted]
      exact (bind_of_ok looked).trans (bind_of_ok recorded)

end Completed
end DaemonCore
end
end CrashCatcher.Daemon
