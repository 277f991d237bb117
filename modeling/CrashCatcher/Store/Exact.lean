import CrashCatcher.Store.Invariant

namespace CrashCatcher.Store
open Lib Model Config Fallible

/-! What calls that succeed did, whatever else failed around them. -/

namespace Database

def ingest (db : Database) (sourceKeys : List Str) (ingestedAtMs : I64) : Database :=
  sourceKeys.foldl (fun db sourceKey => db.insertSource { sourceKey, ingestedAtMs }) db

theorem ingest_rows (db : Database) (sourceKeys : List Str) (ingestedAtMs : I64) :
    (db.ingest sourceKeys ingestedAtMs).groups = db.groups ∧
      (db.ingest sourceKeys ingestedAtMs).records = db.records := by
  induction sourceKeys generalizing db with
  | nil => exact ⟨rfl, rfl⟩
  | cons sourceKey rest ih =>
      have first := insertSource_rows db { sourceKey, ingestedAtMs }
      have later := ih (db.insertSource { sourceKey, ingestedAtMs })
      exact ⟨later.1.trans first.1, later.2.trans first.2⟩

def foldInto (db : Database) (existing : RecordSummary) (record : CrashRecord)
    (adopted : Option WrittenPayload) : Database :=
  let db := db.foldSources existing.id (existing.sources.union record.sources)
  match adopted with
  | none => db
  | some adopted => db.adoptPayload existing.id existing.groupId adopted

end Database

def RecordRow.folded (sources : SourceMask) (adopted : Option WrittenPayload) (row : RecordRow) : RecordRow :=
  match adopted with
  | none => row.setSources sources
  | some adopted => (row.setSources sources).adopt adopted

namespace Database

theorem foldInto_rows (db : Database) (existing : RecordSummary) (record : CrashRecord)
    (adopted : Option WrittenPayload) :
    (db.foldInto existing record adopted).records.rows = db.records.rows.map fun row =>
      if row.id = existing.id then row.folded (existing.sources.union record.sources) adopted else row := by
  cases adopted with
  | none =>
      refine List.map_congr_left fun row _ => ?_
      simp only [decide_eq_true_eq]
      rfl
  | some adopted =>
      refine (List.map_map ..).trans (List.map_congr_left fun row _ => ?_)
      by_cases hit : row.id = existing.id
      · simp [hit, RecordRow.setSources, RecordRow.folded]
      · simp [hit]

theorem foldInto_groups (db : Database) (existing : RecordSummary) (record : CrashRecord)
    (adopted : Option WrittenPayload) :
    ∃ bytes, (db.foldInto existing record adopted).groups.rows = db.groups.rows.map fun group =>
      if group.groupId = existing.groupId then group.addBytes bytes else group := by
  cases adopted with
  | none =>
      refine ⟨0, (List.map_id'' (fun group => ?_) _).symm⟩
      split <;> rfl
  | some adopted =>
      refine ⟨adopted.storedBytes, List.map_congr_left fun group _ => ?_⟩
      simp only [decide_eq_true_eq]

end Database

section
variable (platform : Platform) {s : StoreState}

def sightingOf (record : CrashRecord) (written : Option WrittenPayload) : GroupSummary :=
  newGroup (record.groupId platform.sha256) record ((written.map (·.storedBytes)).getD 0)

def rowOf (db : Database) (id : RecordId) (record : CrashRecord) (written : Option WrittenPayload) :
    RecordRow :=
  newRecord id (record.groupId platform.sha256) record
    (!(db.groups.find? (record.groupId platform.sha256)).isNone) written

theorem insertSources_exact (sourceKeys : List Str) (ingestedAtMs : I64) :
    Ends s (insertSources sourceKeys ingestedAtMs)
      (fun _ t => t = { s with db := s.db.ingest sourceKeys ingestedAtMs })
      fun t => t.ids = s.ids ∧ t.files = s.files := by
  let inv (rest : List Str) (t : StoreState) : Prop := t.ids = s.ids ∧ t.files = s.files ∧
    t.db.ingest rest ingestedAtMs = s.db.ingest sourceKeys ingestedAtMs
  have marked : Ends s (insertSources sourceKeys ingestedAtMs) (fun _ t => inv [] t)
      fun t => t.ids = s.ids ∧ t.files = s.files :=
    Ends.forM inv ⟨rfl, rfl, rfl⟩ fun sourceKey rest t same => Ends.write ⟨same.1, same.2.1⟩ same
  refine marked.consequence ?_ fun _ lost => lost
  rintro _ t ⟨ids, files, same⟩
  cases t
  cases ids
  cases files
  cases same
  rfl

/-- An insert that succeeds adds its rows and its keys; one that fails changes no row. -/
theorem insertRows_exact (id : RecordId) (record : CrashRecord) (written : Option WrittenPayload)
    (sourceKeys : List Str) (ingestedAtMs : I64) :
    Ends s (insertRows platform id record written sourceKeys ingestedAtMs)
      (fun _ t => ∃ db, s.db.insertCrash (sightingOf platform record written)
          (rowOf platform s.db id record written) = some db ∧
        t = { s with db := db.ingest sourceKeys ingestedAtMs })
      fun t => t = s := by
  refine Ends.transaction ?_ ?_ rfl
  · rintro _ _ ⟨_, _, rfl⟩
    exact ⟨rfl, rfl⟩
  · refine Ends.query_bind ⟨rfl, rfl⟩ (Ends.write_bind ⟨rfl, rfl⟩ ?_)
    refine Ends.execute_bind ⟨rfl, rfl⟩ fun _ db inserted => ?_
    rw [Option.map_eq_some_iff] at inserted
    obtain ⟨_, inserted, same⟩ := inserted
    cases same
    refine Ends.querySome_bind ⟨rfl, rfl⟩ fun group _ => ?_
    refine Ends.querySome_bind ⟨rfl, rfl⟩ fun stored _ => ?_
    refine Ends.bind (insertSources_exact sourceKeys ingestedAtMs) ?_
    rintro _ _ rfl
    exact Ends.pure ⟨db, inserted, rfl⟩

theorem discard_rows (written : Option WrittenPayload) :
    Ends s (discard written) (fun _ t => t.ids = s.ids ∧ t.db = s.db)
      fun t => t.ids = s.ids ∧ t.db = s.db := by
  cases written with
  | none => exact Ends.pure ⟨rfl, rfl⟩
  | some payload =>
      refine (Ends.deleteFile ⟨rfl, rfl⟩).consequence ?_ fun _ lost => lost
      rintro _ _ rfl
      exact ⟨rfl, rfl⟩

theorem write_rows (id : RecordId) (source : PayloadSource) (maxBytes : Nat) :
    Ends s (PayloadStore.write platform id source maxBytes)
      (fun written t => t.ids = s.ids ∧ t.db = s.db ∧ WrittenFor id written)
      fun t => t.ids = s.ids ∧ t.db = s.db := by
  refine (write_ends platform id source maxBytes).consequence ?_ ?_
  · rintro written t (⟨rfl, rfl⟩ | ⟨payload, content, rfl, -, path, readable, rfl⟩)
    · exact ⟨rfl, rfl, .none⟩
    · refine ⟨rfl, rfl, fun other same => ?_⟩
      cases same
      exact ⟨path, readable⟩
  · rintro t (rfl | ⟨-, content, rfl⟩) <;> exact ⟨rfl, rfl⟩

theorem insertWithSources_exact (record : CrashRecord) (retention : RetentionPolicy)
    (sourceKeys : List Str) (ingestedAtMs : I64) :
    Ends s (insertWithSources platform record retention sourceKeys ingestedAtMs)
      (fun _ t => t.ids = s.nextIds record.happenedAtMs ∧
        ∃ written db, WrittenFor (s.newId record.happenedAtMs) written ∧
          s.db.insertCrash (sightingOf platform record written)
            (rowOf platform s.db (s.newId record.happenedAtMs) record written) = some db ∧
          t.db = db.ingest sourceKeys ingestedAtMs)
      fun t => t.ids = s.nextIds record.happenedAtMs ∧ t.db = s.db := by
  refine Ends.bind (nextId_ends record.happenedAtMs) ?_
  rintro _ _ ⟨rfl, rfl⟩
  refine Ends.bind (write_rows platform _ _ _) ?_
  rintro written t ⟨ids, rows, writtenFor⟩
  refine Ends.onError ((insertRows_exact platform _ record written sourceKeys
    ingestedAtMs).consequence ?_ fun _ lost => lost) ?_
  · rintro _ _ ⟨db, inserted, rfl⟩
    rw [rows] at inserted
    exact ⟨ids, written, db, writtenFor, inserted, rfl⟩
  · rintro _ rfl
    refine (discard_rows written).consequence ?_ ?_
    · rintro _ u ⟨ids', rows'⟩
      exact ⟨ids'.trans ids, rows'.trans rows⟩
    · rintro u ⟨ids', rows'⟩
      exact ⟨ids'.trans ids, rows'.trans rows⟩

theorem foldRows_exact (existing : RecordSummary) (record : CrashRecord)
    (adopted : Option WrittenPayload) (sourceKeys : List Str) (ingestedAtMs : I64) :
    Ends s (foldRows existing record adopted sourceKeys ingestedAtMs)
      (fun _ t => t = { s with db :=
        (s.db.foldInto existing record adopted).ingest sourceKeys ingestedAtMs })
      fun t => t = s := by
  refine Ends.transaction ?_ ?_ rfl
  · rintro _ _ rfl
    exact ⟨rfl, rfl⟩
  have rest : ∀ t : StoreState, t.ids = s.ids → t.files = s.files → Ends t (do
      insertSources sourceKeys ingestedAtMs
      let folded ← querySome fun db => db.records.find? existing.id
      pure folded.toRecordSummary)
      (fun _ u => u = { s with db := t.db.ingest sourceKeys ingestedAtMs })
      fun u => u.ids = s.ids ∧ u.files = s.files := by
    intro t ids files
    refine Ends.bind ((insertSources_exact sourceKeys ingestedAtMs).consequence (fun _ _ h => h) ?_) ?_
    · rintro u ⟨ids', files'⟩
      exact ⟨ids'.trans ids, files'.trans files⟩
    · rintro _ _ rfl
      refine Ends.querySome_bind ⟨ids, files⟩ fun _ _ => Ends.pure ?_
      rw [← ids, ← files]
  refine Ends.write_bind ⟨rfl, rfl⟩ ?_
  cases adopted with
  | none => exact rest _ rfl rfl
  | some adopted => exact Ends.write_bind ⟨rfl, rfl⟩ (Ends.write_bind ⟨rfl, rfl⟩ (rest _ rfl rfl))

theorem foldIntoRecord_exact (existing : RecordSummary) (record : CrashRecord)
    (retention : RetentionPolicy) (sourceKeys : List Str) (ingestedAtMs : I64) :
    Ends s (foldIntoRecord platform existing record retention sourceKeys ingestedAtMs)
      (fun _ t => t.ids = s.ids ∧ ∃ adopted,
        (adopted.isSome → existing.payloadState = .absent) ∧ WrittenFor existing.id adopted ∧
        t.db = (s.db.foldInto existing record adopted).ingest sourceKeys ingestedAtMs)
      fun t => t.ids = s.ids ∧ t.db = s.db := by
  have adopts : Ends s (adoptPayload platform existing record retention)
      (fun adopted t => t.ids = s.ids ∧ t.db = s.db ∧ WrittenFor existing.id adopted ∧
        (adopted.isSome → existing.payloadState = .absent))
      fun t => t.ids = s.ids ∧ t.db = s.db := by
    refine Ends.ite (fun absent => ?_) fun _ => Ends.pure ⟨rfl, rfl, .none, nofun⟩
    refine (write_rows platform _ _ _).consequence ?_ fun _ lost => lost
    rintro written t ⟨ids, rows, writtenFor⟩
    exact ⟨ids, rows, writtenFor, fun _ => absent⟩
  refine Ends.bind adopts ?_
  rintro adopted t ⟨ids, rows, writtenFor, absent⟩
  refine Ends.onError ((foldRows_exact existing record adopted sourceKeys
    ingestedAtMs).consequence ?_ fun _ lost => lost) ?_
  · rintro _ _ rfl
    exact ⟨ids, adopted, absent, writtenFor, by rw [rows]⟩
  · rintro _ rfl
    refine (discard_rows adopted).consequence ?_ ?_
    · rintro _ u ⟨ids', rows'⟩
      exact ⟨ids'.trans ids, rows'.trans rows⟩
    · rintro u ⟨ids', rows'⟩
      exact ⟨ids'.trans ids, rows'.trans rows⟩

end
end CrashCatcher.Store
