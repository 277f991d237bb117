import CrashCatcher.Store.Accounting

namespace CrashCatcher.Store
open Lib Model Config Fallible

section
variable (platform : Platform) {s : StoreState}

def FilesKept (s t : StoreState) : Prop :=
  ∀ row ∈ s.db.records.rows, ∀ path content, row.payloadPath = some path →
    s.files path = some content → t.files path = some content

/-- However the call fails, it leaves the rows and the referenced payload files as they were. -/
def InsertAtomic (s : StoreState) (record : CrashRecord) (retention : RetentionPolicy)
    (sourceKeys : List Str) (ingestedAtMs : I64) : Prop :=
  ∀ faults error after,
    insertWithSources platform record retention sourceKeys ingestedAtMs { store := s, faults } =
      (.error error, after) →
    after.store.db = s.db ∧ FilesKept s after.store

def IdTaken (s : StoreState) (atMs : I64) : Prop :=
  ∃ row ∈ s.db.records.rows, row.id = s.newId atMs ∧
    ∃ path content, row.payloadPath = some path ∧ s.files path = some content

theorem filesKept_of_touchedOnly {stores : Prop} {atMs : I64} {t : StoreState}
    (fits : s.ids.Fits) (kept : WellKept s.db)
    (touched : TouchedOnly stores (relativePathFor (s.newId atMs)) s t)
    (apart : ¬ (stores ∧ IdTaken s atMs)) : FilesKept s t := by
  intro row stored path content found present
  rcases touched with same | ⟨storing, content', same⟩
  · rwa [same]
  · have named := (kept.rows row stored).pathed path found
    by_cases clash : path = relativePathFor (s.newId atMs)
    · have next : (s.newId atMs).WellFormed :=
        RecordId.wellFormed_encode (RecordIdGenerator.value_lt (fits.advance _))
      have taken := relativePathFor_inj (kept.rows row stored).issued.wellFormed next
        (named.symm.trans clash)
      exact absurd ⟨storing, row, stored, taken, path, content, found, present⟩ apart
    · rw [same, Function.update_of_ne clash]
      exact present

theorem write_quiet_of_storable (id : RecordId) {source : PayloadSource} (maxBytes : Nat)
    (storable : Storable platform source) :
    ∃ payload content, payload.relativePath = relativePathFor id ∧
      PayloadStore.write platform id source maxBytes (quiet s) =
        (.ok (some payload), quiet (s.putFile (relativePathFor id) (some content))) := by
  obtain ⟨byte, rest, raw⟩ := storable
  have overwritten : ∀ content, (s.putFile (relativePathFor id) (some [])).putFile
      (relativePathFor id) (some content) = s.putFile (relativePathFor id) (some content) := by
    intro content
    simp [StoreState.putFile]
  refine ⟨{
    relativePath := relativePathFor id
    storedBytes := (platform.encodeAll (PayloadStore.capped (byte :: rest) maxBytes).1).length
    textBytes := (PayloadStore.capped (byte :: rest) maxBytes).1.length
    codec := .zstd
    state := (PayloadStore.capped (byte :: rest) maxBytes).2 },
    platform.encodeAll (PayloadStore.capped (byte :: rest) maxBytes).1, rfl, ?_⟩
  unfold PayloadStore.write
  rw [raw, ← overwritten]
  rfl

theorem insertRecord_eq_none {db : Database} {row : RecordRow}
    (taken : ∃ stored ∈ db.records.rows, stored.id = row.id) : db.insertRecord row = none := by
  unfold Database.insertRecord
  rw [Table.insert?_eq_none_iff.mpr taken]
  split <;> rfl

theorem insertRows_quiet_of_taken {id : RecordId} (record : CrashRecord)
    (written : Option WrittenPayload) (sourceKeys : List Str) (ingestedAtMs : I64)
    (taken : ∃ row ∈ s.db.records.rows, row.id = id) :
    insertRows platform id record written sourceKeys ingestedAtMs (quiet s) =
      (.error .sqlite, quiet s) := by
  have refused : ∀ group isRepeating, (s.db.upsertGroup group).insertRecord
      (newRecord id (record.groupId platform.sha256) record isRepeating written) = none := by
    intro group isRepeating
    apply insertRecord_eq_none
    rwa [Database.records_upsertGroup]
  unfold insertRows transaction undoing
  simp only [bind_run, attempt_quiet, query_quiet, write_quiet, execute_quiet, refused]
  rfl

theorem onError_quiet {α : Type} {m : StoreM α} {handler : StoreM Unit} {error : StoreError}
    {t u : StoreState} (failed : m (quiet s) = (.error error, quiet t))
    (handled : handler (quiet t) = (.ok (), quiet u)) :
    m.onError handler (quiet s) = (.error error, quiet u) := by
  unfold onError
  rw [failed]
  show (_, (handler (quiet t)).2) = _
  rw [handled]

theorem insertWithSources_quiet_of_taken (record : CrashRecord) (retention : RetentionPolicy)
    (sourceKeys : List Str) (ingestedAtMs : I64) (storable : Storable platform record.payload)
    (taken : ∃ row ∈ s.db.records.rows, row.id = s.newId record.happenedAtMs)
    (resolves : PayloadStore.resolve (relativePathFor (s.newId record.happenedAtMs))) :
    ∃ t : StoreState,
      insertWithSources platform record retention sourceKeys ingestedAtMs (quiet s) =
        (.error .sqlite, quiet t) ∧
      t.files (relativePathFor (s.newId record.happenedAtMs)) = none := by
  obtain ⟨before, issued, rows⟩ : ∃ before, nextId record.happenedAtMs (quiet s) =
      (.ok (s.newId record.happenedAtMs), quiet before) ∧ before.db = s.db := ⟨_, rfl, rfl⟩
  generalize s.newId record.happenedAtMs = id at *
  obtain ⟨payload, bytes, named, written⟩ := write_quiet_of_storable platform (s := before)
    id retention.maxPayloadBytesPerRecord storable
  have refused := insertRows_quiet_of_taken platform (s := before.putFile (relativePathFor id) (some bytes))
    record (some payload) sourceKeys ingestedAtMs (rows ▸ taken)
  have removed := deleteFile_quiet (s := before.putFile (relativePathFor id) (some bytes)) resolves
  have discarded : discard (some payload) (quiet (before.putFile (relativePathFor id) (some bytes))) =
      (.ok (), quiet ((before.putFile (relativePathFor id) (some bytes)).putFile
        (relativePathFor id) none)) := by
    show PayloadStore.delete payload.relativePath _ = _
    rw [named]
    exact removed
  have run : insertWithSources platform record retention sourceKeys ingestedAtMs (quiet s) =
      (.error .sqlite, quiet ((before.putFile (relativePathFor id) (some bytes)).putFile
        (relativePathFor id) none)) := by
    unfold insertWithSources
    rw [bind_run, issued]
    simp only [bind_run, written]
    exact onError_quiet refused discarded
  exact ⟨_, run, Function.update_self _ _ _⟩

/-- An insert is atomic exactly when it stores no payload or its id is not taken by a record with
a payload file. -/
theorem insert_atomic_iff (reachable : Reachable platform s) (record : CrashRecord)
    (retention : RetentionPolicy) (sourceKeys : List Str) (ingestedAtMs : I64) :
    InsertAtomic platform s record retention sourceKeys ingestedAtMs ↔
      ¬ (Storable platform record.payload ∧ IdTaken s record.happenedAtMs) := by
  obtain ⟨fits, kept⟩ := reachable.kept
  constructor
  · rintro atomic ⟨storable, row, stored, taken, path, content, found, present⟩
    have named := (kept.rows row stored).pathed path found
    have resolves := resolve_of_kept kept stored found
    rw [named, taken] at resolves
    obtain ⟨t, run, gone⟩ := insertWithSources_quiet_of_taken platform record retention sourceKeys
      ingestedAtMs storable ⟨row, stored, taken⟩ resolves
    have spared := (atomic noFaults .sqlite _ run).2 row stored path content found present
    rw [named, taken] at spared
    exact absurd (spared.symm.trans gone) (Option.some_ne_none content)
  · intro apart faults error after run
    have ends := insertWithSources_ends platform fits record retention sourceKeys ingestedAtMs
    obtain ⟨_, db, touched⟩ := ends.error rfl run
    exact ⟨db, filesKept_of_touchedOnly fits kept touched apart⟩

end

theorem first_insert_atomic :
    InsertAtomic plainPlatform .empty oneByteCrash {} [] 0 :=
  (insert_atomic_iff plainPlatform .empty oneByteCrash {} [] 0).mpr fun ⟨_, _, stored, _⟩ => nomatch stored

def crashAt (atMs : I64) : CrashRecord := { oneByteCrash with happenedAtMs := atMs }

def insertedAt (times : List I64) : StoreState :=
  (times.map fun atMs => Op.insert (crashAt atMs) {} [] 0).foldl (quietStep plainPlatform) .empty

theorem reachable_foldl (platform : Platform) {s : StoreState} (reachable : Reachable platform s)
    (ops : List Op) : Reachable platform (ops.foldl (quietStep platform) s) := by
  induction ops generalizing s with
  | nil => exact reachable
  | cons op rest ih => exact ih (.step op noFaults reachable)

/-- The clock wraps at `2 ^ 48`, so the fifth crash gets the id of the first; its insert fails and
takes the first crash's payload file along. -/
theorem refused_insert_removes_a_payload :
    ∃ s, Reachable plainPlatform s ∧
      ¬ InsertAtomic plainPlatform s (crashAt (281474976710656)) {} [] 0 := by
  let s := insertedAt [0, 5, 281474976710656]
  let path := relativePathFor (s.newId 281474976710656)
  refine ⟨s, reachable_foldl plainPlatform .empty _, fun atomic => ?_⟩
  have clash : ∃ row ∈ s.db.records.rows, row.id = s.newId 281474976710656 ∧
      row.payloadPath = some path ∧ s.files path = some [0] := by decide +kernel
  have resolves : PayloadStore.resolve path := by decide +kernel
  obtain ⟨row, stored, taken, found, present⟩ := clash
  obtain ⟨t, run, gone⟩ := insertWithSources_quiet_of_taken plainPlatform (s := s)
    (crashAt 281474976710656) {} [] 0 ⟨0, [], rfl⟩ ⟨row, stored, taken⟩ resolves
  have spared := (atomic noFaults .sqlite _ run).2 row stored path [0] found present
  exact absurd (spared.symm.trans gone) (Option.some_ne_none _)

end CrashCatcher.Store
