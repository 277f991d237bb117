import CrashCatcher.Store.Moves

namespace CrashCatcher.Store
open Lib Model Config Fallible Relation

def Storable (platform : Platform) (source : PayloadSource) : Prop :=
  ∃ byte rest, PayloadStore.raw platform source = .ok (byte :: rest)

def StoreState.putFile (s : StoreState) (path : Str) (content : Option (List UInt8)) : StoreState :=
  { s with files := Function.update s.files path content }

@[simp] theorem putFile_db (s : StoreState) (path : Str) (content : Option (List UInt8)) :
    (s.putFile path content).db = s.db := rfl

@[simp] theorem putFile_ids (s : StoreState) (path : Str) (content : Option (List UInt8)) :
    (s.putFile path content).ids = s.ids := rfl

theorem capped_readable (raw : List UInt8) (maxBytes : Nat) :
    (PayloadStore.capped raw maxBytes).2.isReadable := by
  unfold PayloadStore.capped
  split <;> rfl

section
variable (platform : Platform) {s : StoreState}

theorem write_ends (id : RecordId) (source : PayloadSource) (maxBytes : Nat) :
    Ends s (PayloadStore.write platform id source maxBytes)
      (fun written t => written = none ∧ t = s ∨
        ∃ payload content, written = some payload ∧ Storable platform source ∧
          payload.relativePath = relativePathFor id ∧ payload.state.isReadable ∧
          t = s.putFile (relativePathFor id) (some content))
      fun t => t = s ∨ Storable platform source ∧
        ∃ content, t = s.putFile (relativePathFor id) (some content) := by
  unfold PayloadStore.write
  cases source' : PayloadStore.raw platform source with
  | error e => exact Ends.fail (Or.inl rfl)
  | ok raw =>
      cases raw with
      | nil => exact Ends.pure (Or.inl ⟨rfl, rfl⟩)
      | cons byte rest =>
          have storable : Storable platform source := ⟨byte, rest, source'⟩
          have overwritten : ∀ t content, (StoreState.putFile t (relativePathFor id) (some [])).putFile
              (relativePathFor id) (some content) = t.putFile (relativePathFor id) (some content) := by
            intro t content
            simp [StoreState.putFile]
          refine Ends.attempt_bind (Or.inl rfl) (Ends.attempt_bind (Or.inl rfl) ?_)
          refine Ends.bind (Ends.createFile (Or.inl rfl)) ?_
          rintro _ t rfl
          refine Ends.bind (Ends.writeAll fun n => Or.inr ⟨storable, _, overwritten s _⟩) ?_
          rintro _ t rfl
          exact Ends.pure (Or.inr ⟨_, _, rfl, storable, rfl, capped_readable _ _, overwritten s _⟩)

structure SameRows (s t : StoreState) : Prop where
  ids : t.ids = s.ids
  files : t.files = s.files
  moves : Moves s.db t.db
  groups : t.db.groups = s.db.groups
  records : t.db.records = s.db.records

theorem SameRows.refl (s : StoreState) : SameRows s s := ⟨rfl, rfl, .refl, rfl, rfl⟩

theorem insertSource_rows (db : Database) (row : SourceRow) :
    (db.insertSource row).groups = db.groups ∧ (db.insertSource row).records = db.records := by
  unfold Database.insertSource
  split <;> exact ⟨rfl, rfl⟩

theorem insertSources_ends (sourceKeys : List Str) (ingestedAtMs : I64) :
    Ends s (insertSources sourceKeys ingestedAtMs) (fun _ t => SameRows s t)
      fun t => t.ids = s.ids ∧ t.files = s.files := by
  refine Ends.forM (fun _ t => SameRows s t) (SameRows.refl s) fun sourceKey rest t same => ?_
  have rows := insertSource_rows t.db { sourceKey, ingestedAtMs }
  refine Ends.write ⟨same.ids, same.files⟩ ⟨same.ids, same.files, ?_, ?_, ?_⟩
  · exact same.moves.tail (.ingestSource _)
  · exact rows.1.trans same.groups
  · exact rows.2.trans same.records

theorem insertRows_ends (id : RecordId) (record : CrashRecord) (written : Option WrittenPayload)
    (sourceKeys : List Str) (ingestedAtMs : I64) :
    Ends s (insertRows platform id record written sourceKeys ingestedAtMs)
      (fun _ t => ∃ isRepeating db,
        s.db.insertCrash
          (newGroup (record.groupId platform.sha256) record ((written.map (·.storedBytes)).getD 0))
          (newRecord id (record.groupId platform.sha256) record isRepeating written) = some db ∧
        SameRows { s with db } t)
      fun t => t = s := by
  refine Ends.transaction ?_ ?_ rfl
  · rintro _ t ⟨_, _, _, same⟩
    exact ⟨same.ids, same.files⟩
  · refine Ends.query_bind ⟨rfl, rfl⟩ (Ends.write_bind ⟨rfl, rfl⟩ ?_)
    refine Ends.execute_bind ⟨rfl, rfl⟩ fun _ db inserted => ?_
    rw [Option.map_eq_some_iff] at inserted
    obtain ⟨_, inserted, same⟩ := inserted
    cases same
    refine Ends.querySome_bind ⟨rfl, rfl⟩ fun group _ => ?_
    refine Ends.querySome_bind ⟨rfl, rfl⟩ fun stored _ => ?_
    refine Ends.bind (insertSources_ends sourceKeys ingestedAtMs) fun _ t same => ?_
    exact Ends.pure ⟨_, db, inserted, same⟩

theorem nextId_ends {failed : StoreState → Prop} (atMs : I64) :
    Ends s (nextId atMs)
      (fun id t => id = RecordId.encode (s.ids.advance atMs.val.toNat).value ∧
        t = { s with ids := s.ids.advance atMs.val.toNat }) failed := by
  rintro world rfl
  exact ⟨rfl, rfl⟩

def TouchedOnly (stores : Prop) (path : Str) (s t : StoreState) : Prop :=
  t.files = s.files ∨ stores ∧ ∃ content, t.files = Function.update s.files path content

theorem discard_ends {stores : Prop} {id : RecordId} {written : Option WrittenPayload}
    {t : StoreState} (writtenFor : WrittenFor id written)
    (touched : TouchedOnly stores (relativePathFor id) s t)
    (creates : written.isSome → stores) :
    Ends t (discard written)
      (fun _ t' => t'.db = t.db ∧ t'.ids = t.ids ∧ TouchedOnly stores (relativePathFor id) s t')
      fun t' => t'.db = t.db ∧ t'.ids = t.ids ∧ TouchedOnly stores (relativePathFor id) s t' := by
  cases written with
  | none => exact Ends.pure ⟨rfl, rfl, touched⟩
  | some payload =>
      refine (Ends.deleteFile ⟨rfl, rfl, touched⟩).consequence ?_ fun _ h => h
      rintro _ t' rfl
      refine ⟨rfl, rfl, Or.inr ⟨creates rfl, none, ?_⟩⟩
      rw [(writtenFor payload rfl).1]
      rcases touched with same | ⟨_, content, same⟩
      · simp only [same]
      · simp only [same, Function.update_idem]

def StoreState.nextIds (s : StoreState) (atMs : I64) : RecordIdGenerator :=
  s.ids.advance atMs.val.toNat

def StoreState.newId (s : StoreState) (atMs : I64) : RecordId :=
  RecordId.encode (s.nextIds atMs).value

theorem insertWithSources_ends (fits : s.ids.Fits) (record : CrashRecord)
    (retention : RetentionPolicy) (sourceKeys : List Str) (ingestedAtMs : I64) :
    Ends s (insertWithSources platform record retention sourceKeys ingestedAtMs)
      (fun _ t => t.ids = s.nextIds record.happenedAtMs ∧ Moves s.db t.db)
      fun t => t.ids = s.nextIds record.happenedAtMs ∧ t.db = s.db ∧
        TouchedOnly (Storable platform record.payload)
          (relativePathFor (s.newId record.happenedAtMs)) s t := by
  refine Ends.bind (nextId_ends record.happenedAtMs) ?_
  rintro _ t ⟨rfl, rfl⟩
  refine Ends.bind ((write_ends platform _ _ _).consequence (fun _ _ h => h) ?_) ?_
  · rintro t (rfl | ⟨storable, content, rfl⟩)
    · exact ⟨rfl, rfl, Or.inl rfl⟩
    · exact ⟨rfl, rfl, Or.inr ⟨storable, _, rfl⟩⟩
  · intro written t wrote
    have issued : Issued (s.newId record.happenedAtMs) := ⟨_, fits.advance _, rfl⟩
    have writtenFor : WrittenFor (s.newId record.happenedAtMs) written := by
      rcases wrote with ⟨rfl, _⟩ | ⟨payload, content, rfl, _, path, readable, _⟩
      · intro payload h
        cases h
      · intro payload h
        cases h
        exact ⟨path, readable⟩
    have creates : written.isSome → Storable platform record.payload := by
      rcases wrote with ⟨rfl, _⟩ | ⟨_, _, rfl, storable, _⟩
      · exact fun h => by cases h
      · exact fun _ => storable
    have before : t.ids = s.nextIds record.happenedAtMs ∧ t.db = s.db ∧
        TouchedOnly (Storable platform record.payload)
          (relativePathFor (s.newId record.happenedAtMs)) s t := by
      rcases wrote with ⟨_, rfl⟩ | ⟨_, content, _, storable, _, _, rfl⟩
      · exact ⟨rfl, rfl, Or.inl rfl⟩
      · exact ⟨rfl, rfl, Or.inr ⟨storable, _, rfl⟩⟩
    obtain ⟨ids, db, touched⟩ := before
    refine Ends.onError ((insertRows_ends platform _ record written sourceKeys
      ingestedAtMs).consequence ?_ fun _ h => h) ?_
    · rintro _ t' ⟨isRepeating, db', inserted, same⟩
      rw [db] at inserted
      have moved : Move s.db db' := .insert issued writtenFor inserted
      exact ⟨same.ids.trans ids, (ReflTransGen.single moved).trans same.moves⟩
    · rintro _ rfl
      refine (discard_ends writtenFor touched creates).consequence ?_ ?_
      · rintro _ _ ⟨db', ids', touched'⟩
        exact ⟨ids'.trans ids, db'.trans db, touched'⟩
      · rintro _ ⟨db', ids', touched'⟩
        exact ⟨ids'.trans ids, db'.trans db, touched'⟩

theorem foldRows_ends {row : RecordRow} (stored : row ∈ s.db.records.rows) (record : CrashRecord)
    {adopted : Option WrittenPayload} (writtenFor : WrittenFor row.id adopted)
    (absent : adopted.isSome → row.payloadState = .absent) (sourceKeys : List Str)
    (ingestedAtMs : I64) :
    Ends s (foldRows row.toRecordSummary record adopted sourceKeys ingestedAtMs)
      (fun _ t => t.ids = s.ids ∧ t.files = s.files ∧ Moves s.db t.db) fun t => t = s := by
  refine Ends.transaction (fun _ t h => ⟨h.1, h.2.1⟩) ?_ rfl
  refine Ends.write_bind ⟨rfl, rfl⟩ ?_
  have folded : Move s.db (s.db.foldSources row.id (row.sources.union record.sources)) :=
    .foldSources _ _
  have rest : ∀ t : StoreState, t.ids = s.ids → t.files = s.files → Moves s.db t.db →
      Ends t (do
        insertSources sourceKeys ingestedAtMs
        let folded ← querySome fun db => db.records.find? row.id
        pure folded.toRecordSummary)
        (fun _ t => t.ids = s.ids ∧ t.files = s.files ∧ Moves s.db t.db)
        fun t => t.ids = s.ids ∧ t.files = s.files := by
    intro t ids files moves
    refine Ends.bind ((insertSources_ends sourceKeys ingestedAtMs).consequence
      (fun _ _ h => h) ?_) ?_
    · rintro t' ⟨ids', files'⟩
      exact ⟨ids'.trans ids, files'.trans files⟩
    · intro _ t' same
      refine Ends.querySome_bind ⟨same.ids.trans ids, same.files.trans files⟩ fun _ _ => ?_
      exact Ends.pure ⟨same.ids.trans ids, same.files.trans files, moves.trans same.moves⟩
  cases adopted with
  | none =>
      exact rest _ rfl rfl (.single folded)
  | some adopted =>
      refine Ends.write_bind ⟨rfl, rfl⟩ (Ends.write_bind ⟨rfl, rfl⟩ ?_)
      have kept : row.setSources (row.sources.union record.sources) ∈
          (s.db.foldSources row.id (row.sources.union record.sources)).records.rows :=
        List.mem_map.mpr ⟨row, stored, by simp⟩
      have filled := Move.adopt kept (absent rfl) writtenFor
      exact rest { s with db := _ } rfl rfl (.tail (.single folded) filled)

theorem WrittenFor.none {id : RecordId} : WrittenFor id none := nofun

theorem adoptPayload_ends (row : RecordRow) (record : CrashRecord) (retention : RetentionPolicy) :
    Ends s (adoptPayload platform row.toRecordSummary record retention)
      (fun adopted t => t.ids = s.ids ∧ t.db = s.db ∧ WrittenFor row.id adopted ∧
        (adopted.isSome → row.payloadState = .absent ∧ Storable platform record.payload) ∧
        TouchedOnly (Storable platform record.payload) (relativePathFor row.id) s t)
      fun t => t.ids = s.ids ∧ t.db = s.db := by
  refine Ends.ite (fun absent => ?_) fun _ => ?_
  · refine (write_ends platform _ _ _).consequence ?_ ?_
    · rintro written t (⟨rfl, rfl⟩ | ⟨payload, content, rfl, storable, path, readable, rfl⟩)
      · exact ⟨rfl, rfl, .none, nofun, Or.inl rfl⟩
      · refine ⟨rfl, rfl, fun _ h => ?_, fun _ => ⟨absent, storable⟩, Or.inr ⟨storable, _, rfl⟩⟩
        cases h
        exact ⟨path, readable⟩
    · rintro t (rfl | ⟨_, _, rfl⟩) <;> exact ⟨rfl, rfl⟩
  · exact Ends.pure ⟨rfl, rfl, .none, nofun, Or.inl rfl⟩

theorem foldIntoRecord_ends {row : RecordRow} (stored : row ∈ s.db.records.rows)
    (record : CrashRecord) (retention : RetentionPolicy) (sourceKeys : List Str)
    (ingestedAtMs : I64) :
    Ends s (foldIntoRecord platform row.toRecordSummary record retention sourceKeys ingestedAtMs)
      (fun _ t => t.ids = s.ids ∧ Moves s.db t.db) fun t => t.ids = s.ids ∧ t.db = s.db := by
  refine Ends.bind (adoptPayload_ends platform row record retention) ?_
  rintro adopted t ⟨ids, db, writtenFor, absent, touched⟩
  have stored' : row ∈ t.db.records.rows := db ▸ stored
  refine Ends.onError ((foldRows_ends stored' record writtenFor (fun h => (absent h).1) sourceKeys
    ingestedAtMs).consequence ?_ fun _ h => h) ?_
  · rintro _ t' ⟨ids', _, moves⟩
    exact ⟨ids'.trans ids, db ▸ moves⟩
  · rintro _ rfl
    refine (discard_ends writtenFor touched fun h => (absent h).2).consequence ?_ ?_
    · rintro _ _ ⟨db', ids', _⟩
      exact ⟨ids'.trans ids, db'.trans db⟩
    · rintro _ ⟨db', ids', _⟩
      exact ⟨ids'.trans ids, db'.trans db⟩

theorem deleteFiles_ends (paths : List Str) :
    Ends s (paths.forM PayloadStore.delete)
      (fun _ t => t.ids = s.ids ∧ t.db = s.db) fun t => t.ids = s.ids ∧ t.db = s.db := by
  refine Ends.forM (fun _ t => t.ids = s.ids ∧ t.db = s.db) ⟨rfl, rfl⟩ fun path rest t same => ?_
  refine (Ends.deleteFile same).consequence ?_ fun _ h => h
  rintro _ t' rfl
  exact same

structure Pending (db : Database) (rows : List RecordRow) : Prop where
  stored : ∀ row ∈ rows, row ∈ db.records.rows
  distinct : (rows.map (·.id)).Nodup

theorem Pending.filter {db : Database} (selects : RecordRow → Bool) :
    Pending db (db.records.rows.filter selects) where
  stored _ h := List.mem_of_mem_filter h
  distinct := db.records.distinct.sublist (List.filter_sublist.map _)

theorem Pending.head_ne {db : Database} {row other : RecordRow} {rest : List RecordRow}
    (pending : Pending db (row :: rest)) (h : other ∈ rest) : other.id ≠ row.id := by
  have distinct := pending.distinct
  rw [List.map_cons, List.nodup_cons] at distinct
  exact fun same => distinct.1 (same ▸ List.mem_map_of_mem h)

theorem Pending.dropRow {db : Database} {row : RecordRow} {rest : List RecordRow}
    (pending : Pending db (row :: rest)) : Pending (db.dropRow row) rest where
  stored other h := by
    refine Table.mem_delete.mpr ⟨pending.stored other (List.mem_cons_of_mem _ h), ?_⟩
    exact decide_eq_false (pending.head_ne h)
  distinct := (List.nodup_cons.mp pending.distinct).2

theorem Pending.evictRow {db : Database} {row : RecordRow} {rest : List RecordRow}
    (pending : Pending db (row :: rest)) : Pending (db.evictRow row) rest where
  stored other h := by
    refine List.mem_map.mpr ⟨other, pending.stored other (List.mem_cons_of_mem _ h), ?_⟩
    simp [pending.head_ne h]
  distinct := (List.nodup_cons.mp pending.distinct).2

def Moved (s t : StoreState) : Prop := t.ids = s.ids ∧ Moves s.db t.db

theorem Moved.refl (s : StoreState) : Moved s s := ⟨rfl, .refl⟩

theorem Moved.trans {s t u : StoreState} (first : Moved s t) (second : Moved t u) : Moved s u :=
  ⟨second.1.trans first.1, first.2.trans second.2⟩

theorem Moved.of_eq {s t : StoreState} (h : t.ids = s.ids ∧ t.db = s.db) : Moved s t :=
  ⟨h.1, h.2 ▸ .refl⟩

theorem dropRecords_ends {rows : List RecordRow} (pending : Pending s.db rows) :
    Ends s (dropRecords rows)
      (fun _ t => t.ids = s.ids ∧ t.files = s.files ∧ Moves s.db t.db) fun t => t = s := by
  refine Ends.transaction (fun _ _ h => ⟨h.1, h.2.1⟩) ?_ rfl
  refine (Ends.forM (fun rest t => t.ids = s.ids ∧ t.files = s.files ∧ Moves s.db t.db ∧
    Pending t.db rest) ⟨rfl, rfl, .refl, pending⟩ ?_).consequence ?_ fun _ h => h
  · rintro row rest t ⟨ids, files, moves, pending⟩
    refine Ends.execute_bind ⟨ids, files⟩ fun _ db removed => ?_
    cases removed
    refine Ends.write ⟨ids, files⟩ ⟨ids, files, ?_, pending.dropRow⟩
    exact moves.tail (.drop (pending.stored row List.mem_cons_self))
  · rintro _ _ ⟨ids, files, moves, _⟩
    exact ⟨ids, files, moves⟩

theorem deleteRecordsWhere_ends (predicate : Database → RecordRow → Bool) :
    Ends s (deleteRecordsWhere predicate) (fun _ t => Moved s t) (Moved s) := by
  refine Ends.query_bind (Moved.refl s) (Ends.ite (fun _ => Ends.pure (Moved.refl s)) fun _ => ?_)
  refine Ends.bind ((deleteFiles_ends _).consequence (fun _ _ h => h) fun _ => Moved.of_eq) ?_
  rintro _ t ⟨ids, db⟩
  have pending : Pending t.db (s.db.records.rows.filter (predicate s.db)) :=
    db ▸ Pending.filter _
  refine Ends.bind ((dropRecords_ends pending).consequence (fun _ _ h => h) ?_) ?_
  · rintro _ rfl
    exact Moved.of_eq ⟨ids, db⟩
  · rintro _ t' ⟨ids', _, moves⟩
    exact Ends.pure ⟨ids'.trans ids, db ▸ moves⟩

theorem markEvicted_ends (row : RecordRow) :
    Ends s (markEvicted row) (fun _ t => t = { s with db := s.db.evictRow row }) fun t => t = s := by
  refine Ends.transaction ?_ (Ends.write_bind ⟨rfl, rfl⟩ (Ends.write ⟨rfl, rfl⟩ rfl)) rfl
  rintro _ _ rfl
  exact ⟨rfl, rfl⟩

/-- What deleting a payload file and evicting a row keep, evicting the candidates keeps. -/
theorem evictCandidates_keeps {kept : StoreState → Prop}
    (unlinks : ∀ t path, kept t → kept (t.putFile path none))
    (evicts : ∀ t row, kept t → kept { t with db := t.db.evictRow row }) (before : kept s)
    (candidates : List (RecordRow × Str)) (overBy evicted reclaimed : Nat) :
    Ends s (evictCandidates candidates overBy evicted reclaimed) (fun _ => kept) kept := by
  induction candidates generalizing s overBy evicted reclaimed with
  | nil => exact Ends.pure before
  | cons candidate rest ih =>
      obtain ⟨row, path⟩ := candidate
      refine Ends.ite (fun _ => Ends.pure before) fun _ => Ends.bind (Ends.deleteFile before) ?_
      rintro _ _ rfl
      refine Ends.bind ((markEvicted_ends row).consequence (fun _ _ marked => marked) ?_) ?_
      · rintro _ rfl
        exact unlinks s path before
      · rintro _ _ rfl
        exact ih (evicts _ row (unlinks s path before)) _ _ _

theorem evictCandidates_ends (candidates : List (RecordRow × Str)) (overBy evicted reclaimed : Nat)
    (pending : Pending s.db (candidates.map Prod.fst)) :
    Ends s (evictCandidates candidates overBy evicted reclaimed) (fun _ t => Moved s t) (Moved s) := by
  induction candidates generalizing s overBy evicted reclaimed with
  | nil => exact Ends.pure (Moved.refl s)
  | cons candidate rest ih =>
      obtain ⟨row, path⟩ := candidate
      have stored := pending.stored row List.mem_cons_self
      refine Ends.ite (fun _ => Ends.pure (Moved.refl s)) fun _ => ?_
      refine Ends.bind (Ends.deleteFile (Moved.refl s)) ?_
      rintro _ _ rfl
      have marked : Ends (s.putFile path none) (markEvicted row)
          (fun _ t => t = { s.putFile path none with db := s.db.evictRow row }) (Moved s) :=
        (markEvicted_ends row).consequence (fun _ _ h => h) fun _ same => Moved.of_eq (same ▸ ⟨rfl, rfl⟩)
      refine Ends.bind marked ?_
      rintro _ _ rfl
      have moved : Moved s { s.putFile path none with db := s.db.evictRow row } :=
        ⟨rfl, .single (.evict stored)⟩
      exact (ih _ _ _ pending.evictRow).consequence (fun _ _ => moved.trans) fun _ => moved.trans

theorem reclaimable_sublist (rows : List RecordRow) :
    ((rows.filterMap RecordRow.reclaimable).map Prod.fst).Sublist rows := by
  induction rows with
  | nil => exact .slnil
  | cons row rows ih =>
      cases found : row.reclaimable with
      | none => exact (List.filterMap_cons_none found ▸ ih).cons row
      | some candidate =>
          have same : candidate.1 = row := by
            unfold RecordRow.reclaimable at found
            split at found
            · cases found
            · obtain ⟨_, _, rfl⟩ := Option.map_eq_some_iff.mp found
              rfl
          rw [List.filterMap_cons_some found, List.map_cons, same]
          exact ih.cons_cons row

theorem evictionCandidates_pending (db : Database) :
    Pending db ((evictionCandidates db).map Prod.fst) := by
  have sorted : db.oldestFirst.Perm db.records.rows := List.mergeSort_perm _ _
  have sub := reclaimable_sublist db.oldestFirst
  exact ⟨fun row h => sorted.mem_iff.mp (sub.subset h),
    ((sorted.map (·.id)).nodup_iff.mpr db.records.distinct).sublist (sub.map _)⟩

theorem evictPayloads_ends (maxBytes : Nat) :
    Ends s (evictPayloads maxBytes) (fun _ t => Moved s t) (Moved s) := by
  refine Ends.query_bind (Moved.refl s) (Ends.ite (fun _ => Ends.pure (Moved.refl s)) fun _ => ?_)
  exact Ends.query_bind (Moved.refl s)
    (evictCandidates_ends _ _ _ _ (evictionCandidates_pending s.db))

theorem trimTotal_ends (keepTotal : Nat) :
    Ends s (trimTotal keepTotal) (fun _ t => Moved s t) (Moved s) :=
  Ends.query_bind (Moved.refl s)
    (Ends.ite (fun _ => Ends.pure (Moved.refl s)) fun _ => deleteRecordsWhere_ends _)

theorem dropEmptyGroupsBefore_ends (cutoffMs : I64) :
    Ends s (dropEmptyGroupsBefore cutoffMs) (fun _ t => Moved s t) (Moved s) := by
  unfold dropEmptyGroupsBefore deleteGroups
  refine (Ends.execute (Moved.refl s)).consequence ?_ fun _ h => h
  rintro _ _ ⟨db, deleted, rfl⟩
  cases deleted
  exact ⟨rfl, .single (.dropEmpty cutoffMs)⟩

theorem pruneIngestedSources_ends (nowMs artifactCutoffMs : I64) :
    Ends s (pruneIngestedSources nowMs artifactCutoffMs) (fun _ t => Moved s t) (Moved s) := by
  unfold pruneIngestedSources
  refine (Ends.execute (Moved.refl s)).consequence ?_ fun _ h => h
  rintro _ _ ⟨db, deleted, rfl⟩
  cases deleted
  exact ⟨rfl, .single (.prune _)⟩

theorem Moved.bind {α β : Type} {s : StoreState} {m : StoreM α} {f : α → StoreM β}
    (first : Ends s m (fun _ t => Moved s t) (Moved s))
    (next : ∀ a t, Ends t (f a) (fun _ u => Moved t u) (Moved t)) :
    Ends s (m >>= f) (fun _ t => Moved s t) (Moved s) :=
  Ends.bind first fun a t moved =>
    (next a t).consequence (fun _ _ => moved.trans) fun _ => moved.trans

theorem sweep_ends (nowMs : I64) (retention : RetentionPolicy) :
    Ends s (sweep nowMs retention) (fun _ t => Moved s t) (Moved s) := by
  refine Moved.bind (deleteRecordsWhere_ends _) fun _ _ => ?_
  refine Moved.bind (deleteRecordsWhere_ends _) fun _ _ => ?_
  refine Moved.bind (trimTotal_ends _) fun _ _ => ?_
  refine Moved.bind (dropEmptyGroupsBefore_ends _) fun _ _ => ?_
  refine Moved.bind (evictPayloads_ends _) fun _ _ => ?_
  exact Moved.bind (pruneIngestedSources_ends _ _) fun _ t => Ends.pure (Moved.refl t)

theorem payloadPathsFor_ends {failed : StoreState → Prop} (lost : failed s) (target : DeleteTarget) :
    Ends s (payloadPathsFor target) (fun _ t => t = s) failed := by
  have queried : ∀ read : Database → List Str, Ends s (query read) (fun _ t => t = s) failed :=
    fun _ => (Ends.query lost).consequence (fun _ _ h => h.2) fun _ h => h
  unfold payloadPathsFor
  split
  · exact Ends.pure rfl
  · exact queried _

theorem eraseRows_ends (target : DeleteTarget) (groups : Database → GroupSummary → Bool) :
    Ends s (eraseRows target groups)
      (fun _ t => t = { s with db := s.db.eraseWhere target.selects groups })
      fun t => t.ids = s.ids ∧ t.files = s.files := by
  refine Ends.execute_bind ⟨rfl, rfl⟩ fun _ db removed => ?_
  cases removed
  refine Ends.execute_bind ⟨rfl, rfl⟩ fun _ db removed => ?_
  cases removed
  exact Ends.pure rfl

theorem delete_ends (target : DeleteTarget) :
    Ends s (delete target) (fun _ t => t.ids = s.ids ∧ t.db = s.db.erase target)
      fun t => t.ids = s.ids ∧ t.db = s.db := by
  refine Ends.bind (payloadPathsFor_ends ⟨rfl, rfl⟩ target) ?_
  rintro paths _ rfl
  refine Ends.bind (deleteFiles_ends paths) ?_
  rintro _ t ⟨ids, db⟩
  have erased : Ends t (transaction (eraseTarget target))
      (fun _ t' => t' = { t with db := t.db.erase target }) fun t' => t' = t := by
    refine Ends.transaction (by rintro _ _ rfl; exact ⟨rfl, rfl⟩) ?_ rfl
    cases target with
    | all => exact eraseRows_ends _ _
    | group chosen => exact eraseRows_ends _ _
    | ids chosen =>
        cases chosen with
        | nil => exact Ends.pure rfl
        | cons id rest => exact eraseRows_ends _ _
  refine erased.consequence ?_ ?_
  · rintro _ _ rfl
    exact ⟨ids, congrArg (Database.erase · target) db⟩
  · rintro _ rfl
    exact ⟨ids, db⟩

end
end CrashCatcher.Store
