import CrashCatcher.Store.Atomic
import CrashCatcher.Store.Detail
import CrashCatcher.Store.Exact

namespace CrashCatcher.Store
open Lib Model Config Fallible

/-! Calls in which no step of the environment fails. -/

section
variable {s : StoreState}

theorem insertSources_quiet (sourceKeys : List Str) (ingestedAtMs : I64) :
    insertSources sourceKeys ingestedAtMs (quiet s) =
      (.ok ⟨⟩, quiet { s with db := s.db.ingest sourceKeys ingestedAtMs }) := by
  induction sourceKeys generalizing s with
  | nil => rfl
  | cons sourceKey rest ih =>
      have first := write_quiet s fun db => db.insertSource { sourceKey, ingestedAtMs }
      show (write _ >>= fun _ => insertSources rest ingestedAtMs) (quiet s) = _
      rw [bind_run, first]
      exact ih

theorem querySome_quiet {α : Type} {read : Database → Option α} {a : α} (found : read s.db = some a) :
    querySome read (quiet s) = (.ok a, quiet s) := by
  unfold querySome
  rw [bind_run, query_quiet]
  simp only [found]
  rfl

theorem Database.find?_upsertGroup (db : Database) (group : GroupSummary) :
    ((db.upsertGroup group).groups.find? group.groupId).isSome := by
  obtain ⟨row, stored, same⟩ : ∃ row ∈ (db.upsertGroup group).groups.rows, row.groupId = group.groupId := by
    have named : group.groupId ∈ (db.upsertGroup group).groupIds :=
      mem_groupIds_upsertGroup.mpr (.inr rfl)
    simpa [Database.groupIds] using named
  rw [(Table.find?_eq_some_iff _).mpr ⟨stored, same⟩]
  rfl

theorem insertCrash_of_fresh {db : Database} {group : GroupSummary} {row : RecordRow}
    (fresh : ∀ stored ∈ db.records.rows, stored.id ≠ row.id) (same : row.groupId = group.groupId) :
    ∃ db', db.insertCrash group row = some db' := by
  have present : ((db.upsertGroup group).groups.find? row.groupId).isSome := by
    rw [same]
    exact db.find?_upsertGroup group
  unfold Database.insertCrash Database.insertRecord
  rw [if_pos present]
  cases inserted : (db.upsertGroup group).records.insert? row with
  | some records => exact ⟨_, rfl⟩
  | none =>
      obtain ⟨stored, member, clash⟩ := Table.insert?_eq_none_iff.mp inserted
      rw [Database.records_upsertGroup] at member
      exact absurd clash (fresh stored member)

variable (platform : Platform)

theorem insertRows_quiet {id : RecordId} (record : CrashRecord) (written : Option WrittenPayload)
    (sourceKeys : List Str) (ingestedAtMs : I64) {db : Database}
    (inserted : s.db.insertCrash (sightingOf platform record written)
      (rowOf platform s.db id record written) = some db) :
    ∃ result, insertRows platform id record written sourceKeys ingestedAtMs (quiet s) =
      (.ok result, quiet { s with db := db.ingest sourceKeys ingestedAtMs }) := by
  have spec := Database.insertCrash_eq_some inserted
  obtain ⟨group, grouped⟩ : ∃ group, db.groups.find? (record.groupId platform.sha256) = some group := by
    rw [spec.2.2]
    exact Option.isSome_iff_exists.mp
      (Database.find?_upsertGroup s.db (sightingOf platform record written))
  obtain ⟨stored, found⟩ : ∃ stored, db.records.find? id = some stored := by
    refine ⟨rowOf platform s.db id record written, (Table.find?_eq_some_iff _).mpr ⟨?_, rfl⟩⟩
    rw [spec.2.1]
    exact List.mem_append_right _ List.mem_cons_self
  have accepted : (s.db.upsertGroup (sightingOf platform record written)).insertRecord
      (rowOf platform s.db id record written) = some db := inserted
  have marked := insertSources_quiet (s := { s with db }) sourceKeys ingestedAtMs
  refine ⟨{
    record := stored.toRecordSummary
    group
    isNewGroup := (s.db.groups.find? (record.groupId platform.sha256)).isNone }, ?_⟩
  unfold insertRows transaction undoing
  have groupRead : querySome (fun db => db.groups.find? (record.groupId platform.sha256))
      (quiet { s with db }) = (.ok group, quiet { s with db }) := querySome_quiet grouped
  have recordRead : querySome (fun db => db.records.find? id) (quiet { s with db }) =
      (.ok stored, quiet { s with db }) := querySome_quiet found
  unfold sightingOf rowOf at accepted
  simp only [bind_run, attempt_quiet, query_quiet, write_quiet, execute_quiet, accepted,
    Option.map_some, groupRead, recordRead, marked]
  rfl

theorem insertWithSources_quiet (record : CrashRecord) (retention : RetentionPolicy)
    (sourceKeys : List Str) (ingestedAtMs : I64) {written : Option WrittenPayload} {t : StoreState}
    (fresh : ∀ row ∈ s.db.records.rows, row.id ≠ s.newId record.happenedAtMs)
    (wrote : PayloadStore.write platform (s.newId record.happenedAtMs) record.payload
      retention.maxPayloadBytesPerRecord (quiet { s with ids := s.nextIds record.happenedAtMs }) =
        (.ok written, quiet t)) (rows : t.db = s.db) :
    ∃ result db, s.db.insertCrash (sightingOf platform record written)
        (rowOf platform s.db (s.newId record.happenedAtMs) record written) = some db ∧
      insertWithSources platform record retention sourceKeys ingestedAtMs (quiet s) =
        (.ok result, quiet { t with db := db.ingest sourceKeys ingestedAtMs }) := by
  obtain ⟨db, inserted⟩ : ∃ db, s.db.insertCrash (sightingOf platform record written)
      (rowOf platform s.db (s.newId record.happenedAtMs) record written) = some db :=
    insertCrash_of_fresh fresh rfl
  obtain ⟨result, ran⟩ := insertRows_quiet (s := t) platform record written sourceKeys ingestedAtMs
    (rows ▸ inserted)
  refine ⟨result, db, inserted, ?_⟩
  have issued : nextId record.happenedAtMs (quiet s) =
      (.ok (s.newId record.happenedAtMs), quiet { s with ids := s.nextIds record.happenedAtMs }) := rfl
  exact (bind_of_ok issued).trans ((bind_of_ok wrote).trans (onError_of_ok ran))

theorem quietStep_insert {record : CrashRecord} {retention : RetentionPolicy} {sourceKeys : List Str}
    {ingestedAtMs : I64} {result : Inserted} {t : StoreState}
    (ran : insertWithSources platform record retention sourceKeys ingestedAtMs (quiet s) =
      (.ok result, quiet t)) :
    quietStep platform s (.insert record retention sourceKeys ingestedAtMs) = t := by
  show ((insertWithSources platform record retention sourceKeys ingestedAtMs >>= fun _ => pure ())
    (quiet s)).2.store = t
  rw [bind_of_ok ran]
  rfl

theorem write_inline_quiet (id : RecordId) {content : List UInt8} {maxBytes : Nat}
    (nonempty : content ≠ []) (fits : content.length ≤ maxBytes) :
    PayloadStore.write platform id (.inline content) maxBytes (quiet s) =
      (.ok (some {
        relativePath := relativePathFor id
        storedBytes := (platform.encodeAll content).length
        textBytes := content.length
        codec := .zstd
        state := .present }),
        quiet (s.putFile (relativePathFor id) (some (platform.encodeAll content)))) := by
  have overwritten : (s.putFile (relativePathFor id) (some [])).putFile (relativePathFor id)
      (some (platform.encodeAll content)) =
        s.putFile (relativePathFor id) (some (platform.encodeAll content)) := by
    simp [StoreState.putFile]
  cases content with
  | nil => exact absurd rfl nonempty
  | cons byte rest =>
      have whole : PayloadStore.capped (byte :: rest) maxBytes = (byte :: rest, .present) :=
        if_neg (Nat.not_lt.mpr fits)
      rw [← overwritten]
      unfold PayloadStore.write
      simp only [PayloadStore.raw, whole]
      rfl

theorem readPayloadBytes_quiet {decodeAll : List UInt8 → Option (List UInt8)} {row : RecordRow}
    {path : Str} {content bytes : List UInt8} (stored : row ∈ s.db.records.rows)
    (readable : row.payloadState.isReadable) (pathed : row.payloadPath = some path)
    (zstd : row.payloadCodec = .zstd) (resolves : PayloadStore.resolve path)
    (present : s.files path = some content) (decodes : decodeAll content = some bytes) :
    readPayloadBytes decodeAll row.id (quiet s) = (.ok bytes, quiet s) := by
  have found : s.db.records.find? row.id = some row := (Table.find?_eq_some_iff _).mpr ⟨stored, rfl⟩
  have located : payloadLocation row.id (quiet s) = (.ok (path, .zstd), quiet s) := by
    unfold payloadLocation
    simp only [bind_run, query_quiet, found, pathed, if_pos readable, zstd]
    rfl
  unfold readPayloadBytes PayloadStore.readBytes
  simp only [bind_run, located, if_pos resolves, attempt_quiet, Fallible.get, quiet_store, present,
    decodes]
  rfl

def inlineWritten (id : RecordId) (content : List UInt8) : WrittenPayload where
  relativePath := relativePathFor id
  storedBytes := (platform.encodeAll content).length
  textBytes := content.length
  codec := .zstd
  state := .present

theorem quietStep_insert_inline {record : CrashRecord} {retention : RetentionPolicy} {content : List UInt8}
    (inline : record.payload = .inline content) (nonempty : content ≠ [])
    (fits : content.length ≤ retention.maxPayloadBytesPerRecord)
    (fresh : ∀ row ∈ s.db.records.rows, row.id ≠ s.newId record.happenedAtMs) :
    let stored := quietStep platform s (.insert record retention [] 0)
    stored.db.records.rows = s.db.records.rows ++ [rowOf platform s.db (s.newId record.happenedAtMs) record
        (some (inlineWritten platform (s.newId record.happenedAtMs) content))] ∧
      stored.ids = s.nextIds record.happenedAtMs ∧
      stored.files (relativePathFor (s.newId record.happenedAtMs)) = some (platform.encodeAll content) := by
  have wrote := write_inline_quiet (s := { s with ids := s.nextIds record.happenedAtMs }) platform
    (s.newId record.happenedAtMs) nonempty fits
  rw [← inline] at wrote
  obtain ⟨result, db, inserted, ran⟩ := insertWithSources_quiet platform record retention [] 0 fresh
    wrote rfl
  dsimp only
  rw [quietStep_insert platform ran]
  exact ⟨(Database.insertCrash_eq_some inserted).2.1, rfl, Function.update_self _ _ _⟩

theorem insert_inline_quiet {record : CrashRecord} {retention : RetentionPolicy} {content : List UInt8}
    {decodeAll : List UInt8 → Option (List UInt8)} (inline : record.payload = .inline content)
    (nonempty : content ≠ []) (fits : content.length ≤ retention.maxPayloadBytesPerRecord)
    (decodes : decodeAll (platform.encodeAll content) = some content) (ids : s.ids.Fits)
    (fresh : ∀ row ∈ s.db.records.rows, row.id ≠ s.newId record.happenedAtMs) :
    readPayloadBytes decodeAll (s.newId record.happenedAtMs)
        (quiet (quietStep platform s (.insert record retention [] 0))) =
      (.ok content, quiet (quietStep platform s (.insert record retention [] 0))) := by
  obtain ⟨rows, -, present⟩ := quietStep_insert_inline platform inline nonempty fits fresh
  have wellFormed : (s.newId record.happenedAtMs).WellFormed :=
    RecordId.wellFormed_encode (RecordIdGenerator.value_lt (ids.advance _))
  have member : rowOf platform s.db (s.newId record.happenedAtMs) record
      (some (inlineWritten platform (s.newId record.happenedAtMs) content)) ∈
        (quietStep platform s (.insert record retention [] 0)).db.records.rows := by
    rw [rows]
    exact List.mem_append_right _ List.mem_cons_self
  exact readPayloadBytes_quiet member rfl rfl rfl (PayloadStore.resolve_relativePathFor wellFormed)
    present decodes

end

def Completes {α : Type} (s : StoreState) (m : StoreM α) (post : α → StoreState → Prop) : Prop :=
  ∃ a t, m (quiet s) = (.ok a, quiet t) ∧ post a t

namespace Completes
variable {α β : Type} {s : StoreState} {m : StoreM α}

theorem ends {post post' : α → StoreState → Prop} {failed : StoreState → Prop} (completes : Completes s m post)
    (ends : Ends s m post' failed) : Completes s m fun a t => post a t ∧ post' a t := by
  obtain ⟨a, t, ran, holds⟩ := completes
  have done := ends (quiet s) rfl
  rw [ran] at done
  exact ⟨a, t, ran, holds, done⟩

theorem consequence {post post' : α → StoreState → Prop} (completes : Completes s m post)
    (weaker : ∀ a t, post a t → post' a t) : Completes s m post' := by
  obtain ⟨a, t, ran, holds⟩ := completes
  exact ⟨a, t, ran, weaker a t holds⟩

theorem pure {a : α} {post : α → StoreState → Prop} (holds : post a s) : Completes s (Pure.pure a) post :=
  ⟨a, s, rfl, holds⟩

theorem bind {middle : α → StoreState → Prop} {post : β → StoreState → Prop} {f : α → StoreM β}
    (first : Completes s m middle) (next : ∀ a t, middle a t → Completes t (f a) post) :
    Completes s (m >>= f) post := by
  obtain ⟨a, t, ran, holds⟩ := first
  obtain ⟨b, u, ran', done⟩ := next a t holds
  exact ⟨b, u, (bind_of_ok ran).trans ran', done⟩

theorem ite {p : Prop} [Decidable p] {m' : StoreM α} {post : α → StoreState → Prop}
    (yes : p → Completes s m post) (no : ¬ p → Completes s m' post) :
      Completes s (if p then m else m') post := by
  by_cases holds : p
  · rw [if_pos holds]
    exact yes holds
  · rw [if_neg holds]
    exact no holds

theorem query (read : Database → α) : Completes s (query read) fun a t => read s.db = a ∧ s = t :=
  ⟨_, _, query_quiet s read, rfl, rfl⟩

theorem transaction {body : StoreM α} {post : α → StoreState → Prop} (completes : Completes s body post) :
    Completes s (transaction body) post := by
  obtain ⟨a, t, ran, holds⟩ := completes
  refine ⟨a, t, ?_, holds⟩
  unfold Store.transaction undoing
  simp only [bind_run, attempt_quiet, ran]
  rfl

theorem forM {items : List β} {body : β → StoreM PUnit} {inv : StoreState → Prop} (start : inv s)
    (step : ∀ item ∈ items, ∀ t, inv t → Completes t (body item) fun _ => inv) :
    Completes s (items.forM body) fun _ => inv := by
  induction items generalizing s with
  | nil => exact pure start
  | cons item rest ih =>
      exact bind (step item List.mem_cons_self s start) fun _ t holds =>
        ih holds fun other member => step other (List.mem_cons_of_mem _ member)

theorem deleteFile {path : Str} (resolves : PayloadStore.resolve path) :
    Completes s (PayloadStore.delete path) fun _ _ => True := by
  unfold PayloadStore.delete
  rw [if_pos resolves]
  exact ⟨_, _, rfl, trivial⟩

end Completes

section
variable {s : StoreState}

theorem WellKept.resolves {db : Database} (kept : WellKept db) {row : RecordRow}
    (stored : row ∈ db.records.rows)
    {path : Str} (filed : row.payloadPath = some path) : PayloadStore.resolve path := by
  rw [(kept.rows row stored).pathed path filed]
  exact PayloadStore.resolve_relativePathFor (kept.rows row stored).issued.wellFormed

theorem dropRecords_completes (rows : List RecordRow) : Completes s (dropRecords rows) fun _ _ => True := by
  refine Completes.transaction (Completes.forM trivial fun row _ t _ => ?_)
  exact ⟨_, _, rfl, trivial⟩

theorem deleteRecordsWhere_completes (kept : WellKept s.db) (predicate : Database → RecordRow → Bool) :
    Completes s (deleteRecordsWhere predicate) fun _ t => WellKept t.db := by
  let any (_ : StoreState) : Prop := True
  have completes : Completes s (deleteRecordsWhere predicate) fun _ => any := by
    refine Completes.bind (Completes.query _) ?_
    rintro rows _ ⟨rfl, rfl⟩
    have deleted : Completes s (((s.db.records.rows.filter (predicate s.db)).filterMap (·.payloadPath)).forM
        PayloadStore.delete) fun _ => any := by
      refine Completes.forM trivial fun path member t _ => ?_
      obtain ⟨row, selected, filed⟩ := List.mem_filterMap.mp member
      exact Completes.deleteFile (kept.resolves (List.mem_of_mem_filter selected) filed)
    refine .ite (fun _ => .pure trivial) fun _ => deleted.bind fun _ t _ => ?_
    exact (dropRecords_completes _).bind fun _ _ _ => .pure trivial
  exact (completes.ends (deleteRecordsWhere_ends predicate)).consequence fun _ _ done => done.2.2.wellKept kept

theorem evictCandidates_completes {candidates : List (RecordRow × Str)}
    (resolve : ∀ candidate ∈ candidates, PayloadStore.resolve candidate.2) (overBy evicted reclaimed : Nat) :
    Completes s (evictCandidates candidates overBy evicted reclaimed) fun _ _ => True := by
  induction candidates generalizing s overBy evicted reclaimed with
  | nil => exact .pure trivial
  | cons candidate rest ih =>
      obtain ⟨row, path⟩ := candidate
      refine .ite (fun _ => .pure trivial) fun _ =>
        (Completes.deleteFile (resolve _ List.mem_cons_self)).bind fun _ t _ => ?_
      have marked : Completes t (markEvicted row) fun _ _ => True := Completes.transaction ⟨_, _, rfl, trivial⟩
      exact marked.bind fun _ u _ => ih (fun other member => resolve other (List.mem_cons_of_mem _ member)) _
        _ _

theorem evictPayloads_completes (kept : WellKept s.db) (maxBytes : Nat) :
    Completes s (evictPayloads maxBytes) fun _ _ => True := by
  refine (Completes.query _).bind ?_
  rintro _ _ ⟨rfl, rfl⟩
  refine .ite (fun _ => .pure trivial) fun _ => (Completes.query _).bind ?_
  rintro _ _ ⟨rfl, rfl⟩
  refine evictCandidates_completes (fun candidate member => ?_) _ _ _
  obtain ⟨row, sorted, found⟩ := List.mem_filterMap.mp member
  unfold RecordRow.reclaimable at found
  split at found
  · cases found
  · obtain ⟨path, filed, rfl⟩ := Option.map_eq_some_iff.mp found
    exact kept.resolves (List.mem_mergeSort.mp sorted) filed

theorem trimTotal_completes (kept : WellKept s.db) (keepTotal : Nat) :
    Completes s (trimTotal keepTotal) fun _ t => WellKept t.db := by
  refine (Completes.query _).bind ?_
  rintro _ _ ⟨rfl, rfl⟩
  exact .ite (fun _ => .pure kept) fun _ => deleteRecordsWhere_completes kept _

theorem sweep_completes (kept : WellKept s.db) (nowMs : I64) (retention : RetentionPolicy) :
    Completes s (sweep nowMs retention) fun _ _ => True := by
  refine (deleteRecordsWhere_completes kept _).bind fun _ t kept => ?_
  refine (deleteRecordsWhere_completes kept _).bind fun _ u kept => ?_
  refine (trimTotal_completes kept _).bind fun _ v kept => ?_
  have dropped : Completes v (dropEmptyGroupsBefore
      (nowMs.saturatingSub (I64.clamp (retention.clamped.retentionDays * msPerDay)))) fun _ t =>
        WellKept t.db :=
    ⟨_, _, rfl, kept.deleteGroups _⟩
  refine dropped.bind fun _ w kept => (evictPayloads_completes kept _).bind fun _ x _ => ?_
  exact ⟨_, _, rfl, trivial⟩

end
end CrashCatcher.Store
