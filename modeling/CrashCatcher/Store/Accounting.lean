import CrashCatcher.Lib.Run
import CrashCatcher.Store.Invariant

namespace CrashCatcher.Store
open Lib Lib.Run Model Config Fallible Relation

namespace Database

def bytesOf (db : Database) (of : RecordRow → Bool) (groupId : Str) : Nat :=
  Table.total (fun row => row.groupId == groupId && of row) (fun row => row.payloadBytes)
    db.records.rows

def bytesIn (db : Database) (groupId : Str) : Nat :=
  Table.total (fun row => row.groupId == groupId) (fun row => row.payloadBytes) db.records.rows

end Database

def Accounted (db : Database) : Prop :=
  ∀ group ∈ db.groups.rows, group.payloadBytes = db.bytesIn group.groupId

instance (db : Database) : Decidable (Accounted db) := inferInstanceAs (Decidable (∀ _ ∈ _, _ = _))

section
variable {db db' : Database}

theorem Accounted.congr (accounted : Accounted db) (groups : db'.groups = db.groups)
    (bytes : ∀ groupId, db'.bytesIn groupId = db.bytesIn groupId) : Accounted db' := by
  intro group h
  rw [bytes]
  exact accounted group (groups ▸ h)

theorem Accounted.updateGroup (accounted : Accounted db) {k : Str}
    {f : GroupSummary → GroupSummary} {keeps : ∀ row, (f row).groupId = row.groupId}
    (groups : db'.groups = db.groups)
    (others : ∀ groupId, groupId ≠ k → db'.bytesIn groupId = db.bytesIn groupId)
    (own : ∀ group : GroupSummary, group.payloadBytes = db.bytesIn k →
      (f group).payloadBytes = db'.bytesIn k) : Accounted (db'.updateGroup k f keeps) := by
  intro group h
  have h : group ∈ db'.groups.rows.map fun row => if decide (row.groupId = k) then f row else row := h
  obtain ⟨old, member, rfl⟩ := List.mem_map.mp h
  have counted := accounted old (groups ▸ member)
  by_cases hit : old.groupId = k
  · rw [if_pos (by simpa using hit), keeps, hit]
    exact own old (hit ▸ counted)
  · rw [if_neg (by simpa using hit)]
    exact counted.trans (others _ hit).symm

theorem bytesIn_eq_zero {groupId : Str} (none : ∀ row ∈ db.records.rows, row.groupId ≠ groupId) :
    db.bytesIn groupId = 0 :=
  Table.total_eq_zero _ _ fun row h => by simpa using none row h

theorem bytesIn_append {row : RecordRow} (rows : db'.records.rows = db.records.rows ++ [row])
    (groupId : Str) :
    db'.bytesIn groupId = db.bytesIn groupId +
      if row.groupId = groupId then row.payloadBytes else 0 := by
  rw [Database.bytesIn, rows, Table.total_append, Database.bytesIn, Table.total_cons]
  simp [Table.total]

theorem accounted_insert (kept : WellKept db) (accounted : Accounted db) {group : GroupSummary}
    {row : RecordRow} (same : row.groupId = group.groupId)
    (bytes : row.payloadBytes = group.payloadBytes) (inserted : db.insertCrash group row = some db') :
    Accounted db' := by
  obtain ⟨_, rows, groups⟩ := Database.insertCrash_eq_some inserted
  have grows := bytesIn_append rows
  cases upserted : db.groups.insert? group with
  | some groups' =>
      obtain ⟨fresh, groupRows⟩ := Table.insert?_eq_some upserted
      have members : db'.groups.rows = db.groups.rows ++ [group] := by
        rw [groups, Database.upsertGroup, upserted, ← groupRows]
      intro other h
      rw [members] at h
      rw [grows, same]
      rcases List.mem_append.mp h with h | h
      · rw [if_neg fun eq => fresh other h eq.symm]
        exact accounted other h
      · rw [List.mem_singleton.mp h, if_pos rfl, bytes, bytesIn_eq_zero, Nat.zero_add]
        intro stored member eq
        obtain ⟨g, hg, ge⟩ := List.mem_map.mp (kept.grouped stored member)
        exact fresh g hg (ge.trans eq)
  | none =>
      have members : db'.groups = (db.updateGroup group.groupId group.sightAgain
          group.groupId_sightAgain).groups := by
        rw [groups, Database.upsertGroup, upserted]
        rfl
      have counted : Accounted ({ db' with groups := db.groups }.updateGroup group.groupId
          group.sightAgain group.groupId_sightAgain) := by
        refine accounted.updateGroup rfl (fun groupId apart => ?_) fun old counted => ?_
        · exact (grows groupId).trans (by rw [same, if_neg apart.symm, Nat.add_zero])
        · refine Eq.trans ?_ (grows group.groupId).symm
          rw [same, if_pos rfl, bytes, ← counted]
          rfl
      intro other h
      rw [members] at h
      exact counted other h

theorem bytesIn_updateRecord {row : RecordRow} (stored : row ∈ db.records.rows)
    (f : RecordRow → RecordRow) (keeps : ∀ row, (f row).id = row.id)
    (same : (f row).groupId = row.groupId) (groupId : Str) :
    (db.updateRecord row.id f keeps).bytesIn groupId +
        (if row.groupId = groupId then row.payloadBytes else 0) =
      db.bytesIn groupId + if row.groupId = groupId then (f row).payloadBytes else 0 := by
  have balance := Table.total_modify_row (fun row => row.groupId == groupId)
    (fun row => row.payloadBytes) stored f keeps
  simpa [same, Database.bytesIn, Database.updateRecord] using balance

theorem bytesIn_deleteRecord {row : RecordRow} (stored : row ∈ db.records.rows) (groupId : Str) :
    (if row.groupId = groupId then row.payloadBytes else 0) +
        { db with records := db.records.delete fun r => r.id = row.id : Database }.bytesIn groupId =
      db.bytesIn groupId := by
  have balance := Table.total_delete_row (fun row => row.groupId == groupId)
    (fun row => row.payloadBytes) stored
  simpa [Database.bytesIn] using balance

theorem bytesIn_foldSources (db : Database) (id : RecordId) (sources : SourceMask) (groupId : Str) :
    (db.foldSources id sources).bytesIn groupId = db.bytesIn groupId := by
  apply Table.total_map
  all_goals
    intro row _
    by_cases hit : row.id = id <;> simp [hit, RecordRow.setSources]

theorem records_deleteGroups {gone : GroupSummary → Bool}
    (bare : ∀ group ∈ db.groups.rows, gone group → db.hasRecordIn group.groupId = false) :
    (db.deleteGroups gone).records = db.records := by
  apply Table.delete_eq_self
  intro row stored
  rw [List.any_eq_false]
  intro group member hit
  obtain ⟨leaving, same⟩ := Bool.and_eq_true_iff.mp hit
  have none := List.any_eq_false.mp (bare group member leaving) row stored
  exact none (beq_iff_eq.mpr (beq_iff_eq.mp same).symm)

theorem bytesIn_congr (records : db'.records = db.records) (groupId : Str) :
    db'.bytesIn groupId = db.bytesIn groupId := by
  rw [Database.bytesIn, records]
  rfl

theorem accounted_deleteGroups {gone : GroupSummary → Bool}
    (bare : ∀ group ∈ db.groups.rows, gone group → db.hasRecordIn group.groupId = false) :
    Accounted (db.deleteGroups gone) ↔
      ∀ group ∈ db.groups.rows, gone group = false →
        group.payloadBytes = db.bytesIn group.groupId := by
  have bytes := bytesIn_congr (records_deleteGroups bare)
  constructor
  · intro accounted group member stays
    rw [← bytes]
    exact accounted group (Table.mem_delete.mpr ⟨member, stays⟩)
  · intro accounted group member
    rw [bytes]
    exact accounted group (Table.mem_delete.mp member).1 (Table.mem_delete.mp member).2

theorem Move.accounted (move : Move db db') (kept : WellKept db) (accounted : Accounted db) :
    Accounted db' := by
  cases move with
  | insert issued payload inserted => exact accounted_insert kept accounted rfl rfl inserted
  | ingestSource row =>
      obtain ⟨groups, records⟩ := insertSource_rows db row
      exact accounted.congr groups (bytesIn_congr records)
  | foldSources id sources => exact accounted.congr rfl (bytesIn_foldSources db id sources)
  | @adopt row adopted stored absent payload =>
      have bytes := bytesIn_updateRecord stored (RecordRow.adopt adopted) (RecordRow.id_adopt adopted) rfl
      have none : row.payloadBytes = 0 := ((kept.rows row stored).bare absent).2
      refine accounted.updateGroup rfl (fun groupId apart => ?_) fun group counted => ?_
      · have balance := bytes groupId
        rw [if_neg apart.symm, if_neg apart.symm] at balance
        exact balance
      · have balance := bytes row.groupId
        rw [if_pos rfl, if_pos rfl, none, ← counted] at balance
        exact balance.symm
  | @drop row stored =>
      have bytes := bytesIn_deleteRecord stored
      refine accounted.updateGroup rfl (fun groupId apart => ?_) fun group counted => ?_
      · have balance := bytes groupId
        rw [if_neg apart.symm, Nat.zero_add] at balance
        exact balance
      · have balance := bytes row.groupId
        rw [if_pos rfl, ← counted] at balance
        show group.payloadBytes - row.payloadBytes = _
        omega
  | @evict row stored =>
      have bytes := bytesIn_updateRecord stored RecordRow.evict RecordRow.id_evict rfl
      refine accounted.updateGroup rfl (fun groupId apart => ?_) fun group counted => ?_
      · have balance := bytes groupId
        rw [if_neg apart.symm, if_neg apart.symm] at balance
        exact balance
      · have balance := bytes row.groupId
        rw [if_pos rfl, if_pos rfl, ← counted] at balance
        show group.payloadBytes - row.payloadBytes = _
        have cleared : row.evict.payloadBytes = 0 := rfl
        omega
  | dropEmpty cutoffMs =>
      refine (accounted_deleteGroups fun group _ gone => ?_).mpr fun group member _ =>
        accounted group member
      simpa using (Bool.and_eq_true_iff.mp gone).2
  | prune gone => exact accounted

theorem Moves.accounted (moves : Moves db db') (kept : WellKept db) (accounted : Accounted db) :
    Accounted db' := by
  induction moves with
  | refl => exact accounted
  | tail before move ih => exact move.accounted (Moves.wellKept before kept) ih

/-- Records deleted by id take no payload bytes out of a group that keeps a record. -/
def SparesBytes (db : Database) (ids : List RecordId) : Prop :=
  ∀ group ∈ db.groups.rows, (∃ row ∈ db.records.rows, row.groupId = group.groupId ∧ row.id ∉ ids) →
    db.bytesOf (fun row => ids.contains row.id) group.groupId = 0

instance (db : Database) (ids : List RecordId) : Decidable (SparesBytes db ids) :=
  inferInstanceAs (Decidable (∀ _ ∈ _, _ → _))

theorem bytesIn_deleteRecords (db : Database) (gone : RecordRow → Bool) (groupId : Str) :
    { db with records := db.records.delete gone : Database }.bytesIn groupId + db.bytesOf gone groupId =
      db.bytesIn groupId := by
  have balance := Table.total_partition (fun row : RecordRow => row.groupId == groupId)
    (fun row => row.payloadBytes) gone db.records.rows
  rw [Table.total_filter _ _ gone] at balance
  exact balance

theorem hasRecordIn_iff {groupId : Str} :
    db.hasRecordIn groupId = true ↔ ∃ row ∈ db.records.rows, row.groupId = groupId := by
  simp [Database.hasRecordIn, List.any_eq_true]

theorem erase_ids_accounted_iff (accounted : Accounted db) (ids : List RecordId) :
    Accounted (db.erase (.ids ids)) ↔ SparesBytes db ids := by
  cases ids with
  | nil =>
      refine iff_of_true accounted fun group _ _ => ?_
      exact Table.total_eq_zero _ _ fun row _ => by simp
  | cons id rest =>
      have bytes := bytesIn_deleteRecords db fun row => (id :: rest).contains row.id
      have survives : ∀ group : GroupSummary,
          { db with records := db.records.delete fun row => (id :: rest).contains row.id :
            Database }.hasRecordIn group.groupId = true ↔
          ∃ row ∈ db.records.rows, row.groupId = group.groupId ∧ row.id ∉ id :: rest := by
        intro group
        rw [hasRecordIn_iff]
        simp only [Table.mem_delete, List.contains_eq_mem, decide_eq_false_iff_not]
        constructor
        · rintro ⟨row, ⟨member, spared⟩, same⟩
          exact ⟨row, member, same, spared⟩
        · rintro ⟨row, member, same, spared⟩
          exact ⟨row, ⟨member, spared⟩, same⟩
      refine (accounted_deleteGroups fun group _ gone => by simpa using gone).trans ?_
      refine forall₂_congr fun group member => ?_
      have counted := accounted group member
      have balance := bytes group.groupId
      rw [Bool.not_eq_false', survives]
      refine forall_congr' fun _ => ?_
      rw [counted]
      omega

/-- What a delete of the records with these ids must not touch for the counts to stay right. -/
def Op.KeepsBytes (s : StoreState) : Op → Prop
  | .delete (.ids ids) => SparesBytes s.db ids
  | _ => True

theorem erase_others_accounted (accounted : Accounted db) {target : DeleteTarget}
    (other : ∀ ids, target ≠ .ids ids) : Accounted (db.erase target) := by
  cases target with
  | ids ids => exact absurd rfl (other ids)
  | all =>
      intro group member
      have stays := (Table.mem_delete.mp member).2
      cases stays
  | group chosen =>
      have emptied : ∀ group ∈ db.groups.rows, (group.groupId == chosen) = true →
          { db with records := db.records.delete fun row => row.groupId == chosen :
            Database }.hasRecordIn group.groupId = false := by
        intro group _ hit
        rw [← Bool.not_eq_true, hasRecordIn_iff]
        rintro ⟨row, stored, same⟩
        have apart := (Table.mem_delete.mp stored).2
        rw [same] at apart
        rw [hit] at apart
        cases apart
      refine (accounted_deleteGroups emptied).mpr fun group member apart => ?_
      have apart : (group.groupId == chosen) = false := apart
      have balance := bytesIn_deleteRecords db (fun row => row.groupId == chosen) group.groupId
      have untouched : db.bytesOf (fun row => row.groupId == chosen) group.groupId = 0 := by
        apply Table.total_eq_zero
        intro row _
        cases same : row.groupId == group.groupId with
        | false => rfl
        | true =>
            rw [← beq_iff_eq.mp same] at apart
            exact apart
      have counted := accounted group member
      omega

end

def noFaults : Nat → Option Nat := fun _ => none

section
variable (platform : Platform) {s : StoreState}

theorem deleteFile_quiet {path : Str} (resolves : PayloadStore.resolve path) :
    PayloadStore.delete path (quiet s) = (.ok (), quiet (s.putFile path none)) := by
  unfold PayloadStore.delete
  rw [if_pos resolves]
  rfl

theorem deleteFiles_quiet (paths : List Str) (resolves : ∀ path ∈ paths, PayloadStore.resolve path) :
    ∃ t, paths.forM PayloadStore.delete (quiet s) = (.ok ⟨⟩, quiet t) ∧ t.db = s.db ∧ t.ids = s.ids := by
  induction paths generalizing s with
  | nil => exact ⟨s, rfl, rfl, rfl⟩
  | cons path rest ih =>
      obtain ⟨t, run, db, ids⟩ := ih (s := s.putFile path none) fun other h =>
        resolves other (List.mem_cons_of_mem _ h)
      refine ⟨t, ?_, db, ids⟩
      show (PayloadStore.delete path >>= fun _ => rest.forM PayloadStore.delete) (quiet s) = _
      rw [bind_run, deleteFile_quiet (resolves path List.mem_cons_self)]
      exact run

theorem transaction_quiet {α : Type} {body : StoreM α} {a : α} {t : StoreState}
    (run : body (quiet s) = (.ok a, quiet t)) : transaction body (quiet s) = (.ok a, quiet t) := by
  unfold transaction undoing
  rw [bind_run, attempt_quiet]
  simp only [bind_run, run, attempt_quiet]
  rfl

theorem payloadPathsFor_quiet (target : DeleteTarget) :
    ∃ paths, payloadPathsFor target (quiet s) = (.ok paths, quiet s) ∧
      ∀ path ∈ paths, ∃ row ∈ s.db.records.rows, row.payloadPath = some path := by
  unfold payloadPathsFor
  split
  · exact ⟨[], rfl, nofun⟩
  · refine ⟨_, query_quiet s _, fun path h => ?_⟩
    obtain ⟨row, member, found⟩ := List.mem_filterMap.mp h
    exact ⟨row, List.mem_of_mem_filter member, found⟩

theorem resolve_of_kept {db : Database} (kept : WellKept db) {row : RecordRow}
    (stored : row ∈ db.records.rows) {path : Str} (h : row.payloadPath = some path) :
    PayloadStore.resolve path := by
  rw [(kept.rows row stored).pathed path h]
  exact PayloadStore.resolve_relativePathFor (kept.rows row stored).issued.wellFormed

theorem eraseRows_quiet (target : DeleteTarget) (groups : Database → GroupSummary → Bool) :
    ∃ removed, eraseRows target groups (quiet s) =
      (.ok removed, quiet { s with db := s.db.eraseWhere target.selects groups }) :=
  ⟨(_, _), rfl⟩

theorem eraseTarget_quiet (target : DeleteTarget) :
    ∃ removed, eraseTarget target (quiet s) =
      (.ok removed, quiet { s with db := s.db.erase target }) := by
  cases target with
  | all => exact eraseRows_quiet .all _
  | group chosen => exact eraseRows_quiet (.group chosen) _
  | ids chosen =>
      cases chosen with
      | nil => exact ⟨(0, 0), rfl⟩
      | cons id rest => exact eraseRows_quiet (.ids (id :: rest)) _

theorem delete_quiet (kept : WellKept s.db) (target : DeleteTarget) :
    (delete target (quiet s)).2.store.db = s.db.erase target := by
  obtain ⟨paths, listed, known⟩ := payloadPathsFor_quiet (s := s) target
  obtain ⟨t, removed, db, _⟩ := deleteFiles_quiet (s := s) paths fun path h => by
    obtain ⟨row, stored, found⟩ := known path h
    exact resolve_of_kept kept stored found
  obtain ⟨counts, erased⟩ := eraseTarget_quiet (s := t) target
  unfold delete
  rw [bind_run, listed]
  simp only [bind_run, removed, transaction_quiet erased, db]
  rfl

theorem apply_accounted_iff (fits : s.ids.Fits) (kept : WellKept s.db) (accounted : Accounted s.db)
    (op : Op) : Accounted (s.apply platform op noFaults).db ↔ op.KeepsBytes s := by
  have commits := (apply_commits platform fits op noFaults).2
  cases op with
  | insert => exact iff_of_true (Moves.accounted commits kept accounted) trivial
  | fold => exact iff_of_true (Moves.accounted commits kept accounted) trivial
  | sweep => exact iff_of_true (Moves.accounted commits kept accounted) trivial
  | delete target =>
      have erased : (s.apply platform (.delete target) noFaults).db = s.db.erase target := by
        rw [← delete_quiet kept target]
        show ((delete target >>= fun _ => pure ()) (quiet s)).2.store.db = _
        rw [bind_run]
        rcases delete target (quiet s) with ⟨_ | _, _⟩ <;> rfl
      rw [erased]
      cases target with
      | ids ids => exact erase_ids_accounted_iff accounted ids
      | all => exact iff_of_true (erase_others_accounted accounted nofun) trivial
      | group chosen => exact iff_of_true (erase_others_accounted accounted nofun) trivial

def quietStep (s : StoreState) (op : Op) : StoreState := s.apply platform op noFaults

/-- Over any operations from an empty store, the group byte counts are right in every state
exactly when no delete by id takes bytes out of a group that survives it. -/
theorem group_bytes_accounted_iff (ops : List Op) :
    Throughout (quietStep platform) (fun s op => Accounted (quietStep platform s op).db) .empty ops ↔
      Throughout (quietStep platform) (fun s op => op.KeepsBytes s) .empty ops := by
  refine throughout_iff (fun s => s.ids.Fits ∧ WellKept s.db ∧ Accounted s.db) ?_ ?_ ?_
  · intro s op inv
    exact apply_accounted_iff platform inv.1 inv.2.1 inv.2.2 op
  · intro s op inv accounted
    have commits := apply_commits platform inv.1 op noFaults
    exact ⟨commits.1, commits.2.wellKept inv.2.1, accounted⟩
  · exact ⟨RecordIdGenerator.fits_new, wellKept_empty, fun group h => by cases h⟩

end

def plainPlatform : Platform where
  readFile _ := none
  encodeAll bytes := bytes
  sha256 bytes := bytes

def oneByteCrash : CrashRecord where
  kind := .javaException
  packageName := "app".toList
  processName := "app".toList
  userId := 0
  pid := 7
  happenedAtMs := 1
  appVersionName := none
  appVersionCode := none
  isSystemApp := false
  packageInstalled := true
  isForeground := none
  selfHandled := false
  droppedCount := none
  sources := .events
  summary := { className := none, text := none }
  fingerprint := { kind := .javaException, primary := [], frames := [] }
  payload := .inline [0]

/-- Two occurrences of one crash, and a delete of the first by its id: one record is left, but its
group still counts two bytes. -/
theorem delete_by_id_leaves_bytes_counted :
    ∃ ops, ¬ Throughout (quietStep plainPlatform)
      (fun s op => Accounted (quietStep plainPlatform s op).db) .empty ops := by
  refine ⟨[.insert oneByteCrash {} [] 0, .insert oneByteCrash {} [] 0,
    .delete (.ids [RecordId.encode (2 ^ 80)])], ?_⟩
  decide +kernel

end CrashCatcher.Store
