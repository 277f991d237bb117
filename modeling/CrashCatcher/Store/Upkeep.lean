import CrashCatcher.Store.Exact

namespace CrashCatcher.Store
open Lib Model Config Fallible

structure Upkeep (rel : Database → Database → Prop) : Prop where
  refl : ∀ db, rel db db
  trans : ∀ {db db' db''}, rel db db' → rel db' db'' → rel db db''
  deleteRecords : ∀ db gone, rel db { db with records := db.records.delete gone }
  deleteGroups : ∀ db gone, rel db (db.deleteGroups gone)
  evict : ∀ db id, rel db (db.updateRecord id RecordRow.evict RecordRow.id_evict)
  subBytes : ∀ db groupId bytes, rel db (db.subGroupBytes groupId bytes)
  prune : ∀ db gone, rel db { db with sources := db.sources.delete gone }

namespace Upkeep
variable {rel : Database → Database → Prop} (upkeep : Upkeep rel) {s : StoreState}

def Kept (rel : Database → Database → Prop) (s t : StoreState) : Prop := t.ids = s.ids ∧ rel s.db t.db

include upkeep

theorem kept_refl (s : StoreState) : Kept rel s s := ⟨rfl, upkeep.refl _⟩

theorem kept_trans {s t u : StoreState} (first : Kept rel s t) (next : Kept rel t u) : Kept rel s u :=
  ⟨next.1.trans first.1, upkeep.trans first.2 next.2⟩

theorem kept_of_eq {t : StoreState} (same : t.ids = s.ids ∧ t.db = s.db) : Kept rel s t :=
  ⟨same.1, same.2 ▸ upkeep.refl _⟩

theorem bind {α β : Type} {m : StoreM α} {f : α → StoreM β}
    (first : Ends s m (fun _ t => Kept rel s t) (Kept rel s))
    (next : ∀ a t, Ends t (f a) (fun _ u => Kept rel t u) (Kept rel t)) :
    Ends s (m >>= f) (fun _ t => Kept rel s t) (Kept rel s) :=
  Ends.bind first fun a t kept =>
    (next a t).consequence (fun _ _ => upkeep.kept_trans kept) fun _ => upkeep.kept_trans kept

theorem dropRecords (rows : List RecordRow) :
    Ends s (Store.dropRecords rows) (fun _ t => Kept rel s t) (Kept rel s) := by
  have dropped : Ends s (Store.dropRecords rows)
      (fun _ t => t.ids = s.ids ∧ t.files = s.files ∧ rel s.db t.db) fun t => t = s := by
    refine Ends.transaction (fun _ _ kept => ⟨kept.1, kept.2.1⟩) ?_ rfl
    refine Ends.forM (fun _ t => t.ids = s.ids ∧ t.files = s.files ∧ rel s.db t.db)
      ⟨rfl, rfl, upkeep.refl _⟩ ?_
    rintro row rest t ⟨ids, files, kept⟩
    refine Ends.execute_bind ⟨ids, files⟩ fun _ db removed => ?_
    cases removed
    refine Ends.write ⟨ids, files⟩ ⟨ids, files, ?_⟩
    exact upkeep.trans kept (upkeep.trans (upkeep.deleteRecords _ _) (upkeep.subBytes _ _ _))
  refine dropped.consequence ?_ ?_
  · rintro _ t ⟨ids, -, kept⟩
    exact ⟨ids, kept⟩
  · rintro _ rfl
    exact upkeep.kept_refl _

theorem deleteRecordsWhere (predicate : Database → RecordRow → Bool) :
    Ends s (Store.deleteRecordsWhere predicate) (fun _ t => Kept rel s t) (Kept rel s) := by
  refine Ends.query_bind (upkeep.kept_refl s) (Ends.ite (fun _ => Ends.pure (upkeep.kept_refl s)) ?_)
  intro _
  refine Ends.bind ((deleteFiles_ends _).consequence (fun _ _ same => same) fun _ => upkeep.kept_of_eq) ?_
  intro _ t same
  have start : Kept rel s t := upkeep.kept_of_eq same
  refine Ends.bind ((upkeep.dropRecords _).consequence (fun _ _ => upkeep.kept_trans start) fun _ =>
    upkeep.kept_trans start) fun _ _ kept => Ends.pure kept

theorem evictCandidates (candidates : List (RecordRow × Str)) (overBy evicted reclaimed : Nat) :
    Ends s (Store.evictCandidates candidates overBy evicted reclaimed) (fun _ t => Kept rel s t)
      (Kept rel s) := by
  refine evictCandidates_keeps (fun _ _ kept => kept) (fun t row kept => ⟨kept.1, ?_⟩)
    (upkeep.kept_refl s) _ _ _ _
  exact upkeep.trans kept.2 (upkeep.trans (upkeep.evict t.db row.id) (upkeep.subBytes _ _ _))

theorem trimTotal (keepTotal : Nat) :
    Ends s (Store.trimTotal keepTotal) (fun _ t => Kept rel s t) (Kept rel s) :=
  Ends.query_bind (upkeep.kept_refl s)
    (Ends.ite (fun _ => Ends.pure (upkeep.kept_refl s)) fun _ => upkeep.deleteRecordsWhere _)

theorem dropEmptyGroupsBefore (cutoffMs : I64) :
    Ends s (Store.dropEmptyGroupsBefore cutoffMs) (fun _ t => Kept rel s t) (Kept rel s) := by
  unfold Store.dropEmptyGroupsBefore Store.deleteGroups
  refine (Ends.execute (upkeep.kept_refl s)).consequence ?_ fun _ kept => kept
  rintro _ _ ⟨db, deleted, rfl⟩
  cases deleted
  exact ⟨rfl, upkeep.deleteGroups _ _⟩

theorem evictPayloads (maxBytes : Nat) :
    Ends s (Store.evictPayloads maxBytes) (fun _ t => Kept rel s t) (Kept rel s) := by
  refine Ends.query_bind (upkeep.kept_refl s) (Ends.ite (fun _ => Ends.pure (upkeep.kept_refl s)) ?_)
  exact fun _ => Ends.query_bind (upkeep.kept_refl s) (upkeep.evictCandidates _ _ _ _)

theorem pruneIngestedSources (nowMs artifactCutoffMs : I64) :
    Ends s (Store.pruneIngestedSources nowMs artifactCutoffMs) (fun _ t => Kept rel s t)
      (Kept rel s) := by
  unfold Store.pruneIngestedSources
  refine (Ends.execute (upkeep.kept_refl s)).consequence ?_ fun _ kept => kept
  rintro _ _ ⟨db, deleted, rfl⟩
  cases deleted
  exact ⟨rfl, upkeep.prune _ _⟩

/-- Whatever fails on the way, a sweep is upkeep. -/
theorem sweep (nowMs : I64) (retention : RetentionPolicy) :
    Ends s (Store.sweep nowMs retention) (fun _ t => Kept rel s t) (Kept rel s) := by
  refine upkeep.bind (upkeep.deleteRecordsWhere _) fun _ _ => ?_
  refine upkeep.bind (upkeep.deleteRecordsWhere _) fun _ _ => ?_
  refine upkeep.bind (upkeep.trimTotal _) fun _ _ => ?_
  refine upkeep.bind (upkeep.dropEmptyGroupsBefore _) fun _ _ => ?_
  refine upkeep.bind (upkeep.evictPayloads _) fun _ _ => ?_
  exact upkeep.bind (upkeep.pruneIngestedSources _ _) fun _ t => Ends.pure (upkeep.kept_refl t)

omit upkeep

theorem erase {rel : Database → Database → Prop} (upkeep : Upkeep rel) (db : Database)
    (target : DeleteTarget) : rel db (db.erase target) := by
  have erased : ∀ records groups, rel db (db.eraseWhere records groups) := fun _ _ =>
    upkeep.trans (upkeep.deleteRecords _ _) (upkeep.deleteGroups _ _)
  cases target with
  | all => exact erased (fun _ => true) fun _ _ => true
  | group chosen =>
      exact erased (fun row => row.groupId == chosen) fun _ group => group.groupId == chosen
  | ids chosen =>
      cases chosen with
      | nil => exact upkeep.refl db
      | cons id rest =>
          exact erased (fun row => (id :: rest).contains row.id) fun db group =>
            !db.hasRecordIn group.groupId

end Upkeep

def Every (property : GroupSummary → Prop) (db : Database) : Prop := ∀ group ∈ db.groups.rows, property group

theorem Every.congr {property : GroupSummary → Prop} {db db' : Database} (every : Every property db)
    (groups : db'.groups = db.groups) : Every property db' := by
  unfold Every
  rwa [groups]

theorem Every.updateGroup {property : GroupSummary → Prop} {db : Database} (every : Every property db)
    {groupId : Str} {f : GroupSummary → GroupSummary} {keeps : ∀ row, (f row).groupId = row.groupId}
    (same : ∀ group, property group → property (f group)) :
    Every property (db.updateGroup groupId f keeps) := by
  intro group member
  have rewritten : group ∈ (db.groups.modify (fun row => row.groupId = groupId) f keeps).rows := member
  obtain ⟨old, stored, rfl⟩ := Table.mem_modify.mp rewritten
  split
  · exact same old (every old stored)
  · exact every old stored

def IgnoresBytes (property : GroupSummary → Prop) : Prop :=
  ∀ group bytes, property group → property { group with payloadBytes := bytes }

theorem upkeep_every {property : GroupSummary → Prop} (ignores : IgnoresBytes property) :
    Upkeep fun db db' => Every property db → Every property db' where
  refl _ every := every
  trans first next every := next (first every)
  deleteRecords _ _ every := every
  deleteGroups _ _ every group member := every group (Table.mem_delete.mp member).1
  evict _ _ every := every
  subBytes _ _ _ every := every.updateGroup fun group => ignores group _
  prune _ _ every := every

theorem Every.insertCrash {property : GroupSummary → Prop} {db db' : Database} {group : GroupSummary}
    {row : RecordRow} (every : Every property db) (inserted : db.insertCrash group row = some db')
    (first : group.groupId ∉ db.groupIds → property group)
    (again : ∀ old ∈ db.groups.rows, old.groupId = group.groupId → property old →
      property (group.sightAgain old)) : Every property db' := by
  have groups := (Database.insertCrash_eq_some inserted).2.2
  suffices upserted : Every property (db.upsertGroup group) from upserted.congr groups
  intro other member
  rcases Database.mem_upsertGroup member with ⟨old, -⟩ | ⟨rfl, fresh⟩ | ⟨old, stored, same, rfl⟩
  · exact every other old
  · exact first fresh
  · exact again old stored same (every old stored)

theorem Every.foldInto {property : GroupSummary → Prop} {db : Database} (every : Every property db)
    (ignores : IgnoresBytes property) (existing : RecordSummary) (record : CrashRecord)
    (adopted : Option WrittenPayload) : Every property (db.foldInto existing record adopted) := by
  unfold Database.foldInto
  cases adopted with
  | none => exact every
  | some adopted =>
      exact @Every.updateGroup _ ((db.foldSources _ _).updateRecord _ _ _) every _ _ _ fun group =>
        ignores group _

section
variable (platform : Platform) {property : GroupSummary → Prop}

theorem Op.run_every (ignores : IgnoresBytes property) {s : StoreState} (op : Op)
    (every : Every property s.db)
    (first : ∀ record retention sourceKeys ingestedAtMs written,
      op = .insert record retention sourceKeys ingestedAtMs → property (sightingOf platform record written))
    (again : ∀ record retention sourceKeys ingestedAtMs written old,
      op = .insert record retention sourceKeys ingestedAtMs → property old →
        property ((sightingOf platform record written).sightAgain old)) :
    Ends s (op.run platform) (fun _ t => Every property t.db) fun t => Every property t.db := by
  have upkeep := upkeep_every ignores
  cases op with
  | insert record retention sourceKeys ingestedAtMs =>
      refine Ends.bind ((insertWithSources_exact platform record retention sourceKeys
        ingestedAtMs).consequence (fun _ _ done => done) ?_) ?_
      · rintro t ⟨-, rows⟩
        exact rows ▸ every
      · rintro _ t ⟨-, written, db, -, inserted, rows⟩
        have grown : Every property db := every.insertCrash inserted
          (fun _ => first record retention sourceKeys ingestedAtMs written rfl)
          fun old _ _ => again record retention sourceKeys ingestedAtMs written old rfl
        refine Ends.pure ?_
        rw [rows]
        exact grown.congr (Database.ingest_rows db sourceKeys ingestedAtMs).1
  | fold existing record retention sourceKeys ingestedAtMs =>
      refine Ends.query_bind every ?_
      cases s.db.records.find? existing with
      | none => exact Ends.pure every
      | some row =>
          refine Ends.bind ((foldIntoRecord_exact platform row.toRecordSummary record retention sourceKeys
            ingestedAtMs).consequence (fun _ _ done => done) ?_) ?_
          · rintro t ⟨-, rows⟩
            exact rows ▸ every
          · rintro _ t ⟨-, adopted, -, -, rows⟩
            refine Ends.pure ?_
            rw [rows]
            exact (every.foldInto ignores row.toRecordSummary record adopted).congr
              (Database.ingest_rows _ sourceKeys ingestedAtMs).1
  | sweep nowMs retention =>
      refine Ends.bind ((upkeep.sweep nowMs retention).consequence (fun _ _ kept => kept.2 every)
        fun _ kept => kept.2 every) ?_
      exact fun _ _ every => Ends.pure every
  | delete target =>
      refine Ends.bind ((delete_ends target).consequence (fun _ _ done => done) ?_) ?_
      · rintro t ⟨-, rows⟩
        exact rows ▸ every
      · rintro _ t ⟨-, rows⟩
        refine Ends.pure ?_
        rw [rows]
        exact upkeep.erase s.db target every

end
end CrashCatcher.Store
