import CrashCatcher.Daemon.Ingests
import CrashCatcher.Store.Sighted

namespace CrashCatcher.Model

theorem SourceMask.fromBitsTruncate_union {a b : SourceMask} (other : SourceMask)
    (same : fromBitsTruncate a.bits = fromBitsTruncate b.bits) :
    fromBitsTruncate (a.union other).bits = fromBitsTruncate (b.union other).bits := by
  have bits : a.bits &&& known = b.bits &&& known := congrArg SourceMask.bits same
  simp only [fromBitsTruncate, union, BitVec.and_or_distrib_right, bits]

theorem SourceMask.fromBitsTruncate_idem (m : SourceMask) :
    fromBitsTruncate (fromBitsTruncate m.bits).bits = fromBitsTruncate m.bits := by
  simp only [fromBitsTruncate, BitVec.and_assoc, BitVec.and_self]

end CrashCatcher.Model

namespace CrashCatcher.Store
open Lib Model

def GroupSummary.bare (group : GroupSummary) : GroupSummary := { group with payloadBytes := 0 }

/-- What is left of a store when a crash that it holds is reported again from those sources, and `row` becomes `row'`. -/
structure Resighted (row : RecordRow) (sources : SourceMask) (sourceKeys : List Str) (s : StoreState)
    (row' : RecordRow) (t : StoreState) : Prop where
  ids : t.db.records.rows.map (·.id) = s.db.records.rows.map (·.id)
  others : ∀ other ∈ s.db.records.rows, other.id ≠ row.id → other ∈ t.db.records.rows
  groups : t.db.groups.rows.map GroupSummary.bare = s.db.groups.rows.map GroupSummary.bare
  stored : row' ∈ t.db.records.rows
  id : row'.id = row.id
  crash : row'.pid = row.pid ∧ row'.happenedAtMs = row.happenedAtMs ∧ row'.groupId = row.groupId
  read : SourceMask.fromBitsTruncate row'.sources.bits = SourceMask.fromBitsTruncate sources.bits
  payload : row.payloadState ≠ .absent → row' = row.setSources row'.sources ∧ t.files = s.files
  marks : ∀ mark ∈ s.db.sources.rows, mark ∈ t.db.sources.rows
  marked : ∀ sourceKey ∈ sourceKeys, ∃ mark ∈ t.db.sources.rows, mark.sourceKey = sourceKey

section
variable {row row' row'' : RecordRow} {sources sources' : SourceMask} {sourceKeys sourceKeys' : List Str}
  {s t u : StoreState}

theorem Resighted.trans (first : Resighted row sources sourceKeys s row' t)
    (next : Resighted row' sources' sourceKeys' t row'' u) :
      Resighted row sources' (sourceKeys ++ sourceKeys') s row'' u where
  ids := next.ids.trans first.ids
  others other stored apart := next.others other (first.others other stored apart) (first.id ▸ apart)
  groups := next.groups.trans first.groups
  stored := next.stored
  id := next.id.trans first.id
  crash := ⟨next.crash.1.trans first.crash.1, next.crash.2.1.trans first.crash.2.1,
    next.crash.2.2.trans first.crash.2.2⟩
  read := next.read
  payload present := by
    obtain ⟨same, files⟩ := first.payload present
    have present' : row'.payloadState ≠ .absent := by
      rw [same]
      exact present
    obtain ⟨same', files'⟩ := next.payload present'
    refine ⟨?_, files'.trans files⟩
    rw [same', same]
    rfl
  marks mark stored := next.marks mark (first.marks mark stored)
  marked sourceKey member := by
    rcases List.mem_append.mp member with early | late
    · obtain ⟨mark, stored, named⟩ := first.marked sourceKey early
      exact ⟨mark, next.marks mark stored, named⟩
    · exact next.marked sourceKey late

theorem Resighted.of_read (resighted : Resighted row sources sourceKeys s row' t)
    (same : SourceMask.fromBitsTruncate sources.bits = SourceMask.fromBitsTruncate sources'.bits) :
    Resighted row sources' sourceKeys s row' t :=
  { resighted with read := resighted.read.trans same }

theorem Resighted.of_marks (stored : row ∈ s.db.records.rows) (marks : Marks s.db t.db)
    (files : row.payloadState ≠ .absent → t.files = s.files)
    (marked : ∀ sourceKey ∈ sourceKeys, ∃ mark ∈ t.db.sources.rows, mark.sourceKey = sourceKey) :
    Resighted row row.sources sourceKeys s row t where
  ids := by rw [marks.records]
  others other stored _ := marks.records ▸ stored
  groups := by rw [marks.groups]
  stored := marks.records ▸ stored
  id := rfl
  crash := ⟨rfl, rfl, rfl⟩
  read := rfl
  payload present := ⟨rfl, files present⟩
  marks := marks.sources
  marked := marked

theorem insertSource_marked (db : Database) (mark : SourceRow) :
    ∃ kept ∈ (db.insertSource mark).sources.rows, kept.sourceKey = mark.sourceKey := by
  unfold Database.insertSource
  cases inserted : db.sources.insert? mark with
  | none => exact Table.insert?_eq_none_iff.mp inserted
  | some sources =>
      refine ⟨mark, ?_, rfl⟩
      show mark ∈ sources.rows
      rw [(Table.insert?_eq_some inserted).2]
      exact List.mem_append_right _ (List.mem_singleton_self mark)

theorem ingest_marked (db : Database) (sourceKeys : List Str) (ingestedAtMs : I64) :
    ∀ sourceKey ∈ sourceKeys, ∃ mark ∈ (db.ingest sourceKeys ingestedAtMs).sources.rows,
      mark.sourceKey = sourceKey := by
  induction sourceKeys generalizing db with
  | nil => exact fun _ member => by cases member
  | cons first rest ih =>
      intro sourceKey member
      rcases List.mem_cons.mp member with rfl | later
      · obtain ⟨mark, stored, named⟩ := insertSource_marked db { sourceKey, ingestedAtMs }
        exact ⟨mark, (marks_ingest _ rest ingestedAtMs).sources mark stored, named⟩
      · exact ih _ sourceKey later

theorem markAll_marked (db : Database) (clock : Nat → I64) (sourceKeys : List Str) :
    ∀ sourceKey ∈ sourceKeys, ∃ mark ∈ (db.markAll clock sourceKeys).sources.rows, mark.sourceKey =
      sourceKey := by
  induction sourceKeys generalizing db clock with
  | nil => exact fun _ member => by cases member
  | cons first rest ih =>
      intro sourceKey member
      rcases List.mem_cons.mp member with rfl | later
      · obtain ⟨mark, stored, named⟩ := insertSource_marked db { sourceKey, ingestedAtMs := clock 0 }
        exact ⟨mark, (marks_markAll _ _ rest).sources mark stored, named⟩
      · exact ih _ _ sourceKey later

theorem RecordRow.id_folded (sources : SourceMask) (adopted : Option WrittenPayload) (row : RecordRow) :
    (row.folded sources adopted).id = row.id := by
  cases adopted <;> rfl

theorem RecordRow.sources_folded (sources : SourceMask) (adopted : Option WrittenPayload) (row : RecordRow) :
    (row.folded sources adopted).sources = sources := by
  cases adopted <;> rfl

theorem Resighted.of_fold {record : CrashRecord} {adopted : Option WrittenPayload} {ingestedAtMs : I64}
    (stored : row ∈ s.db.records.rows) (id : (mapRecord row).id = row.id)
    (absent : adopted.isSome → row.payloadState = .absent) (files : row.payloadState ≠ .absent →
      t.files = s.files)
    (rows : t.db = (s.db.foldInto (mapRecord row) record adopted).ingest sourceKeys ingestedAtMs) :
    Resighted row (row.sources.union record.sources) sourceKeys s
      (row.folded ((mapRecord row).sources.union record.sources) adopted) t := by
  let union := (mapRecord row).sources.union record.sources
  have marks := marks_ingest (s.db.foldInto (mapRecord row) record adopted) sourceKeys ingestedAtMs
  have records : t.db.records.rows = s.db.records.rows.map fun other =>
      if other.id = row.id then other.folded union adopted else other := by
    rw [rows, marks.records, Database.foldInto_rows, id]
  obtain ⟨bytes, folded⟩ := Database.foldInto_groups s.db (mapRecord row) record adopted
  have groups : t.db.groups.rows = s.db.groups.rows.map fun group =>
      if group.groupId = (mapRecord row).groupId then group.addBytes bytes else group := by
    rw [rows, marks.groups, folded]
  have sources : (s.db.foldInto (mapRecord row) record adopted).sources = s.db.sources := by
    cases adopted <;> rfl
  refine ⟨?_, fun other member apart => ?_, ?_, ?_, RecordRow.id_folded _ _ _, ?_, ?_, fun present => ?_,
    fun mark kept => ?_, fun sourceKey member => ?_⟩
  · rw [records, List.map_map]
    refine List.map_congr_left fun other _ => ?_
    show (if other.id = row.id then other.folded union adopted else other).id = other.id
    split
    · exact RecordRow.id_folded _ _ _
    · rfl
  · rw [records]
    exact List.mem_map.mpr ⟨other, member, if_neg apart⟩
  · rw [groups, List.map_map]
    refine List.map_congr_left fun group _ => ?_
    show (if group.groupId = (mapRecord row).groupId then group.addBytes bytes else group).bare = group.bare
    split <;> rfl
  · rw [records]
    exact List.mem_map.mpr ⟨row, stored, if_pos rfl⟩
  · cases adopted <;> exact ⟨rfl, rfl, rfl⟩
  · rw [RecordRow.sources_folded]
    exact SourceMask.fromBitsTruncate_union _ (SourceMask.fromBitsTruncate_idem _)
  · cases adopted with
    | none => exact ⟨rfl, files present⟩
    | some adopted => exact absurd (absent rfl) present
  · rw [rows]
    exact marks.sources mark (sources ▸ kept)
  · rw [rows]
    exact ingest_marked _ _ _ sourceKey member

theorem Resighted.shows (resighted : Resighted row sources sourceKeys s row' t) {who : CrashIdentity}
    (shows_ : s.db.Shows row who) : t.db.Shows row' who := by
  obtain ⟨pid, at_, group, member, groupId, processName, kind, userId⟩ := shows_
  obtain ⟨pid', at', groupId'⟩ := resighted.crash
  have kept : group.bare ∈ t.db.groups.rows.map GroupSummary.bare := by
    rw [resighted.groups]
    exact List.mem_map_of_mem member
  obtain ⟨group', member', same⟩ := List.mem_map.mp kept
  refine ⟨pid'.trans pid, at'.trans at_, group', member', ?_, ?_, ?_, ?_⟩
  · exact (congrArg GroupSummary.groupId same).trans (groupId.trans groupId'.symm)
  · exact (congrArg GroupSummary.processName same).trans processName
  · exact (congrArg GroupSummary.kind same).trans kind
  · exact (congrArg GroupSummary.userId same).trans userId

end
end CrashCatcher.Store

namespace CrashCatcher.Daemon
open Lib Model Config Store Fallible

theorem enrichRecord_keeps (state : CoreState) (record : CrashRecord) :
    (enrichRecord state record).identity = record.identity ∧
      (enrichRecord state record).sources = record.sources := by
  unfold enrichRecord
  split
  · exact ⟨rfl, rfl⟩
  · dsimp only
    split <;> split <;> exact ⟨rfl, rfl⟩

/-- No stored group of another process's crashes, of another kind or user, has the id of the record's group. -/
def Distinct (core : DaemonCore) (state : CoreState) (record : CrashRecord) (_ : Nat → I64) : Prop :=
  ∀ group ∈ state.world.store.db.groups.rows,
    group.groupId = (enrichRecord state record).groupId core.platform.sha256 →
      group.processName = record.processName ∧ group.kind = record.kind ∧ group.userId = record.userId

theorem companionWindowMs_nonneg (kind : CrashKind) : 0 ≤ (companionWindowMs kind).val := by
  cases kind <;> decide

section
variable {core : DaemonCore} {config : ConfigDocument} {s t : StoreState} {record : CrashRecord}
variable {sourceKeys : List Str} {clock : Nat → I64} {result : Option Inserted}

theorem shrinks_of_marks {db db' : Database} (marks : Marks db db') : db.Shrinks db' := by
  intro row stored
  refine ⟨row, marks.records ▸ stored, rfl, fun who shows_ => shows_.of_groups fun group member => ?_⟩
  exact ⟨group, marks.groups ▸ member, rfl, rfl, rfl, rfl⟩

theorem IngestOutcome.once (outcome : IngestOutcome core config s record sourceKeys clock result t)
    (before : Stands s) (once : s.db.Once)
    (alone : ∀ group ∈ s.db.groups.rows, group.groupId = record.groupId core.platform.sha256 →
      group.processName = record.processName ∧ group.kind = record.kind ∧ group.userId = record.userId) :
    t.db.Once := by
  cases outcome with
  | excluded _ => exact once.of_shrinks (shrinks_of_marks (marks_markAll _ _ _))
  | @folded row adopted t _ _ found absent written ids _ rows =>
      rw [rows]
      exact (once.of_shrinks (shrinks_foldInto _ _ _ _)).of_shrinks (shrinks_of_marks (marks_ingest _ _ _))
  | inserted _ unseen recorded =>
      cases recorded with
      | @intro written db u payload ids added rows swept =>
          obtain ⟨faults, rfl⟩ := swept
          have inserted : db.Once := by
            refine once.insertCrash before.rows added rfl alone fun known other stored shows_ => ?_
            have same : s.db.Shows _ record.identity := shows_
            obtain ⟨found, -, here, -⟩ := companion_of_shows stored same (companionWindowMs_nonneg record.kind)
            cases (unseen known).symm.trans here
          have stored : u.db.Once := rows ▸ inserted.of_shrinks (shrinks_of_marks (marks_ingest _ _ _))
          have kept (v : StoreState) (shrinks : u.db.Shrinks v.db) : v.db.Once := stored.of_shrinks shrinks
          have sweeps := (upkeep_shrinks.sweep (clock 1) config.global.retention).consequence
            (fun _ v shrinks => kept v shrinks.2) fun v shrinks => kept v shrinks.2
          exact trySweep_always sweeps faults

end

theorem Ingests.once {core : DaemonCore} {s : StoreState} (run : Ingests core (Distinct core) s) :
    s.db.Once := by
  induction run with
  | empty => exact fun _ _ _ stored => by cases stored
  | @ingest state before record sourceKeys clock distinct ih =>
      rcases ingest_always record sourceKeys clock state with ⟨_, config, parsed, outcome⟩ | lost
      · refine outcome.once before.kept ih fun group member same => ?_
        obtain ⟨identity, -⟩ := enrichRecord_keeps state record
        obtain ⟨processName, kind, userId⟩ := distinct group member same
        exact ⟨processName.trans (congrArg CrashIdentity.processName identity).symm,
          kind.trans (congrArg CrashIdentity.kind identity).symm,
          userId.trans (congrArg CrashIdentity.userId identity).symm⟩
      · exact ih.of_shrinks (shrinks_of_marks lost.marks)

structure IngestCall where
  record : CrashRecord
  sourceKeys : List Str
  clock : Nat → I64

namespace DaemonCore
variable (self : DaemonCore)

def ingestCall (state : CoreState) (call : IngestCall) : List IngestCall × CoreState :=
  match self.ingestWithSources call.record call.sourceKeys call.clock state with
  | (.ok _, after) => ([call], after)
  | (.error _, after) => ([], after)

def admitted (state : CoreState) (record : CrashRecord) : Bool :=
  match self.configStore.parse state.disk.files with
  | .ok config => admits config (enrichRecord state record)
  | .error _ => false

/-- A mask with the sources of every call whose record is admitted. -/
def sourcesOf (state : CoreState) (done : List IngestCall) (mask : SourceMask) : SourceMask :=
  (done.filter fun call => self.admitted state call.record).foldl
    (fun mask call => mask.union call.record.sources) mask

end DaemonCore

section
variable {core : DaemonCore} {config : ConfigDocument} {s t : StoreState} {record : CrashRecord}
variable {sourceKeys : List Str} {clock : Nat → I64} {result : Option Inserted} {row : RecordRow}

/-- A call about a stored crash that completes inserts nothing and is folded into that crash, if it is admitted. -/
theorem IngestOutcome.resighted (outcome : IngestOutcome core config s record sourceKeys clock result t)
    (stands : Stands s) (once : s.db.Once) (stored : row ∈ s.db.records.rows) (known : row.pid ≠ 0)
    (same : s.db.Shows row record.identity) :
    result = none ∧ t.db.Once ∧ ∃ row', Resighted row
      (if admits config record then row.sources.union record.sources else row.sources) sourceKeys s row' t := by
  have known' : record.pid ≠ 0 := fun zero => known (same.1.trans zero)
  obtain ⟨found, member, nearest, shows_⟩ :=
    companion_of_shows stored same (companionWindowMs_nonneg record.kind)
  have own : found = row := s.db.records.eq_of_key_eq member stored
    (once record.identity known' found member row stored shows_ same)
  cases outcome with
  | excluded refused =>
      refine ⟨rfl, once.of_shrinks (shrinks_of_marks (marks_markAll _ _ _)), row, ?_⟩
      rw [refused]
      exact .of_marks stored (marks_markAll _ _ _) (fun _ => rfl) (markAll_marked _ _ _)
  | @folded row' adopted t admitted _ companion absent written ids files rows =>
      obtain rfl : row' = row := (Option.some.inj (companion.symm.trans nearest)).trans own
      have id := mapRecord_id stands.rows stored
      refine ⟨rfl, ?_, row'.folded ((mapRecord row').sources.union record.sources) adopted, ?_⟩
      · rw [rows]
        exact (once.of_shrinks (shrinks_foldInto _ _ _ _)).of_shrinks (shrinks_of_marks (marks_ingest _ _ _))
      · rw [if_pos admitted]
        exact .of_fold stored id absent files rows
  | inserted _ unseen _ => cases (unseen known').symm.trans nearest

theorem Lost.resighted (lost : Lost record s t) (once : s.db.Once) (stored : row ∈ s.db.records.rows)
    (known : row.pid ≠ 0) (same : s.db.Shows row record.identity) :
    t.db.Once ∧ Resighted row row.sources [] s row t := by
  have known' : record.pid ≠ 0 := fun zero => known (same.1.trans zero)
  obtain ⟨found, member, nearest, shows_⟩ :=
    companion_of_shows stored same (companionWindowMs_nonneg record.kind)
  obtain rfl : found = row := s.db.records.eq_of_key_eq member stored
    (once record.identity known' found member row stored shows_ same)
  exact ⟨once.of_shrinks (shrinks_of_marks lost.marks),
    .of_marks stored lost.marks (lost.files found known' nearest)
    fun _ member => by cases member⟩

end

structure Again (core : DaemonCore) (state : CoreState) (row : RecordRow) (done : List IngestCall)
    (after : CoreState) : Prop where
  frame : Frame state after
  effects : after.effects = state.effects
  stands : Stands after.world.store
  once : after.world.store.db.Once
  resighted : ∃ row', Resighted row (core.sourcesOf state done row.sources) (done.flatMap IngestCall.sourceKeys)
    state.world.store row' after.world.store

theorem ingestCall_again (core : DaemonCore) {state : CoreState} (stands : Stands state.world.store)
    (once : state.world.store.db.Once) {row : RecordRow} (stored : row ∈ state.world.store.db.records.rows)
    (known : row.pid ≠ 0) (call : IngestCall) (same : state.world.store.db.Shows row call.record.identity) :
    Again core state row (core.ingestCall state call).1 (core.ingestCall state call).2 := by
  obtain ⟨identity, sources⟩ := enrichRecord_keeps state call.record
  have same : state.world.store.db.Shows row (enrichRecord state call.record).identity := identity ▸ same
  have leaves := core.ingest_leaves call.record call.sourceKeys call.clock state rfl
  unfold DaemonCore.ingestCall
  rcases ran : core.ingestWithSources call.record call.sourceKeys call.clock state with ⟨error | result, after⟩
  · rw [ran] at leaves
    obtain ⟨frame, effects, lost⟩ := leaves
    obtain ⟨once', resighted⟩ := lost.resighted once stored known same
    exact ⟨frame, effects, lost.kept stands, once', row, resighted⟩
  · rw [ran] at leaves
    obtain ⟨frame, announces, config, parsed, outcome⟩ := leaves
    obtain ⟨rfl, once', row', resighted⟩ := outcome.resighted stands once stored known same
    have admitted : core.admitted state call.record = admits config (enrichRecord state call.record) := by
      simp only [DaemonCore.admitted, parsed]
    have union : core.sourcesOf state [call] row.sources =
        if admits config (enrichRecord state call.record) then row.sources.union call.record.sources
          else row.sources := by
      rw [← admitted, DaemonCore.sourcesOf, List.filter_singleton]
      cases core.admitted state call.record <;> rfl
    have keys : [call].flatMap IngestCall.sourceKeys = call.sourceKeys := List.flatMap_singleton ..
    rw [sources, ← union, ← keys] at resighted
    exact ⟨frame, announces, outcome.kept stands, once', row', resighted⟩

def DaemonCore.ingestAll (core : DaemonCore) (calls : List IngestCall) (state : CoreState) :
    List IngestCall × CoreState :=
  Run.collect core.ingestCall calls state

theorem admitted_of_frame {core : DaemonCore} {state after : CoreState} (frame : Frame state after)
    (record : CrashRecord) :
    core.admitted after record = core.admitted state record := by
  unfold DaemonCore.admitted enrichRecord
  rw [frame.files, frame.packages, frame.cachedPackage]

theorem sourcesOf_append (core : DaemonCore) {state after : CoreState} (frame : Frame state after)
    (done later : List IngestCall) (mask : SourceMask) :
    core.sourcesOf state (done ++ later) mask =
      core.sourcesOf after later (core.sourcesOf state done mask) := by
  unfold DaemonCore.sourcesOf
  rw [List.filter_append, List.foldl_append]
  simp only [admitted_of_frame frame]

theorem sourcesOf_congr (core : DaemonCore) (state : CoreState) (done : List IngestCall) {a b : SourceMask}
    (same : SourceMask.fromBitsTruncate a.bits = SourceMask.fromBitsTruncate b.bits) :
    SourceMask.fromBitsTruncate (core.sourcesOf state done a).bits =
      SourceMask.fromBitsTruncate (core.sourcesOf state done b).bits := by
  unfold DaemonCore.sourcesOf
  generalize done.filter _ = admitted
  induction admitted generalizing a b with
  | nil => exact same
  | cons call calls ih => exact ih (SourceMask.fromBitsTruncate_union _ same)

theorem ingestAll_again (core : DaemonCore) (calls : List IngestCall) {state : CoreState}
    (stands : Stands state.world.store) (once : state.world.store.db.Once) {row : RecordRow}
    (stored : row ∈ state.world.store.db.records.rows) (known : row.pid ≠ 0)
    (same : ∀ call ∈ calls, state.world.store.db.Shows row call.record.identity) :
    Again core state row (core.ingestAll calls state).1 (core.ingestAll calls state).2 := by
  induction calls generalizing state row with
  | nil => 
      exact ⟨⟨rfl, rfl, rfl, rfl⟩, rfl, stands, once, row, .of_marks stored (.refl _) (fun _ => rfl)
        fun _ member => by cases member⟩
  | cons call calls ih =>
      have first := ingestCall_again core stands once stored known call (same call List.mem_cons_self)
      obtain ⟨row', resighted⟩ := first.resighted
      have known' : row'.pid ≠ 0 := resighted.crash.1 ▸ known
      have next := ih first.stands first.once resighted.stored known' fun other member =>
        resighted.shows (same other (List.mem_cons_of_mem _ member))
      obtain ⟨row'', resighted'⟩ := next.resighted
      have frame : Frame state (core.ingestAll calls (core.ingestCall state call).2).2 :=
        ⟨next.frame.files.trans first.frame.files, next.frame.packages.trans first.frame.packages,
          next.frame.cachedPackage.trans first.frame.cachedPackage,
          next.frame.volatileMutes.trans first.frame.volatileMutes⟩
      refine ⟨frame, next.effects.trans first.effects, next.stands, next.once, row'', ?_⟩
      show Resighted row (core.sourcesOf state (_ ++ _) row.sources)
        (List.flatMap IngestCall.sourceKeys (_ ++ _)) _ row'' _
      rw [List.flatMap_append, sourcesOf_append core first.frame]
      exact (resighted.trans resighted').of_read (sourcesOf_congr core _ _ resighted.read)

/-- Reports of a crash that is stored add no row and announce nothing, whatever fails. -/
theorem reingest_idempotent (core : DaemonCore) {state : CoreState}
    (reached : Ingests core (Distinct core) state.world.store) {row : RecordRow}
    (stored : row ∈ state.world.store.db.records.rows) (known : row.pid ≠ 0) (calls : List IngestCall)
    (same : ∀ call ∈ calls, state.world.store.db.Shows row call.record.identity) :
    let ended := core.ingestAll calls state
    ended.2.effects = state.effects ∧ ∃ row', Resighted row (core.sourcesOf state ended.1 row.sources)
      (ended.1.flatMap IngestCall.sourceKeys) state.world.store row' ended.2.world.store := by
  have again := ingestAll_again core calls reached.kept reached.once stored known same
  exact ⟨again.effects, again.resighted⟩

def withoutSelfHandled : DaemonCore := .plain {
  fromStr _ := some { global := { captureSelfHandled := false } }
  toStringPretty _ := none }

def holdingEvents : CoreState :=
  (withoutSelfHandled.ingestWithSources oneByteCrash [] (fun _ => 0)
    { CoreState.fresh with disk := { files := fun _ => some [], faults := fun _ => none } }).2

theorem holdingEvents_reached : Ingests withoutSelfHandled
    (Distinct withoutSelfHandled) holdingEvents.world.store :=
  .ingest .empty oneByteCrash [] _ fun _ member => by cases member

theorem holdingEvents_shows : ∃ row ∈ holdingEvents.world.store.db.records.rows, row.pid ≠ 0 ∧
    holdingEvents.world.store.db.Shows row oneByteCrash.identity := by
  have found : (holdingEvents.world.store.db.records.rows.any fun row =>
      decide (row.pid ≠ 0) && decide (holdingEvents.world.store.db.Shows row oneByteCrash.identity)) =
        true := by
    decide +kernel
  obtain ⟨row, stored, here⟩ := List.any_eq_true.mp found
  rw [Bool.and_eq_true, decide_eq_true_iff, decide_eq_true_iff] at here
  exact ⟨row, stored, here⟩

def crashBufferReport : IngestCall where
  record := { oneByteCrash with sources := .crashBuffer, selfHandled := true }
  sourceKeys := ["buffer".toList]
  clock _ := 0

theorem reingest_idempotent_of_crash_buffer : ∃ row ∈ holdingEvents.world.store.db.records.rows,
    let ended := withoutSelfHandled.ingestAll [crashBufferReport] holdingEvents
    ended.2.effects = holdingEvents.effects ∧ ∃ row', Resighted row
      (withoutSelfHandled.sourcesOf holdingEvents ended.1 row.sources) (ended.1.flatMap IngestCall.sourceKeys)
      holdingEvents.world.store row' ended.2.world.store := by
  obtain ⟨row, stored, known, shows_⟩ := holdingEvents_shows
  refine ⟨row, stored, reingest_idempotent withoutSelfHandled holdingEvents_reached stored known _
    fun call member => ?_⟩
  rw [List.mem_singleton.mp member]
  exact shows_

/-- A completed report that the configuration excludes leaves its source out of the stored record. -/
theorem excluded_report_adds_no_source : ∃ row ∈ holdingEvents.world.store.db.records.rows,
    Ingests withoutSelfHandled (Distinct withoutSelfHandled) holdingEvents.world.store ∧ row.pid ≠ 0 ∧
      holdingEvents.world.store.db.Shows row crashBufferReport.record.identity ∧
      let ended := withoutSelfHandled.ingestAll [crashBufferReport] holdingEvents
      ended.1.length = 1 ∧ ∀ row' ∈ ended.2.world.store.db.records.rows, row'.id = row.id →
        row'.sources ≠ row.sources.union crashBufferReport.record.sources := by
  obtain ⟨row, stored, known, shows_⟩ := holdingEvents_shows
  refine ⟨row, stored, holdingEvents_reached, known, shows_, by decide +kernel, fun row' member _ same => ?_⟩
  have missing : (withoutSelfHandled.ingestAll
    [crashBufferReport] holdingEvents).2.world.store.db.records.rows.all
      (fun row => !row.sources.contains .crashBuffer) = true := by decide +kernel
  have lacks := List.all_eq_true.mp missing row' member
  have has : (row.sources.union crashBufferReport.record.sources).contains .crashBuffer = true :=
    SourceMask.contains_union_self ..
  rw [same, has] at lacks
  cases lacks

end CrashCatcher.Daemon
