import CrashCatcher.Lib.Ranking
import CrashCatcher.Store.Accounting
import CrashCatcher.Store.Quiet
import CrashCatcher.Store.Retained
import CrashCatcher.Store.Upkeep

namespace CrashCatcher.Store
open Lib Lib.Ranking Model Config Fallible

theorem notNewer_order : TotalOrder notNewer where
  trans a b c first next := by
    simp only [notNewer, Bool.or_eq_true, Bool.and_eq_true, decide_eq_true_eq, beq_iff_eq] at first next ⊢
    rcases first with earlier | ⟨same, before⟩ <;> rcases next with earlier' | ⟨same', before'⟩
    · exact .inl (earlier.trans earlier')
    · exact .inl (same' ▸ earlier)
    · exact .inl (same ▸ earlier')
    · exact .inr ⟨same.trans same', before.trans before'⟩
  total a b := by
    simp only [notNewer, Bool.or_eq_true, Bool.and_eq_true, decide_eq_true_eq, beq_iff_eq]
    rcases lt_trichotomy a.happenedAtMs b.happenedAtMs with earlier | same | later
    · exact .inl (.inl earlier)
    · rcases le_total a.id b.id with before | after
      · exact .inl (.inr ⟨same, before⟩)
      · exact .inr (.inr ⟨same.symm, after⟩)
    · exact .inr (.inl later)

theorem positionIn_eq_rank (rows : List RecordRow) (row : RecordRow) :
    positionIn rows row = rank notNewer (rows.filter fun other => other.groupId == row.groupId) row := by
  unfold positionIn rank
  rw [List.countP_filter]
  exact List.countP_congr fun other _ => by rw [Bool.and_comm]

theorem filter_keepPerGroup (most : Nat) (rows : List RecordRow) (groupId : Str) :
    (keepPerGroup most rows).filter (fun row => row.groupId == groupId) =
      (rows.filter fun row => row.groupId == groupId).filter fun row =>
        decide (rank notNewer (rows.filter fun row => row.groupId == groupId) row ≤ most) := by
  unfold keepPerGroup
  rw [List.filter_filter, List.filter_filter]
  refine List.filter_congr fun row _ => ?_
  by_cases here : row.groupId = groupId
  · subst here
    rw [positionIn_eq_rank, Bool.eq_iff_iff]
    simp only [Bool.and_eq_true, Bool.not_eq_true', decide_eq_false_iff_not, decide_eq_true_eq,
      not_lt, gt_iff_lt, and_comm]
  · rw [beq_eq_false_iff_ne.mpr here, Bool.false_and, Bool.and_false]

theorem length_keepPerGroup_le (most : Nat) (rows : List RecordRow) (groupId : Str) :
    ((keepPerGroup most rows).filter fun row => row.groupId == groupId).length ≤ most := by
  rw [filter_keepPerGroup]
  exact length_filter_rank_le notNewer_order _ most

theorem notNewer_of_keepPerGroup {most : Nat} {rows : List RecordRow} {gone kept : RecordRow}
    (stored : gone ∈ rows) (dropped : gone ∉ keepPerGroup most rows) (left : kept ∈ keepPerGroup most rows)
    (same : gone.groupId = kept.groupId) : notNewer gone kept = true := by
  have far : most < positionIn rows gone := by
    by_contra near
    exact dropped (List.mem_filter.mpr ⟨stored, by simpa using near⟩)
  have near : positionIn rows kept ≤ most := by simpa using (List.mem_filter.mp left).2
  rw [positionIn_eq_rank] at far near
  rw [same] at far
  exact le_of_rank notNewer_order _ far near

section Newest
variable {most : Nat} {rows : List RecordRow} (distinct : (rows.map (·.id)).Nodup)
include distinct

theorem keepNewest_perm : (keepNewest most rows).Perm ((rows.mergeSort notNewer).drop (rows.length - most)) :=
  perm_drop_mergeSort notNewer distinct _

theorem length_keepNewest : (keepNewest most rows).length = min most rows.length := by
  rw [(keepNewest_perm distinct).length_eq, List.length_drop, List.length_mergeSort]
  omega

theorem notNewer_of_keepNewest {gone kept : RecordRow} (stored : gone ∈ rows)
    (dropped : gone ∉ keepNewest most rows) (left : kept ∈ keepNewest most rows) :
    notNewer gone kept = true := by
  have taken : gone ∈ (rows.mergeSort notNewer).take (rows.length - most) := by
    have sorted : gone ∈ rows.mergeSort notNewer := List.mem_mergeSort.mpr stored
    rw [← List.take_append_drop (rows.length - most) (rows.mergeSort notNewer), List.mem_append] at sorted
    exact sorted.resolve_right fun later => dropped ((keepNewest_perm distinct).mem_iff.mpr later)
  exact le_of_mem_take_drop notNewer_order taken ((keepNewest_perm distinct).mem_iff.mp left)

theorem keepNewest_of_few (few : rows.length ≤ most) : keepNewest most rows = rows := by
  refine List.Sublist.eq_of_length List.filter_sublist ?_
  rw [length_keepNewest distinct]
  exact Nat.min_eq_right few

end Newest
/-! The byte quota. -/

def bytesOf (rows : List RecordRow) : Nat :=
  Table.total (fun row => row.payloadPath.isSome) (fun row => row.payloadBytes) rows

def candidatesOf (rows : List RecordRow) : List RecordRow :=
  ((rows.mergeSort notNewer).filterMap RecordRow.reclaimable).map Prod.fst

def evictAll (gone rows : List RecordRow) : List RecordRow :=
  rows.map fun row => if (gone.map (·.id)).contains row.id then row.evict else row

def Filed (rows : List RecordRow) : Prop := ∀ row ∈ rows, row.payloadPath.isSome → row.payloadState ≠ .evicted

theorem evictAll_nil (rows : List RecordRow) : evictAll [] rows = rows := List.map_id'' (fun _ => rfl) rows

theorem evictAll_cons (head : RecordRow) (gone rows : List RecordRow) :
    evictAll (head :: gone) rows =
      evictAll gone (rows.map fun row => if decide (row.id = head.id) = true then row.evict else row) := by
  unfold evictAll
  rw [List.map_map]
  refine List.map_congr_left fun row _ => ?_
  rw [Function.comp_apply, List.map_cons, List.contains_cons]
  by_cases first : row.id = head.id
  · rw [beq_iff_eq.mpr first, Bool.true_or, if_pos rfl, if_pos (decide_eq_true first)]
    split <;> rfl
  · simp only [beq_eq_false_iff_ne.mpr first, Bool.false_or, decide_eq_false first,
      Bool.false_eq_true, if_false]

theorem bytesOf_map_evict (selects : RecordRow → Bool) (rows : List RecordRow) :
    bytesOf (rows.map fun row => if selects row then row.evict else row) =
      bytesOf (rows.filter fun row => !selects row) := by
  induction rows with
  | nil => rfl
  | cons row rows ih =>
      unfold bytesOf at ih ⊢
      cases selected : selects row with
      | true =>
          rw [List.filter_cons_of_neg (by simp [selected]), ← ih, List.map_cons, Table.total_cons, selected]
          exact Nat.zero_add _
      | false =>
          rw [List.filter_cons_of_pos (by simp [selected]), List.map_cons, Table.total_cons,
            Table.total_cons, ih, selected]
          rfl

theorem bytesOf_of_filed {rows : List RecordRow} (filed : ∀ row ∈ rows, row.payloadPath.isSome) :
    bytesOf rows = load (fun row => row.payloadBytes) rows := by
  induction rows with
  | nil => rfl
  | cons row rows ih =>
      have rest := ih fun other member => filed other (List.mem_cons_of_mem _ member)
      unfold bytesOf at rest ⊢
      rw [Table.total_cons, load, if_pos (filed row List.mem_cons_self), rest]

theorem bytesOf_evictAll {gone rows rest : List RecordRow} (split : rows.Perm (gone ++ rest))
    (distinct : (rows.map (·.id)).Nodup) (filed : ∀ row ∈ gone, row.payloadPath.isSome) :
    bytesOf (evictAll gone rows) + load (fun row => row.payloadBytes) gone = bytesOf rows := by
  have picked := perm_filter_of_mem split distinct
  have parts := Table.total_partition (fun row : RecordRow => row.payloadPath.isSome)
    (fun row => row.payloadBytes) (fun row => (gone.map (·.id)).contains row.id) rows
  have same : bytesOf (rows.filter fun row => (gone.map (·.id)).contains row.id) = bytesOf gone :=
    Table.total_perm _ _ picked
  rw [← bytesOf_of_filed filed, ← same]
  unfold evictAll
  rw [bytesOf_map_evict]
  exact parts

theorem candidatesOf_sublist (rows : List RecordRow) : (candidatesOf rows).Sublist (rows.mergeSort notNewer) :=
  reclaimable_sublist _

theorem candidatesOf_filed {rows : List RecordRow} {row : RecordRow} (member : row ∈ candidatesOf rows) :
    row.payloadPath.isSome := by
  obtain ⟨candidate, listed, rfl⟩ := List.mem_map.mp member
  obtain ⟨stored, -, found⟩ := List.mem_filterMap.mp listed
  unfold RecordRow.reclaimable at found
  split at found
  · cases found
  · obtain ⟨path, filed, rfl⟩ := Option.map_eq_some_iff.mp found
    exact filed ▸ rfl

theorem bytesOf_reclaimable {rows : List RecordRow} (filed : Filed rows) :
    load (fun candidate => candidate.1.payloadBytes) (rows.filterMap RecordRow.reclaimable) = bytesOf rows := by
  induction rows with
  | nil => rfl
  | cons row rows ih =>
      have rest := ih fun other member => filed other (List.mem_cons_of_mem _ member)
      unfold bytesOf at rest ⊢
      cases path : row.payloadPath with
      | none =>
          have skipped : row.reclaimable = none := by
            unfold RecordRow.reclaimable
            rw [path]
            exact ite_self _
          rw [List.filterMap_cons_none skipped, Table.total_cons, path, rest]
          exact (Nat.zero_add _).symm
      | some path' =>
          have kept : row.payloadState ≠ .evicted := filed row List.mem_cons_self (by rw [path]; rfl)
          have taken : row.reclaimable = some (row, path') := by
            unfold RecordRow.reclaimable
            rw [if_neg kept, path]
            rfl
          rw [List.filterMap_cons_some taken, load, Table.total_cons, path, rest]
          rfl

theorem load_candidatesOf {rows : List RecordRow} (filed : Filed rows) :
    load (fun row => row.payloadBytes) (candidatesOf rows) = bytesOf rows := by
  have sorted := List.mergeSort_perm rows notNewer
  unfold candidatesOf
  rw [load_map, bytesOf_reclaimable fun row member => filed row (sorted.mem_iff.mp member)]
  exact Table.total_perm _ _ sorted

/-- What the quota evicts is the shortest prefix of the candidates that brings the bytes within it. -/
theorem enough_candidates {rows : List RecordRow} (filed : Filed rows) (distinct : (rows.map (·.id)).Nodup)
    (most : Nat) :
    ∃ n, enough (fun row => row.payloadBytes) (candidatesOf rows) (bytesOf rows - most) =
        (candidatesOf rows).take n ∧
      bytesOf (evictAll ((candidatesOf rows).take n) rows) ≤ most ∧
      ∀ m < n, most < bytesOf (evictAll ((candidatesOf rows).take m) rows) := by
  obtain ⟨n, same, shorter, heavy⟩ :=
    enough_eq_take (fun row : RecordRow => row.payloadBytes) (candidatesOf rows) (bytesOf rows - most)
  have left : ∀ m, bytesOf (evictAll ((candidatesOf rows).take m) rows) +
      load (fun row => row.payloadBytes) ((candidatesOf rows).take m) = bytesOf rows := by
    intro m
    have within := (List.take_sublist m _).trans (candidatesOf_sublist rows)
    obtain ⟨rest, split⟩ := within.exists_perm_append
    exact bytesOf_evictAll ((List.mergeSort_perm rows notNewer).symm.trans split) distinct fun row member =>
      candidatesOf_filed (List.mem_of_mem_take member)
  refine ⟨n, same, ?_, fun m below => ?_⟩
  · have here := left n
    rcases heavy with sufficient | all
    · omega
    · rw [all, load_candidatesOf filed] at here
      rw [all]
      omega
  · have here := left m
    have short := shorter m below
    omega

def swept (nowMs : I64) (retention : RetentionPolicy) (rows : List RecordRow) : List RecordRow :=
  let left := retained nowMs retention rows
  let most := retention.clamped.maxPayloadBytesTotal
  evictAll (enough (fun row => row.payloadBytes) (candidatesOf left) (bytesOf left - most)) left

def cutoffMs (nowMs : I64) (retention : RetentionPolicy) : I64 :=
  nowMs.saturatingSub (I64.clamp (retention.clamped.retentionDays * msPerDay))

def Outlived (nowMs cutoffMs : I64) (row : SourceRow) : Bool :=
  !likePrefix "marker:".toList row.sourceKey &&
    decide (row.ingestedAtMs <
      if likePrefix "logd:".toList row.sourceKey then nowMs.saturatingSub logSourceKeyTtlMs else cutoffMs)

def Spent (cutoffMs : I64) (rows : List RecordRow) (group : GroupSummary) : Bool :=
  decide (group.lastSeenMs < cutoffMs) && !rows.any fun row => row.groupId == group.groupId

section
variable {s : StoreState}

theorem evictCandidates_rows (candidates : List (RecordRow × Str)) (overBy evicted reclaimed : Nat) :
    Ends s (evictCandidates candidates overBy evicted reclaimed)
      (fun _ t => t.db.records.rows =
        evictAll (enough (fun row => row.payloadBytes) (candidates.map Prod.fst) overBy) s.db.records.rows)
      fun _ => True := by
  induction candidates generalizing s overBy evicted reclaimed with
  | nil => exact Ends.pure (evictAll_nil _).symm
  | cons candidate rest ih =>
      obtain ⟨row, path⟩ := candidate
      refine Ends.ite (fun done => Ends.pure ?_) fun more => Ends.bind (Ends.deleteFile trivial) ?_
      · rw [done, enough_zero]
        exact (evictAll_nil _).symm
      · rintro _ _ rfl
        refine Ends.bind ((markEvicted_ends row).consequence (fun _ _ marked => marked) fun _ _ => trivial) ?_
        rintro _ _ rfl
        refine (ih _ _ _).consequence (fun _ t rows => ?_) fun _ lost => lost
        rw [rows, List.map_cons, enough, if_neg more, evictAll_cons]
        rfl

theorem evictPayloads_exact (maxBytes : Nat) :
    Ends s (evictPayloads maxBytes)
      (fun _ t => t.db.records.rows = evictAll (enough (fun row => row.payloadBytes)
        (candidatesOf s.db.records.rows) (bytesOf s.db.records.rows - maxBytes)) s.db.records.rows)
      fun _ => True := by
  refine Ends.query_bind trivial (Ends.ite (fun few => Ends.pure ?_) fun _ => Ends.query_bind trivial ?_)
  · have none : bytesOf s.db.records.rows - maxBytes = 0 := Nat.sub_eq_zero_of_le few
    rw [none, enough_zero]
    exact (evictAll_nil _).symm
  · exact evictCandidates_rows _ _ _ _

theorem dropEmptyGroupsBefore_exact (cutoffMs : I64) :
    Ends s (dropEmptyGroupsBefore cutoffMs)
      (fun _ t => t.db.records = s.db.records ∧
        ∀ group ∈ t.db.groups.rows, Spent cutoffMs s.db.records.rows group = false)
      fun _ => True := by
  have dropped : Ends s (dropEmptyGroupsBefore cutoffMs)
      (fun _ t => ∀ group ∈ t.db.groups.rows, Spent cutoffMs s.db.records.rows group = false)
        fun _ => True := by
    unfold dropEmptyGroupsBefore deleteGroups
    refine (Ends.execute trivial).consequence ?_ fun _ lost => lost
    rintro _ _ ⟨db, deleted, rfl⟩
    cases deleted
    exact fun group stored => (Table.mem_delete.mp stored).2
  exact ((dropEmptyGroupsBefore_rows cutoffMs).and dropped).consequence
    (fun _ _ done => done) fun _ _ => trivial

theorem pruneIngestedSources_exact (nowMs artifactCutoffMs : I64) :
    Ends s (pruneIngestedSources nowMs artifactCutoffMs)
      (fun _ t => t.db.records = s.db.records ∧ t.db.groups = s.db.groups ∧
        ∀ row ∈ t.db.sources.rows, Outlived nowMs artifactCutoffMs row = false)
      fun _ => True := by
  unfold pruneIngestedSources
  refine (Ends.execute trivial).consequence ?_ fun _ lost => lost
  rintro _ _ ⟨db, deleted, rfl⟩
  cases deleted
  exact ⟨rfl, rfl, fun row stored => (Table.mem_delete.mp stored).2⟩

theorem sweep_exact (nowMs : I64) (retention : RetentionPolicy) :
    Ends s (sweep nowMs retention)
      (fun _ t => t.db.records.rows = swept nowMs retention s.db.records.rows ∧
        (∀ group ∈ t.db.groups.rows, Spent (cutoffMs nowMs retention) t.db.records.rows group = false) ∧
        ∀ row ∈ t.db.sources.rows, Outlived nowMs (cutoffMs nowMs retention) row = false)
      fun _ => True := by
  refine Ends.bind ((deleteRecordsWhere_rows _).consequence (fun _ _ same => same) fun _ _ => trivial) ?_
  intro _ t recent
  refine Ends.bind ((trimEachGroup_rows _).consequence (fun _ _ same => same) fun _ _ => trivial) ?_
  intro _ u trimmed
  refine Ends.bind ((trimTotal_rows _).consequence (fun _ _ same => same) fun _ _ => trivial) ?_
  intro _ v newest
  rw [trimmed, recent] at newest
  have newest : v.db.records.rows = retained nowMs retention s.db.records.rows := newest
  refine Ends.bind (dropEmptyGroupsBefore_exact _) ?_
  rintro _ w ⟨same, spent⟩
  let unspent (group : GroupSummary) : Prop := Spent (cutoffMs nowMs retention) v.db.records.rows group = false
  have ignores : IgnoresBytes unspent := fun _ _ holds => holds
  have before : Every unspent w.db := spent
  have evicts := (evictPayloads_exact (s := w) retention.clamped.maxPayloadBytesTotal).and
    ((upkeep_every ignores).evictPayloads retention.clamped.maxPayloadBytesTotal)
  refine Ends.bind (evicts.consequence (fun _ _ done => done) fun _ _ => trivial) ?_
  rintro _ x ⟨evicted, kept⟩
  refine Ends.bind (pruneIngestedSources_exact _ _) ?_
  rintro _ y ⟨records, groups, sources⟩
  refine Ends.pure ⟨?_, fun group stored => ?_, sources⟩
  · rw [records, evicted, same, newest]
    rfl
  · rw [groups] at stored
    have spent := kept.2 before group stored
    have ids : ∀ group : GroupSummary, Spent (cutoffMs nowMs retention) y.db.records.rows group =
        Spent (cutoffMs nowMs retention) v.db.records.rows group := by
      intro group
      unfold Spent
      rw [records, evicted, same, evictAll, List.any_map]
      congr 3
      funext row
      rw [Function.comp_apply]
      split <;> rfl
    rw [ids]
    exact spent

theorem deleteRecordsWhere_none {predicate : Database → RecordRow → Bool}
    (none : ∀ row ∈ s.db.records.rows, predicate s.db row = false) :
    Ends s (deleteRecordsWhere predicate) (fun _ t => t = s) fun t => t = s := by
  have unselected : s.db.records.rows.filter (predicate s.db) = [] :=
    List.filter_eq_nil_iff.mpr fun row stored => by simp [none row stored]
  refine Ends.query_bind rfl (Ends.ite (fun _ => Ends.pure rfl) fun some => ?_)
  rw [unselected] at some
  exact absurd rfl some

theorem sweep_within {nowMs : I64} {retention : RetentionPolicy}
    (recent : ∀ row ∈ s.db.records.rows, ¬ row.happenedAtMs < cutoffMs nowMs retention)
    (placed : ∀ row ∈ s.db.records.rows,
      positionIn s.db.records.rows row ≤ retention.clamped.maxRecordsPerGroup)
    (few : s.db.records.rows.length ≤ retention.clamped.maxRecordsTotal)
    (small : bytesOf s.db.records.rows ≤ retention.clamped.maxPayloadBytesTotal)
    (groups : ∀ group ∈ s.db.groups.rows, Spent (cutoffMs nowMs retention) s.db.records.rows group = false)
    (sources : ∀ row ∈ s.db.sources.rows, Outlived nowMs (cutoffMs nowMs retention) row = false) :
    Ends s (sweep nowMs retention) (fun _ t => t = s) fun t => t = s := by
  have old : Ends s (deleteRecordsWhere fun _ row => decide (row.happenedAtMs < cutoffMs nowMs retention))
      (fun _ t => t = s) fun t => t = s :=
    deleteRecordsWhere_none fun row stored => decide_eq_false (recent row stored)
  have trims : Ends s (trimEachGroup retention.clamped.maxRecordsPerGroup) (fun _ t => t = s) fun t => t = s :=
    deleteRecordsWhere_none fun row stored => decide_eq_false (Nat.not_lt.mpr (placed row stored))
  have counts : Ends s (trimTotal retention.clamped.maxRecordsTotal) (fun _ t => t = s) fun t => t = s :=
    Ends.query_bind rfl (Ends.ite (fun _ => Ends.pure rfl) fun many => absurd few many)
  have drops : Ends s (dropEmptyGroupsBefore (cutoffMs nowMs retention)) (fun _ t => t = s) fun t => t = s := by
    unfold dropEmptyGroupsBefore deleteGroups
    refine (Ends.execute rfl).consequence ?_ fun _ same => same.symm
    rintro _ _ ⟨db, deleted, rfl⟩
    cases deleted
    have kept : s.db.deleteGroups (Spent (cutoffMs nowMs retention) s.db.records.rows) = s.db := by
      unfold Database.deleteGroups
      rw [Table.delete_eq_self groups, Table.delete_eq_self]
      intro row _
      refine List.any_eq_false.mpr fun group stored => ?_
      simp [groups group stored]
    exact congrArg (fun db => { s with db }) kept
  have evicts : Ends s (evictPayloads retention.clamped.maxPayloadBytesTotal) (fun _ t => t = s) fun t => t =
      s :=
    Ends.query_bind rfl (Ends.ite (fun _ => Ends.pure rfl) fun large => absurd small large)
  have prunes : Ends s (pruneIngestedSources nowMs (cutoffMs nowMs retention)) (fun _ t => t = s)
      fun t => t = s := by
    unfold pruneIngestedSources
    refine (Ends.execute rfl).consequence ?_ fun _ same => same.symm
    rintro _ _ ⟨db, deleted, rfl⟩
    cases deleted
    have kept : s.db.sources.delete (Outlived nowMs (cutoffMs nowMs retention)) = s.db.sources :=
      Table.delete_eq_self sources
    exact congrArg (fun sources => { s with db := { s.db with sources } }) kept
  refine Ends.bind old ?_
  rintro _ _ rfl
  refine Ends.bind trims ?_
  rintro _ _ rfl
  refine Ends.bind counts ?_
  rintro _ _ rfl
  refine Ends.bind drops ?_
  rintro _ _ rfl
  refine Ends.bind evicts ?_
  rintro _ _ rfl
  refine Ends.bind prunes ?_
  rintro _ _ rfl
  exact Ends.pure rfl

end

/-! Evicted records have no path. -/

theorem Move.filed {db db' : Database} (move : Move db db') (filed : Filed db.records.rows) :
    Filed db'.records.rows := by
  cases move with
  | insert issued payload inserted =>
      rename_i id groupId record isRepeating written
      rw [(Database.insertCrash_eq_some inserted).2.1]
      intro row member path
      rcases List.mem_append.mp member with old | new
      · exact filed row old path
      · obtain rfl := List.mem_singleton.mp new
        cases written with
        | none => cases path
        | some written =>
            intro evicted
            have readable := (payload written rfl).2
            have evicted : written.state = .evicted := evicted
            rw [evicted] at readable
            cases readable
  | ingestSource row =>
      rw [(insertSource_rows db row).2]
      exact filed
  | foldSources id sources =>
      intro row member
      obtain ⟨old, stored, rfl⟩ := List.mem_map.mp member
      have old := filed old stored
      split <;> exact old
  | @adopt existing adopted stored absent payload =>
      intro row member
      obtain ⟨old, stored, rfl⟩ := List.mem_map.mp member
      have old := filed old stored
      split
      · intro _ evicted
        have readable := (payload adopted rfl).2
        have evicted : adopted.state = .evicted := evicted
        rw [evicted] at readable
        cases readable
      · exact old
  | drop stored => exact fun row member => filed row (Table.mem_delete.mp member).1
  | evict stored =>
      intro row member
      obtain ⟨old, stored, rfl⟩ := List.mem_map.mp member
      have old := filed old stored
      split
      · exact nofun
      · exact old
  | dropEmpty cutoffMs => exact fun row member => filed row (Table.mem_delete.mp member).1
  | prune gone => exact filed

theorem Moves.filed {db db' : Database} (moves : Moves db db') (filed : Filed db.records.rows) :
    Filed db'.records.rows := by
  induction moves with
  | refl => exact filed
  | tail _ move ih => exact move.filed ih

theorem erase_filed {db : Database} (filed : Filed db.records.rows) (target : DeleteTarget) :
    Filed (db.erase target).records.rows := by
  have erased : ∀ records groups, Filed (db.eraseWhere records groups).records.rows := fun _ _ row member =>
    filed row (Table.mem_delete.mp (Table.mem_delete.mp member).1).1
  unfold Database.erase
  split
  · exact erased _ _
  · exact erased _ _
  · exact filed
  · exact erased _ _

theorem Reachable.filed {platform : Platform} {s : StoreState} (reachable : Reachable platform s) :
    Filed s.db.records.rows := by
  induction reachable with
  | empty => exact fun row member => by cases member
  | step op faults before ih =>
      have commits := (apply_commits platform before.kept.1 op faults).2
      cases op with
      | insert => exact Moves.filed commits ih
      | fold => exact Moves.filed commits ih
      | sweep => exact Moves.filed commits ih
      | delete target =>
          rcases commits with same | same
          · exact same ▸ ih
          · exact same ▸ erase_filed ih target

/-! The ceilings, all together. -/

structure MeetsCeilings (nowMs : I64) (retention : RetentionPolicy) (s t : StoreState) : Prop where
  stored : ∀ kept ∈ t.db.records.rows, ∃ old ∈ s.db.records.rows, old.bare = kept.bare
  recent : ∀ kept ∈ t.db.records.rows, cutoffMs nowMs retention ≤ kept.happenedAtMs
  perGroup : ∀ groupId, (t.db.records.rows.filter fun row => row.groupId == groupId).length ≤
    retention.clamped.maxRecordsPerGroup
  newest : ∀ kept ∈ t.db.records.rows, ∀ gone ∈ s.db.records.rows,
    cutoffMs nowMs retention ≤ gone.happenedAtMs → gone.groupId = kept.groupId →
      gone.id ∉ t.db.records.rows.map (·.id) → notNewer gone kept = true
  total : t.db.records.rows.length ≤ retention.clamped.maxRecordsTotal
  /-- Within the age and the count of its group, a record is dropped only for the total count. -/
  oldest : ∀ gone ∈ s.db.records.rows, cutoffMs nowMs retention ≤ gone.happenedAtMs →
    positionIn (keepRecent (cutoffMs nowMs retention) s.db.records.rows) gone ≤
        retention.clamped.maxRecordsPerGroup →
      gone.id ∉ t.db.records.rows.map (·.id) →
        t.db.records.rows.length = retention.clamped.maxRecordsTotal ∧
          ∀ kept ∈ t.db.records.rows, notNewer gone kept = true
  bytes : t.db.payloadBytesInIndex ≤ retention.clamped.maxPayloadBytesTotal
  evicted : ∃ n, t.db.records.rows =
      evictAll ((candidatesOf (retained nowMs retention s.db.records.rows)).take n)
        (retained nowMs retention s.db.records.rows) ∧
    ∀ m < n, retention.clamped.maxPayloadBytesTotal <
      bytesOf (evictAll ((candidatesOf (retained nowMs retention s.db.records.rows)).take m)
        (retained nowMs retention s.db.records.rows))
  groups : ∀ group ∈ t.db.groups.rows, ∃ old ∈ s.db.groups.rows, old.groupId = group.groupId ∧
    old.occurrence = group.occurrence ∧ old.firstSeenMs = group.firstSeenMs ∧ old.lastSeenMs = group.lastSeenMs
  again : ∀ faults, (sweep nowMs retention { store := t, faults }).2.store = t

section
variable {nowMs : I64} {retention : RetentionPolicy}

theorem map_bare_evictAll (gone rows : List RecordRow) :
    (evictAll gone rows).map RecordRow.bare = rows.map RecordRow.bare := by
  unfold evictAll
  rw [List.map_map]
  refine List.map_congr_left fun row _ => ?_
  rw [Function.comp_apply]
  split <;> rfl

theorem mem_retained {rows : List RecordRow} {row : RecordRow} (left : row ∈ retained nowMs retention rows) :
    row ∈ keepPerGroup retention.clamped.maxRecordsPerGroup (keepRecent (cutoffMs nowMs retention) rows) :=
  keepNewest_subset left

theorem retained_sublist (rows : List RecordRow) :
    (retained nowMs retention rows).Sublist (keepRecent (cutoffMs nowMs retention) rows) :=
  (List.filter_sublist).trans List.filter_sublist

theorem mem_keepRecent {cutoff : I64} {rows : List RecordRow} {row : RecordRow} :
    row ∈ keepRecent cutoff rows ↔ row ∈ rows ∧ cutoff ≤ row.happenedAtMs := by
  simp [keepRecent]

theorem mem_keepPerGroup {most : Nat} {rows : List RecordRow} {row : RecordRow} :
    row ∈ keepPerGroup most rows ↔ row ∈ rows ∧ positionIn rows row ≤ most := by
  simp [keepPerGroup]

theorem positionIn_retained_le {rows : List RecordRow} {row : RecordRow}
    (left : row ∈ retained nowMs retention rows) :
    positionIn (retained nowMs retention rows) row ≤ retention.clamped.maxRecordsPerGroup :=
  (retained_sublist rows).countP_le.trans (mem_keepPerGroup.mp (mem_retained left)).2

/-- A completed sweep meets its ceilings exactly, and a second one changes nothing. -/
theorem sweep_meets_ceilings {platform : Platform} {s : StoreState} (reachable : Reachable platform s)
    (faults : Nat → Option Nat) {outcome : SweepOutcome} {world : World}
    (completed : sweep nowMs retention { store := s, faults } = (.ok outcome, world)) :
    MeetsCeilings nowMs retention s world.store := by
  let left := retained nowMs retention s.db.records.rows
  let dated (group : GroupSummary) : Prop := ∃ old ∈ s.db.groups.rows, old.groupId = group.groupId ∧
    old.occurrence = group.occurrence ∧ old.firstSeenMs = group.firstSeenMs ∧ old.lastSeenMs = group.lastSeenMs
  have ignores : IgnoresBytes dated := fun _ _ holds => holds
  have within : left.Sublist s.db.records.rows := (retained_sublist _).trans List.filter_sublist
  have distinct : (left.map (·.id)).Nodup := s.db.records.distinct.sublist (within.map _)
  have apart : ((keepPerGroup retention.clamped.maxRecordsPerGroup
      (keepRecent (cutoffMs nowMs retention) s.db.records.rows)).map (·.id)).Nodup :=
    s.db.records.distinct.sublist ((List.filter_sublist.trans List.filter_sublist).map _)
  have filed : Filed left := fun row member => reachable.filed row (within.subset member)
  obtain ⟨n, quota, small, shorter⟩ := enough_candidates filed distinct retention.clamped.maxPayloadBytesTotal
  have ends := ((sweep_exact (s := s) nowMs retention).and ((upkeep_every ignores).sweep nowMs retention))
    { store := s, faults } rfl
  rw [completed] at ends
  obtain ⟨⟨rows, spent, outlived⟩, -, groups⟩ := ends
  generalize world.store = t at rows spent outlived groups ⊢
  have rows : t.db.records.rows = evictAll ((candidatesOf left).take n) left := by
    rw [rows, ← quota]
    rfl
  have bare : t.db.records.rows.map RecordRow.bare = left.map RecordRow.bare := by
    rw [rows, map_bare_evictAll]
  have ids : t.db.records.rows.map (·.id) = left.map (·.id) := by
    have same := congrArg (List.map fun row : RecordRow => row.id) bare
    rwa [List.map_map, List.map_map] at same
  have origin : ∀ kept ∈ t.db.records.rows, ∃ row ∈ left, row.bare = kept.bare := fun kept member =>
    List.mem_map.mp (bare ▸ List.mem_map_of_mem member)
  have total : t.db.records.rows.length ≤ retention.clamped.maxRecordsTotal := by
    have lengths := congrArg List.length bare
    rw [List.length_map, List.length_map] at lengths
    have most : left.length = min retention.clamped.maxRecordsTotal _ :=
      length_keepNewest apart
    rw [lengths, most]
    exact Nat.min_le_left _ _
  have recent : ∀ kept ∈ t.db.records.rows, cutoffMs nowMs retention ≤ kept.happenedAtMs := by
    intro kept member
    obtain ⟨row, member, same⟩ := origin kept member
    have times : row.happenedAtMs = kept.happenedAtMs := congrArg (fun row => row.happenedAtMs) same
    exact times ▸ (mem_keepRecent.mp ((retained_sublist _).subset member)).2
  have placed : ∀ kept ∈ t.db.records.rows,
      positionIn t.db.records.rows kept ≤ retention.clamped.maxRecordsPerGroup := by
    intro kept member
    obtain ⟨row, member, same⟩ := origin kept member
    rw [← positionIn_bare, bare, ← same, positionIn_bare]
    exact positionIn_retained_le member
  have bytes : bytesOf t.db.records.rows ≤ retention.clamped.maxPayloadBytesTotal := rows ▸ small
  refine {
    stored := fun kept member => ?_
    recent := recent
    perGroup := fun groupId => ?_
    newest := fun kept member gone stored young same dropped => ?_
    total := total
    oldest := fun gone stored young near dropped => ?_
    bytes := bytes
    evicted := ⟨n, rows, shorter⟩
    groups := groups fun group stored => ⟨group, stored, rfl, rfl, rfl, rfl⟩
    again := fun faults => ?_ }
  · obtain ⟨row, member, same⟩ := origin kept member
    exact ⟨row, within.subset member, same⟩
  · have counts : (t.db.records.rows.filter fun row => row.groupId == groupId).length =
        (left.filter fun row => row.groupId == groupId).length := by
      have filtered := congrArg (fun rows => (rows.filter fun row => row.groupId == groupId).length) bare
      simp only [List.filter_map, List.length_map] at filtered
      exact filtered
    rw [counts]
    exact ((List.filter_sublist.filter _).length_le).trans (length_keepPerGroup_le _ _ groupId)
  · obtain ⟨row, member, here⟩ := origin kept member
    have sameGroup : gone.groupId = row.groupId := same.trans (congrArg (fun row => row.groupId) here.symm)
    have lost : gone ∉ left := fun kept => dropped (ids ▸ List.mem_map_of_mem kept)
    have fresh : gone ∈ keepRecent (cutoffMs nowMs retention) s.db.records.rows :=
      mem_keepRecent.mpr ⟨stored, young⟩
    rw [← notNewer_bare, ← here, notNewer_bare]
    by_cases trimmed : gone ∈ keepPerGroup retention.clamped.maxRecordsPerGroup
        (keepRecent (cutoffMs nowMs retention) s.db.records.rows)
    · exact notNewer_of_keepNewest apart trimmed lost member
    · exact notNewer_of_keepPerGroup fresh trimmed (mem_retained member) sameGroup
  · have lost : gone ∉ left := fun kept => dropped (ids ▸ List.mem_map_of_mem kept)
    have trimmed : gone ∈ keepPerGroup retention.clamped.maxRecordsPerGroup
        (keepRecent (cutoffMs nowMs retention) s.db.records.rows) :=
      mem_keepPerGroup.mpr ⟨mem_keepRecent.mpr ⟨stored, young⟩, near⟩
    refine ⟨?_, fun kept member => ?_⟩
    · have lengths := congrArg List.length bare
      rw [List.length_map, List.length_map] at lengths
      rw [lengths]
      refine (length_keepNewest apart).trans (Nat.min_eq_left ?_)
      by_contra few
      have whole : left = keepPerGroup retention.clamped.maxRecordsPerGroup
          (keepRecent (cutoffMs nowMs retention) s.db.records.rows) :=
        keepNewest_of_few apart (Nat.le_of_not_le few)
      exact lost (whole ▸ trimmed)
    · obtain ⟨row, member, here⟩ := origin kept member
      rw [← notNewer_bare, ← here, notNewer_bare]
      exact notNewer_of_keepNewest apart trimmed lost member
  · exact (sweep_within (fun row member => not_lt.mpr (recent row member)) placed total bytes spent
      outlived).always faults

section
variable (content : List UInt8)

def crashWith (happenedAtMs : I64) : CrashRecord :=
  { oneByteCrash with happenedAtMs, payload := .inline content }

/-- The store after crashes of one app, each with that payload. -/
def crashedAt (times : List I64) : StoreState :=
  (times.map fun happenedAtMs => .insert (crashWith content happenedAtMs) {} [] 0).foldl
    (quietStep plainPlatform) .empty

def rowAt (happenedAtMs : I64) : RecordId × I64 × Str × Bool × Nat :=
  (RecordId.encode (RecordIdGenerator.mk happenedAtMs.val.toNat 0).value, happenedAtMs,
    oneByteCrash.groupId plainPlatform.sha256, true, content.length)

theorem advance_later {generator : RecordIdGenerator} {nowMs : Nat} (later : generator.lastMs < nowMs)
    (small : nowMs < 2 ^ 48) : generator.advance nowMs = { lastMs := nowMs, sequence := 0 } := by
  have stamped : generator.stamp nowMs = nowMs := by
    rw [RecordIdGenerator.stamp_eq, max_eq_left later.le, Nat.mod_eq_of_lt small]
  rw [RecordIdGenerator.advance, stamped, if_neg later.ne']

/-- At later and later times no id is taken, so that every crash has a row. -/
theorem crashedAt_rows {times : List I64} (nonempty : content ≠ []) (fits : content.length ≤ 2 * 1024 * 1024)
    (sorted : times.Pairwise (· < ·)) (range : ∀ nowMs ∈ times, 0 < nowMs.val ∧ nowMs.val < 2 ^ 48) :
    (crashedAt content times).ids =
        times.getLast?.elim .new (fun last => { lastMs := last.val.toNat, sequence := 0 }) ∧
      (crashedAt content times).db.records.rows.map (fun row =>
        (row.id, row.happenedAtMs, row.groupId, row.payloadPath.isSome, row.payloadBytes)) =
          times.map (rowAt content) := by
  induction times using List.reverseRecOn with
  | nil => exact ⟨rfl, rfl⟩
  | append_singleton times nowMs ih =>
      obtain ⟨before, -, apart⟩ := List.pairwise_append.mp sorted
      obtain ⟨ids, rows⟩ := ih before fun other member => range other (List.mem_append_left _ member)
      obtain ⟨positive, small⟩ := range nowMs (List.mem_append_right _ List.mem_cons_self)
      have earlier : ∀ other ∈ times, 0 < other.val ∧ other.val < nowMs.val := fun other member =>
        ⟨(range other (List.mem_append_left _ member)).1, apart other member nowMs List.mem_cons_self⟩
      have next : (crashedAt content times).nextIds nowMs = { lastMs := nowMs.val.toNat, sequence := 0 } := by
        refine advance_later ?_ (by omega)
        rw [ids]
        cases last : times.getLast? with
        | none => exact Int.pos_iff_toNat_pos.mp positive
        | some last' =>
            have between := earlier last' (List.mem_of_getLast? last)
            show last'.val.toNat < nowMs.val.toNat
            omega
      have fresh : ∀ row ∈ (crashedAt content times).db.records.rows,
          row.id ≠ (crashedAt content times).newId nowMs := by
        intro row stored same
        have listed := rows ▸ List.mem_map_of_mem (f := fun row : RecordRow =>
          (row.id, row.happenedAtMs, row.groupId, row.payloadPath.isSome, row.payloadBytes)) stored
        obtain ⟨other, member, here⟩ := List.mem_map.mp listed
        have between := earlier other member
        have fits : (RecordIdGenerator.mk other.val.toNat 0).Fits :=
          ⟨show _ < 2 ^ 48 by dsimp only; omega, Nat.two_pow_pos _⟩
        have fits' : (RecordIdGenerator.mk nowMs.val.toNat 0).Fits :=
          ⟨show _ < 2 ^ 48 by dsimp only; omega, Nat.two_pow_pos _⟩
        have id := (congrArg Prod.fst here).trans same
        rw [StoreState.newId, next] at id
        have value := RecordId.encode_inj (RecordIdGenerator.value_lt fits) (RecordIdGenerator.value_lt fits') id
        rw [RecordIdGenerator.value_eq fits, RecordIdGenerator.value_eq fits'] at value
        dsimp only at value
        omega
      have inserted : crashedAt content (times ++ [nowMs]) =
          quietStep plainPlatform (crashedAt content times) (.insert (crashWith content nowMs) {} [] 0) := by
        rw [crashedAt, List.map_append, List.foldl_append]
        rfl
      obtain ⟨appended, advanced, -⟩ := @quietStep_insert_inline _ plainPlatform (crashWith content nowMs) {} content
        rfl nonempty fits fresh
      rw [inserted]
      constructor
      · rw [advanced, List.getLast?_concat]
        exact next
      · rw [appended, List.map_append, rows, List.map_append]
        have issued : (crashedAt content times).newId nowMs =
            RecordId.encode (RecordIdGenerator.mk nowMs.val.toNat 0).value := by rw [StoreState.newId, next]
        show _ = _ ++ [rowAt content nowMs]
        rw [rowAt, ← issued]
        rfl

end

def crashTimes : List I64 := 1000 :: (List.range 62).map fun n => I64.clamp (172800000 + n)

def largePayload : List UInt8 := List.replicate 200000 0

def tightPolicy : RetentionPolicy where
  retentionDays := 1
  maxRecordsPerGroup := 60
  maxRecordsTotal := 50
  maxPayloadBytesTotal := 8 * 1024 * 1024

/-- Of 63 crashes one is too old, two are too many for their group and ten for the total count, and what the other
50 take is more than 8 MiB. -/
theorem swept_store_meets_ceilings :
    (crashedAt largePayload crashTimes).db.records.rows.map (fun row =>
      (row.id, row.happenedAtMs, row.groupId, row.payloadPath.isSome, row.payloadBytes)) =
        crashTimes.map (rowAt largePayload) ∧
    ∃ outcome world, sweep 172900000 tightPolicy (quiet (crashedAt largePayload crashTimes)) = (.ok outcome, world) ∧
      MeetsCeilings 172900000 tightPolicy (crashedAt largePayload crashTimes) world.store := by
  have length : largePayload.length = 200000 := List.length_replicate
  have nonempty : largePayload ≠ [] := List.ne_nil_of_length_pos (by omega)
  have reachable := reachable_foldl plainPlatform .empty
    (crashTimes.map fun nowMs => .insert (crashWith largePayload nowMs) {} [] 0)
  obtain ⟨outcome, t, ran, -⟩ := sweep_completes reachable.kept.2 172900000 tightPolicy
  refine ⟨(crashedAt_rows largePayload nonempty (by omega) (by decide +kernel) (by decide +kernel)).2,
    outcome, quiet t, ran, sweep_meets_ceilings reachable noFaults ran⟩

end
end CrashCatcher.Store
