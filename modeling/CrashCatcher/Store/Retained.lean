import CrashCatcher.Store.Exact

namespace CrashCatcher.Store
open Lib Model Config Fallible

/-! Which records a sweep keeps. -/

def RecordRow.bare (row : RecordRow) : RecordRow :=
  { row with payloadPath := none, payloadCodec := .raw, payloadBytes := 0, payloadState := .absent }

def positionIn (rows : List RecordRow) (row : RecordRow) : Nat :=
  rows.countP fun other => other.groupId == row.groupId && notNewer row other

def keepRecent (cutoffMs : I64) (rows : List RecordRow) : List RecordRow :=
  rows.filter fun row => !decide (row.happenedAtMs < cutoffMs)

def keepPerGroup (most : Nat) (rows : List RecordRow) : List RecordRow :=
  rows.filter fun row => !decide (positionIn rows row > most)

def keepNewest (most : Nat) (rows : List RecordRow) : List RecordRow :=
  rows.filter fun row =>
    !(((rows.mergeSort notNewer).take (rows.length - most)).map (·.id)).contains row.id

/-- The rows that the ceilings leave, age first, then each group's count, then the total count. -/
def retained (nowMs : I64) (retention : RetentionPolicy) (rows : List RecordRow) : List RecordRow :=
  let retention := retention.clamped
  let cutoffMs := nowMs.saturatingSub (I64.clamp (retention.retentionDays * msPerDay))
  keepNewest retention.maxRecordsTotal (keepPerGroup retention.maxRecordsPerGroup (keepRecent cutoffMs rows))

theorem notNewer_bare (row other : RecordRow) : notNewer row.bare other.bare = notNewer row other := rfl

theorem positionIn_bare (rows : List RecordRow) (row : RecordRow) :
    positionIn (rows.map RecordRow.bare) row.bare = positionIn rows row := by
  unfold positionIn
  rw [List.countP_map]
  rfl

theorem map_bare_keepRecent (cutoffMs : I64) (rows : List RecordRow) :
    (keepRecent cutoffMs rows).map RecordRow.bare = keepRecent cutoffMs (rows.map RecordRow.bare) := by
  unfold keepRecent
  rw [List.filter_map]
  rfl

theorem map_bare_keepPerGroup (most : Nat) (rows : List RecordRow) :
    (keepPerGroup most rows).map RecordRow.bare = keepPerGroup most (rows.map RecordRow.bare) := by
  unfold keepPerGroup
  rw [List.filter_map]
  congr 2
  funext row
  simp only [Function.comp_apply, positionIn_bare]

theorem map_bare_keepNewest (most : Nat) (rows : List RecordRow) :
    (keepNewest most rows).map RecordRow.bare = keepNewest most (rows.map RecordRow.bare) := by
  have sorted : (rows.map RecordRow.bare).mergeSort notNewer = (rows.mergeSort notNewer).map RecordRow.bare :=
    (List.map_mergeSort fun row _ other _ => (notNewer_bare row other).symm).symm
  unfold keepNewest
  rw [List.filter_map, sorted, List.length_map, ← List.map_take, List.map_map]
  rfl

theorem map_bare_retained (nowMs : I64) (retention : RetentionPolicy) (rows : List RecordRow) :
    (retained nowMs retention rows).map RecordRow.bare =
      retained nowMs retention (rows.map RecordRow.bare) := by
  unfold retained
  rw [map_bare_keepNewest, map_bare_keepPerGroup, map_bare_keepRecent]

section
variable {s : StoreState}

def Unlisted (rows : List RecordRow) (row : RecordRow) : Bool := !(rows.map (·.id)).contains row.id

theorem dropRecords_rows (rows : List RecordRow) :
    Ends s (dropRecords rows)
      (fun _ t => t.db.records.rows = s.db.records.rows.filter (Unlisted rows)) fun t => t = s := by
  let inv (rest : List RecordRow) (t : StoreState) : Prop := t.ids = s.ids ∧ t.files = s.files ∧
    t.db.records.rows.filter (Unlisted rest) = s.db.records.rows.filter (Unlisted rows)
  have dropped : Ends s (dropRecords rows) (fun _ t => inv [] t) fun t => t = s := by
    refine Ends.transaction (fun _ _ done => ⟨done.1, done.2.1⟩) ?_ rfl
    refine Ends.forM inv ⟨rfl, rfl, rfl⟩ ?_
    rintro row rest t ⟨ids, files, same⟩
    refine Ends.execute_bind ⟨ids, files⟩ fun _ db removed => ?_
    cases removed
    refine Ends.write ⟨ids, files⟩ ⟨ids, files, Eq.trans ?_ same⟩
    show (t.db.records.rows.filter fun stored => !decide (stored.id = row.id)).filter (Unlisted rest) = _
    rw [List.filter_filter]
    refine List.filter_congr fun stored _ => ?_
    simp [Unlisted, Bool.and_comm]
  refine dropped.consequence ?_ fun _ same => same
  rintro _ t ⟨-, -, same⟩
  rw [← same]
  exact (List.filter_eq_self.mpr fun _ _ => rfl).symm

theorem filter_unlisted (db : Database) (selects : RecordRow → Bool) :
    db.records.rows.filter (Unlisted (db.records.rows.filter selects)) =
      db.records.rows.filter fun row => !selects row := by
  refine List.filter_congr fun row stored => ?_
  have listed : row.id ∈ (db.records.rows.filter selects).map (·.id) ↔ selects row = true := by
    constructor
    · intro member
      obtain ⟨other, found, same⟩ := List.mem_map.mp member
      obtain ⟨stored', selected⟩ := List.mem_filter.mp found
      exact db.records.eq_of_key_eq stored' stored same ▸ selected
    · exact fun selected => List.mem_map_of_mem (List.mem_filter.mpr ⟨stored, selected⟩)
  unfold Unlisted
  rw [List.contains_eq_mem]
  by_cases selected : selects row = true
  · rw [decide_eq_true (listed.mpr selected), selected]
  · rw [decide_eq_false (mt listed.mp selected), Bool.not_eq_true _ |>.mp selected]

theorem deleteRecordsWhere_rows (predicate : Database → RecordRow → Bool) :
    Ends s (deleteRecordsWhere predicate)
      (fun _ t => t.db.records.rows = s.db.records.rows.filter fun row => !predicate s.db row)
      fun t => t.db = s.db := by
  refine Ends.query_bind rfl (Ends.ite (fun none => Ends.pure ?_) fun _ => ?_)
  · have unselected : s.db.records.rows.filter (predicate s.db) = [] := List.isEmpty_iff.mp none
    refine (List.filter_eq_self.mpr fun row stored => ?_).symm
    simpa using List.filter_eq_nil_iff.mp unselected row stored
  · refine Ends.bind ((deleteFiles_ends _).consequence (fun _ _ same => same) fun _ same => same.2) ?_
    rintro _ t ⟨-, same⟩
    refine Ends.bind ((dropRecords_rows _).consequence (fun _ _ dropped => dropped) ?_) ?_
    · rintro _ rfl
      exact same
    · intro _ u dropped
      refine Ends.pure ?_
      rw [dropped, same]
      exact filter_unlisted s.db _

theorem keepRecent_subset {cutoffMs : I64} {rows : List RecordRow} : keepRecent cutoffMs rows ⊆ rows :=
  List.filter_subset_self _

theorem keepPerGroup_subset {most : Nat} {rows : List RecordRow} : keepPerGroup most rows ⊆ rows :=
  List.filter_subset_self _

theorem keepNewest_subset {most : Nat} {rows : List RecordRow} : keepNewest most rows ⊆ rows :=
  List.filter_subset_self _

theorem trimEachGroup_rows (most : Nat) :
    Ends s (trimEachGroup most) (fun _ t => t.db.records.rows = keepPerGroup most s.db.records.rows)
      fun t => t.db = s.db :=
  deleteRecordsWhere_rows _

theorem trimTotal_rows (most : Nat) :
    Ends s (trimTotal most) (fun _ t => t.db.records.rows = keepNewest most s.db.records.rows)
      fun t => t.db = s.db := by
  refine Ends.query_bind rfl (Ends.ite (fun few => Ends.pure ?_) fun _ => deleteRecordsWhere_rows _)
  have none : s.db.records.rows.length - most = 0 := Nat.sub_eq_zero_of_le few
  unfold keepNewest
  rw [none]
  exact (List.filter_eq_self.mpr fun _ _ => rfl).symm

theorem dropEmptyGroupsBefore_rows (cutoffMs : I64) :
    Ends s (dropEmptyGroupsBefore cutoffMs) (fun _ t => t.db.records = s.db.records) fun t => t.db = s.db := by
  unfold dropEmptyGroupsBefore deleteGroups
  refine (Ends.execute rfl).consequence ?_ fun _ same => congrArg StoreState.db same.symm
  rintro _ _ ⟨db, deleted, rfl⟩
  cases deleted
  refine Table.delete_eq_self fun row stored => List.any_eq_false.mpr fun group _ => ?_
  intro gone
  simp only [Bool.and_eq_true, Bool.not_eq_true', beq_iff_eq] at gone
  obtain ⟨⟨-, empty⟩, same⟩ := gone
  have alone := List.any_eq_false.mp empty row stored
  simp [same] at alone

theorem evictPayloads_rows (maxBytes : Nat) :
    Ends s (evictPayloads maxBytes)
      (fun _ t => t.db.records.rows.map RecordRow.bare = s.db.records.rows.map RecordRow.bare)
      fun t => t.db.records.rows.map RecordRow.bare = s.db.records.rows.map RecordRow.bare := by
  let same (t : StoreState) : Prop :=
    t.db.records.rows.map RecordRow.bare = s.db.records.rows.map RecordRow.bare
  have start : same s := rfl
  have evicts (t : StoreState) (row : RecordRow) (before : same t) :
      same { t with db := t.db.evictRow row } := by
    refine Eq.trans ?_ before
    show (t.db.records.rows.map fun stored =>
      if decide (stored.id = row.id) = true then stored.evict else stored).map _ = _
    rw [List.map_map]
    refine List.map_congr_left fun stored _ => ?_
    rw [Function.comp_apply]
    split <;> rfl
  refine Ends.query_bind start (Ends.ite (fun _ => Ends.pure start) fun _ => Ends.query_bind start ?_)
  exact evictCandidates_keeps (fun _ _ kept => kept) evicts start _ _ _ _

theorem pruneIngestedSources_rows (nowMs artifactCutoffMs : I64) :
    Ends s (pruneIngestedSources nowMs artifactCutoffMs) (fun _ t => t.db.records = s.db.records)
      fun t => t.db = s.db := by
  unfold pruneIngestedSources
  refine (Ends.execute rfl).consequence ?_ fun _ same => congrArg StoreState.db same.symm
  rintro _ _ ⟨db, deleted, rfl⟩
  cases deleted
  rfl

def Holding (rows : List RecordRow) (t : StoreState) : Prop :=
  rows.map RecordRow.bare ⊆ t.db.records.rows.map RecordRow.bare

theorem Holding.of_subset {rows : List RecordRow} {t : StoreState} (within : rows ⊆ t.db.records.rows) :
    Holding rows t := List.map_subset _ within

/-- However far a sweep gets, the retained records stay. -/
theorem sweep_holds (nowMs : I64) (retention : RetentionPolicy) :
    Ends s (sweep nowMs retention) (fun _ t => Holding (retained nowMs retention s.db.records.rows) t)
      (Holding (retained nowMs retention s.db.records.rows)) := by
  let kept := retained nowMs retention s.db.records.rows
  let holding (t : StoreState) : Prop := Holding kept t
  refine Ends.bind ((deleteRecordsWhere_rows _).consequence (fun _ _ same => same) fun t same => ?_) ?_
  · rw [Holding, same]
    exact List.map_subset _ (List.Subset.trans keepNewest_subset
      (List.Subset.trans keepPerGroup_subset keepRecent_subset))
  intro _ t recent
  refine Ends.bind ((trimEachGroup_rows _).consequence (fun _ _ same => same) fun u same => ?_) ?_
  · rw [Holding, same, recent]
    exact List.map_subset _ (List.Subset.trans keepNewest_subset keepPerGroup_subset)
  intro _ u trimmed
  rw [recent] at trimmed
  refine Ends.bind ((trimTotal_rows _).consequence (fun _ _ same => same) fun v same => ?_) ?_
  · rw [Holding, same, trimmed]
    exact List.map_subset _ keepNewest_subset
  intro _ v newest
  rw [trimmed] at newest
  have holds : holding v := .of_subset (newest ▸ List.Subset.refl _)
  refine Ends.bind ((dropEmptyGroupsBefore_rows _).consequence (fun _ _ same => same) fun w same => ?_) ?_
  · rw [Holding, same]
    exact holds
  intro _ w same
  have holds : holding w := by
    show Holding kept w
    rw [Holding, same]
    exact holds
  refine Ends.bind ((evictPayloads_rows _).consequence (fun _ _ same => same) fun x same => ?_) ?_
  · rw [Holding, same]
    exact holds
  intro _ x same
  have holds : holding x := by
    show Holding kept x
    rw [Holding, same]
    exact holds
  refine Ends.bind ((pruneIngestedSources_rows _ _).consequence (fun _ _ same => same) fun y same => ?_) ?_
  · rw [Holding, same]
    exact holds
  intro _ y same
  refine Ends.pure ?_
  rw [Holding, same]
  exact holds

end
end CrashCatcher.Store
