import CrashCatcher.Store.Steps

namespace CrashCatcher.Store
open Lib Model Config Fallible Relation

def Op.Commits : Op → Database → Database → Prop
  | .delete target, db, db' => db' = db ∨ db' = db.erase target
  | _, db, db' => Moves db db'

theorem Ends.always {α : Type} {s : StoreState} {m : StoreM α} {kept : StoreState → Prop}
    (h : Ends s m (fun _ => kept) kept) (faults : Nat → Option Nat) :
    kept (m { store := s, faults }).2.store := by
  have ends := h { store := s, faults } rfl
  rcases run : m { store := s, faults } with ⟨result, world⟩
  rw [run] at ends
  cases result with
  | ok _ => exact ends
  | error _ => exact ends

section
variable (platform : Platform) {s : StoreState}

theorem run_ends (fits : s.ids.Fits) (op : Op) :
    Ends s (op.run platform) (fun _ t => t.ids.Fits ∧ op.Commits s.db t.db)
      fun t => t.ids.Fits ∧ op.Commits s.db t.db := by
  cases op with
  | insert record retention sourceKeys ingestedAtMs =>
      have ends := insertWithSources_ends platform fits record retention sourceKeys ingestedAtMs
      have fits' : (s.nextIds record.happenedAtMs).Fits := fits.advance _
      refine Ends.bind (ends.consequence (fun _ _ h => h) ?_) ?_
      · rintro t ⟨ids, db, _⟩
        exact ⟨ids ▸ fits', db ▸ .refl⟩
      · rintro _ t ⟨ids, moves⟩
        exact Ends.pure ⟨ids ▸ fits', moves⟩
  | fold existing record retention sourceKeys ingestedAtMs =>
      refine Ends.query_bind ⟨fits, .refl⟩ ?_
      cases found : s.db.records.find? existing with
      | none => exact Ends.pure ⟨fits, .refl⟩
      | some row =>
          have stored := (s.db.records.find?_eq_some_iff.mp found).1
          refine Ends.bind ((foldIntoRecord_ends platform stored record retention sourceKeys
            ingestedAtMs).consequence (fun _ _ h => h) ?_) ?_
          · rintro t ⟨ids, db⟩
            exact ⟨ids ▸ fits, db ▸ .refl⟩
          · rintro _ t ⟨ids, moves⟩
            exact Ends.pure ⟨ids ▸ fits, moves⟩
  | sweep nowMs retention =>
      have kept : ∀ t, Moved s t → t.ids.Fits ∧ Moves s.db t.db := fun t moved =>
        ⟨moved.1 ▸ fits, moved.2⟩
      exact Ends.bind ((sweep_ends nowMs retention).consequence (fun _ _ h => h) kept) fun _ t moved =>
        Ends.pure (kept t moved)
  | delete target =>
      refine Ends.bind ((delete_ends target).consequence (fun _ _ h => h) ?_) ?_
      · rintro t ⟨ids, db⟩
        exact ⟨ids ▸ fits, Or.inl db⟩
      · rintro _ t ⟨ids, db⟩
        exact Ends.pure ⟨ids ▸ fits, Or.inr db⟩

theorem apply_commits (fits : s.ids.Fits) (op : Op) (faults : Nat → Option Nat) :
    (s.apply platform op faults).ids.Fits ∧ op.Commits s.db (s.apply platform op faults).db :=
  (run_ends platform fits op).always faults

end

theorem Issued.wellFormed {id : RecordId} (issued : Issued id) : id.WellFormed := by
  obtain ⟨generator, fits, rfl⟩ := issued
  exact RecordId.wellFormed_encode (RecordIdGenerator.value_lt fits)

structure KeptRow (row : RecordRow) : Prop where
  issued : Issued row.id
  pathed : ∀ path, row.payloadPath = some path → path = relativePathFor row.id
  bare : row.payloadState = .absent → row.payloadPath = none ∧ row.payloadBytes = 0

structure WellKept (db : Database) : Prop where
  rows : ∀ row ∈ db.records.rows, KeptRow row
  grouped : ∀ row ∈ db.records.rows, row.groupId ∈ db.groupIds

theorem wellKept_empty : WellKept .empty where
  rows _ h := by cases h
  grouped _ h := by cases h

namespace Database

@[simp] theorem groupIds_updateGroup (db : Database) (groupId : Str)
    (f : GroupSummary → GroupSummary) (keeps : ∀ row, (f row).groupId = row.groupId) :
    (db.updateGroup groupId f keeps).groupIds = db.groupIds :=
  Table.map_key_modify db.groups _ f keeps

@[simp] theorem records_updateGroup (db : Database) (groupId : Str)
    (f : GroupSummary → GroupSummary) (keeps : ∀ row, (f row).groupId = row.groupId) :
    (db.updateGroup groupId f keeps).records = db.records := rfl

theorem records_upsertGroup (db : Database) (group : GroupSummary) :
    (db.upsertGroup group).records = db.records := by
  unfold upsertGroup
  split <;> rfl

theorem mem_groupIds_upsertGroup {db : Database} {group : GroupSummary} {groupId : Str} :
    groupId ∈ (db.upsertGroup group).groupIds ↔ groupId ∈ db.groupIds ∨ groupId = group.groupId := by
  unfold upsertGroup
  cases inserted : db.groups.insert? group with
  | some groups =>
      have rows := (Table.insert?_eq_some inserted).2
      simp [groupIds, rows]
  | none =>
      obtain ⟨stored, member, same⟩ := Table.insert?_eq_none_iff.mp inserted
      have known : group.groupId ∈ db.groupIds := List.mem_map.mpr ⟨stored, member, same⟩
      have ids : (db.groups.modify (fun row => row.groupId = group.groupId) group.sightAgain
          group.groupId_sightAgain).rows.map (·.groupId) = db.groupIds := Table.map_key_modify _ _ _ _
      show groupId ∈ _ ↔ _
      rw [groupIds, ids]
      constructor
      · exact Or.inl
      · rintro (h | rfl)
        · exact h
        · exact known

theorem mem_upsertGroup {db : Database} {excluded group : GroupSummary}
    (stored : group ∈ (db.upsertGroup excluded).groups.rows) :
    (group ∈ db.groups.rows ∧ group.groupId ≠ excluded.groupId) ∨
      (group = excluded ∧ excluded.groupId ∉ db.groupIds) ∨
      ∃ old ∈ db.groups.rows, old.groupId = excluded.groupId ∧ group = excluded.sightAgain old := by
  unfold upsertGroup at stored
  cases added : db.groups.insert? excluded with
  | some groups =>
      obtain ⟨fresh, rows⟩ := Table.insert?_eq_some added
      simp only [added, rows, List.mem_append, List.mem_singleton] at stored
      rcases stored with old | rfl
      · exact .inl ⟨old, fresh group old⟩
      · refine .inr (.inl ⟨rfl, fun known => ?_⟩)
        obtain ⟨old, member, same⟩ := List.mem_map.mp known
        exact fresh old member same
  | none =>
      simp only [added] at stored
      obtain ⟨old, member, rfl⟩ := Table.mem_modify.mp stored
      by_cases hit : old.groupId = excluded.groupId
      · rw [if_pos (decide_eq_true hit)]
        exact .inr (.inr ⟨old, member, hit, rfl⟩)
      · rw [if_neg (by simpa using hit)]
        exact .inl ⟨member, hit⟩

theorem insertRecord_eq_some {db db' : Database} {row : RecordRow}
    (h : db.insertRecord row = some db') :
    (∀ stored ∈ db.records.rows, stored.id ≠ row.id) ∧
      db'.records.rows = db.records.rows ++ [row] ∧ db'.groups = db.groups ∧
      db'.sources = db.sources := by
  unfold insertRecord at h
  split at h
  · obtain ⟨records, inserted, rfl⟩ := Option.map_eq_some_iff.mp h
    have spec := Table.insert?_eq_some inserted
    exact ⟨spec.1, spec.2, rfl, rfl⟩
  · cases h

theorem insertCrash_eq_some {db db' : Database} {group : GroupSummary} {row : RecordRow}
    (h : db.insertCrash group row = some db') :
    (∀ stored ∈ db.records.rows, stored.id ≠ row.id) ∧
      db'.records.rows = db.records.rows ++ [row] ∧ db'.groups = (db.upsertGroup group).groups := by
  have spec := insertRecord_eq_some h
  rw [records_upsertGroup] at spec
  exact ⟨spec.1, spec.2.1, spec.2.2.1⟩

theorem mem_groupIds_insertCrash {db db' : Database} {group : GroupSummary} {row : RecordRow}
    (h : db.insertCrash group row = some db') {groupId : Str} :
    groupId ∈ db'.groupIds ↔ groupId ∈ db.groupIds ∨ groupId = group.groupId := by
  rw [groupIds, (insertCrash_eq_some h).2.2]
  exact mem_groupIds_upsertGroup

end Database

theorem WellKept.updateRecord {db : Database} (kept : WellKept db) {id : RecordId}
    {f : RecordRow → RecordRow} {keeps : ∀ row, (f row).id = row.id}
    (rows : ∀ row ∈ db.records.rows, row.id = id → KeptRow (f row) ∧ (f row).groupId = row.groupId) :
    WellKept (db.updateRecord id f keeps) := by
  have rewritten : ∀ row ∈ (db.updateRecord id f keeps).records.rows,
      KeptRow row ∧ row.groupId ∈ db.groupIds := by
    intro row h
    obtain ⟨old, member, rfl⟩ := List.mem_map.mp h
    by_cases hit : old.id = id
    · rw [if_pos (by simpa using hit), (rows old member hit).2]
      exact ⟨(rows old member hit).1, kept.grouped old member⟩
    · rw [if_neg (by simpa using hit)]
      exact ⟨kept.rows old member, kept.grouped old member⟩
  exact ⟨fun row h => (rewritten row h).1, fun row h => (rewritten row h).2⟩

theorem WellKept.updateGroup {db : Database} (kept : WellKept db) {groupId : Str}
    {f : GroupSummary → GroupSummary} {keeps : ∀ row, (f row).groupId = row.groupId} :
    WellKept (db.updateGroup groupId f keeps) where
  rows := kept.rows
  grouped row h := by
    rw [Database.groupIds_updateGroup]
    exact kept.grouped row h

theorem WellKept.deleteRecords {db : Database} (kept : WellKept db) (gone : RecordRow → Bool) :
    WellKept { db with records := db.records.delete gone } where
  rows row h := kept.rows row (Table.mem_delete.mp h).1
  grouped row h := kept.grouped row (Table.mem_delete.mp h).1

/-- The foreign key deletes the records of a deleted group with it. -/
theorem WellKept.deleteGroups {db : Database} (kept : WellKept db) (gone : GroupSummary → Bool) :
    WellKept (db.deleteGroups gone) where
  rows row h := kept.rows row (Table.mem_delete.mp h).1
  grouped row h := by
    obtain ⟨member, spared⟩ := Table.mem_delete.mp h
    obtain ⟨group, stored, same⟩ := List.mem_map.mp (kept.grouped row member)
    refine List.mem_map.mpr ⟨group, Table.mem_delete.mpr ⟨stored, ?_⟩, same⟩
    have apart := List.any_eq_false.mp spared group stored
    simpa [same] using apart

theorem newRecord_kept {id : RecordId} {groupId : Str} {record : CrashRecord} {isRepeating : Bool}
    {written : Option WrittenPayload} (issued : Issued id) (payload : WrittenFor id written) :
    KeptRow (newRecord id groupId record isRepeating written) where
  issued := issued
  pathed path h := by
    obtain ⟨payload', rfl, rfl⟩ := Option.map_eq_some_iff.mp h
    exact (payload payload' rfl).1
  bare h := by
    cases written with
    | none => exact ⟨rfl, rfl⟩
    | some payload' =>
        have readable := (payload payload' rfl).2
        have absent : payload'.state = .absent := h
        rw [absent] at readable
        cases readable

theorem Move.wellKept {db db' : Database} (move : Move db db') (kept : WellKept db) :
    WellKept db' := by
  cases move with
  | insert issued payload inserted =>
      obtain ⟨_, rows, _⟩ := Database.insertCrash_eq_some inserted
      refine ⟨fun row h => ?_, fun row h => (Database.mem_groupIds_insertCrash inserted).mpr ?_⟩
      · rw [rows] at h
        rcases List.mem_append.mp h with h | h
        · exact kept.rows row h
        · rw [List.mem_singleton.mp h]
          exact newRecord_kept issued payload
      · rw [rows] at h
        rcases List.mem_append.mp h with h | h
        · exact Or.inl (kept.grouped row h)
        · rw [List.mem_singleton.mp h]
          exact Or.inr rfl
  | ingestSource row =>
      obtain ⟨groups, records⟩ := insertSource_rows db row
      refine ⟨fun row h => kept.rows row (records ▸ h), fun row h => ?_⟩
      rw [Database.groupIds, groups]
      exact kept.grouped row (records ▸ h)
  | foldSources id sources =>
      refine kept.updateRecord fun row h _ => ⟨?_, rfl⟩
      exact ⟨(kept.rows row h).issued, (kept.rows row h).pathed, (kept.rows row h).bare⟩
  | adopt stored absent payload =>
      rename_i existing adopted
      refine (kept.updateRecord (f := RecordRow.adopt _) fun row h same =>
        ⟨⟨(kept.rows row h).issued, ?_, ?_⟩, rfl⟩).updateGroup
      · rintro path adopted
        cases adopted
        have path := (payload _ rfl).1
        rwa [← same] at path
      · intro unread
        have readable := (payload _ rfl).2
        have unread : adopted.state = .absent := unread
        rw [unread] at readable
        cases readable
  | drop stored => exact (kept.deleteRecords _).updateGroup
  | evict stored =>
      refine (kept.updateRecord (f := RecordRow.evict) fun row h _ =>
        ⟨⟨(kept.rows row h).issued, ?_, ?_⟩, rfl⟩).updateGroup
      · intro path evicted
        cases evicted
      · intro evicted
        cases evicted
  | dropEmpty cutoffMs => exact kept.deleteGroups _
  | prune gone => exact ⟨kept.rows, kept.grouped⟩

theorem Moves.wellKept {db db' : Database} (moves : Moves db db') (kept : WellKept db) :
    WellKept db' := by
  induction moves with
  | refl => exact kept
  | tail _ move ih => exact move.wellKept ih

theorem WellKept.erase {db : Database} (kept : WellKept db) (target : DeleteTarget) :
    WellKept (db.erase target) := by
  unfold Database.erase
  split
  · exact (kept.deleteRecords _).deleteGroups _
  · exact (kept.deleteRecords _).deleteGroups _
  · exact kept
  · exact (kept.deleteRecords _).deleteGroups _

theorem Op.Commits.wellKept {op : Op} {db db' : Database} (commits : op.Commits db db')
    (kept : WellKept db) : WellKept db' := by
  cases op with
  | insert => exact Moves.wellKept commits kept
  | fold => exact Moves.wellKept commits kept
  | sweep => exact Moves.wellKept commits kept
  | delete target =>
      rcases commits with same | same
      · exact same ▸ kept
      · exact same ▸ kept.erase target

theorem Reachable.kept {platform : Platform} {s : StoreState} (reachable : Reachable platform s) :
    s.ids.Fits ∧ WellKept s.db := by
  induction reachable with
  | empty => exact ⟨RecordIdGenerator.fits_new, wellKept_empty⟩
  | step op faults _ ih =>
      have commits := apply_commits platform ih.1 op faults
      exact ⟨commits.1, commits.2.wellKept ih.2⟩

end CrashCatcher.Store
