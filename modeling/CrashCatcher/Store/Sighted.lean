import CrashCatcher.Store.Companion

namespace CrashCatcher.Store
open Lib Model

structure CrashIdentity where
  pid : Int
  processName : Str
  kind : CrashKind
  userId : Int
  happenedAtMs : I64

end CrashCatcher.Store

namespace CrashCatcher.Model
open Store

def CrashRecord.identity (record : CrashRecord) : CrashIdentity where
  pid := record.pid
  processName := record.processName
  kind := record.kind
  userId := record.userId
  happenedAtMs := record.happenedAtMs

end CrashCatcher.Model

namespace CrashCatcher.Store
open Lib Model

namespace Database

def Shows (db : Database) (row : RecordRow) (who : CrashIdentity) : Prop :=
  row.pid = who.pid ∧ row.happenedAtMs = who.happenedAtMs ∧ ∃ group ∈ db.groups.rows,
    group.groupId = row.groupId ∧ group.processName = who.processName ∧ group.kind = who.kind ∧
      group.userId = who.userId

instance (db : Database) (row : RecordRow) (who : CrashIdentity) : Decidable (db.Shows row who) :=
  inferInstanceAs (Decidable (_ ∧ _ ∧ ∃ group ∈ db.groups.rows, _))

def Once (db : Database) : Prop :=
  ∀ who : CrashIdentity, who.pid ≠ 0 → ∀ row ∈ db.records.rows, ∀ other ∈ db.records.rows,
    db.Shows row who → db.Shows other who → row.id = other.id

def Shrinks (db db' : Database) : Prop :=
  ∀ row ∈ db'.records.rows, ∃ old ∈ db.records.rows, old.id = row.id ∧ ∀ who, db'.Shows row who →
    db.Shows old who

theorem Once.of_shrinks {db db' : Database} (once : db.Once) (shrinks : db.Shrinks db') : db'.Once := by
  intro who known row stored other stored' shows_ shows'
  obtain ⟨old, member, same, before⟩ := shrinks row stored
  obtain ⟨old', member', same', before'⟩ := shrinks other stored'
  rw [← same, ← same']
  exact once who known old member old' member' (before who shows_) (before' who shows')

theorem Shows.of_groups {db db' : Database} {row : RecordRow} {who : CrashIdentity}
    (groups : ∀ group ∈ db'.groups.rows, ∃ old ∈ db.groups.rows, old.groupId = group.groupId ∧
      old.processName = group.processName ∧ old.kind = group.kind ∧ old.userId = group.userId)
    (shows_ : db'.Shows row who) : db.Shows row who := by
  obtain ⟨pid, at_, group, member, groupId, processName, kind, userId⟩ := shows_
  obtain ⟨old, member', groupId', processName', kind', userId'⟩ := groups group member
  exact ⟨pid, at_, old, member', groupId'.trans groupId, processName'.trans processName, kind'.trans kind,
    userId'.trans userId⟩

theorem shrinks_of_rows {db db' : Database} (groups : ∀ group ∈ db'.groups.rows, ∃ old ∈ db.groups.rows,
      old.groupId = group.groupId ∧ old.processName = group.processName ∧ old.kind = group.kind ∧
        old.userId = group.userId)
    (records : ∀ row ∈ db'.records.rows, ∃ old ∈ db.records.rows, old.id = row.id ∧ old.pid = row.pid ∧
      old.happenedAtMs = row.happenedAtMs ∧ old.groupId = row.groupId) : db.Shrinks db' := by
  intro row stored
  obtain ⟨old, member, id, pid, at_, groupId⟩ := records row stored
  refine ⟨old, member, id, fun who shows_ => ?_⟩
  obtain ⟨pid', at', group, member', groupId', named⟩ := shows_.of_groups groups
  exact ⟨pid.trans pid', at_.trans at', group, member', groupId'.trans groupId.symm, named⟩

end Database

open Database

theorem upkeep_shrinks : Upkeep Database.Shrinks where
  refl db row stored := ⟨row, stored, rfl, fun _ shows_ => shows_⟩
  trans first next row stored := by
    obtain ⟨middle, member, same, before⟩ := next row stored
    obtain ⟨old, member', same', before'⟩ := first middle member
    exact ⟨old, member', same'.trans same, fun who shows_ => before' who (before who shows_)⟩
  deleteRecords db gone row stored := ⟨row, (Table.mem_delete.mp stored).1, rfl, fun _ shows_ => shows_⟩
  deleteGroups db gone row stored := ⟨row, (Table.mem_delete.mp stored).1, rfl,
    fun _ shows_ => shows_.of_groups fun group member =>
    ⟨group, (Table.mem_delete.mp member).1, rfl, rfl, rfl, rfl⟩⟩
  evict db id := by
    refine shrinks_of_rows (fun group member => ⟨group, member, rfl, rfl, rfl, rfl⟩) fun row stored => ?_
    have rewritten : row ∈ (db.records.modify
        (fun row => row.id = id) RecordRow.evict RecordRow.id_evict).rows := stored
    obtain ⟨old, member, rfl⟩ := Table.mem_modify.mp rewritten
    refine ⟨old, member, ?_⟩
    split <;> exact ⟨rfl, rfl, rfl, rfl⟩
  subBytes db groupId bytes := by
    refine shrinks_of_rows (fun group member => ?_) fun row stored => ⟨row, stored, rfl, rfl, rfl, rfl⟩
    have rewritten : group ∈ (db.groups.modify (fun row => row.groupId = groupId) (GroupSummary.subBytes bytes)
      (GroupSummary.groupId_subBytes bytes)).rows := member
    obtain ⟨old, before, rfl⟩ := Table.mem_modify.mp rewritten
    refine ⟨old, before, ?_⟩
    split <;> exact ⟨rfl, rfl, rfl, rfl⟩
  prune db gone row stored := ⟨row, stored, rfl, fun _ shows_ => shows_⟩

section
variable {db db' : Database} {record : CrashRecord} {windowMs : Int} {row : RecordRow}

theorem shrinks_foldInto (db : Database) (existing : RecordSummary) (record : CrashRecord)
    (adopted : Option WrittenPayload) : db.Shrinks (db.foldInto existing record adopted) := by
  refine shrinks_of_rows (fun group member => ?_) fun row stored => ?_
  · obtain ⟨bytes, groups⟩ := foldInto_groups db existing record adopted
    rw [groups] at member
    obtain ⟨old, before, rfl⟩ := List.mem_map.mp member
    refine ⟨old, before, ?_⟩
    split <;> exact ⟨rfl, rfl, rfl, rfl⟩
  · rw [foldInto_rows] at stored
    obtain ⟨old, member, rfl⟩ := List.mem_map.mp stored
    refine ⟨old, member, ?_⟩
    split
    · cases adopted <;> exact ⟨rfl, rfl, rfl, rfl⟩
    · exact ⟨rfl, rfl, rfl, rfl⟩

theorem isCompanion_of_shows (shows_ : db.Shows row record.identity) (window : 0 ≤ windowMs) :
    db.isCompanion record windowMs row = true := by
  obtain ⟨pid, at_, group, member, groupId, processName, kind, userId⟩ := shows_
  have found : db.groups.find? row.groupId = some group := (Table.find?_eq_some_iff _).mpr ⟨member, groupId⟩
  have at_ : row.happenedAtMs = record.happenedAtMs := at_
  simp only [isCompanion, found, Option.any_some, pid, processName, kind, userId, at_, CrashRecord.identity,
    beq_self_eq_true, Bool.true_and, Bool.and_true, Bool.true_or, Bool.and_eq_true, decide_eq_true_eq]
  omega

theorem shows_of_isCompanion (qualifies : db.isCompanion record windowMs row = true)
    (at_ : row.happenedAtMs = record.happenedAtMs) : db.Shows row record.identity := by
  simp only [isCompanion, Bool.and_eq_true, beq_iff_eq] at qualifies
  obtain ⟨⟨⟨⟨pid, grouped⟩, -⟩, -⟩, -⟩ := qualifies
  cases found : db.groups.find? row.groupId with
  | none =>
      rw [found] at grouped
      cases grouped
  | some group =>
      rw [found] at grouped
      simp only [Option.any_some, Bool.and_eq_true, beq_iff_eq] at grouped
      obtain ⟨⟨processName, kind⟩, userId⟩ := grouped
      obtain ⟨member, groupId⟩ := (Table.find?_eq_some_iff _).mp found
      exact ⟨pid, at_, group, member, groupId, processName, CrashKind.asI64_injective kind, userId⟩

theorem companion_of_shows (stored : row ∈ db.records.rows) (shows_ : db.Shows row record.identity)
    (window : 0 ≤ windowMs) :
    ∃ found ∈ db.records.rows, db.companion record windowMs = some found ∧ db.Shows found record.identity := by
  have qualifies := isCompanion_of_shows shows_ window
  have candidate : row ∈ db.records.rows.filter (db.isCompanion record windowMs) :=
    List.mem_filter.mpr ⟨stored, qualifies⟩
  cases nearest : db.companion record windowMs with
  | none =>
      have none_ : db.records.rows.filter (db.isCompanion record windowMs) = [] :=
        List.argmin_eq_none.mp nearest
      rw [none_] at candidate
      cases candidate
  | some found =>
      obtain ⟨member, qualifies'⟩ := List.mem_filter.mp (List.argmin_mem nearest)
      have near : found.happenedAtMs.absDiff record.happenedAtMs ≤
          row.happenedAtMs.absDiff record.happenedAtMs :=
        List.le_of_mem_argmin candidate nearest
      have here : row.happenedAtMs = record.happenedAtMs := shows_.2.1
      have none_apart : row.happenedAtMs.absDiff record.happenedAtMs = 0 := by
        rw [here]
        unfold I64.absDiff
        omega
      have at_ : found.happenedAtMs = record.happenedAtMs := by
        rw [none_apart] at near
        unfold I64.absDiff at near
        exact I64.ext (by omega)
      exact ⟨found, member, rfl, shows_of_isCompanion qualifies' at_⟩

theorem Database.Once.insertCrash {group : GroupSummary} (once : db.Once) (kept : WellKept db)
    (inserted : db.insertCrash group row = some db') (own : group.groupId = row.groupId)
    (alone : ∀ old ∈ db.groups.rows, old.groupId = group.groupId →
      old.processName = group.processName ∧ old.kind = group.kind ∧ old.userId = group.userId)
    (unseen : row.pid ≠ 0 → ∀ other ∈ db.records.rows,
      ¬ db.Shows other ⟨row.pid, group.processName, group.kind, group.userId, row.happenedAtMs⟩)
        : db'.Once := by
  obtain ⟨-, rows, groups⟩ := insertCrash_eq_some inserted
  have before : ∀ old ∈ db.records.rows, ∀ who, db'.Shows old who → db.Shows old who := by
    rintro old stored who ⟨pid, at_, other, member, groupId, named⟩
    rw [groups] at member
    rcases mem_upsertGroup member with ⟨member, -⟩ | ⟨rfl, fresh⟩ | ⟨first, earlier, -, rfl⟩
    · exact ⟨pid, at_, other, member, groupId, named⟩
    · exact absurd (groupId ▸ kept.grouped old stored) fresh
    · exact ⟨pid, at_, first, earlier, groupId, named⟩
  have new : ∀ who, db'.Shows row who →
      who = ⟨row.pid, group.processName, group.kind, group.userId, row.happenedAtMs⟩ := by
    rintro ⟨_, _, _, _, _⟩ ⟨rfl, rfl, other, member, groupId, rfl, rfl, rfl⟩
    rw [groups] at member
    rcases mem_upsertGroup member with ⟨-, apart⟩ | ⟨rfl, -⟩ | ⟨first, earlier, same, rfl⟩
    · exact absurd (groupId.trans own.symm) apart
    · rfl
    · obtain ⟨processName, kind, userId⟩ := alone first earlier same
      simp only [GroupSummary.sightAgain, processName, kind, userId]
  intro who known old stored other stored' shows_ shows'
  rw [rows] at stored stored'
  rcases List.mem_append.mp stored with first | here <;> rcases List.mem_append.mp stored' with second | here'
  · exact once who known old first other second (before old first who shows_) (before other second who shows')
  · obtain rfl := List.mem_singleton.mp here'
    obtain rfl := new who shows'
    exact absurd (before old first _ shows_) (unseen known old first)
  · obtain rfl := List.mem_singleton.mp here
    obtain rfl := new who shows_
    exact absurd (before other second _ shows') (unseen known other second)
  · rw [List.mem_singleton.mp here, List.mem_singleton.mp here']

end
end CrashCatcher.Store
