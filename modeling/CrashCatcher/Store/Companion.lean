import Mathlib.Data.List.MinMax
import CrashCatcher.Store.Read
import CrashCatcher.Store.Upkeep

namespace CrashCatcher.Store
open Lib Model Config Fallible

namespace Database

/-- The `WHERE` clause that finds a crash in what is stored: one artefact read twice, or one crash
seen by another source nearby. -/
def isCompanion (db : Database) (record : CrashRecord) (windowMs : Int) (row : RecordRow) : Bool :=
  row.pid == record.pid &&
  (db.groups.find? row.groupId).any (fun group =>
    group.processName == record.processName && group.kind.asI64 == record.kind.asI64 &&
      group.userId == record.userId) &&
  decide (record.happenedAtMs.val - windowMs ≤ row.happenedAtMs.val) &&
  decide (row.happenedAtMs.val ≤ record.happenedAtMs.val + windowMs) &&
  (row.happenedAtMs == record.happenedAtMs || !row.sources.intersects record.sources)

def companion (db : Database) (record : CrashRecord) (windowMs : Int) : Option RecordRow :=
  (db.records.rows.filter (db.isCompanion record windowMs)).argmin fun row =>
    row.happenedAtMs.absDiff record.happenedAtMs

end Database

/-- The stored record that this one is a second view of; a pid of zero identifies nothing. -/
def companionRecord (record : CrashRecord) (windowMs : Int) : StoreM (Option RecordSummary) :=
  if record.pid = 0 then pure none
  else query fun db => (db.companion record windowMs).map mapRecord

def markIngested (sourceKey : Str) (nowMs : I64) : StoreM Bool :=
  execute fun db =>
    some ((db.sources.find? sourceKey).isNone, db.insertSource { sourceKey, ingestedAtMs := nowMs })

def GroupSummary.mute (mutedUntilMs : Option I64) (row : GroupSummary) : GroupSummary :=
  { row with mutedUntilMs }

theorem GroupSummary.groupId_mute (mutedUntilMs : Option I64) (row : GroupSummary) :
    (row.mute mutedUntilMs).groupId = row.groupId := rfl

def Database.mutePackage (db : Database) (packageName : Str) (mutedUntilMs : Option I64) : Database :=
  { db with
    groups := db.groups.modify (fun row => row.packageName = packageName)
      (GroupSummary.mute mutedUntilMs) (GroupSummary.groupId_mute mutedUntilMs) }

def setPackageMute (packageName : Str) (mutedUntilMs : Option I64) : StoreM Nat :=
  execute fun db => some
    (db.groups.rows.countP fun row => row.packageName = packageName, db.mutePackage packageName mutedUntilMs)

section
variable {s : StoreState}

theorem companionRecord_exact (record : CrashRecord) (windowMs : Int) :
    Ends s (companionRecord record windowMs)
      (fun found t => t = s ∧ found =
        if record.pid = 0 then none else (s.db.companion record windowMs).map mapRecord)
      fun t => t = s := by
  unfold companionRecord
  refine Ends.ite (fun zero => ?_) fun known => ?_
  · exact Ends.pure ⟨rfl, (if_pos zero).symm⟩
  · refine (Ends.query rfl).consequence ?_ fun _ same => same.symm
    rintro found _ ⟨rfl, rfl⟩
    exact ⟨rfl, (if_neg known).symm⟩

theorem markIngested_exact (sourceKey : Str) (nowMs : I64) :
    Ends s (markIngested sourceKey nowMs)
      (fun _ t => t = { s with db := s.db.insertSource { sourceKey, ingestedAtMs := nowMs } })
      fun t => t = s := by
  refine (Ends.execute rfl).consequence ?_ fun _ same => same.symm
  rintro _ _ ⟨db, marked, rfl⟩
  cases marked
  rfl

theorem setPackageMute_exact (packageName : Str) (mutedUntilMs : Option I64) :
    Ends s (setPackageMute packageName mutedUntilMs)
      (fun _ t => t = { s with db := s.db.mutePackage packageName mutedUntilMs }) fun t => t = s := by
  refine (Ends.execute rfl).consequence ?_ fun _ same => same.symm
  rintro _ _ ⟨db, muted, rfl⟩
  cases muted
  rfl

end
end CrashCatcher.Store
