import CrashCatcher.Store.Companion
import CrashCatcher.Store.History
import CrashCatcher.Store.Ids
import CrashCatcher.Store.Verdicts

namespace CrashCatcher.Store
open Lib Model Fallible

def Database.muteGroup (db : Database) (groupId : Str) (mutedUntilMs : Option I64) : Database :=
  db.updateGroup groupId (GroupSummary.mute mutedUntilMs) (GroupSummary.groupId_mute mutedUntilMs)

def setGroupMute (groupId : Str) (mutedUntilMs : Option I64) : StoreM Bool :=
  execute fun db => some ((db.groups.find? groupId).isSome, db.muteGroup groupId mutedUntilMs)

def Database.clearMutes (db : Database) : Database :=
  { db with
    groups := db.groups.modify (·.mutedUntilMs.isSome) (GroupSummary.mute none)
      (GroupSummary.groupId_mute none) }

def clearAllMutes : StoreM Nat :=
  execute fun db => some (db.groups.rows.countP (·.mutedUntilMs.isSome), db.clearMutes)

/-- The writes that leave the crashes themselves alone. -/
inductive Chore where
  | setGroupMute (groupId : Str) (mutedUntilMs : Option I64)
  | setPackageMute (packageName : Str) (mutedUntilMs : Option I64)
  | clearAllMutes
  | applyPackageSystemFlags (flags : List (Str × Bool))
  | markIngested (sourceKey : Str) (nowMs : I64)

def Chore.run : Chore → StoreM Unit
  | .setGroupMute groupId mutedUntilMs => do
      let _ ← Store.setGroupMute groupId mutedUntilMs
  | .setPackageMute packageName mutedUntilMs => do
      let _ ← Store.setPackageMute packageName mutedUntilMs
  | .clearAllMutes => do
      let _ ← Store.clearAllMutes
  | .applyPackageSystemFlags flags => do
      let _ ← Store.applyPackageSystemFlags flags
  | .markIngested sourceKey nowMs => do
      let _ ← Store.markIngested sourceKey nowMs

structure SameCrashes (s t : StoreState) : Prop where
  ids : t.ids = s.ids
  files : t.files = s.files
  records : t.db.records.rows = s.db.records.rows
  groups : t.db.groupIds = s.db.groupIds

namespace SameCrashes
variable {s t u : StoreState}

theorem refl (s : StoreState) : SameCrashes s s := ⟨rfl, rfl, rfl, rfl⟩

theorem trans (first : SameCrashes s t) (second : SameCrashes t u) : SameCrashes s u :=
  ⟨second.ids.trans first.ids, second.files.trans first.files, second.records.trans first.records,
    second.groups.trans first.groups⟩

theorem modify (hit : GroupSummary → Bool) (f : GroupSummary → GroupSummary)
    (keeps : ∀ row, (f row).groupId = row.groupId) :
    SameCrashes s { s with db := { s.db with groups := s.db.groups.modify hit f keeps } } :=
  ⟨rfl, rfl, rfl, Table.map_key_modify _ _ _ keeps⟩

theorem wellKept (same : SameCrashes s t) (kept : WellKept s.db) : WellKept t.db := by
  refine ⟨fun row member => kept.rows row (same.records ▸ member), fun row member => ?_⟩
  rw [same.groups]
  exact kept.grouped row (same.records ▸ member)

end SameCrashes

theorem execute_sameCrashes {α : Type} {s : StoreState} (result : Database → α) (change : Database → Database)
    (same : SameCrashes s { s with db := change s.db }) :
    Ends s (execute fun db => some (result db, change db)) (fun _ => SameCrashes s) (SameCrashes s) := by
  refine (Ends.execute (.refl s)).consequence ?_ fun _ same => same
  rintro _ _ ⟨db, changed, rfl⟩
  cases changed
  exact same

theorem resolvePackages_sameCrashes (flags : List (Str × Bool)) {s : StoreState} :
    Ends s (resolvePackages flags) (fun _ => SameCrashes s) (SameCrashes s) := by
  induction flags generalizing s with
  | nil => exact Ends.pure (.refl s)
  | cons flag rest ih =>
      obtain ⟨name, isSystemApp⟩ := flag
      have first := execute_sameCrashes
        (fun db => db.groups.rows.countP (GroupSummary.differs name isSystemApp))
        (fun db => db.resolvePackage name isSystemApp) (SameCrashes.modify (s := s) _ _ _)
      refine Ends.bind first fun changed t same => ?_
      refine Ends.bind (ih.consequence (fun _ _ => same.trans) fun _ => same.trans) fun others u same => ?_
      exact Ends.pure same

theorem applyPackageSystemFlags_sameCrashes (flags : List (Str × Bool)) {s : StoreState} :
    Ends s (applyPackageSystemFlags flags) (fun _ => SameCrashes s) (SameCrashes s) := by
  refine Ends.ite (fun _ => Ends.pure (.refl s)) fun _ => ?_
  refine Ends.transaction (fun _ _ same => ⟨same.ids, same.files⟩) ?_ (.refl s)
  exact (resolvePackages_sameCrashes flags).consequence (fun _ _ same => same) fun _ same =>
    ⟨same.ids, same.files⟩

theorem Chore.run_sameCrashes (chore : Chore) {s : StoreState} :
    Ends s chore.run (fun _ => SameCrashes s) (SameCrashes s) := by
  cases chore with
  | setGroupMute groupId mutedUntilMs =>
      exact Ends.bind (execute_sameCrashes _ _ (.modify _ _ _)) fun _ _ same => Ends.pure same
  | setPackageMute packageName mutedUntilMs =>
      exact Ends.bind (execute_sameCrashes _ _ (.modify _ _ _)) fun _ _ same => Ends.pure same
  | clearAllMutes =>
      exact Ends.bind (execute_sameCrashes _ _ (.modify _ _ _)) fun _ _ same => Ends.pure same
  | applyPackageSystemFlags flags =>
      exact Ends.bind (applyPackageSystemFlags_sameCrashes flags) fun _ _ same => Ends.pure same
  | markIngested sourceKey nowMs =>
      obtain ⟨groups, records⟩ := insertSource_rows s.db { sourceKey, ingestedAtMs := nowMs }
      refine Ends.bind (execute_sameCrashes _ _ ⟨rfl, rfl, congrArg Table.rows records, ?_⟩) fun _ _ same =>
        Ends.pure same
      exact congrArg (fun groups : Table GroupSummary.groupId => groups.rows.map (·.groupId)) groups

/-- The stores that any writes lead to, whether they succeeded or failed, in one process after the other: a
later one finds the rows again, whatever it finds for files. -/
inductive Lived (platform : Platform) : StoreState → Prop
  | empty : Lived platform .empty
  | step {s : StoreState} (op : Op) (faults : Nat → Option Nat) (before : Lived platform s) :
      Lived platform (s.apply platform op faults)
  | chore {s : StoreState} (chore : Chore) (faults : Nat → Option Nat) (before : Lived platform s) :
      Lived platform (chore.run { store := s, faults }).2.store
  | reopen {s : StoreState} (files : Files) (before : Lived platform s) :
      Lived platform { ids := resumeIds (s.db.records.rows.map (·.id)), db := s.db, files }

theorem fits_resumeIds {stored : List RecordId} (issued : ∀ id ∈ stored, Issued id) :
    (resumeIds stored).Fits := by
  have coded : ∀ id ∈ stored, IdState.Coded (2 ^ sequenceBits) id := fun id member => by
    obtain ⟨generator, fits, same⟩ := issued id member
    exact ⟨generator, fits, fits.sequence.le, same⟩
  rcases IdState.resumeIds_cases coded with ⟨-, fresh⟩ | ⟨generator, same, fits, -⟩
  · rw [fresh]
    exact RecordIdGenerator.fits_new
  · rwa [same]

variable {platform : Platform} {s : StoreState}

theorem Lived.kept (lived : Lived platform s) : s.ids.Fits ∧ WellKept s.db := by
  induction lived with
  | empty => exact ⟨RecordIdGenerator.fits_new, wellKept_empty⟩
  | step op faults before ih =>
      have commits := apply_commits platform ih.1 op faults
      exact ⟨commits.1, commits.2.wellKept ih.2⟩
  | @chore s chore faults before ih =>
      have same := (@Chore.run_sameCrashes chore s).always faults
      exact ⟨same.ids ▸ ih.1, same.wellKept ih.2⟩
  | @reopen s files before ih =>
      refine ⟨fits_resumeIds fun id member => ?_, ih.2⟩
      obtain ⟨row, stored, rfl⟩ := List.mem_map.mp member
      exact (ih.2.rows row stored).issued

theorem Reachable.lived (reachable : Reachable platform s) : Lived platform s := by
  induction reachable with
  | empty => exact .empty
  | step op faults before ih => exact .step op faults ih

end CrashCatcher.Store
