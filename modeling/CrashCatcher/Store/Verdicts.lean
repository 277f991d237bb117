import CrashCatcher.Store.Quiet
import CrashCatcher.Store.Upkeep

namespace CrashCatcher.Store
open Lib Model Fallible

/-- `SELECT DISTINCT package_name … ORDER BY 1`. -/
def Database.packageNames (db : Database) : List Str :=
  ((db.groups.rows.map GroupSummary.packageName).mergeSort fun a b => decide (a ≤ b)).dedup

theorem Database.mem_packageNames {db : Database} {group : GroupSummary} (stored : group ∈ db.groups.rows) :
    group.packageName ∈ db.packageNames := by
  rw [packageNames, List.mem_dedup, List.mem_mergeSort]
  exact List.mem_map_of_mem stored

def groupPackageNames : StoreM (List Str) := query Database.packageNames

def GroupSummary.resolve (isSystemApp : Bool) (row : GroupSummary) : GroupSummary :=
  { row with isSystemApp, packageInstalled := true }

theorem GroupSummary.groupId_resolve (isSystemApp : Bool) (row : GroupSummary) :
    (row.resolve isSystemApp).groupId = row.groupId := rfl

def GroupSummary.differs (name : Str) (isSystemApp : Bool) (row : GroupSummary) : Bool :=
  row.packageName = name && (row.isSystemApp != isSystemApp || !row.packageInstalled)

def Database.resolvePackage (db : Database) (name : Str) (isSystemApp : Bool) : Database :=
  { db with
    groups := db.groups.modify (GroupSummary.differs name isSystemApp)
      (GroupSummary.resolve isSystemApp) (GroupSummary.groupId_resolve isSystemApp) }

def resolvePackages : List (Str × Bool) → StoreM Nat
  | [] => pure 0
  | (name, isSystemApp) :: rest => do
      let changed ← execute fun db =>
        some (db.groups.rows.countP (GroupSummary.differs name isSystemApp), db.resolvePackage name isSystemApp)
      let others ← resolvePackages rest
      pure (changed + others)

def applyPackageSystemFlags (flags : List (Str × Bool)) : StoreM Nat :=
  if flags.isEmpty then pure 0 else transaction (resolvePackages flags)

theorem mem_resolvePackage {db : Database} {name : Str} {isSystemApp : Bool} {group : GroupSummary} :
    group ∈ (db.resolvePackage name isSystemApp).groups.rows ↔ ∃ old ∈ db.groups.rows,
      (if old.differs name isSystemApp then old.resolve isSystemApp else old) = group :=
  List.mem_map

section
variable {s : StoreState}

def Database.resolveAll (db : Database) (flags : List (Str × Bool)) : Database :=
  flags.foldl (fun db flag => db.resolvePackage flag.1 flag.2) db

theorem resolvePackages_completes (flags : List (Str × Bool)) :
    Completes s (resolvePackages flags) fun _ t => t = { s with db := s.db.resolveAll flags } := by
  induction flags generalizing s with
  | nil => exact .pure rfl
  | cons flag rest ih =>
      obtain ⟨name, isSystemApp⟩ := flag
      have first : Completes s (execute fun db => some
            (db.groups.rows.countP (GroupSummary.differs name isSystemApp), db.resolvePackage name isSystemApp))
          fun _ t => t = { s with db := s.db.resolvePackage name isSystemApp } := ⟨_, _, execute_quiet s _, rfl⟩
      refine .bind first ?_
      rintro changed _ rfl
      refine .bind ih ?_
      rintro others _ rfl
      exact .pure rfl

theorem applyPackageSystemFlags_completes (flags : List (Str × Bool)) :
    Completes s (applyPackageSystemFlags flags) fun _ t => t = { s with db := s.db.resolveAll flags } := by
  refine .ite (fun none => ?_) fun _ => .transaction (resolvePackages_completes flags)
  rw [List.isEmpty_iff.mp none]
  exact .pure rfl

end
end CrashCatcher.Store
