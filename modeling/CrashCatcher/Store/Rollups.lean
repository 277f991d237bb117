import CrashCatcher.Lib.Latest
import CrashCatcher.Store.Read

namespace CrashCatcher.Store
open Lib Wire Fallible

structure PackageRollup where
  packageName : Str
  userId : Int
  isSystemApp : Bool
  packageInstalled : Bool
  groupCount : Nat
  occurrence : Nat
  lastSeenMs : I64

def GroupSummary.package (group : GroupSummary) : Str × Int := (group.packageName, group.userId)

def rollup (package : Str × Int) (groups : List GroupSummary) : PackageRollup where
  packageName := package.1
  userId := package.2
  isSystemApp := groups.any (·.isSystemApp)
  packageInstalled := groups.all (·.packageInstalled)
  groupCount := groups.length
  occurrence := groups.foldl (fun sum group => sum + group.occurrence) 0
  lastSeenMs := groups.foldl (fun latest group => max latest group.lastSeenMs) (I64.clamp (-2 ^ 63))

def rollupFilter (includeSystemApps includeSystemProcesses : Bool) (group : GroupSummary) : Bool :=
  (includeSystemApps || !(group.isSystemApp && group.packageInstalled)) &&
    (includeSystemProcesses || group.packageInstalled)

/-- The order that `GROUP BY package_name, user_id` leaves the packages in. -/
def packageOrder (a b : Str × Int) : Bool := decide (a.1 < b.1) || a.1 == b.1 && decide (a.2 ≤ b.2)

def Database.rollups (db : Database) (includeSystemApps includeSystemProcesses : Bool) : List PackageRollup :=
  let groups := db.groups.rows.filter (rollupFilter includeSystemApps includeSystemProcesses)
  let packages := (groups.map GroupSummary.package).dedup.mergeSort packageOrder
  (packages.map fun package => rollup package (groups.filter fun group => group.package = package)).mergeSort
    fun a b => decide (b.lastSeenMs ≤ a.lastSeenMs)

def rollupLimit (limit : Nat) : Nat := if limit = 0 then maxPageLimit else min limit maxPageLimit

def packageRollups (includeSystemApps includeSystemProcesses : Bool) (limit : Nat) :
    StoreM (List PackageRollup) :=
  query fun db => (db.rollups includeSystemApps includeSystemProcesses).take (rollupLimit limit)

section
variable (db : Database) (includeSystemApps includeSystemProcesses : Bool)

theorem rollups_descending :
    (db.rollups includeSystemApps includeSystemProcesses).Pairwise fun a b => b.lastSeenMs ≤ a.lastSeenMs := by
  unfold Database.rollups
  refine (List.pairwise_mergeSort ?_ ?_ _).imp fun later => of_decide_eq_true later
  · intro a b c first second
    exact decide_eq_true (le_trans (of_decide_eq_true second) (of_decide_eq_true first))
  · intro a b
    rw [Bool.or_eq_true, decide_eq_true_iff, decide_eq_true_iff]
    exact le_total _ _

theorem mem_rollups {row : PackageRollup} :
    row ∈ db.rollups includeSystemApps includeSystemProcesses ↔
      ∃ group ∈ db.groups.rows, rollupFilter includeSystemApps includeSystemProcesses group = true ∧
        row = rollup group.package (db.groups.rows.filter fun other =>
          decide (other.package = group.package) && rollupFilter includeSystemApps includeSystemProcesses
            other) := by
  simp only [Database.rollups, List.mem_mergeSort, List.mem_map, List.mem_dedup, List.mem_filter,
    List.filter_filter]
  constructor
  · rintro ⟨package, ⟨group, ⟨stored, passes⟩, rfl⟩, rfl⟩
    exact ⟨group, stored, passes, rfl⟩
  · rintro ⟨group, stored, passes, rfl⟩
    exact ⟨group.package, ⟨group, ⟨stored, passes⟩, rfl⟩, rfl⟩

theorem rollups_distinct :
    ((db.rollups includeSystemApps includeSystemProcesses).map fun row =>
      (row.packageName, row.userId)).Nodup := by
  have distinct (groups : List GroupSummary) :
      ((groups.map GroupSummary.package).dedup.mergeSort packageOrder).Nodup :=
    (List.mergeSort_perm _ _).nodup_iff.mpr (List.nodup_dedup _)
  unfold Database.rollups
  refine ((List.mergeSort_perm _ _).map _).nodup_iff.mpr ?_
  rw [List.map_map]
  exact (List.map_id _).symm ▸ distinct _

end
end CrashCatcher.Store
