import Mathlib.Data.List.Infix
import CrashCatcher.Daemon.Leaves
import CrashCatcher.Store.Rollups
import CrashCatcher.Wire.Response

namespace CrashCatcher.Lib.Text

theorem contains_eq_true {needle text : Str} :
    contains needle text = true ↔ ∃ front back, text = front ++ needle ++ back := by
  rw [contains, List.any_eq_true]
  constructor
  · rintro ⟨rest, tail, found⟩
    obtain ⟨front, rfl⟩ := (List.mem_tails _ _).mp tail
    obtain ⟨back, rfl⟩ := List.isPrefixOf_iff_prefix.mp found
    exact ⟨front, back, (List.append_assoc _ _ _).symm⟩
  · rintro ⟨front, back, rfl⟩
    refine ⟨needle ++ back, (List.mem_tails _ _).mpr ⟨front, (List.append_assoc _ _ _).symm⟩, ?_⟩
    exact List.isPrefixOf_iff_prefix.mpr (List.prefix_append _ _)

theorem contains_lower {needle text : Str} :
    contains (needle.map Char.toLower) (text.map Char.toLower) = true ↔ Sql.Contains needle text := by
  rw [contains_eq_true]
  constructor
  · rintro ⟨front, back, same⟩
    obtain ⟨start, last, rfl, first, -⟩ := List.map_eq_append_iff.mp same
    obtain ⟨before, middle, rfl, -, found⟩ := List.map_eq_append_iff.mp first
    exact ⟨before, middle, last, rfl, found⟩
  · rintro ⟨front, middle, back, rfl, found⟩
    exact ⟨front.map Char.toLower, back.map Char.toLower, by rw [List.map_append, List.map_append, found]⟩

end CrashCatcher.Lib.Text

namespace CrashCatcher.Daemon
open Lib Model Config Wire Store Fallible

def named (query : Option Str) (row : PackageRollup) : Bool :=
  (searchText query).all fun needle =>
    Text.contains (needle.map Char.toLower) (row.packageName.map Char.toLower)

theorem named_iff {query : Option Str} {row : PackageRollup} :
    named query row = true ↔ ∀ needle ∈ searchText query, Sql.Contains needle row.packageName := by
  unfold named
  cases searchText query with
  | none => simp
  | some needle => simp [Text.contains_lower]

/-- `labels` is what the bridge has told of the packages. -/
def appEntry (config : ConfigDocument) (labels : Str → Int → Option Str) (row : PackageRollup) :
    Rpc.AppEntry where
  packageName := row.packageName
  label := labels row.packageName row.userId
  userId := row.userId
  isSystemApp := row.isSystemApp
  groupCount := row.groupCount
  occurrence := row.occurrence
  lastSeenMs := some row.lastSeenMs
  config := config.app row.packageName
  packageInstalled := row.packageInstalled

theorem appEntry_injective (config : ConfigDocument) (labels : Str → Int → Option Str) :
    Function.Injective (appEntry config labels) := by
  intro a b same
  cases a
  cases b
  injection same with name _ user system groups sum last _ installed
  injection last with last
  congr

namespace DaemonCore
variable (self : DaemonCore)

def listApps (labels : Str → Int → Option Str) (includeSystemApps includeSystemProcesses : Bool)
    (query : Option Str) (limit : Nat) : CoreM (List Rpc.AppEntry) := do
  let config ← self.loadConfig
  let rows ← onStore (packageRollups includeSystemApps includeSystemProcesses limit)
  pure ((rows.filter (named query)).map (appEntry config labels))

variable {self} {labels : Str → Int → Option Str} {includeSystemApps includeSystemProcesses : Bool}
  {query : Option Str} {limit : Nat} {state after : CoreState} {config : ConfigDocument}
  {apps : List Rpc.AppEntry}

theorem listApps_ok (parsed : self.configStore.parse state.disk.files = .ok config)
    (listed : self.listApps labels includeSystemApps includeSystemProcesses query limit state =
      (.ok apps, after)) :
    apps = (((state.world.store.db.rollups includeSystemApps includeSystemProcesses).take
      (rollupLimit limit)).filter (named query)).map (appEntry config labels) := by
  unfold listApps at listed
  rcases loaded : self.configStore.load state.disk with ⟨result, disk⟩
  cases result with
  | error error =>
      have failed : self.loadConfig state = (.error (.config error), state.setDisk disk) := by
        unfold loadConfig onDisk zoom
        rw [loaded]
      rw [bind_of_error failed] at listed
      cases listed
  | ok document =>
      obtain ⟨same, -⟩ := ConfigStore.load_ok loaded
      cases parsed.symm.trans same
      have read : self.loadConfig state = (.ok config, state.setDisk disk) := onDisk_of_ok loaded
      rw [bind_of_ok read] at listed
      have world : (state.setDisk disk).world = state.world := rfl
      cases fault : state.world.faults 0 with
      | some n =>
          have failed : onStore (packageRollups includeSystemApps includeSystemProcesses limit)
              (state.setDisk disk) = (.error (.store .sqlite),
                (state.setDisk disk).setWorld state.world.popFault) := by
            unfold onStore zoom packageRollups
            rw [world, query_run, fault]
          rw [bind_of_error failed] at listed
          cases listed
      | none =>
          have ran : packageRollups includeSystemApps includeSystemProcesses limit (state.setDisk disk).world =
              (.ok ((state.world.store.db.rollups includeSystemApps includeSystemProcesses).take
                (rollupLimit limit)), state.world.popFault) := by
            unfold packageRollups
            rw [world, query_run, fault]
          rw [bind_of_ok (onStore_of_ok ran)] at listed
          cases listed
          rfl

/-- The answer is made of the first matching rows of the whole history exactly when all of the rows that the
statement's limit leaves match or none of the rows that it cuts off does. -/
theorem listApps_searches_all_iff (parsed : self.configStore.parse state.disk.files = .ok config)
    (listed : self.listApps labels includeSystemApps includeSystemProcesses query limit state =
      (.ok apps, after)) :
    (∃ chosen, Latest PackageRollup.lastSeenMs (rollupLimit limit)
        ((state.world.store.db.rollups includeSystemApps includeSystemProcesses).filter (named query)) chosen ∧
      apps = chosen.map (appEntry config labels)) ↔
      (∀ row ∈ (state.world.store.db.rollups includeSystemApps includeSystemProcesses).take (rollupLimit limit),
        named query row) ∨
      ∀ row ∈ (state.world.store.db.rollups includeSystemApps includeSystemProcesses).drop (rollupLimit limit),
        ¬ named query row := by
  rw [listApps_ok parsed listed, ← Latest.filter_take_iff (rollups_descending _ _ _)]
  constructor
  · rintro ⟨chosen, latest, same⟩
    rwa [List.map_injective_iff.mpr (appEntry_injective config labels) same]
  · intro latest
    exact ⟨_, latest, rfl⟩

def seen (packageName : Str) (lastSeenMs : I64) : GroupSummary :=
  { newGroup packageName { oneByteCrash with packageName } 0 with lastSeenMs }

def twoApps : CoreState := CoreState.fresh.setWorld (quiet { StoreState.empty with
  db := { Database.empty with groups := ⟨[seen "old".toList 1, seen "new".toList 2], by decide⟩ } })

theorem listApps_twoApps (query : Option Str) (limit : Nat) : ∃ after,
    (plain .printing).listApps (fun _ _ => none) false false query limit twoApps =
      (.ok ((((twoApps.world.store.db.rollups false false).take (rollupLimit limit)).filter
        (named query)).map (appEntry {} fun _ _ => none)), after) :=
  ⟨_, rfl⟩

theorem mergeSort_pair {α : Type} (le : α → α → Bool) (a b : α) :
    [a, b].mergeSort le = if le a b then [a, b] else [b, a] := by
  simp [List.mergeSort, List.MergeSort.Internal.splitInTwo, List.merge]

theorem rollups_twoApps : twoApps.world.store.db.rollups false false =
    [rollup ("new".toList, 0) [seen "new".toList 2], rollup ("old".toList, 0) [seen "old".toList 1]] := by
  let groups := [seen "old".toList 1, seen "new".toList 2]
  have rows : twoApps.world.store.db.groups.rows.filter (rollupFilter false false) = groups := rfl
  have packages : (groups.map GroupSummary.package).dedup = [("old".toList, 0), ("new".toList, 0)] := by decide
  have order : [("old".toList, (0 : Int)), ("new".toList, 0)].mergeSort packageOrder =
      [("new".toList, 0), ("old".toList, 0)] := by
    rw [mergeSort_pair, if_neg (by decide)]
  have new : groups.filter (fun group => group.package = ("new".toList, 0)) = [seen "new".toList 2] := by decide
  have old : groups.filter (fun group => group.package = ("old".toList, 0)) = [seen "old".toList 1] := by decide
  unfold Database.rollups
  simp only [rows, packages, order, List.map_cons, List.map_nil, new, old]
  rw [mergeSort_pair, if_pos (by decide)]

theorem old_app_is_found : ∃ apps after,
    (plain .printing).listApps (fun _ _ => none) false false (some "old".toList) 0 twoApps = (.ok apps, after) ∧
    ∃ chosen, Latest PackageRollup.lastSeenMs (rollupLimit 0)
        ((twoApps.world.store.db.rollups false false).filter (named (some "old".toList))) chosen ∧
      apps = chosen.map (appEntry {} fun _ _ => none) := by
  obtain ⟨after, listed⟩ := listApps_twoApps (some "old".toList) 0
  refine ⟨_, after, listed, (listApps_searches_all_iff rfl listed).mpr (.inr ?_)⟩
  rw [rollups_twoApps]
  intro row beyond
  cases beyond

/-- A search for the older app that asks for one row finds nothing. -/
theorem old_app_is_missed : ∃ after,
    (plain .printing).listApps (fun _ _ => none) false false (some "old".toList) 1 twoApps = (.ok [], after) ∧
    ¬ ∃ chosen, Latest PackageRollup.lastSeenMs (rollupLimit 1)
        ((twoApps.world.store.db.rollups false false).filter (named (some "old".toList))) chosen ∧
      [] = chosen.map (appEntry {} fun _ _ => none) := by
  obtain ⟨after, listed⟩ := listApps_twoApps (some "old".toList) 1
  have newer : named (some "old".toList) (rollup ("new".toList, 0) [seen "new".toList 2]) = false := by decide
  have older : named (some "old".toList) (rollup ("old".toList, 0) [seen "old".toList 1]) = true := by decide
  rw [rollups_twoApps] at listed ⊢
  have one : rollupLimit 1 = 1 := rfl
  rw [one, List.take_succ_cons, List.take_zero,
    List.filter_cons_of_neg (by rw [newer]; exact Bool.false_ne_true)] at listed
  refine ⟨after, listed, ?_⟩
  rintro ⟨chosen, latest, same⟩
  obtain rfl := List.map_eq_nil_iff.mp same.symm
  have length := latest.length
  rw [List.filter_cons_of_neg (by rw [newer]; exact Bool.false_ne_true),
    List.filter_cons_of_pos older] at length
  cases length

end DaemonCore
end CrashCatcher.Daemon
