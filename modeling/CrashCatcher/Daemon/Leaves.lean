import CrashCatcher.Daemon.Core
import CrashCatcher.Store.Exact

namespace CrashCatcher.Store
open Lib Model Config Fallible

def Database.markAll (db : Database) (clock : Nat → I64) : List Str → Database
  | [] => db
  | sourceKey :: rest =>
      (db.insertSource { sourceKey, ingestedAtMs := clock 0 }).markAll (fun reading => clock (reading + 1)) rest

structure Marks (db db' : Database) : Prop where
  groups : db'.groups = db.groups
  records : db'.records = db.records
  sources : ∀ row ∈ db.sources.rows, row ∈ db'.sources.rows

theorem Marks.refl (db : Database) : Marks db db := ⟨rfl, rfl, fun _ stored => stored⟩

theorem Marks.of_eq {db db' : Database} (same : db' = db) : Marks db db' := same ▸ .refl db

theorem Marks.trans {db db' db'' : Database} (first : Marks db db') (next : Marks db' db'') :
    Marks db db'' where
  groups := next.groups.trans first.groups
  records := next.records.trans first.records
  sources row stored := next.sources row (first.sources row stored)

theorem marks_insertSource (db : Database) (row : SourceRow) : Marks db (db.insertSource row) := by
  have rows := insertSource_rows db row
  refine ⟨rows.1, rows.2, fun other stored => ?_⟩
  unfold Database.insertSource
  cases inserted : db.sources.insert? row with
  | none => exact stored
  | some sources =>
      show other ∈ sources.rows
      rw [(Table.insert?_eq_some inserted).2]
      exact List.mem_append_left _ stored

theorem marks_markAll (db : Database) (clock : Nat → I64) (sourceKeys : List Str) :
    Marks db (db.markAll clock sourceKeys) := by
  induction sourceKeys generalizing db clock with
  | nil => exact .refl db
  | cons sourceKey rest ih => exact (marks_insertSource db _).trans (ih _ _)

theorem marks_ingest (db : Database) (sourceKeys : List Str) (ingestedAtMs : I64) :
    Marks db (db.ingest sourceKeys ingestedAtMs) := by
  induction sourceKeys generalizing db with
  | nil => exact .refl db
  | cons sourceKey rest ih => exact (marks_insertSource db _).trans (ih _)

end CrashCatcher.Store

namespace CrashCatcher.Daemon
open Lib Model Config Store Fallible

theorem onStore_of_ok {α : Type} {m : StoreM α} {state : CoreState} {a : α} {world : World}
    (ran : m state.world = (.ok a, world)) : onStore m state = (.ok a, state.setWorld world) := by
  unfold onStore zoom
  simp only [ran]

theorem onDisk_of_ok {α : Type} {m : ConfigM α} {state : CoreState} {a : α} {disk : Disk}
    (ran : m state.disk = (.ok a, disk)) : onDisk m state = (.ok a, state.setDisk disk) := by
  unfold onDisk zoom
  simp only [ran]

/-- From `state`, whatever the environment does, `m` ends in `post` or fails in `failed`. -/
def Leaves {α : Type} (state : CoreState) (m : CoreM α) (post : α → CoreState → Prop)
    (failed : CoreState → Prop) : Prop :=
  Holds (· = state) m post fun _ => failed

namespace Leaves
variable {α β : Type} {state : CoreState} {m : CoreM α}
variable {post post' : α → CoreState → Prop} {failed failed' : CoreState → Prop}

theorem ok (leaves : Leaves state m post failed) {a : α} {after : CoreState}
    (completed : m state = (.ok a, after)) : post a after := Holds.ok leaves rfl completed

theorem consequence (leaves : Leaves state m post failed) (hpost : ∀ a after, post a after → post' a after)
    (hfailed : ∀ after, failed after → failed' after) : Leaves state m post' failed' :=
  Holds.consequence leaves (fun _ same => same) hpost fun _ => hfailed

theorem pure {a : α} (holds : post a state) : Leaves state (Pure.pure a) post failed :=
  Holds.pure fun _ same => same ▸ holds

theorem bind {middle : α → CoreState → Prop} {post : β → CoreState → Prop} {f : α → CoreM β}
    (first : Leaves state m middle failed)
    (next : ∀ a after, middle a after → Leaves after (f a) post failed) :
    Leaves state (m >>= f) post failed :=
  Holds.bind first fun a after holds => next a after holds after rfl

theorem get_bind {post : β → CoreState → Prop} {f : CoreState → CoreM β}
    (next : Leaves state (f state) post failed) : Leaves state (Fallible.get >>= f) post failed := by
  rintro _ rfl
  exact next _ rfl

theorem update {f : CoreState → CoreState} {post : Unit → CoreState → Prop} (holds : post () (f state)) :
    Leaves state (Fallible.update f) post failed :=
  Holds.update fun _ same => same ▸ holds

theorem update_bind {f : CoreState → CoreState} {post : β → CoreState → Prop} {g : Unit → CoreM β}
    (next : Leaves (f state) (g ()) post failed) : Leaves state (Fallible.update f >>= g) post failed := by
  rintro _ rfl
  exact next _ rfl

theorem ite {p : Prop} [Decidable p] {m' : CoreM α} (yes : p → Leaves state m post failed)
    (no : ¬ p → Leaves state m' post failed) : Leaves state (if p then m else m') post failed := by
  by_cases holds : p
  · rw [if_pos holds]
    exact yes holds
  · rw [if_neg holds]
    exact no holds

theorem onStore {m : StoreM α} {done : α → StoreState → Prop} {lost : StoreState → Prop}
    (ends : Ends state.world.store m done lost)
    (ok : ∀ a world, done a world.store → post a (state.setWorld world))
    (error : ∀ world, lost world.store → failed (state.setWorld world)) :
    Leaves state (Daemon.onStore m) post failed := by
  intro before same
  obtain rfl : before = state := same
  have ends := ends before.world rfl
  unfold Daemon.onStore zoom
  rcases ran : m before.world with ⟨result, world⟩
  rw [ran] at ends
  cases result with
  | ok a => exact ok a world ends
  | error e => exact error world ends

theorem onStore_bind {m : StoreM α} {f : α → CoreM β} {post : β → CoreState → Prop}
    {done : α → StoreState → Prop} {lost : StoreState → Prop} (ends : Ends state.world.store m done lost)
    (error : ∀ world, lost world.store → failed (state.setWorld world))
    (next : ∀ a world, done a world.store → Leaves (state.setWorld world) (f a) post failed) :
    Leaves state (Daemon.onStore m >>= f) post failed := by
  have stored : Leaves state (Daemon.onStore m)
      (fun a after => ∃ world, done a world.store ∧ after = state.setWorld world) failed :=
    onStore ends (fun a world holds => ⟨world, holds, rfl⟩) error
  refine bind stored ?_
  rintro a _ ⟨world, holds, rfl⟩
  exact next a world holds

theorem onStore_always {m : StoreM α} {f : α → CoreM β} {post : β → CoreState → Prop}
    (never : ∀ world error after, m world ≠ (.error error, after))
    (next : ∀ a world, m state.world = (.ok a, world) → Leaves (state.setWorld world) (f a) post failed) :
    Leaves state (Daemon.onStore m >>= f) post failed := by
  intro before same
  obtain rfl : before = state := same
  rcases ran : m before.world with ⟨result, world⟩
  cases result with
  | error e => exact absurd ran (never before.world e world)
  | ok a =>
      rw [bind_of_ok (onStore_of_ok ran)]
      exact next a world ran _ rfl

theorem completes (leaves : Leaves state m post fun _ => False) :
    ∃ a after, m state = (.ok a, after) ∧ post a after := by
  have ends := leaves state rfl
  rcases ran : m state with ⟨result, after⟩
  rw [ran] at ends
  cases result with
  | ok a => exact ⟨a, after, rfl, ends⟩
  | error e => exact ends.elim

end Leaves

end CrashCatcher.Daemon
