import CrashCatcher.Store.Retention

namespace CrashCatcher.Store
open Lib Model Fallible

def Ends {α : Type} (s : StoreState) (m : StoreM α) (post : α → StoreState → Prop)
    (failed : StoreState → Prop) : Prop :=
  Holds (fun world : World => world.store = s) m (fun a world => post a world.store)
    fun _ world => failed world.store

theorem attempt_run (error : StoreError) (world : World) :
    attempt error world = match world.faults 0 with
      | none => (.ok (), world.popFault)
      | some _ => (.error error, world.popFault) := rfl

theorem query_run {α : Type} (read : Database → α) (world : World) :
    query read world = match world.faults 0 with
      | none => (.ok (read world.store.db), world.popFault)
      | some _ => (.error .sqlite, world.popFault) := by
  unfold query
  rw [bind_run, attempt_run]
  cases world.faults 0 <;> rfl

theorem execute_run {α : Type} (run : Database → Option (α × Database)) (world : World) :
    execute run world = match world.faults 0 with
      | none => match run world.store.db with
        | some (a, db) => (.ok a, world.popFault.setDb db)
        | none => (.error .sqlite, world.popFault)
      | some _ => (.error .sqlite, world.popFault) := by
  unfold execute
  rw [bind_run, attempt_run]
  cases world.faults 0 with
  | none =>
      have unchanged : world.popFault.store = world.store := rfl
      simp only [bind_run, Fallible.get, unchanged]
      cases run world.store.db <;> rfl
  | some n => rfl

namespace Ends
variable {α β : Type} {s : StoreState} {m : StoreM α}
variable {post post' : α → StoreState → Prop} {failed failed' : StoreState → Prop}

theorem consequence (h : Ends s m post failed) (hpost : ∀ a t, post a t → post' a t)
    (hfailed : ∀ t, failed t → failed' t) : Ends s m post' failed' :=
  Holds.consequence h (fun _ h => h) (fun a _ h => hpost a _ h) fun _ _ h => hfailed _ h

theorem pure {a : α} (h : post a s) : Ends s (Pure.pure a) post failed :=
  Holds.pure fun _ hs => hs ▸ h

theorem fail {e : StoreError} (h : failed s) : Ends s (Fallible.fail e : StoreM α) post failed :=
  Holds.fail fun _ hs => hs ▸ h

theorem bind {middle : α → StoreState → Prop} {post : β → StoreState → Prop} {f : α → StoreM β}
    (first : Ends s m middle failed) (next : ∀ a t, middle a t → Ends t (f a) post failed) :
    Ends s (m >>= f) post failed :=
  Holds.bind first fun a world h => next a world.store h world rfl

theorem ite {p : Prop} [Decidable p] {m' : StoreM α} (yes : p → Ends s m post failed)
    (no : ¬ p → Ends s m' post failed) : Ends s (if p then m else m') post failed := by
  by_cases h : p
  · rw [if_pos h]
    exact yes h
  · rw [if_neg h]
    exact no h

theorem attempt {error : StoreError} (lost : failed s) :
    Ends s (Store.attempt error) (fun _ t => t = s) failed := by
  rintro world rfl
  unfold Store.attempt
  cases world.faults 0 with
  | none => rfl
  | some n => exact lost

theorem query {read : Database → α} (lost : failed s) :
    Ends s (Store.query read) (fun a t => a = read s.db ∧ t = s) failed := by
  rintro world rfl
  rw [query_run]
  cases world.faults 0 with
  | none => exact ⟨rfl, rfl⟩
  | some n => exact lost

theorem execute {run : Database → Option (α × Database)} (lost : failed s) :
    Ends s (Store.execute run) (fun a t => ∃ db, run s.db = some (a, db) ∧ t = { s with db })
      failed := by
  rintro world rfl
  rw [execute_run]
  cases world.faults 0 with
  | none =>
      cases written : run world.store.db with
      | none => exact lost
      | some result => exact ⟨result.2, rfl, rfl⟩
  | some n => exact lost

section Then
variable {post : β → StoreState → Prop}

theorem attempt_bind {error : StoreError} {f : Unit → StoreM β} (lost : failed s)
    (next : Ends s (f ()) post failed) : Ends s (Store.attempt error >>= f) post failed :=
  bind (attempt lost) fun _ _ same => same ▸ next

theorem query_bind {read : Database → α} {f : α → StoreM β} (lost : failed s)
    (next : Ends s (f (read s.db)) post failed) : Ends s (Store.query read >>= f) post failed := by
  refine bind (query lost) ?_
  rintro a t ⟨rfl, rfl⟩
  exact next

theorem execute_bind {run : Database → Option (α × Database)} {f : α → StoreM β} (lost : failed s)
    (next : ∀ a db, run s.db = some (a, db) → Ends { s with db } (f a) post failed) :
    Ends s (Store.execute run >>= f) post failed := by
  refine bind (execute lost) ?_
  rintro a t ⟨db, written, rfl⟩
  exact next a db written

theorem write_bind {g : Database → Database} {f : Unit → StoreM β} (lost : failed s)
    (next : Ends { s with db := g s.db } (f ()) post failed) :
    Ends s (Store.write g >>= f) post failed :=
  execute_bind lost fun _ db written => by cases written; exact next

theorem querySome_bind {read : Database → Option α} {f : α → StoreM β} (lost : failed s)
    (next : ∀ a, read s.db = some a → Ends s (f a) post failed) :
    Ends s (Store.querySome read >>= f) post failed := by
  have found : Ends s (Store.querySome read) (fun a t => read s.db = some a ∧ t = s) failed := by
    refine query_bind lost ?_
    cases found : read s.db with
    | none => exact fail lost
    | some a => exact pure ⟨rfl, rfl⟩
  refine bind found ?_
  rintro a t ⟨found, rfl⟩
  exact next a found

end Then

theorem write {g : Database → Database} {post : Unit → StoreState → Prop} (lost : failed s)
    (ok : post () { s with db := g s.db }) : Ends s (Store.write g) post failed := by
  refine (execute lost).consequence ?_ fun _ h => h
  rintro _ t ⟨db, written, rfl⟩
  cases written
  exact ok

theorem transaction {body : StoreM α} (keeps : ∀ a t, post a t → t.ids = s.ids ∧ t.files = s.files)
    (h : Ends s body post fun t => t.ids = s.ids ∧ t.files = s.files) (lost : failed s) :
    Ends s (Store.transaction body) post failed := by
  have rolledBack : ∀ before after : World, before.store = s →
      after.store.ids = s.ids ∧ after.store.files = s.files →
      (after.setDb before.store.db).store = s := by
    rintro before after rfl ⟨ids, files⟩
    show StoreState.mk after.store.ids before.store.db after.store.files = before.store
    rw [ids, files]
  have whole : Ends s (do
      Store.attempt .sqlite
      let result ← body
      Store.attempt .sqlite
      Pure.pure result) post fun t => t.ids = s.ids ∧ t.files = s.files := by
    refine attempt_bind ⟨rfl, rfl⟩ (bind h fun a t done => ?_)
    exact attempt_bind (keeps a t done) (pure done)
  refine Holds.undoing fun before hbefore => ?_
  refine Holds.consequence whole (fun _ same => same ▸ hbefore) (fun _ _ h => h) fun _ after kept => ?_
  rw [rolledBack before after hbefore kept]
  exact lost

theorem forM {items : List β} {body : β → StoreM PUnit} (inv : List β → StoreState → Prop)
    (start : inv items s)
    (step : ∀ item rest t, inv (item :: rest) t → Ends t (body item) (fun _ => inv rest) failed) :
    Ends s (items.forM body) (fun _ => inv []) failed := by
  refine Holds.consequence (Holds.forM (fun rest world => inv rest world.store) ?_)
    (fun _ hs => hs ▸ start) (fun _ _ h => h) fun _ _ h => h
  intro item rest world h
  exact step item rest world.store h world rfl

theorem onError {handler : StoreM Unit} (h : Ends s m post failed')
    (handles : ∀ t, failed' t → Ends t handler (fun _ => failed) failed) :
    Ends s (m.onError handler) post failed := by
  refine Holds.onError h fun _ world lost => ?_
  have ends := handles world.store lost world rfl
  rcases run : handler world with ⟨result, after⟩
  rw [run] at ends
  cases result with
  | ok _ => exact ends
  | error _ => exact ends

theorem and (first : Ends s m post failed) (second : Ends s m post' failed') :
    Ends s m (fun a t => post a t ∧ post' a t) fun t => failed t ∧ failed' t := by
  intro world same
  have first := first world same
  have second := second world same
  rcases ran : m world with ⟨result, after⟩
  rw [ran] at first second
  cases result with
  | ok a => exact ⟨first, second⟩
  | error e => exact ⟨first, second⟩

theorem createFile {path : Str} (lost : failed s) :
    Ends s (PayloadStore.createFile path)
      (fun _ t => t = { s with files := Function.update s.files path (some []) }) failed := by
  refine attempt_bind lost ?_
  rintro world rfl
  rfl

theorem writeAll {path : Str} {bytes : List UInt8}
    (lost : ∀ n, failed { s with files := Function.update s.files path (some (bytes.take n)) }) :
    Ends s (PayloadStore.writeAll path bytes)
      (fun _ t => t = { s with files := Function.update s.files path (some bytes) }) failed := by
  rintro world rfl
  unfold PayloadStore.writeAll
  cases world.faults 0 with
  | none => rfl
  | some n => exact lost n

theorem deleteFile {path : Str} (lost : failed s) :
    Ends s (PayloadStore.delete path)
      (fun _ t => t = { s with files := Function.update s.files path none }) failed := by
  refine ite (fun _ => ?_) fun _ => fail lost
  refine attempt_bind lost ?_
  rintro world rfl
  rfl

end Ends

def quiet (s : StoreState) : World := { store := s, faults := fun _ => none }

section Quiet
variable {α : Type} (s : StoreState)

@[simp] theorem quiet_store : (quiet s).store = s := rfl

theorem attempt_quiet (error : StoreError) : attempt error (quiet s) = (.ok (), quiet s) := rfl

theorem query_quiet (read : Database → α) : query read (quiet s) = (.ok (read s.db), quiet s) := rfl

theorem execute_quiet (run : Database → Option (α × Database)) :
    execute run (quiet s) = match run s.db with
      | some (a, db) => (.ok a, quiet { s with db })
      | none => (.error .sqlite, quiet s) := execute_run run (quiet s)

theorem write_quiet (f : Database → Database) :
    write f (quiet s) = (.ok (), quiet { s with db := f s.db }) := execute_quiet s _

end Quiet
end CrashCatcher.Store
