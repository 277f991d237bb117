import CrashCatcher.Lib.Table
import CrashCatcher.Lib.Fallible
import CrashCatcher.Model.Id
import CrashCatcher.Model.Record
import CrashCatcher.Wire.Query

namespace CrashCatcher.Store
open Lib Model Wire

/-- A row of `crash_group`; every column is part of the summary the manager is sent. -/
structure GroupSummary where
  groupId : Str
  packageName : Str
  processName : Str
  userId : Int
  kind : CrashKind
  isSystemApp : Bool
  packageInstalled : Bool
  isMainProcess : Bool
  selfHandled : Bool
  summaryClass : Option Str
  summaryText : Option Str
  occurrence : Nat
  firstSeenMs : I64
  lastSeenMs : I64
  payloadBytes : Nat
  mutedUntilMs : Option I64
deriving DecidableEq

structure RecordSummary where
  id : RecordId
  groupId : Str
  happenedAtMs : I64
  pid : Int
  sources : SourceMask
  appVersionName : Option Str
  appVersionCode : Option Int
  isForeground : Option Bool
  isRepeating : Bool
  droppedCount : Option Nat
  payloadBytes : Nat
  payloadState : PayloadState
deriving DecidableEq

structure RecordRow extends RecordSummary where
  payloadPath : Option Str
  payloadCodec : PayloadCodec
deriving DecidableEq

structure SourceRow where
  sourceKey : Str
  ingestedAtMs : I64
deriving DecidableEq

structure Database where
  groups : Table GroupSummary.groupId
  records : Table (fun row : RecordRow => row.id)
  sources : Table SourceRow.sourceKey
deriving DecidableEq

namespace Database

def empty : Database := { groups := .empty, records := .empty, sources := .empty }

/-- Deletes groups and, by the foreign key, the records of each deleted group. -/
def deleteGroups (db : Database) (gone : GroupSummary → Bool) : Database where
  groups := db.groups.delete gone
  records := db.records.delete fun record =>
    db.groups.rows.any fun group => gone group && group.groupId == record.groupId
  sources := db.sources

def groupIds (db : Database) : List Str := db.groups.rows.map (·.groupId)

def hasRecordIn (db : Database) (groupId : Str) : Bool :=
  db.records.rows.any fun record => record.groupId == groupId

end Database

abbrev Files := Str → Option (List UInt8)

structure StoreState where
  ids : RecordIdGenerator
  db : Database
  files : Files

def StoreState.empty : StoreState := { ids := .new, db := .empty, files := fun _ => none }

inductive StoreError where
  | sqlite
  | io (path : Str)
  | compress
  | decompress
  | badPayloadPath (path : Str)
  | recordNotFound (id : Str)
  | groupNotFound (id : Str)
  | payloadUnavailable (id : Str)
  | request (error : WireError)
deriving DecidableEq

/-- The store and what the environment will do to its next steps: `none` lets a step succeed,
`some n` makes it fail, a write after `n` bytes. -/
structure World where
  store : StoreState
  faults : Nat → Option Nat

abbrev StoreM := Fallible World StoreError

namespace World

def popFault (world : World) : World := { world with faults := fun n => world.faults (n + 1) }
def setDb (world : World) (db : Database) : World := { world with store := { world.store with db } }
def setFiles (world : World) (files : Files) : World :=
  { world with store := { world.store with files } }

end World

def attempt (error : StoreError) : StoreM Unit := fun world =>
  match world.faults 0 with
  | none => (.ok (), world.popFault)
  | some _ => (.error error, world.popFault)

def query {α : Type} (read : Database → α) : StoreM α := do
  attempt .sqlite
  let world ← Fallible.get
  pure (read world.store.db)

def execute {α : Type} (write : Database → Option (α × Database)) : StoreM α := do
  attempt .sqlite
  let world ← Fallible.get
  match write world.store.db with
  | some (result, db) => do
      Fallible.update fun world => world.setDb db
      pure result
  | none => Fallible.fail .sqlite

def write (f : Database → Database) : StoreM Unit := execute fun db => some ((), f db)

def deleteRecords (gone : RecordRow → Bool) : StoreM Nat :=
  execute fun db =>
    some (db.records.rows.countP gone, { db with records := db.records.delete gone })

def deleteGroups (gone : Database → GroupSummary → Bool) : StoreM Nat :=
  execute fun db => some (db.groups.rows.countP (gone db), db.deleteGroups (gone db))

/-- A transaction: begun, committed, and rolled back when anything in between fails. -/
def transaction {α : Type} (body : StoreM α) : StoreM α :=
  Fallible.undoing (fun before after => after.setDb before.store.db) do
    attempt .sqlite
    let result ← body
    attempt .sqlite
    pure result

end CrashCatcher.Store
