import CrashCatcher.Config.Document
import CrashCatcher.Store.Payload

namespace CrashCatcher.Store
open Lib Model Config

structure Inserted where
  record : RecordSummary
  group : GroupSummary
  isNewGroup : Bool
deriving DecidableEq

def nextId (atMs : I64) : StoreM RecordId := fun world =>
  let (id, ids) := world.store.ids.next atMs.val.toNat
  (.ok id, { world with store := { world.store with ids } })

def newGroup (groupId : Str) (record : CrashRecord) (payloadBytes : Nat) : GroupSummary where
  groupId
  packageName := record.packageName
  processName := record.processName
  userId := record.userId
  kind := record.kind
  isSystemApp := record.isSystemApp
  packageInstalled := record.packageInstalled
  isMainProcess := record.isMainProcess
  selfHandled := record.selfHandled
  summaryClass := record.summary.className
  summaryText := record.summary.text
  occurrence := 1
  firstSeenMs := record.happenedAtMs
  lastSeenMs := record.happenedAtMs
  payloadBytes
  mutedUntilMs := none

/-- `ON CONFLICT(group_id) DO UPDATE` against the row that was refused. -/
def GroupSummary.sightAgain (excluded row : GroupSummary) : GroupSummary :=
  { row with
    occurrence := row.occurrence + 1
    firstSeenMs := min row.firstSeenMs excluded.firstSeenMs
    lastSeenMs := max row.lastSeenMs excluded.lastSeenMs
    payloadBytes := row.payloadBytes + excluded.payloadBytes
    summaryClass := excluded.summaryClass.or row.summaryClass
    summaryText := excluded.summaryText.or row.summaryText
    selfHandled := excluded.selfHandled
    isSystemApp := excluded.isSystemApp
    packageInstalled := excluded.packageInstalled }

theorem GroupSummary.groupId_sightAgain (excluded row : GroupSummary) :
    (excluded.sightAgain row).groupId = row.groupId := rfl

def GroupSummary.addBytes (bytes : Nat) (row : GroupSummary) : GroupSummary :=
  { row with payloadBytes := row.payloadBytes + bytes }

theorem GroupSummary.groupId_addBytes (bytes : Nat) (row : GroupSummary) :
    (row.addBytes bytes).groupId = row.groupId := rfl

/-- Subtraction stops at zero, as `MAX(0, payload_bytes - ?)` does. -/
def GroupSummary.subBytes (bytes : Nat) (row : GroupSummary) : GroupSummary :=
  { row with payloadBytes := row.payloadBytes - bytes }

theorem GroupSummary.groupId_subBytes (bytes : Nat) (row : GroupSummary) :
    (row.subBytes bytes).groupId = row.groupId := rfl

def RecordRow.setSources (sources : SourceMask) (row : RecordRow) : RecordRow :=
  { row with sources }

theorem RecordRow.id_setSources (sources : SourceMask) (row : RecordRow) :
    (row.setSources sources).id = row.id := rfl

def RecordRow.adopt (adopted : WrittenPayload) (row : RecordRow) : RecordRow :=
  { row with
    payloadPath := some adopted.relativePath
    payloadBytes := adopted.storedBytes
    payloadCodec := adopted.codec
    payloadState := adopted.state }

theorem RecordRow.id_adopt (adopted : WrittenPayload) (row : RecordRow) :
    (row.adopt adopted).id = row.id := rfl

def RecordRow.evict (row : RecordRow) : RecordRow :=
  { row with payloadPath := none, payloadBytes := 0, payloadState := .evicted }

theorem RecordRow.id_evict (row : RecordRow) : row.evict.id = row.id := rfl

namespace Database

def upsertGroup (excluded : GroupSummary) (db : Database) : Database :=
  match db.groups.insert? excluded with
  | some groups => { db with groups }
  | none =>
      { db with
        groups := db.groups.modify (fun row => row.groupId = excluded.groupId)
          excluded.sightAgain excluded.groupId_sightAgain }

def insertRecord (row : RecordRow) (db : Database) : Option Database :=
  if (db.groups.find? row.groupId).isSome then
    (db.records.insert? row).map fun records => { db with records }
  else none

/-- `ON CONFLICT(source_key) DO NOTHING`. -/
def insertSource (row : SourceRow) (db : Database) : Database :=
  match db.sources.insert? row with
  | some sources => { db with sources }
  | none => db

def updateRecord (id : RecordId) (f : RecordRow → RecordRow) (keeps : ∀ row, (f row).id = row.id)
    (db : Database) : Database :=
  { db with records := db.records.modify (fun row => row.id = id) f keeps }

def updateGroup (groupId : Str) (f : GroupSummary → GroupSummary)
    (keeps : ∀ row, (f row).groupId = row.groupId) (db : Database) : Database :=
  { db with groups := db.groups.modify (fun row => row.groupId = groupId) f keeps }

def addGroupBytes (groupId : Str) (bytes : Nat) (db : Database) : Database :=
  db.updateGroup groupId (GroupSummary.addBytes bytes) (GroupSummary.groupId_addBytes bytes)

def subGroupBytes (groupId : Str) (bytes : Nat) (db : Database) : Database :=
  db.updateGroup groupId (GroupSummary.subBytes bytes) (GroupSummary.groupId_subBytes bytes)

end Database

/-- `SELECT … WHERE key = ?` for a row that must exist. -/
def querySome {α : Type} (read : Database → Option α) : StoreM α := do
  match ← query read with
  | some row => pure row
  | none => Fallible.fail .sqlite

def insertSources (sourceKeys : List Str) (ingestedAtMs : I64) : StoreM PUnit :=
  sourceKeys.forM fun sourceKey =>
    write fun db => db.insertSource { sourceKey, ingestedAtMs }

def newRecord (id : RecordId) (groupId : Str) (record : CrashRecord) (isRepeating : Bool)
    (written : Option WrittenPayload) : RecordRow where
  id
  groupId
  happenedAtMs := record.happenedAtMs
  pid := record.pid
  sources := record.sources
  appVersionName := record.appVersionName
  appVersionCode := record.appVersionCode
  isForeground := record.isForeground
  isRepeating
  droppedCount := record.droppedCount
  payloadBytes := (written.map (·.storedBytes)).getD 0
  payloadState := (written.map (·.state)).getD .absent
  payloadPath := written.map (·.relativePath)
  payloadCodec := (written.map (·.codec)).getD .raw

section
variable (platform : Platform)

def insertRows (id : RecordId) (record : CrashRecord) (written : Option WrittenPayload)
    (sourceKeys : List Str) (ingestedAtMs : I64) : StoreM Inserted :=
  let groupId := record.groupId platform.sha256
  transaction do
    let existing ← query fun db => db.groups.find? groupId
    let isNewGroup := existing.isNone
    let isRepeating := !isNewGroup
    let payloadBytes := (written.map (·.storedBytes)).getD 0
    write fun db => db.upsertGroup (newGroup groupId record payloadBytes)
    execute fun db =>
      (db.insertRecord (newRecord id groupId record isRepeating written)).map fun db => ((), db)
    let group ← querySome fun db => db.groups.find? groupId
    let stored ← querySome fun db => db.records.find? id
    insertSources sourceKeys ingestedAtMs
    pure { record := stored.toRecordSummary, group, isNewGroup }

def discard : Option WrittenPayload → StoreM Unit
  | none => pure ()
  | some written => PayloadStore.delete written.relativePath

def insertWithSources (record : CrashRecord) (retention : RetentionPolicy) (sourceKeys : List Str)
    (ingestedAtMs : I64) : StoreM Inserted := do
  let id ← nextId record.happenedAtMs
  let written ← PayloadStore.write platform id record.payload retention.maxPayloadBytesPerRecord
  Fallible.onError (insertRows platform id record written sourceKeys ingestedAtMs)
    (discard written)

def foldRows (existing : RecordSummary) (record : CrashRecord) (adopted : Option WrittenPayload)
    (sourceKeys : List Str) (ingestedAtMs : I64) : StoreM RecordSummary :=
  transaction do
    let sources := existing.sources.union record.sources
    write fun db => db.updateRecord existing.id (RecordRow.setSources sources)
      (RecordRow.id_setSources sources)
    match adopted with
    | none => pure ()
    | some adopted => do
        write fun db => db.updateRecord existing.id (RecordRow.adopt adopted)
          (RecordRow.id_adopt adopted)
        write fun db => db.addGroupBytes existing.groupId adopted.storedBytes
    insertSources sourceKeys ingestedAtMs
    let folded ← querySome fun db => db.records.find? existing.id
    pure folded.toRecordSummary

def adoptPayload (existing : RecordSummary) (record : CrashRecord) (retention : RetentionPolicy) :
    StoreM (Option WrittenPayload) :=
  if existing.payloadState = .absent then
    PayloadStore.write platform existing.id record.payload retention.maxPayloadBytesPerRecord
  else pure none

def foldIntoRecord (existing : RecordSummary) (record : CrashRecord) (retention : RetentionPolicy)
    (sourceKeys : List Str) (ingestedAtMs : I64) : StoreM RecordSummary := do
  let adopt ← adoptPayload platform existing record retention
  Fallible.onError (foldRows existing record adopt sourceKeys ingestedAtMs) (discard adopt)

end
end CrashCatcher.Store
