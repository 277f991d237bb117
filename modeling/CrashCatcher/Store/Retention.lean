import CrashCatcher.Store.Write

namespace CrashCatcher.Store
open Lib Model Config

def msPerDay : Int := 24 * 60 * 60 * 1000
def logSourceKeyTtlMs : I64 := I64.clamp (24 * 60 * 60 * 1000)

structure SweepOutcome where
  removedRecords : Nat
  removedGroups : Nat
  evictedPayloads : Nat
  reclaimedBytes : Nat
  removedSourceKeys : Nat
deriving DecidableEq

/-- `ORDER BY happened_at_ms ASC, id ASC`. -/
def notNewer (row other : RecordRow) : Bool :=
  decide (row.happenedAtMs < other.happenedAtMs) ||
    row.happenedAtMs == other.happenedAtMs && decide (row.id ≤ other.id)

/-- `LIKE 'pre%'`, which folds ASCII case. -/
def likePrefix (pre text : Str) : Bool := (text.take pre.length).map Char.toLower == pre

namespace Database

def positionInGroup (db : Database) (row : RecordRow) : Nat :=
  db.records.rows.countP fun other => other.groupId == row.groupId && notNewer row other

def oldestFirst (db : Database) : List RecordRow := db.records.rows.mergeSort notNewer

def payloadBytesInIndex (db : Database) : Nat :=
  Table.total (fun row => row.payloadPath.isSome) (fun row => row.payloadBytes) db.records.rows

end Database

def dropRecords (rows : List RecordRow) : StoreM PUnit :=
  transaction do
    rows.forM fun row => do
      let _ ← deleteRecords fun stored => stored.id = row.id
      write fun db => db.subGroupBytes row.groupId row.payloadBytes

def deleteRecordsWhere (predicate : Database → RecordRow → Bool) : StoreM Nat := do
  let rows ← query fun db => db.records.rows.filter (predicate db)
  if rows.isEmpty then pure 0
  else do
    (rows.filterMap (·.payloadPath)).forM PayloadStore.delete
    dropRecords rows
    pure rows.length

def trimEachGroup (keepPerGroup : Nat) : StoreM Nat :=
  deleteRecordsWhere fun db row => db.positionInGroup row > keepPerGroup

def trimTotal (keepTotal : Nat) : StoreM Nat := do
  let total ← query fun db => db.records.rows.length
  if total ≤ keepTotal then pure 0
  else deleteRecordsWhere fun db row =>
    ((db.oldestFirst.take (total - keepTotal)).map (·.id)).contains row.id

def markEvicted (row : RecordRow) : StoreM Unit :=
  transaction do
    write fun db => db.updateRecord row.id RecordRow.evict RecordRow.id_evict
    write fun db => db.subGroupBytes row.groupId row.payloadBytes

def evictCandidates : List (RecordRow × Str) → Nat → Nat → Nat → StoreM (Nat × Nat)
  | [], _, evicted, reclaimed => pure (evicted, reclaimed)
  | (row, path) :: rest, overBy, evicted, reclaimed =>
      if overBy = 0 then pure (evicted, reclaimed)
      else do
        PayloadStore.delete path
        markEvicted row
        evictCandidates rest (overBy - row.payloadBytes) (evicted + 1)
          (reclaimed + row.payloadBytes)

def RecordRow.reclaimable (row : RecordRow) : Option (RecordRow × Str) :=
  if row.payloadState = .evicted then none else row.payloadPath.map fun path => (row, path)

def evictionCandidates (db : Database) : List (RecordRow × Str) :=
  db.oldestFirst.filterMap RecordRow.reclaimable

def evictPayloads (maxBytes : Nat) : StoreM (Nat × Nat) := do
  let total ← query fun db => db.payloadBytesInIndex
  if total ≤ maxBytes then pure (0, 0)
  else do
    let candidates ← query evictionCandidates
    evictCandidates candidates (total - maxBytes) 0 0

def dropEmptyGroupsBefore (cutoffMs : I64) : StoreM Nat :=
  deleteGroups fun db group => decide (group.lastSeenMs < cutoffMs) && !db.hasRecordIn group.groupId

def pruneIngestedSources (nowMs artifactCutoffMs : I64) : StoreM Nat :=
  let logCutoffMs := nowMs.saturatingSub logSourceKeyTtlMs
  let gone (row : SourceRow) : Bool :=
    !likePrefix "marker:".toList row.sourceKey &&
      decide (row.ingestedAtMs <
        if likePrefix "logd:".toList row.sourceKey then logCutoffMs else artifactCutoffMs)
  execute fun db => some (db.sources.rows.countP gone, { db with sources := db.sources.delete gone })

/-- Applies the retention ceilings in order: age, per group, total count, total bytes. -/
def sweep (nowMs : I64) (retention : RetentionPolicy) : StoreM SweepOutcome := do
  let retention := retention.clamped
  let cutoffMs := nowMs.saturatingSub (I64.clamp (retention.retentionDays * msPerDay))
  let aged ← deleteRecordsWhere fun _ row => decide (row.happenedAtMs < cutoffMs)
  let trimmed ← trimEachGroup retention.maxRecordsPerGroup
  let excess ← trimTotal retention.maxRecordsTotal
  let removedGroups ← dropEmptyGroupsBefore cutoffMs
  let (evictedPayloads, reclaimedBytes) ← evictPayloads retention.maxPayloadBytesTotal
  let removedSourceKeys ← pruneIngestedSources nowMs cutoffMs
  pure {
    removedRecords := aged + trimmed + excess
    removedGroups
    evictedPayloads
    reclaimedBytes
    removedSourceKeys }

inductive DeleteTarget where
  | ids (ids : List RecordId)
  | group (groupId : Str)
  | all

def DeleteTarget.selects : DeleteTarget → RecordRow → Bool
  | .ids chosen, row => chosen.contains row.id
  | .group chosen, row => row.groupId == chosen
  | .all, _ => true

def payloadPathsFor : DeleteTarget → StoreM (List Str)
  | .ids [] => pure []
  | target => query fun db => (db.records.rows.filter target.selects).filterMap (·.payloadPath)

def eraseRows (target : DeleteTarget) (groups : Database → GroupSummary → Bool) :
    StoreM (Nat × Nat) := do
  let removedRecords ← deleteRecords target.selects
  let removedGroups ← deleteGroups groups
  pure (removedRecords, removedGroups)

def eraseTarget (target : DeleteTarget) : StoreM (Nat × Nat) :=
  match target with
  | .all => eraseRows target fun _ _ => true
  | .group chosen => eraseRows target fun _ group => group.groupId == chosen
  | .ids [] => pure (0, 0)
  | .ids _ => eraseRows target fun db group => !db.hasRecordIn group.groupId

def delete (target : DeleteTarget) : StoreM (Nat × Nat) := do
  let paths ← payloadPathsFor target
  paths.forM PayloadStore.delete
  transaction (eraseTarget target)

end CrashCatcher.Store
