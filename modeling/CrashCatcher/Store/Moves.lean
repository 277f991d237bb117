import CrashCatcher.Store.Effects
import Mathlib.Logic.Relation

namespace CrashCatcher.Store
open Lib Model Config Fallible Relation

namespace Database

def insertCrash (db : Database) (group : GroupSummary) (record : RecordRow) : Option Database :=
  (db.upsertGroup group).insertRecord record

def dropRow (db : Database) (row : RecordRow) : Database :=
  { db with records := db.records.delete fun stored => stored.id = row.id }.subGroupBytes row.groupId
    row.payloadBytes

def evictRow (db : Database) (row : RecordRow) : Database :=
  (db.updateRecord row.id RecordRow.evict RecordRow.id_evict).subGroupBytes row.groupId
    row.payloadBytes

def adoptPayload (db : Database) (id : RecordId) (groupId : Str) (adopted : WrittenPayload) :
    Database :=
  (db.updateRecord id (RecordRow.adopt adopted) (RecordRow.id_adopt adopted)).addGroupBytes groupId
    adopted.storedBytes

def foldSources (db : Database) (id : RecordId) (sources : SourceMask) : Database :=
  db.updateRecord id (RecordRow.setSources sources) (RecordRow.id_setSources sources)

def eraseWhere (db : Database) (records : RecordRow → Bool)
    (groups : Database → GroupSummary → Bool) : Database :=
  let db := { db with records := db.records.delete records }
  db.deleteGroups (groups db)

def erase (db : Database) : DeleteTarget → Database
  | .all => db.eraseWhere (fun _ => true) fun _ _ => true
  | .group chosen =>
      db.eraseWhere (fun row => row.groupId == chosen) fun _ group => group.groupId == chosen
  | .ids [] => db
  | .ids chosen =>
      db.eraseWhere (fun row => chosen.contains row.id) fun db group => !db.hasRecordIn group.groupId

end Database

def Issued (id : RecordId) : Prop :=
  ∃ generator : RecordIdGenerator, generator.Fits ∧ id = RecordId.encode generator.value

def WrittenFor (id : RecordId) (written : Option WrittenPayload) : Prop :=
  ∀ payload, written = some payload →
    payload.relativePath = relativePathFor id ∧ payload.state.isReadable

/-- What the store commits between two reads of it, a user's delete apart. -/
inductive Move : Database → Database → Prop
  | insert {db db' : Database} {id : RecordId} {groupId : Str} {record : CrashRecord}
      {isRepeating : Bool} {written : Option WrittenPayload} (issued : Issued id)
      (payload : WrittenFor id written)
      (inserted : db.insertCrash
        (newGroup groupId record ((written.map (·.storedBytes)).getD 0))
        (newRecord id groupId record isRepeating written) = some db') : Move db db'
  | ingestSource {db : Database} (row : SourceRow) : Move db (db.insertSource row)
  | foldSources {db : Database} (id : RecordId) (sources : SourceMask) :
      Move db (db.foldSources id sources)
  | adopt {db : Database} {row : RecordRow} {adopted : WrittenPayload}
      (stored : row ∈ db.records.rows) (absent : row.payloadState = .absent)
      (payload : WrittenFor row.id (some adopted)) :
      Move db (db.adoptPayload row.id row.groupId adopted)
  | drop {db : Database} {row : RecordRow} (stored : row ∈ db.records.rows) : Move db (db.dropRow row)
  | evict {db : Database} {row : RecordRow} (stored : row ∈ db.records.rows) :
      Move db (db.evictRow row)
  | dropEmpty {db : Database} (cutoffMs : I64) :
      Move db (db.deleteGroups fun group =>
        decide (group.lastSeenMs < cutoffMs) && !db.hasRecordIn group.groupId)
  | prune {db : Database} (gone : SourceRow → Bool) :
      Move db { db with sources := db.sources.delete gone }

abbrev Moves : Database → Database → Prop := ReflTransGen Move

inductive Op where
  | insert (record : CrashRecord) (retention : RetentionPolicy) (sourceKeys : List Str)
      (ingestedAtMs : I64)
  | fold (existing : RecordId) (record : CrashRecord) (retention : RetentionPolicy)
      (sourceKeys : List Str) (ingestedAtMs : I64)
  | sweep (nowMs : I64) (retention : RetentionPolicy)
  | delete (target : DeleteTarget)

section
variable (platform : Platform)

/-- Folding starts from the summary of a stored record, as `companion_record` answers it. -/
def Op.run : Op → StoreM Unit
  | .insert record retention sourceKeys ingestedAtMs => do
      let _ ← insertWithSources platform record retention sourceKeys ingestedAtMs
  | .fold existing record retention sourceKeys ingestedAtMs => do
      let stored ← query fun db => db.records.find? existing
      match stored with
      | none => pure ()
      | some row => do
          let _ ← foldIntoRecord platform row.toRecordSummary record retention sourceKeys ingestedAtMs
  | .sweep nowMs retention => do
      let _ ← Store.sweep nowMs retention
  | .delete target => do
      let _ ← Store.delete target

def StoreState.apply (s : StoreState) (op : Op) (faults : Nat → Option Nat) : StoreState :=
  (op.run platform { store := s, faults }).2.store

inductive Reachable : StoreState → Prop
  | empty : Reachable .empty
  | step {s : StoreState} (op : Op) (faults : Nat → Option Nat) (before : Reachable s) :
      Reachable (s.apply platform op faults)

end
end CrashCatcher.Store
