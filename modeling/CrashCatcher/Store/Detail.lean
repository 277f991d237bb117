import CrashCatcher.Lib.Utf8
import CrashCatcher.Store.Read
import CrashCatcher.Wire.Rpc

namespace CrashCatcher.Store
open Lib Model Wire Fallible

def getRecord (id : RecordId) : StoreM RecordDetail := do
  match ← query fun db => db.records.find? id with
  | some row => do
      let record := mapRecord row
      let group ← querySome fun db => db.groups.find? record.groupId
      pure { record, group }
  | none => Fallible.fail (.recordNotFound id.text)

def payloadLocation (id : RecordId) : StoreM (Str × PayloadCodec) := do
  match ← query fun db => db.records.find? id with
  | some row =>
      match row.payloadPath with
      | some path =>
          if row.payloadState.isReadable then pure (path, row.payloadCodec)
          else Fallible.fail (.payloadUnavailable id.text)
      | none => Fallible.fail (.payloadUnavailable id.text)
  | none => Fallible.fail (.recordNotFound id.text)

section
variable (decodeAll : List UInt8 → Option (List UInt8))

namespace PayloadStore

/-- `decodeAll` is zstd's. -/
def readBytes (path : Str) (codec : PayloadCodec) : StoreM (List UInt8) := do
  if resolve path then
    attempt (.io path)
    let world ← Fallible.get
    match world.store.files path, codec with
    | none, _ => Fallible.fail (.io path)
    | some content, .raw => pure content
    | some content, .zstd => match decodeAll content with
      | some bytes => pure bytes
      | none => Fallible.fail .decompress
  else Fallible.fail (.badPayloadPath path)

def chunkOf (bytes : List UInt8) (offset : UInt64) (len : UInt32) : List UInt8 :=
  let start := min offset.toNat bytes.length
  let requestedEnd := min (start + len.toNat) bytes.length
  truncateUtf8 (bytes.drop start) (requestedEnd - start)

def nextOffset (bytes : List UInt8) (offset : UInt64) (len : UInt32) : Nat :=
  min offset.toNat bytes.length + (chunkOf bytes offset len).length

def readChunk (path : Str) (codec : PayloadCodec) (offset : UInt64) (len : UInt32) :
    StoreM (Str × Nat × Bool) := do
  let bytes ← readBytes decodeAll path codec
  let nextOffset := nextOffset bytes offset len
  pure (Utf8.fromUtf8Lossy (chunkOf bytes offset len), nextOffset, nextOffset ≥ bytes.length)

end PayloadStore

def readPayloadBytes (id : RecordId) : StoreM (List UInt8) := do
  let (path, codec) ← payloadLocation id
  PayloadStore.readBytes decodeAll path codec

def readPayloadText (id : RecordId) : StoreM Str := do
  pure (Utf8.fromUtf8Lossy (← readPayloadBytes decodeAll id))

def readPayloadChunk (id : RecordId) (offset : UInt64) (len : UInt32) : StoreM (Str × Nat × Bool) := do
  let (path, codec) ← payloadLocation id
  PayloadStore.readChunk decodeAll path codec offset len

end

/-- The texts of errors; `system` stands for those of SQLite, the file system and zstd. -/
def StoreError.display (system : StoreError → Str) : StoreError → Str
  | .recordNotFound id => "no record with id ".toList ++ id
  | .groupNotFound id => "no crash group with id ".toList ++ id
  | .payloadUnavailable id => "record ".toList ++ id ++ " has no readable payload".toList
  | other => system other

def StoreError.toWire (system : StoreError → Str) (self : StoreError) : WireError :=
  match self with
  | .request error => error
  | .recordNotFound _ | .groupNotFound _ | .payloadUnavailable _ => .notFound (self.display system)
  | _ => .internal (self.display system)

end CrashCatcher.Store
