import CrashCatcher.Daemon.Diagnostics
import CrashCatcher.Store.Detail

namespace CrashCatcher.Daemon
open Lib Lib.Json Model Wire Store Fallible

structure ExportRedaction where
  hideDeviceBrand : Bool := false
  hideDeviceModel : Bool := false
  hideBuildDisplayId : Bool := false
  hidePackageName : Bool := false

inductive Request where
  | handshake (protocolVersion : Nat)
  | listGroups (page : PageRequest)
  | readPayload (handle offset : UInt64) (len : UInt32)
  | exportRecords (ids : List RecordId) (format : ExportFormat) (redaction : ExportRedaction)
  | readRuntimeLog (name : Option Str) (maxBytes : UInt64)

def Request.requiresHandshake : Request → Bool
  | .handshake _ => false
  | _ => true

structure RequestEnvelope where
  seq : UInt64
  request : Request

/-- What the daemon serves requests from beside the store. -/
structure Services where
  daemonVersion : Str
  decodeAll : List UInt8 → Option (List UInt8)
  systemMessage : StoreError → Str
  payloadHandles : UInt64 → Option RecordId
  logs : LogDirectory

namespace Services
variable (self : Services)

def readPayload (handle offset : UInt64) (len : UInt32) : StoreM Response := do
  if len = 0 then
    Fallible.fail (.request (.invalidRequest "payload chunk length must be non-zero".toList))
  else match self.payloadHandles handle with
    | none =>
        Fallible.fail (.request (.notFound ("unknown payload handle ".toList ++ decimal handle.toNat)))
    | some id => do
        let len := UInt32.ofNat (min len.toNat maxPayloadChunkBytes)
        let (text, nextOffset, eof) ← readPayloadChunk self.decodeAll id offset len
        pure (.payloadChunk { offset, text, nextOffset, eof })

def redact (redaction : ExportRedaction) (detail : RecordDetail) : RecordDetail :=
  if redaction.hidePackageName then
    { detail with group :=
        { detail.group with packageName := "<redacted>".toList, processName := "<redacted>".toList } }
  else detail

def exportEntry (redaction : ExportRedaction) (id : RecordId) : StoreM (RecordDetail × Str) := do
  let detail ← getRecord id
  let payload ← (readPayloadText self.decodeAll id).recover fun error =>
    pure ("[payload unavailable: ".toList ++ error.display self.systemMessage ++ "]".toList)
  pure (redact redaction detail, payload)

def exportEntries (redaction : ExportRedaction) : List RecordId → StoreM (List (RecordDetail × Str))
  | [] => pure []
  | id :: ids => do
      let entry ← self.exportEntry redaction id
      let entries ← exportEntries redaction ids
      pure (entry :: entries)

def entryText (entry : RecordDetail × Str) : Str :=
  entry.1.group.packageName ++ " | ".toList ++ entry.1.group.kind.debug ++ " | ".toList ++
    decimal entry.1.record.happenedAtMs.val ++ '\n' :: entry.2 ++ ['\n']

def entryJson (entry : RecordDetail × Str) : Json :=
  toValue (.obj [("detail".toList, entry.1.toJson), ("payload".toList, .str entry.2)])

def exportText : ExportFormat → List (RecordDetail × Str) → Str
  | .json, entries => pretty 0 (.arr (entries.map entryJson))
  | .text, entries => joined "\n---\n".toList (entries.map entryText)

def exportRecords (ids : List RecordId) (format : ExportFormat) (redaction : ExportRedaction) :
    StoreM Response :=
  if ids.isEmpty then
    Fallible.fail (.request (.invalidRequest "export requires at least one record".toList))
  else do
    let entries ← self.exportEntries redaction ids
    pure (.exported (exportText format entries))

def handleRequest : Request → StoreM Response
  | .handshake requested =>
      if requested ≠ protocolVersion then
        Fallible.fail (.request {
          code := .versionMismatch
          message := "client protocol ".toList ++ decimal requested ++ ", daemon protocol ".toList ++
            decimal protocolVersion })
      else pure (.handshake protocolVersion self.daemonVersion)
  | .listGroups page => do pure (.groups (← Store.listGroups page))
  | .readPayload handle offset len => self.readPayload handle offset len
  | .exportRecords ids format redaction => self.exportRecords ids format redaction
  | .readRuntimeLog name maxBytes =>
      let budget := if maxBytes = 0 then defaultLogBytes else maxBytes.toNat
      pure (.runtimeLog (readRuntimeLog self.logs name budget))

def dispatch (envelope : RequestEnvelope) (world : World) : ResponseEnvelope × World :=
  match self.handleRequest envelope.request world with
  | (.ok response, world) => ({ seq := envelope.seq, result := .ok response }, world)
  | (.error error, world) =>
      ({ seq := envelope.seq, result := .error (error.toWire self.systemMessage) }, world)

end Services

inductive Connection where
  | serving (agreed : Bool)
  | closed
  | failed (error : WireError)

def writeJsonFrame (response : ResponseEnvelope) (after : Connection) : List (List UInt8) × Connection :=
  match encodeFrame response.body with
  | .ok frame => ([frame], after)
  | .error error => ([], .failed error)

/-- One round of the control loop: the frames that are written and what becomes of the connection. -/
def managerControl (services : Services) (agreed : Bool) (envelope : RequestEnvelope) (world : World) :
    (List (List UInt8) × Connection) × World :=
  if agreed then
    let (response, world) := services.dispatch envelope world
    (writeJsonFrame response (.serving true), world)
  else if envelope.request.requiresHandshake then
    let error := {
      code := .versionMismatch
      message := "handshake required before any other request".toList }
    (writeJsonFrame { seq := envelope.seq, result := .error error } .closed, world)
  else
    let (response, world) := services.dispatch envelope world
    let after := match response.result with
      | .ok _ => .serving true
      | .error _ => .closed
    (writeJsonFrame response after, world)

end CrashCatcher.Daemon
