import CrashCatcher.Daemon.Export
import CrashCatcher.Daemon.Replies
import Mathlib.Logic.Function.Basic

namespace CrashCatcher.Daemon
open Lib Model Wire Store Fallible

structure PayloadOpened where
  totalBytes : Nat
  state : PayloadState
  codecOnDisk : PayloadCodec
  fdAttached : Bool
  handle : Option UInt64

inductive PayloadRequest where
  | openPayload (id : RecordId)
  | readPayload (handle offset : UInt64) (len : UInt32)
  | closePayload (handle : UInt64)

inductive PayloadResponse where
  | payloadOpened (payload : PayloadOpened)
  | other (response : Response)
  | closed

structure Handles where
  nextPayloadHandle : UInt64 := 1
  payloadHandles : UInt64 → Option RecordId := fun _ => none

namespace Handles

def saturatingAdd (n m : UInt64) : UInt64 := UInt64.ofNat (min (n.toNat + m.toNat) (2 ^ 64 - 1))

def registerPayloadHandle (handles : Handles) (id : RecordId) : UInt64 × Handles :=
  let handle := handles.nextPayloadHandle
  (handle, {
    nextPayloadHandle := saturatingAdd handle 1
    payloadHandles := Function.update handles.payloadHandles handle (some id) })

section
variable (services : Services) (s : StoreState)

def openPayload (id : RecordId) : StoreM (PayloadState × Nat) := do
  let detail ← getRecord id
  let text ← readPayloadText services.decodeAll id
  let _ ← readPayloadBytes services.decodeAll id
  pure (detail.record.payloadState, Utf8.size text)

def openPayloadFd (handles : Handles) (id : RecordId) : Except WireError PayloadResponse × Handles :=
  match (openPayload services id (quiet s)).1 with
  | .error error => (.error (error.toWire services.systemMessage), handles)
  | .ok (state, totalBytes) =>
      let (handle, handles) := handles.registerPayloadHandle id
      (.ok (.payloadOpened {
        totalBytes, state
        codecOnDisk := .raw
        fdAttached := true
        handle := some handle }), handles)

def readPayload (handles : Handles) (handle offset : UInt64) (len : UInt32) :
    Except WireError PayloadResponse :=
  match (Services.readPayload { services with payloadHandles := handles.payloadHandles } handle offset len
      (quiet s)).1 with
  | .error error => .error (error.toWire services.systemMessage)
  | .ok response => .ok (.other response)

def closePayload (handles : Handles) (handle : UInt64) : Handles :=
  { handles with payloadHandles := Function.update handles.payloadHandles handle none }

def handleRequest (handles : Handles) : PayloadRequest → Except WireError PayloadResponse × Handles
  | .openPayload id => handles.openPayloadFd services s id
  | .readPayload handle offset len => (handles.readPayload services s handle offset len, handles)
  | .closePayload handle => (.ok .closed, handles.closePayload handle)

variable {services s}

theorem openPayloadFd_cases (services : Services) (s : StoreState) (handles : Handles) (id : RecordId) :
    (∃ error, handles.openPayloadFd services s id = (.error error, handles)) ∨
      ∃ payload, payload.handle = some handles.nextPayloadHandle ∧
        handles.openPayloadFd services s id =
          (.ok (.payloadOpened payload), (handles.registerPayloadHandle id).2) := by
  unfold openPayloadFd
  cases (openPayload services id (quiet s)).1 with
  | error error => exact .inl ⟨_, rfl⟩
  | ok opened => exact .inr ⟨_, rfl, rfl⟩

theorem readPayload_chunk {handles : Handles} {handle offset : UInt64} {len : UInt32} {chunk : PayloadChunk}
    (answered : handles.readPayload services s handle offset len = .ok (.other (.payloadChunk chunk))) :
    ∃ id bytes, handles.payloadHandles handle = some id ∧ Stores services s id bytes ∧
      chunk = chunkAnswer bytes offset len := by
  let services' : Services := { services with payloadHandles := handles.payloadHandles }
  have ran : ∃ world, services'.readPayload handle offset len (quiet s) =
      (.ok (.payloadChunk chunk), world) := by
    unfold readPayload at answered
    rcases run : services'.readPayload handle offset len (quiet s) with ⟨error | response, world⟩
    · rw [run] at answered
      cases answered
    · rw [run] at answered
      cases answered
      exact ⟨world, rfl⟩
  obtain ⟨world, ran⟩ := ran
  unfold Services.readPayload at ran
  by_cases empty : len = 0
  · rw [if_pos empty] at ran
    cases ran
  · rw [if_neg empty] at ran
    cases found : services'.payloadHandles handle with
    | none =>
        rw [found] at ran
        cases ran
    | some id =>
        rw [found] at ran
        simp only [bind_run, readPayloadChunk_run] at ran
        have unchanged := readPayloadBytes_unchanged s services'.decodeAll id
        rcases read : readPayloadBytes services'.decodeAll id (quiet s) with ⟨error | bytes, world'⟩
        · rw [read] at ran
          cases ran
        · rw [read] at ran unchanged
          cases ran
          cases unchanged
          exact ⟨id, bytes, found, read, rfl⟩

theorem readPayload_opensNothing {handles : Handles} {handle offset : UInt64} {len : UInt32}
    {payload : PayloadOpened} :
    handles.readPayload services s handle offset len ≠ .ok (.payloadOpened payload) := by
  unfold readPayload
  cases (Services.readPayload _ handle offset len (quiet s)).1 <;> exact nofun

end
end Handles
end CrashCatcher.Daemon
