import CrashCatcher.Daemon.Handles
import CrashCatcher.Lib.Run

namespace CrashCatcher.Manager
open Lib Model Wire Store Daemon

def chunkRequestBytes : UInt32 := 256 * 1024

def long? (n : Nat) : Option UInt64 := if n < 2 ^ 63 then some (UInt64.ofNat n) else none

structure PayloadChunkResult where
  text : Str
  bytesRead : Nat
  totalBytes : Nat
  eof : Bool
deriving DecidableEq

def resultOf (totalBytes : Nat) (chunk : PayloadChunk) : PayloadChunkResult where
  text := chunk.text
  bytesRead := chunk.nextOffset
  totalBytes
  eof := chunk.eof

/-- What a reader keeps of the opened payload; `lifetime` tells which run of the daemon issued the handle. -/
structure Opened where
  handle : UInt64
  totalBytes : Nat
  lifetime : Nat

inductive Phase where
  | opening
  | reading (opened : Opened) (offset : UInt64)
  | closing (opened : Opened)
  | done

/-- A flow of `payload_text`, with the answer that is on its way to it and the run of the daemon that gave it. -/
structure Flow where
  record : RecordId
  phase : Phase := .opening
  answer : Option (Except WireError PayloadResponse × Nat) := none
  emitted : List PayloadChunkResult := []

namespace Flow

def request (flow : Flow) : Option PayloadRequest :=
  match flow.phase with
  | .opening => some (.openPayload flow.record)
  | .reading opened offset => some (.readPayload opened.handle offset chunkRequestBytes)
  | .closing opened => some (.closePayload opened.handle)
  | .done => none

def goTo (flow : Flow) (phase : Phase) : Flow := { flow with phase, answer := none }

/-- A flow whose call failed still closes what it has opened. -/
def failed (flow : Flow) : Flow :=
  match flow.phase with
  | .opening => flow.goTo .done
  | .reading opened _ => flow.goTo (.closing opened)
  | .closing _ => flow.goTo .done
  | .done => flow

/-- A cancelled flow can no longer send; one whose collector gave up closes first. -/
def cancelled (flow : Flow) (cancelled : Bool) : Flow := if cancelled then flow.goTo .done else flow.failed

def emit (flow : Flow) (opened : Opened) (chunk : PayloadChunk) : Flow :=
  { flow with emitted := flow.emitted ++ [resultOf opened.totalBytes chunk] }

def received (flow : Flow) : Except WireError PayloadResponse × Nat → Flow
  | (answer, lifetime) => match flow.phase, answer with
    | .opening, .ok (.payloadOpened payload) =>
        match payload.handle.bind fun handle => long? handle.toNat, long? payload.totalBytes with
        | some handle, some _ => flow.goTo (.reading { handle, totalBytes := payload.totalBytes, lifetime } 0)
        | _, _ => flow.failed
    | .reading opened offset, .ok (.other (.payloadChunk chunk)) =>
        match long? chunk.nextOffset with
        | none => flow.failed
        | some next =>
            if chunk.eof ∨ next ≤ offset then (flow.emit opened chunk).goTo (.closing opened)
            else (flow.emit opened chunk).goTo (.reading opened next)
    | _, _ => flow.failed

end Flow

structure Readers where
  handles : Handles := {}
  lifetime : Nat := 0
  flows : Nat → Option Flow := fun _ => none

/-- What can happen next: a flow starts, the daemon handles the request that a flow waits with (again, when the
client retries), a flow receives the daemon's last answer, its call fails, it is cancelled, the daemon
restarts. -/
inductive Event where
  | collect (k : Nat) (record : RecordId)
  | handle (k : Nat)
  | receive (k : Nat)
  | fail (k : Nat)
  | cancel (k : Nat) (cancelled : Bool)
  | restart

namespace Readers
variable (services : Services) (s : StoreState)

def put (readers : Readers) (k : Nat) (flow : Flow) : Readers :=
  { readers with flows := Function.update readers.flows k (some flow) }

def handle (readers : Readers) (k : Nat) (flow : Flow) (request : PayloadRequest) : Readers :=
  let (answer, handles) := readers.handles.handleRequest services s request
  { readers with handles }.put k { flow with answer := some (answer, readers.lifetime) }

def step (readers : Readers) : Event → Readers
  | .collect k record => match readers.flows k with
    | some _ => readers
    | none => readers.put k { record }
  | .handle k => match readers.flows k with
    | none => readers
    | some flow => match flow.request with
      | none => readers
      | some request => readers.handle services s k flow request
  | .receive k => match readers.flows k with
    | none => readers
    | some flow => match flow.answer with
      | none => readers
      | some answer => readers.put k (flow.received answer)
  | .fail k => match readers.flows k with
    | none => readers
    | some flow => readers.put k flow.failed
  | .cancel k cancelled => match readers.flows k with
    | none => readers
    | some flow => readers.put k (flow.cancelled cancelled)
  | .restart => { readers with handles := {}, lifetime := readers.lifetime + 1 }

def run (events : List Event) : Readers := events.foldl (step services s) {}

end Readers
end CrashCatcher.Manager
