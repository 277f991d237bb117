import CrashCatcher.Lib.Json
import CrashCatcher.Model.Id
import CrashCatcher.Wire.Frame

namespace CrashCatcher.Daemon
open Lib Model Wire

/-- The requests as the control loop tells them apart; `ρ` is everything else that can be asked. -/
inductive ControlRequest (ρ : Type) where
  | handshake (protocolVersion : Nat)
  | openPayload (id : RecordId)
  | other (request : ρ)

def ControlRequest.requiresHandshake {ρ : Type} : ControlRequest ρ → Bool
  | .handshake _ => false
  | _ => true

structure ControlEnvelope (ρ : Type) where
  seq : UInt64
  request : ControlRequest ρ

/-- An answer under the request's `seq`; `ω` is what the daemon can answer. -/
structure ControlAnswer (ω : Type) where
  seq : UInt64
  result : Except WireError ω

/-- What the loop calls: the responses and their encoding, and the requests that it does not know. -/
structure ControlCore (σ ρ ω : Type) where
  handshakeResponse : Nat → ω
  openPayloadFd : RecordId → σ → Except WireError ω × σ
  handleOther : ControlRequest ρ → σ → Except WireError ω × σ
  toVec : ControlAnswer ω → List UInt8

inductive IoError where
  | unexpectedEof
  | invalidData
  | interrupted
deriving DecidableEq

/-- The bytes that the peer sends, and whether an error follows them or the end. -/
structure Incoming where
  bytes : List UInt8
  broken : Bool

def Incoming.readExact (self : Incoming) (n : Nat) : Except IoError (List UInt8 × Incoming) :=
  if n ≤ self.bytes.length then .ok (self.bytes.take n, { self with bytes := self.bytes.drop n })
  else .error (if self.broken then .interrupted else .unexpectedEof)

def fromBeBytes (bytes : List UInt8) : Nat := bytes.foldl (fun n byte => 256 * n + byte.toNat) 0

def decodeLength (prefixBytes : List UInt8) : Except WireError Nat :=
  let length := fromBeBytes prefixBytes
  if length > maxFrameBodyBytes then .error (.payloadTooLarge length) else .ok length

/-- `fromSlice` is what serde makes of a body. -/
def readJsonFrame {α : Type} (fromSlice : List UInt8 → Option α) (incoming : Incoming) :
    Except IoError (α × Incoming) := do
  let (prefixBytes, incoming) ← incoming.readExact lengthPrefixBytes
  match decodeLength prefixBytes with
  | .error _ => .error .invalidData
  | .ok length => do
      let (body, incoming) ← incoming.readExact length
      match fromSlice body with
      | none => .error .invalidData
      | some value => pure (value, incoming)

inductive ControlEvent (ρ ω : Type) where
  | received (envelope : ControlEnvelope ρ)
  | dispatched (envelope : ControlEnvelope ρ)
  | opened (id : RecordId)
  | answered (answer : ControlAnswer ω) (fdAttached : Bool)

/-- A control connection between two rounds of its loop; `writeFaults n` is whether the `n`-th write
from now on fails. -/
structure Control (σ ρ ω : Type) where
  core : σ
  incoming : Incoming
  writeFaults : Nat → Bool
  agreed : Bool := false
  events : List (ControlEvent ρ ω) := []
  ended : Option (Except IoError Unit) := none

section
variable {σ ρ ω : Type} (core : ControlCore σ ρ ω)

def ControlCore.dispatch (envelope : ControlEnvelope ρ) (state : σ) : ControlAnswer ω × σ :=
  match envelope.request with
  | .handshake requested =>
      if requested ≠ protocolVersion then
        let error := {
          code := .versionMismatch
          message := "client protocol ".toList ++ decimal requested ++ ", daemon protocol ".toList ++
            decimal protocolVersion }
        ({ seq := envelope.seq, result := .error error }, state)
      else ({ seq := envelope.seq, result := .ok (core.handshakeResponse protocolVersion) }, state)
  | request =>
      let (result, state) := core.handleOther request state
      ({ seq := envelope.seq, result }, state)

namespace Control
variable (self : Control σ ρ ω)

def record (event : ControlEvent ρ ω) : Control σ ρ ω := { self with events := self.events ++ [event] }

def finish (result : Except IoError Unit) : Control σ ρ ω := { self with ended := some result }

def write (answer : ControlAnswer ω) (fdAttached : Bool) (next : Control σ ρ ω → Control σ ρ ω) :
    Control σ ρ ω :=
  match encodeFrame (core.toVec answer) with
  | .error _ => self.finish (.error .invalidData)
  | .ok _ =>
      let written := { self with writeFaults := fun n => self.writeFaults (n + 1) }
      if self.writeFaults 0 then written.finish (.error .interrupted)
      else next (written.record (.answered answer fdAttached))

def handshakeRequired (seq : UInt64) : ControlAnswer ω where
  seq
  result := .error {
    code := .versionMismatch
    message := "handshake required before any other request".toList }

def negotiate (envelope : ControlEnvelope ρ) : Control σ ρ ω :=
  if envelope.request.requiresHandshake then
    self.write core (handshakeRequired envelope.seq) false fun self => self.finish (.ok ())
  else
    let (answer, state) := core.dispatch envelope self.core
    let self := { self.record (.dispatched envelope) with core := state }
    match answer.result with
    | .error _ => self.write core answer false fun self => self.finish (.ok ())
    | .ok _ => self.write core answer false fun self => { self with agreed := true }

def serve (envelope : ControlEnvelope ρ) : Control σ ρ ω :=
  match envelope.request with
  | .openPayload id =>
      let (result, state) := core.openPayloadFd id self.core
      let self := { self.record (.opened id) with core := state }
      match result with
      | .ok response => self.write core { seq := envelope.seq, result := .ok response } true fun self => self
      | .error error => self.write core { seq := envelope.seq, result := .error error } false fun self => self
  | _ =>
      let (answer, state) := core.dispatch envelope self.core
      { self.record (.dispatched envelope) with core := state }.write core answer false fun self => self

/-- One round of `manager_control`. -/
def round (fromSlice : List UInt8 → Option (ControlEnvelope ρ)) : Control σ ρ ω :=
  match self.ended with
  | some _ => self
  | none => match readJsonFrame fromSlice self.incoming with
    | .error .unexpectedEof => self.finish (.ok ())
    | .error error => self.finish (.error error)
    | .ok (envelope, incoming) =>
        let self := { self.record (.received envelope) with incoming }
        if self.agreed then self.serve core envelope else self.negotiate core envelope

def rounds (fromSlice : List UInt8 → Option (ControlEnvelope ρ)) : Nat → Control σ ρ ω → Control σ ρ ω
  | 0, self => self
  | n + 1, self => rounds fromSlice n (self.round core fromSlice)

end Control
end
end CrashCatcher.Daemon
