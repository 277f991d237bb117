import CrashCatcher.Lib.Fallible
import CrashCatcher.Wire.Frame
import Mathlib.Logic.Function.Basic

namespace CrashCatcher.Manager
open Lib Wire

inductive Fault where
  | connectionClosed
  | timeout
  | payloadTooLarge
  | io
deriving DecidableEq

inductive Thrown where
  | cancellation
  | rejected (error : WireError)
  | malformedFrame
  | protocolViolation
  | fault (fault : Fault)
deriving DecidableEq

/-- What the environment does at a step: the step may also fail after its effect. -/
inductive Choice where
  | proceed
  | cancelled
  | failed (fault : Fault) (late : Bool)

structure Answer (ω δ : Type) where
  body : Option (Option ω × Option WireError)
  fileDescriptors : Option (List δ)

structure Sent (ρ : Type) where
  seq : Nat
  request : ρ

/-- A connection: what has reached the daemon, how many answers were read, and the descriptors that came
with the last of them. -/
structure Channel (ρ δ : Type) where
  sent : List (Sent ρ) := []
  read : Nat := 0
  pendingDescriptors : Option (List δ) := none

/-- A request that was written: to which channel, in which place, and whether it is the caller's own. -/
structure Write (ρ : Type) where
  channel : Nat
  position : Nat
  request : ρ
  own : Bool

structure DaemonReply (ω δ : Type) where
  response : ω
  fileDescriptors : Option (List δ)

/-- The handshake's request, the version in its answer, and what the daemon answers on a channel to the
request in a place of it. -/
structure Protocol (ρ ω δ : Type) where
  handshake : ρ
  handshakeVersion : ω → Option Nat
  answer : Nat → Nat → ρ → Answer ω δ

/-- The client, every channel so far, what was written and what the environment does next. -/
structure DaemonClient (ρ δ : Type) where
  channel : Option Nat := none
  nextSeq : Nat := 1
  connected : Bool := false
  channels : Nat → Channel ρ δ := fun _ => {}
  opened : Nat := 0
  writes : List (Write ρ) := []
  choices : Nat → Choice

namespace DaemonClient
variable {ρ ω δ : Type}

abbrev ClientM (ρ δ : Type) := Fallible (DaemonClient ρ δ) Thrown

def choose : ClientM ρ δ Choice := fun client =>
  (.ok (client.choices 0), { client with choices := fun n => client.choices (n + 1) })

def deliver (active seq : Nat) (request : ρ) (own : Bool) (client : DaemonClient ρ δ) : DaemonClient ρ δ :=
  let line := client.channels active
  { client with
    channels := Function.update client.channels active { line with sent := line.sent ++ [{ seq, request }] }
    writes := client.writes ++ [{ channel := active, position := line.sent.length, request, own }] }

def writeFrame (active seq : Nat) (request : ρ) (own : Bool) : ClientM ρ δ Unit := do
  match ← choose with
  | .proceed => Fallible.update (deliver active seq request own)
  | .cancelled => Fallible.fail .cancellation
  | .failed fault late => do
      if late then Fallible.update (deliver active seq request own)
      Fallible.fail (.fault fault)

def readFrame (protocol : Protocol ρ ω δ) (active : Nat) : ClientM ρ δ (Nat × Answer ω δ) := do
  match ← choose with
  | .cancelled => Fallible.fail .cancellation
  | .failed fault _ => Fallible.fail (.fault fault)
  | .proceed => do
      let client ← Fallible.get
      let line := client.channels active
      match line.sent[line.read]? with
      | none => Fallible.fail (.fault .connectionClosed)
      | some sent => do
          let answer := protocol.answer active line.read sent.request
          Fallible.update fun client => { client with
            channels := Function.update client.channels active
              { line with read := line.read + 1, pendingDescriptors := answer.fileDescriptors } }
          pure (sent.seq, answer)

def takeFileDescriptors (active : Nat) : ClientM ρ δ (Option (List δ)) := do
  match ← choose with
  | .cancelled => Fallible.fail .cancellation
  | _ => do
      let client ← Fallible.get
      let line := client.channels active
      Fallible.update fun client => { client with
        channels := Function.update client.channels active { line with pendingDescriptors := none } }
      pure line.pendingDescriptors

/-- A call that was cancelled does not return. -/
def returning {α : Type} (a : α) : ClientM ρ δ α := do
  match ← choose with
  | .cancelled => Fallible.fail .cancellation
  | _ => pure a

def exchangeLocked (protocol : Protocol ρ ω δ) (request : ρ) (own : Bool) : ClientM ρ δ (DaemonReply ω δ) := do
  let client ← Fallible.get
  match client.channel with
  | none => Fallible.fail (.fault .connectionClosed)
  | some active => do
      let seq := client.nextSeq
      Fallible.update fun client => { client with nextSeq := client.nextSeq + 1 }
      writeFrame active seq request own
      let (answered, answer) ← readFrame protocol active
      let fileDescriptors ← takeFileDescriptors active
      match answer.body with
      | none => Fallible.fail .malformedFrame
      | some (ok, err) =>
          if answered ≠ seq then Fallible.fail .protocolViolation
          else match ok, err with
            | some response, none => returning { response, fileDescriptors }
            | none, some error => Fallible.fail (.rejected error)
            | _, _ => Fallible.fail .malformedFrame

def closed (client : DaemonClient ρ δ) : DaemonClient ρ δ := { client with channel := none, connected := false }

def closeLocked : ClientM ρ δ Unit := Fallible.update closed

def open_ : ClientM ρ δ Unit := do
  match ← choose with
  | .cancelled => Fallible.fail .cancellation
  | .failed fault _ => Fallible.fail (.fault fault)
  | .proceed => Fallible.update fun client => { client with
      channel := some client.opened
      nextSeq := 1
      channels := Function.update client.channels client.opened {}
      opened := client.opened + 1 }

def versionMismatch (version : Nat) : WireError where
  code := .versionMismatch
  message := "daemon speaks protocol ".toList ++ decimal version ++ ", this manager speaks ".toList ++
    decimal protocolVersion

def openLocked (protocol : Protocol ρ ω δ) : ClientM ρ δ Unit := do
  open_
  let version ← Fallible.onError (do
      let reply ← exchangeLocked protocol protocol.handshake false
      match protocol.handshakeVersion reply.response with
      | some version => pure version
      | none => Fallible.fail .protocolViolation)
    closeLocked
  if version ≠ protocolVersion then do
    closeLocked
    Fallible.fail (.rejected (versionMismatch version))
  else Fallible.update fun client => { client with connected := true }

def connect (protocol : Protocol ρ ω δ) : ClientM ρ δ Unit := do
  let client ← Fallible.get
  match client.channel with
  | some _ => pure ()
  | none => openLocked protocol

def retry (protocol : Protocol ρ ω δ) (request : ρ) : ClientM ρ δ (DaemonReply ω δ) :=
  Fallible.recover (do
      openLocked protocol
      exchangeLocked protocol request true)
    fun
    | .cancellation => Fallible.fail .cancellation
    | thrown => do
        closeLocked
        Fallible.fail thrown

def request (protocol : Protocol ρ ω δ) (request : ρ) : ClientM ρ δ (DaemonReply ω δ) :=
  Fallible.recover (do
      connect protocol
      exchangeLocked protocol request true)
    fun
    | .cancellation => Fallible.fail .cancellation
    | .rejected error => Fallible.fail (.rejected error)
    | _ => do
        closeLocked
        retry protocol request

inductive Call (ρ : Type) where
  | request (request : ρ)
  | connect
  | disconnect

def after (protocol : Protocol ρ ω δ) (client : DaemonClient ρ δ) : Call ρ → DaemonClient ρ δ
  | .request request => (client.request protocol request).2
  | .connect => (client.connect protocol).2
  | .disconnect => client.closed

def run (protocol : Protocol ρ ω δ) (choices : Nat → Choice) (calls : List (Call ρ)) : DaemonClient ρ δ :=
  calls.foldl (after protocol) { choices }

end DaemonClient
end CrashCatcher.Manager
