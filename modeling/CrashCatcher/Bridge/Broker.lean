import CrashCatcher.Daemon.Core
import CrashCatcher.Lib.Run
import CrashCatcher.Wire.Frame

namespace CrashCatcher.Bridge
open Lib Lib.Run Wire Daemon

structure BridgeHello where
  androidSdk : Nat
  bridgeVersion : Str
deriving DecidableEq

/-- What the bridge sends; a package comes with its name and its user. -/
inductive BridgeEvent where
  | hello (hello : BridgeHello)
  | packageInfoResult (requestId : UInt64) (package : Option (Str × Int × BridgePackageInfo))
      (error : Option Str)
  | activityResult (requestId : UInt64) (launched : Bool) (error : Option Str)
  | notificationResult (requestId : UInt64) (posted : Bool) (error : Option Str)
  | foregroundChanged (packageName : Option Str) (userId : Option Int)

def BridgeEvent.requestId : BridgeEvent → Option UInt64
  | .packageInfoResult requestId _ _ | .activityResult requestId _ _ | .notificationResult requestId _ _ =>
      some requestId
  | .hello _ | .foregroundChanged _ _ => none

structure Reply where
  arrival : Nat
  event : BridgeEvent

/-- Where a request stands between the steps that take a lock. -/
inductive Stage where
  | numbered
  | admitted
  | registered
  | waiting (session : Nat)
  | refused
  | timedOut
  | returned (result : Except WireError Reply)

def Stage.inProgress : Stage → Bool
  | .returned _ => false
  | _ => true

structure Call where
  requestId : UInt64
  stage : Stage := .numbered
  mailbox : List Reply := []

def notConnected : WireError := .unavailable "system bridge is not connected".toList
def channelClosed : WireError := .unavailable "system bridge command channel closed".toList
def replyTimedOut : WireError := .unavailable "system bridge reply timed out".toList

/-- Where a thread that detaches the session stands, with the session it took the sender of. -/
inductive Detaching where
  | disconnected
  | unsent (session : Option Nat)

structure BridgeBroker where
  connected : Bool := false
  nextRequestId : UInt64 := 1
  commandSender : Option Nat := none
  pending : UInt64 → Option Nat := fun _ => none
  packageCache : Str → Int → Option BridgePackageInfo := fun _ _ => none
  hello : Option BridgeHello := none
  calls : List Call := []
  /-- Replies whose sender was taken out of the map and not used yet. -/
  inHand : List (Nat × Reply) := []
  /-- The sessions so far, and those whose command receiver is gone. -/
  sessions : Nat := 0
  closed : Nat → Bool := fun _ => false
  detaches : Nat → Option Detaching := fun _ => none
  /-- What came in so far, and the sessions that were detached: a record of the run only. -/
  arrived : List BridgeEvent := []
  detached : Nat → Bool := fun _ => false

inductive Action where
  | attach
  | closeChannel (session : Nat)
  | detach (thread : Nat)
  | handleEvent (event : BridgeEvent)
  | deliver (position : Nat)
  | nextId
  | request (call : Nat)
  | timeOut (call : Nat)

namespace BridgeBroker

def new : BridgeBroker := {}

variable (self : BridgeBroker)

def attach : BridgeBroker :=
  { self with commandSender := some self.sessions, sessions := self.sessions + 1, connected := false }

def detach (thread : Nat) : BridgeBroker :=
  match self.detaches thread with
  | none =>
      { self with connected := false, detaches := Function.update self.detaches thread (some .disconnected) }
  | some .disconnected =>
      { self with
        commandSender := none
        detaches := Function.update self.detaches thread (some (.unsent self.commandSender)) }
  | some (.unsent session) =>
      { self with
        pending := fun _ => none
        detaches := Function.update self.detaches thread none
        detached := fun other => self.detached other || session == some other }

def setCall (n : Nat) (f : Call → Call) : BridgeBroker := { self with calls := self.calls.modify n f }

def setStage (n : Nat) (stage : Stage) : BridgeBroker := self.setCall n fun call => { call with stage }

def removePending (requestId : UInt64) : BridgeBroker :=
  { self with pending := Function.update self.pending requestId none }

def finishRequest (requestId : UInt64) (event : BridgeEvent) : BridgeBroker :=
  match self.pending requestId with
  | some n =>
      { self.removePending requestId with
        inHand := self.inHand ++ [(n, { arrival := self.arrived.length, event })] }
  | none => self

def cache (package : Option (Str × Int × BridgePackageInfo)) : BridgeBroker :=
  { self with packageCache := match package with
    | some (packageName, userId, info) => fun name user =>
        if name = packageName ∧ user = userId then some info else self.packageCache name user
    | none => self.packageCache }

def handle (event : BridgeEvent) : BridgeBroker :=
  match event with
  | .hello hello => { self with connected := true, hello := some hello }
  | .packageInfoResult requestId package _ => (self.cache package).finishRequest requestId event
  | .activityResult requestId _ _ | .notificationResult requestId _ _ => self.finishRequest requestId event
  | .foregroundChanged _ _ => self

def handleEvent (event : BridgeEvent) : BridgeBroker :=
  { self.handle event with arrived := self.arrived ++ [event] }

def deliver (position : Nat) : BridgeBroker :=
  match self.inHand[position]? with
  | none => self
  | some (n, reply) =>
      { self.setCall n fun call => { call with mailbox := call.mailbox ++ [reply] } with
        inHand := self.inHand.eraseIdx position }

def nextId : BridgeBroker :=
  { self with nextRequestId := self.nextRequestId + 1, calls := self.calls ++ [{ requestId := self.nextRequestId }] }

def advance (n : Nat) (call : Call) : BridgeBroker :=
  match call.stage with
  | .numbered => self.setStage n (if self.connected then .admitted else .returned (.error notConnected))
  | .admitted =>
      { self with pending := Function.update self.pending call.requestId (some n) }.setStage n .registered
  | .registered => match self.commandSender with
    | none => self.setStage n (.returned (.error notConnected))
    | some session => self.setStage n (if self.closed session then .refused else .waiting session)
  | .waiting _ => match call.mailbox with
    | [] => self
    | reply :: _ => self.setStage n (.returned (.ok reply))
  | .refused => (self.removePending call.requestId).setStage n (.returned (.error channelClosed))
  | .timedOut => (self.removePending call.requestId).setStage n (.returned (.error replyTimedOut))
  | .returned _ => self

def request (n : Nat) : BridgeBroker :=
  match self.calls[n]? with
  | none => self
  | some call => self.advance n call

/-- A request that waits may give up at any time: its time is over, or its sender was dropped. -/
def timeOut (n : Nat) : BridgeBroker :=
  match self.calls[n]? with
  | some { stage := .waiting _, .. } => self.setStage n .timedOut
  | _ => self

def step : Action → BridgeBroker
  | .attach => self.attach
  | .closeChannel session => { self with closed := Function.update self.closed session true }
  | .detach thread => self.detach thread
  | .handleEvent event => self.handleEvent event
  | .deliver position => self.deliver position
  | .nextId => self.nextId
  | .request n => self.request n
  | .timeOut n => self.timeOut n

def run (actions : List Action) : BridgeBroker := actions.foldl step self

end BridgeBroker
end CrashCatcher.Bridge
