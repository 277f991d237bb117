import CrashCatcher.Manager.Client

namespace CrashCatcher.Manager
open Lib Wire

inductive DomainErrorKind where
  | connectionLost
  | daemonRejected
  | protocolError
  | versionMismatch
  | unavailable
  | unknown
deriving DecidableEq

inductive DomainErrorCode where
  | unauthorized
  | notFound
  | invalidRequest
  | payloadTooLarge
  | cursorInvalidated
  | internal
deriving DecidableEq

structure DomainError where
  kind : DomainErrorKind
  message : Str
  code : Option DomainErrorCode := none
deriving DecidableEq

def domainCode : ErrorCode → Option DomainErrorCode
  | .unauthorized => some .unauthorized
  | .notFound => some .notFound
  | .invalidRequest => some .invalidRequest
  | .payloadTooLarge => some .payloadTooLarge
  | .cursorInvalidated => some .cursorInvalidated
  | .internal => some .internal
  | .malformedFrame | .unavailable | .versionMismatch => none

structure Failure where
  thrown : Thrown
  message : Str

namespace Failure

def toDomainError (self : Failure) : DomainError :=
  match self.thrown with
  | .rejected error => {
      kind := match error.code with
        | .versionMismatch => .versionMismatch
        | .unavailable => .unavailable
        | .malformedFrame => .protocolError
        | _ => .daemonRejected
      message := error.message
      code := domainCode error.code }
  | .fault .connectionClosed | .fault .timeout | .fault .io =>
      { kind := .connectionLost, message := self.message }
  | .malformedFrame | .protocolViolation | .fault .payloadTooLarge =>
      { kind := .protocolError, message := self.message }
  | .cancellation => { kind := .unknown, message := self.message }

def cancellation : Failure := { thrown := .cancellation, message := "Job was cancelled".toList }

end Failure

def unexpected : Failure :=
  { thrown := .protocolViolation, message := "protocol violation: unexpected response".toList }

/-- Every exception becomes a failed result, that of a cancelled job too. -/
def ask {α : Type} : Except Failure α → Except DomainError α
  | .ok reply => .ok reply
  | .error failure => .error failure.toDomainError

structure Suspended (κ : Type) where
  job : Nat
  point : κ
  cancelled : Bool := false

/-- A call of the daemon and the load of the page that it is made for, which is kept for the record only. -/
structure OfLoad (κ : Type) where
  load : Nat
  call : κ

/-- Cancelling a job marks it; it goes on when the call it waits for throws. -/
def cancelJob {κ : Type} (job : Option Nat) (waiting : List (Suspended κ)) : List (Suspended κ) :=
  waiting.map fun suspended => { suspended with cancelled := suspended.cancelled || some suspended.job == job }

section
variable {κ : Type} {job : Option Nat} {waiting : List (Suspended κ)}

theorem mem_cancelJob {suspended : Suspended κ} (waits : suspended ∈ cancelJob job waiting) :
    ∃ before ∈ waiting, before.job = suspended.job ∧ before.point = suspended.point ∧
      suspended.cancelled = (before.cancelled || some before.job == job) := by
  obtain ⟨before, waited, rfl⟩ := List.mem_map.mp waits
  exact ⟨before, waited, rfl, rfl, rfl⟩

theorem cancelled_of_cancelJob (active : ∀ suspended ∈ waiting, suspended.cancelled = false →
    some suspended.job = job) : ∀ suspended ∈ cancelJob job waiting, suspended.cancelled = true := by
  intro suspended waits
  obtain ⟨before, waited, -, -, same⟩ := mem_cancelJob waits
  cases marked : before.cancelled with
  | true => rw [same, marked, Bool.true_or]
  | false =>
      rw [same, active before waited marked]
      simp

end
end CrashCatcher.Manager
