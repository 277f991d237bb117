import CrashCatcher.Lib.Json
import CrashCatcher.Wire.Query

namespace CrashCatcher.Wire
open Lib

def lengthPrefixBytes : Nat := 4
def maxFrameBodyBytes : Nat := 1024 * 1024
def protocolVersion : Nat := 5

namespace ErrorCode

def name : ErrorCode → Str
  | invalidRequest => "invalid_request".toList
  | malformedFrame => "malformed_frame".toList
  | unauthorized => "unauthorized".toList
  | notFound => "not_found".toList
  | payloadTooLarge => "payload_too_large".toList
  | unavailable => "unavailable".toList
  | versionMismatch => "version_mismatch".toList
  | cursorInvalidated => "cursor_invalidated".toList
  | internal => "internal".toList

end ErrorCode

namespace WireError

def notFound (message : Str) : WireError := { code := .notFound, message }
def unavailable (message : Str) : WireError := { code := .unavailable, message }
def internal (message : Str) : WireError := { code := .internal, message }
def malformedFrame (message : Str) : WireError := { code := .malformedFrame, message }

def payloadTooLarge (bytes : Nat) : WireError where
  code := .payloadTooLarge
  message := "frame body of ".toList ++ decimal bytes ++ " bytes exceeds the limit".toList

def toJson (self : WireError) : Json :=
  .obj [("code".toList, .str self.code.name), ("message".toList, .str self.message)]

end WireError

def beBytes (n : Nat) : List UInt8 :=
  [UInt8.ofNat (n / 0x1000000), UInt8.ofNat (n / 0x10000), UInt8.ofNat (n / 0x100), UInt8.ofNat n]

def encodeFrame (body : List UInt8) : Except WireError (List UInt8) :=
  if body.length > maxFrameBodyBytes then .error (.payloadTooLarge body.length)
  else .ok (beBytes body.length ++ body)

def FitsFrame (body : List UInt8) : Prop := ∃ frame, encodeFrame body = .ok frame

theorem fitsFrame_iff {body : List UInt8} : FitsFrame body ↔ body.length ≤ maxFrameBodyBytes := by
  unfold FitsFrame encodeFrame
  by_cases large : body.length > maxFrameBodyBytes
  · rw [if_pos large]
    simpa using large
  · rw [if_neg large]
    simpa using large

def toVec (json : Json) : List UInt8 := Utf8.encode json.compact

theorem length_toVec (json : Json) : (toVec json).length = Utf8.size json.compact :=
  Utf8.length_encode _

end CrashCatcher.Wire
