import CrashCatcher.Model.Fingerprint

namespace CrashCatcher.Model
open Lib Lib.Text

def summaryTextMaxBytes : Nat := 256

/-- The longest prefix of whole characters within `budget` bytes. -/
def takeBytes : Nat → Str → Str
  | _, [] => []
  | budget, c :: s => if c.utf8Size ≤ budget then c :: takeBytes (budget - c.utf8Size) s else []

def truncateOnCharBoundary (value : Str) (maxBytes : Nat) : Str :=
  if (GroupKey.utf8 value).length ≤ maxBytes then value else takeBytes maxBytes value

structure CrashSummary where
  className : Option Str
  text : Option Str
deriving DecidableEq

def CrashSummary.new (className text : Option Str) : CrashSummary :=
  { className, text := text.map (truncateOnCharBoundary · summaryTextMaxBytes) }

inductive PayloadSource where
  | inline (bytes : List UInt8)
  | file (path : Str)
  | none
deriving DecidableEq

structure CrashRecord where
  kind : CrashKind
  packageName : Str
  processName : Str
  userId : Int
  pid : Int
  happenedAtMs : I64
  appVersionName : Option Str
  appVersionCode : Option Int
  isSystemApp : Bool
  packageInstalled : Bool
  isForeground : Option Bool
  selfHandled : Bool
  droppedCount : Option Nat
  sources : SourceMask
  summary : CrashSummary
  fingerprint : Fingerprint
  payload : PayloadSource
deriving DecidableEq

namespace CrashRecord

def isMainProcess (record : CrashRecord) : Bool := record.packageName = record.processName

def groupKey (record : CrashRecord) : GroupKey where
  packageName := record.packageName
  processName := record.processName
  userId := record.userId
  fingerprint := record.fingerprint

def groupId (sha256 : List UInt8 → List UInt8) (record : CrashRecord) : Str :=
  record.groupKey.groupId sha256

end CrashRecord
end CrashCatcher.Model
