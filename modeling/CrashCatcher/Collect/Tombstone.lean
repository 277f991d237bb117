import CrashCatcher.Merge.Pending

namespace CrashCatcher.Collect
open Lib Lib.Text Model Merge

inductive TombstoneFormat where
  | protobuf
  | text
deriving DecidableEq

/-- `{:x}`. -/
def lowerHex (n : UInt64) : Str := Nat.toDigits 16 n.toNat

structure NativeFrame where
  relativePc : UInt64
  functionName : Option Str
  functionOffset : Option UInt64
  fileName : Option Str
  buildId : Option Str
deriving DecidableEq

def NativeFrame.normalized (self : NativeFrame) : Str :=
  match self.functionName, self.fileName with
  | some f, some file => file ++ '!' :: f
  | some f, none => f
  | none, some file => file ++ "+0x".toList ++ lowerHex self.relativePc
  | none, none => "pc+0x".toList ++ lowerHex self.relativePc

structure TombstoneReport where
  format : TombstoneFormat
  pid : Int
  tid : Int
  uid : Option Int
  processName : Str
  threadName : Option Str
  signalNumber : Option Int
  signalName : Option Str
  signalCode : Option Int
  signalCodeName : Option Str
  abortMessage : Option Str
  cause : Option Str
  frames : List NativeFrame
  rawText : Option Str
deriving DecidableEq

def TombstoneReport.packageName (self : TombstoneReport) : Str := before ':' self.processName

def androidUserId (uid : Int) : Int := max uid 0 / 100000

def applyNativeReport (fragment : CrashFragment) (report : TombstoneReport) : CrashFragment :=
  { fragment with
    processName := report.processName
    packageName := some report.packageName
    pid := report.pid
    userId := fragment.userId.or (report.uid.map androidUserId)
    summaryClass := report.signalName.or
      (report.signalNumber.map fun number => "signal ".toList ++ (toString number).toList)
    summaryText := (report.cause.or report.abortMessage).or report.signalCodeName
    frames := report.frames.map NativeFrame.normalized }

/-- `{:02}`. -/
def twoDigits (index : Nat) : Str :=
  if index < 10 then '0' :: (toString index).toList else (toString index).toList

def renderTombstone (report : TombstoneReport) : Str :=
  let number (value : Int) : Str := (toString value).toList
  let header := "pid: ".toList ++ number report.pid ++ ", tid: ".toList ++ number report.tid ++
    ", name: ".toList ++ report.threadName.getD "unknown".toList ++ " >>> ".toList ++ report.processName ++
    " <<<".toList
  let uid := report.uid.toList.map fun uid => "uid: ".toList ++ number uid
  let signal := "signal ".toList ++ number (report.signalNumber.getD 0) ++ " (".toList ++
    report.signalName.getD "unknown".toList ++ ") code ".toList ++ number (report.signalCode.getD 0) ++
    " (".toList ++ report.signalCodeName.getD "unknown".toList ++ ")".toList
  let abort := report.abortMessage.toList.map fun message => "Abort message: ".toList ++ message
  let frames := report.frames.mapIdx fun index frame =>
    '#' :: twoDigits index ++ ' ' :: frame.normalized
  ['\n'].intercalate (header :: uid ++ signal :: abort ++ frames)

/-- `tombstone_fragment` from the report and the half of the pair it was read from. -/
def tombstoneFragment (report : TombstoneReport) (path : Str) (modifiedMs : I64) : CrashFragment :=
  let quality := if report.format = .protobuf then .protobuf else .artifact
  let fragment := CrashFragment.new .tombstone quality .nativeCrash report.processName report.pid modifiedMs
  let fragment := { fragment with
    packageName := some report.packageName
    userId := report.uid.map androidUserId }
  { applyNativeReport fragment report with
    payload := if report.format = .text then .file path
      else .inline (GroupKey.utf8 (renderTombstone report)) }

end CrashCatcher.Collect
