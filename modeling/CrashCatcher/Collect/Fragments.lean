import CrashCatcher.Collect.TombstoneText
import CrashCatcher.Logd.CrashBuffer
import CrashCatcher.Watch.Discovery

/-! What the collectors make of an activity event, a crash buffer report and a DropBox entry. -/

namespace CrashCatcher.Collect
open Lib Lib.Text Model Merge Logd Watch Wire

structure AmCrashEvent where
  userId : Int
  pid : Int
  processName : Str
  flags : Int
  exceptionClass : Str
  message : Str
  file : Str
  line : Int
  recoverable : Bool
deriving DecidableEq

structure AmAnrEvent where
  userId : Int
  pid : Int
  processName : Str
  flags : Int
  reason : Str
deriving DecidableEq

structure AmWtfEvent where
  userId : Int
  pid : Int
  processName : Str
  flags : Int
  tag : Str
  message : Str
deriving DecidableEq

inductive ActivityEvent where
  | crash (event : AmCrashEvent)
  | anr (event : AmAnrEvent)
  | wtf (event : AmWtfEvent)
deriving DecidableEq

def packageFromProcess (process : Str) : Str := before ':' process

def amCrashNativeClass : Str := "Native crash".toList

def kindOfAmCrash (exceptionClass : Str) : CrashKind :=
  if exceptionClass = amCrashNativeClass then .nativeCrash else .javaException

def wtfReport (event : AmWtfEvent) : Str :=
  "WTF report\nProcess: ".toList ++ event.processName ++ "\nPID: ".toList ++ decimal event.pid ++
    "\nFlags: ".toList ++ decimal event.flags ++ "\nTag: ".toList ++ event.tag ++
    "\nMessage: ".toList ++ event.message ++ "\n".toList

def fragmentFromActivity (event : ActivityEvent) (happenedAtMs : I64) : CrashFragment :=
  match event with
  | .crash event =>
      let kind := kindOfAmCrash event.exceptionClass
      -- the pid of a native crash may be system_server's
      let pid := if kind = .nativeCrash then 0 else event.pid
      { CrashFragment.new .events .structured kind event.processName pid happenedAtMs with
        packageName := some (packageFromProcess event.processName)
        userId := some event.userId
        summaryClass := some event.exceptionClass
        summaryText := nonEmpty event.message
        frames := if event.file.isEmpty then [] else [event.file ++ ':' :: decimal event.line] }
  | .anr event =>
      { CrashFragment.new .events .structured .anr event.processName event.pid happenedAtMs with
        packageName := some (packageFromProcess event.processName)
        userId := some event.userId
        summaryClass := some "ANR".toList
        summaryText := some event.reason }
  | .wtf event =>
      { CrashFragment.new .events .structured .wtf event.processName event.pid happenedAtMs with
        packageName := some (packageFromProcess event.processName)
        userId := some event.userId
        payload := .inline (GroupKey.utf8 (wtfReport event))
        summaryClass := nonEmpty event.tag
        summaryText := nonEmpty event.message }

def applyJavaReport (fragment : CrashFragment) (report : CrashBufferReport) : CrashFragment :=
  { fragment with
    processName := report.processName
    packageName := some (packageFromProcess report.processName)
    pid := report.pid
    summaryClass := some report.exceptionClass
    summaryText := nonEmpty report.exceptionMessage
    frames := report.frames.map JavaFrame.normalized
    payload := .inline (GroupKey.utf8 report.raw) }

def fragmentFromCrash (report : CrashBufferReport) (happenedAtMs : I64) : CrashFragment :=
  applyJavaReport (.new .crashBuffer .text .javaException report.processName report.pid happenedAtMs) report

def maxAnrBytes : Nat := 64 * 1024 * 1024

structure AnrThread where
  name : Str
  tid : Option Int
  state : Option Str
  lines : List Str
deriving DecidableEq

def AnrThread.topFrame (self : AnrThread) : Option Str :=
  (self.lines.map trim).find? fun line => "at ".toList.isPrefixOf line || "native:".toList.isPrefixOf line

structure AnrReport where
  pid : Int
  processName : Str
  timestamp : Option Str
  threads : List AnrThread
  raw : Str
deriving DecidableEq

def AnrReport.packageName (self : AnrReport) : Str := before ':' self.processName

def AnrReport.mainThread (self : AnrReport) : Option AnrThread :=
  self.threads.find? fun thread => thread.name = "main".toList

inductive AnrError where
  | tooLarge (limit : Nat)
  | missingPid
  | missingProcess
  | invalidPid
deriving DecidableEq

def pidHeaderBody (line : Str) : Option Str :=
  (stripPrefix "----- pid ".toList line).or (stripPrefix "----- Waiting Channels: pid ".toList line)

def parsePidHeader (header : Str) : Except AnrError (Int × Option Str) := do
  let body ← orError .missingPid (pidHeaderBody header)
  let (pidText, rest) ← orError .invalidPid (splitOnce ' ' body)
  let pid ← orError .invalidPid (parseI32 pidText)
  let written := (stripPrefix "at ".toList rest).bind (stripSuffix " -----".toList)
  pure (pid, written.bind fun timestamp => nonEmpty (trim timestamp))

def parseThreadHeader (line : Str) : Option AnrThread := do
  let body ← stripPrefix ['"'] (trimStart line)
  let (name, metadata) ← splitOnce '"' body
  let words := splitWhitespace (trim metadata)
  pure {
    name
    tid := (words.findSome? (stripPrefix "tid=".toList)).bind parseI32
    state := words.getLast?
    lines := [] }

/-- `parse_threads` with the thread whose lines are being read. -/
def parseThreads : Option AnrThread → List Str → List AnrThread
  | current, [] => current.toList
  | current, line :: rest => match parseThreadHeader line with
    | some thread => current.toList ++ parseThreads (some thread) rest
    | none => match current with
      | none => parseThreads none rest
      | some thread =>
          if "----- end ".toList.isPrefixOf line then thread :: parseThreads none rest
          else parseThreads (some { thread with lines := thread.lines ++ [line] }) rest

def parseAnr (bytes : List UInt8) : Except AnrError AnrReport :=
  if bytes.length > maxAnrBytes then .error (.tooLarge maxAnrBytes)
  else do
    let raw := replaceCrlf (Utf8.fromUtf8Lossy bytes)
    let header ← orError .missingPid ((lines raw).find? fun line => (pidHeaderBody line).isSome)
    let (pid, timestamp) ← parsePidHeader header
    let processName ← orError .missingProcess
      (((lines raw).findSome? fun line => stripPrefix "Cmd line:".toList (trim line)).bind fun value =>
        nonEmpty (trim value))
    pure { pid, processName, timestamp, threads := parseThreads none (lines raw), raw }

inductive DropboxKind where
  | javaCrash
  | anr
  | nativeCrash
  | nativeRecoverableCrash
  | wtf
  | strictMode
  | lowMemory
  | watchdog
  | unknown
deriving DecidableEq

def DropboxKind.crashKind : DropboxKind → Option CrashKind
  | javaCrash | strictMode => some .javaException
  | anr | lowMemory | watchdog => some .anr
  | nativeCrash | nativeRecoverableCrash => some .nativeCrash
  | wtf => some .wtf
  | unknown => none

structure DropboxEntry where
  happenedAtMs : I64
  kind : DropboxKind
  processName : Option Str
  packageName : Option Str
  pid : Option Int
  uid : Option Int
  foreground : Option Bool
  droppedCount : Option Nat
  body : Str
deriving DecidableEq

def firstNonEmptyLine (text : Str) : Option Str := ((lines text).map trim).find? fun line => !line.isEmpty

def exceptionClass (text : Str) : Option Str :=
  ((lines text).map trim).findSome? fun line =>
    let className := before ':' line
    if className.contains '.' && !"at ".toList.isPrefixOf className then some className else none

def javaLikeFrames (text : Str) : List Str :=
    ((lines text).map trim).filter fun line => "at ".toList.isPrefixOf line

def DropboxEntry.attributed (self : DropboxEntry) (kind : CrashKind) (processName : Str) : CrashFragment :=
  { CrashFragment.new .dropbox .structured kind processName (self.pid.getD 0) self.happenedAtMs with
    packageName := self.packageName
    userId := self.uid.map androidUserId
    isForeground := self.foreground
    droppedCount := self.droppedCount
    payload := .inline (GroupKey.utf8 self.body)
    summaryText := firstNonEmptyLine self.body }

def applyJavaBody (fragment : CrashFragment) (body : Str) : CrashFragment :=
  match parseCrashBuffer body with
  | .ok report => applyJavaReport fragment report
  | .error _ => { fragment with frames := javaLikeFrames body, summaryClass := exceptionClass body }

def applyAnrBody (fragment : CrashFragment) (body : Str) : CrashFragment :=
  let fragment := { fragment with summaryClass := some "ANR".toList, summaryText := none }
  match parseAnr (GroupKey.utf8 body) with
  | .ok report =>
      { fragment with
        processName := report.processName
        packageName := some report.packageName
        pid := report.pid
        frames := (report.mainThread.bind AnrThread.topFrame).toList }
  | .error _ => fragment

def applyNativeBody (fragment : CrashFragment) (body : Str) : CrashFragment :=
  match parseText (GroupKey.utf8 body) with
  | .ok report => applyNativeReport fragment report
  | .error _ => fragment

/-- Nothing for an entry of another kind, or of no app. -/
def dropboxFragment (entry : DropboxEntry) : Option CrashFragment := do
  let kind ← entry.kind.crashKind
  let processName ← entry.processName.or entry.packageName
  let fragment := entry.attributed kind processName
  pure (match kind with
    | .javaException => applyJavaBody fragment entry.body
    | .anr => applyAnrBody fragment entry.body
    | .nativeCrash => applyNativeBody fragment entry.body
    | .wtf => { fragment with frames := javaLikeFrames entry.body })

/-- The fields of a log entry that the collectors read beside its payload. -/
structure LoggerEntry where
  pid : Int
  tid : UInt32
  seconds : UInt32
  nanoseconds : UInt32
deriving DecidableEq

namespace LoggerEntry
variable (self : LoggerEntry)

def atMs : I64 where
  val := self.seconds.toNat * 1000 + self.nanoseconds.toNat / 1000000
  lower := by omega
  upper := by
    have seconds := self.seconds.toNat_lt
    have nanoseconds := self.nanoseconds.toNat_lt
    omega

def logSourceKey (buffer discriminator : Str) : Str :=
  "logd:".toList ++ buffer ++ ':' :: decimal self.seconds.toNat ++ ':' :: decimal self.nanoseconds.toNat ++
    ':' :: decimal self.pid ++ ':' :: decimal self.tid.toNat ++ ':' :: discriminator

end LoggerEntry

def amCrashTag : Int := 30039

def eventsFragment (entry : LoggerEntry) (event : AmCrashEvent) : CrashFragment :=
  { fragmentFromActivity (.crash event) entry.atMs with
    sourceKey := some (entry.logSourceKey "events".toList (decimal amCrashTag)) }

def crashBufferFragment (entry : LoggerEntry) (report : CrashBufferReport) : CrashFragment :=
  { fragmentFromCrash report entry.atMs with
    sourceKey := some (entry.logSourceKey "crash".toList "fatal".toList) }

def dropboxFileFragment (file : FileEntry) (entry : DropboxEntry) : Option CrashFragment :=
  (dropboxFragment entry).map fun fragment =>
    { fragment with sourceKey := some (sourceIdentity .dropbox file).key }

end CrashCatcher.Collect
