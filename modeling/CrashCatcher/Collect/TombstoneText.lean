import CrashCatcher.Collect.Tombstone
import CrashCatcher.Lib.Lines
import CrashCatcher.Lib.Numerals
import CrashCatcher.Lib.Utf8

namespace CrashCatcher.Collect
open Lib Lib.Text

def maxTombstoneBytes : Nat := 67108864

inductive TombstoneError where
  | tooLarge (limit : Nat)
  | missingProcessHeader
  | invalidProcessHeader
deriving DecidableEq

def nonEmpty (v : Str) : Option Str := if v.isEmpty then none else some v

def parseProcessHeader (line : Str) : Except TombstoneError (Int × Int × Option Str × Str) := do
  let parts := (line.splitOn ',').map trim
  let pid ← orError .invalidProcessHeader
    ((parts.findSome? (stripPrefix "pid:".toList)).bind fun v => parseI32 (trim v))
  let tid ← orError .invalidProcessHeader
    ((parts.findSome? (stripPrefix "tid:".toList)).bind fun v => parseI32 (trim v))
  let thread := (parts.findSome? (stripPrefix "name:".toList)).bind fun v => nonEmpty (trim v)
  let process := ((splitOnceStr ">>>".toList line).bind fun parts => splitOnceStr "<<<".toList parts.2).bind
    fun parts => nonEmpty (trim parts.1)
  let process ← orError .missingProcessHeader (process.or thread)
  pure (pid, tid, thread, process)

structure ParsedSignal where
  number : Option Int
  name : Option Str
  code : Option Int
  codeName : Option Str

def between (v : Str) : Option Str := do
  let (_, rest) ← splitOnce '(' v
  let (inside, _) ← splitOnce ')' rest
  pure inside

def parseSignal (line : Str) : ParsedSignal :=
  let t := trim line
  let first := (stripPrefix "signal ".toList t).map (before ',')
  let code := ((t.splitOn ',').map trim).findSome? (stripPrefix "code ".toList)
  { number := first.bind fun v => (splitWhitespace v).head?.bind parseI32
    name := first.bind between
    code := code.bind fun v => (splitWhitespace v).head?.bind parseI32
    codeName := code.bind between }

def trimQuotes (v : Str) : Str := ((stripPrefix ['"'] v).bind (stripSuffix ['"'])).getD v

def readBlock : Option Str → Option Str × Option UInt64
  | none => (none, none)
  | some b =>
      if "BuildId:".toList.isPrefixOf b then (none, none)
      else match rsplitOnce '+' b with
        | none => (nonEmpty (trim b), none)
        | some (n, o) => (nonEmpty (trim n), parseU64 o)

def parseFrame (line : Str) : Option NativeFrame := do
  let rest ← stripPrefix ['#'] (trim line)
  let (_, rest) ← splitOnce ' ' rest
  let after ← stripPrefix "pc ".toList (trim rest)
  let words := splitWhitespace after
  let pc ← words.head?.bind parseHexU64
  let file := words[1]?
  let (function, offset) := readBlock ((splitOnceStr " (".toList after).map fun parts => before ')' parts.2)
  let build := (splitOnceStr "BuildId:".toList after).bind fun parts =>
    nonEmpty (trim (before ')' (beforeStr "BuildId:".toList parts.2)))
  pure {
    relativePc := pc
    functionName := function
    functionOffset := offset
    fileName := file
    buildId := build }

def parseText (bytes : List UInt8) : Except TombstoneError TombstoneReport :=
  if bytes.length > maxTombstoneBytes then .error (.tooLarge maxTombstoneBytes)
  else
    let raw := replaceCrlf (Utf8.fromUtf8Lossy bytes)
    match (lines raw).find? fun l => "pid:".toList.isPrefixOf (trimStart l) with
    | none => .error .missingProcessHeader
    | some header => do
        let (pid, tid, threadName, processName) ← parseProcessHeader header
        let signal := ((lines raw).find? fun l => "signal ".toList.isPrefixOf (trimStart l)).map parseSignal
        let abortMessage := ((lines raw).findSome? fun l => stripPrefix "Abort message:".toList (trim l)).bind
          fun v => nonEmpty (trimQuotes (trim v))
        let cause := ((lines raw).findSome? fun l => stripPrefix "Cause:".toList (trim l)).bind
          fun v => nonEmpty (trim v)
        pure {
          format := .text
          pid, tid
          uid := (lines raw).findSome? fun l =>
            (stripPrefix "uid:".toList (trim l)).bind fun v => parseI32 (trim v)
          processName, threadName
          signalNumber := signal.bind (·.number)
          signalName := signal.bind (·.name)
          signalCode := signal.bind (·.code)
          signalCodeName := signal.bind (·.codeName)
          abortMessage, cause
          frames := (lines raw).filterMap parseFrame
          rawText := some raw }

end CrashCatcher.Collect
