import CrashCatcher.Lib.Utf8
import CrashCatcher.Wire.Rpc
import Mathlib.Data.Prod.Lex

namespace CrashCatcher.Daemon
open Lib Lib.Text Wire

def defaultLogBytes : Nat := 128 * 1024
def maxLogBytes : Nat := 512 * 1024
def logFileName : Str := "daemon.log".toList
def stderrFileName : Str := "daemon.stderr.log".toList
def serviceFileName : Str := "service.log".toList
def oldDirectory : Str := "old".toList

structure LogFile where
  name : Str
  content : List UInt8
  modifiedMs : Int

/-- The regular files under `logs/` and under `logs/old/`, as they are listed. -/
structure LogDirectory where
  current : List LogFile
  old : List LogFile

/-- `str::parse::<u32>`, which takes a leading plus sign. -/
def parseU32 (text : Str) : Option Nat :=
  let number := if text.head? = some '+' then text.tail else text
  if number.isEmpty || !number.all Char.isDigit then none
  else
    let value := number.foldl (fun n c => 10 * n + (c.toNat - '0'.toNat)) 0
    if value < 2 ^ 32 then some value else none

def stripPrefix (pre text : Str) : Option Str :=
  if pre.isPrefixOf text then some (text.drop pre.length) else none

/-- This boot before the last one, and within a boot the daemon's own log first. -/
def rank (name : Str) : Lex (Nat × Lex (Nat × Lex (Nat × Str))) :=
  let (boot, file) := match splitOnce '/' name with
    | some (directory, file) => if directory = oldDirectory then (1, file) else (0, name)
    | none => (0, name)
  let (kind, index) :=
    if file = logFileName then (0, 0)
    else if file = stderrFileName then (2, 0)
    else if file = serviceFileName then (3, 0)
    else match (stripPrefix logFileName file).bind fun rest => (stripPrefix ['.'] rest).bind parseU32 with
      | some number => (1, number)
      | none => (4, 0)
  toLex (boot, toLex (kind, toLex (index, file)))

def collect (pre : Str) (files : List LogFile) : List RuntimeLogFile :=
  (files.filter fun file => file.name.head? ≠ some '.').map fun file =>
    { name := pre ++ file.name, bytes := file.content.length, modifiedMs := file.modifiedMs }

namespace LogDirectory

def listFiles (self : LogDirectory) : List RuntimeLogFile :=
  (collect [] self.current ++ collect (oldDirectory ++ ['/']) self.old).mergeSort
    fun a b => rank a.name ≤ rank b.name

def resolve (self : LogDirectory) (name : Str) : Option (List UInt8) :=
  let inside (files : List LogFile) (name : Str) : Option (List UInt8) :=
    (files.find? fun file => file.name = name).map (·.content)
  match splitOnce '/' name with
  | some (directory, file) =>
      if directory = oldDirectory then inside self.old file else inside self.current name
  | none => inside self.current name

end LogDirectory

structure Tail where
  text : Str
  truncated : Bool
  totalBytes : Nat

/-- The last `budget` bytes of a file, decoded, from the first line that starts within them. -/
def readTail (content : Option (List UInt8)) (budget : Nat) : Tail :=
  match content with
  | none => { text := [], truncated := false, totalBytes := 0 }
  | some bytes =>
      let totalBytes := bytes.length
      let truncated := decide (totalBytes > budget)
      let text := Utf8.fromUtf8Lossy (bytes.drop (totalBytes - budget))
      let text := if truncated then ((splitOnce '\n' text).map Prod.snd).getD [] else text
      { text, truncated, totalBytes }

def readRuntimeLog (logs : LogDirectory) (name : Option Str) (maxBytes : Nat) : RuntimeLog :=
  let files := logs.listFiles
  let named := name.bind fun name => files.find? fun file => file.name = name
  match named.or files.head? with
  | none =>
      { name := [], text := "(no logs yet)\n".toList, truncated := false, totalBytes := 0, files }
  | some selected =>
      let budget := max (4 * 1024) (min maxBytes maxLogBytes)
      let tail := readTail (logs.resolve selected.name) budget
      { name := selected.name
        text := if (trim tail.text).isEmpty then "(empty)\n".toList else tail.text
        truncated := tail.truncated
        totalBytes := tail.totalBytes
        files }

end CrashCatcher.Daemon
