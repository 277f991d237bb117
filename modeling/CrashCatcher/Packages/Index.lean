import CrashCatcher.Daemon.Diagnostics
import CrashCatcher.Lib.Path
import CrashCatcher.Wire.Cursor

namespace CrashCatcher.Packages
open Lib Lib.Text

def androidUidUserRange : Nat := 100000

def androidPathIsAbsolute (path : Str) : Bool := path.head? = some '/'

def looksLikeSystemPath (path : Option Str) : Bool :=
  match path with
  | none => false
  | some path =>
      ["/system/", "/system_ext/", "/product/", "/vendor/", "/odm/", "/oem/", "/apex/"].any fun pre =>
        pre.toList.isPrefixOf path

structure PackageEntry where
  name : Str
  uid : Nat
  debuggable : Bool
  dataDir : Str
  seinfo : Str
  gids : List Nat
  profileableFromShell : Option Bool
  versionCode : Option I64
  codePath : Option Str
  isSystem : Bool

def PackageEntry.baseApkPath (self : PackageEntry) : Option Str :=
  self.codePath.map fun path =>
    if Path.extension path = some "apk".toList then path
    else path.rdropWhile (· = '/') ++ "/base.apk".toList

inductive PackageError where
  | tooFewFields (line : Nat)
  | invalidField (line : Nat) (field : Str)

def field {α : Type} (read : Str → Option α) (v : Str) (line : Nat) (name : String) : Except PackageError α :=
  match read v with
  | some value => .ok value
  | none => .error (.invalidField line name.toList)

def flag (v : Str) (line : Nat) (name : String) : Except PackageError Bool :=
  if v = ['0'] then .ok false
  else if v = ['1'] then .ok true
  else .error (.invalidField line name.toList)

def isAsciiWhitespace (c : Char) : Bool :=
  c = ' ' || c = '\t' || c = '\n' || c.toNat = 0x0C || c = '\r'

def splitAsciiWhitespace (line : Str) : List Str := (line.splitOnP isAsciiWhitespace).filter (· ≠ [])

def parseLine (line : Str) (n : Nat) : Except PackageError PackageEntry :=
  match splitAsciiWhitespace line with
  | name :: uid :: debuggable :: dataDir :: seinfo :: gids :: rest => do
      if name = [] || name.contains '/' then throw (.invalidField n "package name".toList)
      let gids ← if gids = "none".toList then pure []
        else (gids.splitOn ',').mapM fun v => field Daemon.parseU32 v n "gids"
      let uid ← field Daemon.parseU32 uid n "uid"
      let debuggable ← flag debuggable n "debuggable"
      let profileableFromShell ← rest[0]?.mapM fun v => flag v n "profileable_from_shell"
      let versionCode ← rest[1]?.mapM fun v => field I64.parse v n "version_code"
      return {
        name, uid, debuggable, dataDir, seinfo, gids, profileableFromShell, versionCode
        codePath := none
        isSystem := false }
  | _ => .error (.tooFewFields n)

/-- The entries, and where those of a uid stand. -/
structure PackageIndex where
  entries : List PackageEntry
  positions : Nat → List Nat
  byName : Str → Option Nat
  systemFlagsKnown : Bool
  indexed : ∀ uid, positions uid = (entries.zipIdx.filter fun entry => entry.1.uid = uid).map Prod.snd

namespace PackageIndex

def empty : PackageIndex where
  entries := []
  positions := fun _ => []
  byName := fun _ => none
  systemFlagsKnown := false
  indexed _ := rfl

def push (self : PackageIndex) (entry : PackageEntry) : PackageIndex where
  entries := self.entries ++ [entry]
  positions := Function.update self.positions entry.uid (self.positions entry.uid ++ [self.entries.length])
  byName := Function.update self.byName entry.name (some self.entries.length)
  systemFlagsKnown := self.systemFlagsKnown
  indexed uid := by
    rw [List.zipIdx_append, List.filter_append, List.map_append, ← self.indexed]
    by_cases same : uid = entry.uid
    · simp [same]
    · simp [Function.update_of_ne same, Ne.symm same]

def readEntries (codePaths : Str → Option Str) (systemPackages : List Str) :
    List (Str × Nat) → Except PackageError (List PackageEntry)
  | [] => .ok []
  | (line, i) :: lines =>
      let line := trim line
      if line = [] then readEntries codePaths systemPackages lines
      else do
        let entry ← parseLine line (i + 1)
        let codePath := codePaths entry.name
        let isSystem := if systemPackages.isEmpty then looksLikeSystemPath codePath
          else systemPackages.contains entry.name
        return { entry with codePath, isSystem } :: (← readEntries codePaths systemPackages lines)

/-- A line's end, and an empty text after the last one, are blank and make no entry. -/
def build (list : Str) (codePaths : Str → Option Str) (systemPackages : List Str) :
    Except PackageError PackageIndex := do
  let entries ← readEntries codePaths systemPackages (list.splitOn '\n').zipIdx
  return entries.foldl push { empty with systemFlagsKnown := !systemPackages.isEmpty }

def byUid (self : PackageIndex) (uid : Nat) : List PackageEntry :=
  (self.positions uid).filterMap fun i => self.entries[i]?

theorem byUid_eq (self : PackageIndex) (uid : Nat) :
    self.byUid uid = self.entries.filter fun entry => entry.uid = uid := by
  let own := self.entries.zipIdx.filter fun entry => entry.1.uid = uid
  have found : ∀ entry ∈ own, self.entries[entry.2]? = some entry.1 := fun entry member =>
    List.mem_zipIdx_iff_getElem?.mp (List.mem_filter.mp member).1
  calc
    self.byUid uid = own.filterMap fun entry => self.entries[entry.2]? := by
      rw [byUid, self.indexed, List.filterMap_map]
      rfl
    _ = own.filterMap fun entry => some entry.1 := List.filterMap_congr found
    _ = own.map Prod.fst := by rw [List.filterMap_eq_map']
    _ = self.entries.filter fun entry => entry.uid = uid := by
      conv_rhs => rw [← List.zipIdx_map_fst 0 self.entries, List.filter_map]
      rfl

end PackageIndex
end CrashCatcher.Packages
