import CrashCatcher.Lib.Int64
import CrashCatcher.Model.Kind

namespace CrashCatcher.Wire
open Lib Model

inductive ErrorCode where
  | invalidRequest
  | malformedFrame
  | unauthorized
  | notFound
  | payloadTooLarge
  | unavailable
  | versionMismatch
  | cursorInvalidated
  | internal
deriving DecidableEq

structure WireError where
  code : ErrorCode
  message : Str
deriving DecidableEq

namespace WireError

def invalidRequest (message : Str) : WireError := { code := .invalidRequest, message }
def cursorInvalidated (message : Str) : WireError := { code := .cursorInvalidated, message }

end WireError

def defaultPageLimit : Nat := 50
def maxPageLimit : Nat := 200

def decimal (n : Int) : Str := (toString n).toList

structure CrashFilter where
  packages : List Str := []
  kinds : List CrashKind := []
  userIds : List Int := []
  timeFromMs : Option I64 := none
  timeToMs : Option I64 := none
  includeSystemApps : Bool := false
  includeSystemProcesses : Bool := false
  onlyMainProcess : Bool := false
  onlySelfHandled : Bool := false
  query : Option Str := none

def CrashFilter.validate (filter : CrashFilter) : Except WireError Unit :=
  match filter.timeFromMs, filter.timeToMs with
  | some lower, some upper =>
      if lower > upper then
        .error (.invalidRequest ("time_from_ms (".toList ++ decimal lower.val ++
          ") is after time_to_ms (".toList ++ decimal upper.val ++ ")".toList))
      else .ok ()
  | _, _ => .ok ()

inductive SortKey where
  | lastSeenDesc
  | firstSeenDesc
  | occurrenceDesc
  | packageAsc
deriving DecidableEq

namespace SortKey

def anchorIsText (sort : SortKey) : Bool := sort == packageAsc

def isDescending : SortKey → Bool
  | lastSeenDesc | firstSeenDesc | occurrenceDesc => true
  | packageAsc => false

def debug : SortKey → Str
  | lastSeenDesc => "LastSeenDesc".toList
  | firstSeenDesc => "FirstSeenDesc".toList
  | occurrenceDesc => "OccurrenceDesc".toList
  | packageAsc => "PackageAsc".toList

end SortKey

inductive CursorAnchor where
  | int (value : Int)
  | text (value : Str)
deriving DecidableEq

structure Cursor where
  sort : SortKey
  anchor : CursorAnchor
  tiebreak : Str
deriving DecidableEq

def Cursor.validateFor (cursor : Cursor) (sort : SortKey) : Except WireError Unit :=
  if cursor.sort ≠ sort then
    .error (.cursorInvalidated ("cursor was issued for ".toList ++ cursor.sort.debug ++
      " but the request sorts by ".toList ++ sort.debug))
  else
    let matchesType := match cursor.anchor with
      | .text _ => sort.anchorIsText
      | .int _ => !sort.anchorIsText
    if matchesType then .ok ()
    else .error (.cursorInvalidated "cursor anchor type does not match the sort column".toList)

structure PageRequest where
  filter : CrashFilter := {}
  sort : SortKey := .lastSeenDesc
  cursor : Option Cursor := none
  limit : Nat := 0

namespace PageRequest

def effectiveLimit (request : PageRequest) : Nat :=
  if request.limit = 0 then defaultPageLimit
  else if request.limit > maxPageLimit then maxPageLimit
  else request.limit

def validate (request : PageRequest) : Except WireError Unit := do
  request.filter.validate
  match request.cursor with
  | some cursor => cursor.validateFor request.sort
  | none => pure ()

theorem effectiveLimit_pos (request : PageRequest) : 0 < request.effectiveLimit := by
  unfold effectiveLimit
  split
  · decide
  · split
    · decide
    · omega

end PageRequest

structure Page (α : Type) where
  items : List α
  nextCursor : Option Cursor

end CrashCatcher.Wire
