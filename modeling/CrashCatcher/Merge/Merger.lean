import CrashCatcher.Lib.SwapRemove
import CrashCatcher.Merge.Pending
import Mathlib.Data.List.MinMax
import Mathlib.Data.List.Sort

namespace CrashCatcher.Merge
open Lib Lib.Text Model

/-- A completed record, remembered for the rest of its window so that late evidence about the same
crash does not become a second one. -/
structure Recent where
  completionId : UInt64
  persisted : Bool
  kind : CrashKind
  process : Str
  user : Option Int
  pid : Int
  firstMs : I64
  sources : SourceMask
  anrFile : Option Str
deriving DecidableEq

namespace Recent

def fromPending (completionId : UInt64) (pending : Pending) : Recent where
  completionId := completionId
  persisted := false
  kind := pending.kind.value
  process := pending.process
  user := pending.userValue
  pid := pending.pid
  firstMs := pending.firstMs
  sources := pending.sources
  anrFile := pending.anrFile

def matchesFragment (self : Recent) (f : CrashFragment) (sourceSkewMs mergeWindowMs : I64) : Bool :=
  let repeated := Pending.repeatedAnrFile self.kind self.sources self.anrFile f
  let trailing := self.kind = .anr && self.sources.contains .anrFile && f.source = .dropbox
  let allowedSkewMs := if repeated || trailing then mergeWindowMs else sourceSkewMs
  !(self.sources.contains f.source && !repeated) &&
    occurrenceIdentityMatches self.pid self.user f.pid f.userId &&
    self.process = f.processName && self.kind = f.kind &&
    self.firstMs.absDiff f.happenedAtMs ≤ Pending.skewLimit allowedSkewMs

end Recent

structure CrashMerger where
  windowMs : I64
  pending : List Pending
  recent : List Recent
  suppressedSourceKeys : List (UInt64 × Str)
  nextCompletionId : UInt64
deriving DecidableEq

namespace CrashMerger

def new (windowMs : I64) : CrashMerger where
  windowMs := windowMs
  pending := []
  recent := []
  suppressedSourceKeys := []
  nextCompletionId := 1

def default : CrashMerger := new defaultMergeWindowMs

def sortByTime (merged : List MergedCrash) : List MergedCrash :=
  merged.insertionSort fun a b => a.record.happenedAtMs ≤ b.record.happenedAtMs

def sourceSkewMs (self : CrashMerger) : I64 := max 0 (min self.windowMs maxSourceSkewMs)

def allocateCompletionId (self : CrashMerger) : UInt64 × CrashMerger :=
  (self.nextCompletionId, { self with nextCompletionId := self.nextCompletionId + 1 })

def finishPending (self : CrashMerger) (index : Nat) (pending : Pending) :
    MergedCrash × CrashMerger :=
  let self := { self with pending := swapRemove self.pending index }
  let (completionId, self) := self.allocateCompletionId
  let self := { self with recent := self.recent ++ [.fromPending completionId pending] }
  (pending.finish completionId, self)

def isDue (self : CrashMerger) (watermarkMs : I64) (pending : Pending) : Bool :=
  pending.lastMs.saturatingAdd (pending.completionDelayMs self.windowMs) < watermarkMs

/-- The loop of `flushBefore`. A round removes an occurrence or advances `i`, so `remaining` starts
as the number of pending occurrences. -/
def flushFrom (watermarkMs : I64) : Nat → Nat → CrashMerger → List MergedCrash × CrashMerger
  | 0, _, self => ([], self)
  | remaining + 1, i, self =>
    match self.pending[i]? with
    | none => ([], self)
    | some pending =>
      if self.isDue watermarkMs pending then
        let (merged, self) := self.finishPending i pending
        let (out, self) := flushFrom watermarkMs remaining i self
        (merged :: out, self)
      else flushFrom watermarkMs remaining (i + 1) self

def expireRecent (self : CrashMerger) (watermarkMs : I64) : CrashMerger :=
  { self with recent := self.recent.filter fun recent =>
      watermarkMs ≤ recent.firstMs.saturatingAdd self.windowMs }

def flushBefore (self : CrashMerger) (watermarkMs : I64) : List MergedCrash × CrashMerger :=
  let self := self.expireRecent watermarkMs
  let (out, self) := flushFrom watermarkMs self.pending.length 0 self
  (sortByTime out, self)

def holdsSourceKey (self : CrashMerger) (f : CrashFragment) : Bool :=
  match f.sourceKey with
  | none => false
  | some key => self.pending.any fun pending => pending.sourceKeys.contains key

def pendingMatch (self : CrashMerger) (f : CrashFragment) : Option (Pending × Nat) :=
  (self.pending.zipIdx.filter fun entry =>
    entry.1.matchesFragment f self.sourceSkewMs self.windowMs).argmin fun entry =>
      entry.1.firstMs.absDiff f.happenedAtMs

def recentMatch (self : CrashMerger) (f : CrashFragment) : Option Recent :=
  (self.recent.filter fun recent =>
    recent.matchesFragment f self.sourceSkewMs self.windowMs).argmin fun recent =>
      recent.firstMs.absDiff f.happenedAtMs

def suppress (self : CrashMerger) (completionId : UInt64) (f : CrashFragment) : CrashMerger :=
  { self with suppressedSourceKeys :=
      self.suppressedSourceKeys ++ f.sourceKey.toList.map fun key => (completionId, key) }

/-- Completes the occurrence that `ingest` has just created or extended, if it need not wait. -/
def finishSettled (self : CrashMerger) (completed : List MergedCrash) (index : Nat)
    (pending : Pending) : List MergedCrash × CrashMerger :=
  if pending.completionDelayMs self.windowMs = 0 then
    let (merged, self) := self.finishPending index pending
    (sortByTime (completed ++ [merged]), self)
  else (completed, self)

def receive (self : CrashMerger) (completed : List MergedCrash) (f : CrashFragment) :
    List MergedCrash × CrashMerger :=
  if self.holdsSourceKey f then (completed, self)
  else match self.pendingMatch f with
  | some (pending, index) =>
    let merged := pending.merge f
    let extended := { self with pending := self.pending.set index merged }
    extended.finishSettled completed index merged
  | none => match self.recentMatch f with
    | some recent => (completed, self.suppress recent.completionId f)
    | none =>
      let opened := { self with pending := self.pending ++ [Pending.new f] }
      opened.finishSettled completed self.pending.length (Pending.new f)

def ingest (self : CrashMerger) (f : CrashFragment) : List MergedCrash × CrashMerger :=
  let (completed, self) := self.flushBefore f.happenedAtMs
  self.receive completed f

def drainFrom : List Pending → CrashMerger → List MergedCrash × CrashMerger
  | [], self => ([], self)
  | pending :: rest, self =>
    let (completionId, self) := self.allocateCompletionId
    let (out, self) := drainFrom rest self
    (pending.finish completionId :: out, self)

def drain (self : CrashMerger) : List MergedCrash × CrashMerger :=
  let (out, self) := drainFrom self.pending { self with pending := [] }
  (sortByTime out, self)

def markPersisted (completionId : UInt64) : List Recent → List Recent
  | [] => []
  | recent :: rest =>
    if recent.completionId = completionId then { recent with persisted := true } :: rest
    else recent :: markPersisted completionId rest

def confirmPersisted (self : CrashMerger) (completionId : UInt64) : CrashMerger :=
  { self with recent := markPersisted completionId self.recent }

def rejectCompletion (self : CrashMerger) (completionId : UInt64) : CrashMerger :=
  { self with
    recent := self.recent.filter fun recent => recent.completionId ≠ completionId
    suppressedSourceKeys := self.suppressedSourceKeys.filter fun entry => entry.1 ≠ completionId }

def isConfirmed (self : CrashMerger) (completionId : UInt64) : Bool :=
  self.recent.any fun recent => recent.completionId = completionId && recent.persisted

def takeConfirmedSuppressedSourceKeys (self : CrashMerger) : List Str × CrashMerger :=
  let (confirmed, waiting) :=
    self.suppressedSourceKeys.partition fun entry => self.isConfirmed entry.1
  (confirmed.map Prod.snd, { self with suppressedSourceKeys := waiting })

end CrashMerger
end CrashCatcher.Merge
