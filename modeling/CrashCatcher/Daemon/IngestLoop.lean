import CrashCatcher.Merge.Run
import CrashCatcher.Wire.Status

namespace CrashCatcher.Daemon
open Lib Lib.Text Model Merge Wire

def collectorFromMask (mask : SourceMask) : CollectorSource :=
  if mask.contains .events then .events
  else if mask.contains .crashBuffer then .crashBuffer
  else if mask.contains .dropbox then .dropbox
  else if mask.contains .tombstone then .tombstone
  else .anrFile

abbrev PendingSourceConfirmation := Option CollectorSource × Str

inductive CoreCall where
  | markCollectorReceived (source : CollectorSource) (atMs : I64)
  | markCollectorError (source : CollectorSource)
  | ingestWithSources (record : CrashRecord) (sourceKeys : List Str) (stored : Bool)
  | markSourceIngested (key : Str) (marked : Bool)

abbrev Outcome := List CoreCall → Bool

def CoreCall.acknowledges : CoreCall → List Str
  | ingestWithSources _ sourceKeys true => sourceKeys
  | markSourceIngested key true => [key]
  | _ => []

def reportError (source : Option CollectorSource) : List CoreCall :=
  source.toList.map .markCollectorError

def markSourceKeys (outcome : Outcome) : List PendingSourceConfirmation → List CoreCall →
    List PendingSourceConfirmation × List CoreCall
  | [], calls => ([], calls)
  | (source, key) :: rest, calls =>
    let marked := outcome calls
    let calls := calls ++ [.markSourceIngested key marked]
    if marked then markSourceKeys outcome rest calls
    else
      let (failed, calls) := markSourceKeys outcome rest (calls ++ reportError source)
      ((source, key) :: failed, calls)

structure IngestLoop where
  merger : CrashMerger
  pendingConfirmations : List PendingSourceConfirmation
  calls : List CoreCall

namespace IngestLoop

def new : IngestLoop := ⟨.default, [], []⟩

def persist (outcome : Outcome) (source : Option CollectorSource) (self : IngestLoop)
    (merged : MergedCrash) : IngestLoop :=
  let stored := outcome self.calls
  let calls := self.calls ++ [.ingestWithSources merged.record merged.sourceKeys stored]
  if stored then
    { self with merger := self.merger.confirmPersisted merged.completionId, calls := calls }
  else
    { self with
      merger := self.merger.rejectCompletion merged.completionId
      calls := calls ++ reportError source }

def confirmSuppressed (outcome : Outcome) (source : Option CollectorSource) (self : IngestLoop) :
    IngestLoop :=
  let (keys, merger) := self.merger.takeConfirmedSuppressedSourceKeys
  let waiting := self.pendingConfirmations ++ keys.map fun key => (source, key)
  let (failed, calls) := markSourceKeys outcome waiting self.calls
  ⟨merger, failed, calls⟩

def persistCompleted (outcome : Outcome) (source : Option CollectorSource)
    (completed : List MergedCrash) (self : IngestLoop) : IngestLoop :=
  (completed.foldl (persist outcome source) self).confirmSuppressed outcome source

def round (outcome : Outcome) (self : IngestLoop) : Input → IngestLoop
  | .ingest f =>
    let source := collectorFromMask f.source
    let calls := self.calls ++ [.markCollectorReceived source f.happenedAtMs]
    let (completed, merger) := self.merger.ingest f
    persistCompleted outcome (some source) completed { self with merger := merger, calls := calls }
  | .flush nowMs =>
    let (completed, merger) := self.merger.flushBefore nowMs
    persistCompleted outcome none completed { self with merger := merger }

def finish (outcome : Outcome) (self : IngestLoop) : IngestLoop :=
  let (completed, merger) := self.merger.drain
  persistCompleted outcome none completed { self with merger := merger }

def run (outcome : Outcome) (inputs : List Input) : IngestLoop :=
  inputs.foldl (round outcome) new

end IngestLoop
end CrashCatcher.Daemon
