import CrashCatcher.Collect.LogReader
import CrashCatcher.Daemon.KeyAccounting
import CrashCatcher.Store.Ceilings

/-! The two log loops, the ingest loop they send to, and the keys that outlive their process. -/

namespace CrashCatcher.Daemon
open Lib Lib.Text Model Merge Wire Collect Store

def logHistoryGraceMs : I64 := I64.clamp 10000

def logMigrationKey : LogBuffer → Str
  | .events => "marker:events:durable-source-keys:v1".toList
  | .crash => "marker:crash:durable-source-keys:v1".toList

/-- What earlier builds wrote, where retention finds it. -/
def logMigrationKeyLegacy : LogBuffer → Str
  | .events => "logd:events:durable-source-keys:v1".toList
  | .crash => "logd:crash:durable-source-keys:v1".toList

def hasSource (db : Database) (key : Str) : Bool := (db.sources.find? key).isSome

/-- `confirm_processed_log_source`: a call that fails only leaves its error behind. -/
def confirmSource (done : Bool) (nowMs : I64) (key : Str) (db : Database) : Database :=
  if done then db.insertSource { sourceKey := key, ingestedAtMs := nowMs } else db

structure StartAnswers where
  marker : Bool
  legacy : Bool
  stamp : Bool

structure EntryAnswers where
  stamp : Bool
  lookUp : Bool
  confirm : Bool
  clear : Bool
  send : Bool

structure LogReplayMigration where
  cutoffMs : I64
  marker : Str
  active : Bool

namespace LogReplayMigration

def new (answers : StartAnswers) (nowMs : I64) (buffer : LogBuffer) (db : Database) :
    LogReplayMigration × Database :=
  let replay (active : Bool) : LogReplayMigration :=
    ⟨nowMs.saturatingSub logHistoryGraceMs, logMigrationKey buffer, active⟩
  if answers.marker && hasSource db (logMigrationKey buffer) then (replay false, db)
  else if answers.legacy && hasSource db (logMigrationKeyLegacy buffer) then
    (replay false, confirmSource answers.stamp nowMs (logMigrationKey buffer) db)
  else (replay true, db)

def isHistorical (stamp : Bool) (nowMs happenedAtMs : I64) (db : Database) (self : LogReplayMigration) :
    Bool × LogReplayMigration × Database :=
  if self.active = false then (false, self, db)
  else if happenedAtMs < self.cutoffMs then (true, self, db)
  else (false, { self with active := false }, confirmSource stamp nowMs self.marker db)

end LogReplayMigration

def logSourceSeen (lookUp : Bool) (db : Database) (seen : List Str) (sourceKey : Str) : Bool × List Str :=
  if seen.contains sourceKey then (true, seen) else (lookUp && hasSource db sourceKey, sourceKey :: seen)

inductive Happening where
  | noticed (key : Str)
  | misread (key : Str)
  | found (key : Str)
  | historical (key : Str)
  | sent (key : Str)
  | hungUp (key : Str)
  | forgotten (key : Str)
  | expired (key : Str)
deriving DecidableEq

structure LogLoop where
  replay : LogReplayMigration
  seen : List Str
  running : Bool

structure LogTurn where
  loop : LogLoop
  db : Database
  sent : List CrashFragment
  happenings : List Happening

namespace LogLoop

def handleNew (answers : EntryAnswers) (nowMs : I64) (historical : Bool) (key : Str) (notice : Notice)
    (db : Database) (self : LogLoop) : LogTurn :=
  match notice with
  | .screen _ =>
      -- with the mutes still in place the key is not confirmed
      ⟨self, confirmSource (answers.confirm && (historical || answers.clear)) nowMs key db, [], []⟩
  | .crash fragment =>
      if historical then ⟨self, confirmSource answers.confirm nowMs key db, [], [.historical key]⟩
      else if answers.send then ⟨self, db, [fragment], [.sent key]⟩
      else ⟨{ self with running := false }, db, [], [.hungUp key]⟩

def lookedUp (answers : EntryAnswers) (db : Database) (seen : List Str) (key : Str) : List Happening :=
  if seen.contains key then []
  else if answers.lookUp = false then [.misread key]
  else if hasSource db key then [.found key]
  else []

def noticed (key : Str) : Notice → List Happening
  | .screen _ => []
  | .crash _ => [.noticed key]

def handle (target : Target) (buffer : LogBuffer) (answers : EntryAnswers) (nowMs : I64)
    (entry : Logd.LoggerEntry) (db : Database) (self : LogLoop) : LogTurn :=
  let (historical, replay, db) := self.replay.isHistorical answers.stamp nowMs entry.header.atMs db
  match buffer.notice target entry with
  | none => ⟨{ self with replay }, db, [], []⟩
  | some (key, notice) =>
      let told := noticed key notice ++ lookedUp answers db self.seen key
      let (known, seen) := logSourceSeen answers.lookUp db self.seen key
      if known then ⟨{ self with replay, seen }, db, [], told⟩
      else
        let turn := handleNew answers nowMs historical key notice db { self with replay, seen }
        { turn with happenings := told ++ turn.happenings }

end LogLoop

structure CollectorRuntime where
  loops : LogBuffer → LogLoop
  channel : List CrashFragment
  received : List CrashFragment
  ingest : IngestLoop
  history : List Happening

structure CollectorWorld where
  db : Database
  runtime : Option CollectorRuntime
  past : List Happening

inductive CollectorAction where
  | start (answers : LogBuffer → StartAnswers) (nowMs : I64)
  | entry (buffer : LogBuffer) (entry : Logd.LoggerEntry) (answers : EntryAnswers) (nowMs : I64)
  | file (kind : Watch.WatchKind) (file : Watch.FileEntry) (fragment : CrashFragment)
  | round (outcome : Outcome) (nowMs : I64)
  | sweep (nowMs artifactCutoffMs : I64)
  | stop (outcome : Outcome) (nowMs : I64)
  | kill

def confirmSources (keys : List Str) (nowMs : I64) (db : Database) : Database :=
  keys.foldl (fun db key => db.insertSource { sourceKey := key, ingestedAtMs := nowMs }) db

namespace CollectorRuntime

def startLoop (answers : StartAnswers) (nowMs : I64) (buffer : LogBuffer) (db : Database) :
    LogLoop × Database :=
  let (replay, db) := LogReplayMigration.new answers nowMs buffer db
  (⟨replay, [], true⟩, db)

def start (answers : LogBuffer → StartAnswers) (nowMs : I64) (db : Database) : CollectorRuntime × Database :=
  let (events, db) := startLoop (answers .events) nowMs .events db
  let (crash, db) := startLoop (answers .crash) nowMs .crash db
  let loops : LogBuffer → LogLoop
    | .events => events
    | .crash => crash
  (⟨loops, [], [], .new, []⟩, db)

def entry (target : Target) (buffer : LogBuffer) (entry : Logd.LoggerEntry) (answers : EntryAnswers)
    (nowMs : I64) (db : Database) (self : CollectorRuntime) : CollectorRuntime × Database :=
  if (self.loops buffer).running = false then (self, db)
  else
    let turn := (self.loops buffer).handle target buffer answers nowMs entry db
    ({ self with
        loops := fun other => if other = buffer then turn.loop else self.loops other
        channel := self.channel ++ turn.sent
        history := self.history ++ turn.happenings }, turn.db)

def confirmedSince (n : Nat) (calls : List CoreCall) : List Str := TracedLoop.acknowledged (calls.drop n)

def round (outcome : Outcome) (nowMs : I64) (db : Database) (self : CollectorRuntime) :
    CollectorRuntime × Database :=
  match self.channel with
  | [] =>
      let ingest := self.ingest.round outcome (.flush nowMs)
      ({ self with ingest },
        confirmSources (confirmedSince self.ingest.calls.length ingest.calls) nowMs db)
  | fragment :: channel =>
      let ingest := self.ingest.round outcome (.ingest fragment)
      ({ self with channel, ingest, received := self.received ++ [fragment] },
        confirmSources (confirmedSince self.ingest.calls.length ingest.calls) nowMs db)

def unsaved (db : Database) (self : CollectorRuntime) : List Str :=
  ((self.loops .events).seen ++ (self.loops .crash).seen).filter fun key => !hasSource db key

end CollectorRuntime

namespace CollectorWorld

def new (db : Database) : CollectorWorld := ⟨db, none, []⟩

def history (self : CollectorWorld) : List Happening :=
  self.past ++ (self.runtime.map CollectorRuntime.history).getD []

def ended (db : Database) (runtime : CollectorRuntime) (past : List Happening) : CollectorWorld :=
  ⟨db, none, past ++ runtime.history ++ (runtime.unsaved db).map .forgotten⟩

def step (target : Target) (self : CollectorWorld) : CollectorAction → CollectorWorld
  | .start answers nowMs => match self.runtime with
    | some _ => self
    | none =>
        let (runtime, db) := CollectorRuntime.start answers nowMs self.db
        { self with runtime := some runtime, db }
  | .entry buffer entry answers nowMs => match self.runtime with
    | none => self
    | some runtime =>
        let (runtime, db) := runtime.entry target buffer entry answers nowMs self.db
        { self with runtime := some runtime, db }
  | .file kind file fragment => match self.runtime with
    | none => self
    | some runtime =>
        let fragment := { fragment with sourceKey := some (Watch.sourceIdentity kind file).key }
        { self with runtime := some { runtime with channel := runtime.channel ++ [fragment] } }
  | .round outcome nowMs => match self.runtime with
    | none => self
    | some runtime =>
        let (runtime, db) := runtime.round outcome nowMs self.db
        { self with runtime := some runtime, db }
  | .sweep nowMs artifactCutoffMs =>
      let gone := Outlived nowMs artifactCutoffMs
      { self with
        db := { self.db with sources := self.db.sources.delete gone }
        past := self.past ++ (self.db.sources.rows.filter gone).map fun row => .expired row.sourceKey }
  | .stop outcome nowMs => match self.runtime with
    | none => self
    | some runtime =>
        let ingest := runtime.ingest.finish outcome
        ended (confirmSources (CollectorRuntime.confirmedSince runtime.ingest.calls.length ingest.calls) nowMs
          self.db) runtime self.past
  | .kill => match self.runtime with
    | none => self
    | some runtime => ended self.db runtime self.past

def run (target : Target) (actions : List CollectorAction) (self : CollectorWorld) : CollectorWorld :=
  actions.foldl (step target) self

end CollectorWorld
end CrashCatcher.Daemon
