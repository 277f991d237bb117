import CrashCatcher.Bridge.Steps

namespace CrashCatcher.Bridge
open Lib Lib.Run Model Wire Store Daemon

structure IntentSpec where
  action : Str
  packageName : Option Str
  component : Option Str
  /-- In the order of their keys. -/
  extras : List (Str × Str)

inductive BridgeCommand where
  | postNotification (requestId : UInt64) (notification : NotificationSpec)
  | cancelNotification (requestId : UInt64) (recordId : RecordId)
  | queryPackageInfo (requestId : UInt64) (packageName : Str) (userId : Int)
  | startActivity (requestId : UInt64) (intent : IntentSpec) (userId : Int)

def bridgeActionName : BridgeAction → Str
  | .openDetails => "open_details".toList
  | .reopenApp => "reopen_app".toList
  | .muteUntilUnlock => "mute_until_unlock".toList

def notificationActionJson (action : NotificationAction) : Json :=
  .obj [("title".toList, .str action.title), ("action".toList, .str (bridgeActionName action.action))]

def notificationJson (notification : NotificationSpec) : Json :=
  .obj [("record_id".toList, .str notification.recordId.text),
    ("package_name".toList, .str notification.packageName),
    ("user_id".toList, .num notification.userId), ("title".toList, .str notification.title),
    ("body".toList, .str notification.body),
      ("actions".toList, .arr (notification.actions.map notificationActionJson))]

def IntentSpec.toJson (self : IntentSpec) : Json :=
  .obj [("action".toList, .str self.action), ("package_name".toList, Json.optional .str self.packageName),
    ("component".toList, Json.optional .str self.component),
    ("extras".toList, .obj (self.extras.map fun extra => (extra.1, .str extra.2)))]

namespace BridgeCommand

def toJson : BridgeCommand → Json
  | postNotification requestId notification =>
      .obj [("type".toList, .str "post_notification".toList), ("request_id".toList, .num requestId.toNat),
        ("notification".toList, notificationJson notification)]
  | cancelNotification requestId recordId =>
      .obj [("type".toList, .str "cancel_notification".toList), ("request_id".toList, .num requestId.toNat),
        ("record_id".toList, .str recordId.text)]
  | queryPackageInfo requestId packageName userId =>
      .obj [("type".toList, .str "query_package_info".toList), ("request_id".toList, .num requestId.toNat),
        ("package_name".toList, .str packageName), ("user_id".toList, .num userId)]
  | startActivity requestId intent userId =>
      .obj [("type".toList, .str "start_activity".toList), ("request_id".toList, .num requestId.toNat),
        ("intent".toList, intent.toJson), ("user_id".toList, .num userId)]

def frame (self : BridgeCommand) : Except WireError (List UInt8) := encodeFrame (toVec self.toJson)

end BridgeCommand

def alertNotification (record : CrashRecord) (inserted : Inserted) : NotificationSpec where
  recordId := inserted.record.id
  packageName := record.packageName
  userId := record.userId
  title := record.packageName ++ " 已崩溃".toList
  body := alertBody record
  actions := [
    { title := "查看详情".toList, action := .openDetails },
    { title := "重新打开".toList, action := .reopenApp },
    { title := "静音".toList, action := .muteUntilUnlock }]

inductive Ask where
  | alert (record : CrashRecord) (inserted : Inserted)
  | cancelNotification (recordId : RecordId)
  | queryPackage (packageName : Str) (userId : Int)
  | startActivity (intent : IntentSpec) (userId : Int)

def Ask.command (requestId : UInt64) : Ask → BridgeCommand
  | alert record inserted => .postNotification requestId (alertNotification record inserted)
  | cancelNotification recordId => .cancelNotification requestId recordId
  | queryPackage packageName userId => .queryPackageInfo requestId packageName userId
  | startActivity intent userId => .startActivity requestId intent userId

/-- One connection of the bridge: the broker, what its requests ask for, and the thread that writes. -/
structure BridgeSession where
  broker : BridgeBroker
  asks : List Ask := []
  queue : List BridgeCommand := []
  hand : Option BridgeCommand := none
  written : List BridgeCommand := []
  reading : Bool := true
  /-- The commands that requests tried to send, in their order: a record of the run only. -/
  demanded : List BridgeCommand := []

inductive SessionAction where
  | ask (ask : Ask)
  | request (call : Nat)
  | timeOut (call : Nat)
  | event (event : BridgeEvent)
  | deliver (position : Nat)
  | receive
  | write
  /-- The socket ends, and the reading thread takes the next step of its detaching. -/
  | disconnect

namespace BridgeSession

def attached (hello : BridgeHello) : BridgeSession where
  broker := BridgeBroker.new.attach.handleEvent (.hello hello)

variable (self : BridgeSession)

def running : Bool := !self.broker.closed 0

def sends (n : Nat) : Option BridgeCommand :=
  match self.broker.calls[n]?, self.asks[n]?, self.broker.commandSender with
  | some { requestId, stage := .registered, .. }, some ask, some _ => some (ask.command requestId)
  | _, _, _ => none

def request (n : Nat) : BridgeSession :=
  { self with
    broker := self.broker.step (.request n)
    queue := if self.running then self.queue ++ (self.sends n).toList else self.queue
    demanded := self.demanded ++ (self.sends n).toList }

def receive : BridgeSession :=
  match self.running, self.hand, self.queue with
  | true, none, command :: rest => { self with hand := some command, queue := rest }
  | _, _, _ => self

/-- A command that cannot be framed ends the writing thread, and the commands in the channel with it. -/
def write : BridgeSession :=
  match self.hand with
  | none => self
  | some command => match command.frame with
    | .ok _ => { self with hand := none, written := self.written ++ [command] }
    | .error _ => { self with broker := self.broker.step (.closeChannel 0), hand := none, queue := [] }

def step : SessionAction → BridgeSession
  | .ask ask => { self with broker := self.broker.step .nextId, asks := self.asks ++ [ask] }
  | .request n => self.request n
  | .timeOut n => { self with broker := self.broker.step (.timeOut n) }
  | .event event =>
      if self.reading then { self with broker := self.broker.step (.handleEvent event) } else self
  | .deliver position => { self with broker := self.broker.step (.deliver position) }
  | .receive => self.receive
  | .write => self.write
  | .disconnect => { self with broker := self.broker.step (.detach 0), reading := false }

def drain : BridgeSession := (fun s => s.receive.write)^[self.queue.length] self.write

def Commandable : Prop :=
  self.broker.connected = true → self.running = true ∧
    ∀ command ∈ self.demanded, FitsFrame (toVec command.toJson) → command ∈ self.drain.written

def Framed : SessionAction → Prop
  | .ask ask => FitsFrame (toVec (ask.command self.broker.nextRequestId).toJson)
  | _ => True

end BridgeSession

namespace BridgeBroker
variable {s : BridgeBroker}

theorem handle_closed (s : BridgeBroker) (event : BridgeEvent) : (s.handleEvent event).closed = s.closed := by
  have finishes : ∀ t : BridgeBroker, ∀ requestId event, (t.finishRequest requestId event).closed =
      t.closed := by
    intro t requestId event
    unfold finishRequest
    split <;> rfl
  cases event with
  | hello hello => rfl
  | foregroundChanged packageName userId => rfl
  | activityResult requestId launched error => exact finishes s _ _
  | notificationResult requestId posted error => exact finishes s _ _
  | packageInfoResult requestId package error => exact finishes (s.cache package) _ _

theorem advance_closed (s : BridgeBroker) (n : Nat) (call : Call) : (s.advance n call).closed = s.closed := by
  obtain ⟨requestId, stage, mailbox⟩ := call
  cases stage with
  | registered =>
      simp only [advance]
      split <;> rfl
  | waiting session => cases mailbox <;> rfl
  | numbered => rfl
  | admitted => rfl
  | refused => rfl
  | timedOut => rfl
  | returned result => rfl

theorem step_closed {action : Action} (open' : ∀ session, action ≠ .closeChannel session) :
    (s.step action).closed = s.closed := by
  cases action with
  | closeChannel session => exact absurd rfl (open' session)
  | attach => rfl
  | nextId => rfl
  | handleEvent event => exact handle_closed s event
  | detach thread =>
      show (s.detach thread).closed = s.closed
      unfold BridgeBroker.detach
      split <;> rfl
  | deliver position =>
      show (s.deliver position).closed = s.closed
      unfold BridgeBroker.deliver
      split <;> rfl
  | timeOut n =>
      show (s.timeOut n).closed = s.closed
      unfold BridgeBroker.timeOut
      split <;> rfl
  | request n =>
      show (s.request n).closed = s.closed
      cases placed : s.calls[n]? with
      | none => rw [request_of_missing placed]
      | some call => rw [request_of_placed placed, advance_closed]

theorem step_count {action : Action} (old : action ≠ .nextId) :
    (s.step action).calls.length = s.calls.length := by
  rcases step_beside s action with beside | rfl | ⟨thread, rfl⟩ | rfl
  · exact beside.count
  · rfl
  · exact congrArg List.length (detach_calls s thread).1
  · exact absurd rfl old

theorem step_requestId {action : Action} (old : action ≠ .nextId) {n : Nat} {later : Call}
    (placed : (s.step action).calls[n]? = some later) :
    ∃ call, s.calls[n]? = some call ∧ later.requestId = call.requestId := by
  rcases call_step placed with ⟨new, -, -⟩ | ⟨call, was, same, -⟩
  · exact absurd new old
  · exact ⟨call, was, same⟩

end BridgeBroker

namespace BridgeSession
variable {s : BridgeSession}

/-- While every command fits a frame, the writing thread runs and has each command before it or behind it. -/
structure Open (s : BridgeSession) : Prop where
  closed : s.broker.closed 0 = false
  order : s.demanded = s.written ++ s.hand.toList ++ s.queue
  fits : ∀ command ∈ s.demanded, FitsFrame (toVec command.toJson)
  count : s.asks.length = s.broker.calls.length
  asked : ∀ (n : Nat) (call : Call) (ask : Ask), s.broker.calls[n]? = some call → s.asks[n]? = some ask →
    FitsFrame (toVec (ask.command call.requestId).toJson)

theorem open_attached (hello : BridgeHello) : (attached hello).Open where
  closed := rfl
  order := rfl
  fits := fun command member => absurd member List.not_mem_nil
  count := rfl
  asked n call ask placed _ := by
    have placed : ([] : List Call)[n]? = some call := placed
    rw [List.getElem?_nil] at placed
    cases placed

theorem Open.broker (open' : s.Open) (action : Action) (old : action ≠ .nextId)
    (kept : ∀ session, action ≠ .closeChannel session) (reading : Bool) :
    Open { s with broker := s.broker.step action, reading } where
  closed := by
    rw [BridgeBroker.step_closed kept]
    exact open'.closed
  order := open'.order
  fits := open'.fits
  count := open'.count.trans (BridgeBroker.step_count old).symm
  asked n call ask placed asks := by
    obtain ⟨before, was, same⟩ := BridgeBroker.step_requestId old placed
    rw [same]
    exact open'.asked n before ask was asks

theorem Open.running (open' : s.Open) : s.running = true := by simp [BridgeSession.running, open'.closed]

theorem Open.sends (open' : s.Open) {n : Nat} {command : BridgeCommand} (sent : s.sends n = some command) :
    FitsFrame (toVec command.toJson) := by
  unfold BridgeSession.sends at sent
  split at sent
  next requestId mailbox ask session placed asks sender =>
    cases sent
    exact open'.asked n _ ask placed asks
  next => cases sent

theorem Open.request (open' : s.Open) (n : Nat) : (s.request n).Open := by
  have stepped : Open { s with broker := s.broker.step (.request n), reading := s.reading } :=
    open'.broker (.request n) nofun nofun s.reading
  refine { closed := stepped.closed, order := ?_, fits := ?_, count := stepped.count, asked := stepped.asked }
  · simp only [BridgeSession.request, open'.running, if_true, open'.order, List.append_assoc]
  · intro command member
    rcases List.mem_append.mp member with old | new
    · exact open'.fits command old
    · exact open'.sends (Option.mem_toList.mp new)

theorem Open.receive (open' : s.Open) : s.receive.Open := by
  unfold BridgeSession.receive
  split
  next command rest _ hand queue =>
    refine { open' with order := ?_ }
    simp [open'.order, hand, queue]
  next => exact open'

theorem Open.write (open' : s.Open) : s.write.Open := by
  unfold BridgeSession.write
  cases hand : s.hand with
  | none => exact open'
  | some command =>
      have order := open'.order
      rw [hand] at order
      have member : command ∈ s.demanded := by simp [order]
      obtain ⟨frame, framed⟩ := open'.fits command member
      have framed : command.frame = .ok frame := framed
      simp only [framed]
      refine { open' with order := ?_ }
      simp [order]

theorem Open.step (open' : s.Open) {action : SessionAction} (framed : s.Framed action) :
    (s.step action).Open := by
  cases action with
  | ask ask =>
      refine { closed := open'.closed, order := open'.order, fits := open'.fits, count := ?_, asked := ?_ }
      · show (s.asks ++ [ask]).length = (s.broker.calls ++ [_]).length
        rw [List.length_append, List.length_append, open'.count]
        rfl
      · intro n call other placed asks
        have asks : (s.asks ++ [ask])[n]? = some other := asks
        rcases BridgeBroker.call_step placed with ⟨-, rfl, rfl⟩ | ⟨before, was, same, -⟩
        · rw [← open'.count, List.getElem?_concat_length] at asks
          cases asks
          exact framed
        · have within := (List.getElem?_eq_some_iff.mp was).1
          rw [List.getElem?_append_left (open'.count.symm ▸ within)] at asks
          rw [same]
          exact open'.asked n before other was asks
  | request n => exact open'.request n
  | timeOut n => exact open'.broker (.timeOut n) nofun nofun s.reading
  | event event =>
      simp only [BridgeSession.step]
      split
      · exact open'.broker (.handleEvent event) nofun nofun s.reading
      · exact open'
  | deliver position => exact open'.broker (.deliver position) nofun nofun s.reading
  | receive => exact open'.receive
  | write => exact open'.write
  | disconnect => exact open'.broker (.detach 0) nofun nofun false

theorem Open.write_written (open' : s.Open) : s.write.written = s.written ++ s.hand.toList ∧
    s.write.hand = none ∧ s.write.queue = s.queue ∧ s.write.demanded = s.demanded := by
  unfold BridgeSession.write
  cases hand : s.hand with
  | none => simp [hand]
  | some command =>
      have member : command ∈ s.demanded := by simp [open'.order, hand]
      obtain ⟨frame, framed⟩ := open'.fits command member
      have framed : command.frame = .ok frame := framed
      simp [framed]

theorem Open.turn (open' : s.Open) (hand : s.hand = none) {command : BridgeCommand} {rest : List BridgeCommand}
    (queue : s.queue = command :: rest) : s.receive.write.Open ∧ s.receive.write.hand = none ∧
      s.receive.write.queue = rest ∧ s.receive.write.demanded = s.demanded := by
  have received : s.receive = { s with hand := some command, queue := rest } := by
    unfold BridgeSession.receive
    rw [open'.running, hand, queue]
  obtain ⟨-, done, left, same⟩ := open'.receive.write_written
  refine ⟨open'.receive.write, done, ?_, ?_⟩
  · rw [left, received]
  · rw [same, received]

theorem Open.drain (open' : s.Open) : s.drain.written = s.demanded := by
  have turns : ∀ (n : Nat) (t : BridgeSession), t.Open → t.hand = none → t.queue.length = n →
      ((fun s => s.receive.write)^[n] t).written = t.demanded := by
    intro n
    induction n with
    | zero =>
        intro t open' hand queue
        rw [List.length_eq_zero_iff] at queue
        simp [open'.order, hand, queue]
    | succ n ih =>
        intro t open' hand queue
        obtain ⟨command, rest, front⟩ := List.exists_cons_of_length_eq_add_one queue
        obtain ⟨stays, done, left, same⟩ := open'.turn hand front
        rw [front, List.length_cons, Nat.add_right_cancel_iff] at queue
        rw [Function.iterate_succ_apply, ih _ stays done (left ▸ queue), same]
  obtain ⟨-, done, queue, same⟩ := open'.write_written
  rw [BridgeSession.drain, turns _ _ open'.write done (congrArg List.length queue), same]

theorem Open.commandable (open' : s.Open) : s.Commandable := by
  refine fun _ => ⟨open'.running, fun command member _ => ?_⟩
  rw [open'.drain]
  exact member

/-- In a session that is asked for nothing larger than a frame, every command goes out while it is connected. -/
theorem framed_session_commandable (hello : BridgeHello) (actions : List SessionAction)
    (framed : Throughout step Framed (attached hello) actions) :
    (actions.foldl step (attached hello)).Commandable := by
  have open' := framed.foldl Open (fun _ _ open' framed => open'.step framed) (open_attached hello)
  exact open'.commandable

theorem cancel_fits {requestId : UInt64} {recordId : RecordId} (short : Json.escapedSize recordId.text ≤ 1000) :
    FitsFrame (toVec (BridgeCommand.cancelNotification requestId recordId).toJson) := by
  have number : Json.digits requestId.toNat ≤ 20 :=
    Json.digits_natCast_le (by decide) (Nat.lt_of_lt_of_le requestId.toNat_lt (by decide))
  rw [fitsFrame_iff, length_toVec, BridgeCommand.toJson, Json.size_compact_obj]
  simp only [List.map_cons, List.map_nil, Json.total, Json.size_compact_str, Json.size_compact_num]
  have names : Json.frameSize ["type".toList, "request_id".toList, "record_id".toList] ≤ 100 := by decide
  have tag : Json.escapedSize "cancel_notification".toList ≤ 100 := by decide
  have most : maxFrameBodyBytes = 1048576 := rfl
  omega

theorem alert_large {requestId : UInt64} {record : CrashRecord} {inserted : Inserted}
    (large : maxFrameBodyBytes ≤ Utf8.size (alertBody record)) :
    ¬FitsFrame (toVec ((Ask.alert record inserted).command requestId).toJson) := by
  have body := Json.size_le_escapedSize (alertBody record)
  have named : (alertNotification record inserted).body = alertBody record := rfl
  rw [fitsFrame_iff, length_toVec, Ask.command, BridgeCommand.toJson, Json.size_compact_obj]
  simp only [List.map_cons, List.map_nil, Json.total, notificationJson, Json.size_compact_obj,
    Json.size_compact_str, named]
  omega

/-- The crash buffer's exception line without a colon: all of it is the name of the class. -/
def crashOfClass (className : Str) : CrashRecord where
  kind := .javaException
  packageName := "app".toList
  processName := "app".toList
  userId := 0
  pid := 7
  happenedAtMs := 1
  appVersionName := none
  appVersionCode := none
  isSystemApp := false
  packageInstalled := true
  isForeground := none
  selfHandled := false
  droppedCount := none
  sources := .dropbox
  summary := .new (some className) none
  fingerprint := .fromRawFrames .javaException className []
  payload := .none

def insertedCrash (record : CrashRecord) : Inserted where
  record := { id := .encode 1, groupId := "group".toList, happenedAtMs := record.happenedAtMs, pid := record.pid,
              sources := record.sources, appVersionName := none, appVersionCode := none, isForeground := none,
              isRepeating := false, droppedCount := none, payloadBytes := 0, payloadState := .absent }
  group := newGroup "group".toList record 0
  isNewGroup := true

def alertThenCancel (alert cancel : Ask) : List SessionAction :=
  [.ask alert, .request 0, .request 0, .request 0, .receive] ++
    [.write, .ask cancel, .request 1, .request 1, .request 1]

theorem framed_session_commandable_cancel :
    ([.ask (.cancelNotification (.encode 1)), .request 0, .request 0, .request 0].foldl step
      (attached { androidSdk := 35, bridgeVersion := "0.1.0".toList })).Commandable := by
  refine framed_session_commandable _ _ ⟨?_, trivial, trivial, trivial, trivial⟩
  exact cancel_fits (by decide)

def holdsFirst (first : Ask) (hello : BridgeHello) : BridgeSession where
  broker := { BridgeBroker.new with
    connected := true, nextRequestId := 2, commandSender := some 0, hello := some hello, sessions := 1,
    arrived := [.hello hello], pending := Function.update (fun _ => none) 1 (some 0),
    calls := [{ requestId := 1, stage := .waiting 0 }] }
  asks := [first]
  hand := some (first.command 1)
  demanded := [first.command 1]

theorem foldl_holdsFirst (first : Ask) (hello : BridgeHello) :
    [.ask first, .request 0, .request 0, .request 0, .receive].foldl step (attached hello) =
      holdsFirst first hello := rfl

theorem write_unframed {first : Ask} {hello : BridgeHello} {error : WireError}
    (unframed : (first.command 1).frame = .error error) : step (holdsFirst first hello) .write =
      { holdsFirst first hello with
        broker := (holdsFirst first hello).broker.step (.closeChannel 0), hand := none, queue := [] } := by
  have hand : (holdsFirst first hello).hand = some (first.command 1) := rfl
  show (holdsFirst first hello).write = _
  simp only [write, hand, unframed]

theorem unframed_ask_silences {alert cancel : Ask} {error : WireError} {hello : BridgeHello} {s : BridgeSession}
    (unframed : (alert.command 1).frame = .error error)
    (ran : (alertThenCancel alert cancel).foldl step (attached hello) = s) :
    s.broker.connected = true ∧ s.demanded = [alert.command 1, cancel.command 2] ∧ s.drain.written = [] := by
  rw [alertThenCancel, List.foldl_append, foldl_holdsFirst, List.foldl_cons, write_unframed unframed] at ran
  have connected : s.broker.connected = true := by
    rw [← ran]
    rfl
  have demanded : s.demanded = [alert.command 1, cancel.command 2] := by
    rw [← ran]
    rfl
  have hand : s.hand = none := by
    rw [← ran]
    rfl
  have queue : s.queue = [] := by
    rw [← ran]
    rfl
  have written : s.written = [] := by
    rw [← ran]
    rfl
  refine ⟨connected, demanded, ?_⟩
  simp [drain, write, hand, queue, written]

theorem alertBody_crashOfClass (className : Str) : alertBody (crashOfClass className) = className := rfl

/-- A class name of one mebibyte silences the bridge, which still counts as connected. -/
theorem oversized_alert_silences_bridge : ¬ ∀ (hello : BridgeHello) (actions : List SessionAction),
    (actions.foldl step (attached hello)).Commandable := by
  intro commandable
  obtain ⟨className, size⟩ : ∃ className : Str, maxFrameBodyBytes ≤ Utf8.size className := by
    refine ⟨List.replicate maxFrameBodyBytes 'x', ?_⟩
    rw [Json.size_of_ascii, List.length_replicate]
    intro c member
    rw [List.eq_of_mem_replicate member]
    decide
  rw [← alertBody_crashOfClass className] at size
  generalize alerted : Ask.alert (crashOfClass className) (insertedCrash (crashOfClass className)) = alert
  have large : ¬FitsFrame (toVec (alert.command 1).toJson) := alerted ▸ alert_large size
  cases framed : (alert.command 1).frame with
  | ok frame => exact large ⟨frame, framed⟩
  | error error =>
      let cancel := Ask.cancelNotification (.encode 1)
      have fits : FitsFrame (toVec (cancel.command 2).toJson) := cancel_fits (by decide)
      let hello : BridgeHello := { androidSdk := 35, bridgeVersion := "0.1.0".toList }
      obtain ⟨connected, demanded, unwritten⟩ :=
        unframed_ask_silences framed (Eq.refl ((alertThenCancel alert cancel).foldl step (attached hello)))
      obtain ⟨-, written⟩ := commandable hello (alertThenCancel alert cancel) connected
      have lost := written (cancel.command 2) (by simp [demanded]) fits
      rw [unwritten] at lost
      cases lost

end BridgeSession
end CrashCatcher.Bridge
