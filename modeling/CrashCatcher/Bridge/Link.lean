import CrashCatcher.Bridge.Answers
import CrashCatcher.Bridge.Routing

namespace CrashCatcher.Bridge
open Lib Lib.Run Model Wire Daemon CrashCatcherBridge

inductive Given where
  | flag (value : Bool)
  | package (package : Option (Str × Int × BridgePackageInfo))

def wrongReply : WireError := .internal "bridge returned the wrong reply type".toList

def orUnavailable (given : Given) : Option Str → Except WireError Given
  | some error => .error (.unavailable error)
  | none => .ok given

namespace Ask

/-- What `query_package`, `start_activity`, `post_notification` and `cancel_notification` make of a reply. -/
def finish : Ask → BridgeEvent → Except WireError Given
  | queryPackage _ _, .packageInfoResult _ package error => orUnavailable (.package package) error
  | startActivity _ _, .activityResult _ launched error => orUnavailable (.flag launched) error
  | alert _ _, .notificationResult _ posted error => orUnavailable (.flag posted) error
  | cancelNotification _, .notificationResult _ posted error => orUnavailable (.flag posted) error
  | _, _ => .error wrongReply

def Typed (ask : Ask) : Prop := ∀ requestId, (ask.command requestId).Typed

end Ask

def Done.given : Done → Given
  | posted | launched => .flag true
  | found packageName userId info _ => .package (some (packageName, userId, info.kept))

def reported : Except Str Done → Except WireError Given
  | .ok done => .ok done.given
  | .error error => .error (.unavailable error)

structure BridgeLink where
  session : BridgeSession
  /-- The commands that the bridge has read, with Android as it answered each. -/
  handled : List (BridgeCommand × Device) := []
  /-- The frames on their way to the daemon. -/
  replies : List Json := []
  hungUp : Bool := false

inductive LinkAction where
  | daemon (action : SessionAction)
  | handle (device : Device)
  | arrive

namespace BridgeLink

def attached (hello : BridgeHello) : BridgeLink where
  session := .attached hello

variable (org : OrgJson) (self : BridgeLink)

/-- The bridge reads its next command and answers it before it reads another. -/
def handle (device : Device) : BridgeLink :=
  match self.hungUp, self.session.written[self.handled.length]? with
  | false, some command =>
      let handled := self.handled ++ [(command, device)]
      match serve org device command.toJson with
      | .ok frame => { self with handled, replies := self.replies ++ [frame] }
      | .error _ => { self with handled, hungUp := true }
  | _, _ => self

/-- The daemon reads its next frame; one that it cannot read ends the connection. -/
def arrive : BridgeLink :=
  match self.session.reading, self.replies with
  | true, frame :: replies => match BridgeEvent.deserialize frame with
    | some event => { self with session := self.session.step (.event event), replies }
    | none => { self with session := self.session.step .disconnect, replies }
  | _, _ => self

def step : LinkAction → BridgeLink
  | .daemon (.event _) => self
  | .daemon action => { self with session := self.session.step action }
  | .handle device => self.handle org device
  | .arrive => self.arrive

def Asks (_ : BridgeLink) : LinkAction → Prop
  | .daemon (.ask ask) => ask.Typed
  | _ => True

end BridgeLink

def Stage.isSent : Stage → Bool
  | .waiting _ | .refused | .timedOut | .returned _ => true
  | _ => false

namespace BridgeSession
variable {s : BridgeSession}

def Demands (s : BridgeSession) (command : BridgeCommand) : Prop :=
  ∃ (n : Nat) (ask : Ask) (call : Call), s.asks[n]? = some ask ∧ s.broker.calls[n]? = some call ∧
    command = ask.command call.requestId ∧ call.stage.isSent = true

/-- What every run keeps of the commands: no request sends two, and what is written was sent. -/
structure Sent (s : BridgeSession) : Prop where
  count : s.asks.length = s.broker.calls.length
  demanded : ∀ command ∈ s.demanded, s.Demands command
  once : s.broker.calls.length < 2 ^ 64 → (s.demanded.map (·.requestId)).Nodup
  order : (s.written ++ s.hand.toList ++ s.queue).Sublist s.demanded
  typed : ∀ ask ∈ s.asks, ask.Typed

theorem sent_attached (hello : BridgeHello) : (attached hello).Sent where
  count := rfl
  demanded := fun _ member => absurd member List.not_mem_nil
  once _ := List.nodup_nil
  order := List.Sublist.refl _
  typed := fun _ member => absurd member List.not_mem_nil

theorem requestId_command (ask : Ask) (requestId : UInt64) : (ask.command requestId).requestId = requestId := by
  cases ask <;> rfl

theorem sent_step {action : Action} {n : Nat} {call : Call} {stage : Stage}
    (moved : s.broker.StageStep action n call stage) (sent : call.stage.isSent = true) :
      stage.isSent = true := by
  cases moved with
  | stays same => exact same ▸ sent
  | timesOut waits => rfl
  | advances own next =>
      cases next with
      | answer waits mailed => rfl
      | giveUp settled gone => rfl
      | enter before | reject before | register before | unsent before | refuse before | send before =>
          rw [before] at sent
          cases sent

theorem Demands.step {command : BridgeCommand} (demands : s.Demands command) {action : Action}
    {t : BridgeSession} (steps : t.broker = s.broker.step action) (kept : s.asks <+: t.asks) :
    t.Demands command := by
  obtain ⟨n, ask, call, asked, placed, own, sent⟩ := demands
  obtain ⟨later, here, named, moved⟩ := BridgeBroker.call_persists placed action
  obtain ⟨within, same⟩ := List.getElem?_eq_some_iff.mp asked
  refine ⟨n, ask, later, ?_, steps ▸ here, named ▸ own, sent_step moved sent⟩
  exact (List.prefix_iff_getElem?.mp kept n within).trans (congrArg some same)

theorem Sent.broker (sent : s.Sent) (action : Action) (old : action ≠ .nextId) (reading : Bool) :
    Sent { s with broker := s.broker.step action, reading } where
  count := sent.count.trans (BridgeBroker.step_count old).symm
  demanded command member := (sent.demanded command member).step rfl (List.prefix_refl _)
  once few := sent.once (lt_of_le_of_lt (BridgeBroker.step_grows _ _).2 few)
  order := sent.order
  typed := sent.typed

theorem sends_eq {n : Nat} {command : BridgeCommand} (sends : s.sends n = some command) :
    ∃ ask call session, s.asks[n]? = some ask ∧ s.broker.calls[n]? = some call ∧ call.stage = .registered ∧
      s.broker.commandSender = some session ∧ command = ask.command call.requestId := by
  unfold BridgeSession.sends at sends
  split at sends
  next requestId mailbox ask session placed asked sender =>
    exact ⟨ask, _, session, asked, placed, rfl, sender, (Option.some.inj sends).symm⟩
  next => cases sends

theorem request_sent {n : Nat} {call : Call} {session : Nat} (placed : s.broker.calls[n]? = some call)
    (registered : call.stage = .registered) (sender : s.broker.commandSender = some session) :
    ∃ later, (s.broker.step (.request n)).calls[n]? = some later ∧ later.requestId = call.requestId ∧
      later.stage.isSent = true := by
  have ran : s.broker.step (.request n) =
      s.broker.setStage n (if s.broker.closed session then .refused else .waiting session) := by
    refine (BridgeBroker.request_of_placed placed).trans ?_
    unfold BridgeBroker.advance
    rw [registered, sender]
  rw [ran]
  refine ⟨_, BridgeBroker.getElem?_setStage placed _, rfl, ?_⟩
  simp only
  split <;> rfl

theorem Sent.request (sent : s.Sent) (numbered : s.broker.Numbered) (n : Nat) : (s.request n).Sent := by
  have stepped : Sent { s with broker := s.broker.step (.request n), reading := s.reading } :=
    sent.broker (.request n) (by simp) s.reading
  have order : (s.written ++ s.hand.toList ++ (s.request n).queue).Sublist
      (s.demanded ++ (s.sends n).toList) := by
    simp only [BridgeSession.request]
    split
    · rw [← List.append_assoc]
      exact sent.order.append (List.Sublist.refl _)
    · exact sent.order.trans (List.sublist_append_left _ _)
  cases sends : s.sends n with
  | none =>
      have same : (s.request n).demanded = s.demanded := by simp [BridgeSession.request, sends]
      rw [sends, Option.toList_none, List.append_nil] at order
      refine ⟨stepped.count, fun command member => ?_, fun few => ?_, ?_, stepped.typed⟩
      · exact stepped.demanded command (same ▸ member)
      · rw [same]
        exact stepped.once few
      · rw [same]
        exact order
  | some command =>
      obtain ⟨ask, call, session, asked, placed, registered, sender, own⟩ := sends_eq sends
      obtain ⟨later, here, named, settled⟩ := request_sent placed registered sender
      have grown : (s.request n).demanded = s.demanded ++ [command] := by simp [BridgeSession.request, sends]
      rw [sends, Option.toList_some] at order
      refine ⟨stepped.count, fun other member => ?_, fun few => ?_, ?_, stepped.typed⟩
      · rw [grown] at member
        rcases List.mem_append.mp member with old | new
        · exact stepped.demanded other old
        · rw [List.mem_singleton.mp new]
          exact ⟨n, ask, later, asked, here, named ▸ own, settled⟩
      · have few : s.broker.calls.length < 2 ^ 64 :=
          lt_of_le_of_lt (BridgeBroker.step_grows _ (.request n)).2 few
        rw [grown, List.map_append, List.map_singleton, List.nodup_append]
        refine ⟨sent.once few, List.nodup_singleton _, fun id old id' new same => ?_⟩
        -- An earlier command of this id would be that of the same request, which has sent none.
        obtain ⟨other, there, rfl⟩ := List.mem_map.mp old
        obtain ⟨m, ask', call', -, placed', own', settled'⟩ := sent.demanded other there
        rw [List.mem_singleton.mp new, own, own', requestId_command, requestId_command] at same
        obtain rfl := numbered.unique few placed' placed same
        cases placed'.symm.trans placed
        rw [registered] at settled'
        cases settled'
      · rw [grown]
        exact order

theorem Sent.receive (sent : s.Sent) : s.receive.Sent := by
  unfold BridgeSession.receive
  split
  next command rest running hand queue =>
    refine { sent with order := ?_ }
    have order := sent.order
    rw [hand, queue] at order
    simpa using order
  next => exact sent

theorem Sent.write (sent : s.Sent) : s.write.Sent := by
  unfold BridgeSession.write
  cases hand : s.hand with
  | none => exact sent
  | some command =>
      have order := sent.order
      rw [hand, Option.toList_some] at order
      cases framed : command.frame with
      | ok frame =>
          simp only [framed]
          refine { sent with order := ?_ }
          simpa using order
      | error error =>
          simp only [framed]
          refine { sent.broker (.closeChannel 0) (by simp) s.reading with order := ?_ }
          have within : s.written.Sublist (s.written ++ [command] ++ s.queue) := by
            rw [List.append_assoc]
            exact List.sublist_append_left _ _
          simpa using within.trans order

theorem Sent.step (sent : s.Sent) (numbered : s.broker.Numbered) {action : SessionAction}
    (typed : ∀ ask, action = .ask ask → ask.Typed) : (s.step action).Sent := by
  cases action with
  | ask ask =>
      refine ⟨?_, fun command member => ?_, fun few => ?_, sent.order, fun other member => ?_⟩
      · show (s.asks ++ [ask]).length = (s.broker.calls ++ [_]).length
        rw [List.length_append, List.length_append, sent.count]
        rfl
      · exact @Demands.step s command (sent.demanded command member) .nextId _ rfl (List.prefix_append _ _)
      · exact sent.once (lt_of_le_of_lt (BridgeBroker.step_grows s.broker .nextId).2 few)
      · rcases List.mem_append.mp member with old | new
        · exact sent.typed other old
        · exact List.mem_singleton.mp new ▸ typed ask rfl
  | request n => exact sent.request numbered n
  | timeOut n => exact sent.broker (.timeOut n) (by simp) s.reading
  | event event =>
      simp only [BridgeSession.step]
      split
      · exact sent.broker (.handleEvent event) (by simp) s.reading
      · exact sent
  | deliver position => exact sent.broker (.deliver position) (by simp) s.reading
  | receive => exact sent.receive
  | write => exact sent.write
  | disconnect => exact sent.broker (.detach 0) (by simp) false

theorem step_broker (s : BridgeSession) (action : SessionAction) : (s.step action).broker = s.broker ∨
    ∃ inner, (s.step action).broker = s.broker.step inner ∧
      ∀ event, inner = .handleEvent event → action = .event event := by
  cases action with
  | ask ask => exact .inr ⟨.nextId, rfl, fun event same => by cases same⟩
  | request n => exact .inr ⟨.request n, rfl, fun event same => by cases same⟩
  | timeOut n => exact .inr ⟨.timeOut n, rfl, fun event same => by cases same⟩
  | event event =>
      simp only [BridgeSession.step]
      split
      · exact .inr ⟨.handleEvent event, rfl, fun other same => by cases same; rfl⟩
      · exact .inl rfl
  | deliver position => exact .inr ⟨.deliver position, rfl, fun event same => by cases same⟩
  | receive =>
      refine .inl ?_
      show s.receive.broker = s.broker
      unfold BridgeSession.receive
      split <;> rfl
  | write =>
      show s.write.broker = s.broker ∨ ∃ inner, s.write.broker = s.broker.step inner ∧
        ∀ event, inner = .handleEvent event → SessionAction.write = .event event
      unfold BridgeSession.write
      cases s.hand with
      | none => exact .inl rfl
      | some command =>
          cases framed : command.frame with
          | ok frame =>
              refine .inl ?_
              simp only [framed]
          | error error =>
              simp only [framed]
              exact .inr ⟨.closeChannel 0, rfl, fun event same => by cases same⟩
  | disconnect => exact .inr ⟨.detach 0, rfl, fun event same => by cases same⟩

theorem step_written (s : BridgeSession) (action : SessionAction) : s.written <+: (s.step action).written := by
  cases action with
  | receive =>
      show s.written <+: s.receive.written
      unfold BridgeSession.receive
      split <;> exact List.prefix_refl _
  | write =>
      show s.written <+: s.write.written
      unfold BridgeSession.write
      cases s.hand with
      | none => exact List.prefix_refl _
      | some command =>
          cases framed : command.frame with
          | ok frame =>
              simp only [framed]
              exact List.prefix_append _ _
          | error error =>
              simp only [framed]
              exact List.prefix_refl _
  | event event =>
      simp only [BridgeSession.step]
      split <;> exact List.prefix_refl _
  | ask ask => exact List.prefix_refl _
  | request n => exact List.prefix_refl _
  | timeOut n => exact List.prefix_refl _
  | deliver position => exact List.prefix_refl _
  | disconnect => exact List.prefix_refl _

theorem kept_step (kept : s.broker.Kept) (action : SessionAction) : (s.step action).broker.Kept := by
  rcases step_broker s action with same | ⟨inner, stepped, -⟩
  · exact same ▸ kept
  · rw [stepped]
    exact ⟨kept.sound.step inner, kept.numbered.step inner, kept.sessions.step inner⟩

end BridgeSession

namespace BridgeBroker

theorem step_arrived {s : BridgeBroker} {action : Action} (other : ∀ event, action ≠ .handleEvent event) :
    (s.step action).arrived = s.arrived := by
  cases action with
  | handleEvent event => exact absurd rfl (other event)
  | attach => rfl
  | closeChannel session => rfl
  | nextId => rfl
  | detach thread => exact (detach_calls s thread).2.2.1
  | deliver position =>
      show (s.deliver position).arrived = s.arrived
      unfold BridgeBroker.deliver
      split <;> rfl
  | timeOut n =>
      show (s.timeOut n).arrived = s.arrived
      unfold BridgeBroker.timeOut
      split <;> rfl
  | request n =>
      show (s.request n).arrived = s.arrived
      cases placed : s.calls[n]? with
      | none => rw [request_of_missing placed]
      | some call =>
          rw [request_of_placed placed]
          obtain ⟨requestId, stage, mailbox⟩ := call
          cases stage with
          | registered =>
              simp only [advance]
              split <;> rfl
          | waiting session => cases mailbox <;> rfl
          | numbered => rfl
          | admitted => rfl
          | refused => rfl
          | timedOut => rfl
          | returned result => rfl

end BridgeBroker

namespace BridgeLink
variable {org : OrgJson} {s : BridgeLink}

def Answered (org : OrgJson) (s : BridgeLink) (frame : Json) : Prop :=
  ∃ entry ∈ s.handled, serve org entry.2 entry.1.toJson = .ok frame

/-- What every run keeps: the bridge reads what was written in its order, and the daemon hears of nothing but
what the bridge answered. -/
structure Linked (org : OrgJson) (s : BridgeLink) : Prop where
  kept : s.session.broker.Kept
  sent : s.session.Sent
  order : s.handled.map Prod.fst <+: s.session.written
  wire : ∀ frame ∈ s.replies, s.Answered org frame
  came : ∀ event ∈ s.session.broker.arrived, event.requestId = none ∨
    ∃ frame, s.Answered org frame ∧ BridgeEvent.deserialize frame = some event

theorem linked_attached (hello : BridgeHello) : Linked org (attached hello) where
  kept := (⟨BridgeBroker.sound_new, BridgeBroker.numbered_new, BridgeBroker.sessions_new⟩ :
    BridgeBroker.new.Kept).run [.attach, .handleEvent (.hello hello)]
  sent := BridgeSession.sent_attached hello
  order := List.prefix_refl _
  wire := fun _ member => absurd member List.not_mem_nil
  came event member := by
    have member : event ∈ [BridgeEvent.hello hello] := member
    rw [List.mem_singleton.mp member]
    exact .inl rfl

theorem Linked.daemon (linked : Linked org s) (action : SessionAction)
    (typed : ∀ ask, action = .ask ask → ask.Typed) (own : ∀ event, action ≠ .event event) :
    Linked org { s with session := s.session.step action } where
  kept := BridgeSession.kept_step linked.kept action
  sent := linked.sent.step linked.kept.numbered typed
  order := linked.order.trans (BridgeSession.step_written s.session action)
  wire := linked.wire
  came event member := by
    have same : (s.session.step action).broker.arrived = s.session.broker.arrived := by
      rcases BridgeSession.step_broker s.session action with same | ⟨inner, stepped, comes⟩
      · rw [same]
      · rw [stepped]
        exact BridgeBroker.step_arrived fun other same => own other (comes other same)
    exact linked.came event (same ▸ member)

theorem Linked.handle (linked : Linked org s) (device : Device) : Linked org (s.handle org device) := by
  unfold BridgeLink.handle
  split
  next command open' next' =>
    have order : (s.handled ++ [(command, device)]).map Prod.fst <+: s.session.written := by
      have before := List.prefix_iff_eq_take.mp linked.order
      have after : (s.handled ++ [(command, device)]).map Prod.fst =
          s.session.written.take (s.handled.length + 1) := by
        rw [List.map_append, before, List.length_map, List.take_add_one, next']
        rfl
      exact after ▸ List.take_prefix _ _
    have older : ∀ frame, s.Answered org frame → ∃ entry ∈ s.handled ++ [(command, device)],
        serve org entry.2 entry.1.toJson = .ok frame := by
      rintro frame ⟨entry, member, served⟩
      exact ⟨entry, List.mem_append_left _ member, served⟩
    have came : ∀ event ∈ s.session.broker.arrived, event.requestId = none ∨
        ∃ frame, (∃ entry ∈ s.handled ++ [(command, device)], serve org entry.2 entry.1.toJson = .ok frame) ∧
          BridgeEvent.deserialize frame = some event := by
      intro event member
      rcases linked.came event member with none' | ⟨frame, answered, read⟩
      · exact .inl none'
      · exact .inr ⟨frame, older frame answered, read⟩
    cases served : serve org device command.toJson with
    | ok frame =>
        refine ⟨linked.kept, linked.sent, order, fun other member => ?_, came⟩
        rcases List.mem_append.mp member with old | new
        · exact older other (linked.wire other old)
        · rw [List.mem_singleton.mp new]
          exact ⟨(command, device), by simp, served⟩
    | error error => exact ⟨linked.kept, linked.sent, order,
        fun other member => older other (linked.wire other member), came⟩
  next => exact linked

theorem Linked.arrive (linked : Linked org s) : Linked org s.arrive := by
  unfold BridgeLink.arrive
  split
  next frame replies reading waits =>
    have own := linked.wire frame (waits ▸ List.mem_cons_self)
    have rest : ∀ other ∈ replies, s.Answered org other := fun other member =>
      linked.wire other (waits ▸ List.mem_cons_of_mem _ member)
    cases read : BridgeEvent.deserialize frame with
    | some event =>
        have steps : s.session.step (.event event) =
            { s.session with broker := s.session.broker.step (.handleEvent event) } := if_pos reading
        refine ⟨BridgeSession.kept_step linked.kept _, ?_, ?_, rest,
          fun other member => ?_⟩
        · exact @BridgeSession.Sent.step _ linked.sent linked.kept.numbered (.event event) (by simp)
        · exact linked.order.trans (BridgeSession.step_written s.session _)
        · have member : other ∈ s.session.broker.arrived ++ [event] := by
            have member : other ∈ (s.session.step (.event event)).broker.arrived := member
            rw [steps] at member
            exact member
          rcases List.mem_append.mp member with old | new
          · exact linked.came other old
          · rw [List.mem_singleton.mp new]
            exact .inr ⟨frame, own, read⟩
    | none => exact { linked.daemon .disconnect (by simp) (by simp) with wire := rest }
  next => exact linked

theorem Linked.step (linked : Linked org s) {action : LinkAction} (asks : s.Asks action) :
    Linked org (s.step org action) := by
  cases action with
  | handle device => exact linked.handle device
  | arrive => exact linked.arrive
  | daemon inner =>
      cases inner with
      | event event => exact linked
      | ask ask =>
          refine linked.daemon (.ask ask) (fun other same => ?_) (by simp)
          cases same
          exact asks
      | request n => exact linked.daemon (.request n) (by simp) (by simp)
      | timeOut n => exact linked.daemon (.timeOut n) (by simp) (by simp)
      | deliver position => exact linked.daemon (.deliver position) (by simp) (by simp)
      | receive => exact linked.daemon .receive (by simp) (by simp)
      | write => exact linked.daemon .write (by simp) (by simp)
      | disconnect => exact linked.daemon .disconnect (by simp) (by simp)

theorem Linked.run {actions : List LinkAction} (asks : Throughout (BridgeLink.step org) Asks s actions)
    (linked : Linked org s) : Linked org (actions.foldl (BridgeLink.step org) s) :=
  asks.foldl (Linked org) (fun _ _ linked asks => linked.step asks) linked

end BridgeLink

variable {org : OrgJson} {device : Device}

theorem finish_event (org : OrgJson) (device : Device) (ask : Ask) (requestId : UInt64) :
    ask.finish ((ask.command requestId).event ((ask.command requestId).outcome org device)) =
      reported ((ask.command requestId).outcome org device) := by
  cases came : (ask.command requestId).outcome org device with
  | error error => cases ask <;> rfl
  | ok done =>
      have performed := (outcome_ok came).1
      cases ask with
      | alert record inserted =>
          obtain ⟨-, -, rfl⟩ := return_eq_ok performed
          rfl
      | cancelNotification recordId =>
          simp only [Ask.command, BridgeCommand.perform] at performed
          split at performed
          · obtain ⟨-, -, rfl⟩ := return_eq_ok performed
            rfl
          · cases performed
            rfl
      | queryPackage packageName userId =>
          obtain ⟨⟨info, label⟩, -, rfl⟩ := return_eq_ok performed
          rfl
      | startActivity intent userId =>
          obtain ⟨-, -, rfl⟩ := return_eq_ok performed
          rfl

theorem requestId_event (command : BridgeCommand) (outcome : Except Str Done) :
    (command.event outcome).requestId = some command.requestId := by
  cases command <;> rfl

namespace BridgeLink
variable {s : BridgeLink}

/-- Commands are carried out once and in the order they were sent, and a request that has its reply gives what
came of its own command. -/
structure Faithful (org : OrgJson) (s : BridgeLink) : Prop where
  once : (s.handled.map (·.1.requestId)).Nodup
  order : s.handled.map Prod.fst <+: s.session.written ∧ s.session.written.Sublist s.session.demanded
  own : ∀ n reply, s.session.broker.Returned n reply →
    ∃ (ask : Ask) (call : Call) (device : Device), s.session.asks[n]? = some ask ∧
      s.session.broker.calls[n]? = some call ∧
      (ask.command call.requestId, device) ∈ s.handled ∧
        ask.finish reply.event = reported ((ask.command call.requestId).outcome org device)

theorem Linked.heard (linked : Linked org s) (few : s.session.broker.calls.length < 2 ^ 63) {frame : Json}
    {event : BridgeEvent} (answered : s.Answered org frame)
      (read : BridgeEvent.deserialize frame = some event) :
    ∃ (n : Nat) (ask : Ask) (call : Call) (device : Device), s.session.asks[n]? = some ask ∧
      s.session.broker.calls[n]? = some call ∧
      (ask.command call.requestId, device) ∈ s.handled ∧
        event = (ask.command call.requestId).event ((ask.command call.requestId).outcome org device) := by
  obtain ⟨⟨command, device⟩, member, served⟩ := answered
  have written := linked.order.subset (List.mem_map_of_mem (f := Prod.fst) member)
  have within : command ∈ s.session.written ++ s.session.hand.toList ++ s.session.queue :=
    List.mem_append_left _ (List.mem_append_left _ written)
  obtain ⟨n, ask, call, asked, placed, rfl, -⟩ := linked.sent.demanded command (linked.sent.order.subset within)
  have typed := linked.sent.typed ask (List.mem_of_getElem? asked) call.requestId
  have small : (ask.command call.requestId).requestId.toNat < 2 ^ 63 := by
    have inside := (List.getElem?_eq_some_iff.mp placed).1
    rw [BridgeSession.requestId_command, linked.kept.numbered.named n call placed, UInt64.toNat_ofNat']
    omega
  have served : serve org device (ask.command call.requestId).toJson = .ok frame := served
  obtain ⟨-, event'⟩ := deserialize_answer typed ((serve_command typed small).symm.trans served)
  rw [read] at event'
  refine ⟨n, ask, call, device, asked, placed, member, ?_⟩
  split at event'
  next => exact Option.some.inj event'
  next => cases event'

theorem Linked.written (linked : Linked org s) : s.session.written.Sublist s.session.demanded := by
  refine List.Sublist.trans ?_ linked.sent.order
  rw [List.append_assoc]
  exact List.sublist_append_left _ _

theorem Linked.faithful (linked : Linked org s) (few : s.session.broker.calls.length < 2 ^ 63) :
    Faithful org s where
  once := by
    have ids : s.handled.map (·.1.requestId) = (s.handled.map Prod.fst).map (·.requestId) := by simp
    have distinct := linked.sent.once (by omega)
    have part := linked.order.sublist.trans linked.written
    rw [ids]
    exact distinct.sublist (part.map _)
  order := ⟨linked.order, linked.written⟩
  own n reply returned := by
    obtain ⟨call, placed, done⟩ := returned
    obtain ⟨came, call', placed', -, named⟩ := linked.kept.sound.matched n reply (.answered placed done)
    cases placed.symm.trans placed'
    rcases linked.came reply.event (List.mem_of_getElem? came) with silent | ⟨frame, answered, read⟩
    · cases silent.symm.trans named
    · obtain ⟨m, ask, other, device, asked, there, member, event⟩ := linked.heard few answered read
      have same : other.requestId = call.requestId := by
        rw [event, requestId_event, BridgeSession.requestId_command] at named
        exact Option.some.inj named
      obtain rfl := linked.kept.numbered.unique (by omega) there placed same
      cases there.symm.trans placed
      exact ⟨ask, call, device, asked, placed, member, event ▸ finish_event org device ask call.requestId⟩

/-- Over any interleaving of the daemon's threads, the bridge and the socket between them. -/
theorem link_faithful (org : OrgJson) (hello : BridgeHello) (actions : List LinkAction)
    (asks : Throughout (step org) Asks (attached hello) actions)
    (few : (actions.foldl (step org) (attached hello)).session.broker.calls.length < 2 ^ 63) :
    Faithful org (actions.foldl (step org) (attached hello)) :=
  ((linked_attached hello).run asks).faithful few

/-- Of two notifications that are taken down, the one that was asked for later goes out first. -/
def takenDown : List LinkAction :=
  [.daemon (.ask (.cancelNotification (.encode 1))), .daemon (.ask (.cancelNotification (.encode 2))),
    .daemon (.request 0), .daemon (.request 1), .daemon (.request 1), .daemon (.request 1),
    .daemon (.request 0), .daemon (.request 0), .daemon .receive, .daemon .write, .daemon .receive,
    .daemon .write, .handle emptyDevice, .handle emptyDevice, .arrive, .arrive,
    .daemon (.deliver 1), .daemon (.deliver 0), .daemon (.request 0), .daemon (.request 1)]

set_option maxRecDepth 20000 in
theorem link_faithful_takenDown :
    let s := takenDown.foldl (step .plain) (attached { androidSdk := 35, bridgeVersion := "0.1.0".toList })
    Faithful .plain s ∧ s.handled.map (·.1.requestId) = [2, 1] ∧
      s.session.broker.Returned 0 { arrival := 2, event := .notificationResult 1 true none } ∧
      s.session.broker.Returned 1 { arrival := 1, event := .notificationResult 2 true none } := by
  refine ⟨link_faithful _ _ _ ⟨fun _ => trivial, fun _ => trivial, ?_⟩ (by decide +kernel), by decide +kernel,
    ⟨_, rfl, rfl⟩, ⟨_, rfl, rfl⟩⟩
  exact ⟨trivial, trivial, trivial, trivial, trivial, trivial, trivial, trivial, trivial, trivial, trivial,
    trivial, trivial, trivial, trivial, trivial, trivial, trivial, trivial⟩

end BridgeLink
end CrashCatcher.Bridge
