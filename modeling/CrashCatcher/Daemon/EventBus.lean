import CrashCatcher.Lib.Run
import CrashCatcher.Wire.Event
import Mathlib.Data.List.Basic
import Mathlib.Logic.Function.Basic

namespace CrashCatcher.Daemon
open Lib Lib.Run Wire Store

def eventQueueCapacity : Nat := 256

inductive Notice where
  | crashRecorded (record : RecordSummary) (group : GroupSummary) (isNewGroup : Bool)
  | configChanged
deriving DecidableEq

def Notice.event : Notice → Event
  | crashRecorded record group isNewGroup => .crashRecorded record group isNewGroup
  | configChanged => .configChanged

structure Message where
  serial : Nat
  event : Event
deriving DecidableEq

structure Channel where
  queue : List Message := []
  connected : Bool := true
  received : List Message := []
  offered : Nat := 0
  missed : List Nat := []
deriving DecidableEq

inductive SendOutcome where
  | sent
  | full
  | disconnected
deriving DecidableEq

namespace Channel

def trySend (self : Channel) (event : Event) : SendOutcome × Channel :=
  if !self.connected then (.disconnected, self)
  else if self.queue.length < eventQueueCapacity then
    (.sent, { self with queue := self.queue ++ [⟨self.offered, event⟩], offered := self.offered + 1 })
  else (.full, { self with offered := self.offered + 1, missed := self.missed ++ [self.offered] })

def recv (self : Channel) : Channel :=
  match self.queue with
  | [] => self
  | message :: queue => { self with queue, received := self.received ++ [message] }

def hangUp (self : Channel) : Channel := { self with queue := [], connected := false }

end Channel

/-- A broadcast that holds the list of subscribers: those still to be offered the event, and those kept. -/
structure Broadcast where
  event : Event
  remaining : List Nat
  kept : List Nat
deriving DecidableEq

structure EventBus where
  channels : Nat → Channel
  next : Nat
  subscribers : List Nat
  broadcasting : Option Broadcast

inductive BusAction where
  | subscribe
  | broadcast (notice : Notice)
  /-- The broadcast under way goes on to the next subscriber, or ends. -/
  | retain
  | recv (subscriber : Nat)
  | hangUp (subscriber : Nat)
deriving DecidableEq

namespace EventBus

def new : EventBus := { channels := fun _ => {}, next := 0, subscribers := [], broadcasting := none }

def set (self : EventBus) (subscriber : Nat) (channel : Channel) : EventBus :=
  { self with channels := Function.update self.channels subscriber channel }

def step (self : EventBus) : BusAction → EventBus
  | .subscribe =>
      match self.broadcasting with
      | none => { self with next := self.next + 1, subscribers := self.subscribers ++ [self.next] }
      | some _ => self
  | .broadcast notice =>
      match self.broadcasting with
      | none => { self with broadcasting := some ⟨notice.event, self.subscribers, []⟩ }
      | some _ => self
  | .retain =>
      match self.broadcasting with
      | none => self
      | some ⟨_, [], kept⟩ => { self with subscribers := kept, broadcasting := none }
      | some ⟨event, subscriber :: remaining, kept⟩ =>
          let (outcome, channel) := (self.channels subscriber).trySend event
          let kept := if outcome = .disconnected then kept else kept ++ [subscriber]
          { self.set subscriber channel with broadcasting := some ⟨event, remaining, kept⟩ }
  | .recv subscriber => self.set subscriber (self.channels subscriber).recv
  | .hangUp subscriber => self.set subscriber (self.channels subscriber).hangUp

def run (actions : List BusAction) : EventBus := actions.foldl step new

def offering (self : EventBus) : BusAction → Option Nat
  | .retain => self.broadcasting.bind fun broadcast => broadcast.remaining.head?
  | _ => none

/-- The event is not offered to a subscriber whose queue is full. -/
def HasRoom (subscriber : Nat) (self : EventBus) (action : BusAction) : Prop :=
  self.offering action = some subscriber → (self.channels subscriber).queue.length < eventQueueCapacity

end EventBus

def Channel.receivedBefore (self : Channel) (point : Nat) : Nat :=
  self.received.countP fun message => message.serial < point

def Channel.reported (self : Channel) : Nat :=
  self.received.foldr (fun message total => message.event.droppedCount + total) 0

theorem Notice.droppedCount_event (notice : Notice) : notice.event.droppedCount = 0 := by
  cases notice <;> rfl

namespace Channel

/-- Every event offered was received, is queued or was missed, and none of them tells of missed ones. -/
structure Accounted (channel : Channel) : Prop where
  offered : channel.connected = true →
    ((channel.received ++ channel.queue).map Message.serial ++ channel.missed).Perm (List.range channel.offered)
  silent : ∀ message ∈ channel.received ++ channel.queue, message.event.droppedCount = 0

structure Follows (channel after : Channel) : Prop where
  connected : after.connected = true → channel.connected = true
  offered : channel.offered ≤ after.offered
  missed : ∃ later, after.missed = channel.missed ++ later ∧ ∀ serial ∈ later, channel.offered ≤ serial

namespace Follows

theorem refl (channel : Channel) : channel.Follows channel where
  connected := id
  offered := le_rfl
  missed := ⟨[], (List.append_nil _).symm, by simp⟩

theorem trans {first second third : Channel} (before : first.Follows second) (after : second.Follows third) :
    first.Follows third where
  connected := before.connected ∘ after.connected
  offered := before.offered.trans after.offered
  missed := by
    obtain ⟨earlier, missed, bound⟩ := before.missed
    obtain ⟨later, missed', bound'⟩ := after.missed
    refine ⟨earlier ++ later, by rw [missed', missed, List.append_assoc], fun serial member => ?_⟩
    rcases List.mem_append.mp member with old | new
    · exact bound serial old
    · exact before.offered.trans (bound' serial new)

end Follows

variable {self : Channel} {event : Event}

theorem trySend_disconnected (hungUp : self.connected = false) :
    self.trySend event = (.disconnected, self) := by
  simp [trySend, hungUp]

theorem trySend_sent (live : self.connected = true) (room : self.queue.length < eventQueueCapacity) :
    self.trySend event = (.sent, { self with
      queue := self.queue ++ [⟨self.offered, event⟩], offered := self.offered + 1 }) := by
  simp [trySend, live, room]

theorem trySend_full (live : self.connected = true) (full : ¬ self.queue.length < eventQueueCapacity) :
    self.trySend event = (.full, { self with
      offered := self.offered + 1, missed := self.missed ++ [self.offered] }) := by
  simp [trySend, live, full]

theorem Accounted.trySend (accounted : self.Accounted) (silent : event.droppedCount = 0) :
    (self.trySend event).2.Accounted := by
  cases live : self.connected with
  | false => rwa [trySend_disconnected live]
  | true =>
      have offered := accounted.offered live
      by_cases room : self.queue.length < eventQueueCapacity
      · rw [trySend_sent live room]
        refine ⟨fun _ => ?_, fun message member => ?_⟩
        · rw [List.range_succ, ← List.append_assoc, List.map_append, List.append_assoc]
          refine ((List.perm_append_comm.append_left _).trans ?_)
          rw [← List.append_assoc]
          exact offered.append_right _
        · rw [← List.append_assoc] at member
          rcases List.mem_append.mp member with old | new
          · exact accounted.silent message old
          · rw [List.mem_singleton.mp new]
            exact silent
      · rw [trySend_full live room]
        refine ⟨fun _ => ?_, accounted.silent⟩
        rw [List.range_succ, ← List.append_assoc]
        exact offered.append_right _

theorem Accounted.recv (accounted : self.Accounted) : self.recv.Accounted := by
  unfold Channel.recv
  cases queued : self.queue with
  | nil => exact accounted
  | cons message queue =>
      have together : self.received ++ [message] ++ queue = self.received ++ self.queue := by
        rw [queued, List.append_assoc]
        rfl
      refine ⟨fun live => ?_, fun other member => ?_⟩
      · rw [together]
        exact accounted.offered live
      · rw [together] at member
        exact accounted.silent other member

theorem Accounted.hangUp (accounted : self.Accounted) : self.hangUp.Accounted := by
  refine ⟨fun live => absurd live (by simp [Channel.hangUp]), fun message member => ?_⟩
  rw [Channel.hangUp, List.append_nil] at member
  exact accounted.silent message (List.mem_append_left _ member)

theorem follows_trySend (self : Channel) (event : Event) : self.Follows (self.trySend event).2 := by
  cases live : self.connected with
  | false =>
      rw [trySend_disconnected live]
      exact .refl self
  | true =>
      by_cases room : self.queue.length < eventQueueCapacity
      · rw [trySend_sent live room]
        exact ⟨id, Nat.le_succ _, [], (List.append_nil _).symm, by simp⟩
      · rw [trySend_full live room]
        exact ⟨id, Nat.le_succ _, [self.offered], rfl, by simp⟩

theorem queue_recv (self : Channel) : self.recv.queue = self.queue.tail := by
  unfold recv
  cases queued : self.queue with
  | nil => exact queued
  | cons message queue => rfl

theorem recv_keeps (self : Channel) : self.recv.connected = self.connected ∧ self.recv.offered = self.offered ∧
    self.recv.missed = self.missed := by
  unfold recv
  cases self.queue with
  | nil => exact ⟨rfl, rfl, rfl⟩
  | cons message queue => exact ⟨rfl, rfl, rfl⟩

theorem follows_recv (self : Channel) : self.Follows self.recv := by
  obtain ⟨connected, offered, missed⟩ := self.recv_keeps
  exact ⟨fun live => connected.symm.trans live, offered.ge, [], by rw [missed, List.append_nil], by simp⟩

theorem follows_hangUp (self : Channel) : self.Follows self.hangUp where
  connected live := absurd live (by simp [hangUp])
  offered := le_rfl
  missed := ⟨[], (List.append_nil _).symm, by simp⟩

theorem Accounted.received_or_missed (accounted : self.Accounted) (live : self.connected = true)
    (drained : self.queue = []) {point : Nat} (reached : point ≤ self.offered) :
    self.receivedBefore point + self.missed.countP (· < point) = point := by
  have counts := (accounted.offered live).countP_eq (· < point)
  rw [drained, List.append_nil, List.countP_append, List.countP_map] at counts
  have below : (List.range self.offered).countP (· < point) = point := by
    obtain ⟨later, total⟩ := Nat.exists_eq_add_of_le reached
    have old : (List.range point).countP (· < point) = point := by
      rw [List.countP_eq_length.mpr (by simp), List.length_range]
    have new : ((List.range later).map (point + ·)).countP (· < point) = 0 :=
      List.countP_eq_zero.mpr (by simp)
    rw [total, List.range_add, List.countP_append, old, new, Nat.add_zero]
  exact counts.trans below

theorem reported_eq_zero {received : List Message}
    (silent : ∀ message ∈ received, message.event.droppedCount = 0) :
    received.foldr (fun message total => message.event.droppedCount + total) 0 = 0 := by
  induction received with
  | nil => rfl
  | cons message received ih =>
      rw [List.foldr_cons, silent message List.mem_cons_self, Nat.zero_add]
      exact ih fun other member => silent other (List.mem_cons_of_mem message member)

theorem Accounted.reported (accounted : self.Accounted) : self.reported = 0 :=
  reported_eq_zero fun message received => accounted.silent message (List.mem_append_left _ received)

end Channel

namespace EventBus
variable {bus : EventBus} {n : Nat}

theorem channels_step (bus : EventBus) (action : BusAction) (n : Nat) :
    (bus.step action).channels n = bus.channels n ∧ bus.offering action ≠ some n ∨
      (∃ broadcast, bus.broadcasting = some broadcast ∧ bus.offering action = some n ∧
        (bus.step action).channels n = ((bus.channels n).trySend broadcast.event).2) ∨
      (bus.offering action ≠ some n ∧ ((bus.step action).channels n = (bus.channels n).recv ∨
        (bus.step action).channels n = (bus.channels n).hangUp)) := by
  have updated (subscriber : Nat) (channel : Channel) : (bus.set subscriber channel).channels n =
      if n = subscriber then channel else bus.channels n := Function.update_apply _ _ _ _
  cases action with
  | subscribe =>
      refine .inl ⟨?_, by simp [offering]⟩
      simp only [step]
      split <;> rfl
  | broadcast notice =>
      refine .inl ⟨?_, by simp [offering]⟩
      simp only [step]
      split <;> rfl
  | retain =>
      cases started : bus.broadcasting with
      | none => exact .inl ⟨by simp [step, started], by simp [offering, started]⟩
      | some broadcast =>
          obtain ⟨event, remaining, kept⟩ := broadcast
          cases remaining with
          | nil => exact .inl ⟨by simp [step, started], by simp [offering, started]⟩
          | cons subscriber remaining =>
              have next : bus.offering .retain = some subscriber := by simp [offering, started]
              have stepped : (bus.step .retain).channels n =
                  (bus.set subscriber ((bus.channels subscriber).trySend event).2).channels n := by
                simp [step, started]
              rw [updated] at stepped
              by_cases same : n = subscriber
              · rw [if_pos same] at stepped
                subst same
                exact .inr (.inl ⟨_, rfl, next, stepped⟩)
              · rw [if_neg same] at stepped
                exact .inl ⟨stepped, fun offered => same (Option.some.inj (offered.symm.trans next))⟩
  | recv subscriber =>
      have stepped := updated subscriber (bus.channels subscriber).recv
      by_cases same : n = subscriber
      · subst same
        rw [if_pos rfl] at stepped
        exact .inr (.inr ⟨by simp [offering], .inl stepped⟩)
      · rw [if_neg same] at stepped
        exact .inl ⟨stepped, by simp [offering]⟩
  | hangUp subscriber =>
      have stepped := updated subscriber (bus.channels subscriber).hangUp
      by_cases same : n = subscriber
      · subst same
        rw [if_pos rfl] at stepped
        exact .inr (.inr ⟨by simp [offering], .inr stepped⟩)
      · rw [if_neg same] at stepped
        exact .inl ⟨stepped, by simp [offering]⟩

structure Sound (bus : EventBus) : Prop where
  announced : ∀ broadcast, bus.broadcasting = some broadcast → broadcast.event.droppedCount = 0
  accounted : ∀ n, (bus.channels n).Accounted

theorem sound_new : new.Sound where
  announced _ started := by cases started
  accounted _ := ⟨fun _ => .refl _, fun _ member => by cases member⟩

theorem Sound.step (sound : bus.Sound) (action : BusAction) : (bus.step action).Sound where
  announced broadcast started := by
    cases action with
    | subscribe =>
        cases before : bus.broadcasting with
        | none => simp [EventBus.step, before] at started
        | some other =>
            simp only [EventBus.step, before] at started
            exact sound.announced broadcast (before.trans started)
    | broadcast notice =>
        cases before : bus.broadcasting with
        | none =>
            simp only [EventBus.step, before, Option.some.injEq] at started
            rw [← started]
            exact notice.droppedCount_event
        | some other =>
            simp only [EventBus.step, before] at started
            exact sound.announced broadcast (before.trans started)
    | retain =>
        cases before : bus.broadcasting with
        | none => simp [EventBus.step, before] at started
        | some other =>
            obtain ⟨event, remaining, kept⟩ := other
            cases remaining with
            | nil => simp [EventBus.step, before] at started
            | cons subscriber remaining =>
                simp only [EventBus.step, before, Option.some.injEq] at started
                rw [← started]
                exact sound.announced ⟨event, subscriber :: remaining, kept⟩ before
    | recv subscriber => exact sound.announced broadcast started
    | hangUp subscriber => exact sound.announced broadcast started
  accounted n := by
    rcases bus.channels_step action n with ⟨same, -⟩ | ⟨broadcast, started, -, sent⟩ | ⟨-, taken | hungUp⟩
    · rw [same]
      exact sound.accounted n
    · rw [sent]
      exact (sound.accounted n).trySend (sound.announced broadcast started)
    · rw [taken]
      exact (sound.accounted n).recv
    · rw [hungUp]
      exact (sound.accounted n).hangUp

theorem Sound.foldl (sound : bus.Sound) (actions : List BusAction) :
    (actions.foldl EventBus.step bus).Sound := by
  induction actions generalizing bus with
  | nil => exact sound
  | cons action actions ih => exact ih (sound.step action)

theorem sound_run (actions : List BusAction) : (run actions).Sound := sound_new.foldl actions

theorem follows_step (bus : EventBus) (action : BusAction) (n : Nat) :
    (bus.channels n).Follows ((bus.step action).channels n) := by
  rcases bus.channels_step action n with ⟨same, -⟩ | ⟨broadcast, -, -, sent⟩ | ⟨-, taken | hungUp⟩
  · rw [same]
    exact .refl _
  · rw [sent]
    exact Channel.follows_trySend _ _
  · rw [taken]
    exact Channel.follows_recv _
  · rw [hungUp]
    exact Channel.follows_hangUp _

theorem follows_run (bus : EventBus) (actions : List BusAction) (n : Nat) :
    (bus.channels n).Follows ((actions.foldl step bus).channels n) := by
  induction actions generalizing bus with
  | nil => exact .refl _
  | cons action actions ih => exact (bus.follows_step action n).trans (ih (bus.step action))

theorem missed_step (action : BusAction) (live : (bus.channels n).connected = true)
    (none_missed : (bus.channels n).missed = []) :
    ((bus.step action).channels n).missed = [] ↔ bus.HasRoom n action := by
  unfold HasRoom
  rcases bus.channels_step action n with ⟨same, elsewhere⟩ | ⟨broadcast, -, offered, sent⟩ | ⟨elsewhere, moved⟩
  · rw [same]
    exact ⟨fun _ offered => absurd offered elsewhere, fun _ => none_missed⟩
  · rw [sent]
    by_cases room : (bus.channels n).queue.length < eventQueueCapacity
    · rw [Channel.trySend_sent live room]
      exact ⟨fun _ _ => room, fun _ => none_missed⟩
    · rw [Channel.trySend_full live room]
      simp [offered, room]
  · have kept : ((bus.step action).channels n).missed = [] := by
      rcases moved with taken | hungUp
      · rw [taken, (bus.channels n).recv_keeps.2.2]
        exact none_missed
      · rw [hungUp]
        exact none_missed
    exact ⟨fun _ offered => absurd offered elsewhere, fun _ => kept⟩

theorem missed_run (actions : List BusAction) (none_missed : (bus.channels n).missed = [])
    (live : ((actions.foldl step bus).channels n).connected = true) :
    ((actions.foldl step bus).channels n).missed = [] ↔ Throughout step (HasRoom n) bus actions := by
  induction actions generalizing bus with
  | nil => exact ⟨fun _ => trivial, fun _ => none_missed⟩
  | cons action actions ih =>
      have later := (bus.step action).follows_run actions n
      have next := missed_step action ((bus.follows_step action n).connected (later.connected live)) none_missed
      by_cases missed : ((bus.step action).channels n).missed = []
      · exact (ih missed live).trans ⟨fun rest => ⟨next.mp missed, rest⟩, fun holds => holds.2⟩
      · obtain ⟨more, grown, -⟩ := later.missed
        constructor
        · intro emptied
          rw [List.foldl_cons, grown] at emptied
          exact absurd (List.append_eq_nil_iff.mp emptied).1 missed
        · exact fun holds => absurd (next.mpr holds.1) missed

theorem received_and_missed (before later : List BusAction) (n : Nat)
    (live : ((run (before ++ later)).channels n).connected = true)
    (drained : ((run (before ++ later)).channels n).queue = []) :
    ((run before).channels n).connected = true ∧
      ((run (before ++ later)).channels n).receivedBefore ((run before).channels n).offered +
        ((run before).channels n).missed.length = ((run before).channels n).offered := by
  have rest : run (before ++ later) = later.foldl step (run before) := List.foldl_append
  have follows := (run before).follows_run later n
  rw [← rest] at follows
  have earlier := ((sound_run before).accounted n).offered (follows.connected live)
  have accounted : ((run (before ++ later)).channels n).Accounted := (sound_run (before ++ later)).accounted n
  obtain ⟨more, missed, since⟩ := follows.missed
  refine ⟨follows.connected live, ?_⟩
  have total := accounted.received_or_missed live drained follows.offered
  have old : ((run before).channels n).missed.countP (· < ((run before).channels n).offered) =
      ((run before).channels n).missed.length :=
    List.countP_eq_length.mpr fun serial member =>
      decide_eq_true (List.mem_range.mp (earlier.subset (List.mem_append_right _ member)))
  have new : more.countP (· < ((run before).channels n).offered) = 0 :=
    List.countP_eq_zero.mpr fun serial member => by simpa using since serial member
  rwa [missed, List.countP_append, old, new] at total

end EventBus

/-- Once its queue has been emptied, a live subscriber was told of everything it was sent
before exactly when none of it found its queue full. -/
theorem reported_iff (before later : List BusAction) (n : Nat)
    (live : ((EventBus.run (before ++ later)).channels n).connected = true)
    (drained : ((EventBus.run (before ++ later)).channels n).queue = []) :
    ((EventBus.run before).channels n).offered =
        ((EventBus.run (before ++ later)).channels n).receivedBefore
          ((EventBus.run before).channels n).offered +
          ((EventBus.run (before ++ later)).channels n).reported ↔
      Throughout EventBus.step (EventBus.HasRoom n) .new before := by
  obtain ⟨live', split⟩ := EventBus.received_and_missed before later n live drained
  have silent : ((EventBus.run (before ++ later)).channels n).reported = 0 :=
    ((EventBus.sound_run (before ++ later)).accounted n).reported
  have missed : ((EventBus.run before).channels n).missed = [] ↔
      Throughout EventBus.step (EventBus.HasRoom n) .new before := EventBus.missed_run before rfl live'
  rw [← missed, ← List.length_eq_zero_iff]
  omega

def keptUp : List BusAction := [.subscribe, .broadcast .configChanged, .retain, .retain, .recv 0]

theorem kept_up_reported : ((EventBus.run keptUp).channels 0).offered =
    ((EventBus.run (keptUp ++ keptUp.tail)).channels 0).receivedBefore
      ((EventBus.run keptUp).channels 0).offered +
      ((EventBus.run (keptUp ++ keptUp.tail)).channels 0).reported :=
  (reported_iff keptUp keptUp.tail 0 rfl rfl).mpr
    ⟨nofun, nofun, fun _ => by decide, fun offered => absurd offered (by decide), nofun, trivial⟩

namespace EventBus

structure Idle (offered : Nat) (bus : EventBus) : Prop where
  free : bus.broadcasting = none
  subscribers : bus.subscribers = [0]
  connected : (bus.channels 0).connected = true
  offered : (bus.channels 0).offered = offered
  received : (bus.channels 0).received = []
  bounded : (bus.channels 0).queue.length ≤ eventQueueCapacity

def round : List BusAction := [.broadcast .configChanged, .retain, .retain]

theorem Idle.another {bus : EventBus} {offered : Nat} (idle : bus.Idle offered) :
    (round.foldl step bus).Idle (offered + 1) := by
  have started : bus.step (.broadcast .configChanged) =
      { bus with broadcasting := some ⟨.configChanged, [0], []⟩ } := by
    simp [step, idle.free, idle.subscribers, Notice.event]
  have sent : ((bus.channels 0).trySend .configChanged).1 ≠ .disconnected := by
    by_cases room : (bus.channels 0).queue.length < eventQueueCapacity
    · simp [Channel.trySend_sent idle.connected room]
    · simp [Channel.trySend_full idle.connected room]
  let after := bus.set 0 ((bus.channels 0).trySend .configChanged).2
  have offered : { bus with broadcasting := some ⟨.configChanged, [0], []⟩ }.step .retain =
      { after with broadcasting := some ⟨.configChanged, [], [0]⟩ } := by
    simp [step, sent, after, set]
  have ended : round.foldl step bus = { after with subscribers := [0], broadcasting := none } := by
    rw [round, List.foldl_cons, List.foldl_cons, List.foldl_cons, started, offered]
    rfl
  have channel : (round.foldl step bus).channels 0 = ((bus.channels 0).trySend .configChanged).2 := by
    rw [ended]
    exact Function.update_self 0 _ bus.channels
  refine ⟨by rw [ended], by rw [ended], ?_, ?_, ?_, ?_⟩ <;> rw [channel] <;>
    by_cases room : (bus.channels 0).queue.length < eventQueueCapacity
  · rw [Channel.trySend_sent idle.connected room]
    exact idle.connected
  · rw [Channel.trySend_full idle.connected room]
    exact idle.connected
  · rw [Channel.trySend_sent idle.connected room, idle.offered]
  · rw [Channel.trySend_full idle.connected room, idle.offered]
  · rw [Channel.trySend_sent idle.connected room]
    exact idle.received
  · rw [Channel.trySend_full idle.connected room]
    exact idle.received
  · rw [Channel.trySend_sent idle.connected room]
    rw [List.length_append]
    exact room
  · rw [Channel.trySend_full idle.connected room]
    exact idle.bounded

def flood (rounds : Nat) : List BusAction := .subscribe :: (List.replicate rounds round).flatten

theorem idle_flood (rounds : Nat) : (run (flood rounds)).Idle rounds := by
  induction rounds with
  | zero => exact ⟨rfl, rfl, rfl, rfl, rfl, Nat.zero_le _⟩
  | succ rounds ih =>
      have next : run (flood (rounds + 1)) = round.foldl step (run (flood rounds)) := by
        rw [run, flood, List.replicate_succ', List.flatten_append, List.flatten_singleton, ← List.cons_append,
          List.foldl_append]
        rfl
      rw [next]
      exact ih.another

theorem drain (bus : EventBus) (n : Nat) (reads : Nat) :
    let channel := ((List.replicate reads (.recv n)).foldl step bus).channels n
    channel.queue = (bus.channels n).queue.drop reads ∧ channel.connected = (bus.channels n).connected ∧
      channel.offered = (bus.channels n).offered := by
  induction reads generalizing bus with
  | zero => exact ⟨rfl, rfl, rfl⟩
  | succ reads ih =>
      have read : (bus.step (.recv n)).channels n = (bus.channels n).recv := Function.update_self _ _ _
      obtain ⟨queue, connected, offered⟩ := ih (bus.step (.recv n))
      rw [List.replicate_succ, List.foldl_cons]
      rw [read] at queue connected offered
      obtain ⟨connected', offered', -⟩ := (bus.channels n).recv_keeps
      refine ⟨queue.trans ?_, connected.trans connected', offered.trans offered'⟩
      rw [Channel.queue_recv, List.drop_tail, Nat.add_comm]

theorem run_flood_drained (rounds reads : Nat) :
    run (flood rounds ++ (round ++ List.replicate reads (.recv 0))) =
      (List.replicate reads (.recv 0)).foldl step (round.foldl step (run (flood rounds))) := by
  rw [run, List.foldl_append, List.foldl_append]
  rfl

end EventBus

/-- Of 257 events the last one does not fit the queue, and the subscriber never learns of it. -/
theorem missed_event_unreported :
    ¬ ∀ before later n, ((EventBus.run (before ++ later)).channels n).connected = true →
      ((EventBus.run (before ++ later)).channels n).queue = [] →
      ((EventBus.run before).channels n).offered < ((EventBus.run (before ++ later)).channels n).offered →
      ((EventBus.run before).channels n).offered =
        ((EventBus.run (before ++ later)).channels n).receivedBefore
          ((EventBus.run before).channels n).offered +
          ((EventBus.run (before ++ later)).channels n).reported := by
  intro always
  let later := EventBus.round ++ List.replicate eventQueueCapacity (.recv 0)
  let before := EventBus.flood (eventQueueCapacity + 1)
  have flooded : (EventBus.run before).Idle (eventQueueCapacity + 1) := EventBus.idle_flood _
  have ended : EventBus.run (before ++ later) =
      (List.replicate eventQueueCapacity (.recv 0)).foldl EventBus.step
        (EventBus.round.foldl EventBus.step (EventBus.run before)) := EventBus.run_flood_drained _ _
  obtain ⟨queue, connected, offered⟩ :=
    EventBus.drain (EventBus.round.foldl EventBus.step (EventBus.run before)) 0 eventQueueCapacity
  rw [← ended] at queue connected offered
  have drained := queue.trans (List.drop_eq_nil_of_le flooded.another.bounded)
  have live := connected.trans flooded.another.connected
  have sentLater : ((EventBus.run before).channels 0).offered <
      ((EventBus.run (before ++ later)).channels 0).offered := by
    rw [offered, flooded.offered, flooded.another.offered]
    exact Nat.lt_succ_self _
  have told := always before later 0 live drained sentLater
  obtain ⟨-, split⟩ := EventBus.received_and_missed before later 0 live drained
  have silent : ((EventBus.run (before ++ later)).channels 0).reported = 0 :=
    ((EventBus.sound_run (before ++ later)).accounted 0).reported
  have accounted : ((EventBus.run before).channels 0).Accounted := (EventBus.sound_run before).accounted 0
  have total := (accounted.offered flooded.connected).length_eq
  rw [flooded.received, List.length_append, List.length_map, List.nil_append, List.length_range,
    flooded.offered] at total
  have bounded := flooded.bounded
  omega

end CrashCatcher.Daemon
