import CrashCatcher.Bridge.Pending

namespace CrashCatcher.Bridge
open Lib Wire

def Stage.isSettled : Stage → Bool
  | .refused | .timedOut | .returned _ => true
  | _ => false

namespace BridgeBroker

structure Numbered (s : BridgeBroker) : Prop where
  next : s.nextRequestId = UInt64.ofNat (s.calls.length + 1)
  named : ∀ (n : Nat) (call : Call), s.calls[n]? = some call → call.requestId = UInt64.ofNat (n + 1)

/-- What every run keeps of its sessions: one that was detached has no sender, and no request that it
carries is in the map. -/
structure Sessions (s : BridgeBroker) : Prop where
  sender : ∀ session, s.commandSender = some session → session < s.sessions ∧ s.detached session = false ∧
    ∀ thread, s.detaches thread ≠ some (.unsent (some session))
  unsent : ∀ thread session, s.detaches thread = some (.unsent (some session)) → session < s.sessions
  detached : ∀ session, s.detached session = true → session < s.sessions
  carried : ∀ (n : Nat) (call : Call) session, s.calls[n]? = some call → call.stage = .waiting session →
    s.detached session = true → ∀ requestId, s.pending requestId ≠ some n

variable {s t : BridgeBroker}

theorem numbered_new : Numbered .new := ⟨rfl, fun _ _ placed => nomatch placed⟩

theorem sessions_new : Sessions .new := ⟨nofun, nofun, nofun, fun _ _ _ placed => nomatch placed⟩

theorem Numbered.unique (numbered : Numbered s) (few : s.calls.length < 2 ^ 64) {n m : Nat} {call other : Call}
    (placed : s.calls[n]? = some call) (placed' : s.calls[m]? = some other)
    (same : call.requestId = other.requestId) : n = m := by
  have within := (List.getElem?_eq_some_iff.mp placed).1
  have within' := (List.getElem?_eq_some_iff.mp placed').1
  rw [numbered.named n call placed, numbered.named m other placed'] at same
  have numbers := congrArg UInt64.toNat same
  rw [UInt64.toNat_ofNat', UInt64.toNat_ofNat'] at numbers
  omega

theorem Numbered.step (numbered : Numbered s) (action : Action) : Numbered (s.step action) := by
  have named : ∀ (n : Nat) (call : Call), (s.step action).calls[n]? = some call →
      call.requestId = UInt64.ofNat (n + 1) := by
    intro n later placed
    rcases call_step placed with ⟨-, rfl, rfl⟩ | ⟨call, was, same, -⟩
    · exact numbered.next
    · exact same.trans (numbered.named n call was)
  refine ⟨?_, named⟩
  rcases step_beside s action with beside | rfl | ⟨thread, rfl⟩ | rfl
  · rw [beside.next, beside.count]
    exact numbered.next
  · exact numbered.next
  · obtain ⟨calls, -, -, next⟩ := detach_calls s thread
    show (s.detach thread).nextRequestId = _
    rw [next]
    exact numbered.next.trans (congrArg (fun calls => UInt64.ofNat (calls.length + 1)) calls.symm)
  · show s.nextRequestId + 1 = UInt64.ofNat ((s.calls ++ [_]).length + 1)
    rw [numbered.next, List.length_append, List.length_singleton, UInt64.ofNat_add (s.calls.length + 1)]
    rfl

theorem Sessions.carried_step (sessions : Sessions s) (action : Action)
    (detached : (s.step action).detached = s.detached) (n : Nat) (later : Call) (session : Nat)
    (placed : (s.step action).calls[n]? = some later) (waits : later.stage = .waiting session)
    (gone : (s.step action).detached session = true) (requestId : UInt64) :
    (s.step action).pending requestId ≠ some n := by
  intro entry
  rw [detached] at gone
  rcases pending_step entry with old | ⟨-, -, -, after, registered, -⟩
  · rcases call_step placed with ⟨-, -, rfl⟩ | ⟨call, was, -, moved⟩
    · cases waits
    rw [waits] at moved
    cases moved with
    | stays same => exact sessions.carried n call session was same.symm gone requestId old
    | advances own next =>
        cases next with
        | send registered sender => cases (sessions.sender session sender).2.1.symm.trans gone
  · cases placed.symm.trans after
    cases waits.symm.trans registered

theorem taken_update {detaches : Nat → Option Detaching} {thread other : Nat} {stage : Option Detaching}
    {session : Nat} (taken : Function.update detaches thread stage other = some (.unsent (some session))) :
    detaches other = some (.unsent (some session)) ∨ stage = some (.unsent (some session)) := by
  by_cases same : other = thread
  · rw [same, Function.update_self] at taken
    exact .inr taken
  · exact .inl ((Function.update_of_ne same _ _).symm.trans taken)

theorem Sessions.detach (sessions : Sessions s) (thread : Nat) : Sessions (s.detach thread) := by
  have carried : (s.detach thread).detached = s.detached → ∀ (n : Nat) (later : Call) session,
      (s.detach thread).calls[n]? = some later → later.stage = .waiting session →
        (s.detach thread).detached session = true → ∀ requestId, (s.detach thread).pending requestId ≠ some n :=
    sessions.carried_step (.detach thread)
  cases stands : s.detaches thread with
  | none =>
      have ran : s.detach thread = { s with
          connected := false
          detaches := Function.update s.detaches thread (some .disconnected) } := by
        unfold BridgeBroker.detach
        rw [stands]
      rw [ran] at carried ⊢
      refine ⟨fun session sender => ?_, fun other session taken => ?_, sessions.detached, carried rfl⟩
      · obtain ⟨below, kept, untaken⟩ := sessions.sender session sender
        refine ⟨below, kept, fun other taken => ?_⟩
        rcases taken_update taken with old | new
        · exact untaken other old
        · cases new
      · rcases taken_update taken with old | new
        · exact sessions.unsent other session old
        · cases new
  | some detaching =>
      cases detaching with
      | disconnected =>
          have ran : s.detach thread = { s with
              commandSender := none
              detaches := Function.update s.detaches thread (some (.unsent s.commandSender)) } := by
            unfold BridgeBroker.detach
            rw [stands]
          rw [ran] at carried ⊢
          refine ⟨nofun, fun other session taken => ?_, sessions.detached, carried rfl⟩
          rcases taken_update taken with old | new
          · exact sessions.unsent other session old
          · cases sender : s.commandSender with
            | none =>
                rw [sender] at new
                cases new
            | some current =>
                rw [sender] at new
                cases new
                exact (sessions.sender session sender).1
      | unsent held =>
          have ran : s.detach thread = { s with
              pending := fun _ => none
              detaches := Function.update s.detaches thread none
              detached := fun other => s.detached other || held == some other } := by
            unfold BridgeBroker.detach
            rw [stands]
          rw [ran]
          have gone : ∀ session, (s.detached session || held == some session) = true →
              s.detached session = true ∨ held = some session := fun session either => by simpa using either
          refine ⟨fun session sender => ?_, fun other session taken => ?_, fun session either => ?_,
            fun _ _ _ _ _ _ _ => nofun⟩
          · obtain ⟨below, kept, untaken⟩ := sessions.sender session sender
            refine ⟨below, ?_, fun other taken => ?_⟩
            · have apart : held ≠ some session := fun same => untaken thread (same ▸ stands)
              simp [kept, apart]
            · rcases taken_update taken with old | new
              · exact untaken other old
              · cases new
          · rcases taken_update taken with old | new
            · exact sessions.unsent other session old
            · cases new
          · rcases gone session either with before | same
            · exact sessions.detached session before
            · exact sessions.unsent thread session (same ▸ stands)

theorem Sessions.step (sessions : Sessions s) (action : Action) : Sessions (s.step action) := by
  rcases step_beside s action with beside | rfl | ⟨thread, rfl⟩ | rfl
  · refine ⟨?_, ?_, ?_, sessions.carried_step action beside.detached⟩
    · rw [beside.sender, beside.sessions, beside.detached, beside.detaches]
      exact sessions.sender
    · rw [beside.detaches, beside.sessions]
      exact sessions.unsent
    · rw [beside.detached, beside.sessions]
      exact sessions.detached
  · have older : ∀ session, session < s.sessions → session < s.sessions + 1 := fun _ => Nat.lt_succ_of_lt
    refine ⟨fun session sender => ?_, fun thread session taken => older session
      (sessions.unsent thread session taken),
      fun session gone => older session (sessions.detached session gone), sessions.carried_step _ rfl⟩
    cases sender
    refine ⟨Nat.lt_succ_self _, ?_, fun thread taken => Nat.lt_irrefl _ (sessions.unsent thread _ taken)⟩
    cases gone : s.detached s.sessions with
    | false => exact gone
    | true => exact absurd (sessions.detached _ gone) (Nat.lt_irrefl _)
  · exact sessions.detach thread
  · exact ⟨sessions.sender, sessions.unsent, sessions.detached, sessions.carried_step _ rfl⟩

def Returned (s : BridgeBroker) (n : Nat) (reply : Reply) : Prop :=
  ∃ call, s.calls[n]? = some call ∧ call.stage = .returned (.ok reply)

def Late (s : BridgeBroker) (n : Nat) : Prop :=
  ∃ call, s.calls[n]? = some call ∧
    (call.stage.isSettled = true ∨ ∃ session, call.stage = .waiting session ∧ s.detached session = true)

/-- The event that came in under this number reaches no request that still waits. -/
structure Passed (s : BridgeBroker) (arrival : Nat) : Prop where
  came : arrival < s.arrived.length
  settled : ∀ n reply, s.Reaches n reply → reply.arrival = arrival →
    ∃ call, s.calls[n]? = some call ∧ call.stage.isSettled = true ∧ call.stage ≠ .returned (.ok reply)

theorem settled_step {action : Action} {n : Nat} {call : Call} {stage : Stage}
    (moved : s.StageStep action n call stage) (settled : call.stage.isSettled = true) :
    stage.isSettled = true ∧ ∀ reply, stage = .returned (.ok reply) → call.stage = .returned (.ok reply) := by
  cases moved with
  | stays same => exact ⟨same ▸ settled, fun reply returned => same.symm.trans returned⟩
  | timesOut waits =>
      rw [waits] at settled
      cases settled
  | advances own next =>
      cases next with
      | giveUp stopped gone => exact ⟨rfl, nofun⟩
      | enter before | reject before | register before | unsent before | refuse before | send before | answer before =>
          rw [before] at settled
          cases settled

theorem returned_step {action : Action} {n : Nat} {call : Call} {stage : Stage}
    {result : Except WireError Reply} (moved : s.StageStep action n call stage)
    (returned : call.stage = .returned result) : stage = .returned result := by
  cases moved with
  | stays same => exact same.trans returned
  | timesOut waits => cases waits.symm.trans returned
  | advances own next =>
      cases next with
      | giveUp stopped gone => rcases stopped with stopped | stopped <;> cases stopped.symm.trans returned
      | enter before | reject before | register before | unsent before | refuse before | send before | answer before =>
          cases before.symm.trans returned

theorem Passed.step {arrival : Nat} (passed : Passed s arrival) (action : Action) :
    Passed (s.step action) arrival := by
  refine ⟨passed.came.trans_le (step_grows s action).1.length_le, fun n reply there named => ?_⟩
  rcases reaches_step there with old | takes
  · obtain ⟨call, placed, settled, unanswered⟩ := passed.settled n reply old named
    obtain ⟨later, here, -, moved⟩ := call_persists placed action
    obtain ⟨settled, answered⟩ := settled_step moved settled
    exact ⟨later, here, settled, fun returned => unanswered (answered reply returned)⟩
  · have newest := takes.arrival
    have came := passed.came
    omega

theorem passed_of_late (sound : Sound s) (numbered : Numbered s) (sessions : Sessions s)
    (few : s.calls.length < 2 ^ 64) {n : Nat} {call : Call} {event : BridgeEvent}
    (placed : s.calls[n]? = some call) (id : event.requestId = some call.requestId) (late : s.Late n) :
    Passed (s.step (.handleEvent event)) s.arrived.length := by
  have came : s.arrived.length < (s.arrived ++ [event]).length := by
    rw [List.length_append, List.length_singleton]
    exact Nat.lt_succ_self _
  refine ⟨came, fun m reply there named => ?_⟩
  have fresh : ¬ s.Reaches m reply := by
    intro old
    have within := (List.getElem?_eq_some_iff.mp (sound.matched m reply old).1).1
    omega
  rcases reaches_step there with old | ⟨own, -, requestId, named', entry, -⟩
  · exact absurd old fresh
  · cases own
    obtain ⟨other, placed', owns, -⟩ := sound.owned requestId m entry
    have same : requestId = call.requestId := Option.some.inj (named'.symm.trans id)
    obtain rfl := numbered.unique few placed placed' (same.symm.trans owns.symm)
    cases placed.symm.trans placed'
    obtain ⟨_, placed', settled | ⟨session, waits, gone⟩⟩ := late
    · cases placed.symm.trans placed'
      refine ⟨call, ?_, settled, fun returned => fresh (.answered placed returned)⟩
      exact (congrArg (fun calls : List Call => calls[n]?) (handle_calls s _)).trans placed
    · cases placed.symm.trans placed'
      exact absurd entry (sessions.carried n call session placed waits gone requestId)

structure Kept (s : BridgeBroker) : Prop where
  sound : Sound s
  numbered : Numbered s
  sessions : Sessions s

theorem Kept.run (kept : Kept s) (actions : List Action) : Kept (s.run actions) := by
  induction actions generalizing s with
  | nil => exact kept
  | cons action rest ih =>
      exact ih ⟨kept.sound.step action, kept.numbered.step action, kept.sessions.step action⟩

theorem Passed.run {arrival : Nat} (passed : Passed s arrival) (actions : List Action) :
    Passed (s.run actions) arrival := by
  induction actions generalizing s with
  | nil => exact passed
  | cons action rest ih => exact ih (passed.step action)

theorem length_calls_run (s : BridgeBroker) (actions : List Action) :
    s.calls.length ≤ (s.run actions).calls.length := by
  induction actions generalizing s with
  | nil => exact le_refl _
  | cons action rest ih => exact (step_grows s action).2.trans (ih _)

theorem returned_run {n : Nat} {call : Call} {result : Except WireError Reply}
    (placed : s.calls[n]? = some call) (returned : call.stage = .returned result) (actions : List Action) :
    ∃ later, (s.run actions).calls[n]? = some later ∧ later.stage = .returned result := by
  induction actions generalizing s call with
  | nil => exact ⟨call, placed, returned⟩
  | cons action rest ih =>
      obtain ⟨later, here, -, moved⟩ := call_persists placed action
      exact ih here (returned_step moved returned)

structure Routed (actions : List Action) : Prop where
  /-- A request returns what came in under its own id. -/
  own : ∀ n reply, (new.run actions).Returned n reply →
    (new.run actions).arrived[reply.arrival]? = some reply.event ∧
      ∃ call, (new.run actions).calls[n]? = some call ∧ reply.event.requestId = some call.requestId
  /-- No two requests return one event. -/
  once : ∀ n m reply other, (new.run actions).Returned n reply → (new.run actions).Returned m other →
    reply.arrival = other.arrival → n = m
  /-- What a request returned is final. -/
  final : ∀ before rest, actions = before ++ rest → ∀ (n : Nat) (call : Call) result,
    (new.run before).calls[n]? = some call → call.stage = .returned result →
      ∃ later, (new.run actions).calls[n]? = some later ∧ later.stage = .returned result
  /-- A reply that comes too late for its request is returned by none. -/
  late : ∀ before event rest, actions = before ++ .handleEvent event :: rest → ∀ (n : Nat) (call : Call),
    (new.run before).calls[n]? = some call → event.requestId = some call.requestId → (new.run before).Late n →
      ∀ m reply, (new.run actions).Returned m reply → reply.arrival ≠ (new.run before).arrived.length

/-- Fewer than `2 ^ 64` requests get no reply but their own, and none that comes too late. -/
theorem replies_routed (actions : List Action) (few : (new.run actions).calls.length < 2 ^ 64) :
    Routed actions := by
  have start : Kept .new := ⟨sound_new, numbered_new, sessions_new⟩
  have kept := start.run actions
  have own : ∀ n reply, (new.run actions).Returned n reply →
      (new.run actions).arrived[reply.arrival]? = some reply.event ∧
        ∃ call, (new.run actions).calls[n]? = some call ∧ reply.event.requestId = some call.requestId := by
    rintro n reply ⟨call, placed, returned⟩
    obtain ⟨came, other, placed', -, id⟩ := kept.sound.matched n reply (.answered placed returned)
    exact ⟨came, other, placed', id⟩
  refine ⟨own, fun n m reply other first next same => ?_, ?_, ?_⟩
  · obtain ⟨came, call, placed, id⟩ := own n reply first
    obtain ⟨came', call', placed', id'⟩ := own m other next
    rw [same] at came
    have event := Option.some.inj (came.symm.trans came')
    have ids := Option.some.inj (id.symm.trans (event ▸ id'))
    exact kept.numbered.unique few placed placed' ids
  · rintro before rest rfl n call result placed returned
    have split : new.run (before ++ rest) = (new.run before).run rest := List.foldl_append
    rw [split]
    exact returned_run placed returned rest
  · rintro before event rest rfl n call placed id late m reply ⟨other, placed', returned⟩ same
    have split : new.run (before ++ .handleEvent event :: rest) =
        ((new.run before).step (.handleEvent event)).run rest := List.foldl_append
    have earlier := start.run before
    have fewer : (new.run before).calls.length < 2 ^ 64 := by
      refine lt_of_le_of_lt ?_ few
      rw [split]
      exact (step_grows _ _).2.trans (length_calls_run _ rest)
    have passed := (passed_of_late earlier.sound earlier.numbered earlier.sessions fewer placed id late).run
      rest
    rw [split] at placed'
    obtain ⟨call', here, -, unanswered⟩ := passed.settled m reply (.answered placed' returned) same
    cases placed'.symm.trans here
    exact unanswered returned

/-- Two requests wait, and are answered in the other order. -/
theorem answered_request_routed :
    let hello : BridgeEvent := .hello { androidSdk := 35, bridgeVersion := "0.1.0".toList }
    let posted : BridgeEvent := .notificationResult 1 true none
    let started : BridgeEvent := .activityResult 2 true none
    let actions : List Action := [.attach, .handleEvent hello, .nextId, .nextId, .request 0, .request 1,
      .request 1, .request 0, .request 0, .request 1, .handleEvent started, .handleEvent posted, .deliver 1,
      .deliver 0, .request 1, .request 0]
    Routed actions ∧ (new.run actions).Returned 0 { arrival := 2, event := posted } ∧
      (new.run actions).Returned 1 { arrival := 1, event := started } :=
  ⟨replies_routed _ (by decide), ⟨_, rfl, rfl⟩, _, rfl, rfl⟩

end BridgeBroker
end CrashCatcher.Bridge
