import CrashCatcher.Bridge.Broker

namespace CrashCatcher.Bridge
open Lib Lib.Run Wire

namespace BridgeBroker
variable {s t : BridgeBroker}

/-! What a step can do. -/

theorem request_of_placed {n : Nat} {call : Call} (placed : s.calls[n]? = some call) :
    s.request n = s.advance n call := by
  unfold request
  rw [placed]

theorem request_of_missing {n : Nat} (missing : s.calls[n]? = none) : s.request n = s := by
  unfold request
  rw [missing]

theorem getElem?_setCall (s : BridgeBroker) (n : Nat) (f : Call → Call) (m : Nat) :
    (s.setCall n f).calls[m]? = s.calls[m]?.map fun call => if n = m then f call else call :=
  List.getElem?_modify f n s.calls m

/-- What a step that is about one request or one event leaves alone. -/
structure Beside (s t : BridgeBroker) : Prop where
  sender : t.commandSender = s.commandSender
  sessions : t.sessions = s.sessions
  detaches : t.detaches = s.detaches
  detached : t.detached = s.detached
  next : t.nextRequestId = s.nextRequestId
  count : t.calls.length = s.calls.length
  arrived : s.arrived <+: t.arrived

theorem beside_setCall (s : BridgeBroker) (n : Nat) (f : Call → Call) : Beside s (s.setCall n f) :=
  ⟨rfl, rfl, rfl, rfl, rfl, List.length_modify f s.calls n, List.prefix_refl _⟩

theorem Beside.refl (s : BridgeBroker) : Beside s s := ⟨rfl, rfl, rfl, rfl, rfl, rfl, List.prefix_refl _⟩

theorem beside_advance (s : BridgeBroker) (n : Nat) (call : Call) : Beside s (s.advance n call) := by
  have staged := fun (t : BridgeBroker) stage => beside_setCall t n fun call => { call with stage }
  obtain ⟨requestId, stage, mailbox⟩ := call
  cases stage with
  | numbered => exact staged s _
  | admitted => exact { staged s .registered with }
  | registered =>
      simp only [advance]
      split <;> exact staged s _
  | waiting session =>
      cases mailbox with
      | nil => exact .refl s
      | cons reply rest => exact staged s _
  | refused => exact { staged s (.returned (.error channelClosed)) with }
  | timedOut => exact { staged s (.returned (.error replyTimedOut)) with }
  | returned result => exact .refl s

theorem beside_handleEvent (s : BridgeBroker) (event : BridgeEvent) : Beside s (s.handleEvent event) := by
  have arrived : s.arrived <+: (s.handleEvent event).arrived := List.prefix_append _ _
  have finishes : ∀ requestId event, Beside s (s.finishRequest requestId event) := by
    intro requestId event
    unfold finishRequest
    split
    · exact { Beside.refl s with }
    · exact .refl s
  cases event with
  | hello hello => exact { Beside.refl s with arrived }
  | foregroundChanged packageName userId => exact { Beside.refl s with arrived }
  | activityResult requestId launched error => exact { finishes requestId _ with arrived }
  | notificationResult requestId posted error => exact { finishes requestId _ with arrived }
  | packageInfoResult requestId package error =>
      have cached : Beside s ((s.cache package).finishRequest requestId
          (.packageInfoResult requestId package error)) := by
        unfold finishRequest
        split
        · exact { Beside.refl s with }
        · exact { Beside.refl s with }
      exact { cached with arrived }

theorem step_beside (s : BridgeBroker) (action : Action) :
    Beside s (s.step action) ∨ action = .attach ∨ (∃ thread, action = .detach thread) ∨ action = .nextId := by
  cases action with
  | attach => exact .inr (.inl rfl)
  | detach thread => exact .inr (.inr (.inl ⟨thread, rfl⟩))
  | nextId => exact .inr (.inr (.inr rfl))
  | closeChannel session => exact .inl { Beside.refl s with }
  | handleEvent event => exact .inl (beside_handleEvent s event)
  | deliver position =>
      refine .inl ?_
      show Beside s (s.deliver position)
      unfold BridgeBroker.deliver
      split
      · exact .refl s
      next n reply _ => exact { beside_setCall s n fun call => { call with mailbox := call.mailbox ++ [reply] } with }
  | request n =>
      refine .inl ?_
      show Beside s (s.request n)
      cases placed : s.calls[n]? with
      | none => exact (request_of_missing placed).symm ▸ .refl s
      | some call => exact (request_of_placed placed).symm ▸ beside_advance s n call
  | timeOut n =>
      refine .inl ?_
      show Beside s (s.timeOut n)
      unfold BridgeBroker.timeOut
      split
      · exact beside_setCall s n _
      · exact .refl s

theorem detach_calls (s : BridgeBroker) (thread : Nat) : (s.detach thread).calls = s.calls ∧
    (s.detach thread).inHand = s.inHand ∧ (s.detach thread).arrived = s.arrived ∧
    (s.detach thread).nextRequestId = s.nextRequestId := by
  unfold BridgeBroker.detach
  split <;> exact ⟨rfl, rfl, rfl, rfl⟩

theorem step_grows (s : BridgeBroker) (action : Action) :
    s.arrived <+: (s.step action).arrived ∧ s.calls.length ≤ (s.step action).calls.length := by
  rcases step_beside s action with beside | rfl | ⟨thread, rfl⟩ | rfl
  · exact ⟨beside.arrived, beside.count.ge⟩
  · exact ⟨List.prefix_refl _, le_refl _⟩
  · obtain ⟨calls, -, arrived, -⟩ := detach_calls s thread
    exact ⟨arrived ▸ List.prefix_refl _, calls ▸ le_refl _⟩
  · refine ⟨List.prefix_refl _, ?_⟩
    show s.calls.length ≤ (s.calls ++ [_]).length
    rw [List.length_append]
    exact Nat.le_add_right _ _

theorem getElem?_setStage {n : Nat} {call : Call} (placed : s.calls[n]? = some call) (stage : Stage) :
    (s.setStage n stage).calls[n]? = some { call with stage } := by
  have here := getElem?_setCall s n (fun call => { call with stage }) n
  rw [placed, Option.map_some, if_pos rfl] at here
  exact here

inductive Advances (s : BridgeBroker) (n : Nat) (call : Call) : Stage → Prop
  | enter (numbered : call.stage = .numbered) : Advances s n call .admitted
  | reject (numbered : call.stage = .numbered) : Advances s n call (.returned (.error notConnected))
  | register (admitted : call.stage = .admitted) : Advances s n call .registered
  | unsent (registered : call.stage = .registered) (detached : s.commandSender = none) :
      Advances s n call (.returned (.error notConnected))
  | refuse (registered : call.stage = .registered) : Advances s n call .refused
  | send {session : Nat} (registered : call.stage = .registered) (sender : s.commandSender = some session) :
      Advances s n call (.waiting session)
  | answer {session : Nat} {reply : Reply} (waits : call.stage = .waiting session)
      (mailed : reply ∈ call.mailbox) :
      Advances s n call (.returned (.ok reply))
  | giveUp {error : WireError} (settled : call.stage = .refused ∨ call.stage = .timedOut)
      (gone : (s.advance n call).pending = (s.removePending call.requestId).pending) :
      Advances s n call (.returned (.error error))

theorem advance_calls (s : BridgeBroker) (n : Nat) (call : Call) : (s.advance n call).calls = s.calls ∨
    ∃ stage, s.Advances n call stage ∧ (s.advance n call).calls = (s.setStage n stage).calls := by
  obtain ⟨requestId, stage, mailbox⟩ := call
  cases stage with
  | numbered =>
      refine .inr ⟨_, ?_, rfl⟩
      split
      · exact .enter rfl
      · exact .reject rfl
  | admitted => exact .inr ⟨_, .register rfl, rfl⟩
  | registered =>
      cases sender : s.commandSender with
      | none =>
          simp only [advance, sender]
          exact .inr ⟨_, .unsent rfl sender, rfl⟩
      | some session =>
          simp only [advance, sender]
          refine .inr ⟨_, ?_, rfl⟩
          split
          · exact .refuse rfl
          · exact .send rfl sender
  | waiting session =>
      cases mailbox with
      | nil => exact .inl rfl
      | cons reply rest => exact .inr ⟨_, .answer rfl List.mem_cons_self, rfl⟩
  | refused => exact .inr ⟨_, .giveUp (.inl rfl) rfl, rfl⟩
  | timedOut => exact .inr ⟨_, .giveUp (.inr rfl) rfl, rfl⟩
  | returned result => exact .inl rfl

inductive StageStep (s : BridgeBroker) (action : Action) (n : Nat) (call : Call) : Stage → Prop
  | stays {stage : Stage} (same : stage = call.stage) : StageStep s action n call stage
  | advances {stage : Stage} (own : action = .request n) (next : s.Advances n call stage) :
      StageStep s action n call stage
  | timesOut {session : Nat} (waits : call.stage = .waiting session) : StageStep s action n call .timedOut

theorem stage_setStage {n m : Nat} {stage : Stage} {later : Call}
    (placed : (s.setStage n stage).calls[m]? = some later) :
    ∃ call, s.calls[m]? = some call ∧ later.requestId = call.requestId ∧
      (later.stage = call.stage ∨ (m = n ∧ later.stage = stage)) := by
  have calls := getElem?_setCall s n (fun call => { call with stage }) m
  obtain ⟨call, was, rfl⟩ := Option.map_eq_some_iff.mp (calls.symm.trans placed)
  refine ⟨call, was, ?_⟩
  by_cases same : n = m
  · rw [if_pos same]
    exact ⟨rfl, .inr ⟨same.symm, rfl⟩⟩
  · rw [if_neg same]
    exact ⟨rfl, .inl rfl⟩

theorem handle_calls (s : BridgeBroker) (event : BridgeEvent) : (s.handleEvent event).calls = s.calls := by
  have finishes : ∀ t : BridgeBroker, ∀ requestId event, (t.finishRequest requestId event).calls = t.calls := by
    intro t requestId event
    unfold finishRequest
    split <;> rfl
  cases event with
  | hello hello => rfl
  | foregroundChanged packageName userId => rfl
  | activityResult requestId launched error => exact finishes s _ _
  | notificationResult requestId posted error => exact finishes s _ _
  | packageInfoResult requestId package error => exact finishes (s.cache package) _ _

theorem call_step {action : Action} {n : Nat} {later : Call}
    (placed : (s.step action).calls[n]? = some later) :
    (action = .nextId ∧ n = s.calls.length ∧ later = { requestId := s.nextRequestId }) ∨
      ∃ call, s.calls[n]? = some call ∧ later.requestId = call.requestId ∧
        s.StageStep action n call later.stage := by
  have unchanged : (s.step action).calls = s.calls → ∃ call, s.calls[n]? = some call ∧
      later.requestId = call.requestId ∧ s.StageStep action n call later.stage := fun same =>
    ⟨later, same ▸ placed, rfl, .stays rfl⟩
  cases action with
  | attach => exact .inr (unchanged rfl)
  | closeChannel session => exact .inr (unchanged rfl)
  | detach thread => exact .inr (unchanged (detach_calls s thread).1)
  | handleEvent event => exact .inr (unchanged (handle_calls s event))
  | deliver position =>
      have placed : (s.deliver position).calls[n]? = some later := placed
      unfold BridgeBroker.deliver at placed
      split at placed
      · exact .inr ⟨later, placed, rfl, .stays rfl⟩
      next m reply _ =>
        have calls := getElem?_setCall s m (fun call => { call with mailbox := call.mailbox ++ [reply] }) n
        obtain ⟨call, was, rfl⟩ := Option.map_eq_some_iff.mp (calls.symm.trans placed)
        refine .inr ⟨call, was, ?_⟩
        split <;> exact ⟨rfl, .stays rfl⟩
  | nextId =>
      have placed : (s.calls ++ [{ requestId := s.nextRequestId }])[n]? = some later := placed
      rw [List.getElem?_append] at placed
      split at placed
      · exact .inr ⟨later, placed, rfl, .stays rfl⟩
      next outside =>
        refine .inl ⟨rfl, ?_, List.mem_singleton.mp (List.mem_of_getElem? placed)⟩
        have within := (List.getElem?_eq_some_iff.mp placed).1
        rw [List.length_singleton] at within
        omega
  | timeOut m =>
      have placed : (s.timeOut m).calls[n]? = some later := placed
      unfold BridgeBroker.timeOut at placed
      split at placed
      next requestId session mailbox waits =>
        obtain ⟨call, was, same, kept | ⟨rfl, stage⟩⟩ := stage_setStage placed
        · exact .inr ⟨call, was, same, .stays kept⟩
        · cases was.symm.trans waits
          exact .inr ⟨_, was, same, stage ▸ .timesOut rfl⟩
      · exact .inr ⟨later, placed, rfl, .stays rfl⟩
  | request m =>
      cases before : s.calls[m]? with
      | none => exact .inr (unchanged (congrArg calls (request_of_missing before)))
      | some call =>
          rcases advance_calls s m call with same | ⟨stage, advances, moved⟩
          · exact .inr (unchanged ((congrArg calls (request_of_placed before)).trans same))
          · have placed : (s.request m).calls[n]? = some later := placed
            rw [request_of_placed before, moved] at placed
            obtain ⟨other, was, same, kept | ⟨rfl, stage⟩⟩ := stage_setStage placed
            · exact .inr ⟨other, was, same, .stays kept⟩
            · cases was.symm.trans before
              exact .inr ⟨_, was, same, stage ▸ .advances rfl advances⟩

theorem call_persists {n : Nat} {call : Call} (placed : s.calls[n]? = some call) (action : Action) :
    ∃ later, (s.step action).calls[n]? = some later ∧ later.requestId = call.requestId ∧
      s.StageStep action n call later.stage := by
  have within := (List.getElem?_eq_some_iff.mp placed).1
  have here := List.getElem?_eq_getElem (within.trans_le (step_grows s action).2)
  rcases call_step here with ⟨-, outside, -⟩ | ⟨old, was, same, moved⟩
  · exact absurd within (outside ▸ Nat.lt_irrefl _)
  · cases placed.symm.trans was
    exact ⟨_, here, same, moved⟩

theorem removePending_sub (requestId other : UInt64) (n : Nat)
    (entry : (s.removePending requestId).pending other = some n) : s.pending other = some n ∧
      other ≠ requestId := by
  have entry : Function.update s.pending requestId none other = some n := entry
  by_cases same : other = requestId
  · subst same
    rw [Function.update_self] at entry
    cases entry
  · exact ⟨(Function.update_of_ne same _ _).symm.trans entry, same⟩

inductive Registers (s : BridgeBroker) (action : Action) (requestId : UInt64) (n : Nat) : Prop
  | intro {call later : Call} (own : action = .request n) (placed : s.calls[n]? = some call)
      (admitted : call.stage = .admitted) (after : (s.step action).calls[n]? = some later)
      (registered : later.stage = .registered) (named : later.requestId = requestId)

theorem pending_step {action : Action} {requestId : UInt64} {n : Nat}
    (entry : (s.step action).pending requestId = some n) :
    s.pending requestId = some n ∨ s.Registers action requestId n := by
  have finishes : ∀ t : BridgeBroker, ∀ other event, (t.finishRequest other event).pending requestId = some n →
      t.pending requestId = some n := by
    intro t other event entry
    unfold finishRequest at entry
    split at entry
    · exact (removePending_sub other requestId n entry).1
    · exact entry
  cases action with
  | attach => exact .inl entry
  | closeChannel session => exact .inl entry
  | detach thread =>
      have entry : (s.detach thread).pending requestId = some n := entry
      unfold BridgeBroker.detach at entry
      split at entry
      · exact .inl entry
      · exact .inl entry
      · cases entry
  | handleEvent event =>
      have entry : (s.handle event).pending requestId = some n := entry
      cases event with
      | hello hello => exact .inl entry
      | foregroundChanged packageName userId => exact .inl entry
      | activityResult other launched error => exact .inl (finishes s _ _ entry)
      | notificationResult other posted error => exact .inl (finishes s _ _ entry)
      | packageInfoResult other package error => exact .inl (finishes (s.cache package) _ _ entry)
  | deliver position =>
      have entry : (s.deliver position).pending requestId = some n := entry
      unfold BridgeBroker.deliver at entry
      split at entry <;> exact .inl entry
  | nextId => exact .inl entry
  | timeOut m =>
      have entry : (s.timeOut m).pending requestId = some n := entry
      unfold BridgeBroker.timeOut at entry
      split at entry <;> exact .inl entry
  | request m =>
      have entry : (s.request m).pending requestId = some n := entry
      cases placed : s.calls[m]? with
      | none => exact .inl (request_of_missing placed ▸ entry)
      | some call =>
          have runs := request_of_placed placed
          rw [runs] at entry
          obtain ⟨named, stage, mailbox⟩ := call
          cases stage with
          | numbered => exact .inl entry
          | admitted =>
              have entry : Function.update s.pending named (some m) requestId = some n := entry
              by_cases same : requestId = named
              · rw [same, Function.update_self] at entry
                cases entry
                have after : (s.request n).calls[n]? =
                    some { requestId := named, stage := .registered, mailbox } := by
                  rw [runs]
                  exact getElem?_setStage placed .registered
                exact .inr (.intro rfl placed rfl after rfl same.symm)
              · exact .inl ((Function.update_of_ne same _ _).symm.trans entry)
          | registered =>
              simp only [advance] at entry
              split at entry <;> exact .inl entry
          | waiting session =>
              cases mailbox with
              | nil => exact .inl entry
              | cons reply rest => exact .inl entry
          | refused => exact .inl (removePending_sub named requestId n entry).1
          | timedOut => exact .inl (removePending_sub named requestId n entry).1
          | returned result => exact .inl entry

/-- A reply that is on its way to a request, or that the request returned. -/
inductive Reaches (s : BridgeBroker) (n : Nat) (reply : Reply) : Prop
  | held (taken : (n, reply) ∈ s.inHand)
  | mailed {call : Call} (placed : s.calls[n]? = some call) (waits : reply ∈ call.mailbox)
  | answered {call : Call} (placed : s.calls[n]? = some call) (done : call.stage = .returned (.ok reply))

structure Takes (s : BridgeBroker) (action : Action) (n : Nat) (reply : Reply) : Prop where
  own : action = .handleEvent reply.event
  arrival : reply.arrival = s.arrived.length
  entry : ∃ requestId, reply.event.requestId = some requestId ∧ s.pending requestId = some n ∧
    (s.step action).pending requestId = none

theorem reaches_of_same (s t : BridgeBroker) (calls : t.calls = s.calls) (inHand : t.inHand = s.inHand)
    {n : Nat} {reply : Reply} (there : t.Reaches n reply) : s.Reaches n reply := by
  cases there with
  | held taken => exact .held (inHand ▸ taken)
  | mailed placed waits => exact .mailed (calls ▸ placed) waits
  | answered placed done => exact .answered (calls ▸ placed) done

theorem reaches_setStage {n : Nat} {stage : Stage}
    (answers : ∀ reply, stage = .returned (.ok reply) → s.Reaches n reply) {m : Nat} {reply : Reply}
    (there : (s.setStage n stage).Reaches m reply) : s.Reaches m reply := by
  have calls := getElem?_setCall s n (fun call => { call with stage }) m
  cases there with
  | held taken => exact .held taken
  | mailed here waits =>
      obtain ⟨old, was, rfl⟩ := Option.map_eq_some_iff.mp (calls.symm.trans here)
      refine .mailed was ?_
      split at waits <;> exact waits
  | answered here done =>
      obtain ⟨old, was, rfl⟩ := Option.map_eq_some_iff.mp (calls.symm.trans here)
      split at done
      next same => exact same ▸ answers reply done
      next => exact .answered was done

theorem reaches_advance {n m : Nat} {call : Call} (placed : s.calls[n]? = some call) {reply : Reply}
    (there : (s.advance n call).Reaches m reply) : s.Reaches m reply := by
  have answers : ∀ stage, (∀ reply, stage ≠ .returned (.ok reply)) → (s.setStage n stage).Reaches m reply →
      s.Reaches m reply := fun stage error there =>
    reaches_setStage (fun reply same => absurd same (error reply)) there
  obtain ⟨requestId, stage, mailbox⟩ := call
  cases stage with
  | numbered =>
      refine answers _ (fun reply same => ?_) there
      split at same <;> cases same
  | admitted =>
      exact answers .registered (fun _ => nofun)
        (reaches_of_same (s.setStage n .registered) (s.advance n ⟨requestId, .admitted, mailbox⟩) rfl rfl there)
  | registered =>
      cases sender : s.commandSender with
      | none =>
          simp only [advance, sender] at there
          exact answers (.returned (.error notConnected)) (fun _ same => by cases same) there
      | some session =>
          simp only [advance, sender] at there
          refine answers _ (fun reply same => ?_) there
          split at same <;> cases same
  | waiting session =>
      cases mailbox with
      | nil => exact there
      | cons first rest =>
          refine reaches_setStage (fun reply same => ?_) there
          cases same
          exact .mailed placed List.mem_cons_self
  | refused =>
      exact answers (.returned (.error channelClosed)) (fun _ same => by cases same)
        (reaches_of_same (s.setStage n _) (s.advance n ⟨requestId, .refused, mailbox⟩) rfl rfl there)
  | timedOut =>
      exact answers (.returned (.error replyTimedOut)) (fun _ same => by cases same)
        (reaches_of_same (s.setStage n _) (s.advance n ⟨requestId, .timedOut, mailbox⟩) rfl rfl there)
  | returned result => exact there

theorem reaches_deliver {position m : Nat} {late : Reply} (there : (s.deliver position).Reaches m late) :
    s.Reaches m late := by
  unfold BridgeBroker.deliver at there
  cases carried : s.inHand[position]? with
  | none =>
      rw [carried] at there
      exact there
  | some delivery =>
      obtain ⟨n, reply⟩ := delivery
      rw [carried] at there
      have held : s.Reaches n reply := .held (List.mem_of_getElem? carried)
      have calls := getElem?_setCall s n fun call => { call with mailbox := call.mailbox ++ [reply] }
      cases there with
      | held taken => exact .held (List.mem_of_mem_eraseIdx taken)
      | mailed here waits =>
          obtain ⟨old, was, rfl⟩ := Option.map_eq_some_iff.mp ((calls m).symm.trans here)
          split at waits
          next same =>
            subst same
            rcases List.mem_append.mp waits with earlier | new
            · exact .mailed was earlier
            · exact List.mem_singleton.mp new ▸ held
          next => exact .mailed was waits
      | answered here done =>
          obtain ⟨old, was, rfl⟩ := Option.map_eq_some_iff.mp ((calls m).symm.trans here)
          refine .answered was ?_
          split at done <;> exact done

theorem getElem?_nextId (s : BridgeBroker) {n : Nat} {call : Call} (placed : s.nextId.calls[n]? = some call) :
    s.calls[n]? = some call ∨ call = { requestId := s.nextRequestId } := by
  have placed : (s.calls ++ [{ requestId := s.nextRequestId }])[n]? = some call := placed
  rw [List.getElem?_append] at placed
  split at placed
  · exact .inl placed
  · exact .inr (List.mem_singleton.mp (List.mem_of_getElem? placed))

theorem reaches_finishRequest {requestId : UInt64} {event : BridgeEvent} {n : Nat} {reply : Reply}
    (there : (s.finishRequest requestId event).Reaches n reply) :
    s.Reaches n reply ∨ (reply = { arrival := s.arrived.length, event } ∧ s.pending requestId = some n ∧
      (s.finishRequest requestId event).pending requestId = none) := by
  unfold finishRequest at there ⊢
  cases entry : s.pending requestId with
  | none =>
      rw [entry] at there
      exact .inl there
  | some m =>
      rw [entry] at there
      cases there with
      | held taken =>
          rcases List.mem_append.mp taken with old | new
          · exact .inl (.held old)
          · cases List.mem_singleton.mp new
            exact .inr ⟨rfl, rfl, Function.update_self _ _ _⟩
      | mailed placed waits => exact .inl (.mailed placed waits)
      | answered placed done => exact .inl (.answered placed done)

theorem reaches_handleEvent {event : BridgeEvent} {n : Nat} {reply : Reply}
    (there : (s.handleEvent event).Reaches n reply) : s.Reaches n reply ∨
      s.Takes (.handleEvent event) n reply := by
  have there : (s.handle event).Reaches n reply :=
    reaches_of_same (s.handle event) (s.handleEvent event) rfl rfl there
  have takes : ∀ t : BridgeBroker, t.pending = s.pending → t.arrived = s.arrived → ∀ requestId,
      event.requestId = some requestId → s.handle event = t.finishRequest requestId event →
        reply = { arrival := t.arrived.length, event } ∧ t.pending requestId = some n ∧
          (t.finishRequest requestId event).pending requestId = none →
            s.Takes (.handleEvent event) n reply := by
    rintro t pending arrived requestId id same ⟨rfl, entry, gone⟩
    refine ⟨rfl, congrArg List.length arrived, requestId, id, pending ▸ entry, ?_⟩
    show (s.handle event).pending requestId = none
    rw [same]
    exact gone
  cases event with
  | hello hello => exact .inl (reaches_of_same s (s.handle (.hello hello)) rfl rfl there)
  | foregroundChanged packageName userId => exact .inl there
  | activityResult requestId launched error =>
      exact (reaches_finishRequest there).imp id (takes s rfl rfl requestId rfl rfl)
  | notificationResult requestId posted error =>
      exact (reaches_finishRequest there).imp id (takes s rfl rfl requestId rfl rfl)
  | packageInfoResult requestId package error =>
      exact (reaches_finishRequest (s := s.cache package) there).imp
        (reaches_of_same s (s.cache package) rfl rfl) (takes (s.cache package) rfl rfl requestId rfl rfl)

theorem reaches_step {action : Action} {n : Nat} {reply : Reply} (there : (s.step action).Reaches n reply) :
    s.Reaches n reply ∨ s.Takes action n reply := by
  cases action with
  | attach => exact .inl (reaches_of_same s s.attach rfl rfl there)
  | closeChannel session => exact .inl (reaches_of_same s (s.step (.closeChannel session)) rfl rfl there)
  | detach thread =>
      obtain ⟨calls, inHand, -, -⟩ := detach_calls s thread
      exact .inl (reaches_of_same s (s.detach thread) calls inHand there)
  | deliver position => exact .inl (reaches_deliver there)
  | nextId =>
      refine .inl ?_
      cases there with
      | held taken => exact .held taken
      | mailed placed waits =>
          rcases getElem?_nextId s placed with old | rfl
          · exact .mailed old waits
          · cases waits
      | answered placed done =>
          rcases getElem?_nextId s placed with old | rfl
          · exact .answered old done
          · cases done
  | timeOut m =>
      have there : (s.timeOut m).Reaches n reply := there
      unfold BridgeBroker.timeOut at there
      have silent : ∀ reply, Stage.timedOut = .returned (.ok reply) → s.Reaches m reply := nofun
      split at there
      · exact .inl (reaches_setStage silent there)
      · exact .inl there
  | request m =>
      have there : (s.request m).Reaches n reply := there
      cases placed : s.calls[m]? with
      | none => exact .inl (request_of_missing placed ▸ there)
      | some call =>
          rw [request_of_placed placed] at there
          exact .inl (reaches_advance placed there)
  | handleEvent event => exact reaches_handleEvent there

end BridgeBroker
end CrashCatcher.Bridge
