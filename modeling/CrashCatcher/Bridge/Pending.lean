import CrashCatcher.Bridge.Steps

namespace CrashCatcher.Bridge
open Lib Lib.Run Wire

def Stage.isRegistered : Stage → Bool
  | .numbered | .admitted => false
  | _ => true

namespace BridgeBroker

/-- What every run keeps: an entry of the map belongs to a request that registered it, and a reply
reaches a request that registered, carries its id, and has taken its entry out of the map. -/
structure Sound (s : BridgeBroker) : Prop where
  owned : ∀ requestId n, s.pending requestId = some n →
    ∃ call, s.calls[n]? = some call ∧ call.requestId = requestId ∧ call.stage.isRegistered = true
  matched : ∀ n reply, s.Reaches n reply → s.arrived[reply.arrival]? = some reply.event ∧
    ∃ call, s.calls[n]? = some call ∧ call.stage.isRegistered = true ∧
      reply.event.requestId = some call.requestId
  taken : ∀ n reply, s.Reaches n reply → ∀ requestId, s.pending requestId ≠ some n

theorem sound_new : Sound .new where
  owned _ _ pending := by cases pending
  matched _ _ reaches := by
    cases reaches with
    | held taken => cases taken
    | mailed placed _ => cases placed
    | answered placed _ => cases placed
  taken _ _ reaches := by
    cases reaches with
    | held taken => cases taken
    | mailed placed _ => cases placed
    | answered placed _ => cases placed

variable {s : BridgeBroker}

theorem registered_step {action : Action} {n : Nat} {call : Call} {stage : Stage}
    (moved : s.StageStep action n call stage) (registered : call.stage.isRegistered = true) :
    stage.isRegistered = true := by
  cases moved with
  | stays same => exact same ▸ registered
  | timesOut waits => rfl
  | advances own next =>
      cases next with
      | enter numbered =>
          rw [numbered] at registered
          cases registered
      | _ => rfl

theorem Sound.step (sound : Sound s) (action : Action) : Sound (s.step action) := by
  have arrived := (step_grows s action).1
  refine ⟨fun requestId n entry => ?_, fun n reply there => ?_, fun n reply there requestId entry => ?_⟩
  · rcases pending_step entry with old | ⟨-, -, -, after, registered, named⟩
    · obtain ⟨call, placed, named, registered⟩ := sound.owned requestId n old
      obtain ⟨later, here, same, moved⟩ := call_persists placed action
      exact ⟨later, here, same.trans named, registered_step moved registered⟩
    · exact ⟨_, after, named, registered ▸ rfl⟩
  · rcases reaches_step there with old | takes
    · obtain ⟨came, call, placed, registered, named⟩ := sound.matched n reply old
      obtain ⟨later, here, same, moved⟩ := call_persists placed action
      obtain ⟨within, event⟩ := List.getElem?_eq_some_iff.mp came
      have came := (List.prefix_iff_getElem?.mp arrived reply.arrival within).trans (congrArg some event)
      exact ⟨came, later, here, registered_step moved registered, same ▸ named⟩
    · obtain ⟨requestId, id, entry, -⟩ := takes.entry
      obtain ⟨call, placed, named, registered⟩ := sound.owned requestId n entry
      obtain ⟨later, here, same, moved⟩ := call_persists placed action
      refine ⟨?_, later, here, registered_step moved registered, by rw [id, same, named]⟩
      rw [takes.own, takes.arrival]
      exact List.getElem?_concat_length
  · rcases reaches_step there with old | takes
    · rcases pending_step entry with was | ⟨-, placed, admitted, -, -, -⟩
      · exact sound.taken n reply old requestId was
      · obtain ⟨-, call, placed', registered, -⟩ := sound.matched n reply old
        cases placed.symm.trans placed'
        rw [admitted] at registered
        cases registered
    · rcases pending_step entry with was | ⟨own, -, -, -, -, -⟩
      · obtain ⟨other, -, entry', gone⟩ := takes.entry
        obtain ⟨call, placed, named, -⟩ := sound.owned other n entry'
        obtain ⟨call', placed', named', -⟩ := sound.owned requestId n was
        cases placed.symm.trans placed'
        have same : requestId = other := named'.symm.trans named
        cases (same ▸ entry).symm.trans gone
      · cases takes.own.symm.trans own

/-- A request that has returned has no entry in the map, which is empty once all have. -/
structure Clean (s : BridgeBroker) : Prop where
  removed : ∀ (n : Nat) (call : Call), s.calls[n]? = some call → call.stage.inProgress = false →
    ∀ requestId, s.pending requestId ≠ some n
  empty : (∀ call ∈ s.calls, call.stage.inProgress = false) → ∀ requestId, s.pending requestId = none

theorem Sound.clean (sound : Sound s) (removed : ∀ (n : Nat) (call : Call), s.calls[n]? = some call →
    call.stage.inProgress = false → ∀ requestId, s.pending requestId ≠ some n) : Clean s := by
  refine ⟨removed, fun ended requestId => ?_⟩
  cases entry : s.pending requestId with
  | none => rfl
  | some n =>
      obtain ⟨call, placed, -, -⟩ := sound.owned requestId n entry
      exact absurd entry (removed n call placed (ended call (List.mem_of_getElem? placed)) requestId)

end BridgeBroker

/-- A request that comes to send its command while its entry is in the map finds a sender. -/
def Action.FindsSender (s : BridgeBroker) : Action → Prop
  | .request n => ∀ call, s.calls[n]? = some call → call.stage = .registered → s.commandSender = none →
      s.pending call.requestId ≠ some n
  | _ => True

namespace BridgeBroker
variable {s : BridgeBroker}

theorem Clean.step (sound : Sound s) (clean : Clean s) {action : Action} (finds : action.FindsSender s) :
    Clean (s.step action) := by
  have sound' := sound.step action
  refine sound'.clean fun n later placed ended requestId entry => ?_
  obtain ⟨result, returned⟩ : ∃ result, later.stage = .returned result := by
    cases stage : later.stage with
    | returned result => exact ⟨result, rfl⟩
    | _ => rw [stage] at ended; cases ended
  rcases pending_step entry with old | ⟨-, -, -, after, registered, -⟩
  · rcases call_step placed with ⟨-, -, rfl⟩ | ⟨call, was, -, moved⟩
    · cases returned
    obtain ⟨call', was', named, registered⟩ := sound.owned requestId n old
    cases was.symm.trans was'
    rw [returned] at moved
    cases moved with
    | stays same => exact clean.removed n call was (same ▸ rfl) requestId old
    | advances own next =>
        cases next with
        | reject numbered =>
            rw [numbered] at registered
            cases registered
        | unsent registered detached =>
            rw [own] at finds
            exact finds call was registered detached (named ▸ old)
        | answer waits mailed => exact sound.taken n _ (.mailed was mailed) requestId old
        | giveUp settled gone =>
            rw [own] at entry
            have entry : (s.request n).pending requestId = some n := entry
            rw [request_of_placed was, gone] at entry
            exact (removePending_sub call.requestId requestId n entry).2 named.symm
  · cases placed.symm.trans after
    cases returned.symm.trans registered

theorem clean_step_iff (sound : Sound s) (clean : Clean s) (action : Action) :
    Clean (s.step action) ↔ action.FindsSender s := by
  refine ⟨fun after => ?_, clean.step sound⟩
  cases action with
  | request n =>
      intro call placed registered detached entry
      have ran : s.request n = s.setStage n (.returned (.error notConnected)) := by
        rw [request_of_placed placed]
        unfold advance
        rw [registered, detached]
      have after : Clean (s.request n) := after
      rw [ran] at after
      exact after.removed n _ (getElem?_setStage placed _) rfl call.requestId entry
  | _ => trivial

/-- Over whole runs, no request leaves an entry behind exactly when each that comes to send its command
while its entry is in the map finds a sender. -/
theorem no_leak_iff (actions : List Action) :
    Throughout step (fun s action => Clean (s.step action)) .new actions ↔
      Throughout step (fun s action => action.FindsSender s) .new actions := by
  refine throughout_iff (fun s => Sound s ∧ Clean s) (fun s action kept => ?_)
    (fun s action kept after => ?_) ?_
  · exact clean_step_iff kept.1 kept.2 action
  · exact ⟨kept.1.step action, after⟩
  · exact ⟨sound_new, sound_new.clean fun n call placed => nomatch placed⟩

/-- A detach between the connection check of a request and its entry into the map: the entry stays. -/
theorem detached_request_leaks :
    ∃ actions : List Action, ¬ Throughout step (fun s action => Clean (s.step action)) .new actions := by
  let hello : BridgeEvent := .hello { androidSdk := 35, bridgeVersion := "0.1.0".toList }
  refine ⟨[.attach, .handleEvent hello, .nextId, .request 0, .detach 0, .detach 0, .detach 0, .request 0,
    .request 0], fun throughout => ?_⟩
  obtain ⟨-, -, -, -, -, -, -, -, clean, -⟩ := throughout
  exact clean.removed 0 _ rfl rfl 1 rfl

end BridgeBroker
end CrashCatcher.Bridge
