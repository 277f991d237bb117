import CrashCatcher.Lib.Run
import CrashCatcher.Lib.Utf8
import Mathlib.Data.List.Perm.Subperm

/-! The thread that starts the bridge process again and again, with the kernel and whoever stops it. -/

namespace CrashCatcher.Bridge
open Lib

structure Command where
  program : Str
  env : List (Str × Str)
  args : List Str
deriving DecidableEq

structure BridgeProcessSpec where
  appProcess : Str
  dexPath : Str
  mainClass : Str
  socketName : Str
  managerPackage : Str

namespace BridgeProcessSpec

def androidDefaults (dexPath socketName managerPackage : Str) : BridgeProcessSpec where
  appProcess := "/system/bin/app_process".toList
  dexPath
  mainClass := "io.github.lingqiqi5211.crashcatcher.bridge.CrashCatcherBridge".toList
  socketName
  managerPackage

def command (self : BridgeProcessSpec) : Command where
  program := self.appProcess
  env := [("CLASSPATH".toList, self.dexPath)]
  args := ["/system/bin".toList, self.mainClass, "--socket".toList, self.socketName,
    "--manager-package".toList, self.managerPackage]

end BridgeProcessSpec

structure Arguments where
  socketName : Str
  managerPackage : Str
deriving DecidableEq

def Arguments.scan : List Str → Option Str × Option Str → Option Str × Option Str
  | name :: value :: rest, (socket, manager) =>
      if name = "--socket".toList then scan rest (some value, manager)
      else if name = "--manager-package".toList then scan rest (socket, some value)
      else scan (value :: rest) (socket, manager)
  | _, found => found

def Arguments.parse (args : List Str) : Option Arguments :=
  match scan args (none, none) with
  | (some socketName, some managerPackage) => some { socketName, managerPackage }
  | _ => none

def durationMax : Nat := 18446744073709551615999999999

structure Duration where
  nanos : Nat
  le_max : nanos ≤ durationMax

namespace Duration

def zero : Duration := ⟨0, Nat.zero_le _⟩

def clamp (nanos : Nat) : Duration := ⟨min nanos durationMax, Nat.min_le_right _ _⟩

def fromSecs (secs : UInt32) : Duration := clamp (secs.toNat * 1000000000)

def saturatingMul (self : Duration) (n : Nat) : Duration := clamp (self.nanos * n)

def lesser (self other : Duration) : Duration := if self.nanos ≤ other.nanos then self else other

theorem saturatingMul_nanos (self : Duration) (n : Nat) :
    (self.saturatingMul n).nanos = min (self.nanos * n) durationMax := rfl

theorem lesser_nanos (self other : Duration) : (self.lesser other).nanos = min self.nanos other.nanos := by
  unfold lesser
  split <;> omega

end Duration

structure RestartPolicy where
  initialDelay : Duration
  maximumDelay : Duration
  stableAfter : Duration

namespace RestartPolicy

def standard : RestartPolicy where
  initialDelay := .fromSecs 1
  maximumDelay := .fromSecs 60
  stableAfter := .fromSecs 30

def stable (self : RestartPolicy) (ranFor : Duration) : Bool := decide (self.stableAfter.nanos ≤ ranFor.nanos)

def nextDelay (self : RestartPolicy) (previous ranFor : Duration) : Duration :=
  if self.stable ranFor then self.initialDelay else (previous.saturatingMul 2).lesser self.maximumDelay

end RestartPolicy

inductive BridgeState where
  | starting
  | running (pid restartCount : Nat)
  | backoff (delay : Duration) (restartCount : Nat) (detail : Str)
  | stopped

inductive SupervisorError where
  | invalidSpec
  | spawnThread

/-- Where the thread stands; a child is known by its place among those that were spawned. -/
inductive SupervisorPhase where
  | checking
  | starting (startedAt : Nat)
  | waiting (child startedAt : Nat)
  | waited (child : Nat) (ranFor : Duration)
  | terminating (child : Nat)
  | reaping (child : Nat)
  | parked
  | finished

def SupervisorPhase.child : SupervisorPhase → Option Nat
  | .waiting child _ | .waited child _ | .terminating child | .reaping child => some child
  | _ => none

/-- The supervisor and the processes that it spawned: which of them are alive, whose end it could not
see, and how long each attempt ran, the last one first. -/
structure BridgeSupervisor where
  spec : BridgeProcessSpec
  policy : RestartPolicy
  stop : Bool := false
  state : BridgeState := .starting
  phase : SupervisorPhase := .checking
  delay : Duration
  restarts : Nat := 0
  now : Nat := 0
  spawned : List (Nat × Command) := []
  alive : List Nat := []
  unseen : List Nat := []
  ran : List Duration := []

inductive SupervisorAction where
  | elapse (nanos : Nat)
  | exit (child : Nat)
  | stop
  | advance (spawned : Option Nat) (fails : Bool)

namespace BridgeSupervisor

def start (spec : BridgeProcessSpec) (policy : RestartPolicy) (threads : Bool) :
    Except SupervisorError BridgeSupervisor :=
  if spec.mainClass.isEmpty || spec.socketName.isEmpty then .error .invalidSpec
  else if threads then .ok { spec, policy, delay := policy.initialDelay }
  else .error .spawnThread

def backOff (self : BridgeSupervisor) (ranFor : Duration) : BridgeSupervisor :=
  let delay := self.policy.nextDelay self.delay ranFor
  let restarts := min (self.restarts + 1) 18446744073709551615
  { self with
    delay, restarts
    state := .backoff delay restarts "bridge exited or could not start".toList
    phase := .parked
    ran := ranFor :: self.ran }

def finish (self : BridgeSupervisor) : BridgeSupervisor := { self with state := .stopped, phase := .finished }

def returned (self : BridgeSupervisor) (child startedAt : Nat) : BridgeSupervisor :=
  { self with phase := .waited child (.clamp (self.now - startedAt)) }

/-- The thread up to its next look at the flag or the next thing it asks of the kernel: `spawned` is what
a spawn gives it, and `fails` whether the kernel refuses anything else. -/
def advance (self : BridgeSupervisor) (spawned : Option Nat) (fails : Bool) : BridgeSupervisor :=
  match self.phase with
  | .checking =>
      if self.stop then self.finish else { self with state := .starting, phase := .starting self.now }
  | .starting startedAt => match spawned with
      | some pid =>
          let child := self.spawned.length
          { self with
            spawned := self.spawned ++ [(pid, self.spec.command)]
            alive := child :: self.alive
            state := .running pid self.restarts
            phase := .waiting child startedAt }
      | none => self.backOff .zero
  | .waiting child startedAt =>
      if self.stop then self.returned child startedAt
      else if fails then { self.returned child startedAt with unseen := child :: self.unseen }
      else if child ∈ self.alive then self
      else self.returned child startedAt
  | .waited child ranFor =>
      if self.stop then { self with phase := .terminating child } else self.backOff ranFor
  | .terminating child =>
      { self with alive := if fails then self.alive else self.alive.filter (· ≠ child), phase := .reaping child }
  | .reaping child =>
      if fails then { self.finish with unseen := child :: self.unseen }
      else if child ∈ self.alive then self
      else self.finish
  | .parked => { self with phase := .checking }
  | .finished => self

def step (self : BridgeSupervisor) : SupervisorAction → BridgeSupervisor
  | .elapse nanos => { self with now := self.now + nanos }
  | .exit child => { self with alive := self.alive.filter (· ≠ child) }
  | .stop => { self with stop := true }
  | .advance spawned fails => self.advance spawned fails

def run (self : BridgeSupervisor) (actions : List SupervisorAction) : BridgeSupervisor :=
  actions.foldl step self

def shortRuns (policy : RestartPolicy) (ran : List Duration) : Nat :=
  (ran.takeWhile fun ranFor => !policy.stable ranFor).length

def Shown (self : BridgeSupervisor) : Prop :=
  let backedOff : BridgeState := .backoff self.delay self.restarts "bridge exited or could not start".toList
  match self.phase with
  | .checking => self.state = if self.ran = [] then .starting else backedOff
  | .starting _ => self.state = .starting
  | .waiting child _ | .waited child _ | .terminating child | .reaping child =>
      ∃ pid, self.spawned[child]? = some (pid, self.spec.command) ∧ self.state = .running pid self.restarts
  | .parked => self.ran ≠ [] ∧ self.state = backedOff
  | .finished => self.state = .stopped

structure Supervised (s : BridgeSupervisor) : Prop where
  held : ∀ child ∈ s.alive, s.phase.child = some child ∨ child ∈ s.unseen
  distinct : s.alive.Nodup
  known : ∀ child ∈ s.alive, child < s.spawned.length
  commanded : ∀ entry ∈ s.spawned, entry.2 = s.spec.command
  shown : s.Shown
  delayed : s.delay.nanos =
    min (s.policy.initialDelay.nanos * 2 ^ shortRuns s.policy s.ran) s.policy.maximumDelay.nanos
  counted : s.restarts = min s.ran.length 18446744073709551615
  released : ∀ child ranFor, s.phase = .waited child ranFor → s.stop = false → child ∈ s.alive →
    child ∈ s.unseen
  ends : s.stop = false → s.phase ≠ .finished ∧ ∀ child, s.phase ≠ .terminating child ∧
    s.phase ≠ .reaping child

def failures (actions : List SupervisorAction) : Nat :=
  actions.countP fun action => match action with
    | .advance _ fails => fails
    | _ => false

end BridgeSupervisor

theorem Arguments.parse_command (spec : BridgeProcessSpec) :
    parse (spec.command.args.drop 2) = some ⟨spec.socketName, spec.managerPackage⟩ := by
  simp [parse, scan, BridgeProcessSpec.command]

namespace RestartPolicy

theorem nextDelay_nanos (policy : RestartPolicy) (previous ranFor : Duration) :
    (policy.nextDelay previous ranFor).nanos = if policy.stable ranFor then policy.initialDelay.nanos
      else min (previous.nanos * 2) policy.maximumDelay.nanos := by
  unfold nextDelay
  split
  next => rfl
  next =>
    have top := policy.maximumDelay.le_max
    rw [Duration.lesser_nanos, Duration.saturatingMul_nanos]
    omega

end RestartPolicy

namespace BridgeSupervisor
variable {self : BridgeSupervisor}

theorem delay_doubles (policy : RestartPolicy) {previous : Duration} {ran : List Duration} (ranFor : Duration)
    (ordered : policy.initialDelay.nanos ≤ policy.maximumDelay.nanos)
    (delayed : previous.nanos =
      min (policy.initialDelay.nanos * 2 ^ shortRuns policy ran) policy.maximumDelay.nanos) :
    (policy.nextDelay previous ranFor).nanos =
      min (policy.initialDelay.nanos * 2 ^ shortRuns policy (ranFor :: ran)) policy.maximumDelay.nanos := by
  rw [policy.nextDelay_nanos, delayed]
  cases stable : policy.stable ranFor with
  | true =>
      have none : shortRuns policy (ranFor :: ran) = 0 := by simp [shortRuns, stable]
      simp [none, ordered]
  | false =>
      have one : shortRuns policy (ranFor :: ran) = shortRuns policy ran + 1 := by simp [shortRuns, stable]
      rw [one, Nat.pow_succ, ← Nat.mul_assoc]
      simp only [Bool.false_eq_true, if_false]
      omega

theorem Supervised.backOff (sound : self.Supervised) (ranFor : Duration)
    (ordered : self.policy.initialDelay.nanos ≤ self.policy.maximumDelay.nanos)
    (left : ∀ child ∈ self.alive, child ∈ self.unseen) : (self.backOff ranFor).Supervised where
  held child member := .inr (left child member)
  distinct := sound.distinct
  known := sound.known
  commanded := sound.commanded
  shown := ⟨by simp [BridgeSupervisor.backOff], rfl⟩
  delayed := delay_doubles self.policy ranFor ordered sound.delayed
  counted := by
    have counted := sound.counted
    simp only [BridgeSupervisor.backOff, List.length_cons]
    omega
  released _ _ phase := by cases phase
  ends _ := ⟨by simp [BridgeSupervisor.backOff], fun _ => by simp [BridgeSupervisor.backOff]⟩

theorem Supervised.finish (sound : self.Supervised) (ended : self.stop = true)
    (left : ∀ child ∈ self.alive, child ∈ self.unseen) : self.finish.Supervised where
  held child member := .inr (left child member)
  distinct := sound.distinct
  known := sound.known
  commanded := sound.commanded
  shown := rfl
  delayed := sound.delayed
  counted := sound.counted
  released _ _ phase := by cases phase
  ends running := Bool.noConfusion (running.symm.trans ended)

theorem Supervised.returned {child startedAt : Nat} {seen : List Nat} (sound : self.Supervised)
    (phase : self.phase = .waiting child startedAt) (more : self.unseen ⊆ seen)
    (released : self.stop = false → child ∈ self.alive → child ∈ seen) :
    { self.returned child startedAt with unseen := seen }.Supervised where
  held other member := by
    have held := sound.held other member
    rw [phase] at held
    exact held.imp_right (@more other)
  distinct := sound.distinct
  known := sound.known
  commanded := sound.commanded
  shown := by
    have shown := sound.shown
    unfold Shown at shown
    rwa [phase] at shown
  delayed := sound.delayed
  counted := sound.counted
  released other _ same := by
    cases same
    exact released
  ends _ := ⟨by simp [BridgeSupervisor.returned], fun _ => by simp [BridgeSupervisor.returned]⟩

theorem Supervised.only (sound : self.Supervised) {child : Nat} (holds : self.phase.child = some child)
    (dead : child ∉ self.alive) : ∀ other ∈ self.alive, other ∈ self.unseen := by
  intro other member
  rcases sound.held other member with same | lost
  · rw [holds] at same
    cases same
    exact absurd member dead
  · exact lost

theorem Supervised.loose (sound : self.Supervised) (free : self.phase.child = none) :
    ∀ other ∈ self.alive, other ∈ self.unseen := by
  intro other member
  rcases sound.held other member with same | lost
  · rw [free] at same
    cases same
  · exact lost

theorem Supervised.spawn {startedAt pid : Nat} (sound : self.Supervised)
    (phase : self.phase = .starting startedAt) :
    { self with
      spawned := self.spawned ++ [(pid, self.spec.command)]
      alive := self.spawned.length :: self.alive
      state := .running pid self.restarts
      phase := .waiting self.spawned.length startedAt }.Supervised where
  held child member := by
    rcases List.mem_cons.mp member with same | old
    · exact .inl (congrArg some same.symm)
    · exact .inr (sound.loose (by rw [phase]; rfl) child old)
  distinct := List.nodup_cons.mpr ⟨fun member => Nat.lt_irrefl _ (sound.known _ member), sound.distinct⟩
  known child member := by
    rw [List.length_append, List.length_singleton]
    rcases List.mem_cons.mp member with same | old
    · exact same ▸ Nat.lt_succ_self _
    · exact Nat.lt_succ_of_lt (sound.known child old)
  commanded entry member := by
    rcases List.mem_append.mp member with old | new
    · exact sound.commanded entry old
    · rw [List.mem_singleton.mp new]
  shown := ⟨pid, by simp, rfl⟩
  delayed := sound.delayed
  counted := sound.counted
  released _ _ same := by cases same
  ends _ := ⟨by simp, fun _ => by simp⟩

theorem Supervised.move {phase' : SupervisorPhase} {state : BridgeState} (sound : self.Supervised)
    (holds : phase'.child = self.phase.child) (shown : { self with phase := phase', state }.Shown)
    (released : ∀ child ranFor, phase' ≠ .waited child ranFor)
    (ends : self.stop = false → phase' ≠ .finished ∧ ∀ child, phase' ≠ .terminating child ∧
      phase' ≠ .reaping child) :
    { self with phase := phase', state }.Supervised where
  held child member := by
    rw [holds]
    exact sound.held child member
  distinct := sound.distinct
  known := sound.known
  commanded := sound.commanded
  shown := shown
  delayed := sound.delayed
  counted := sound.counted
  released child ranFor same := absurd same (released child ranFor)
  ends := ends

theorem Supervised.fewer {alive : List Nat} (sound : self.Supervised) (fewer : alive.Sublist self.alive) :
    { self with alive }.Supervised where
  held child member := sound.held child (fewer.subset member)
  distinct := sound.distinct.sublist fewer
  known child member := sound.known child (fewer.subset member)
  commanded := sound.commanded
  shown := sound.shown
  delayed := sound.delayed
  counted := sound.counted
  released child ranFor same running member := sound.released child ranFor same running (fewer.subset member)
  ends := sound.ends

theorem Supervised.advance (sound : self.Supervised) (spawned : Option Nat) (fails : Bool)
    (ordered : self.policy.initialDelay.nanos ≤ self.policy.maximumDelay.nanos) :
    (self.advance spawned fails).Supervised := by
  have shown := sound.shown
  unfold Shown at shown
  unfold BridgeSupervisor.advance
  cases phase : self.phase with
  | checking =>
      rw [phase] at shown
      have free : self.phase.child = none := by rw [phase]; rfl
      dsimp only
      split
      next stop => exact sound.finish stop (sound.loose free)
      next =>
        exact @Supervised.move self (.starting self.now) .starting sound free.symm rfl (fun _ _ => by simp)
          fun _ => ⟨by simp, fun _ => by simp⟩
  | starting startedAt =>
      cases spawned with
      | some pid => exact sound.spawn phase
      | none => exact sound.backOff .zero ordered (sound.loose (by rw [phase]; rfl))
  | waiting child startedAt =>
      dsimp only
      split
      next stop => exact sound.returned phase (List.Subset.refl _) fun running =>
        Bool.noConfusion (running.symm.trans stop)
      next =>
        split
        next => exact sound.returned phase (List.subset_cons_self _ _) fun _ _ => List.mem_cons_self
        next =>
          split
          next => exact sound
          next dead => exact sound.returned phase (List.Subset.refl _) fun _ alive => absurd alive dead
  | waited child ranFor =>
      rw [phase] at shown
      have holds : self.phase.child = some child := by rw [phase]; rfl
      dsimp only
      split
      next stop =>
        exact @Supervised.move self (.terminating child) self.state sound holds.symm shown
          (fun _ _ => by simp)
          fun running => Bool.noConfusion (running.symm.trans stop)
      next running =>
        refine sound.backOff ranFor ordered fun other member => ?_
        rcases sound.held other member with same | lost
        · rw [holds] at same
          cases same
          exact sound.released child ranFor phase (Bool.eq_false_iff.mpr running) member
        · exact lost
  | terminating child =>
      rw [phase] at shown
      have holds : self.phase.child = some child := by rw [phase]; rfl
      have ended : self.stop = true := Bool.of_not_eq_false fun running =>
        ((sound.ends running).2 child).1 phase
      have gone : (if fails then self.alive else self.alive.filter (· ≠ child)).Sublist self.alive := by
        split
        · exact List.Sublist.refl _
        · exact List.filter_sublist
      exact @Supervised.move _ (.reaping child) self.state (sound.fewer gone) holds.symm shown
        (fun _ _ => by simp)
        fun running => Bool.noConfusion (running.symm.trans ended)
  | reaping child =>
      have holds : self.phase.child = some child := by rw [phase]; rfl
      have ended : self.stop = true := Bool.of_not_eq_false fun running =>
        ((sound.ends running).2 child).2 phase
      dsimp only
      split
      next =>
        refine ({ sound with
          held := fun other member => (sound.held other member).imp_right (.tail _)
          released := fun _ _ same => by rw [phase] at same; cases same } :
            { self with unseen := child :: self.unseen }.Supervised).finish ended fun other member => ?_
        rcases sound.held other member with same | lost
        · rw [holds] at same
          cases same
          exact List.mem_cons_self
        · exact .tail _ lost
      next =>
        split
        next => exact sound
        next dead => exact sound.finish ended (sound.only holds dead)
  | parked =>
      rw [phase] at shown
      refine @Supervised.move self .checking self.state sound (by rw [phase]; rfl) ?_
        (fun _ _ => by simp) fun _ => ⟨by simp, fun _ => by simp⟩
      exact shown.2.trans (if_neg shown.1).symm
  | finished => exact sound

theorem Supervised.step (sound : self.Supervised) (action : SupervisorAction)
    (ordered : self.policy.initialDelay.nanos ≤ self.policy.maximumDelay.nanos) :
    (self.step action).Supervised := by
  cases action with
  | elapse nanos => exact { sound with }
  | exit child => exact sound.fewer List.filter_sublist
  | stop =>
      exact { sound with
        released := fun _ _ _ running => Bool.noConfusion running
        ends := fun running => Bool.noConfusion running }
  | advance spawned fails => exact sound.advance spawned fails ordered

theorem start_supervised {spec : BridgeProcessSpec} {policy : RestartPolicy} {threads : Bool}
    {s : BridgeSupervisor} (started : start spec policy threads = .ok s)
    (ordered : policy.initialDelay.nanos ≤ policy.maximumDelay.nanos) :
    s.Supervised ∧ s.policy = policy ∧ s.spec = spec ∧ s.unseen = [] ∧ s.stop = false := by
  unfold start at started
  split at started
  · cases started
  · split at started
    · cases started
      refine ⟨?_, rfl, rfl, rfl, rfl⟩
      exact {
        held := fun _ member => by cases member
        distinct := List.nodup_nil
        known := fun _ member => by cases member
        commanded := fun _ member => by cases member
        shown := rfl
        delayed := by simp [shortRuns, ordered]
        counted := rfl
        released := fun _ _ same => by cases same
        ends := fun _ => ⟨by simp, fun _ => by simp⟩ }
    · cases started

theorem failures_cons (action : SupervisorAction) (rest : List SupervisorAction) :
    failures (action :: rest) = failures [action] + failures rest :=
  @List.countP_append _ _ [action] rest

theorem step_frame (self : BridgeSupervisor) (action : SupervisorAction) :
    (self.step action).policy = self.policy ∧ (self.step action).spec = self.spec ∧
      (self.step action).unseen.length ≤ self.unseen.length + failures [action] := by
  cases action with
  | elapse nanos => exact ⟨rfl, rfl, Nat.le_refl _⟩
  | exit child => exact ⟨rfl, rfl, Nat.le_refl _⟩
  | stop => exact ⟨rfl, rfl, Nat.le_refl _⟩
  | advance spawned fails =>
      unfold step advance
      cases self.phase with
      | checking => dsimp only; split <;> exact ⟨rfl, rfl, Nat.le_add_right _ _⟩
      | starting startedAt => cases spawned <;> exact ⟨rfl, rfl, Nat.le_add_right _ _⟩
      | waiting child startedAt =>
          dsimp only
          split
          · exact ⟨rfl, rfl, Nat.le_add_right _ _⟩
          · split
            next failed => exact ⟨rfl, rfl, by simp [failures, failed]⟩
            next => split <;> exact ⟨rfl, rfl, Nat.le_add_right _ _⟩
      | waited child ranFor => dsimp only; split <;> exact ⟨rfl, rfl, Nat.le_add_right _ _⟩
      | terminating child => exact ⟨rfl, rfl, Nat.le_add_right _ _⟩
      | reaping child =>
          dsimp only
          split
          next failed => exact ⟨rfl, rfl, by simp [failures, failed]⟩
          next => split <;> exact ⟨rfl, rfl, Nat.le_add_right _ _⟩
      | parked => exact ⟨rfl, rfl, Nat.le_add_right _ _⟩
      | finished => exact ⟨rfl, rfl, Nat.le_add_right _ _⟩

theorem Supervised.run (sound : self.Supervised)
    (ordered : self.policy.initialDelay.nanos ≤ self.policy.maximumDelay.nanos)
    (actions : List SupervisorAction) : (self.run actions).Supervised ∧
      (self.run actions).policy = self.policy ∧ (self.run actions).spec = self.spec ∧
        (self.run actions).unseen.length ≤ self.unseen.length + failures actions := by
  induction actions generalizing self with
  | nil => exact ⟨sound, rfl, rfl, Nat.le_refl _⟩
  | cons action rest ih =>
      obtain ⟨policy, spec, few⟩ := self.step_frame action
      obtain ⟨sound', policy', spec', few'⟩ := ih (sound.step action ordered) (by rwa [policy])
      refine ⟨sound', policy'.trans policy, spec'.trans spec, ?_⟩
      rw [failures_cons]
      exact few'.trans (by omega)

theorem Supervised.few (sound : self.Supervised) :
    self.alive.length ≤ self.phase.child.toList.length + self.unseen.length := by
  rw [← List.length_append]
  refine (List.subperm_of_subset sound.distinct fun child member => ?_).length_le
  rcases sound.held child member with same | lost
  · exact List.mem_append_left _ (by simp [same])
  · exact List.mem_append_right _ lost

def advances (actions : List SupervisorAction) : Nat :=
  actions.countP fun action => match action with
    | .advance _ _ => true
    | _ => false

theorem advances_cons (action : SupervisorAction) (rest : List SupervisorAction) :
    advances (action :: rest) = advances [action] + advances rest :=
  @List.countP_append _ _ [action] rest

def remaining : SupervisorPhase → Nat
  | .starting _ => 5
  | .waiting _ _ => 4
  | .waited _ _ => 3
  | .terminating _ => 2
  | .parked => 2
  | .reaping _ => 1
  | .checking => 1
  | .finished => 0

def Ending (s : BridgeSupervisor) : Prop :=
  s.stop = true ∧ ∀ child, s.phase = .reaping child → child ∉ s.alive

theorem Ending.advance (ending : self.Ending) (spawned : Option Nat) : (self.advance spawned false).Ending ∧
    remaining (self.advance spawned false).phase ≤ remaining self.phase - 1 := by
  obtain ⟨stop, dead⟩ := ending
  unfold BridgeSupervisor.advance
  cases phase : self.phase with
  | checking =>
      dsimp only
      rw [if_pos stop]
      exact ⟨⟨stop, fun _ same => by cases same⟩, Nat.le_refl _⟩
  | starting startedAt =>
      cases spawned with
      | some pid => exact ⟨⟨stop, fun _ same => by cases same⟩, Nat.le_refl _⟩
      | none => exact ⟨⟨stop, fun _ same => by cases same⟩, by simp [remaining, backOff]⟩
  | waiting child startedAt =>
      dsimp only
      rw [if_pos stop]
      exact ⟨⟨stop, fun _ same => by cases same⟩, Nat.le_refl _⟩
  | waited child ranFor =>
      dsimp only
      rw [if_pos stop]
      exact ⟨⟨stop, fun _ same => by cases same⟩, Nat.le_refl _⟩
  | terminating child =>
      refine ⟨⟨stop, fun other same member => ?_⟩, Nat.le_refl _⟩
      cases same
      simp at member
  | reaping child =>
      dsimp only
      rw [if_neg Bool.false_ne_true, if_neg (dead child phase)]
      exact ⟨⟨stop, fun _ same => by cases same⟩, Nat.le_refl _⟩
  | parked => exact ⟨⟨stop, fun _ same => by cases same⟩, Nat.le_refl _⟩
  | finished =>
      exact ⟨⟨stop, fun _ same => by rw [phase] at same; cases same⟩, by rw [phase]; exact Nat.le_refl _⟩

theorem Ending.run (ending : self.Ending) {later : List SupervisorAction} (granted : failures later = 0) :
    remaining (self.run later).phase ≤ remaining self.phase - advances later := by
  induction later generalizing self with
  | nil => exact Nat.le_refl _
  | cons action rest ih =>
      have fails := failures_cons action rest
      have next : (self.step action).Ending ∧
          remaining (self.step action).phase ≤ remaining self.phase - advances [action] := by
        cases action with
        | elapse nanos => exact ⟨ending, Nat.le_refl _⟩
        | exit child =>
            exact ⟨⟨ending.1, fun other same member => ending.2 other same (List.mem_of_mem_filter member)⟩,
              Nat.le_refl _⟩
        | stop => exact ⟨⟨rfl, ending.2⟩, Nat.le_refl _⟩
        | advance spawned refused =>
            cases refused with
            | true =>
                have one : failures [.advance spawned true] = 1 := rfl
                omega
            | false => exact ending.advance spawned
      have last := ih next.1 (by omega)
      rw [advances_cons]
      exact last.trans (by omega)

theorem remaining_eq_zero {phase : SupervisorPhase} (none : remaining phase = 0) : phase = .finished := by
  cases phase <;> simp [remaining] at none ⊢

def shortLived : List SupervisorAction := [
  .advance none false, .advance (some 900) false, .advance none false, .elapse 2000000000, .exit 0,
  .advance none false, .advance none false, .advance none false, .advance none false, .advance none false]

def daemonBridge : BridgeProcessSpec :=
  .androidDefaults "/module/dex/cch_bridge.dex".toList "crash_catcher_daemon_bridge".toList
    "io.github.lingqiqi5211.crashcatcher".toList

end BridgeSupervisor
end CrashCatcher.Bridge
