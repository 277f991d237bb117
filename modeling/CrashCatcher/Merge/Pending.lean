import CrashCatcher.Model.Record
import Mathlib.Order.Lattice

namespace CrashCatcher.Merge
open Lib Lib.Text Model

def defaultMergeWindowMs : I64 := 10000
def richSourceSettleWindowMs : I64 := 250
def maxSourceSkewMs : I64 := 2000

inductive EvidenceQuality where
  | text
  | structured
  | artifact
  | protobuf
deriving DecidableEq, Repr

namespace EvidenceQuality

def rank : EvidenceQuality → Nat
  | text => 0
  | structured => 1
  | artifact => 2
  | protobuf => 3

instance : LinearOrder EvidenceQuality :=
  LinearOrder.lift' rank fun a b h => by cases a <;> cases b <;> first | rfl | cases h

end EvidenceQuality

inductive FragmentPayload where
  | none
  | inline (bytes : List UInt8)
  | file (path : Str)
deriving DecidableEq

namespace FragmentPayload

def intoModel : FragmentPayload → PayloadSource
  | none => .none
  | inline bytes => .inline bytes
  | file path => .file path

def isNone (payload : FragmentPayload) : Bool := payload = none

end FragmentPayload

structure CrashFragment where
  source : SourceMask
  quality : EvidenceQuality
  kind : CrashKind
  packageName : Option Str
  processName : Str
  userId : Option Int
  pid : Int
  happenedAtMs : I64
  appVersionName : Option Str
  appVersionCode : Option Int
  isSystemApp : Option Bool
  isForeground : Option Bool
  droppedCount : Option Nat
  summaryClass : Option Str
  summaryText : Option Str
  frames : List Str
  payload : FragmentPayload
  sourceKey : Option Str
  sourceInstance : Option Str
deriving DecidableEq

def CrashFragment.new (source : SourceMask) (quality : EvidenceQuality) (kind : CrashKind)
    (processName : Str) (pid : Int) (happenedAtMs : I64) : CrashFragment where
  source := source
  quality := quality
  kind := kind
  packageName := none
  processName := processName
  userId := none
  pid := pid
  happenedAtMs := happenedAtMs
  appVersionName := none
  appVersionCode := none
  isSystemApp := none
  isForeground := none
  droppedCount := none
  summaryClass := none
  summaryText := none
  frames := []
  payload := .none
  sourceKey := none
  sourceInstance := none

structure MergedCrash where
  completionId : UInt64
  record : CrashRecord
  sourceKeys : List Str
deriving DecidableEq

def occurrenceIdentityMatches (leftPid : Int) (leftUser : Option Int) (rightPid : Int)
    (rightUser : Option Int) : Bool :=
  if leftPid ≠ 0 ∧ rightPid ≠ 0 then
    leftPid = rightPid && (match leftUser, rightUser with
      | some left, some right => left = right
      | _, _ => true)
  else match leftUser, rightUser with
    | some left, some right => left = right
    | _, _ => false

theorem occurrenceIdentityMatches_pid {leftPid rightPid : Int} {leftUser rightUser : Option Int}
    (same : occurrenceIdentityMatches leftPid leftUser rightPid rightUser = true)
    (left : leftPid ≠ 0) (right : rightPid ≠ 0) : leftPid = rightPid := by
  simp only [occurrenceIdentityMatches, left, right, ne_eq, not_false_eq_true, and_self, if_true,
    Bool.and_eq_true, decide_eq_true_eq] at same
  exact same.1

theorem occurrenceIdentityMatches_user {leftPid rightPid left right : Int}
    (same : occurrenceIdentityMatches leftPid (some left) rightPid (some right) = true) :
    left = right := by
  simp only [occurrenceIdentityMatches] at same
  split_ifs at same
  · simp only [Bool.and_eq_true, decide_eq_true_eq] at same
    exact same.2
  · simpa using same

theorem occurrenceIdentityMatches_of_pid {pid : Int} {leftUser rightUser : Option Int}
    (known : pid ≠ 0) (agree : ∀ left right, leftUser = some left → rightUser = some right →
      left = right) : occurrenceIdentityMatches pid leftUser pid rightUser = true := by
  simp only [occurrenceIdentityMatches, known, ne_eq, not_false_eq_true, and_self, if_true,
    decide_true, Bool.true_and]
  cases leftUser with
  | none => rfl
  | some left =>
      cases rightUser with
      | none => rfl
      | some right => simpa using agree left right rfl rfl

/-- A value with the quality of the evidence it was read from. -/
structure Ranked (α : Type) where
  quality : EvidenceQuality
  value : α
deriving DecidableEq

def Ranked.replace {α : Type} (self : Ranked α) (q : EvidenceQuality) (v : α) : Ranked α :=
  if self.quality ≤ q then ⟨q, v⟩ else self

def ranked {α : Type} (q : EvidenceQuality) (v : Option α) : Option (Ranked α) :=
  v.map fun value => ⟨q, value⟩

def mergeRanked {α : Type} (slot : Option (Ranked α)) (q : EvidenceQuality) (v : Option α) :
    Option (Ranked α) :=
  match v with
  | none => slot
  | some v => match slot with
    | some s => some (s.replace q v)
    | none => some ⟨q, v⟩

theorem mergeRanked_value {α : Type} (slot : Option (Ranked α)) (q : EvidenceQuality)
    (v : Option α) : (mergeRanked slot q v).map (·.value) = v ∨
      (mergeRanked slot q v).map (·.value) = slot.map (·.value) := by
  cases v with
  | none => exact .inr rfl
  | some v =>
      cases slot with
      | none => exact .inl rfl
      | some s =>
          simp only [mergeRanked, Ranked.replace]
          split_ifs
          · exact .inl rfl
          · exact .inr rfl

theorem mergeRanked_value_eq_none {α : Type} {slot : Option (Ranked α)} {q : EvidenceQuality}
    {v : Option α} (absent : (mergeRanked slot q v).map (·.value) = none) :
    v = none ∧ slot.map (·.value) = none := by
  cases v <;> cases slot <;> simp_all [mergeRanked]

structure Pending where
  kind : Ranked CrashKind
  package : Option (Ranked Str)
  process : Str
  user : Option (Ranked Int)
  pid : Int
  firstMs : I64
  lastMs : I64
  versionName : Option (Ranked Str)
  versionCode : Option (Ranked Int)
  system : Option (Ranked Bool)
  foreground : Option (Ranked Bool)
  dropped : Option Nat
  className : Option (Ranked Str)
  text : Option (Ranked Str)
  frames : Ranked (List Str)
  payload : Ranked FragmentPayload
  sources : SourceMask
  sourceKeys : List Str
  anrFile : Option Str
deriving DecidableEq

namespace Pending

def new (f : CrashFragment) : Pending where
  kind := ⟨f.quality, f.kind⟩
  package := ranked f.quality f.packageName
  process := f.processName
  user := ranked f.quality f.userId
  pid := f.pid
  firstMs := f.happenedAtMs
  lastMs := f.happenedAtMs
  versionName := ranked f.quality f.appVersionName
  versionCode := ranked f.quality f.appVersionCode
  system := ranked f.quality f.isSystemApp
  foreground := ranked f.quality f.isForeground
  dropped := f.droppedCount
  className := ranked f.quality f.summaryClass
  text := ranked f.quality f.summaryText
  frames := ⟨f.quality, f.frames⟩
  payload := ⟨f.quality, f.payload⟩
  sources := f.source
  sourceKeys := f.sourceKey.toList
  anrFile := if f.source = .anrFile then f.sourceInstance else none

def userValue (self : Pending) : Option Int := self.user.map (·.value)

@[simp] theorem new_userValue (f : CrashFragment) : (new f).userValue = f.userId := by
  simp [userValue, new, ranked, Function.comp_def]

/-- A fragment of the same ANR file: Android appends several dumps to one file. -/
def repeatedAnrFile (kind : CrashKind) (sources : SourceMask) (anrFile : Option Str)
    (f : CrashFragment) : Bool :=
  kind = .anr && f.source = .anrFile && sources.contains .anrFile &&
    match anrFile, f.sourceInstance with
    | some known, some incoming => known = incoming
    | _, _ => false

/-- `u64::try_from(skew).unwrap_or(u64::MAX)`. -/
def skewLimit (skew : I64) : Nat := if 0 ≤ skew.val then skew.val.toNat else 2 ^ 64 - 1

def matchesFragment (self : Pending) (f : CrashFragment) (sourceSkewMs mergeWindowMs : I64) : Bool :=
  let repeated := f.kind = .anr && repeatedAnrFile self.kind.value self.sources self.anrFile f
  let allowedSkewMs := if repeated then mergeWindowMs else sourceSkewMs
  (!self.sources.contains f.source || repeated) &&
    occurrenceIdentityMatches self.pid self.userValue f.pid f.userId &&
    self.process = f.processName && self.kind.value = f.kind &&
    self.firstMs.absDiff f.happenedAtMs ≤ skewLimit allowedSkewMs

def mergeSourceKeys (keys : List Str) : Option Str → List Str
  | none => keys
  | some key => if keys.contains key then keys else keys ++ [key]

def mergeDropped : Option Nat → Option Nat → Option Nat
  | some a, some b => some (max a b)
  | a, b => a.or b

def mergeFrames (self : Ranked (List Str)) (q : EvidenceQuality) (frames : List Str) :
    Ranked (List Str) :=
  if !frames.isEmpty && (self.value.isEmpty || self.quality ≤ q) then self.replace q frames
  else self

def mergePayload (self : Ranked FragmentPayload) (q : EvidenceQuality)
    (payload : FragmentPayload) : Ranked FragmentPayload :=
  if !payload.isNone && (self.value.isNone || self.quality ≤ q) then self.replace q payload
  else self

/-- The emptiness escape of the two guards is void: `replace` checks the quality again. -/
theorem guarded_replace {α : Type} (self : Ranked α) (q : EvidenceQuality) (v : α)
    (carried empty : Bool) :
    (if carried && (empty || self.quality ≤ q) then self.replace q v else self) =
      if carried then self.replace q v else self := by
  by_cases le : self.quality ≤ q
  · simp [le]
  · cases carried <;> cases empty <;> simp [Ranked.replace, le]

theorem mergeFrames_eq (slot : Ranked (List Str)) (q : EvidenceQuality) (frames : List Str) :
    mergeFrames slot q frames = if frames ≠ [] ∧ slot.quality ≤ q then ⟨q, frames⟩ else slot := by
  rw [mergeFrames, guarded_replace, Ranked.replace]
  cases frames with
  | nil => rfl
  | cons frame frames => simp

def merge (self : Pending) (f : CrashFragment) : Pending where
  kind := self.kind.replace f.quality f.kind
  package := mergeRanked self.package f.quality f.packageName
  process := self.process
  user := mergeRanked self.user f.quality f.userId
  pid := if self.pid = 0 ∧ f.pid ≠ 0 then f.pid else self.pid
  firstMs := min self.firstMs f.happenedAtMs
  lastMs := max self.lastMs f.happenedAtMs
  versionName := mergeRanked self.versionName f.quality f.appVersionName
  versionCode := mergeRanked self.versionCode f.quality f.appVersionCode
  system := mergeRanked self.system f.quality f.isSystemApp
  foreground := mergeRanked self.foreground f.quality f.isForeground
  dropped := mergeDropped self.dropped f.droppedCount
  className := mergeRanked self.className f.quality f.summaryClass
  text := mergeRanked self.text f.quality f.summaryText
  frames := mergeFrames self.frames f.quality f.frames
  payload := mergePayload self.payload f.quality f.payload
  sources := self.sources.union f.source
  sourceKeys := mergeSourceKeys self.sourceKeys f.sourceKey
  anrFile := if f.source = .anrFile ∧ self.anrFile = none then f.sourceInstance else self.anrFile

def completionDelayMs (self : Pending) (mergeWindowMs : I64) : I64 :=
  let hasEvents := self.sources.contains .events
  let hasDropbox := self.sources.contains .dropbox
  let hasUser := self.user.isSome
  let settled := richSourceSettleWindowMs
  match self.kind.value with
  | .javaException =>
    if hasEvents && self.sources.contains .crashBuffer then 0
    else if hasUser && hasDropbox then settled else mergeWindowMs
  | .nativeCrash =>
    if hasEvents && self.sources.contains .tombstone && self.kind.quality = .protobuf then 0
    else if hasUser && self.sources.contains .tombstone then settled
    else if hasUser && hasDropbox then settled else mergeWindowMs
  | .anr =>
    if hasEvents && self.sources.contains .anrFile then 0
    else if hasUser && hasDropbox then settled else mergeWindowMs
  | .wtf => if hasEvents || hasDropbox then 0 else mergeWindowMs

def finish (self : Pending) (completionId : UInt64) : MergedCrash where
  completionId := completionId
  sourceKeys := self.sourceKeys
  record :=
    let className := self.className.map (·.value)
    let text := self.text.map (·.value)
    { kind := self.kind.value
      packageName := (self.package.map (·.value)).getD (before ':' self.process)
      processName := self.process
      userId := self.userValue.getD 0
      pid := self.pid
      happenedAtMs := self.firstMs
      appVersionName := self.versionName.map (·.value)
      appVersionCode := self.versionCode.map (·.value)
      isSystemApp := (self.system.map (·.value)).getD false
      -- no collector knows this; the daemon settles it while enriching
      packageInstalled := true
      isForeground := self.foreground.map (·.value)
      selfHandled := self.kind.value = .javaException && self.sources.contains .crashBuffer &&
        !self.sources.contains .events
      droppedCount := self.dropped
      sources := self.sources
      summary := .new className text
      fingerprint := .fromRawFrames self.kind.value
        ((className.or text).getD self.kind.value.debug) self.frames.value
      payload := self.payload.value.intoModel }

def ofFragments (first : CrashFragment) (rest : List CrashFragment) : Pending :=
  rest.foldl merge (new first)

section Projections
variable (self : Pending) (f : CrashFragment)

@[simp] theorem merge_process : (self.merge f).process = self.process := rfl
@[simp] theorem merge_kind : (self.merge f).kind = self.kind.replace f.quality f.kind := rfl
@[simp] theorem merge_pid :
    (self.merge f).pid = if self.pid = 0 ∧ f.pid ≠ 0 then f.pid else self.pid := rfl
@[simp] theorem merge_user :
    (self.merge f).user = mergeRanked self.user f.quality f.userId := rfl
@[simp] theorem merge_firstMs : (self.merge f).firstMs = min self.firstMs f.happenedAtMs := rfl
@[simp] theorem merge_lastMs : (self.merge f).lastMs = max self.lastMs f.happenedAtMs := rfl
@[simp] theorem merge_sources : (self.merge f).sources = self.sources.union f.source := rfl
@[simp] theorem merge_frames :
    (self.merge f).frames = mergeFrames self.frames f.quality f.frames := rfl
@[simp] theorem merge_payload :
    (self.merge f).payload = mergePayload self.payload f.quality f.payload := rfl
@[simp] theorem merge_sourceKeys :
    (self.merge f).sourceKeys = mergeSourceKeys self.sourceKeys f.sourceKey := rfl

theorem merge_userValue : (self.merge f).userValue = f.userId ∨
    (self.merge f).userValue = self.userValue := mergeRanked_value ..

theorem merge_userValue_eq_none (absent : (self.merge f).userValue = none) :
    f.userId = none ∧ self.userValue = none := mergeRanked_value_eq_none absent

variable {self f} in
theorem merge_userValue_kept {user : Int} (known : self.userValue = some user)
    (identity : occurrenceIdentityMatches self.pid self.userValue f.pid f.userId = true) :
    (self.merge f).userValue = some user := by
  rcases self.merge_userValue f with new | kept
  · cases incoming : f.userId with
    | none => simp [(self.merge_userValue_eq_none f (new.trans incoming)).2] at known
    | some other =>
        rw [known, incoming] at identity
        rw [new, incoming, occurrenceIdentityMatches_user identity]
  · exact kept.trans known

variable {self f} in
theorem merge_userValue_new {user : Int} (incoming : f.userId = some user)
    (identity : occurrenceIdentityMatches self.pid self.userValue f.pid f.userId = true) :
    (self.merge f).userValue = some user := by
  rcases self.merge_userValue f with new | kept
  · exact new.trans incoming
  · cases known : self.userValue with
    | none => simp [(self.merge_userValue_eq_none f (kept.trans known)).1] at incoming
    | some left =>
        rw [known, incoming] at identity
        rw [kept, known, occurrenceIdentityMatches_user identity]

end Projections
end Pending
end CrashCatcher.Merge
