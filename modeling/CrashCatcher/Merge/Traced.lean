import CrashCatcher.Merge.Merger
import CrashCatcher.Merge.Occurrence

/-! The merger together with the history that explains its state: which fragments each pending
occurrence and each completed record was made of, and which were suppressed against it. -/

namespace CrashCatcher.Merge
open Lib Lib.Text Model

/-- A completed record: what it was made of, what was suppressed against it, and whether the
consumer has stored it. -/
structure Account where
  completionId : UInt64
  occurrence : Occurrence
  suppressed : List CrashFragment
  stored : Option Bool

namespace Account

def merged (self : Account) : MergedCrash := self.occurrence.pending.finish self.completionId
def fragments (self : Account) : List CrashFragment := self.occurrence.fragments ++ self.suppressed
def suppress (self : Account) (f : CrashFragment) : Account :=
  { self with suppressed := self.suppressed ++ [f] }

end Account

/-- A merger whose records are numbered in the order of their completion. -/
structure Traced where
  windowMs : I64
  pending : List Occurrence
  recent : List (Recent × Nat)
  suppressedSourceKeys : List ((UInt64 × Str) × Nat)
  nextCompletionId : UInt64
  accounts : List Account

namespace Traced

def forget (self : Traced) : CrashMerger where
  windowMs := self.windowMs
  pending := self.pending.map Occurrence.pending
  recent := self.recent.map Prod.fst
  suppressedSourceKeys := self.suppressedSourceKeys.map Prod.fst
  nextCompletionId := self.nextCompletionId

def new (windowMs : I64) : Traced where
  windowMs := windowMs
  pending := []
  recent := []
  suppressedSourceKeys := []
  nextCompletionId := 1
  accounts := []

def allocate (self : Traced) (occurrence : Occurrence) : (Nat × MergedCrash) × Traced :=
  let account := ⟨self.nextCompletionId, occurrence, [], none⟩
  ((self.accounts.length, account.merged),
    { self with
      nextCompletionId := self.nextCompletionId + 1
      accounts := self.accounts ++ [account] })

def setPending (self : Traced) (pending : List Occurrence) : Traced :=
  { self with pending := pending }

def complete (self : Traced) (occurrence : Occurrence) : (Nat × MergedCrash) × Traced :=
  let (entry, after) := self.allocate occurrence
  (entry, { after with recent := after.recent ++
    [(.fromPending self.nextCompletionId occurrence.pending, self.accounts.length)] })

def completeAll : List Occurrence → Traced → List (Nat × MergedCrash) × Traced
  | [], self => ([], self)
  | occurrence :: rest, self =>
    let (entry, self) := self.complete occurrence
    let (out, self) := completeAll rest self
    (entry :: out, self)

def sortByTime (out : List (Nat × MergedCrash)) : List (Nat × MergedCrash) :=
  out.insertionSort fun a b => a.2.record.happenedAtMs ≤ b.2.record.happenedAtMs

def isDue (self : Traced) (watermarkMs : I64) (occurrence : Occurrence) : Bool :=
  self.forget.isDue watermarkMs occurrence.pending

def expireRecent (self : Traced) (watermarkMs : I64) : Traced :=
  { self with recent := self.recent.filter fun entry =>
      watermarkMs ≤ entry.1.firstMs.saturatingAdd self.windowMs }

def flushBefore (self : Traced) (watermarkMs : I64) : List (Nat × MergedCrash) × Traced :=
  let self := self.expireRecent watermarkMs
  let (due, waiting) := extract (self.isDue watermarkMs) self.pending
  let (out, self) := completeAll due (self.setPending waiting)
  (sortByTime out, self)

def holdsSourceKey (self : Traced) (f : CrashFragment) : Bool := self.forget.holdsSourceKey f

def matching (self : Traced) (f : CrashFragment) (occurrence : Occurrence) : Bool :=
  occurrence.pending.matchesFragment f self.forget.sourceSkewMs self.windowMs

def matchingRecent (self : Traced) (f : CrashFragment) (recent : Recent) : Bool :=
  recent.matchesFragment f self.forget.sourceSkewMs self.windowMs

def pendingMatch (self : Traced) (f : CrashFragment) : Option (Occurrence × Nat) :=
  (self.pending.zipIdx.filter fun entry => self.matching f entry.1).argmin fun entry =>
    entry.1.pending.firstMs.absDiff f.happenedAtMs

def recentMatch (self : Traced) (f : CrashFragment) : Option (Recent × Nat) :=
  (self.recent.filter fun entry => self.matchingRecent f entry.1).argmin fun entry =>
    entry.1.firstMs.absDiff f.happenedAtMs

def suppress (self : Traced) (completionId : UInt64) (serial : Nat) (f : CrashFragment) : Traced :=
  { self with
    suppressedSourceKeys := self.suppressedSourceKeys ++
      f.sourceKey.toList.map fun key => ((completionId, key), serial)
    accounts := self.accounts.modify serial (·.suppress f) }

def finishSettled (self : Traced) (completed : List (Nat × MergedCrash)) (index : Nat)
    (occurrence : Occurrence) : List (Nat × MergedCrash) × Traced :=
  if occurrence.pending.completionDelayMs self.windowMs = 0 then
    let (entry, self) := (self.setPending (swapRemove self.pending index)).complete occurrence
    (sortByTime (completed ++ [entry]), self)
  else (completed, self)

def receive (self : Traced) (completed : List (Nat × MergedCrash)) (f : CrashFragment) :
    List (Nat × MergedCrash) × Traced :=
  if self.holdsSourceKey f then (completed, self)
  else match self.pendingMatch f with
  | some (occurrence, index) =>
    let merged := occurrence.merge f
    (self.setPending (self.pending.set index merged)).finishSettled completed index merged
  | none => match self.recentMatch f with
    | some (recent, serial) => (completed, self.suppress recent.completionId serial f)
    | none =>
      (self.setPending (self.pending ++ [.start f])).finishSettled completed self.pending.length
        (.start f)

def ingest (self : Traced) (f : CrashFragment) : List (Nat × MergedCrash) × Traced :=
  let (completed, self) := self.flushBefore f.happenedAtMs
  self.receive completed f

def drainFrom : List Occurrence → Traced → List (Nat × MergedCrash) × Traced
  | [], self => ([], self)
  | occurrence :: rest, self =>
    let (entry, self) := self.allocate occurrence
    let (out, self) := drainFrom rest self
    (entry :: out, self)

def drain (self : Traced) : List (Nat × MergedCrash) × Traced :=
  let (out, self) := drainFrom self.pending (self.setPending [])
  (sortByTime out, self)

def markPersisted (completionId : UInt64) : List (Recent × Nat) → List (Recent × Nat)
  | [] => []
  | entry :: rest =>
    if entry.1.completionId = completionId then
      ({ entry.1 with persisted := true }, entry.2) :: rest
    else entry :: markPersisted completionId rest

def confirmPersisted (self : Traced) (completionId : UInt64) : Traced :=
  { self with recent := markPersisted completionId self.recent }

def rejectCompletion (self : Traced) (completionId : UInt64) : Traced :=
  { self with
    recent := self.recent.filter fun entry => entry.1.completionId ≠ completionId
    suppressedSourceKeys := self.suppressedSourceKeys.filter fun entry => entry.1.1 ≠ completionId }

def resolve (self : Traced) (serial : Nat) (stored : Bool) : Traced :=
  { self with accounts := self.accounts.modify serial fun a => { a with stored := some stored } }

def takeConfirmedSuppressedSourceKeys (self : Traced) : List Str × Traced :=
  let (confirmed, waiting) :=
    self.suppressedSourceKeys.partition fun entry => self.forget.isConfirmed entry.1.1
  (confirmed.map fun entry => entry.1.2, { self with suppressedSourceKeys := waiting })

/-! Forgetting the history gives the merger's own operations. -/

section Forget

theorem forget_new (windowMs : I64) : (new windowMs).forget = .new windowMs := rfl

theorem sortByTime_snd (out : List (Nat × MergedCrash)) :
    (sortByTime out).map Prod.snd = CrashMerger.sortByTime (out.map Prod.snd) :=
  List.map_insertionSort _ _ _ _ fun _ _ _ _ => Iff.rfl

theorem complete_forget (self : Traced) (index : Nat) (occurrence : Occurrence) :
    let after := (self.setPending (swapRemove self.pending index)).complete occurrence
    self.forget.finishPending index occurrence.pending = (after.1.2, after.2.forget) := by
  simp [CrashMerger.finishPending, CrashMerger.allocateCompletionId, complete, allocate, forget,
    map_swapRemove, setPending, Account.merged]

theorem completeAll_setPending (self : Traced) (due before after : List Occurrence)
    (occurrence : Occurrence) :
    completeAll (occurrence :: due) (self.setPending after) =
      let first := (self.setPending before).complete occurrence
      let rest := completeAll due (first.2.setPending after)
      (first.1 :: rest.1, rest.2) := rfl

theorem flushFrom_forget (watermarkMs : I64) (remaining i : Nat) (self : Traced) :
    let parts := extractFrom (self.isDue watermarkMs) remaining i self.pending
    let after := completeAll parts.1 (self.setPending parts.2)
    CrashMerger.flushFrom watermarkMs remaining i self.forget =
      (after.1.map Prod.snd, after.2.forget) := by
  induction remaining generalizing i self with
  | zero => rfl
  | succ n ih =>
      have found : self.forget.pending[i]? = self.pending[i]?.map Occurrence.pending := by
        simp [forget]
      simp only [CrashMerger.flushFrom, extractFrom, found]
      cases self.pending[i]? with
      | none => rfl
      | some occurrence =>
          have same : self.forget.isDue watermarkMs occurrence.pending =
            self.isDue watermarkMs occurrence := rfl
          simp only [Option.map_some, same]
          split_ifs with due
          · have finished := self.complete_forget i occurrence
            have rest := ih i ((self.setPending (swapRemove self.pending i)).complete occurrence).2
            simp only at finished rest
            rw [finished]
            simp only [rest]
            rw [completeAll_setPending self _ (swapRemove self.pending i)]
            rfl
          · exact ih (i + 1) self

theorem flushBefore_forget (self : Traced) (watermarkMs : I64) :
    self.forget.flushBefore watermarkMs =
      ((self.flushBefore watermarkMs).1.map Prod.snd, (self.flushBefore watermarkMs).2.forget) := by
  have expired : self.forget.expireRecent watermarkMs = (self.expireRecent watermarkMs).forget := by
    simp only [CrashMerger.expireRecent, expireRecent, forget, List.filter_map]
    rfl
  have length : (self.expireRecent watermarkMs).forget.pending.length =
      (self.expireRecent watermarkMs).pending.length := by simp [forget]
  simp only [CrashMerger.flushBefore, flushBefore, expired, length, flushFrom_forget, sortByTime_snd]
  rfl

theorem argmin_map {α β γ : Type*} [Preorder γ] [DecidableLT γ] (rank : β → γ) (g : α → β)
    (l : List α) : (l.map g).argmin rank = (l.argmin (rank ∘ g)).map g := by
  induction l using List.reverseRecOn with
  | nil => rfl
  | append_singleton l a ih =>
      rw [List.map_append, List.map_singleton, List.argmin_concat, List.argmin_concat, ih]
      cases l.argmin (rank ∘ g) with
      | none => rfl
      | some b =>
          simp only [Option.map_some, Function.comp_apply]
          split_ifs <;> rfl

theorem pendingMatch_forget (self : Traced) (f : CrashFragment) :
    self.forget.pendingMatch f =
      (self.pendingMatch f).map fun entry => (entry.1.pending, entry.2) := by
  simp only [CrashMerger.pendingMatch, pendingMatch, forget, List.zipIdx_map, List.filter_map,
    argmin_map]
  rfl

theorem recentMatch_forget (self : Traced) (f : CrashFragment) :
    self.forget.recentMatch f = (self.recentMatch f).map Prod.fst := by
  simp only [CrashMerger.recentMatch, recentMatch, forget, List.filter_map, argmin_map]
  rfl

theorem finishSettled_forget (self : Traced) (completed : List (Nat × MergedCrash)) (index : Nat)
    (occurrence : Occurrence) :
    self.forget.finishSettled (completed.map Prod.snd) index occurrence.pending =
      ((self.finishSettled completed index occurrence).1.map Prod.snd,
        (self.finishSettled completed index occurrence).2.forget) := by
  have finished := self.complete_forget index occurrence
  simp only at finished
  simp only [CrashMerger.finishSettled, finishSettled, finished]
  have window : self.forget.windowMs = self.windowMs := rfl
  rw [window]
  split_ifs
  · rw [sortByTime_snd, List.map_append, List.map_singleton]
  · rfl

theorem forget_setPending (self : Traced) (pending : List Occurrence) :
    (self.setPending pending).forget =
      { self.forget with pending := pending.map Occurrence.pending } := rfl

theorem receive_forget (self : Traced) (completed : List (Nat × MergedCrash)) (f : CrashFragment) :
    self.forget.receive (completed.map Prod.snd) f =
      ((self.receive completed f).1.map Prod.snd, (self.receive completed f).2.forget) := by
  rw [CrashMerger.receive, receive, holdsSourceKey, pendingMatch_forget]
  by_cases held : self.forget.holdsSourceKey f
  · rw [if_pos held, if_pos held]
  · rw [if_neg held, if_neg held]
    cases self.pendingMatch f with
    | some entry =>
        obtain ⟨occurrence, index⟩ := entry
        have settled := (self.setPending (self.pending.set index (occurrence.merge f))).finishSettled_forget
          completed index (occurrence.merge f)
        rw [forget_setPending, List.map_set, Occurrence.pending_merge] at settled
        exact settled
    | none =>
        rw [Option.map_none, recentMatch_forget]
        cases self.recentMatch f with
        | some entry => simp [CrashMerger.suppress, suppress, forget, Function.comp_def]
        | none =>
            have settled := (self.setPending (self.pending ++ [.start f])).finishSettled_forget
              completed self.pending.length (.start f)
            rw [forget_setPending, List.map_append, List.map_singleton, Occurrence.pending_start]
              at settled
            have length : self.forget.pending.length = self.pending.length := List.length_map _
            simp only [Option.map_none, length]
            exact settled

theorem ingest_forget (self : Traced) (f : CrashFragment) :
    self.forget.ingest f = ((self.ingest f).1.map Prod.snd, (self.ingest f).2.forget) := by
  simp only [CrashMerger.ingest, ingest, flushBefore_forget, receive_forget]

theorem drainFrom_forget (occurrences : List Occurrence) (self : Traced) :
    CrashMerger.drainFrom (occurrences.map Occurrence.pending) self.forget =
      ((drainFrom occurrences self).1.map Prod.snd, (drainFrom occurrences self).2.forget) := by
  induction occurrences generalizing self with
  | nil => rfl
  | cons occurrence rest ih =>
      have allocated : self.forget.allocateCompletionId.2 = (self.allocate occurrence).2.forget := rfl
      simp only [List.map_cons, CrashMerger.drainFrom, drainFrom, allocated, ih]
      rfl

theorem drain_forget (self : Traced) :
    self.forget.drain = (self.drain.1.map Prod.snd, self.drain.2.forget) := by
  have drained := drainFrom_forget self.pending (self.setPending [])
  have pending : self.forget.pending = self.pending.map Occurrence.pending := rfl
  rw [forget_setPending, List.map_nil] at drained
  simp only [CrashMerger.drain, drain, sortByTime_snd, pending, drained]

theorem confirmPersisted_forget (self : Traced) (completionId : UInt64) (serial : Nat) (stored : Bool) :
    self.forget.confirmPersisted completionId =
      ((self.confirmPersisted completionId).resolve serial stored).forget := by
  have marked : ∀ recent : List (Recent × Nat),
      CrashMerger.markPersisted completionId (recent.map Prod.fst) =
        (markPersisted completionId recent).map Prod.fst := by
    intro recent
    induction recent with
    | nil => rfl
    | cons entry rest ih =>
        simp only [List.map_cons, CrashMerger.markPersisted, markPersisted]
        split_ifs
        · rfl
        · rw [List.map_cons, ih]
  simp only [CrashMerger.confirmPersisted, forget, marked]
  rfl

theorem rejectCompletion_forget (self : Traced) (completionId : UInt64) (serial : Nat)
    (stored : Bool) : self.forget.rejectCompletion completionId =
      ((self.rejectCompletion completionId).resolve serial stored).forget := by
  simp only [CrashMerger.rejectCompletion, forget, List.filter_map]
  rfl

theorem takeConfirmed_forget (self : Traced) :
    self.forget.takeConfirmedSuppressedSourceKeys =
      (self.takeConfirmedSuppressedSourceKeys.1, self.takeConfirmedSuppressedSourceKeys.2.forget) := by
  simp only [CrashMerger.takeConfirmedSuppressedSourceKeys, takeConfirmedSuppressedSourceKeys,
    List.partition_eq_filter_filter]
  simp only [forget, List.filter_map, List.map_map]
  rfl

end Forget
end Traced
end CrashCatcher.Merge
