import CrashCatcher.Lib.Run
import CrashCatcher.Merge.Merger

namespace CrashCatcher.Merge
open Lib Lib.Run Model

def idsFrom (id : UInt64) : Nat → List UInt64
  | 0 => []
  | count + 1 => id :: idsFrom (id + 1) count

@[simp] theorem length_idsFrom (id : UInt64) (count : Nat) : (idsFrom id count).length = count := by
  induction count generalizing id with
  | zero => rfl
  | succ count ih => simp [idsFrom, ih]

theorem idsFrom_add (id : UInt64) (count more : Nat) :
    idsFrom id (count + more) = idsFrom id count ++ idsFrom (id + .ofNat count) more := by
  induction count generalizing id with
  | zero => simp [idsFrom]
  | succ count ih =>
      have next : id + 1 + UInt64.ofNat count = id + .ofNat (count + 1) := by
        rw [UInt64.add_assoc, UInt64.add_comm 1, UInt64.ofNat_add]
        rfl
      rw [Nat.succ_add, idsFrom, ih, next]
      rfl

theorem mem_idsFrom {id other : UInt64} {count : Nat} (member : other ∈ idsFrom id count) :
    ∃ i < count, other = id + .ofNat i := by
  induction count generalizing id with
  | zero => simp [idsFrom] at member
  | succ count ih =>
      rcases List.mem_cons.mp member with rfl | later
      · exact ⟨0, by omega, by simp⟩
      · obtain ⟨i, inside, rfl⟩ := ih later
        refine ⟨i + 1, by omega, ?_⟩
        rw [UInt64.add_assoc, UInt64.add_comm 1, UInt64.ofNat_add]
        rfl

theorem idsFrom_nodup (id : UInt64) {count : Nat} (few : count ≤ 2 ^ 64) : (idsFrom id count).Nodup := by
  induction count generalizing id with
  | zero => exact .nil
  | succ count ih =>
      refine List.nodup_cons.mpr ⟨fun member => ?_, ih (id + 1) (by omega)⟩
      obtain ⟨i, inside, same⟩ := mem_idsFrom member
      have value := congrArg UInt64.toNat same
      simp only [UInt64.toNat_add, UInt64.toNat_ofNat', UInt64.toNat_one] at value
      have bound := id.toNat_lt
      omega

namespace CrashMerger

inductive Operation where
  | ingest (f : CrashFragment)
  | flushBefore (watermarkMs : I64)
  | drain
  | confirmPersisted (completionId : UInt64)
  | rejectCompletion (completionId : UInt64)
  | takeConfirmedSuppressedSourceKeys

def perform (self : CrashMerger) : Operation → List MergedCrash × CrashMerger
  | .ingest f => self.ingest f
  | .flushBefore watermarkMs => self.flushBefore watermarkMs
  | .drain => self.drain
  | .confirmPersisted completionId => ([], self.confirmPersisted completionId)
  | .rejectCompletion completionId => ([], self.rejectCompletion completionId)
  | .takeConfirmedSuppressedSourceKeys => ([], self.takeConfirmedSuppressedSourceKeys.2)

/-- The occurrences with the ids they get when they are completed in this order. -/
def number (self : CrashMerger) (due : List Pending) : List (Pending × UInt64) :=
  due.zip (idsFrom self.nextCompletionId due.length)

def completeAll (self : CrashMerger) (due : List Pending) : List MergedCrash × CrashMerger :=
  ((self.number due).map fun entry => entry.1.finish entry.2,
    { self with
      recent := self.recent ++ (self.number due).map fun entry => .fromPending entry.2 entry.1
      nextCompletionId := self.nextCompletionId + .ofNat due.length })

theorem completeAll_nil (self : CrashMerger) : self.completeAll [] = ([], self) := by
  simp [completeAll, number]

theorem completeAll_cons (self : CrashMerger) (index : Nat) (pending : Pending) (due waiting : List Pending) :
    { self with pending := waiting }.completeAll (pending :: due) =
      let (merged, after) := self.finishPending index pending
      let (out, after) := { after with pending := waiting }.completeAll due
      (merged :: out, after) := by
  have next : self.nextCompletionId + 1 + UInt64.ofNat due.length =
      self.nextCompletionId + .ofNat (due.length + 1) := by
    rw [UInt64.add_assoc, UInt64.add_comm 1, UInt64.ofNat_add]
    rfl
  simp [completeAll, number, idsFrom, finishPending, allocateCompletionId, next]

/-- The loop removes what is due as `extract` does and completes it in the order of its removal. -/
theorem flushFrom_eq (watermarkMs : I64) (remaining i : Nat) (self : CrashMerger) :
    flushFrom watermarkMs remaining i self =
      let parts := extractFrom (self.isDue watermarkMs) remaining i self.pending
      { self with pending := parts.2 }.completeAll parts.1 := by
  induction remaining generalizing i self with
  | zero => rw [flushFrom, extractFrom, completeAll_nil]
  | succ remaining ih =>
      rw [flushFrom, extractFrom]
      cases self.pending[i]? with
      | none => simp only [completeAll_nil]
      | some pending =>
          simp only
          split_ifs with due
          · rw [ih, completeAll_cons self i]
            rfl
          · exact ih (i + 1) self

theorem flushBefore_eq (self : CrashMerger) (watermarkMs : I64) :
    self.flushBefore watermarkMs =
      let parts := extract (self.isDue watermarkMs) self.pending
      let (out, after) := { self.expireRecent watermarkMs with pending := parts.2 }.completeAll parts.1
      (sortByTime out, after) := by
  simp only [flushBefore, flushFrom_eq]
  rfl

theorem sortByTime_perm (merged : List MergedCrash) : (sortByTime merged).Perm merged :=
  List.perm_insertionSort ..

theorem sortByTime_sorted (merged : List MergedCrash) :
    (sortByTime merged).Pairwise fun a b => a.record.happenedAtMs ≤ b.record.happenedAtMs := by
  have total : Std.Total fun a b : MergedCrash => a.record.happenedAtMs ≤ b.record.happenedAtMs :=
    ⟨fun a b => le_total a.record.happenedAtMs b.record.happenedAtMs⟩
  have transitive : IsTrans MergedCrash fun a b => a.record.happenedAtMs ≤ b.record.happenedAtMs :=
    ⟨fun _ _ _ => le_trans⟩
  exact List.pairwise_insertionSort _ merged

theorem map_fst_number (self : CrashMerger) (due : List Pending) :
    (self.number due).map Prod.fst = due := List.map_fst_zip (by simp)

theorem map_snd_number (self : CrashMerger) (due : List Pending) :
    (self.number due).map Prod.snd = idsFrom self.nextCompletionId due.length :=
  List.map_snd_zip (by simp)

/-- A flush that completes what is due, each with an id of its own, and leaves the rest alone. -/
structure FlushesExactly (before : CrashMerger) (watermarkMs : I64) (out : List MergedCrash)
    (after : CrashMerger) : Prop where
  kept : after.pending.Perm (before.pending.filter fun pending =>
    ¬ pending.lastMs.saturatingAdd (pending.completionDelayMs before.windowMs) < watermarkMs)
  completed : ∃ due : List (Pending × UInt64),
    (due.map Prod.fst).Perm (before.pending.filter fun pending =>
      pending.lastMs.saturatingAdd (pending.completionDelayMs before.windowMs) < watermarkMs) ∧
    due.map Prod.snd = idsFrom before.nextCompletionId due.length ∧
    out.Perm (due.map fun entry => entry.1.finish entry.2) ∧
    after.recent = (before.expireRecent watermarkMs).recent ++
      due.map fun entry => .fromPending entry.2 entry.1
  ordered : out.Pairwise fun a b => a.record.happenedAtMs ≤ b.record.happenedAtMs
  others : after.windowMs = before.windowMs ∧ after.suppressedSourceKeys = before.suppressedSourceKeys ∧
    after.nextCompletionId = before.nextCompletionId + .ofNat out.length

/-- The operation that leads from one state to the other hands out the next ids of the counter. -/
structure Issues (before : CrashMerger) (out : List MergedCrash) (after : CrashMerger) : Prop where
  ids : (out.map MergedCrash.completionId).Perm (idsFrom before.nextCompletionId out.length)
  counter : after.nextCompletionId = before.nextCompletionId + .ofNat out.length

theorem Issues.nothing {self after : CrashMerger} (same : after.nextCompletionId = self.nextCompletionId) :
    self.Issues [] after := ⟨.refl _, by simp [same]⟩

theorem Issues.perm {self after : CrashMerger} {out other : List MergedCrash} (issues : self.Issues out after)
    (order : other.Perm out) : self.Issues other after where
  ids := by
    rw [order.length_eq]
    exact (order.map _).trans issues.ids
  counter := by rw [order.length_eq, issues.counter]

theorem Issues.append {self middle after : CrashMerger} {out more : List MergedCrash}
    (first : self.Issues out middle) (second : middle.Issues more after) :
    self.Issues (out ++ more) after where
  ids := by
    rw [List.map_append, List.length_append, idsFrom_add, ← first.counter]
    exact first.ids.append second.ids
  counter := by
    rw [second.counter, first.counter, List.length_append, UInt64.ofNat_add, UInt64.add_assoc]

theorem completeAll_issues (self : CrashMerger) (due : List Pending) :
    self.Issues (self.completeAll due).1 (self.completeAll due).2 := by
  have length : (self.completeAll due).1.length = due.length := by simp [completeAll, number]
  have ids : (self.completeAll due).1.map MergedCrash.completionId =
      idsFrom self.nextCompletionId due.length := by
    rw [completeAll, List.map_map, ← map_snd_number]
    rfl
  exact ⟨by rw [ids, length], by rw [length]; rfl⟩

theorem flushBefore_issues (self : CrashMerger) (watermarkMs : I64) :
    self.Issues (self.flushBefore watermarkMs).1 (self.flushBefore watermarkMs).2 := by
  let waiting := { self.expireRecent watermarkMs with
    pending := (extract (self.isDue watermarkMs) self.pending).2 }
  have completed := waiting.completeAll_issues (extract (self.isDue watermarkMs) self.pending).1
  rw [flushBefore_eq]
  have issued : self.Issues (waiting.completeAll _).1 (waiting.completeAll _).2 :=
    ⟨completed.ids, completed.counter⟩
  exact issued.perm (sortByTime_perm _)

theorem flushBefore_flushesExactly (self : CrashMerger) (watermarkMs : I64) :
    self.FlushesExactly watermarkMs (self.flushBefore watermarkMs).1 (self.flushBefore watermarkMs).2 := by
  let expired := self.expireRecent watermarkMs
  have taken := extract_taken (self.isDue watermarkMs) self.pending
  have left := extract_left (self.isDue watermarkMs) self.pending
  have counter := (self.flushBefore_issues watermarkMs).counter
  rw [flushBefore_eq] at counter ⊢
  refine ⟨?_, ⟨expired.number (extract (self.isDue watermarkMs) self.pending).1, ?_, ?_, ?_, rfl⟩,
    sortByTime_sorted _, rfl, rfl, counter⟩
  · simp only [decide_not]
    exact left
  · rw [map_fst_number]
    exact taken
  · rw [map_snd_number]
    simp [number, expired, expireRecent]
  · exact sortByTime_perm _

theorem Issues.finishSettled {self after : CrashMerger} {completed : List MergedCrash}
    (issues : self.Issues completed after) (index : Nat) (pending : Pending) :
    self.Issues (after.finishSettled completed index pending).1
      (after.finishSettled completed index pending).2 := by
  rw [CrashMerger.finishSettled]
  split_ifs
  · have last : after.Issues [(after.finishPending index pending).1] (after.finishPending index pending).2 :=
      ⟨.refl _, rfl⟩
    exact (issues.append last).perm (sortByTime_perm _)
  · exact issues

theorem Issues.receive {self after : CrashMerger} {completed : List MergedCrash}
    (issues : self.Issues completed after) (f : CrashFragment) :
    self.Issues (after.receive completed f).1 (after.receive completed f).2 := by
  rw [CrashMerger.receive]
  split_ifs
  · exact issues
  · cases after.pendingMatch f with
    | some entry =>
        have extended : self.Issues completed
            { after with pending := after.pending.set entry.2 (entry.1.merge f) } :=
          ⟨issues.ids, issues.counter⟩
        exact extended.finishSettled _ _
    | none =>
        cases after.recentMatch f with
        | some recent => exact ⟨issues.ids, issues.counter⟩
        | none =>
            have opened : self.Issues completed { after with pending := after.pending ++ [.new f] } :=
              ⟨issues.ids, issues.counter⟩
            exact opened.finishSettled _ _

theorem drainFrom_issues (occurrences : List Pending) (self : CrashMerger) :
    self.Issues (drainFrom occurrences self).1 (drainFrom occurrences self).2 := by
  induction occurrences generalizing self with
  | nil => exact .nothing rfl
  | cons pending rest ih =>
      have first : self.Issues [pending.finish self.nextCompletionId] self.allocateCompletionId.2 :=
        ⟨.refl _, rfl⟩
      exact first.append (ih self.allocateCompletionId.2)

theorem perform_issues (self : CrashMerger) (operation : Operation) :
    self.Issues (self.perform operation).1 (self.perform operation).2 := by
  cases operation with
  | ingest f => exact (self.flushBefore_issues f.happenedAtMs).receive f
  | flushBefore watermarkMs => exact self.flushBefore_issues watermarkMs
  | drain =>
      have drained := drainFrom_issues self.pending { self with pending := [] }
      have issued : self.Issues (drainFrom _ _).1 (drainFrom _ _).2 := ⟨drained.ids, drained.counter⟩
      exact issued.perm (sortByTime_perm _)
  | confirmPersisted completionId => exact .nothing rfl
  | rejectCompletion completionId => exact .nothing rfl
  | takeConfirmedSuppressedSourceKeys => exact .nothing rfl

theorem collect_issues (operations : List Operation) (self : CrashMerger) :
    self.Issues (collect perform operations self).1 (collect perform operations self).2 := by
  induction operations generalizing self with
  | nil => exact .nothing rfl
  | cons operation operations ih => exact (self.perform_issues operation).append (ih _)

/-- No pending occurrence could have been completed without waiting. -/
def NoneSettled (self : CrashMerger) : Prop :=
  ∀ pending ∈ self.pending, pending.completionDelayMs self.windowMs ≠ 0

theorem NoneSettled.flushBefore {self : CrashMerger} (waiting : self.NoneSettled) (watermarkMs : I64) :
    (self.flushBefore watermarkMs).2.NoneSettled := by
  obtain ⟨kept, -, -, window, -⟩ := self.flushBefore_flushesExactly watermarkMs
  intro pending member
  rw [window]
  exact waiting pending (List.mem_filter.mp (kept.mem_iff.mp member)).1

theorem finishSettled_noneSettled {self : CrashMerger} {completed : List MergedCrash} {index : Nat}
    {pending : Pending} (found : self.pending[index]? = some pending)
    (others : ∀ other ∈ self.pending.eraseIdx index, other.completionDelayMs self.windowMs ≠ 0) :
    (self.finishSettled completed index pending).2.NoneSettled := by
  obtain ⟨inside, rfl⟩ := List.getElem?_eq_some_iff.mp found
  have split := List.getElem_cons_eraseIdx_perm inside
  rw [finishSettled]
  split_ifs with settled
  · intro other member
    have rest : (swapRemove self.pending index).Perm (self.pending.eraseIdx index) :=
      (List.perm_cons _).mp ((perm_swapRemove inside).symm.trans split.symm)
    exact others other (rest.mem_iff.mp member)
  · intro other member
    rcases List.mem_cons.mp (split.mem_iff.mpr member) with rfl | member
    · exact settled
    · exact others other member

theorem pendingMatch_getElem? {self : CrashMerger} {f : CrashFragment} {pending : Pending} {index : Nat}
    (found : self.pendingMatch f = some (pending, index)) : self.pending[index]? = some pending := by
  have member := List.mem_filter.mp (List.argmin_mem found)
  simpa [List.mem_zipIdx_iff_getElem?] using member.1

theorem NoneSettled.receive {self : CrashMerger} (waiting : self.NoneSettled) (completed : List MergedCrash)
    (f : CrashFragment) : (self.receive completed f).2.NoneSettled := by
  rw [CrashMerger.receive]
  split_ifs
  · exact waiting
  · cases candidate : self.pendingMatch f with
    | some entry =>
        obtain ⟨pending, index⟩ := entry
        obtain ⟨inside, -⟩ := List.getElem?_eq_some_iff.mp (pendingMatch_getElem? candidate)
        refine finishSettled_noneSettled (List.getElem?_set_self inside) fun other member => ?_
        rw [List.eraseIdx_set_eq] at member
        exact waiting other (List.mem_of_mem_eraseIdx member)
    | none =>
        cases self.recentMatch f with
        | some recent => exact waiting
        | none =>
            refine finishSettled_noneSettled (List.getElem?_concat_length ..) fun other member => ?_
            simp only [List.eraseIdx_append_of_length_le (Nat.le_refl _)] at member
            exact waiting other (by simpa using member)

theorem pending_drainFrom (occurrences : List Pending) (self : CrashMerger) :
    (drainFrom occurrences self).2.pending = self.pending := by
  induction occurrences generalizing self with
  | nil => rfl
  | cons pending rest ih => exact ih self.allocateCompletionId.2

theorem NoneSettled.perform {self : CrashMerger} (waiting : self.NoneSettled) (operation : Operation) :
    (self.perform operation).2.NoneSettled := by
  cases operation with
  | ingest f => exact (waiting.flushBefore f.happenedAtMs).receive _ f
  | flushBefore watermarkMs => exact waiting.flushBefore watermarkMs
  | drain =>
      have none : self.drain.2.pending = [] := pending_drainFrom self.pending { self with pending := [] }
      intro pending member
      simp [CrashMerger.perform, none] at member
  | confirmPersisted completionId => exact waiting
  | rejectCompletion completionId => exact waiting
  | takeConfirmedSuppressedSourceKeys => exact waiting

def history (windowMs : I64) (operations : List Operation) : List MergedCrash × CrashMerger :=
  collect perform operations (.new windowMs)

end CrashMerger
open CrashMerger (history)

/-- A flush of any merger is exact. Of a merger that operations on a new one reach, up to 2^64 completions,
its ids are distinct from each other and from all earlier ones; and the next fragment leaves nothing pending
that need not wait. -/
theorem flush_before_exact (watermarkMs : I64) :
    (∀ self : CrashMerger,
      self.FlushesExactly watermarkMs (self.flushBefore watermarkMs).1 (self.flushBefore watermarkMs).2) ∧
    ∀ (windowMs : I64) (operations : List CrashMerger.Operation),
      ((history windowMs (operations ++ [.flushBefore watermarkMs])).1.length ≤ 2 ^ 64 →
        ((history windowMs (operations ++ [.flushBefore watermarkMs])).1.map MergedCrash.completionId).Nodup) ∧
      ∀ f, ((history windowMs operations).2.ingest f).2.NoneSettled := by
  refine ⟨fun self => self.flushBefore_flushesExactly watermarkMs, fun windowMs operations => ⟨fun few => ?_, ?_⟩⟩
  · have issues := CrashMerger.collect_issues (operations ++ [.flushBefore watermarkMs]) (.new windowMs)
    exact issues.ids.nodup_iff.mpr (idsFrom_nodup _ few)
  · have keeps : ∀ (seen : List CrashMerger.Operation) (merger : CrashMerger)
        (operation : CrashMerger.Operation), merger.NoneSettled → (merger.perform operation).2.NoneSettled :=
      fun _ _ operation waiting => waiting.perform operation
    have start : (CrashMerger.new windowMs).NoneSettled := fun pending none => by cases none
    have waiting : (history windowMs operations).2.NoneSettled :=
      @collect_preserves _ _ _ _ _ keeps operations [] _ start
    exact fun f => waiting.perform (.ingest f)

def reportOf (pid : Int) (happenedAtMs : I64) : CrashFragment :=
  { CrashFragment.new .dropbox .structured .javaException "com.example.b".toList pid happenedAtMs with
    userId := some 0 }

def mixedReports : List CrashMerger.Operation := [
  .ingest (reportOf 41 (.clamp 0)),
  .ingest (.new .crashBuffer .text .javaException "com.example.b".toList 42 (.clamp 0)),
  .ingest (reportOf 43 (.clamp 40)), .ingest (reportOf 44 (.clamp 45))]

def mixed : CrashMerger := (history defaultMergeWindowMs mixedReports).2

/-- The flush takes the last occurrence into the first one's place, and completes it there. -/
theorem flush_before_exact_mixed :
    mixed.FlushesExactly (.clamp 300) (mixed.flushBefore (.clamp 300)).1 (mixed.flushBefore (.clamp 300)).2 ∧
      ((history defaultMergeWindowMs (mixedReports ++ [.flushBefore (.clamp 300)])).1.map
        MergedCrash.completionId).Nodup ∧
      mixed.pending.map Pending.pid = [41, 42, 43, 44] ∧
      (mixed.flushBefore (.clamp 300)).2.pending.map Pending.pid = [42] ∧
      (mixed.flushBefore (.clamp 300)).1.map (fun merged => (merged.completionId, merged.record.pid)) =
        [(1, 41), (3, 43), (2, 44)] :=
  ⟨(flush_before_exact _).1 _, ((flush_before_exact (.clamp 300)).2 _ mixedReports).1 (by decide +kernel),
    by decide +kernel, by decide +kernel, by decide +kernel⟩

def waitingReport : CrashFragment := reportOf 42 0

def rememberedReport : CrashFragment := .new .events .structured .wtf "com.example.a".toList 41 1000

def drained (n : Nat) : List CrashMerger.Operation :=
  .ingest rememberedReport :: (List.replicate n [.ingest waitingReport, .drain]).flatten

def remembering (nextCompletionId : UInt64) : CrashMerger :=
  { CrashMerger.new defaultMergeWindowMs with
    recent := [.fromPending 1 (.new rememberedReport)]
    nextCompletionId := nextCompletionId }

theorem collect_drained (n : Nat) :
    ∃ rest, collect CrashMerger.perform (drained n) (.new defaultMergeWindowMs) =
      ((Pending.new rememberedReport).finish 1 :: rest, remembering (2 + .ofNat n)) := by
  induction n with
  | zero => exact ⟨[], rfl⟩
  | succ n ih =>
      obtain ⟨rest, reached⟩ := ih
      have more : drained (n + 1) = drained n ++ [.ingest waitingReport, .drain] := by
        simp [drained, List.replicate_succ']
      have next : (2 : UInt64) + .ofNat (n + 1) = 2 + .ofNat n + 1 := by
        rw [UInt64.ofNat_add, ← UInt64.add_assoc]
        rfl
      refine ⟨rest ++ [(Pending.new waitingReport).finish (2 + .ofNat n)], ?_⟩
      rw [more, collect_append, reached, next]
      rfl

theorem ids_come_round :
    ¬ ((collect CrashMerger.perform (drained (2 ^ 64 - 1) ++ [.ingest waitingReport, .flushBefore 300])
      (.new defaultMergeWindowMs)).1.map MergedCrash.completionId).Nodup := by
  obtain ⟨rest, reached⟩ := collect_drained (2 ^ 64 - 1)
  have counter : (2 : UInt64) + .ofNat (2 ^ 64 - 1) = 1 := by decide
  rw [collect_append, reached, counter]
  have last : (collect CrashMerger.perform [.ingest waitingReport, .flushBefore 300] (remembering 1)).1 =
      [(Pending.new waitingReport).finish 1] := rfl
  rw [last]
  simp [Pending.finish]

end CrashCatcher.Merge
