import CrashCatcher.Lib.Modify
import CrashCatcher.Merge.Moves

namespace CrashCatcher.Merge
open Lib Lib.Text Model
open scoped List

inductive Input where
  | ingest (f : CrashFragment)
  | flush (watermarkMs : I64)

namespace Input

def received : Input → List CrashFragment
  | ingest f => [f]
  | flush _ => []

def watermarkMs : Input → I64
  | ingest f => f.happenedAtMs
  | flush watermarkMs => watermarkMs

end Input

namespace CrashMerger

def step (self : CrashMerger) : Input → List MergedCrash × CrashMerger
  | .ingest f => self.ingest f
  | .flush watermarkMs => self.flushBefore watermarkMs

def run : List Input → CrashMerger → List MergedCrash × CrashMerger
  | [], self => ([], self)
  | input :: rest, self =>
    let (out, self) := self.step input
    let (later, self) := run rest self
    (out ++ later, self)

def runAndDrain (inputs : List Input) (self : CrashMerger) : List MergedCrash :=
  let (out, self) := run inputs self
  out ++ self.drain.1

end CrashMerger

namespace Traced

def step (self : Traced) : Input → List (Nat × MergedCrash) × Traced
  | .ingest f => self.ingest f
  | .flush watermarkMs => self.flushBefore watermarkMs

def run : List Input → Traced → List (Nat × MergedCrash) × Traced
  | [], self => ([], self)
  | input :: rest, self =>
    let (out, self) := self.step input
    let (later, self) := run rest self
    (out ++ later, self)

def history (windowMs : I64) (inputs : List Input) : Traced := (run inputs (new windowMs)).2.drain.2

theorem step_forget (self : Traced) (input : Input) :
    self.forget.step input = ((self.step input).1.map Prod.snd, (self.step input).2.forget) := by
  cases input with
  | ingest f => exact self.ingest_forget f
  | flush watermarkMs => exact self.flushBefore_forget watermarkMs

theorem run_forget (inputs : List Input) (self : Traced) :
    CrashMerger.run inputs self.forget = ((run inputs self).1.map Prod.snd, (run inputs self).2.forget) := by
  induction inputs generalizing self with
  | nil => rfl
  | cons input rest ih => simp only [CrashMerger.run, run, step_forget, ih, List.map_append]

theorem received_internal {actions : List Action} (internal : ∀ a ∈ actions, a.Internal) :
    actions.flatMap Action.received = [] := by
  rw [List.flatMap_eq_nil_iff]
  intro a member
  rcases internal a member with rfl | rfl <;> rfl

theorem step_moves (t : Traced) (input : Input) :
    ∃ actions, (∀ w, .expire w ∉ actions) ∧ .close ∉ actions ∧
      actions.flatMap Action.received = input.received ∧
      Moves (t.expireRecent input.watermarkMs) actions (t.step input).2 := by
  cases input with
  | ingest f =>
      obtain ⟨before, after, internal, moves⟩ := t.ingest_moves f
      have either : ∀ a ∈ before ++ .receive f :: after, a.Internal ∨ a = .receive f := by
        intro a member
        rcases List.mem_append.mp member with early | late
        · exact .inl (internal a (by simp [early]))
        · rcases List.mem_cons.mp late with rfl | late
          · exact .inr rfl
          · exact .inl (internal a (by simp [late]))
      refine ⟨_, ?_, ?_, ?_, moves⟩
      · intro w member
        simpa [Action.Internal] using either _ member
      · intro member
        simpa [Action.Internal] using either _ member
      · rw [List.flatMap_append, List.flatMap_cons,
          received_internal fun a member => internal a (List.mem_append_left _ member),
          received_internal fun a member => internal a (List.mem_append_right _ member)]
        rfl
  | flush watermarkMs =>
      obtain ⟨n, moves⟩ := t.flushBefore_moves watermarkMs
      refine ⟨_, ?_, ?_, ?_, moves⟩
      · simp [List.mem_replicate]
      · simp [List.mem_replicate]
      · exact received_internal (by simp [Action.Internal, List.mem_replicate])

theorem run_moves (inputs : List Input) (t : Traced) :
    ∃ actions, .close ∉ actions ∧
      actions.flatMap Action.received = inputs.flatMap Input.received ∧
      (∀ w, .expire w ∈ actions → ∃ input ∈ inputs, w = input.watermarkMs) ∧
      Moves t actions (run inputs t).2 := by
  induction inputs generalizing t with
  | nil => exact ⟨[], by simp, rfl, by simp, .refl t⟩
  | cons input rest ih =>
      obtain ⟨first, noExpiry, noClose, received, moves⟩ := t.step_moves input
      obtain ⟨later, noClose', received', expiry, moves'⟩ := ih (t.step input).2
      refine ⟨.expire input.watermarkMs :: first ++ later, ?_, ?_, ?_,
        .step (.expire _) (moves.append moves')⟩
      · simp [noClose, noClose']
      · simp only [List.cons_append, List.flatMap_cons, List.flatMap_append, received, received']
        rfl
      · intro w member
        rcases List.mem_cons.mp member with same | member
        · exact ⟨input, by simp, Action.expire.inj same⟩
        rcases List.mem_append.mp member with early | late
        · exact absurd early (noExpiry w)
        · obtain ⟨other, found, same⟩ := expiry w late
          exact ⟨other, by simp [found], same⟩

def numbered (self : Traced) : List (Nat × MergedCrash) :=
  (self.accounts.map Account.merged).zipIdx.map Prod.swap

theorem numbered_snd (self : Traced) :
    self.numbered.map Prod.snd = self.accounts.map Account.merged := by
  rw [numbered, List.map_map]
  exact List.zipIdx_map_fst ..

theorem numbered_allocate (self : Traced) (o : Occurrence) :
    (self.allocate o).2.numbered = self.numbered ++ [(self.allocate o).1] := by
  simp [numbered, allocate, List.zipIdx_append]

theorem numbered_suppress (self : Traced) (completionId : UInt64) (serial : Nat) (f : CrashFragment) :
    (self.suppress completionId serial f).numbered = self.numbered := by
  have same : ∀ a : Account, (a.suppress f).merged = a.merged := fun _ => rfl
  simp only [numbered, suppress, map_modify_eq same]

theorem numbered_complete (self : Traced) (o : Occurrence) :
    (self.complete o).2.numbered = self.numbered ++ [(self.complete o).1] := self.numbered_allocate o

theorem numbered_completeAll (due : List Occurrence) (self : Traced) :
    (completeAll due self).2.numbered = self.numbered ++ (completeAll due self).1 := by
  induction due generalizing self with
  | nil => simp [completeAll]
  | cons o due ih => simp [completeAll, ih, numbered_complete]

theorem numbered_drainFrom (occurrences : List Occurrence) (self : Traced) :
    (drainFrom occurrences self).2.numbered = self.numbered ++ (drainFrom occurrences self).1 := by
  induction occurrences generalizing self with
  | nil => simp [drainFrom]
  | cons o rest ih => simp [drainFrom, ih, numbered_allocate]

theorem sortByTime_perm (out : List (Nat × MergedCrash)) : (sortByTime out).Perm out :=
  List.perm_insertionSort ..

theorem numbered_flushBefore (self : Traced) (watermarkMs : I64) :
    (self.numbered ++ (self.flushBefore watermarkMs).1).Perm
      (self.flushBefore watermarkMs).2.numbered := by
  simp only [flushBefore, numbered_completeAll]
  exact (sortByTime_perm _).append_left _

theorem numbered_finishSettled (self : Traced) (completed : List (Nat × MergedCrash)) (index : Nat)
    (o : Occurrence) {before : List (Nat × MergedCrash)} (same : (before ++ completed).Perm self.numbered) :
    (before ++ (self.finishSettled completed index o).1).Perm
      (self.finishSettled completed index o).2.numbered := by
  rw [finishSettled]
  split_ifs
  · simp only [numbered_complete]
    calc
      before ++ sortByTime (completed ++ [_]) ~ before ++ (completed ++ [_]) :=
        (sortByTime_perm _).append_left _
      _ = before ++ completed ++ [_] := (List.append_assoc ..).symm
      _ ~ _ := same.append_right _
  · exact same

theorem numbered_ingest (self : Traced) (f : CrashFragment) :
    (self.numbered ++ (self.ingest f).1).Perm (self.ingest f).2.numbered := by
  have flushed := self.numbered_flushBefore f.happenedAtMs
  rw [ingest]
  simp only
  rw [receive]
  split_ifs
  · exact flushed
  · split
    · exact numbered_finishSettled _ _ _ _ flushed
    · split
      · rw [numbered_suppress]
        exact flushed
      · exact numbered_finishSettled _ _ _ _ flushed

theorem numbered_step (self : Traced) (input : Input) :
    (self.numbered ++ (self.step input).1).Perm (self.step input).2.numbered := by
  cases input with
  | ingest f => exact self.numbered_ingest f
  | flush watermarkMs => exact self.numbered_flushBefore watermarkMs

theorem numbered_run (inputs : List Input) (self : Traced) :
    (self.numbered ++ (run inputs self).1).Perm (run inputs self).2.numbered := by
  induction inputs generalizing self with
  | nil => simp [run]
  | cons input rest ih =>
      simp only [run, ← List.append_assoc]
      exact ((self.numbered_step input).append_right _).trans (ih _)

theorem numbered_drain (self : Traced) :
    (self.numbered ++ self.drain.1).Perm self.drain.2.numbered := by
  simp only [drain, numbered_drainFrom]
  exact (sortByTime_perm _).append_left _

theorem pending_drainFrom (occurrences : List Occurrence) (t : Traced) :
    (drainFrom occurrences t).2.pending = t.pending := by
  induction occurrences generalizing t with
  | nil => rfl
  | cons o rest ih => exact ih (t.allocate o).2

theorem pending_drain (t : Traced) : t.drain.2.pending = [] := pending_drainFrom t.pending (t.setPending [])

theorem runAndDrain_perm (windowMs : I64) (inputs : List Input) :
    (CrashMerger.runAndDrain inputs (.new windowMs)).Perm
      ((history windowMs inputs).accounts.map Account.merged) := by
  have emitted := numbered_run inputs (new windowMs)
  have drained := numbered_drain (run inputs (new windowMs)).2
  have all := ((emitted.append_right _).trans drained).map Prod.snd
  simp only [numbered_snd, List.map_append] at all
  rw [CrashMerger.runAndDrain, ← forget_new, run_forget]
  simp only [drain_forget]
  simpa [new, numbered, history] using all

end Traced
end CrashCatcher.Merge
