import CrashCatcher.Lib.Run
import CrashCatcher.Merge.Sound

namespace CrashCatcher.Merge
open Lib Lib.Run Model

inductive Call where
  | ingest (f : CrashFragment)
  | flushBefore (watermarkMs : I64)
  | drain

def Call.received : Call → List CrashFragment
  | .ingest f => [f]
  | .flushBefore _ => []
  | .drain => []

def CrashMerger.call (self : CrashMerger) : Call → List MergedCrash × CrashMerger
  | .ingest f => self.ingest f
  | .flushBefore watermarkMs => self.flushBefore watermarkMs
  | .drain => self.drain

namespace Traced

def call (self : Traced) : Call → List (Nat × MergedCrash) × Traced
  | .ingest f => self.ingest f
  | .flushBefore watermarkMs => self.flushBefore watermarkMs
  | .drain => self.drain

def afterCalls (windowMs : I64) (calls : List Call) : Traced := (collect call calls (new windowMs)).2

theorem call_forget (self : Traced) (c : Call) :
    self.forget.call c = ((self.call c).1.map Prod.snd, (self.call c).2.forget) := by
  cases c with
  | ingest f => exact self.ingest_forget f
  | flushBefore watermarkMs => exact self.flushBefore_forget watermarkMs
  | drain => exact self.drain_forget

theorem numbered_call (self : Traced) (c : Call) :
    (self.numbered ++ (self.call c).1).Perm (self.call c).2.numbered := by
  cases c with
  | ingest f => exact self.numbered_ingest f
  | flushBefore watermarkMs => exact self.numbered_flushBefore watermarkMs
  | drain => exact self.numbered_drain

theorem collect_call_perm (windowMs : I64) (calls : List Call) :
    (collect CrashMerger.call calls (.new windowMs)).1.Perm
      ((afterCalls windowMs calls).accounts.map Account.merged) := by
  have emitted := (collect_recorded numbered_call calls (new windowMs)).map Prod.snd
  have simulated := collect_simulates call_forget calls (new windowMs)
  rw [forget_new] at simulated
  rw [List.map_append, numbered_snd, numbered_snd] at emitted
  rw [simulated]
  exact emitted

theorem Sound.call {received : List CrashFragment} {t : Traced} (sound : Sound received t) (c : Call) :
    Sound (received ++ c.received) (t.call c).2 := by
  cases c with
  | ingest f => exact sound.step (.ingest f)
  | flushBefore watermarkMs => exact sound.step (.flush watermarkMs)
  | drain =>
      rw [Call.received, List.append_nil]
      exact sound.drain

theorem sound_afterCalls (windowMs : I64) (calls : List Call) :
    Sound (calls.flatMap Call.received) (afterCalls windowMs calls) := by
  have preserves : ∀ seen t c, Sound (seen.flatMap Call.received) t →
      Sound ((seen ++ [c]).flatMap Call.received) (t.call c).2 := by
    intro seen t c sound
    rw [List.flatMap_append, List.flatMap_singleton]
    exact sound.call c
  have start : Sound ([].flatMap Call.received) (new windowMs) := sound_new windowMs
  exact collect_preserves preserves calls start

end Traced

/-- What a fragment says about its crash does not contradict the record. -/
structure Attributable (record : CrashRecord) (f : CrashFragment) : Prop where
  process : f.processName = record.processName
  kind : f.kind = record.kind
  pid : f.pid = 0 ∨ f.pid = record.pid
  user : f.userId = none ∨ f.userId = some record.userId

def SameIdentity (fragments : List CrashFragment) : Prop :=
  ∀ f ∈ fragments, ∀ g ∈ fragments,
    (f.pid ≠ 0 → g.pid ≠ 0 → f.pid = g.pid) ∧
      ∀ user other, f.userId = some user → g.userId = some other → user = other

theorem Occurrence.Coherent.attributable {o : Occurrence} (coherent : o.Coherent)
    (completionId : UInt64) {f : CrashFragment} (member : f ∈ o.fragments) :
    Attributable (o.pending.finish completionId).record f where
  process := coherent.process f member
  kind := coherent.kind f member
  pid := coherent.pid f member
  user := by
    rcases coherent.user f member with absent | same
    · exact .inl absent
    · cases carried : f.userId with
      | none => exact .inl rfl
      | some user =>
          refine .inr (congrArg some ?_)
          show user = o.pending.userValue.getD 0
          rw [← same, carried]
          rfl

theorem sameIdentity_of_attributable {record : CrashRecord} {fragments : List CrashFragment}
    (attributable : ∀ f ∈ fragments, Attributable record f) : SameIdentity fragments := by
  intro f member g member'
  refine ⟨fun known known' => ?_, fun user other named named' => ?_⟩
  · have left := (attributable f member).pid.resolve_left known
    have right := (attributable g member').pid.resolve_left known'
    exact left.trans right.symm
  · have left := (attributable f member).user.resolve_left (by simp [named])
    have right := (attributable g member').user.resolve_left (by simp [named'])
    rw [named] at left
    rw [named'] at right
    exact Option.some.inj (left.trans right.symm)

/-- Over any calls of the merger, each record that is handed out has an account, and every fragment
merged into the record was received and agrees with the record about process, kind, pid and user. -/
theorem no_cross_identity (windowMs : I64) (calls : List Call) :
    (collect CrashMerger.call calls (.new windowMs)).1.Perm
        ((Traced.afterCalls windowMs calls).accounts.map Account.merged) ∧
      ∀ a ∈ (Traced.afterCalls windowMs calls).accounts,
        a.occurrence.fragments ⊆ calls.flatMap Call.received ∧
        (∀ f ∈ a.occurrence.fragments, Attributable a.merged.record f) ∧
        SameIdentity a.occurrence.fragments := by
  refine ⟨Traced.collect_call_perm windowMs calls, fun a member => ?_⟩
  obtain ⟨coherent, part⟩ := (Traced.sound_afterCalls windowMs calls).accounts a member
  have attributable := fun f => coherent.attributable a.completionId (f := f)
  exact ⟨fun f here => part (List.mem_append_left _ here), attributable,
    sameIdentity_of_attributable attributable⟩

end CrashCatcher.Merge
