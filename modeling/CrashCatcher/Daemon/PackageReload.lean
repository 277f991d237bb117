import CrashCatcher.Daemon.Core
import CrashCatcher.Lib.Run

namespace CrashCatcher.Daemon
open Lib Lib.Run

namespace PackageIndex

def inheritFlag (previous : PackageIndex) (entry : PackageEntry) : PackageEntry :=
  match previous.byName entry.name with
  | some known => { entry with isSystem := known.isSystem }
  | none => entry

def inheritSystemFlags (self previous : PackageIndex) : PackageIndex :=
  if self.systemFlagsKnown || !previous.systemFlagsKnown then self
  else { entries := self.entries.map previous.inheritFlag, systemFlagsKnown := true }

variable {self previous : PackageIndex} {name : Str}

@[simp] theorem name_inheritFlag (entry : PackageEntry) : (previous.inheritFlag entry).name = entry.name := by
  unfold inheritFlag
  cases previous.byName entry.name with
  | none => rfl
  | some known => rfl

theorem isSystem_inheritFlag {entry known : PackageEntry} (listed : previous.byName entry.name = some known) :
    (previous.inheritFlag entry).isSystem = known.isSystem := by
  unfold inheritFlag
  rw [listed]

theorem inherit_own (own : self.systemFlagsKnown = true) : self.inheritSystemFlags previous = self := by
  simp [inheritSystemFlags, own]

theorem inherit_known (own : self.systemFlagsKnown = false) (known : previous.systemFlagsKnown = true) :
    self.inheritSystemFlags previous =
      { entries := self.entries.map previous.inheritFlag, systemFlagsKnown := true } := by
  simp [inheritSystemFlags, own, known]

theorem byName_inherit (own : self.systemFlagsKnown = false) (known : previous.systemFlagsKnown = true) :
    (self.inheritSystemFlags previous).byName name = (self.byName name).map previous.inheritFlag := by
  rw [inherit_known own known]
  simp only [byName, ← List.map_reverse, List.find?_map]
  congr 2
  funext entry
  simp

theorem name_of_byName {entry : PackageEntry} (found : self.byName name = some entry) : entry.name = name := by
  simpa using List.find?_some found

end PackageIndex

/-- A reload that has taken its system flags from an index and is not yet in place. -/
structure Reload where
  loaded : PackageIndex
  current : PackageIndex

/-- The shared package index, and the threads between the two steps of a reload. -/
structure PackageState where
  packages : PackageIndex
  reloads : Nat → Option Reload

inductive PackageAction where
  /-- The completing thread has loaded an index. -/
  | complete (index : PackageIndex)
  /-- A reloading thread takes the flags of the index in place for the one it loaded. -/
  | inherit (thread : Nat) (loaded : PackageIndex)
  /-- The thread puts its index in place. -/
  | install (thread : Nat)

namespace PackageState

def step (self : PackageState) : PackageAction → PackageState
  | .complete index => if index.systemFlagsKnown then { self with packages := index } else self
  | .inherit thread loaded =>
      match self.reloads thread with
      | some _ => self
      | none => { self with reloads := Function.update self.reloads thread (some ⟨loaded, self.packages⟩) }
  | .install thread =>
      match self.reloads thread with
      | some reload => {
          packages := reload.loaded.inheritSystemFlags reload.current
          reloads := Function.update self.reloads thread none }
      | none => self

def installing (self : PackageState) : PackageAction → Option Reload
  | .install thread => (self.reloads thread).filter fun reload => !reload.loaded.systemFlagsKnown
  | _ => none

/-- Known system flags stay known, and a reload that has none of its own changes none of them. -/
def KeepsFlags (self : PackageState) (action : PackageAction) : Prop :=
  self.packages.systemFlagsKnown = true →
    (self.step action).packages.systemFlagsKnown = true ∧
      ((self.installing action).isSome → ∀ name before after, self.packages.byName name = some before →
        (self.step action).packages.byName name = some after → after.isSystem = before.isSystem)

end PackageState

def PackageIndex.SameFlags (self other : PackageIndex) : Prop :=
  self.systemFlagsKnown = other.systemFlagsKnown ∧
    ∀ name, (self.byName name).map PackageEntry.isSystem = (other.byName name).map PackageEntry.isSystem

namespace PackageState

/-- Over a completed index, a reload without flags of its own is put in place only while the flags are those it
took. -/
def FlagsFresh (self : PackageState) (action : PackageAction) : Prop :=
  self.packages.systemFlagsKnown = true →
    ∀ reload, self.installing action = some reload → reload.current.SameFlags self.packages

theorem keepsFlags_of_fresh {state : PackageState} {action : PackageAction} (fresh : state.FlagsFresh action) :
    state.KeepsFlags action := by
  intro known
  cases action with
  | complete index =>
      refine ⟨?_, fun installs => by cases installs⟩
      by_cases own : index.systemFlagsKnown = true
      · simp [step, own]
      · simpa [step, own] using known
  | inherit thread loaded =>
      refine ⟨?_, fun installs => by cases installs⟩
      cases between : state.reloads thread with
      | some reload => simpa [step, between] using known
      | none => simpa [step, between] using known
  | install thread =>
      cases between : state.reloads thread with
      | none =>
          have idle : state.step (.install thread) = state := by simp [step, between]
          rw [idle]
          refine ⟨known, fun installs => ?_⟩
          simp [installing, between] at installs
      | some reload =>
          have placed : (state.step (.install thread)).packages =
              reload.loaded.inheritSystemFlags reload.current := by
            simp [step, between]
          rw [placed]
          cases own : reload.loaded.systemFlagsKnown with
          | true =>
              refine ⟨by rw [PackageIndex.inherit_own own, own], fun installs => ?_⟩
              simp [installing, between, own] at installs
          | false =>
              have installs : state.installing (.install thread) = some reload := by
                simp [installing, between, own]
              obtain ⟨flags, same⟩ := fresh known reload installs
              have known' := flags.trans known
              refine ⟨by rw [PackageIndex.inherit_known own known'], fun _ name before after listed kept => ?_⟩
              rw [PackageIndex.byName_inherit own known'] at kept
              obtain ⟨entry, found, rfl⟩ := Option.map_eq_some_iff.mp kept
              have told := same name
              rw [listed] at told
              obtain ⟨before', listed', same'⟩ := Option.map_eq_some_iff.mp told
              rw [← PackageIndex.name_of_byName found] at listed'
              rw [PackageIndex.isSystem_inheritFlag listed', same']

/-- In a run that puts no reload in place over flags it did not take, completed system flags are never lost. -/
theorem completed_flags_kept (state : PackageState) (actions : List PackageAction)
    (fresh : Throughout step FlagsFresh state actions) : Throughout step KeepsFlags state actions := by
  induction actions generalizing state with
  | nil => trivial
  | cons action actions ih => exact ⟨keepsFlags_of_fresh fresh.1, ih (state.step action) fresh.2⟩

def unansweredIndex : PackageIndex := { entries := [⟨"app".toList, none, false⟩], systemFlagsKnown := false }

def completedIndex : PackageIndex := { entries := [⟨"app".toList, none, true⟩], systemFlagsKnown := true }

def booted : PackageState := { packages := unansweredIndex, reloads := fun _ => none }

theorem late_reload_keeps_flags :
    Throughout step KeepsFlags booted [.complete completedIndex, .inherit 0 unansweredIndex, .install 0] := by
  apply completed_flags_kept
  refine ⟨nofun, nofun, fun _ reload installs => ?_, trivial⟩
  cases installs
  exact ⟨rfl, fun _ => rfl⟩

/-- A reload that began before the index was completed takes the flags away again. -/
theorem completed_flags_lost : ¬ ∀ state actions, Throughout step KeepsFlags state actions := by
  intro always
  obtain ⟨-, -, kept, -⟩ := always booted [.inherit 0 unansweredIndex, .complete completedIndex, .install 0]
  cases (kept rfl).1

end PackageState
end CrashCatcher.Daemon
