import CrashCatcher.Daemon.Mutes

namespace CrashCatcher.Store
open Lib Model

def Database.mutesOf (db : Database) (package : Str) : List (Option I64) :=
  (db.groups.rows.filter fun row => row.packageName = package).map GroupSummary.mutedUntilMs

theorem Database.mutesOf_mutePackage (db : Database) (package other : Str) (mutedUntilMs : Option I64) :
    (db.mutePackage package mutedUntilMs).mutesOf other =
      if package = other then (db.mutesOf other).map fun _ => mutedUntilMs else db.mutesOf other := by
  have rows : (db.mutePackage package mutedUntilMs).groups.rows = db.groups.rows.map fun row =>
      if row.packageName = package then row.mute mutedUntilMs else row := by
    simp [mutePackage, Table.rows_modify]
  rw [mutesOf, mutesOf, rows]
  induction db.groups.rows with
  | nil => simp
  | cons row rest ih =>
      by_cases hit : row.packageName = package
      · have named : (row.mute mutedUntilMs).packageName = package := hit
        by_cases same : package = other
        · simp_all [GroupSummary.mute]
        · simp_all [GroupSummary.mute]
      · by_cases here : row.packageName = other
        · have apart : package ≠ other := fun same => hit (here.trans same.symm)
          simp_all
        · simp_all

end CrashCatcher.Store

namespace CrashCatcher.Daemon
open Lib Lib.Run Model Config Store

structure MuteState where
  mutes : Mutes
  config : ConfigDocument
  db : Database

structure MuteView where
  map : Option MuteScope
  config : MuteScope
  rows : List (Option I64)
deriving DecidableEq

inductive MuteOperation where
  | clearUnlock
  | muteApp (packageName : Str) (scope : MuteScope)
  | setAppConfig (packageName : Str) (patch : AppConfigPatch)

inductive MuteStage where
  | waiting
  | loaded (cleared : List Str)
  | unmuting (cleared : List Str) (next : Nat)
  | applied
  | stored (scope : MuteScope)
  | done
deriving DecidableEq

namespace MuteState

def view (s : MuteState) (package : Str) : MuteView where
  map := s.mutes[package]?
  config := (s.config.app package).mute
  rows := s.db.mutesOf package

variable (s : MuteState)

/-- `apply_mute`, which holds the lock of the map until the groups are written. -/
def apply (packageName : Str) (scope : MuteScope) : MuteState :=
  { s with mutes := putScope s.mutes packageName scope, db := s.db.mutePackage packageName (mutedUntil scope) }

def update (mutate : ConfigDocument → ConfigDocument) : MuteState :=
    { s with config := (mutate s.config).normalized }

def storeScope (packageName : Str) (scope : MuteScope) : MuteState :=
  s.update fun document => document.putApp packageName { document.app packageName with mute := scope }

def storePatch (packageName : Str) (patch : AppConfigPatch) : MuteState :=
  s.update fun document => document.putApp packageName (patch.apply (document.app packageName))

/-- The packages whose configured mute matches, as `clear_mutes` reads them. -/
def configured (forgets : MuteScope → Bool) : List Str :=
  (s.config.apps.toList.filter fun app => forgets app.2.mute).map Prod.fst

def forget (forgets : MuteScope → Bool) (cleared : List Str) : MuteState × List Str :=
  let (mutes, cleared) := DaemonCore.forgetMutes forgets s.mutes cleared
  ({ s with mutes }, cleared)

def unmute (package : Str) : MuteState := { s with db := s.db.mutePackage package none }

def clearConfig (cleared : List Str) : MuteState :=
    s.update fun document => cleared.foldl DaemonCore.clearMute document

def clear (forgets : MuteScope → Bool) : MuteState :=
  let (s, cleared) := s.forget forgets (s.configured forgets)
  if cleared.isEmpty then s else (cleared.foldl unmute s).clearConfig cleared

def startUp (config : ConfigDocument) (db : Database) : MuteState := clear ⟨∅, config, db⟩ fun _ => true

end MuteState

def isUnlockMute (scope : MuteScope) : Bool := scope = .untilUnlock

def MuteOperation.perform (s : MuteState) : MuteOperation → MuteState
  | clearUnlock => s.clear isUnlockMute
  | muteApp packageName scope => (s.apply packageName scope).storeScope packageName scope
  | setAppConfig packageName patch =>
      let s := s.storePatch packageName patch
      s.apply packageName (s.config.app packageName).mute

/-- Operations under way. The order in which they wrote the map is a record of the run only. -/
structure MuteRun where
  state : MuteState
  stage : Nat → MuteStage := fun _ => .waiting
  order : List Nat := []

namespace MuteRun

def setStage (self : MuteRun) (n : Nat) (stage : MuteStage) : MuteRun :=
  { self with stage := Function.update self.stage n stage }

def step (ops : List MuteOperation) (self : MuteRun) (n : Nat) : MuteRun :=
  match ops[n]?, self.stage n with
  | some .clearUnlock, .waiting => self.setStage n (.loaded (self.state.configured isUnlockMute))
  | some .clearUnlock, .loaded cleared =>
      let (state, cleared) := self.state.forget isUnlockMute cleared
      { self.setStage n (if cleared.isEmpty then .done else .unmuting cleared 0) with
        state, order := self.order ++ [n] }
  | some .clearUnlock, .unmuting cleared next => match cleared[next]? with
    | some package => { self.setStage n (.unmuting cleared (next + 1)) with state := self.state.unmute package }
    | none => { self.setStage n .done with state := self.state.clearConfig cleared }
  | some (.muteApp packageName scope), .waiting =>
      { self.setStage n .applied with state := self.state.apply packageName scope, order := self.order ++ [n] }
  | some (.muteApp packageName scope), .applied =>
      { self.setStage n .done with state := self.state.storeScope packageName scope }
  | some (.setAppConfig packageName patch), .waiting =>
      let state := self.state.storePatch packageName patch
      { self.setStage n (.stored (state.config.app packageName).mute) with state }
  | some (.setAppConfig packageName _), .stored scope =>
      { self.setStage n .done with state := self.state.apply packageName scope, order := self.order ++ [n] }
  | _, _ => self

end MuteRun

def MuteStage.Holds (op : MuteOperation) (stage : MuteStage) (package : Str) : Prop :=
  match op, stage with
  | .clearUnlock, .loaded cleared => package ∈ cleared
  | .clearUnlock, .unmuting cleared _ => package ∈ cleared
  | .muteApp packageName _, .applied => packageName = package
  | .setAppConfig packageName _, .stored _ => packageName = package
  | _, _ => False

def MuteStage.Takes (op : MuteOperation) (stage : MuteStage) (s : MuteState) (package : Str) : Prop :=
  match op, stage with
  | .clearUnlock, .waiting => (s.view package).config = .untilUnlock
  | .clearUnlock, .loaded _ => (s.view package).map = some .untilUnlock
  | .muteApp packageName _, .waiting => packageName = package
  | .setAppConfig packageName _, .waiting => packageName = package
  | _, _ => False

namespace MuteRun

def Holds (ops : List MuteOperation) (self : MuteRun) (n : Nat) (package : Str) : Prop :=
  ∃ op, ops[n]? = some op ∧ (self.stage n).Holds op package

/-- The step begins with no package that another operation has begun with and not ended. -/
def Apart (ops : List MuteOperation) (self : MuteRun) (n : Nat) : Prop :=
  ∀ op package, ops[n]? = some op → (self.stage n).Takes op self.state package →
    ∀ m, m ≠ n → ¬ self.Holds ops m package

end MuteRun

def SameMutes (s t : MuteState) : Prop := ∀ package, s.view package = t.view package

namespace MuteState
variable (s : MuteState)

theorem view_apply (packageName : Str) (scope : MuteScope) (package : Str) :
    (s.apply packageName scope).view package =
      if packageName = package then
        { map := entry scope, config := (s.view package).config,
          rows := (s.view package).rows.map fun _ => mutedUntil scope }
      else s.view package := by
  simp only [view, apply, getElem?_putScope, Database.mutesOf_mutePackage]
  split_ifs <;> rfl

theorem view_update (mutate : ConfigDocument → ConfigDocument) (package : Str) :
    (s.update mutate).view package =
    { s.view package with config := ((mutate s.config).app package).mute } := by
  simp only [view, update, ConfigDocument.app_normalized]

theorem view_storeScope (packageName : Str) (scope : MuteScope) (package : Str) :
    (s.storeScope packageName scope).view package =
      if packageName = package then { s.view package with config := scope } else s.view package := by
  rw [storeScope, view_update, ConfigDocument.app_putApp]
  split_ifs <;> rfl

theorem view_storePatch (packageName : Str) (patch : AppConfigPatch) (package : Str) :
    (s.storePatch packageName patch).view package =
      if packageName = package then
        { s.view package with config := patch.mute.getD (s.view package).config }
      else s.view package := by
  rw [storePatch, view_update, ConfigDocument.app_putApp]
  by_cases same : packageName = package
  · subst same
    simp only [if_true]
    rfl
  · rw [if_neg same, if_neg same]
    rfl

theorem view_unmute (packageName package : Str) : (s.unmute packageName).view package =
    if packageName = package then { s.view package with rows := (s.view package).rows.map fun _ => none }
    else s.view package := by
  simp only [view, unmute, Database.mutesOf_mutePackage]
  split_ifs <;> rfl

theorem view_clearConfig (cleared : List Str) (package : Str) : (s.clearConfig cleared).view package =
    if package ∈ cleared then { s.view package with config := .none } else s.view package := by
  rw [clearConfig, view_update, app_clearMute]
  split_ifs <;> rfl

theorem view_unmute_foldl (packages : List Str) (package : Str) : (packages.foldl unmute s).view package =
    if package ∈ packages then { s.view package with rows := (s.view package).rows.map fun _ => none }
    else s.view package := by
  induction packages generalizing s with
  | nil => rfl
  | cons packageName rest ih =>
      rw [List.foldl_cons, ih, view_unmute]
      by_cases here : packageName = package
      · by_cases later : package ∈ rest <;> simp [later, here]
      · have apart : package ≠ packageName := fun same => here same.symm
        simp [here, apart]

theorem view_forget (forgets : MuteScope → Bool) (cleared : List Str) (package : Str) :
    (s.forget forgets cleared).1.view package =
      { s.view package with map := (s.view package).map.filter fun scope => !forgets scope } := by
  have spec := (DaemonCore.forgetMutes_spec forgets s.mutes cleared package).1
  simp only [view, forget, spec]

theorem mem_forget (forgets : MuteScope → Bool) (cleared : List Str) (package : Str) :
    package ∈ (s.forget forgets cleared).2 ↔
      package ∈ cleared ∨ ∃ scope, (s.view package).map = some scope ∧ forgets scope :=
  (DaemonCore.forgetMutes_spec forgets s.mutes cleared package).2

theorem view_clear (forgets : MuteScope → Bool) (package : Str) : (s.clear forgets).view package =
    if package ∈ (s.forget forgets (s.configured forgets)).2 then
      { map := (s.view package).map.filter fun scope => !forgets scope, config := .none,
        rows := (s.view package).rows.map fun _ => none }
    else { s.view package with map := (s.view package).map.filter fun scope => !forgets scope } := by
  have forgotten := s.view_forget forgets (s.configured forgets) package
  rcases cleared : s.forget forgets (s.configured forgets) with ⟨t, packages⟩
  rw [cleared] at forgotten
  simp only [clear, cleared]
  cases packages with
  | nil => simpa using forgotten
  | cons first rest =>
      simp only [List.isEmpty_cons, Bool.false_eq_true, if_false, view_clearConfig,
        view_unmute_foldl, forgotten]
      split_ifs <;> rfl

theorem listed_configured (forgets : MuteScope → Bool) (package : Str) :
    package ∈ s.configured forgets ↔ ∃ app, s.config.apps[package]? = some app ∧ forgets app.mute :=
  mem_configured forgets s.config package

theorem mem_configured_unlock (package : Str) :
    package ∈ s.configured isUnlockMute ↔ (s.view package).config = .untilUnlock := by
  rw [listed_configured]
  simp only [view, ConfigDocument.app, isUnlockMute, decide_eq_true_eq]
  cases s.config.apps[package]? with
  | none => simp
  | some app => simp

theorem mem_forget_unlock (cleared : List Str) (package : Str) : package ∈ (s.forget isUnlockMute cleared).2 ↔
    package ∈ cleared ∨ (s.view package).map = some .untilUnlock := by
  rw [mem_forget]
  simp [isUnlockMute]

theorem mem_cleared (package : Str) : package ∈ (s.forget isUnlockMute (s.configured isUnlockMute)).2 ↔
    (s.view package).config = .untilUnlock ∨ (s.view package).map = some .untilUnlock := by
  rw [mem_forget_unlock, mem_configured_unlock]

end MuteState

def MuteView.Agrees (v : MuteView) : Prop := v.map = entry v.config

/-- What an operation under way has done to a package, and what it would have done with nothing in between. -/
def MuteStage.Owes (op : MuteOperation) (stage : MuteStage) (package : Str) (v w : MuteView) : Prop :=
  match op, stage with
  | .clearUnlock, .loaded _ => v = w ∧ w.config = .untilUnlock
  | .clearUnlock, .unmuting cleared next => w.config = .none ∧
      w.rows = if package ∈ cleared.drop next then v.rows.map fun _ => none else v.rows
  | .muteApp _ scope, .applied => w.config = scope ∧ w.rows = v.rows
  | .setAppConfig _ patch, .stored scope => v.config = scope ∧ scope = patch.mute.getD w.config ∧
      w.rows = v.rows
  | _, _ => True

def MuteStage.written : MuteOperation → MuteStage → Bool
  | .clearUnlock, .unmuting _ _ => true
  | .muteApp _ _, .applied => true
  | _, .done => true
  | _, _ => false

structure MuteStage.Tells (op : MuteOperation) (stage : MuteStage) (package : Str) (v w : MuteView) : Prop where
  map : v.map = w.map
  agrees : w.Agrees
  held : stage.Holds op package → stage.Owes op package v w
  free : ¬ stage.Holds op package → v = w

/-- What a step of one operation does to the state `s`, while the state `q` of the operations that have written
the map performs the whole operation or waits. -/
structure Advances (op : MuteOperation) (stage stage' : MuteStage) (s s' q q' : MuteState) : Prop where
  away : ∀ package, ¬ stage.Holds op package → ¬ stage.Takes op s package →
    (s.view package).map = (q.view package).map → (q.view package).Agrees →
    s'.view package = s.view package ∧ q'.view package = q.view package ∧ ¬ stage'.Holds op package
  near : ∀ package, stage.Holds op package ∨ stage.Takes op s package →
    stage.Tells op package (s.view package) (q.view package) →
    stage'.Tells op package (s'.view package) (q'.view package)

namespace Advances
variable {s q : MuteState}

theorem clear_load : Advances .clearUnlock .waiting (.loaded (s.configured isUnlockMute)) s s q q where
  away package _ apart _ _ := ⟨rfl, rfl, fun listed => apart ((s.mem_configured_unlock package).mp listed)⟩
  near package takes tells := by
    obtain ⟨map, agrees, -, free⟩ := tells
    have same := free id
    refine ⟨map, agrees, fun listed => ?_, fun _ => same⟩
    have unlock := (s.mem_configured_unlock package).mp listed
    exact ⟨same, same ▸ unlock⟩

theorem agrees_unlock {w : MuteView} (agrees : w.Agrees) :
    w.map = some .untilUnlock ↔ w.config = .untilUnlock := by
  rw [agrees]
  cases w.config <;> simp [entry]

theorem filter_unlock {found : Option MuteScope} (apart : found ≠ some .untilUnlock) :
    found.filter (fun scope => !isUnlockMute scope) = found := by
  cases found with
  | none => rfl
  | some scope => cases scope <;> simp_all [isUnlockMute]

theorem clear_forget {cleared : List Str} {stage' : MuteStage}
    (next : stage' = if (s.forget isUnlockMute cleared).2.isEmpty then .done
      else .unmuting (s.forget isUnlockMute cleared).2 0) :
    Advances .clearUnlock (.loaded cleared) stage' s (s.forget isUnlockMute cleared).1 q
      (MuteOperation.clearUnlock.perform q) := by
  have holds (package : Str) : stage'.Holds .clearUnlock package ↔
      package ∈ (s.forget isUnlockMute cleared).2 := by
    rw [next]
    cases (s.forget isUnlockMute cleared).2 <;> simp [MuteStage.Holds]
  refine ⟨fun package unheld untaken map agrees => ?_, fun package begins tells => ?_⟩
  · have other : (q.view package).map ≠ some .untilUnlock := map ▸ untaken
    have config : (q.view package).config ≠ .untilUnlock := fun same => other ((agrees_unlock agrees).mpr same)
    refine ⟨?_, ?_, ?_⟩
    · rw [s.view_forget, filter_unlock untaken]
    · rw [MuteOperation.perform, q.view_clear, if_neg, filter_unlock other]
      rw [q.mem_cleared]
      exact fun either => either.elim config other
    · rw [holds, s.mem_forget_unlock]
      exact fun either => either.elim unheld untaken
  · obtain ⟨map, agrees, held, free⟩ := tells
    have unlock : s.view package = q.view package ∧ (q.view package).config = .untilUnlock := by
      by_cases here : package ∈ cleared
      · exact held here
      · have same := free here
        have muted : (s.view package).map = some .untilUnlock := begins.resolve_left here
        exact ⟨same, (agrees_unlock agrees).mp (map ▸ muted)⟩
    obtain ⟨same, config⟩ := unlock
    have muted : (q.view package).map = some .untilUnlock := (agrees_unlock agrees).mpr config
    have member : package ∈ (s.forget isUnlockMute cleared).2 :=
      (s.mem_forget_unlock cleared package).mpr (.inr (map.trans muted))
    have view : (MuteOperation.clearUnlock.perform q).view package =
        { map := none, config := .none, rows := (q.view package).rows.map fun _ => none } := by
      rw [MuteOperation.perform, q.view_clear, if_pos ((q.mem_cleared package).mpr (.inl config)), muted]
      rfl
    have stage : stage' = .unmuting (s.forget isUnlockMute cleared).2 0 := by
      rw [next, if_neg]
      simp [List.ne_nil_of_mem member]
    rw [view, s.view_forget, same, muted, stage]
    refine ⟨rfl, rfl, fun _ => ⟨rfl, ?_⟩, fun unheld => absurd member unheld⟩
    rw [List.drop_zero, if_pos member]

theorem clear_unmute {cleared : List Str} {next : Nat} {packageName : Str}
    (found : cleared[next]? = some packageName) :
    Advances .clearUnlock (.unmuting cleared next) (.unmuting cleared (next + 1)) s
      (s.unmute packageName) q q := by
  obtain ⟨within, rfl⟩ := List.getElem?_eq_some_iff.mp found
  refine ⟨fun package unheld _ _ _ => ?_, fun package begins tells => ?_⟩
  · have apart : cleared[next] ≠ package := fun same => unheld (same ▸ List.getElem_mem within)
    rw [s.view_unmute, if_neg apart]
    exact ⟨rfl, rfl, unheld⟩
  · have member : package ∈ cleared := begins.elim id False.elim
    obtain ⟨map, agrees, held, -⟩ := tells
    obtain ⟨config, rows⟩ := held member
    rw [List.drop_eq_getElem_cons within] at rows
    simp only [List.mem_cons] at rows
    refine ⟨?_, agrees, fun _ => ⟨config, ?_⟩, fun unheld => absurd member unheld⟩
    · rw [s.view_unmute]
      split_ifs <;> exact map
    · rw [rows, s.view_unmute]
      by_cases here : cleared[next] = package
      · by_cases later : package ∈ cleared.drop (next + 1) <;> simp [here, later]
      · have apart : package ≠ cleared[next] := fun same => here same.symm
        simp [here, apart]

theorem clear_finish {cleared : List Str} {next : Nat} (ended : cleared[next]? = none) :
    Advances .clearUnlock (.unmuting cleared next) .done s (s.clearConfig cleared) q q := by
  have none : cleared.drop next = [] := List.drop_eq_nil_iff.mpr (List.getElem?_eq_none_iff.mp ended)
  refine ⟨fun package unheld _ _ _ => ?_, fun package begins tells => ?_⟩
  · have apart : package ∉ cleared := unheld
    rw [s.view_clearConfig, if_neg apart]
    exact ⟨rfl, rfl, id⟩
  · have member : package ∈ cleared := begins.elim id False.elim
    obtain ⟨map, agrees, held, -⟩ := tells
    obtain ⟨config, rows⟩ := held member
    rw [none, if_neg List.not_mem_nil] at rows
    have view : (s.clearConfig cleared).view package = q.view package := by
      rw [s.view_clearConfig, if_pos member]
      show MuteView.mk (s.view package).map .none (s.view package).rows = q.view package
      rw [map, ← config, ← rows]
    exact ⟨congrArg MuteView.map view, agrees, False.elim, fun _ => view⟩

theorem mute_apply (packageName : Str) (scope : MuteScope) :
    Advances (.muteApp packageName scope) .waiting .applied s (s.apply packageName scope) q
      ((MuteOperation.muteApp packageName scope).perform q) := by
  refine ⟨fun package _ untaken _ _ => ?_, fun package begins tells => ?_⟩
  · have apart : packageName ≠ package := untaken
    rw [MuteOperation.perform, MuteState.view_storeScope, if_neg apart, MuteState.view_apply, if_neg apart,
      MuteState.view_apply, if_neg apart]
    exact ⟨rfl, rfl, apart⟩
  · obtain rfl : packageName = package := begins.elim False.elim id
    have same := tells.free id
    rw [MuteOperation.perform, MuteState.view_storeScope, if_pos rfl, MuteState.view_apply, if_pos rfl,
      MuteState.view_apply, if_pos rfl, same]
    exact ⟨rfl, rfl, fun _ => ⟨rfl, rfl⟩, fun unheld => absurd rfl unheld⟩

theorem mute_store (packageName : Str) (scope : MuteScope) :
    Advances (.muteApp packageName scope) .applied .done s (s.storeScope packageName scope) q q := by
  refine ⟨fun package unheld _ _ _ => ?_, fun package begins tells => ?_⟩
  · have apart : packageName ≠ package := unheld
    rw [s.view_storeScope, if_neg apart]
    exact ⟨rfl, rfl, id⟩
  · obtain rfl : packageName = package := begins.elim id False.elim
    obtain ⟨map, agrees, held, -⟩ := tells
    obtain ⟨config, rows⟩ := held rfl
    have view : (s.storeScope packageName scope).view packageName = q.view packageName := by
      rw [s.view_storeScope, if_pos rfl]
      show MuteView.mk (s.view packageName).map scope (s.view packageName).rows = q.view packageName
      rw [map, ← config, ← rows]
    exact ⟨congrArg MuteView.map view, agrees, False.elim, fun _ => view⟩

theorem set_store {packageName : Str} {patch : AppConfigPatch} {scope : MuteScope}
    (stored : scope = ((s.storePatch packageName patch).config.app packageName).mute) :
    Advances (.setAppConfig packageName patch) .waiting (.stored scope) s
      (s.storePatch packageName patch) q q := by
  refine ⟨fun package _ untaken _ _ => ?_, fun package begins tells => ?_⟩
  · have apart : packageName ≠ package := untaken
    rw [s.view_storePatch, if_neg apart]
    exact ⟨rfl, rfl, apart⟩
  · obtain rfl : packageName = package := begins.elim False.elim id
    have view := s.view_storePatch packageName patch packageName
    rw [if_pos rfl] at view
    have stored : scope = ((s.storePatch packageName patch).view packageName).config := stored
    rw [view] at stored
    obtain ⟨map, agrees, -, free⟩ := tells
    have same := free id
    rw [view]
    refine ⟨map, agrees, fun _ => ⟨stored.symm, ?_, ?_⟩, fun unheld => absurd rfl unheld⟩
    · rw [stored, same]
    · rw [same]

theorem set_apply (packageName : Str) (patch : AppConfigPatch) (scope : MuteScope) :
    Advances (.setAppConfig packageName patch) (.stored scope) .done s (s.apply packageName scope) q
      ((MuteOperation.setAppConfig packageName patch).perform q) := by
  refine ⟨fun package unheld _ _ _ => ?_, fun package begins tells => ?_⟩
  · have apart : packageName ≠ package := unheld
    rw [MuteOperation.perform, MuteState.view_apply, if_neg apart, MuteState.view_apply, if_neg apart,
      MuteState.view_storePatch, if_neg apart]
    exact ⟨rfl, rfl, id⟩
  · obtain rfl : packageName = package := begins.elim id False.elim
    obtain ⟨-, -, held, -⟩ := tells
    obtain ⟨config, patched, rows⟩ := held rfl
    have stored : ((q.storePatch packageName patch).view packageName).config = scope := by
      rw [MuteState.view_storePatch, if_pos rfl, patched]
    have view : (s.apply packageName scope).view packageName =
        ((MuteOperation.setAppConfig packageName patch).perform q).view packageName := by
      have stored' : ((q.storePatch packageName patch).config.app packageName).mute = scope := stored
      rw [MuteOperation.perform, MuteState.view_apply, if_pos rfl, MuteState.view_apply, if_pos rfl,
        stored, stored', MuteState.view_storePatch, if_pos rfl, config, rows]
    refine ⟨congrArg MuteView.map view, ?_, False.elim, fun _ => view⟩
    rw [← view, MuteState.view_apply, if_pos rfl]
    exact congrArg entry config.symm

end Advances

namespace MuteRun
variable {ops : List MuteOperation} {run : MuteRun} {n : Nat} {op : MuteOperation}

def performed (ops : List MuteOperation) (run : MuteRun) : List MuteOperation := run.order.filterMap (ops[·]?)

/-- The operations under way share no package, and but for what they owe the state is that of the operations that
have written the map, one after the other. -/
structure Sound (ops : List MuteOperation) (start : MuteState) (run : MuteRun) : Prop where
  exclusive : ∀ package m n, run.Holds ops m package → run.Holds ops n package → m = n
  map : ∀ package, (run.state.view package).map =
    (((run.performed ops).foldl MuteOperation.perform start).view package).map
  agrees : ∀ package, (((run.performed ops).foldl MuteOperation.perform start).view package).Agrees
  held : ∀ n op package, ops[n]? = some op → (run.stage n).Holds op package →
    (run.stage n).Owes op package (run.state.view package)
      (((run.performed ops).foldl MuteOperation.perform start).view package)
  free : ∀ package, (∀ n, ¬ run.Holds ops n package) →
    run.state.view package = ((run.performed ops).foldl MuteOperation.perform start).view package
  order : run.order.Nodup
  written : ∀ n, n ∈ run.order ↔ ∃ op, ops[n]? = some op ∧ (run.stage n).written op = true

theorem Sound.tells {start : MuteState} (sound : Sound ops start run) (known : ops[n]? = some op)
    {package : Str} (alone : ∀ m, m ≠ n → ¬ run.Holds ops m package) :
    (run.stage n).Tells op package (run.state.view package)
      (((run.performed ops).foldl MuteOperation.perform start).view package) where
  map := sound.map package
  agrees := sound.agrees package
  held := sound.held n op package known
  free unheld := by
    refine sound.free package fun m holds => ?_
    by_cases same : m = n
    · subst same
      obtain ⟨other, listed, held⟩ := holds
      cases known.symm.trans listed
      exact unheld held
    · exact alone m same holds

inductive Writes (run run' : MuteRun) (n : Nat) (op : MuteOperation) (stage' : MuteStage) (q q' : MuteState) :
    Prop
  | waits (order : run'.order = run.order) (written : stage'.written op = (run.stage n).written op)
      (same : q' = q)
  | performs (order : run'.order = run.order ++ [n]) (before : (run.stage n).written op = false)
      (after : stage'.written op = true) (performs : q' = op.perform q)

theorem Sound.advance {start : MuteState} {run' : MuteRun} {stage' : MuteStage} {q' : MuteState}
    (sound : Sound ops start run) (known : ops[n]? = some op) (apart : run.Apart ops n)
    (stage : run'.stage = Function.update run.stage n stage')
    (advances : Advances op (run.stage n) stage' run.state run'.state
      ((run.performed ops).foldl MuteOperation.perform start) q')
    (writes : Writes run run' n op stage' ((run.performed ops).foldl MuteOperation.perform start) q') :
    Sound ops start run' := by
  have performed : (run'.performed ops).foldl MuteOperation.perform start = q' := by
    cases writes with
    | waits order _ same => rw [MuteRun.performed, order, same, MuteRun.performed]
    | performs order _ _ performs =>
        rw [MuteRun.performed, order, List.filterMap_append, List.foldl_append, performs, MuteRun.performed]
        simp [known]
  have own : run'.stage n = stage' := by rw [stage, Function.update_self]
  have others : ∀ m, m ≠ n → run'.stage m = run.stage m :=
    fun m other => by rw [stage, Function.update_of_ne other]
  have holds : ∀ m package, m ≠ n → (run'.Holds ops m package ↔ run.Holds ops m package) := by
    intro m package other
    simp only [Holds, others m other]
  have holdsOwn : ∀ package, run'.Holds ops n package ↔ stage'.Holds op package := by
    intro package
    simp [Holds, known, own]
  have holdsBefore : ∀ package, run.Holds ops n package ↔ (run.stage n).Holds op package := by
    intro package
    simp [Holds, known]
  -- a package that the step touches is held by no other operation
  have alone : ∀ package, (run.stage n).Holds op package ∨ (run.stage n).Takes op run.state package →
      ∀ m, m ≠ n → ¬ run.Holds ops m package := by
    rintro package (held | takes) m other holds
    · exact other (sound.exclusive package m n holds ((holdsBefore package).mpr held))
    · exact apart op package known takes m other holds
  have touched : ∀ package, (run.stage n).Holds op package ∨ (run.stage n).Takes op run.state package →
      stage'.Tells op package (run'.state.view package) (q'.view package) := fun package begins =>
    advances.near package begins (sound.tells known (alone package begins))
  have untouched : ∀ package, ¬ ((run.stage n).Holds op package ∨ (run.stage n).Takes op run.state package) →
      run'.state.view package = run.state.view package ∧
        q'.view package = ((run.performed ops).foldl MuteOperation.perform start).view package ∧
        ¬ stage'.Holds op package := fun package begins =>
    advances.away package (fun held => begins (.inl held)) (fun takes => begins (.inr takes))
      (sound.map package) (sound.agrees package)
  have begins : ∀ package, stage'.Holds op package →
      (run.stage n).Holds op package ∨ (run.stage n).Takes op run.state package := fun package held =>
    Classical.byContradiction fun begins => (untouched package begins).2.2 held
  refine ⟨fun package m m' left right => ?_, fun package => ?_, fun package => ?_,
    fun m other package listed held => ?_, fun package none => ?_, ?_, fun m => ?_⟩
  · by_cases here : m = n <;> by_cases here' : m' = n
    · exact here.trans here'.symm
    · subst here
      exact absurd ((holds m' package here').mp right)
        (alone package (begins package ((holdsOwn package).mp left)) m' here')
    · subst here'
      exact absurd ((holds m package here).mp left)
        (alone package (begins package ((holdsOwn package).mp right)) m here)
    · exact sound.exclusive package m m' ((holds m package here).mp left) ((holds m' package here').mp right)
  · rw [performed]
    by_cases touches : (run.stage n).Holds op package ∨ (run.stage n).Takes op run.state package
    · exact (touched package touches).map
    · obtain ⟨same, same', -⟩ := untouched package touches
      rw [same, same', sound.map]
  · rw [performed]
    by_cases touches : (run.stage n).Holds op package ∨ (run.stage n).Takes op run.state package
    · exact (touched package touches).agrees
    · rw [(untouched package touches).2.1]
      exact sound.agrees package
  · rw [performed]
    by_cases here : m = n
    · subst here
      cases known.symm.trans listed
      rw [own] at held ⊢
      exact (touched package (begins package held)).held held
    · rw [others m here] at held ⊢
      have holder : run.Holds ops m package := ⟨other, listed, held⟩
      obtain ⟨same, same', -⟩ := untouched package fun touches => alone package touches m here holder
      rw [same, same']
      exact sound.held m other package listed held
  · rw [performed]
    by_cases touches : (run.stage n).Holds op package ∨ (run.stage n).Takes op run.state package
    · exact (touched package touches).free fun held => none n ((holdsOwn package).mpr held)
    · obtain ⟨same, same', -⟩ := untouched package touches
      rw [same, same']
      refine sound.free package fun m holder => ?_
      by_cases here : m = n
      · subst here
        exact touches (.inl ((holdsBefore package).mp holder))
      · exact none m ((holds m package here).mpr holder)
  · cases writes with
    | waits order _ _ => exact order ▸ sound.order
    | performs order before _ _ =>
        have new : n ∉ run.order := by
          intro member
          obtain ⟨other, listed, written⟩ := (sound.written n).mp member
          cases known.symm.trans listed
          rw [before] at written
          cases written
        rw [order]
        exact List.nodup_append.mpr ⟨sound.order, List.nodup_singleton n,
          fun a member b single => fun same => new (List.mem_singleton.mp single ▸ same ▸ member)⟩
  · by_cases here : m = n
    · subst here
      have before : m ∈ run.order ↔ (run.stage m).written op = true := by
        rw [sound.written]
        simp [known]
      have after : (∃ op, ops[m]? = some op ∧ (run'.stage m).written op = true) ↔ stage'.written op = true := by
        simp [known, own]
      rw [after]
      cases writes with
      | waits order written _ => rw [order, before, written]
      | performs order _ written _ => simp [order, written]
    · rw [others m here, ← sound.written m]
      cases writes with
      | waits order _ _ => rw [order]
      | performs order _ _ _ => simp [order, here]

theorem Sound.step {start : MuteState} (sound : Sound ops start run) (apart : run.Apart ops n) :
    Sound ops start (run.step ops n) := by
  unfold MuteRun.step
  split
  next known stage =>
    exact sound.advance known apart rfl (stage ▸ .clear_load) (.waits rfl (by rw [stage]; rfl) rfl)
  next cleared known stage =>
    have written : (if (run.state.forget isUnlockMute cleared).2.isEmpty then MuteStage.done
        else .unmuting (run.state.forget isUnlockMute cleared).2 0).written .clearUnlock = true := by
      split_ifs <;> rfl
    exact sound.advance known apart rfl (stage ▸ .clear_forget rfl)
      (.performs rfl (by rw [stage]; rfl) written rfl)
  next cleared next known stage =>
    cases found : cleared[next]? with
    | some packageName =>
        exact sound.advance known apart rfl (stage ▸ .clear_unmute found) (.waits rfl (by rw [stage]; rfl) rfl)
    | none =>
        exact sound.advance known apart rfl (stage ▸ .clear_finish found) (.waits rfl (by rw [stage]; rfl) rfl)
  next packageName scope known stage =>
    exact sound.advance known apart rfl (stage ▸ .mute_apply packageName scope)
      (.performs rfl (by rw [stage]; rfl) rfl rfl)
  next packageName scope known stage =>
    exact sound.advance known apart rfl (stage ▸ .mute_store packageName scope)
      (.waits rfl (by rw [stage]; rfl) rfl)
  next packageName patch known stage =>
    exact sound.advance known apart rfl (stage ▸ .set_store rfl) (.waits rfl (by rw [stage]; rfl) rfl)
  next packageName patch scope known stage =>
    exact sound.advance known apart rfl (stage ▸ .set_apply packageName patch scope)
      (.performs rfl (by rw [stage]; rfl) rfl rfl)
  next => exact sound

theorem sound_start {start : MuteState} (agrees : ∀ package, (start.view package).Agrees) :
    Sound ops start { state := start } where
  exclusive package m n := by
    rintro ⟨op, -, held⟩
    cases op <;> exact held.elim
  map _ := rfl
  agrees := agrees
  held n op package _ held := by cases op <;> exact held.elim
  free _ _ := rfl
  order := List.nodup_nil
  written n := by
    refine ⟨fun member => absurd member List.not_mem_nil, ?_⟩
    rintro ⟨op, -, written⟩
    cases op <;> cases written

theorem agrees_startUp (config : ConfigDocument) (db : Database) (package : Str) :
    ((MuteState.startUp config db).view package).Agrees := by
  rw [MuteState.startUp, MuteState.view_clear]
  split_ifs with listed
  · simp [MuteView.Agrees, entry]
  · rw [MuteState.mem_forget, MuteState.listed_configured] at listed
    have unset : config.apps[package]? = none := by
      cases found : config.apps[package]? with
      | none => rfl
      | some app => exact absurd (.inl ⟨app, found, rfl⟩) listed
    have unmuted : (config.app package).mute = .none := by simp [ConfigDocument.app, unset]
    simp [MuteView.Agrees, MuteState.view, entry, unmuted]

def Finished (ops : List MuteOperation) (run : MuteRun) : Prop := ∀ n, n < ops.length → run.stage n = .done

theorem filterMap_range {α : Type} (items : List α) :
    (List.range items.length).filterMap (items[·]?) = items := by
  induction items using List.reverseRecOn with
  | nil => rfl
  | append_singleton items item ih =>
      have same : (List.range items.length).filterMap ((items ++ [item])[·]?) =
          (List.range items.length).filterMap (items[·]?) := by
        refine List.filterMap_congr fun n member => ?_
        exact List.getElem?_append_left (List.mem_range.mp member)
      rw [List.length_append, List.length_singleton, List.range_succ, List.filterMap_append, same, ih]
      simp

theorem Sound.finished {start : MuteState} (sound : Sound ops start run) (finished : run.Finished ops) :
    (run.performed ops).Perm ops ∧
      SameMutes run.state ((run.performed ops).foldl MuteOperation.perform start) := by
  refine ⟨?_, fun package => sound.free package ?_⟩
  · have listed : ∀ n, n ∈ run.order ↔ n ∈ List.range ops.length := by
      intro n
      rw [sound.written, List.mem_range]
      constructor
      · rintro ⟨op, known, -⟩
        exact (List.getElem?_eq_some_iff.mp known).1
      · intro within
        refine ⟨ops[n], List.getElem?_eq_getElem within, ?_⟩
        rw [finished n within]
        cases ops[n] <;> rfl
    have order : run.order.Perm (List.range ops.length) :=
      (List.perm_ext_iff_of_nodup sound.order List.nodup_range).mpr listed
    exact (order.filterMap (ops[·]?)).trans (.of_eq (filterMap_range ops))
  · rintro n ⟨op, known, held⟩
    rw [finished n (List.getElem?_eq_some_iff.mp known).1] at held
    cases op <;> exact held.elim

end MuteRun

/-- What a package's homes say while its mute until the next restart is in force. -/
def MuteView.InForce (v : MuteView) : Prop :=
  v.map = some .untilRestart ∧ v.config = .untilRestart ∧ ∀ muted ∈ v.rows, muted = some I64.maxValue

namespace MuteOperation
variable {s : MuteState} {op : MuteOperation} {package : Str}

def Names (package : Str) : MuteOperation → Prop
  | clearUnlock => False
  | muteApp packageName _ => packageName = package
  | setAppConfig packageName _ => packageName = package

theorem view_perform_of_not_names (other : ¬ op.Names package) (unlock : op ≠ .clearUnlock) :
    (op.perform s).view package = s.view package := by
  cases op with
  | clearUnlock => exact absurd rfl unlock
  | muteApp packageName scope =>
      have apart : packageName ≠ package := other
      rw [perform, MuteState.view_storeScope, if_neg apart, MuteState.view_apply, if_neg apart]
  | setAppConfig packageName patch =>
      have apart : packageName ≠ package := other
      rw [perform, MuteState.view_apply, if_neg apart, MuteState.view_storePatch, if_neg apart]

theorem inForce_muteApp (s : MuteState) (package : Str) :
    (((muteApp package .untilRestart).perform s).view package).InForce := by
  rw [perform, MuteState.view_storeScope, if_pos rfl, MuteState.view_apply, if_pos rfl]
  refine ⟨rfl, rfl, fun muted member => ?_⟩
  obtain ⟨-, -, same⟩ := List.mem_map.mp member
  exact same.symm

theorem perform_inForce (held : (s.view package).InForce)
    (only : op.Names package → op = .muteApp package .untilRestart) :
      ((op.perform s).view package).InForce := by
  by_cases names : op.Names package
  · rw [only names]
    exact inForce_muteApp s package
  · by_cases unlock : op = .clearUnlock
    · obtain ⟨map, config, rows⟩ := held
      have kept : package ∉ (s.forget isUnlockMute (s.configured isUnlockMute)).2 := by
        rw [MuteState.mem_cleared, map, config]
        decide
      rw [unlock, perform, MuteState.view_clear, if_neg kept]
      refine ⟨?_, config, rows⟩
      show (s.view package).map.filter (fun scope => !isUnlockMute scope) = _
      rw [map]
      rfl
    · rw [view_perform_of_not_names names unlock]
      exact held

theorem foldl_inForce {order : List MuteOperation} (muted : .muteApp package .untilRestart ∈ order)
    (only : ∀ op ∈ order, op.Names package → op = .muteApp package .untilRestart) :
    ((order.foldl perform s).view package).InForce := by
  induction order using List.reverseRecOn with
  | nil => cases muted
  | append_singleton order op ih =>
      rw [List.foldl_append, List.foldl_cons, List.foldl_nil]
      have last := only op (List.mem_append_right order List.mem_cons_self)
      rcases List.mem_append.mp muted with earlier | here
      · exact perform_inForce (ih earlier fun op member => only op (List.mem_append_left _ member)) last
      · rw [← List.mem_singleton.mp here]
        exact inForce_muteApp _ package

end MuteOperation

/-- When no operation begins with a package that another one is at work on, the operations together do to the mutes
what they do one after the other. -/
theorem apart_operations_sequential (ops : List MuteOperation) (config : ConfigDocument) (db : Database)
    (schedule : List Nat)
    (apart : Throughout (MuteRun.step ops) (MuteRun.Apart ops) { state := .startUp config db } schedule)
    (finished : (schedule.foldl (MuteRun.step ops) { state := .startUp config db }).Finished ops) :
    (∃ order : List MuteOperation, order.Perm ops ∧
      SameMutes (schedule.foldl (MuteRun.step ops) { state := .startUp config db }).state
        (order.foldl MuteOperation.perform (.startUp config db))) ∧
    ∀ package : Str, .muteApp package .untilRestart ∈ ops →
      (∀ op ∈ ops, op.Names package → op = .muteApp package .untilRestart) →
        ((schedule.foldl (MuteRun.step ops) { state := .startUp config db }).state.view package).InForce := by
  have start : MuteRun.Sound ops (.startUp config db) { state := .startUp config db } :=
    MuteRun.sound_start (MuteRun.agrees_startUp config db)
  have sound := apart.foldl (MuteRun.Sound ops (.startUp config db))
    (fun _ _ sound apart => sound.step apart) start
  obtain ⟨order, same⟩ := sound.finished finished
  refine ⟨⟨_, order, same⟩, fun package muted only => ?_⟩
  rw [same package]
  exact MuteOperation.foldl_inForce (order.mem_iff.mpr muted) fun op member => only op (order.mem_iff.mp member)

namespace MuteRun

def held : MuteOperation → MuteStage → List Str
  | .clearUnlock, .loaded cleared => cleared
  | .clearUnlock, .unmuting cleared _ => cleared
  | .muteApp packageName _, .applied => [packageName]
  | .setAppConfig packageName _, .stored _ => [packageName]
  | _, _ => []

def taken (s : MuteState) : MuteOperation → MuteStage → List Str
  | .clearUnlock, .waiting => s.configured isUnlockMute
  | .clearUnlock, .loaded _ => (s.forget isUnlockMute []).2
  | .muteApp packageName _, .waiting => [packageName]
  | .setAppConfig packageName _, .waiting => [packageName]
  | _, _ => []

theorem mem_held {op : MuteOperation} {stage : MuteStage} {package : Str} :
    package ∈ held op stage ↔ stage.Holds op package := by
  unfold held MuteStage.Holds
  split <;> simp [eq_comm]

theorem mem_taken {s : MuteState} {op : MuteOperation} {stage : MuteStage} {package : Str} :
    package ∈ taken s op stage ↔ stage.Takes op s package := by
  unfold taken MuteStage.Takes
  split
  · exact s.mem_configured_unlock package
  · simp [s.mem_forget_unlock]
  all_goals simp [eq_comm]

theorem apart_iff {ops : List MuteOperation} {run : MuteRun} {n : Nat} : run.Apart ops n ↔
    ∀ op ∈ ops[n]?, ∀ package ∈ taken run.state op (run.stage n), ∀ m ∈ List.range ops.length, m ≠ n →
      ∀ other ∈ ops[m]?, package ∉ held other (run.stage m) := by
  constructor
  · intro apart op known package takes m _ differs other known' holds
    exact apart op package known (mem_taken.mp takes) m differs ⟨other, known', mem_held.mp holds⟩
  · rintro apart op package known takes m differs ⟨other, known', holds⟩
    have within := List.mem_range.mpr (List.getElem?_eq_some_iff.mp known').1
    exact apart op known package (mem_taken.mpr takes) m within differs other known' (mem_held.mpr holds)

instance (ops : List MuteOperation) (run : MuteRun) (n : Nat) : Decidable (run.Apart ops n) :=
  decidable_of_iff _ apart_iff.symm

instance (ops : List MuteOperation) (run : MuteRun) : Decidable (run.Finished ops) :=
  inferInstanceAs (Decidable (∀ n, n < ops.length → run.stage n = .done))

/-- One app is muted until the device is unlocked, and another one while this mute is cleared. -/
def mutedMeanwhile : List MuteOperation :=
  [.muteApp "game".toList .untilUnlock, .clearUnlock, .muteApp "app".toList .untilRestart]

def schedule : List Nat := [0, 0, 1, 2, 1, 2, 1, 1]

def crashedApps : Database :=
  (quietStep plainPlatform (quietStep plainPlatform .empty (.insert oneByteCrash {} [] 0))
    (.insert { oneByteCrash with packageName := "game".toList, processName := "game".toList } {} [] 0)).db

end MuteRun

open MuteRun in
theorem apart_operations_sequential_meanwhile :
    (∃ order : List MuteOperation, order.Perm mutedMeanwhile ∧
      SameMutes (schedule.foldl (step mutedMeanwhile) { state := .startUp {} crashedApps }).state
        (order.foldl MuteOperation.perform (.startUp {} crashedApps))) ∧
    (schedule.foldl (step mutedMeanwhile) { state := .startUp {} crashedApps }).state.view "app".toList =
      ⟨some .untilRestart, .untilRestart, [mutedUntil .untilRestart]⟩ ∧
    (schedule.foldl (step mutedMeanwhile) { state := .startUp {} crashedApps }).state.view "game".toList =
      ⟨none, .none, [none]⟩ := by
  have apart : Throughout (step mutedMeanwhile) (Apart mutedMeanwhile) { state := .startUp {} crashedApps }
      schedule := by decide +kernel
  refine ⟨(apart_operations_sequential _ _ _ _ apart (by decide +kernel)).1, ?_, ?_⟩ <;> decide +kernel

theorem MuteOperation.perform_agrees {s : MuteState} (agrees : ∀ package, (s.view package).Agrees)
    (op : MuteOperation) (package : Str) : ((op.perform s).view package).Agrees := by
  by_cases names : op.Names package
  · cases op with
    | clearUnlock => exact names.elim
    | muteApp packageName scope =>
        obtain rfl : packageName = package := names
        rw [perform, MuteState.view_storeScope, if_pos rfl, MuteState.view_apply, if_pos rfl]
        rfl
    | setAppConfig packageName patch =>
        obtain rfl : packageName = package := names
        rw [perform, MuteState.view_apply, if_pos rfl]
        rfl
  · by_cases unlock : op = .clearUnlock
    · have before := agrees package
      rw [unlock, perform, MuteState.view_clear]
      split_ifs with listed
      · rw [MuteState.mem_cleared, ← Advances.agrees_unlock before, or_self] at listed
        simp [MuteView.Agrees, listed, entry, isUnlockMute]
      · rw [MuteState.mem_cleared, not_or] at listed
        rw [Advances.filter_unlock listed.2]
        exact before
    · rw [view_perform_of_not_names names unlock]
      exact agrees package

/-- A mute that is set once the clearing has read the configuration is lost there and in the groups. -/
theorem clearing_loses_concurrent_mute :
    ¬ ∀ (ops : List MuteOperation) (config : ConfigDocument) (db : Database) (schedule : List Nat),
      (schedule.foldl (MuteRun.step ops) { state := .startUp config db }).Finished ops →
        ∃ order : List MuteOperation, order.Perm ops ∧
          SameMutes (schedule.foldl (MuteRun.step ops) { state := .startUp config db }).state
            (order.foldl MuteOperation.perform (.startUp config db)) := by
  intro sequential
  let ops : List MuteOperation :=
    [.muteApp "app".toList .untilUnlock, .clearUnlock, .muteApp "app".toList .untilRestart]
  have finished : ([0, 0, 1, 2, 2, 1, 1, 1].foldl (MuteRun.step ops) { state := .startUp {} .empty }).Finished
      ops := by
    unfold MuteRun.Finished
    decide +kernel
  have lost : ([0, 0, 1, 2, 2, 1, 1, 1].foldl (MuteRun.step ops) { state := .startUp {} .empty }).state.view
    "app".toList =
      ⟨some .untilRestart, .none, []⟩ := by decide +kernel
  obtain ⟨order, -, same⟩ := sequential ops {} .empty _ finished
  have agrees : ∀ (order : List MuteOperation) package,
      ((order.foldl MuteOperation.perform (.startUp {} .empty)).view package).Agrees := by
    intro order
    induction order using List.reverseRecOn with
    | nil => exact MuteRun.agrees_startUp {} .empty
    | append_singleton order op ih =>
        rw [List.foldl_append]
        exact op.perform_agrees ih
  have agree := agrees order "app".toList
  rw [← same, lost] at agree
  cases agree

end CrashCatcher.Daemon
