import CrashCatcher.Daemon.CorruptConfig
import CrashCatcher.Daemon.Ingest

namespace CrashCatcher.Store
open Lib Model

namespace Database

theorem mem_mutePackage {db : Database} {packageName : Str} {mutedUntilMs : Option I64} {group : GroupSummary}
    (stored : group ∈ (db.mutePackage packageName mutedUntilMs).groups.rows) :
    ∃ old ∈ db.groups.rows, group.packageName = old.packageName ∧
      group.mutedUntilMs = if old.packageName = packageName then mutedUntilMs else old.mutedUntilMs := by
  have rewritten : group ∈ (db.groups.modify (fun row => row.packageName = packageName)
    (GroupSummary.mute mutedUntilMs) (GroupSummary.groupId_mute mutedUntilMs)).rows := stored
  obtain ⟨old, member, rfl⟩ := Table.mem_modify.mp rewritten
  refine ⟨old, member, ?_⟩
  by_cases hit : old.packageName = packageName
  · rw [if_pos (decide_eq_true hit), if_pos hit]
    exact ⟨rfl, rfl⟩
  · rw [if_neg (by simpa using hit), if_neg hit]
    exact ⟨rfl, rfl⟩

def unmutePackages (db : Database) (packages : List Str) : Database :=
  packages.foldl (fun db package => db.mutePackage package none) db

theorem mem_unmutePackages {db : Database} {packages : List Str} {group : GroupSummary}
    (stored : group ∈ (db.unmutePackages packages).groups.rows) :
    ∃ old ∈ db.groups.rows, group.packageName = old.packageName ∧
      group.mutedUntilMs = if old.packageName ∈ packages then none else old.mutedUntilMs := by
  induction packages generalizing db with
  | nil => exact ⟨group, stored, rfl, (if_neg List.not_mem_nil).symm⟩
  | cons package rest ih =>
      obtain ⟨middle, stored, named, muted⟩ := ih stored
      obtain ⟨old, stored, named', muted'⟩ := mem_mutePackage stored
      refine ⟨old, stored, named.trans named', muted.trans ?_⟩
      rw [named', muted']
      by_cases here : old.packageName = package <;> by_cases later : old.packageName ∈ rest <;>
        simp [here, later]

end Database
end CrashCatcher.Store

namespace CrashCatcher.Daemon
open Lib Model Config Store Fallible

def entry (scope : MuteScope) : Option MuteScope := if scope = .none then none else some scope

theorem entry_injective : Function.Injective entry := by
  intro a b same
  cases a <;> cases b <;> simp_all [entry]

/-- The configuration, the map and the group rows say the same about every package. -/
structure MutesAgree (config : ConfigDocument) (mutes : Mutes) (db : Database) : Prop where
  map : ∀ package scope, (config.app package).mute = scope ↔ mutes[package]? = entry scope
  groups : ∀ group ∈ db.groups.rows,
    group.mutedUntilMs.isSome ↔ (config.app group.packageName).mute ≠ .none

namespace MutesAgree
variable {config config' : ConfigDocument} {mutes : Mutes} {db : Database}

theorem lookup (agree : MutesAgree config mutes db) (package : Str) :
    mutes[package]? = entry (config.app package).mute := (agree.map package _).mp rfl

theorem of_lookup (lookup : ∀ package, mutes[package]? = entry (config.app package).mute)
    (groups : ∀ group ∈ db.groups.rows,
      group.mutedUntilMs.isSome ↔ (config.app group.packageName).mute ≠ .none) :
    MutesAgree config mutes db where
  map package scope := by
    rw [lookup]
    exact entry_injective.eq_iff.symm
  groups := groups

end MutesAgree

def putScope (mutes : Mutes) (package : Str) (scope : MuteScope) : Mutes :=
  if scope = .none then mutes.erase package else mutes.insert package scope

theorem getElem?_putScope (mutes : Mutes) (package other : Str) (scope : MuteScope) :
    (putScope mutes package scope)[other]? = if package = other then entry scope else mutes[other]? := by
  unfold putScope entry
  by_cases nothing : scope = .none
  · rw [if_pos nothing, if_pos nothing, Std.ExtTreeMap.getElem?_erase]
    simp only [Std.compare_eq_iff_eq]
  · rw [if_neg nothing, if_neg nothing, Std.ExtTreeMap.getElem?_insert]
    simp only [Std.compare_eq_iff_eq]

theorem isSome_mutedUntil (scope : MuteScope) : (mutedUntil scope).isSome ↔ scope ≠ .none := by
  unfold mutedUntil
  by_cases nothing : scope = .none <;> simp [nothing]

theorem MutesAgree.put {config config' : ConfigDocument} {mutes : Mutes} {db : Database} {package : Str}
    {scope : MuteScope} (agree : MutesAgree config mutes db)
    (stored : ∀ other, (config'.app other).mute = if package = other then scope else (config.app other).mute) :
    MutesAgree config' (putScope mutes package scope) (db.mutePackage package (mutedUntil scope)) := by
  refine .of_lookup (fun other => ?_) fun group member => ?_
  · rw [getElem?_putScope, stored]
    by_cases same : package = other
    · rw [if_pos same, if_pos same]
    · rw [if_neg same, if_neg same, agree.lookup]
  · obtain ⟨old, member, named, muted⟩ := Database.mem_mutePackage member
    rw [named, muted, stored]
    by_cases same : old.packageName = package
    · rw [if_pos same, if_pos same.symm]
      exact isSome_mutedUntil scope
    · rw [if_neg same, if_neg fun back => same back.symm]
      exact agree.groups old member

section Forget
variable (forgets : MuteScope → Bool)

def Goes (entries : List (Str × MuteScope)) (package : Str) : Prop :=
  ∃ scope, (package, scope) ∈ entries ∧ forgets scope

theorem goes_cons {name package : Str} {scope : MuteScope} {rest : List (Str × MuteScope)} :
    Goes forgets ((name, scope) :: rest) package ↔ name = package ∧ forgets scope ∨
      Goes forgets rest package := by
  constructor
  · rintro ⟨found, member, matched⟩
    rw [List.mem_cons, Prod.mk.injEq] at member
    rcases member with ⟨rfl, rfl⟩ | later
    · exact .inl ⟨rfl, matched⟩
    · exact .inr ⟨found, later, matched⟩
  · rintro (⟨rfl, matched⟩ | ⟨found, later, matched⟩)
    · exact ⟨scope, List.mem_cons_self, matched⟩
    · exact ⟨found, List.mem_cons_of_mem _ later, matched⟩

theorem forgetRow_foldl (entries : List (Str × MuteScope)) (state : Mutes × List Str) (package : Str) :
    (Goes forgets entries package → (entries.foldl (DaemonCore.forgetRow forgets) state).1[package]? = none) ∧
    (¬ Goes forgets entries package →
      (entries.foldl (DaemonCore.forgetRow forgets) state).1[package]? = state.1[package]?) ∧
    (package ∈ (entries.foldl (DaemonCore.forgetRow forgets) state).2 ↔
      package ∈ state.2 ∨ Goes forgets entries package) := by
  induction entries generalizing state with
  | nil =>
      have none : ¬ Goes forgets [] package := fun ⟨_, member, _⟩ => by cases member
      exact ⟨fun goes => absurd goes none, fun _ => rfl, by simp [none]⟩
  | cons row rest ih =>
      obtain ⟨name, scope⟩ := row
      obtain ⟨gone, kept, listed⟩ := ih (DaemonCore.forgetRow forgets state (name, scope))
      rw [List.foldl_cons, goes_cons]
      by_cases matched : forgets scope
      · have erased : (DaemonCore.forgetRow forgets state (name, scope)).1 = state.1.erase name := by
          simp [DaemonCore.forgetRow, matched]
        have grown : package ∈ (DaemonCore.forgetRow forgets state (name, scope)).2 ↔
            package ∈ state.2 ∨ name = package := by
          by_cases known : name ∈ state.2
          · simp only [DaemonCore.forgetRow, matched, List.contains_eq_mem, known, decide_true, ↓reduceIte]
            exact ⟨Or.inl, fun here => here.elim id fun same => same ▸ known⟩
          · simp [DaemonCore.forgetRow, matched, known, eq_comm]
        simp only [erased, Std.ExtTreeMap.getElem?_erase, Std.compare_eq_iff_eq] at kept
        refine ⟨fun goes => ?_, fun stays => ?_, ?_⟩
        · by_cases later : Goes forgets rest package
          · exact gone later
          · rw [kept later, if_pos (goes.resolve_right later).1]
        · rw [kept fun later => stays (.inr later), if_neg fun same => stays (.inl ⟨same, matched⟩)]
        · rw [listed, grown, or_assoc]
          simp [matched]
      · have same : DaemonCore.forgetRow forgets state (name, scope) = state := by
          simp [DaemonCore.forgetRow, matched]
        rw [same] at gone kept listed ⊢
        simp only [matched, Bool.false_eq_true, and_false, false_or]
        exact ⟨gone, kept, listed⟩

theorem goes_toList (mutes : Mutes) (package : Str) :
    Goes forgets mutes.toList package ↔ ∃ scope, mutes[package]? = some scope ∧ forgets scope := by
  simp only [Goes, Std.ExtTreeMap.mem_toList_iff_getElem?_eq_some]

theorem mem_configured (config : ConfigDocument) (package : Str) :
    package ∈ (config.apps.toList.filter fun app => forgets app.2.mute).map Prod.fst ↔
      ∃ app, config.apps[package]? = some app ∧ forgets app.mute := by
  simp [Std.ExtTreeMap.mem_toList_iff_getElem?_eq_some]

end Forget

theorem app_clearMute (document : ConfigDocument) (cleared : List Str) (package : Str) :
    ((cleared.foldl DaemonCore.clearMute document).app package).mute =
      if package ∈ cleared then .none else (document.app package).mute := by
  induction cleared generalizing document with
  | nil => exact (if_neg List.not_mem_nil).symm
  | cons name rest ih =>
      rw [List.foldl_cons, ih, DaemonCore.clearMute, ConfigDocument.app_putApp]
      by_cases later : package ∈ rest <;> by_cases here : name = package <;> simp [later, here, eq_comm]
      exact fun same => absurd same.symm here

theorem StartsFrom.mute {disk : Disk} {config start : ConfigDocument}
    (starts : ConfigStore.StartsFrom disk config start) (package : Str)
    (reads : disk.faults 0 = none ∨ (config.app package).mute = .none) :
    (start.app package).mute = (config.app package).mute := by
  rcases starts with rfl | ⟨failed, rfl⟩
  · rfl
  · rw [reads.resolve_left failed]
    rfl

section
variable {state : CoreState}

theorem applyMute_leaves (packageName : Str) (scope : MuteScope) :
    Leaves state (DaemonCore.applyMute packageName scope)
      (fun _ after => ∃ world,
        after = (state.setMutes (putScope state.volatileMutes packageName scope)).setWorld world ∧
        world.store.db = state.world.store.db.mutePackage packageName (mutedUntil scope)) fun _ => True := by
  refine .update_bind (.onStore_bind (setPackageMute_exact packageName (mutedUntil scope))
    (fun _ _ => trivial) ?_)
  rintro _ world stored
  exact .pure ⟨world, rfl, congrArg StoreState.db stored⟩

theorem validateSettingsKey_leaves (packageName : Str) :
    Leaves state (validateSettingsKey packageName) (fun _ after => after = state) fun _ => True :=
  .ite (fun _ => .pure rfl) fun _ => Holds.fail fun _ _ => trivial

theorem unmute_leaves (packages : List Str) :
    Leaves state (packages.forM fun package => do let _ ← onStore (setPackageMute package none))
      (fun _ after => ∃ world, after = state.setWorld world ∧
        world.store.db = state.world.store.db.unmutePackages packages) fun _ => True := by
  induction packages generalizing state with
  | nil => exact .pure ⟨state.world, rfl, rfl⟩
  | cons package rest ih =>
      have first : Leaves state (do let _ ← onStore (setPackageMute package none))
          (fun _ after => ∃ world, after = state.setWorld world ∧
            world.store.db = state.world.store.db.mutePackage package none) fun _ => True := by
        refine .onStore_bind (setPackageMute_exact package none) (fun _ _ => trivial) ?_
        rintro _ world stored
        exact .pure ⟨world, rfl, congrArg StoreState.db stored⟩
      refine .bind first ?_
      · rintro _ _ ⟨world, rfl, muted⟩
        refine ih.consequence ?_ fun _ _ => trivial
        rintro _ _ ⟨after, rfl, unmuted⟩
        refine ⟨after, rfl, unmuted.trans ?_⟩
        show world.store.db.unmutePackages rest = _
        rw [muted]
        rfl

namespace DaemonCore
variable {self : DaemonCore}

theorem updateConfig_leaves (readsBack : self.configStore.ReadsBack)
    (mutate : ConfigDocument → ConfigDocument) {config : ConfigDocument}
    (parsed : self.configStore.parse state.disk.files = .ok config) :
    Leaves state (self.updateConfig mutate)
      (fun document after => ∃ start disk, ConfigStore.StartsFrom state.disk config start ∧
        document = (mutate start).normalized ∧ after = state.setDisk disk ∧
        self.configStore.parse disk.files = .ok document)
      fun _ => True := by
  intro before same
  obtain rfl : before = state := same
  unfold updateConfig onDisk zoom
  rcases ran : self.configStore.update mutate before.disk with ⟨result, disk⟩
  cases result with
  | error _ => trivial
  | ok document =>
      obtain ⟨start, starts, answered, stored⟩ := ConfigStore.update_ok readsBack parsed ran
      exact ⟨start, disk, starts, answered, rfl, stored⟩

structure Unmuted (core : DaemonCore) (forgets : MuteScope → Bool) (config : ConfigDocument)
    (cleared : List Str) (state after : CoreState) : Prop where
  listed : ∀ package : Str, package ∈ cleared ↔
    (∃ app, config.apps[package]? = some app ∧ forgets app.mute) ∨
      ∃ scope, state.volatileMutes[package]? = some scope ∧ forgets scope
  stored : ∃ config', core.configStore.parse after.disk.files = .ok config' ∧
    ∀ package, (config'.app package).mute = if package ∈ cleared then .none else (config.app package).mute
  map : ∀ package : Str, after.volatileMutes[package]? =
    state.volatileMutes[package]?.filter fun scope => !forgets scope
  rows : after.world.store.db = state.world.store.db.unmutePackages cleared

theorem forgetMutes_spec (forgets : MuteScope → Bool) (mutes : Mutes) (configured : List Str) (package : Str) :
    (forgetMutes forgets mutes configured).1[package]? =
        mutes[package]?.filter (fun scope => !forgets scope) ∧
      (package ∈ (forgetMutes forgets mutes configured).2 ↔
        package ∈ configured ∨ ∃ scope, mutes[package]? = some scope ∧ forgets scope) := by
  obtain ⟨gone, kept, listed⟩ := forgetRow_foldl forgets mutes.toList (mutes, configured) package
  rw [goes_toList] at gone kept listed
  refine ⟨?_, listed⟩
  cases held : mutes[package]? with
  | none =>
      refine (kept ?_).trans held
      rintro ⟨scope, found, -⟩
      cases held.symm.trans found
  | some scope =>
      by_cases matched : forgets scope
      · rw [Option.filter_some, if_neg (by simp [matched])]
        exact gone ⟨scope, held, matched⟩
      · rw [Option.filter_some, if_pos (by simp [matched])]
        refine (kept ?_).trans held
        rintro ⟨other, found, matched'⟩
        cases held.symm.trans found
        exact matched matched'

theorem unmuteListed_leaves (readsBack : self.configStore.ReadsBack) {config : ConfigDocument}
    (parsed : self.configStore.parse state.disk.files = .ok config) (cleared : List Str)
    (reads : state.disk.faults 0 = none ∨ ∀ package, package ∉ cleared → (config.app package).mute = .none) :
    Leaves state (self.unmuteListed cleared)
      (fun _ after => (∃ config', self.configStore.parse after.disk.files = .ok config' ∧
          ∀ package, (config'.app package).mute =
            if package ∈ cleared then .none else (config.app package).mute) ∧
        after.volatileMutes = state.volatileMutes ∧
        after.world.store.db = state.world.store.db.unmutePackages cleared) fun _ => True := by
  refine .ite (fun empty => ?_) fun _ => .bind (unmute_leaves cleared) ?_
  · rw [List.isEmpty_iff] at empty
    subst empty
    exact .pure ⟨⟨config, parsed, fun _ => (if_neg List.not_mem_nil).symm⟩, rfl, rfl⟩
  · rintro _ _ ⟨world, rfl, unmuted⟩
    refine .bind (updateConfig_leaves readsBack _ parsed) ?_
    rintro _ _ ⟨start, disk, starts, rfl, rfl, stored⟩
    refine .update_bind (.pure ⟨⟨_, stored, fun package => ?_⟩, rfl, unmuted⟩)
    rw [ConfigDocument.app_normalized, app_clearMute]
    by_cases listed : package ∈ cleared
    · rw [if_pos listed, if_pos listed]
    · rw [if_neg listed, if_neg listed, StartsFrom.mute starts package
        (reads.imp_right fun covers => covers package listed)]

theorem stored_of_muted {config : ConfigDocument} {package : Str} (muted : (config.app package).mute ≠ .none) :
    config.apps[package]? = some (config.app package) := by
  cases stored : config.apps[package]? with
  | none =>
      have default : config.app package = {} := by
        unfold ConfigDocument.app
        rw [stored]
        rfl
      exact absurd (congrArg AppConfig.mute default) muted
  | some app =>
      unfold ConfigDocument.app
      rw [stored]
      rfl

theorem clearMutes_leaves (readsBack : self.configStore.ReadsBack) (forgets : MuteScope → Bool)
    (reads : state.disk.faults 1 = none ∨ ∀ config, self.configStore.parse state.disk.files = .ok config →
      ∀ package, (config.app package).mute = .none ∨ forgets (config.app package).mute) :
    Leaves state (self.clearMutes forgets)
      (fun _ after => ∃ config cleared, self.configStore.parse state.disk.files = .ok config ∧
        Unmuted self forgets config cleared state after) fun _ => True := by
  refine self.loadConfig_bind trivial fun config parsed => .get_bind (.update_bind ?_)
  have spec := forgetMutes_spec forgets state.volatileMutes
    ((config.apps.toList.filter fun app => forgets app.2.mute).map Prod.fst)
  have covers (all : ∀ config, self.configStore.parse state.disk.files = .ok config →
      ∀ package, (config.app package).mute = .none ∨ forgets (config.app package).mute) (package : Str)
      (unlisted : package ∉ (forgetMutes forgets state.volatileMutes
        ((config.apps.toList.filter fun app => forgets app.2.mute).map Prod.fst)).2) :
      (config.app package).mute = .none := by
    by_contra muted
    refine unlisted ((spec package).2.mpr (.inl ((mem_configured forgets config package).mpr ?_)))
    exact ⟨_, stored_of_muted muted, (all config parsed package).resolve_left muted⟩
  refine Leaves.consequence (unmuteListed_leaves readsBack (by exact parsed) _ (reads.imp_right covers)) ?_
    fun _ _ => trivial
  rintro _ after ⟨stored, mutes, rows⟩
  refine ⟨config, _, parsed, fun package => ?_, stored, fun package => ?_, rows⟩
  · exact (spec package).2.trans (or_congr_left (mem_configured forgets config package))
  · rw [mutes]
    exact (spec package).1

theorem Unmuted.agree {forgets : MuteScope → Bool} {config : ConfigDocument} {cleared : List Str}
    {state after : CoreState} (unmuted : Unmuted self forgets config cleared state after)
    (groups : ∀ group ∈ state.world.store.db.groups.rows,
      group.mutedUntilMs.isSome ↔ (config.app group.packageName).mute ≠ .none)
    (held : (∀ package, state.volatileMutes[package]? = entry (config.app package).mute) ∨
      state.volatileMutes = ∅ ∧ ∀ scope, forgets scope = true) :
    ∃ config', self.configStore.parse after.disk.files = .ok config' ∧
      MutesAgree config' after.volatileMutes after.world.store.db := by
  obtain ⟨config', parsed, stored⟩ := unmuted.stored
  refine ⟨config', parsed, .of_lookup (fun package => ?_) fun group member => ?_⟩
  · rw [unmuted.map, stored]
    have listed := unmuted.listed package
    by_cases unset : (config.app package).mute = .none
    · have lookup : state.volatileMutes[package]? = none := by
        rcases held with lookup | ⟨nothing, -⟩
        · rw [lookup, unset]
          rfl
        · rw [nothing]
          exact Std.ExtTreeMap.getElem?_empty
      rw [lookup, unset, ite_self]
      rfl
    · have own := stored_of_muted unset
      rcases held with lookup | ⟨nothing, all⟩
      · have same : state.volatileMutes[package]? = some (config.app package).mute := by
          rw [lookup, entry, if_neg unset]
        have matched : package ∈ cleared ↔ forgets (config.app package).mute := by
          rw [listed, own, same]
          simp
        rw [same, Option.filter_some]
        by_cases matches' : forgets (config.app package).mute
        · rw [if_pos (matched.mpr matches'), if_neg (by simp [matches'])]
          rfl
        · rw [if_neg (mt matched.mp matches'), if_pos (by simp [matches']), entry, if_neg unset]
      · rw [if_pos (listed.mpr (.inl ⟨_, own, all _⟩)), nothing, Std.ExtTreeMap.getElem?_empty]
        rfl
  · rw [unmuted.rows] at member
    obtain ⟨old, member, named, muted⟩ := Database.mem_unmutePackages member
    rw [named, muted, stored]
    by_cases listed : old.packageName ∈ cleared
    · rw [if_pos listed, if_pos listed]
      simp
    · rw [if_neg listed, if_neg listed]
      exact groups old member

/-- An update about one package reads the file, or no other package is muted. -/
def OthersKnown (state : CoreState) (packageName : Str) : Prop :=
  state.disk.faults 0 = none ∨ ∀ other, other ≠ packageName → isMuted state other = false

theorem OthersKnown.mute {config start : ConfigDocument} {packageName other : Str}
    (known : OthersKnown state packageName) (starts : ConfigStore.StartsFrom state.disk config start)
    (agree : MutesAgree config state.volatileMutes state.world.store.db) (different : packageName ≠ other) :
    (start.app other).mute = (config.app other).mute := by
  refine StartsFrom.mute starts other (known.imp_right fun unmuted => ?_)
  refine (agree.map other .none).mpr ?_
  exact Std.ExtTreeMap.getElem?_eq_none_of_contains_eq_false (unmuted other different.symm)

theorem muteApp_leaves (readsBack : self.configStore.ReadsBack) {config : ConfigDocument}
    (parsed : self.configStore.parse state.disk.files = .ok config)
    (agree : MutesAgree config state.volatileMutes state.world.store.db) {packageName : Str}
    (known : OthersKnown state packageName) (scope : MuteScope) :
    Leaves state (self.muteApp packageName scope)
      (fun _ after => ∃ config', self.configStore.parse after.disk.files = .ok config' ∧
        MutesAgree config' after.volatileMutes after.world.store.db) fun _ => True := by
  refine .bind (validateSettingsKey_leaves packageName) ?_
  rintro _ _ rfl
  refine .bind (applyMute_leaves packageName scope) ?_
  rintro _ _ ⟨world, rfl, muted⟩
  refine .bind (updateConfig_leaves readsBack _ (by exact parsed)) ?_
  rintro _ _ ⟨start, disk, starts, rfl, rfl, stored⟩
  have scopes : ∀ other, (((start.putApp packageName
      { start.app packageName with mute := scope }).normalized).app other).mute =
        if packageName = other then scope else (config.app other).mute := by
    intro other
    rw [ConfigDocument.app_normalized, ConfigDocument.app_putApp]
    by_cases same : packageName = other
    · rw [if_pos same, if_pos same]
    · rw [if_neg same, if_neg same, known.mute starts agree same]
  refine .update_bind (.pure ⟨_, stored, ?_⟩)
  show MutesAgree _ _ world.store.db
  rw [muted]
  exact agree.put scopes

theorem setAppConfig_leaves (readsBack : self.configStore.ReadsBack) {config : ConfigDocument}
    (parsed : self.configStore.parse state.disk.files = .ok config)
    (agree : MutesAgree config state.volatileMutes state.world.store.db) {packageName : Str}
    (known : OthersKnown state packageName) (patch : AppConfigPatch) :
    Leaves state (self.setAppConfig packageName patch)
      (fun _ after => ∃ config', self.configStore.parse after.disk.files = .ok config' ∧
        MutesAgree config' after.volatileMutes after.world.store.db) fun _ => True := by
  refine .bind (validateSettingsKey_leaves packageName) ?_
  rintro _ _ rfl
  refine .bind (updateConfig_leaves readsBack _ parsed) ?_
  rintro _ _ ⟨start, disk, starts, rfl, rfl, stored⟩
  refine .bind (applyMute_leaves packageName _) ?_
  rintro _ _ ⟨world, rfl, muted⟩
  have scopes : ∀ other, ((start.putApp packageName
      (patch.apply (start.app packageName))).normalized.app other).mute =
        if packageName = other then ((start.putApp packageName
          (patch.apply (start.app packageName))).normalized.app packageName).mute
        else (config.app other).mute := by
    intro other
    rw [ConfigDocument.app_normalized, ConfigDocument.app_normalized, ConfigDocument.app_putApp,
      ConfigDocument.app_putApp, if_pos rfl]
    by_cases same : packageName = other
    · rw [if_pos same, if_pos same]
    · rw [if_neg same, if_neg same, known.mute starts agree same]
  refine .update_bind (.pure ⟨_, stored, ?_⟩)
  show MutesAgree _ _ world.store.db
  rw [muted]
  exact agree.put scopes

end DaemonCore
end

theorem IngestOutcome.agree {self : DaemonCore} {config : ConfigDocument} {s t : StoreState}
    {record : CrashRecord}
    {sourceKeys : List Str} {clock : Nat → I64} {result : Option Inserted} {mutes : Mutes}
    (outcome : IngestOutcome self config s record sourceKeys clock result t)
      (agree : MutesAgree config mutes s.db)
    (unmuted : admits config record → (record.pid ≠ 0 →
        s.db.companion record (companionWindowMs record.kind).val = none) →
      record.groupId self.platform.sha256 ∉ s.db.groupIds → (config.app record.packageName).mute = .none) :
    MutesAgree config mutes t.db := by
  let said (group : GroupSummary) : Prop :=
    group.mutedUntilMs.isSome ↔ (config.app group.packageName).mute ≠ .none
  have ignores : IgnoresBytes said := fun _ _ holds => holds
  have before : Every said s.db := agree.groups
  suffices after : Every said t.db from ⟨agree.map, after⟩
  cases outcome with
  | excluded _ => exact before.congr (marks_markAll s.db clock sourceKeys).groups
  | folded _ _ _ _ _ _ _ rows =>
      rw [rows]
      exact (before.foldInto ignores _ _ _).congr (marks_ingest _ _ _).groups
  | inserted admitted unseen recorded =>
      cases recorded with
      | @intro written db u payload ids added rows swept =>
          obtain ⟨faults, rfl⟩ := swept
          have grown : Every said db := by
            refine before.insertCrash added (fun fresh => ?_) fun old _ _ holds => holds
            have unset := unmuted admitted unseen fresh
            show Option.isSome none ↔ (config.app record.packageName).mute ≠ .none
            simp [unset]
          have stored : Every said u.db := rows ▸ grown.congr (marks_ingest _ _ _).groups
          have swept := (upkeep_every ignores).sweep (s := u) (clock 1) config.global.retention
          exact trySweep_always (swept.consequence (fun _ _ kept => kept.2 stored) fun _ kept => kept.2 stored)
            faults

/-- What happens to the daemon, one completed call after another. -/
inductive Step where
  | restart
  | learnPackages (packages : PackageIndex) (cachedPackage : Str → Int → Option BridgePackageInfo)
  | muteApp (packageName : Str) (scope : MuteScope)
  | setAppConfig (packageName : Str) (patch : AppConfigPatch)
  | clearUnlockMutes
  | ingest (record : CrashRecord) (sourceKeys : List Str) (clock : Nat → I64)

namespace Step
variable (core : DaemonCore)

/-- A restart loses the map and then forgets every mute. -/
def run : Step → CoreM Unit
  | .restart => do
      Fallible.update fun state => state.setMutes ∅
      core.clearVolatileMutes
  | .learnPackages packages cachedPackage =>
      Fallible.update fun state => { state with packages, cachedPackage }
  | .muteApp packageName scope => do
      let _ ← core.muteApp packageName scope
  | .setAppConfig packageName patch => do
      let _ ← core.setAppConfig packageName patch
  | .clearUnlockMutes => do
      let _ ← core.clearUnlockMutes
  | .ingest record sourceKeys clock => do
      let _ ← core.ingestWithSources record sourceKeys clock

/-- The step stores no first crash of a group for a package that is muted, and no update of the
configuration fails to read a mute that it leaves alone. -/
def KeepsMutes (state : CoreState) : Step → Prop
  | .restart | .learnPackages _ _ => True
  | .clearUnlockMutes => state.disk.faults 1 = none ∨
      ∀ (package : Str) scope, state.volatileMutes[package]? = some scope → scope = .untilUnlock
  | .muteApp packageName _ | .setAppConfig packageName _ => DaemonCore.OthersKnown state packageName
  | .ingest record _ _ =>
      let record := enrichRecord state record
      let db := state.world.store.db
      ∀ config, core.configStore.parse state.disk.files = .ok config → admits config record →
        (record.pid ≠ 0 → db.companion record (companionWindowMs record.kind).val = none) →
        record.groupId core.platform.sha256 ∉ db.groupIds → isMuted state record.packageName = false

end Step

/-- The states after start-up, reached by completed steps that are all `allowed`. -/
inductive Run (core : DaemonCore) (allowed : CoreState → Step → Prop) : CoreState → Prop
  | startUp {state after : CoreState} (fresh : state.world.store = .empty)
      (meets : allowed state .restart) (started : Step.restart.run core state = (.ok (), after)) :
      Run core allowed after
  | step {state after : CoreState} (before : Run core allowed state) (step : Step)
      (storeFaults diskFaults : Nat → Option Nat)
      (meets : allowed (state.facing storeFaults diskFaults) step)
      (completed : step.run core (state.facing storeFaults diskFaults) = (.ok (), after)) :
      Run core allowed after

def Agrees (core : DaemonCore) (state : CoreState) : Prop :=
  ∃ config, core.configStore.parse state.disk.files = .ok config ∧
    MutesAgree config state.volatileMutes state.world.store.db

section
variable {core : DaemonCore} {state : CoreState}

theorem restart_agrees (readsBack : core.configStore.ReadsBack)
    (groups : ∀ config, core.configStore.parse state.disk.files = .ok config →
      ∀ group ∈ state.world.store.db.groups.rows,
        group.mutedUntilMs.isSome ↔ (config.app group.packageName).mute ≠ .none) :
    Leaves state (Step.restart.run core) (fun _ => Agrees core) fun _ => True := by
  refine .update_bind (.bind (DaemonCore.clearMutes_leaves readsBack _ (.inr fun _ _ _ => .inr rfl)) ?_)
  rintro _ after ⟨config, cleared, parsed, unmuted⟩
  exact .pure (unmuted.agree (groups config parsed) (.inr ⟨rfl, fun _ => rfl⟩))

theorem Step.agrees (readsBack : core.configStore.ReadsBack) {step : Step}
    (keeps : step.KeepsMutes core state) (agrees : Agrees core state) :
    Leaves state (step.run core) (fun _ => Agrees core) fun _ => True := by
  obtain ⟨config, parsed, agree⟩ := agrees
  cases step with
  | restart =>
      refine restart_agrees readsBack fun other parsed' => ?_
      cases parsed.symm.trans parsed'
      exact agree.groups
  | learnPackages packages cachedPackage => exact .update ⟨config, parsed, agree⟩
  | muteApp packageName scope =>
      exact .bind (DaemonCore.muteApp_leaves readsBack parsed agree keeps scope)
        fun _ _ after => .pure after
  | setAppConfig packageName patch =>
      exact .bind (DaemonCore.setAppConfig_leaves readsBack parsed agree keeps patch)
        fun _ _ after => .pure after
  | clearUnlockMutes =>
      have covers (all : ∀ (package : Str) scope, state.volatileMutes[package]? = some scope →
          scope = .untilUnlock) (other : ConfigDocument)
          (parsed' : core.configStore.parse state.disk.files = .ok other) (package : Str) :
          (other.app package).mute = .none ∨ decide ((other.app package).mute = .untilUnlock) = true := by
        cases parsed.symm.trans parsed'
        by_cases muted : (config.app package).mute = .none
        · exact .inl muted
        · refine .inr (decide_eq_true (all package _ ?_))
          rw [agree.lookup, entry, if_neg muted]
      refine .bind (DaemonCore.clearMutes_leaves readsBack _ (keeps.imp_right covers)) ?_
      rintro _ after ⟨config', cleared, parsed', unmuted⟩
      cases parsed.symm.trans parsed'
      exact .pure (unmuted.agree agree.groups (.inl agree.lookup))
  | ingest record sourceKeys clock =>
      refine .bind ((core.ingest_leaves record sourceKeys clock).consequence (fun _ _ done => done)
        fun _ _ => trivial) ?_
      rintro result after ⟨frame, -, config', parsed', outcome⟩
      cases parsed.symm.trans parsed'
      refine .pure ⟨config, frame.files ▸ parsed, ?_⟩
      rw [frame.volatileMutes]
      refine outcome.agree agree fun admitted unseen fresh => ?_
      have unmuted := keeps config parsed admitted unseen fresh
      have absent : state.volatileMutes[(enrichRecord state record).packageName]? = none :=
        Std.ExtTreeMap.getElem?_eq_none_of_contains_eq_false unmuted
      exact (agree.map _ .none).mpr absent

/-- In every run whose steps store no first crash of a group for a muted package, and read every mute
they leave alone, the three homes of a mute agree. -/
theorem mutes_agree (readsBack : core.configStore.ReadsBack) (run : Run core (Step.KeepsMutes core) state) :
    Agrees core state := by
  induction run with
  | @startUp state after fresh meets started =>
      refine (restart_agrees readsBack fun config _ group member => ?_).ok started
      rw [fresh] at member
      cases member
  | step before step storeFaults diskFaults meets completed ih =>
      have agrees : Agrees core (CoreState.facing _ storeFaults diskFaults) := ih
      exact (step.agrees readsBack meets agrees).ok completed

end

namespace DaemonCore
variable {self : DaemonCore}

theorem muteApp_completes (readsBack : self.configStore.ReadsBack) {state : CoreState} {s : StoreState}
    {files : Str → Option (List UInt8)} {config : ConfigDocument} {packageName : Str} {scope : MuteScope}
    (safe : isSafeSettingsKey packageName = true) (stored : state.world = quiet s)
    (works : state.disk = .working files) (parsed : self.configStore.parse files = .ok config)
    (prints : (self.configStore.serde.toStringPretty (config.putApp packageName
      { config.app packageName with mute := scope }).normalized.normalized).isSome) :
    ∃ result disk effects, self.muteApp packageName scope state = (.ok result,
        (((state.setMutes (putScope state.volatileMutes packageName scope)).setWorld (quiet { s with
          db := s.db.mutePackage packageName (mutedUntil scope) })).setDisk disk).setEffects effects) ∧
      self.configStore.parse disk.files = .ok (config.putApp packageName
        { config.app packageName with mute := scope }).normalized := by
  let mutate (document : ConfigDocument) : ConfigDocument :=
    document.putApp packageName { document.app packageName with mute := scope }
  let muted := (state.setMutes (putScope state.volatileMutes packageName scope)).setWorld (quiet { s with
    db := s.db.mutePackage packageName (mutedUntil scope) })
  have valid : validateSettingsKey packageName state = (.ok (), state) := by
    unfold validateSettingsKey
    rw [if_pos safe]
    rfl
  have applied : applyMute packageName scope state = (.ok (), muted) := by
    have rows : setPackageMute packageName (mutedUntil scope)
        (state.setMutes (putScope state.volatileMutes packageName scope)).world =
        (.ok (s.db.groups.rows.countP fun row => row.packageName = packageName),
          quiet { s with db := s.db.mutePackage packageName (mutedUntil scope) }) := by
      show setPackageMute packageName (mutedUntil scope) state.world = _
      rw [stored]
      rfl
    exact (bind_of_ok rfl).trans (bind_of_ok (onStore_of_ok rows))
  obtain ⟨document, disk, ran⟩ := ConfigStore.update_working mutate parsed prints
  obtain ⟨start, starts, rfl, reads⟩ := ConfigStore.update_ok readsBack (by exact parsed) ran
  obtain rfl : start = config := starts.resolve_right fun failed => failed.1 rfl
  have updated : self.updateConfig mutate muted = (.ok (mutate start).normalized, muted.setDisk disk) := by
    refine onDisk_of_ok ?_
    show self.configStore.update mutate state.disk = _
    rw [works]
    exact ran
  exact ⟨_, disk, _, (bind_of_ok valid).trans ((bind_of_ok applied).trans (bind_of_ok updated)), reads⟩

end DaemonCore

def knowing (document : ConfigDocument) : Serde where
  fromStr text := if text = Json.pretty 0 document.toJson ++ ['\n'] then some document else none
  toStringPretty other := if other = document then some (Json.pretty 0 document.toJson) else none

theorem knowing_prints (document : ConfigDocument) :
    (knowing document).toStringPretty document = some (Json.pretty 0 document.toJson) := by
  simp only [knowing, if_true]

theorem knowing_reads (document : ConfigDocument) :
    (knowing document).fromStr (Json.pretty 0 document.toJson ++ ['\n']) = some document := by
  simp only [knowing, if_true]

theorem knowing_readsBack (fileName : Str) (document : ConfigDocument) :
    ConfigStore.ReadsBack { fileName, serde := knowing document } := by
  intro other json printed
  have printed : (if other.normalized = document then some (Json.pretty 0 document.toJson) else none) =
      some json := printed
  by_cases same : other.normalized = document
  · rw [if_pos same] at printed
    cases printed
    rw [same]
    exact knowing_reads document
  · rw [if_neg same] at printed
    cases printed

def mutedDocument : ConfigDocument :=
  (({} : ConfigDocument).putApp "app".toList
    { ({} : ConfigDocument).app "app".toList with mute := .untilRestart }).normalized

def mutingCore : DaemonCore := .plain (knowing mutedDocument)

theorem mutingCore_readsBack : mutingCore.configStore.ReadsBack := knowing_readsBack _ _

theorem muted_after_startUp {allowed : CoreState → Step → Prop} (restarts : allowed .fresh .restart)
    (mutes : allowed .fresh (.muteApp "app".toList .untilRestart)) :
    ∃ disk effects, mutingCore.configStore.parse disk.files = .ok mutedDocument ∧
      Run mutingCore allowed (((CoreState.fresh.setMutes (putScope ∅ "app".toList .untilRestart)).setDisk
        disk).setEffects effects) := by
  have empty : CoreState.fresh.world.store = .empty := rfl
  have started : Run mutingCore allowed .fresh := .startUp empty restarts rfl
  have prints : (mutingCore.configStore.serde.toStringPretty (({} : ConfigDocument).putApp "app".toList
      { ({} : ConfigDocument).app "app".toList with mute := .untilRestart }).normalized.normalized).isSome := by
    rw [ConfigDocument.normalized_normalized]
    exact Option.isSome_of_eq_some (knowing_prints mutedDocument)
  have safe : isSafeSettingsKey "app".toList = true := by decide
  have stored : CoreState.fresh.world = quiet .empty := rfl
  obtain ⟨result, disk, effects, ran, parsed⟩ :=
    DaemonCore.muteApp_completes mutingCore_readsBack safe stored rfl rfl prints
  refine ⟨disk, effects, parsed, started.step (.muteApp "app".toList .untilRestart) noFaults noFaults mutes ?_⟩
  exact bind_of_ok ran

theorem mutes_agree_after_mute : ∃ state, Run mutingCore (Step.KeepsMutes mutingCore) state ∧
    isMuted state "app".toList = true ∧ Agrees mutingCore state := by
  have restarts : Step.KeepsMutes mutingCore .fresh .restart := trivial
  obtain ⟨disk, effects, -, run⟩ := muted_after_startUp restarts (.inl rfl)
  exact ⟨_, run, rfl, mutes_agree mutingCore_readsBack run⟩

def bareCrash : CrashRecord := { oneByteCrash with payload := .none }

/-- The first crash of an app that was muted before is stored in a group that is not muted. -/
theorem first_crash_of_muted_app_is_not_muted :
    ¬ ∀ core : DaemonCore, core.configStore.ReadsBack →
      ∀ state, Run core (fun _ _ => True) state → Agrees core state := by
  intro always
  let allowed (_ : CoreState) (_ : Step) : Prop := True
  have restarts : allowed .fresh .restart := trivial
  obtain ⟨disk, effects, parsed, run⟩ := muted_after_startUp restarts trivial
  let muted := ((CoreState.fresh.setMutes (putScope ∅ "app".toList .untilRestart)).setDisk disk).setEffects
    effects
  let before := muted.facing noFaults noFaults
  have policy : mutedDocument.global = {} := by decide
  have app : mutedDocument.app "app".toList = { mute := .untilRestart } := by
    unfold mutedDocument
    rw [ConfigDocument.app_normalized, ConfigDocument.app_putApp, if_pos rfl]
    rfl
  have read : mutingCore.configStore.load before.disk = (.ok mutedDocument, before.disk.popFault) := by
    rw [ConfigStore.load_of_reads rfl]
    exact congrArg (·, before.disk.popFault) parsed
  have admitted : admits mutedDocument (enrichRecord before bareCrash) = true := by
    show admits mutedDocument bareCrash = true
    have named : bareCrash.packageName = "app".toList := rfl
    unfold admits ConfigDocument.shouldRecord capturesKind
    rw [named, app, policy]
    rfl
  let clock (_ : Nat) : I64 := 0
  let inserting := insertWithSources plainPlatform bareCrash {} [] (clock 0) (quiet .empty)
  have accepted : inserting.1.isOk = true := by decide +kernel
  have rows : ((trySweep (clock 1) {} inserting.2).2.store.db.groups.rows.map fun group =>
      (group.packageName, group.mutedUntilMs)) = [("app".toList, none)] := by decide +kernel
  rcases ran : inserting with ⟨result, stored⟩
  rw [ran] at accepted rows
  cases result with
  | error _ => cases accepted
  | ok answer =>
      have unseen : companionRecord (enrichRecord before bareCrash)
          (companionWindowMs (enrichRecord before bareCrash).kind).val before.world =
            (.ok none, before.world) := rfl
      have inserts : insertWithSources mutingCore.platform (enrichRecord before bareCrash)
          mutedDocument.global.retention [] (clock 0) before.world = (.ok answer, stored) := by
        rw [policy]
        exact ran
      obtain ⟨effects', ingested⟩ := mutingCore.ingest_stores read admitted unseen inserts
      obtain ⟨config, parsed', agree⟩ := always mutingCore mutingCore_readsBack _
        (run.step (.ingest bareCrash [] clock) noFaults noFaults trivial (bind_of_ok ingested))
      cases parsed.symm.trans parsed'
      have listed : ("app".toList, none) ∈ ((trySweep (clock 1) {} stored).2.store.db.groups.rows.map
        fun group =>
          (group.packageName, group.mutedUntilMs)) := rows ▸ List.mem_cons_self
      obtain ⟨group, member, same⟩ := List.mem_map.mp listed
      rw [Prod.mk.injEq] at same
      have said := agree.groups group (by rw [policy]; exact member)
      rw [same.1, same.2, app] at said
      cases said.mpr nofun

end CrashCatcher.Daemon
