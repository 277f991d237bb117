import CrashCatcher.Daemon.Ingests
import CrashCatcher.Lib.Run
import CrashCatcher.Store.Verdicts

namespace CrashCatcher.Daemon
open Lib Lib.Run Model Config Store Fallible

def PackageIndex.verdicts (self : PackageIndex) (names : List Str) : List (Str × Bool) :=
  names.filterMap fun name => (self.byName name).map fun package => (name, package.isSystem)

def resolvedFlags (packages : PackageIndex) : StoreM (Option (List (Str × Bool))) :=
  if packages.systemFlagsKnown then do
    let names ← groupPackageNames
    pure (some (packages.verdicts names))
  else pure none

/-- An ingest between its two steps: it goes on with what the classification saw. -/
structure Classified where
  record : CrashRecord
  sourceKeys : List Str
  packages : PackageIndex
  cachedPackage : Str → Int → Option BridgePackageInfo
  /-- The completed index was not yet in place. -/
  early : Bool

def CoreState.seeing (state : CoreState) (packages : PackageIndex)
    (cachedPackage : Str → Int → Option BridgePackageInfo) : CoreState :=
  { state with packages, cachedPackage }

def Classified.enriched (self : Classified) : CrashRecord :=
  enrichRecord (CoreState.fresh.seeing self.packages self.cachedPackage) self.record

inductive Completion where
  | waiting
  | replaced
  | listed (flags : List (Str × Bool))
  | finished

/-- The verdicts that are still to be applied, once they were listed. -/
def Completion.due : Completion → Option (List (Str × Bool))
  | waiting | replaced => none
  | listed flags => some flags
  | finished => some []

structure RepairState where
  core : CoreState
  ingests : Nat → Option Classified
  completion : Completion

inductive RepairAction where
  /-- The bridge answers. -/
  | learn (cachedPackage : Str → Int → Option BridgePackageInfo)
  | classify (thread : Nat) (record : CrashRecord) (sourceKeys : List Str)
  | store (thread : Nat) (clock : Nat → I64) (storeFaults diskFaults : Nat → Option Nat)
  | replace
  | list (faults : Nat → Option Nat)
  | apply (faults : Nat → Option Nat)

namespace RepairState
variable (self : DaemonCore) (completed : PackageIndex)

def setCore (state : RepairState) (core : CoreState) : RepairState := { state with core }
def setIngest (state : RepairState) (thread : Nat) (ingest : Option Classified) : RepairState :=
  { state with ingests := Function.update state.ingests thread ingest }
def setCompletion (state : RepairState) (completion : Completion) : RepairState := { state with completion }

def classify (state : RepairState) (thread : Nat) (record : CrashRecord) (sourceKeys : List Str) :
    RepairState :=
  state.setIngest thread (some {
    record, sourceKeys
    packages := state.core.packages
    cachedPackage := state.core.cachedPackage
    early := match state.completion with
      | .waiting => true
      | .replaced | .listed _ | .finished => false })

def store (state : RepairState) (held : Classified) (clock : Nat → I64)
    (storeFaults diskFaults : Nat → Option Nat) : CoreState :=
  let seen := (state.core.facing storeFaults diskFaults).seeing held.packages held.cachedPackage
  let after := (self.ingestWithSources held.record held.sourceKeys clock seen).2
  after.seeing state.core.packages state.core.cachedPackage

def step (state : RepairState) : RepairAction → RepairState
  | .learn cachedPackage => state.setCore (state.core.seeing state.core.packages cachedPackage)
  | .classify thread record sourceKeys =>
      match state.ingests thread with
      | some _ => state
      | none => state.classify thread record sourceKeys
  | .store thread clock storeFaults diskFaults =>
      match state.ingests thread with
      | some held => (state.setCore (state.store self held clock storeFaults diskFaults)).setIngest thread none
      | none => state
  | .replace =>
      match state.completion with
      | .waiting =>
          if completed.systemFlagsKnown then
            (state.setCore (state.core.seeing completed state.core.cachedPackage)).setCompletion .replaced
          else state
      | .replaced | .listed _ | .finished => state
  | .list faults =>
      match state.completion with
      | .replaced =>
          let (result, world) := resolvedFlags state.core.packages { store := state.core.world.store, faults }
          let read := state.setCore (state.core.setWorld world)
          match result with
          | .ok (some flags) => read.setCompletion (.listed flags)
          | .ok none | .error _ => read.setCompletion .finished
      | .waiting | .listed _ | .finished => state
  | .apply faults =>
      match state.completion with
      | .listed flags =>
          let world := (applyPackageSystemFlags flags { store := state.core.world.store, faults }).2
          (state.setCore (state.core.setWorld world)).setCompletion .finished
      | .waiting | .replaced | .finished => state

def booting (core : CoreState) : RepairState := { core, ingests := fun _ => none, completion := .waiting }

def groups (state : RepairState) : List GroupSummary := state.core.world.store.db.groups.rows

end RepairState

section
variable (completed : PackageIndex)

def Repaired (group : GroupSummary) : Prop :=
  ∀ package, completed.byName group.packageName = some package →
    group.isSystemApp = package.isSystem ∧ group.packageInstalled = true

def RightVerdict (record : CrashRecord) : Prop :=
  ∀ package, completed.byName record.packageName = some package →
    record.isSystemApp = package.isSystem ∧ record.packageInstalled = true

def BridgeAgrees (cachedPackage : Str → Int → Option BridgePackageInfo) : Prop :=
  ∀ name userId info package, cachedPackage name userId = some info → completed.byName name = some package →
    info.isSystemApp = package.isSystem

def RepairAction.Agrees : RepairAction → Prop
  | .learn cachedPackage => BridgeAgrees completed cachedPackage
  | .classify .. | .store .. | .replace | .list _ | .apply _ => True

/-- The repair's statements succeed. A record that is stored as a new one does not fall into a group of another
package, and one that was classified before the index was completed is stored before the groups are listed, or
is of a package that is listed and not yet repaired, or was classified rightly. -/
def InTime (self : DaemonCore) (state : RepairState) : RepairAction → Prop
  | .store thread _ _ _ => ∀ held config, state.ingests thread = some held →
      self.configStore.parse state.core.disk.files = .ok config → admits config held.enriched →
        (held.enriched.pid ≠ 0 → state.core.world.store.db.companion held.enriched
          (companionWindowMs held.enriched.kind).val = none) →
        (∀ group ∈ state.groups, group.groupId = held.enriched.groupId self.platform.sha256 →
          group.packageName = held.enriched.packageName) ∧
        (held.early = true → ∀ flags, state.completion.due = some flags →
          RightVerdict completed held.enriched ∨ held.enriched.packageName ∈ flags.map Prod.fst)
  | .list faults | .apply faults => ∀ n, faults n = none
  | .learn _ | .classify .. | .replace => True

def Pledged (flags : List (Str × Bool)) (group : GroupSummary) : Prop :=
  ∀ package, completed.byName group.packageName = some package →
    (group.isSystemApp = package.isSystem ∧ group.packageInstalled = true) ∨
      (group.packageName, package.isSystem) ∈ flags

def Verdicts (flags : List (Str × Bool)) : Prop :=
  ∀ flag ∈ flags, ∀ package, completed.byName flag.1 = some package → flag.2 = package.isSystem

end

section
variable {completed : PackageIndex}

theorem Pledged.ignoresBytes (flags : List (Str × Bool)) : IgnoresBytes (Pledged completed flags) :=
  fun _ _ pledged => pledged

theorem pledged_resolveAll {db : Database} {flags : List (Str × Bool)} (verdicts : Verdicts completed flags)
    (pledged : Every (Pledged completed flags) db) : Every (Pledged completed []) (db.resolveAll flags) := by
  induction flags generalizing db with
  | nil => exact pledged
  | cons flag rest ih =>
      obtain ⟨name, isSystemApp⟩ := flag
      refine ih (fun other member => verdicts other (List.mem_cons_of_mem _ member)) fun group stored => ?_
      obtain ⟨old, member, rfl⟩ := mem_resolvePackage.mp stored
      split
      · next differs =>
          intro package found
          simp only [GroupSummary.differs, Bool.and_eq_true, decide_eq_true_eq] at differs
          have own := verdicts (name, isSystemApp) List.mem_cons_self package (differs.1 ▸ found)
          exact .inl ⟨own, rfl⟩
      · next same =>
          intro package found
          rcases pledged old member package found with right | due
          · exact .inl right
          · rcases List.mem_cons.mp due with here | later
            · obtain ⟨rfl, rfl⟩ := Prod.mk.inj here
              left
              simpa [GroupSummary.differs] using same
            · exact .inr later

theorem PackageIndex.not_empty {packages : PackageIndex} {name : Str} {package : PackageEntry}
    (found : packages.byName name = some package) : packages.isEmpty = false := by
  cases entries : packages.entries with
  | nil =>
      rw [byName, entries] at found
      cases found
  | cons entry rest => simp [isEmpty, entries]

theorem packageName_enrichRecord (state : CoreState) (record : CrashRecord) :
    (enrichRecord state record).packageName = record.packageName := by
  unfold enrichRecord
  cases state.cachedPackage record.packageName record.userId with
  | some info => rfl
  | none =>
      dsimp only
      cases state.packages.byName record.packageName <;> cases classifyPackage state.packages
        record.packageName <;> rfl

theorem rightVerdict_enrichRecord {state : CoreState} (packages : state.packages = completed)
    (known : completed.systemFlagsKnown = true) (agrees : BridgeAgrees completed state.cachedPackage)
    (record : CrashRecord) : RightVerdict completed (enrichRecord state record) := by
  intro package found
  rw [packageName_enrichRecord] at found
  unfold enrichRecord
  cases cached : state.cachedPackage record.packageName record.userId with
  | some info => exact ⟨agrees _ _ _ _ cached found, rfl⟩
  | none =>
      rw [packages]
      simp [found, classifyPackage, PackageIndex.not_empty found, known]

theorem IngestOutcome.pledged {core : DaemonCore} {config : ConfigDocument} {s t : StoreState}
    {record : CrashRecord}
    {sourceKeys : List Str} {clock : Nat → I64} {result : Option Inserted} {flags : List (Str × Bool)}
    (outcome : IngestOutcome core config s record sourceKeys clock result t)
    (verdicts : Verdicts completed flags) (before : Every (Pledged completed flags) s.db)
    (own : admits config record →
      (record.pid ≠ 0 → s.db.companion record (companionWindowMs record.kind).val = none) →
      (∀ group ∈ s.db.groups.rows, group.groupId = record.groupId core.platform.sha256 →
        group.packageName = record.packageName) ∧
      (RightVerdict completed record ∨ record.packageName ∈ flags.map Prod.fst)) :
    Every (Pledged completed flags) t.db := by
  have ignores : IgnoresBytes (Pledged completed flags) := Pledged.ignoresBytes flags
  cases outcome with
  | excluded _ => exact before.congr (marks_markAll s.db clock sourceKeys).groups
  | folded _ _ _ _ _ _ _ rows =>
      rw [rows]
      exact (before.foldInto ignores _ _ _).congr (marks_ingest _ _ _).groups
  | inserted admitted unseen recorded =>
      cases recorded with
      | @intro written db u payload ids added rows swept =>
          obtain ⟨faults, rfl⟩ := swept
          obtain ⟨apart, verdict⟩ := own admitted unseen
          have kept (group : GroupSummary) (name : group.packageName = record.packageName)
              (system : group.isSystemApp = record.isSystemApp)
              (installed : group.packageInstalled = record.packageInstalled) :
                Pledged completed flags group := by
            intro package found
            rw [name] at found
            rcases verdict with right | due
            · rw [system, installed]
              exact .inl (right package found)
            · obtain ⟨⟨other, flag⟩, member, same⟩ := List.mem_map.mp due
              have named : other = record.packageName := same
              subst named
              right
              rw [name, ← verdicts _ member package found]
              exact member
          have grown : Every (Pledged completed flags) db := before.insertCrash added
            (fun _ => kept _ rfl rfl rfl) fun old stored same _ => kept _ (apart old stored same) rfl rfl
          have stored : Every (Pledged completed flags) u.db := by
            rw [rows]
            exact grown.congr (marks_ingest db sourceKeys (clock 0)).groups
          have upkeep := (upkeep_every ignores).sweep (s := u) (clock 1) config.global.retention
          exact trySweep_always (upkeep.consequence
            (fun _ _ kept => kept.2 stored) fun _ kept => kept.2 stored) faults

end

namespace RepairState

/-- What holds between the steps: whoever classified after the completion did so rightly, and every group has the
right verdict or is due to get it. -/
structure Sound (completed : PackageIndex) (state : RepairState) : Prop where
  agrees : BridgeAgrees completed state.core.cachedPackage
  placed : state.completion = .waiting ∨ state.core.packages = completed ∧ completed.systemFlagsKnown = true
  fresh : ∀ thread held, state.ingests thread = some held → held.early = false →
    RightVerdict completed held.enriched
  verdicts : ∀ flags, state.completion.due = some flags → Verdicts completed flags
  pledged : ∀ flags, state.completion.due = some flags →
    Every (Pledged completed flags) state.core.world.store.db

variable {self : DaemonCore} {completed : PackageIndex} {state : RepairState}

theorem sound_booting {core : CoreState} (agrees : BridgeAgrees completed core.cachedPackage) :
    (booting core).Sound completed where
  agrees := agrees
  placed := .inl rfl
  fresh _ _ held := by cases held
  verdicts _ due := by cases due
  pledged _ due := by cases due

theorem Sound.classify (sound : state.Sound completed) (thread : Nat) (record : CrashRecord)
    (sourceKeys : List Str) :
    (state.classify thread record sourceKeys).Sound completed where
  agrees := sound.agrees
  placed := sound.placed
  fresh other held here late := by
    change Function.update state.ingests thread _ other = some held at here
    rw [Function.update_apply] at here
    split at here
    · obtain rfl := Option.some.inj here
      rcases sound.placed with waiting | ⟨packages, known⟩
      · simp [waiting] at late
      · exact rightVerdict_enrichRecord packages known sound.agrees record
    · exact sound.fresh other held here late
  verdicts := sound.verdicts
  pledged := sound.pledged

theorem Sound.store (sound : state.Sound completed) {thread : Nat} {held : Classified}
    (holds : state.ingests thread = some held) (clock : Nat → I64) (storeFaults diskFaults : Nat → Option Nat)
    (inTime : InTime completed self state (.store thread clock storeFaults diskFaults)) :
    ((state.setCore (state.store self held clock storeFaults diskFaults)).setIngest thread none).Sound
      completed where
  agrees := sound.agrees
  placed := sound.placed
  fresh other held' here late := by
    change Function.update state.ingests thread none other = some held' at here
    rw [Function.update_apply] at here
    split at here
    · cases here
    · exact sound.fresh other held' here late
  verdicts := sound.verdicts
  pledged flags due := by
    have before := sound.pledged flags due
    let seen := (state.core.facing storeFaults diskFaults).seeing held.packages held.cachedPackage
    show Every (Pledged completed flags)
      (self.ingestWithSources held.record held.sourceKeys clock seen).2.world.store.db
    rcases ingest_always held.record held.sourceKeys clock seen with ⟨result, config, parsed, outcome⟩ | lost
    · refine outcome.pledged (sound.verdicts flags due) before fun admitted unseen => ?_
      obtain ⟨apart, early⟩ := inTime held config holds parsed admitted unseen
      refine ⟨apart, ?_⟩
      cases when_ : held.early with
      | false => exact .inl (sound.fresh thread held holds when_)
      | true => exact early when_ flags due
    · exact before.congr lost.marks.groups

theorem resolvedFlags_quiet (packages : PackageIndex) (known : packages.systemFlagsKnown = true)
    (s : StoreState) :
    resolvedFlags packages (quiet s) = (.ok (some (packages.verdicts s.db.packageNames)), quiet s) := by
  unfold resolvedFlags
  rw [if_pos known]
  exact bind_of_ok (query_quiet s Database.packageNames)

theorem pledged_listed (packages : PackageIndex) (db : Database) :
    Verdicts packages (packages.verdicts db.packageNames) ∧
      Every (Pledged packages (packages.verdicts db.packageNames)) db := by
  refine ⟨fun flag member package found => ?_, fun group stored package found => .inr ?_⟩
  · obtain ⟨name, -, listed⟩ := List.mem_filterMap.mp member
    obtain ⟨entry, found', rfl⟩ := Option.map_eq_some_iff.mp listed
    cases found.symm.trans found'
    rfl
  · refine List.mem_filterMap.mpr ⟨group.packageName, db.mem_packageNames stored, ?_⟩
    rw [found]
    rfl

theorem Sound.step (sound : state.Sound completed) {action : RepairAction} (agrees : action.Agrees completed)
    (inTime : InTime completed self state action) : (state.step self completed action).Sound completed := by
  cases action with
  | learn cachedPackage => exact { sound with agrees := agrees }
  | classify thread record sourceKeys =>
      cases here : state.ingests thread with
      | some held =>
          simp only [RepairState.step, here]
          exact sound
      | none =>
          simp only [RepairState.step, here]
          exact sound.classify thread record sourceKeys
  | store thread clock storeFaults diskFaults =>
      cases here : state.ingests thread with
      | some held =>
          simp only [RepairState.step, here]
          exact sound.store here clock storeFaults diskFaults inTime
      | none =>
          simp only [RepairState.step, here]
          exact sound
  | replace =>
      cases phase : state.completion with
      | waiting =>
          by_cases known : completed.systemFlagsKnown = true
          · simp only [RepairState.step, phase, known, if_true]
            exact ⟨sound.agrees, .inr ⟨rfl, known⟩, sound.fresh, nofun, nofun⟩
          · simp only [RepairState.step, phase, known]
            exact sound
      | replaced | listed flags | finished =>
          simp only [RepairState.step, phase]
          exact sound
  | list faults =>
      cases phase : state.completion with
      | replaced =>
          obtain rfl : faults = fun _ => none := funext inTime
          obtain ⟨packages, known⟩ := sound.placed.resolve_left (by simp [phase])
          have read := resolvedFlags_quiet completed known state.core.world.store
          simp only [RepairState.step, phase, packages]
          rw [show ({ store := state.core.world.store, faults := fun _ => none } : World) =
            quiet state.core.world.store from rfl, read]
          obtain ⟨verdicts, pledged⟩ := pledged_listed completed state.core.world.store.db
          refine ⟨sound.agrees, .inr ⟨packages, known⟩, sound.fresh, fun flags due => ?_, fun flags due => ?_⟩
          · cases due
            exact verdicts
          · cases due
            exact pledged
      | waiting | listed flags | finished =>
          simp only [RepairState.step, phase]
          exact sound
  | apply faults =>
      cases phase : state.completion with
      | listed flags =>
          obtain rfl : faults = fun _ => none := funext inTime
          have due : state.completion.due = some flags := by rw [phase]; rfl
          obtain ⟨_, t, ran, rows⟩ := applyPackageSystemFlags_completes (s := state.core.world.store) flags
          obtain ⟨packages, known⟩ := sound.placed.resolve_left (by simp [phase])
          simp only [RepairState.step, phase]
          rw [show ({ store := state.core.world.store, faults := fun _ => none } : World) =
            quiet state.core.world.store from rfl, ran]
          refine ⟨sound.agrees, .inr ⟨packages, known⟩, sound.fresh, fun none due' => ?_, fun none due' => ?_⟩
          · cases due'
            exact fun flag member => by cases member
          · cases due'
            show Every (Pledged completed []) t.db
            rw [rows]
            exact pledged_resolveAll (sound.verdicts flags due) (sound.pledged flags due)
      | waiting | replaced | finished =>
          simp only [RepairState.step, phase]
          exact sound

end RepairState

open RepairState in
/-- In a run whose records are stored in time, the completed index decides every stored group once the completion
has finished. -/
theorem reclassification_repairs (self : DaemonCore) (completed : PackageIndex) (core : CoreState)
    (bridge : BridgeAgrees completed core.cachedPackage) (actions : List RepairAction)
    (agrees : ∀ action ∈ actions, action.Agrees completed)
    (inTime : Throughout (step self completed) (InTime completed self) (booting core) actions)
    (finished : (actions.foldl (step self completed) (booting core)).completion = .finished) :
    ∀ group ∈ (actions.foldl (step self completed) (booting core)).groups, Repaired completed group := by
  have sound : (actions.foldl (step self completed) (booting core)).Sound completed := by
    have start : (booting core).Sound completed := sound_booting bridge
    clear finished
    generalize booting core = state at inTime start
    induction actions generalizing state with
    | nil => exact start
    | cons action actions ih =>
        exact ih (fun other member => agrees other (List.mem_cons_of_mem action member)) _ inTime.2
          (start.step (agrees action List.mem_cons_self) inTime.1)
  intro group stored package found
  exact (sound.pledged [] (by rw [finished]; rfl) group stored package found).resolve_right (by simp)

def systemIndex : PackageIndex where
  entries := [⟨oneByteCrash.packageName, none, true⟩]
  systemFlagsKnown := true

theorem fresh_agrees : BridgeAgrees systemIndex CoreState.fresh.cachedPackage := nofun

def storedInTime : List RepairAction :=
  [.classify 0 oneByteCrash [], .store 0 (fun _ => 0) (fun _ => none) (fun _ => none), .replace,
    .list (fun _ => none), .apply (fun _ => none)]

theorem stored_in_time_repaired :
    (storedInTime.foldl (RepairState.step (.plain .printing) systemIndex)
      (RepairState.booting .fresh)).completion = .finished ∧
    ∀ group ∈ (storedInTime.foldl (RepairState.step (.plain .printing) systemIndex)
      (RepairState.booting .fresh)).groups, Repaired systemIndex group := by
  refine ⟨rfl, ?_⟩
  apply reclassification_repairs
  · exact fresh_agrees
  · intro action member
    simp only [storedInTime, List.mem_cons, List.not_mem_nil, or_false] at member
    rcases member with rfl | rfl | rfl | rfl | rfl <;> trivial
  · refine ⟨trivial, fun held config _ _ _ _ => ⟨fun group stored => ?_, fun _ flags due => ?_⟩, trivial,
      fun _ => rfl, fun _ => rfl, trivial⟩
    · exact absurd stored List.not_mem_nil
    · cases due
  · rfl

def storedTooLate : List RepairAction :=
  [.classify 0 oneByteCrash [], .replace, .list (fun _ => none), .apply (fun _ => none),
    .store 0 (fun _ => 0) (fun _ => none) (fun _ => none)]

theorem stored_too_late_unrepaired :
    ¬ ∀ (self : DaemonCore) (completed : PackageIndex) (core : CoreState) (actions : List RepairAction),
      BridgeAgrees completed core.cachedPackage → (∀ action ∈ actions, action.Agrees completed) →
      let state := actions.foldl (RepairState.step self completed) (RepairState.booting core)
      state.completion = .finished → (∀ thread, state.ingests thread = none) →
        ∀ group ∈ state.groups, Repaired completed group := by
  intro always
  have agrees : ∀ action ∈ storedTooLate, action.Agrees systemIndex := by
    intro action member
    simp only [storedTooLate, List.mem_cons, List.not_mem_nil, or_false] at member
    rcases member with rfl | rfl | rfl | rfl | rfl <;> trivial
  let state := storedTooLate.foldl (RepairState.step (.plain .printing) systemIndex)
    (RepairState.booting .fresh)
  have ended (thread : Nat) : state.ingests thread = none := by
    by_cases own : thread = 0
    · rw [own]
      rfl
    · exact (Function.update_of_ne own _ _).trans (Function.update_of_ne own _ fun _ => none)
  have stored : state.groups.map (fun group => (group.packageName, group.isSystemApp)) =
      [(oneByteCrash.packageName, false)] := by decide +kernel
  obtain ⟨group, member, same⟩ : ∃ group ∈ state.groups,
      (group.packageName, group.isSystemApp) = (oneByteCrash.packageName, false) :=
    List.mem_map.mp (stored ▸ List.mem_cons_self)
  injection same with name system
  have found : systemIndex.byName group.packageName = some ⟨oneByteCrash.packageName, none, true⟩ := by
    rw [name]
    rfl
  have right := (always (.plain .printing) systemIndex .fresh storedTooLate fresh_agrees agrees rfl ended
    group member
    _ found).1
  cases system.symm.trans right

end CrashCatcher.Daemon
