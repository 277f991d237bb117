import CrashCatcher.Daemon.Mutes

namespace CrashCatcher.Config
open Lib Lib.Utf8 Fallible

namespace ConfigStore
variable {self : ConfigStore}

/-- An update that fails leaves the configuration where it is: it reads it, or cannot move it aside. -/
def KeepsFile (self : ConfigStore) (disk : Disk) : Prop :=
  disk.files self.fileName = none ∨ disk.faults 1 ≠ none ∨ (disk.faults 0 = none ∧ self.Readable disk.files)

theorem tempName_ne : self.tempName ≠ self.fileName := by
  intro same
  have lengths := congrArg List.length same
  simp only [tempName, List.cons_append, List.length_cons, List.length_append] at lengths
  omega

theorem corruptName_ne : self.corruptName ≠ self.fileName := by
  intro same
  have lengths := congrArg List.length same
  simp [corruptName] at lengths

def Content (self : ConfigStore) (content : Option (List UInt8)) (disk : Disk) : Prop :=
  disk.files self.fileName = content

theorem Content.put {content other : Option (List UInt8)} {disk : Disk} {name : Str}
    (apart : name ≠ self.fileName)
    (holds : self.Content content disk) : self.Content content (disk.put name other) :=
  (Function.update_of_ne apart.symm _ _).trans holds

theorem fileStep_keeps {content : Option (List UInt8)} {step : Disk → Disk} {partway : Nat → Disk → Disk}
    (done : ∀ disk, self.Content content disk → self.Content content (step disk))
    (lost : ∀ n disk, self.Content content disk → self.Content content (partway n disk)) :
    Holds (self.Content content) (fileStep step partway) (fun _ => self.Content content)
      fun _ => self.Content content := by
  intro disk holds
  unfold fileStep
  cases disk.faults 0 with
  | none => exact done disk.popFault holds
  | some n => exact lost n disk.popFault holds

theorem rename_failed (source target : Str) (content : Option (List UInt8)) :
    Holds (self.Content content) (rename source target) (fun _ _ => True) fun _ => self.Content content := by
  intro disk holds
  unfold rename
  cases present : disk.files source with
  | none =>
      simp only [bind_run, Fallible.get, present]
      exact holds
  | some bytes =>
      simp only [bind_run, Fallible.get, present]
      unfold fileStep
      cases disk.faults 0 with
      | none => trivial
      | some n => exact holds

theorem save_failed (document : ConfigDocument) (content : Option (List UInt8)) :
    Holds (self.Content content) (self.save document) (fun _ _ => True) fun _ => self.Content content := by
  unfold save
  cases self.serde.toStringPretty document.normalized with
  | none => exact Holds.fail fun _ holds => holds
  | some json =>
      have created : Holds (self.Content content) createDirAll (fun _ => self.Content content)
          fun _ => self.Content content := fileStep_keeps (fun _ holds => holds) fun _ _ holds => holds
      have opened : Holds (self.Content content) (createFile self.tempName) (fun _ => self.Content content)
          fun _ => self.Content content := fileStep_keeps
            (fun _ holds => holds.put tempName_ne) fun _ _ holds => holds
      have wrote : Holds (self.Content content) (writeAll self.tempName (encode (json ++ ['\n'])))
          (fun _ => self.Content content) fun _ => self.Content content :=
        fileStep_keeps (fun _ holds => holds.put tempName_ne) fun _ _ holds => holds.put tempName_ne
      have synced : Holds (self.Content content) syncAll (fun _ => self.Content content)
          fun _ => self.Content content := fileStep_keeps (fun _ holds => holds) fun _ _ holds => holds
      refine created.bind fun _ => opened.bind fun _ => wrote.bind fun _ => synced.bind fun _ => ?_
      exact rename_failed _ _ content

theorem load_cases (disk : Disk) :
    (∃ config, self.load disk = (.ok config, disk.popFault) ∧ disk.faults 0 = none ∧ self.Readable disk.files) ∨
      (∃ error, self.load disk = (.error error, disk.popFault) ∧
        ¬ (disk.faults 0 = none ∧ self.Readable disk.files)) := by
  cases fault : disk.faults 0 with
  | some n =>
      refine .inr ⟨.io, ?_, by simp⟩
      unfold load
      rw [fault]
  | none =>
      rw [load_of_reads fault]
      cases parsed : self.parse disk.files with
      | ok config => exact .inl ⟨config, rfl, rfl, readable_of_parse parsed⟩
      | error error =>
          refine .inr ⟨error, rfl, fun reads => ?_⟩
          obtain ⟨config, parsed'⟩ := parse_of_readable reads.2
          cases parsed.symm.trans parsed'

theorem loadOrRecover_content (disk : Disk) :
    ∃ config after, self.loadOrRecover disk = (.ok config, after) ∧
      (self.KeepsFile disk → after.files self.fileName = disk.files self.fileName) ∧
      (¬ self.KeepsFile disk → after.files self.fileName = none) := by
  unfold loadOrRecover Fallible.recover
  rcases self.load_cases disk with ⟨config, loaded, reads⟩ | ⟨error, failed, unread⟩
  · rw [loaded]
    exact ⟨config, _, rfl, fun _ => rfl, fun moved => absurd (.inr (.inr reads)) moved⟩
  · rw [failed]
    simp only [bind_run, quarantine, Fallible.recover, rename, Fallible.get]
    have same : disk.popFault.files = disk.files := rfl
    rw [same]
    cases present : disk.files self.fileName with
    | none => exact ⟨{}, _, rfl, fun _ => present, fun _ => present⟩
    | some bytes =>
        have next : disk.popFault.faults 0 = disk.faults 1 := rfl
        simp only [fileStep, next]
        cases fault : disk.faults 1 with
        | some n =>
            refine ⟨{}, _, rfl, fun _ => present, fun moved => absurd (.inr (.inl ?_)) moved⟩
            rw [fault]
            exact Option.some_ne_none n
        | none =>
            have gone : (((disk.popFault.popFault).put self.fileName none).put self.corruptName
                (some bytes)).files self.fileName = none :=
              Content.put corruptName_ne (Function.update_self _ _ _)
            refine ⟨{}, _, rfl, fun kept => ?_, fun _ => gone⟩
            rcases kept with absent | faulty | reads
            · cases present.symm.trans absent
            · exact absurd fault faulty
            · exact absurd reads unread

theorem update_failed {mutate : ConfigDocument → ConfigDocument} {disk after : Disk} {error : ConfigError}
    (failed : self.update mutate disk = (.error error, after)) :
    (self.KeepsFile disk → after.files self.fileName = disk.files self.fileName) ∧
      (¬ self.KeepsFile disk → after.files self.fileName = none) := by
  obtain ⟨config, loaded, ran, kept, moved⟩ := self.loadOrRecover_content disk
  unfold update at failed
  rw [bind_of_ok ran] at failed
  have saved (content : Option (List UInt8)) (holds : loaded.files self.fileName = content) :
      after.files self.fileName = content := by
    have writes : Holds (self.Content content) (do
        self.save (mutate config).normalized
        pure (mutate config).normalized) (fun _ _ => True) fun _ => self.Content content :=
      (save_failed _ content).bind fun _ => Holds.pure fun _ _ => trivial
    exact writes.error holds failed
  exact ⟨fun keeps => saved _ (kept keeps), fun moves => saved _ (moved moves)⟩

end ConfigStore
end CrashCatcher.Config

namespace CrashCatcher.Daemon
open Lib Model Config Store Fallible

structure Unchanged (core : DaemonCore) (state after : CoreState) : Prop where
  mutes : after.volatileMutes = state.volatileMutes
  groups : after.world.store.db.groups.rows = state.world.store.db.groups.rows
  file : after.disk.files core.configStore.fileName = state.disk.files core.configStore.fileName

def MutedAs (db : Database) (packageName : Str) (scope : MuteScope) : Prop :=
  ∀ group ∈ db.groups.rows, group.packageName = packageName → group.mutedUntilMs = mutedUntil scope

instance (db : Database) (packageName : Str) (scope : MuteScope) : Decidable (MutedAs db packageName scope) :=
  inferInstanceAs (Decidable (∀ group ∈ db.groups.rows, _))

/-- A mute that fails has nothing to undo: its name is refused, or the map holds it already and either the
store fails or the group rows hold it too and the configuration stays where it is. -/
def Harmless (core : DaemonCore) (state : CoreState) (packageName : Str) (scope : MuteScope) : Prop :=
  isSafeSettingsKey packageName = false ∨
    (state.volatileMutes[packageName]? = entry scope ∧
      (state.world.faults 0 ≠ none ∨
        (MutedAs state.world.store.db packageName scope ∧ core.configStore.KeepsFile state.disk)))

theorem putScope_eq_self {mutes : Mutes} {package : Str} {scope : MuteScope} :
    putScope mutes package scope = mutes ↔ mutes[package]? = entry scope := by
  constructor
  · intro same
    have held := getElem?_putScope mutes package package scope
    rw [if_pos rfl, same] at held
    exact held
  · intro held
    refine Std.ExtTreeMap.ext_getElem? fun other => ?_
    rw [getElem?_putScope]
    by_cases same : package = other
    · rw [if_pos same, ← same, held]
    · rw [if_neg same]

theorem mutePackage_eq_self {db : Database} {packageName : Str} {scope : MuteScope} :
    (db.mutePackage packageName (mutedUntil scope)).groups.rows = db.groups.rows ↔
      MutedAs db packageName scope := by
  have rows : (db.mutePackage packageName (mutedUntil scope)).groups.rows = db.groups.rows.map fun row =>
      if row.packageName = packageName then GroupSummary.mute (mutedUntil scope) row else row := by
    simp [Database.mutePackage, Table.rows_modify]
  rw [rows]
  nth_rewrite 2 [← List.map_id db.groups.rows]
  rw [List.map_inj_left]
  refine forall₂_congr fun group _ => ?_
  by_cases named : group.packageName = packageName
  · rw [if_pos named]
    constructor
    · intro same _
      exact (congrArg GroupSummary.mutedUntilMs same).symm
    · intro muted
      rw [GroupSummary.mute, ← muted named]
      rfl
  · rw [if_neg named]
    exact ⟨fun _ named' => absurd named' named, fun _ => rfl⟩

section
variable {core : DaemonCore} {state after : CoreState} {packageName : Str} {scope : MuteScope}
  {error : CoreError}

theorem muteApp_failed (failed : core.muteApp packageName scope state = (.error error, after)) :
    (isSafeSettingsKey packageName = false ∧ after = state) ∨
      (isSafeSettingsKey packageName = true ∧
        after.volatileMutes = putScope state.volatileMutes packageName scope ∧
        ((state.world.faults 0 ≠ none ∧ after.world.store = state.world.store ∧ after.disk = state.disk) ∨
          (state.world.faults 0 = none ∧
            after.world.store.db = state.world.store.db.mutePackage packageName (mutedUntil scope) ∧
            ∃ mutate reason, core.configStore.update mutate state.disk = (.error reason, after.disk)))) := by
  unfold DaemonCore.muteApp at failed
  cases safe : isSafeSettingsKey packageName with
  | false =>
      have refused : validateSettingsKey packageName state =
          (.error (.request (.invalidRequest "invalid settings key".toList)), state) := by
        unfold validateSettingsKey
        rw [safe]
        rfl
      rw [bind_of_error refused] at failed
      cases failed
      exact .inl ⟨rfl, rfl⟩
  | true =>
      have valid : validateSettingsKey packageName state = (.ok (), state) := by
        unfold validateSettingsKey
        rw [safe]
        rfl
      rw [bind_of_ok valid] at failed
      refine .inr ⟨rfl, ?_⟩
      let mapped := state.setMutes (putScope state.volatileMutes packageName scope)
      cases fault : state.world.faults 0 with
      | some n =>
          have stuck : DaemonCore.applyMute packageName scope state =
              (.error (.store .sqlite), mapped.setWorld state.world.popFault) := by
            have world : setPackageMute packageName (mutedUntil scope) mapped.world =
                (.error .sqlite, state.world.popFault) := by
              show setPackageMute packageName (mutedUntil scope) state.world = _
              rw [setPackageMute, execute_run, fault]
            have lost : onStore (setPackageMute packageName (mutedUntil scope)) mapped =
                (.error (.store .sqlite), mapped.setWorld state.world.popFault) := by
              unfold onStore zoom
              rw [world]
            exact (bind_of_ok rfl).trans (bind_of_error lost)
          rw [bind_of_error stuck] at failed
          cases failed
          exact ⟨rfl, .inl ⟨Option.some_ne_none n, rfl, rfl⟩⟩
      | none =>
          let muted := mapped.setWorld (state.world.popFault.setDb
            (state.world.store.db.mutePackage packageName (mutedUntil scope)))
          have applied : DaemonCore.applyMute packageName scope state = (.ok (), muted) := by
            have world : setPackageMute packageName (mutedUntil scope) mapped.world =
                (.ok (state.world.store.db.groups.rows.countP fun row => row.packageName = packageName),
                  state.world.popFault.setDb
                    (state.world.store.db.mutePackage packageName (mutedUntil scope))) := by
              show setPackageMute packageName (mutedUntil scope) state.world = _
              rw [setPackageMute, execute_run, fault]
            exact (bind_of_ok rfl).trans (bind_of_ok (onStore_of_ok world))
          rw [bind_of_ok applied] at failed
          let mutate (document : ConfigDocument) : ConfigDocument :=
            document.putApp packageName { document.app packageName with mute := scope }
          rcases updated : core.configStore.update mutate muted.disk with ⟨result, disk⟩
          cases result with
          | ok document =>
              have saved : core.updateConfig mutate muted = (.ok document, muted.setDisk disk) :=
                onDisk_of_ok updated
              rw [bind_of_ok saved] at failed
              cases failed
          | error reason =>
              have lost : core.updateConfig mutate muted = (.error (.config reason), muted.setDisk disk) := by
                unfold DaemonCore.updateConfig onDisk zoom
                rw [updated]
              rw [bind_of_error lost] at failed
              cases failed
              exact ⟨rfl, .inr ⟨rfl, rfl, _, reason, updated⟩⟩

/-- A mute that fails leaves the map, the group rows and the configuration as they were exactly when there is
nothing to undo. -/
theorem failed_mute_unchanged_iff (failed : core.muteApp packageName scope state = (.error error, after)) :
    Unchanged core state after ↔ Harmless core state packageName scope := by
  rcases muteApp_failed failed with ⟨unsafe_, rfl⟩ | ⟨safe, mapped,
    stuck | ⟨quiet_, muted, mutate, reason, updated⟩⟩
  · exact ⟨fun _ => .inl unsafe_, fun _ => ⟨rfl, rfl, rfl⟩⟩
  · obtain ⟨fault, store, disk⟩ := stuck
    constructor
    · intro unchanged
      exact .inr ⟨putScope_eq_self.mp (mapped.symm.trans unchanged.mutes), .inl fault⟩
    · intro harmless
      obtain ⟨held, -⟩ := harmless.resolve_left (by simp [safe])
      exact ⟨mapped.trans (putScope_eq_self.mpr held), by rw [store], by rw [disk]⟩
  · obtain ⟨kept, moved⟩ := ConfigStore.update_failed updated
    constructor
    · intro unchanged
      refine .inr ⟨putScope_eq_self.mp (mapped.symm.trans unchanged.mutes), .inr ⟨?_, ?_⟩⟩
      · rw [← mutePackage_eq_self, ← muted]
        exact unchanged.groups
      · by_contra moves
        exact moves (.inl (unchanged.file.symm.trans (moved moves)))
    · intro harmless
      obtain ⟨held, fault | ⟨rows, keeps⟩⟩ := harmless.resolve_left (by simp [safe])
      · exact absurd quiet_ fault
      · exact ⟨mapped.trans (putScope_eq_self.mpr
          held), by rw [muted, mutePackage_eq_self.mpr rows], kept keeps⟩

end

/-- One app is muted in the map and in its group, and another one in the map; the configuration
cannot be written. -/
def mutedTwice : CoreState :=
  let mutes := putScope (putScope ∅ "game".toList .untilUnlock) "app".toList .untilRestart
  let stored := quietStep plainPlatform .empty (.insert oneByteCrash {} [] 0)
  let db := stored.db.mutePackage "app".toList (mutedUntil .untilRestart)
  ((CoreState.fresh.setMutes mutes).setWorld (quiet { stored with db })).facing noFaults
    fun n => if n = 3 then some 0 else none

theorem failed_mute_again_unchanged : ∃ error after,
    mutingCore.muteApp "app".toList .untilRestart mutedTwice = (.error error, after) ∧
      Unchanged mutingCore mutedTwice after ∧ mutedTwice.world.store.db.groups.rows.length = 1 := by
  have held : mutedTwice.volatileMutes["app".toList]? = entry .untilRestart := by
    show (putScope (putScope ∅ "game".toList .untilUnlock) "app".toList .untilRestart)["app".toList]? = _
    rw [getElem?_putScope, if_pos rfl]
  have harmless : Harmless mutingCore mutedTwice "app".toList .untilRestart :=
    .inr ⟨held, .inr ⟨by decide +kernel, .inl rfl⟩⟩
  have fails : (mutingCore.muteApp "app".toList .untilRestart mutedTwice).1.toBool = false := by decide +kernel
  cases ran : mutingCore.muteApp "app".toList .untilRestart mutedTwice with
  | mk result after => cases result with
    | error error => exact ⟨error, after, rfl, (failed_mute_unchanged_iff ran).mpr harmless, by decide +kernel⟩
    | ok answer =>
        rw [ran] at fails
        cases fails

/-- A mute that fails in the store is in force all the same. -/
theorem failed_mute_stays :
    ¬ ∀ core : DaemonCore, core.configStore.ReadsBack → ∀ state, Run core (fun _ _ => True) state →
      ∀ storeFaults diskFaults packageName scope error after,
        core.muteApp packageName scope (state.facing storeFaults diskFaults) = (.error error, after) →
          Unchanged core (state.facing storeFaults diskFaults) after := by
  intro always
  have started : Run mutingCore (fun _ _ => True) .fresh := @Run.startUp _ _ .fresh _ rfl trivial rfl
  have unchanged := always mutingCore mutingCore_readsBack .fresh started (fun _ => some 0) noFaults
    "app".toList .untilRestart _ _ rfl
  have muted : (putScope ∅ "app".toList .untilRestart)["app".toList]? = none :=
    (congrArg (fun mutes : Mutes => mutes["app".toList]?) unchanged.mutes).trans Std.ExtTreeMap.getElem?_empty
  rw [getElem?_putScope, if_pos rfl] at muted
  cases muted

end CrashCatcher.Daemon
