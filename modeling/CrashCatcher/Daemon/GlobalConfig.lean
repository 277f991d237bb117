import Mathlib.Tactic.MkIffOfInductiveProp
import CrashCatcher.Daemon.CorruptConfig
import CrashCatcher.Daemon.Ingest
import CrashCatcher.Wire.Request
import CrashCatcher.Wire.Response

namespace CrashCatcher.Config

open RetentionPolicy

namespace RetentionPatch

def apply (self : RetentionPatch) (base : RetentionPolicy) : RetentionPolicy :=
  RetentionPolicy.clamped {
    retentionDays := self.retentionDays.getD base.retentionDays
    maxRecordsPerGroup := self.maxRecordsPerGroup.getD base.maxRecordsPerGroup
    maxRecordsTotal := self.maxRecordsTotal.getD base.maxRecordsTotal
    maxPayloadBytesTotal := self.maxPayloadBytesTotal.getD base.maxPayloadBytesTotal
    maxPayloadBytesPerRecord := self.maxPayloadBytesPerRecord.getD base.maxPayloadBytesPerRecord }

@[mk_iff] structure InRange (patch : RetentionPatch) : Prop where
  retentionDays : ∀ days ∈ patch.retentionDays, minRetentionDays ≤ days ∧ days ≤ largestRetentionDays
  maxRecordsPerGroup : ∀ records ∈ patch.maxRecordsPerGroup,
    minRecordsPerGroup ≤ records ∧ records ≤ largestRecordsPerGroup
  maxRecordsTotal : ∀ records ∈ patch.maxRecordsTotal,
    minRecordsTotal ≤ records ∧ records ≤ largestRecordsTotal
  maxPayloadBytesTotal : ∀ bytes ∈ patch.maxPayloadBytesTotal,
    minPayloadBytesTotal ≤ bytes ∧ bytes ≤ largestPayloadBytesTotal
  maxPayloadBytesPerRecord : ∀ bytes ∈ patch.maxPayloadBytesPerRecord,
    minPayloadBytesPerRecord ≤ bytes ∧ bytes ≤ largestPayloadBytesPerRecord

@[mk_iff] structure Granted (patch : RetentionPatch) (policy : RetentionPolicy) : Prop where
  retentionDays : ∀ days ∈ patch.retentionDays, policy.retentionDays = days
  maxRecordsPerGroup : ∀ records ∈ patch.maxRecordsPerGroup, policy.maxRecordsPerGroup = records
  maxRecordsTotal : ∀ records ∈ patch.maxRecordsTotal, policy.maxRecordsTotal = records
  maxPayloadBytesTotal : ∀ bytes ∈ patch.maxPayloadBytesTotal, policy.maxPayloadBytesTotal = bytes
  maxPayloadBytesPerRecord : ∀ bytes ∈ patch.maxPayloadBytesPerRecord,
    policy.maxPayloadBytesPerRecord = bytes

theorem clampTo_eq_asked {low high : Nat} (ordered : low ≤ high) (asked : Option Nat) (base : Nat) :
    (∀ value ∈ asked, clampTo low high (asked.getD base) = value) ↔
      ∀ value ∈ asked, low ≤ value ∧ value ≤ high := by
  refine forall₂_congr fun value present => ?_
  obtain rfl : asked = some value := present
  show clampTo low high value = value ↔ _
  unfold clampTo
  omega

theorem granted_apply (patch : RetentionPatch) (base : RetentionPolicy) :
    patch.Granted (patch.apply base) ↔ patch.InRange := by
  rw [granted_iff, inRange_iff]
  exact and_congr (clampTo_eq_asked (by decide) _ _) <| and_congr (clampTo_eq_asked (by decide) _ _) <|
    and_congr (clampTo_eq_asked (by decide) _ _) <| and_congr (clampTo_eq_asked (by decide) _ _)
      (clampTo_eq_asked (by decide) _ _)

end RetentionPatch

namespace GlobalConfigPatch

def apply (self : GlobalConfigPatch) (base : GlobalConfig) : GlobalConfig where
  enabled := self.enabled.getD base.enabled
  captureJava := self.captureJava.getD base.captureJava
  captureAnr := self.captureAnr.getD base.captureAnr
  captureNative := self.captureNative.getD base.captureNative
  captureWtf := self.captureWtf.getD base.captureWtf
  captureSelfHandled := self.captureSelfHandled.getD base.captureSelfHandled
  notifyMode := self.notifyMode.getD base.notifyMode
  onlyForeground := self.onlyForeground.getD base.onlyForeground
  foregroundUnknownNotifies := self.foregroundUnknownNotifies.getD base.foregroundUnknownNotifies
  onlyMainProcess := self.onlyMainProcess.getD base.onlyMainProcess
  includeSystemApps := self.includeSystemApps.getD base.includeSystemApps
  takeoverSystemDialog := self.takeoverSystemDialog.getD base.takeoverSystemDialog
  debugLogging := self.debugLogging.getD base.debugLogging
  retention := self.retention.apply base.retention

structure Granted (patch : GlobalConfigPatch) (config : GlobalConfig) : Prop where
  enabled : ∀ value ∈ patch.enabled, config.enabled = value
  captureJava : ∀ value ∈ patch.captureJava, config.captureJava = value
  captureAnr : ∀ value ∈ patch.captureAnr, config.captureAnr = value
  captureNative : ∀ value ∈ patch.captureNative, config.captureNative = value
  captureWtf : ∀ value ∈ patch.captureWtf, config.captureWtf = value
  captureSelfHandled : ∀ value ∈ patch.captureSelfHandled, config.captureSelfHandled = value
  notifyMode : ∀ value ∈ patch.notifyMode, config.notifyMode = value
  onlyForeground : ∀ value ∈ patch.onlyForeground, config.onlyForeground = value
  foregroundUnknownNotifies : ∀ value ∈ patch.foregroundUnknownNotifies,
    config.foregroundUnknownNotifies = value
  onlyMainProcess : ∀ value ∈ patch.onlyMainProcess, config.onlyMainProcess = value
  includeSystemApps : ∀ value ∈ patch.includeSystemApps, config.includeSystemApps = value
  takeoverSystemDialog : ∀ value ∈ patch.takeoverSystemDialog, config.takeoverSystemDialog = value
  debugLogging : ∀ value ∈ patch.debugLogging, config.debugLogging = value
  retention : patch.retention.Granted config.retention

theorem getD_eq_asked {α : Type} {asked : Option α} (base : α) : ∀ value ∈ asked, asked.getD base = value := by
  rintro value rfl
  rfl

theorem granted_apply (patch : GlobalConfigPatch) (base : GlobalConfig) :
    patch.Granted (patch.apply base) ↔ patch.retention.InRange := by
  rw [← patch.retention.granted_apply base.retention]
  refine ⟨Granted.retention, fun granted => ?_⟩
  constructor
  case retention => exact granted
  all_goals exact getD_eq_asked _

@[simp] theorem normalized_apply (patch : GlobalConfigPatch) (base : GlobalConfig) :
    (patch.apply base).normalized = patch.apply base := by
  unfold GlobalConfig.normalized apply RetentionPatch.apply
  rw [clamped_clamped]

end GlobalConfigPatch
end CrashCatcher.Config

namespace CrashCatcher.Daemon
open Lib Config Fallible

namespace DaemonCore
variable (self : DaemonCore)

/-- `others` is what other threads do between the two times that the configuration is locked. -/
def setGlobalConfig (others : CoreState → CoreState) (patch : GlobalConfigPatch) :
    CoreM Wire.Rpc.GlobalConfigResult := do
  let before ← self.loadConfig
  let requested := patch.apply before.global
  Fallible.update others
  let stored ← self.updateConfig fun document =>
    { document with global := patch.apply document.global }
  perform (.setDebug stored.global.debugLogging)
  perform .configChanged
  pure { adjusted := requested ≠ stored.global, config := stored.global }

variable {self}

theorem setGlobalConfig_answers {others : CoreState → CoreState} {patch : GlobalConfigPatch}
    {state reading after : CoreState} {disk : Disk} {before start : ConfigDocument}
    {result : Wire.Rpc.GlobalConfigResult} (read : self.loadConfig state = (.ok before, reading))
    (reread : self.configStore.loadOrRecover (others reading).disk = (.ok start, disk))
    (called : self.setGlobalConfig others patch state = (.ok result, after)) :
    result.config = patch.apply start.global ∧
      (result.adjusted = true ↔ patch.apply before.global ≠ patch.apply start.global) := by
  let mutate (document : ConfigDocument) : ConfigDocument :=
    { document with global := patch.apply document.global }
  have others_run : (Fallible.update others : CoreM Unit) reading = (.ok (), others reading) := rfl
  unfold setGlobalConfig at called
  rw [bind_of_ok read, bind_of_ok others_run] at called
  rcases saved : self.configStore.save (mutate start).normalized disk with ⟨outcome, written⟩
  cases outcome with
  | error error =>
      have failed : self.configStore.update mutate (others reading).disk = (.error error, written) := by
        unfold ConfigStore.update
        rw [bind_of_ok reread, bind_of_error saved]
      have lost : self.updateConfig mutate (others reading) =
          (.error (.config error), (others reading).setDisk written) := by
        unfold updateConfig onDisk zoom
        rw [failed]
      rw [bind_of_error lost] at called
      cases called
  | ok _ =>
      have updated : self.configStore.update mutate (others reading).disk =
          (.ok (mutate start).normalized, written) := by
        unfold ConfigStore.update
        rw [bind_of_ok reread, bind_of_ok saved]
        rfl
      have stored : self.updateConfig mutate (others reading) =
          (.ok (mutate start).normalized, (others reading).setDisk written) := onDisk_of_ok updated
      have global : (mutate start).normalized.global = patch.apply start.global :=
        patch.normalized_apply start.global
      rw [bind_of_ok stored, global] at called
      cases called
      exact ⟨rfl, by simp⟩

/-- The flag is true of a call exactly when every value asked for is supported and the configuration was the
same at both readings, as far as the patch leaves it, or neither of the two. -/
theorem adjusted_truthful_iff (others : CoreState → CoreState) (patch : GlobalConfigPatch)
    {state reading after : CoreState} {disk : Disk} {before start : ConfigDocument}
    {result : Wire.Rpc.GlobalConfigResult} (read : self.loadConfig state = (.ok before, reading))
    (reread : self.configStore.loadOrRecover (others reading).disk = (.ok start, disk))
    (called : self.setGlobalConfig others patch state = (.ok result, after)) :
    (result.adjusted = true ↔ ¬ patch.Granted result.config) ↔
      (patch.apply before.global = patch.apply start.global ↔ patch.retention.InRange) := by
  obtain ⟨config, adjusted⟩ := setGlobalConfig_answers read reread called
  rw [config, adjusted, patch.granted_apply]
  exact not_iff_not

theorem setGlobalConfig_undisturbed (prints : ∀ document,
    (self.configStore.serde.toStringPretty document).isSome)
    (patch : GlobalConfigPatch) {state : CoreState} {files : Str → Option (List UInt8)}
      {config : ConfigDocument}
    (works : state.disk = .working files) (parsed : self.configStore.parse files = .ok config) :
    ∃ result after, self.setGlobalConfig id patch state = (.ok result, after) ∧
      result.config = patch.apply config.global ∧ result.adjusted = false := by
  let mutate (document : ConfigDocument) : ConfigDocument :=
    { document with global := patch.apply document.global }
  have loaded : self.configStore.load state.disk = (.ok config, state.disk) := by
    rw [works, ConfigStore.load_working, parsed]
  have read : self.loadConfig state = (.ok config, state) := onDisk_of_ok loaded
  have reread : self.configStore.loadOrRecover (id state).disk = (.ok config, state.disk) := by
    unfold ConfigStore.loadOrRecover Fallible.recover
    rw [id, loaded]
  obtain ⟨document, disk, updated⟩ := ConfigStore.update_working mutate parsed (prints _)
  have stored : self.updateConfig mutate (id state) = (.ok document, (id state).setDisk disk) := by
    refine onDisk_of_ok ?_
    rw [id, works]
    exact updated
  have undisturbed : (Fallible.update id : CoreM Unit) state = (.ok (), id state) := rfl
  have called : ∃ result after, self.setGlobalConfig id patch state = (.ok result, after) :=
    ⟨_, _, (bind_of_ok read).trans ((bind_of_ok undisturbed).trans (bind_of_ok stored))⟩
  obtain ⟨result, after, called⟩ := called
  obtain ⟨answered, adjusted⟩ := setGlobalConfig_answers read reread called
  refine ⟨result, after, called, answered, ?_⟩
  rw [← Bool.not_eq_true, adjusted, not_not]

theorem setGlobalConfig_fresh (patch : GlobalConfigPatch) : ∃ result after,
    (plain .printing).setGlobalConfig id patch .fresh = (.ok result, after) ∧
      result.config = patch.apply {} ∧ result.adjusted = false := by
  have missing : (plain .printing).configStore.parse (fun _ => none) = .ok {} := rfl
  exact setGlobalConfig_undisturbed (fun _ => rfl) patch rfl missing

theorem adjusted_truthful_week : ∃ result after,
    (plain .printing).setGlobalConfig id { retention := { retentionDays := some 7 } } .fresh =
      (.ok result, after) ∧
    (result.adjusted = true ↔
      ¬ ({ retention := { retentionDays := some 7 } } : GlobalConfigPatch).Granted result.config) := by
  obtain ⟨result, after, called, -⟩ := setGlobalConfig_fresh { retention := { retentionDays := some 7 } }
  refine ⟨result, after, called, (adjusted_truthful_iff id _ rfl rfl called).mpr (iff_of_true rfl ?_)⟩
  constructor <;> rintro value ⟨⟩
  decide

/-- No day of retention is asked for, one is stored, and the answer says that nothing was adjusted. -/
theorem no_days_not_adjusted : ∃ result after,
    (plain .printing).setGlobalConfig id { retention := { retentionDays := some 0 } } .fresh =
      (.ok result, after) ∧
    result.config.retention.retentionDays = 1 ∧ result.adjusted = false ∧
    ¬ (result.adjusted = true ↔
      ¬ ({ retention := { retentionDays := some 0 } } : GlobalConfigPatch).Granted result.config) := by
  obtain ⟨result, after, called, config, adjusted⟩ :=
    setGlobalConfig_fresh { retention := { retentionDays := some 0 } }
  have stored : result.config.retention.retentionDays = 1 := by
    rw [config]
    rfl
  refine ⟨result, after, called, stored, adjusted, fun truthful => ?_⟩
  have refused (granted : ({ retention := { retentionDays := some 0 } } : GlobalConfigPatch).Granted
    result.config) :
      False := by
    have asked := granted.retention.retentionDays 0 rfl
    rw [stored] at asked
    cases asked
  rw [truthful.mpr refused] at adjusted
  cases adjusted

end DaemonCore
end CrashCatcher.Daemon
