import Std.Data.ExtTreeMap
import CrashCatcher.Lib.Json

namespace CrashCatcher.Config
open Lib

def configSchemaVersion : Nat := 1

inductive NotifyMode where
  | dialog
  | notification
  | toast
  | nothing
deriving DecidableEq, Repr

inductive MuteScope where
  | none
  | untilUnlock
  | untilRestart
deriving DecidableEq, Repr

structure RetentionPolicy where
  retentionDays : Nat := 30
  maxRecordsPerGroup : Nat := 20
  maxRecordsTotal : Nat := 2000
  maxPayloadBytesTotal : Nat := 256 * 1024 * 1024
  maxPayloadBytesPerRecord : Nat := 2 * 1024 * 1024
deriving DecidableEq, Repr

namespace RetentionPolicy

def minRetentionDays : Nat := 1
def minRecordsPerGroup : Nat := 1
def minRecordsTotal : Nat := 50
def minPayloadBytesTotal : Nat := 8 * 1024 * 1024
def minPayloadBytesPerRecord : Nat := 64 * 1024
def largestRetentionDays : Nat := 365
def largestRecordsPerGroup : Nat := 500
def largestRecordsTotal : Nat := 100000
def largestPayloadBytesTotal : Nat := 8 * 1024 * 1024 * 1024
def largestPayloadBytesPerRecord : Nat := 64 * 1024 * 1024

def clampTo (low high value : Nat) : Nat := max low (min value high)

def clamped (policy : RetentionPolicy) : RetentionPolicy where
  retentionDays := clampTo minRetentionDays largestRetentionDays policy.retentionDays
  maxRecordsPerGroup := clampTo minRecordsPerGroup largestRecordsPerGroup policy.maxRecordsPerGroup
  maxRecordsTotal := clampTo minRecordsTotal largestRecordsTotal policy.maxRecordsTotal
  maxPayloadBytesTotal :=
    clampTo minPayloadBytesTotal largestPayloadBytesTotal policy.maxPayloadBytesTotal
  maxPayloadBytesPerRecord :=
    clampTo minPayloadBytesPerRecord largestPayloadBytesPerRecord policy.maxPayloadBytesPerRecord

theorem clampTo_idem {low high : Nat} (h : low ≤ high) (value : Nat) :
    clampTo low high (clampTo low high value) = clampTo low high value := by
  unfold clampTo
  omega

@[simp] theorem clamped_clamped (policy : RetentionPolicy) : policy.clamped.clamped = policy.clamped := by
  unfold clamped
  rw [clampTo_idem (by decide), clampTo_idem (by decide), clampTo_idem (by decide),
    clampTo_idem (by decide), clampTo_idem (by decide)]

end RetentionPolicy

structure GlobalConfig where
  enabled : Bool := true
  captureJava : Bool := true
  captureAnr : Bool := true
  captureNative : Bool := true
  captureWtf : Bool := false
  captureSelfHandled : Bool := true
  notifyMode : NotifyMode := .notification
  onlyForeground : Bool := false
  foregroundUnknownNotifies : Bool := true
  onlyMainProcess : Bool := false
  includeSystemApps : Bool := false
  takeoverSystemDialog : Bool := false
  debugLogging : Bool := false
  retention : RetentionPolicy := {}
deriving DecidableEq, Repr

def GlobalConfig.normalized (config : GlobalConfig) : GlobalConfig :=
  { config with retention := config.retention.clamped }

structure AppConfig where
  notifyMode : Option NotifyMode := none
  ignore : Bool := false
  mute : MuteScope := .none
deriving DecidableEq, Repr

def AppConfig.isDefault (config : AppConfig) : Bool := config = {}

abbrev Apps := Std.ExtTreeMap Str AppConfig compare

structure ConfigDocument where
  schemaVersion : Nat := configSchemaVersion
  global : GlobalConfig := {}
  apps : Apps := ∅
deriving DecidableEq

namespace ConfigDocument

/-- Clamps values and drops overrides that say nothing. -/
def normalized (document : ConfigDocument) : ConfigDocument where
  schemaVersion := configSchemaVersion
  global := document.global.normalized
  apps := document.apps.filter fun _ config => !config.isDefault

def app (document : ConfigDocument) (package : Str) : AppConfig := document.apps[package]?.getD {}

def effectiveNotifyMode (document : ConfigDocument) (package : Str) : NotifyMode :=
  if (document.app package).ignore then .nothing
  else (document.app package).notifyMode.getD document.global.notifyMode

def shouldRecord (document : ConfigDocument) (package : Str)
    (isSystemApp isMainProcess selfHandled : Bool) : Bool :=
  if !document.global.enabled || (document.app package).ignore then false
  else if isSystemApp && !document.global.includeSystemApps then false
  else if document.global.onlyMainProcess && !isMainProcess then false
  else if selfHandled && !document.global.captureSelfHandled then false
  else true

def shouldNotify (document : ConfigDocument) (package : Str) (isForeground : Option Bool) : Bool :=
  if document.effectiveNotifyMode package = .nothing then false
  else if !document.global.onlyForeground then true
  else isForeground.getD document.global.foregroundUnknownNotifies

def putApp (document : ConfigDocument) (package : Str) (config : AppConfig) : ConfigDocument :=
  if config.isDefault then { document with apps := document.apps.erase package }
  else { document with apps := document.apps.insert package config }

theorem app_putApp (document : ConfigDocument) (package other : Str) (config : AppConfig) :
    (document.putApp package config).app other = if package = other then config else document.app other := by
  unfold putApp app
  split
  next default =>
    rw [Std.ExtTreeMap.getElem?_erase]
    by_cases same : package = other
    · rw [if_pos same, if_pos (Std.compare_eq_iff_eq.mpr same)]
      exact (of_decide_eq_true default).symm
    · rw [if_neg same, if_neg (by simpa using same)]
  next =>
    rw [Std.ExtTreeMap.getElem?_insert]
    by_cases same : package = other
    · rw [if_pos same, if_pos (Std.compare_eq_iff_eq.mpr same)]
      rfl
    · rw [if_neg same, if_neg (by simpa using same)]

@[simp] theorem app_normalized (document : ConfigDocument) (package : Str) :
    document.normalized.app package = document.app package := by
  unfold normalized app
  rw [Std.ExtTreeMap.getElem?_filter']
  cases stored : document.apps[package]? with
  | none => rfl
  | some config =>
      by_cases default : config = {}
      · rw [default]
        rfl
      · rw [Option.filter_some, if_pos (by simpa [AppConfig.isDefault] using default)]

@[simp] theorem normalized_normalized (document : ConfigDocument) :
    document.normalized.normalized = document.normalized := by
  have apps : (document.apps.filter fun _ config => !config.isDefault).filter (fun _ config =>
      !config.isDefault) = document.apps.filter fun _ config => !config.isDefault := by
    refine Std.ExtTreeMap.ext_getElem? fun package => ?_
    rw [Std.ExtTreeMap.getElem?_filter', Std.ExtTreeMap.getElem?_filter', Option.filter_filter]
    simp only [Bool.and_self]
  unfold normalized
  rw [apps]
  simp [GlobalConfig.normalized]

end ConfigDocument

/-- A partial update of one app's overrides; `some none` clears its notification mode. -/
structure AppConfigPatch where
  notifyMode : Option (Option NotifyMode) := none
  ignore : Option Bool := none
  mute : Option MuteScope := none
deriving DecidableEq

def AppConfigPatch.apply (patch : AppConfigPatch) (base : AppConfig) : AppConfig where
  notifyMode := patch.notifyMode.getD base.notifyMode
  ignore := patch.ignore.getD base.ignore
  mute := patch.mute.getD base.mute

/-! What is written to the file. -/

def NotifyMode.text : NotifyMode → Str
  | .dialog => "dialog".toList
  | .notification => "notification".toList
  | .toast => "toast".toList
  | .nothing => "nothing".toList

def MuteScope.text : MuteScope → Str
  | .none => "none".toList
  | .untilUnlock => "until_unlock".toList
  | .untilRestart => "until_restart".toList

def RetentionPolicy.toJson (self : RetentionPolicy) : Json :=
  .obj [
    ("retention_days".toList, .num self.retentionDays),
    ("max_records_per_group".toList, .num self.maxRecordsPerGroup),
    ("max_records_total".toList, .num self.maxRecordsTotal),
    ("max_payload_bytes_total".toList, .num self.maxPayloadBytesTotal),
    ("max_payload_bytes_per_record".toList, .num self.maxPayloadBytesPerRecord)]

def GlobalConfig.toJson (self : GlobalConfig) : Json :=
  .obj [
    ("enabled".toList, .bool self.enabled),
    ("capture_java".toList, .bool self.captureJava),
    ("capture_anr".toList, .bool self.captureAnr),
    ("capture_native".toList, .bool self.captureNative),
    ("capture_wtf".toList, .bool self.captureWtf),
    ("capture_self_handled".toList, .bool self.captureSelfHandled),
    ("notify_mode".toList, .str self.notifyMode.text),
    ("only_foreground".toList, .bool self.onlyForeground),
    ("foreground_unknown_notifies".toList, .bool self.foregroundUnknownNotifies),
    ("only_main_process".toList, .bool self.onlyMainProcess),
    ("include_system_apps".toList, .bool self.includeSystemApps),
    ("takeover_system_dialog".toList, .bool self.takeoverSystemDialog),
    ("debug_logging".toList, .bool self.debugLogging),
    ("retention".toList, self.retention.toJson)]

def AppConfig.toJson (self : AppConfig) : Json :=
  .obj [
    ("notify_mode".toList, Json.optional (fun mode => .str mode.text) self.notifyMode),
    ("ignore".toList, .bool self.ignore),
    ("mute".toList, .str self.mute.text)]

def ConfigDocument.toJson (self : ConfigDocument) : Json :=
  .obj [
    ("schema_version".toList, .num self.schemaVersion),
    ("global".toList, self.global.toJson),
    ("apps".toList, .obj (self.apps.toList.map fun app => (app.1, app.2.toJson)))]

end CrashCatcher.Config
