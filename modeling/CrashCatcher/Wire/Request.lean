import CrashCatcher.Config.Document
import CrashCatcher.Lib.Serde
import CrashCatcher.Wire.Cursor

namespace CrashCatcher.Config
open Lib Lib.Json Serde

structure RetentionPatch where
  retentionDays : Option Nat := none
  maxRecordsPerGroup : Option Nat := none
  maxRecordsTotal : Option Nat := none
  maxPayloadBytesTotal : Option Nat := none
  maxPayloadBytesPerRecord : Option Nat := none

structure GlobalConfigPatch where
  enabled : Option Bool := none
  captureJava : Option Bool := none
  captureAnr : Option Bool := none
  captureNative : Option Bool := none
  captureWtf : Option Bool := none
  captureSelfHandled : Option Bool := none
  notifyMode : Option NotifyMode := none
  onlyForeground : Option Bool := none
  foregroundUnknownNotifies : Option Bool := none
  onlyMainProcess : Option Bool := none
  includeSystemApps : Option Bool := none
  takeoverSystemDialog : Option Bool := none
  debugLogging : Option Bool := none
  retention : RetentionPatch := {}

def NotifyMode.all : List NotifyMode := [.dialog, .notification, .toast, .nothing]
def MuteScope.all : List MuteScope := [.none, .untilUnlock, .untilRestart]

def NotifyMode.deserialize : Json → Option NotifyMode := unitVariant NotifyMode.all NotifyMode.text
def MuteScope.deserialize : Json → Option MuteScope := unitVariant MuteScope.all MuteScope.text

def RetentionPatch.deserialize : Json → Option RetentionPatch :=
  struct ["retention_days", "max_records_per_group", "max_records_total", "max_payload_bytes_total",
    "max_payload_bytes_per_record"] fun retentionDays maxRecordsPerGroup maxRecordsTotal
        maxPayloadBytesTotal maxPayloadBytesPerRecord => do
    return {
      retentionDays := ← defaulted none (option u32) retentionDays
      maxRecordsPerGroup := ← defaulted none (option u32) maxRecordsPerGroup
      maxRecordsTotal := ← defaulted none (option u32) maxRecordsTotal
      maxPayloadBytesTotal := ← defaulted none (option u64) maxPayloadBytesTotal
      maxPayloadBytesPerRecord := ← defaulted none (option u64) maxPayloadBytesPerRecord }

def GlobalConfigPatch.deserialize : Json → Option GlobalConfigPatch :=
  struct ["enabled", "capture_java", "capture_anr", "capture_native", "capture_wtf", "capture_self_handled",
    "notify_mode", "only_foreground", "foreground_unknown_notifies", "only_main_process",
    "include_system_apps", "takeover_system_dialog", "debug_logging", "retention"] fun enabled
        captureJava captureAnr captureNative captureWtf captureSelfHandled notifyMode onlyForeground
        foregroundUnknownNotifies onlyMainProcess includeSystemApps takeoverSystemDialog debugLogging
        retention => do
    return {
      enabled := ← defaulted none (option bool) enabled
      captureJava := ← defaulted none (option bool) captureJava
      captureAnr := ← defaulted none (option bool) captureAnr
      captureNative := ← defaulted none (option bool) captureNative
      captureWtf := ← defaulted none (option bool) captureWtf
      captureSelfHandled := ← defaulted none (option bool) captureSelfHandled
      notifyMode := ← defaulted none (option NotifyMode.deserialize) notifyMode
      onlyForeground := ← defaulted none (option bool) onlyForeground
      foregroundUnknownNotifies := ← defaulted none (option bool) foregroundUnknownNotifies
      onlyMainProcess := ← defaulted none (option bool) onlyMainProcess
      includeSystemApps := ← defaulted none (option bool) includeSystemApps
      takeoverSystemDialog := ← defaulted none (option bool) takeoverSystemDialog
      debugLogging := ← defaulted none (option bool) debugLogging
      retention := ← defaulted {} RetentionPatch.deserialize retention }

/-- `null` clears the mode, and no member leaves it alone. -/
def doubleOption {α : Type} (read : Json → Option α) (json : Json) : Option (Option (Option α)) :=
  (option read json).map some

def AppConfigPatch.deserialize : Json → Option AppConfigPatch :=
  struct ["notify_mode", "ignore", "mute"] fun notifyMode ignore mute => do
    return {
      notifyMode := ← defaulted none (doubleOption NotifyMode.deserialize) notifyMode
      ignore := ← defaulted none (option bool) ignore
      mute := ← defaulted none (option MuteScope.deserialize) mute }

end CrashCatcher.Config

namespace CrashCatcher.Wire
open Lib Lib.Json Model Config Serde

/-- A record id is not validated where it is read. -/
def recordId (json : Json) : Option RecordId := (string json).map RecordId.mk

def Cursor.deserialize (json : Json) : Option Cursor := do (Cursor.fromStr (← string json)).toOption

def allKinds : List CrashKind := [.javaException, .anr, .nativeCrash, .wtf]
def SortKey.all : List SortKey := [.lastSeenDesc, .firstSeenDesc, .occurrenceDesc, .packageAsc]
def ExportFormat.all : List ExportFormat := [.text, .json]

def ExportFormat.name : ExportFormat → Str
  | text => "text".toList
  | json => "json".toList

def CrashFilter.deserialize : Json → Option CrashFilter :=
  struct ["packages", "kinds", "user_ids", "time_from_ms", "time_to_ms", "include_system_apps",
    "include_system_processes", "only_main_process", "only_self_handled", "query"] fun packages kinds
        userIds timeFromMs timeToMs includeSystemApps includeSystemProcesses onlyMainProcess
        onlySelfHandled query => do
    return {
      packages := ← defaulted [] (list string) packages
      kinds := ← defaulted [] (list (unitVariant allKinds kindName)) kinds
      userIds := ← defaulted [] (list i32) userIds
      timeFromMs := ← defaulted none (option i64) timeFromMs
      timeToMs := ← defaulted none (option i64) timeToMs
      includeSystemApps := ← defaulted false bool includeSystemApps
      includeSystemProcesses := ← defaulted false bool includeSystemProcesses
      onlyMainProcess := ← defaulted false bool onlyMainProcess
      onlySelfHandled := ← defaulted false bool onlySelfHandled
      query := ← defaulted none (option string) query }

def PageRequest.deserialize : Json → Option PageRequest :=
  struct ["filter", "sort", "cursor", "limit"] fun filter sort cursor limit => do
    return {
      filter := ← defaulted {} CrashFilter.deserialize filter
      sort := ← defaulted .lastSeenDesc (unitVariant SortKey.all SortKey.name) sort
      cursor := ← defaulted none (option Cursor.deserialize) cursor
      limit := ← defaulted 0 u32 limit }

namespace Rpc

structure ExportRedaction where
  hideDeviceBrand : Bool := false
  hideDeviceModel : Bool := false
  hideBuildDisplayId : Bool := false
  hidePackageName : Bool := false

def ExportRedaction.deserialize : Json → Option ExportRedaction :=
  struct ["hide_device_brand", "hide_device_model", "hide_build_display_id", "hide_package_name"] fun
        hideDeviceBrand hideDeviceModel hideBuildDisplayId hidePackageName => do
    return {
      hideDeviceBrand := ← defaulted false bool hideDeviceBrand
      hideDeviceModel := ← defaulted false bool hideDeviceModel
      hideBuildDisplayId := ← defaulted false bool hideBuildDisplayId
      hidePackageName := ← defaulted false bool hidePackageName }

inductive DeleteTarget where
  | ids (ids : List RecordId)
  | group (groupId : Str)
  | all

def DeleteTarget.deserialize : Json → Option DeleteTarget :=
  enum "target" [
    ("ids", fields ["ids"] fun records => do return .ids (← required (list recordId) records)),
    ("group", fields ["group_id"] fun groupId => do return .group (← required string groupId)),
    ("all", fun _ => some .all)]

inductive Request where
  | handshake (protocolVersion : Nat) (clientVersion : Str)
  | moduleStatus
  | listGroups (page : PageRequest)
  | getGroup (groupId : Str)
  | listRecords (groupId : Str) (page : PageRequest)
  | getRecord (id : RecordId)
  | openPayload (id : RecordId)
  | readPayload (handle offset len : Nat)
  | closePayload (handle : Nat)
  | exportRecords (ids : List RecordId) (format : ExportFormat) (redaction : ExportRedaction)
  | deleteRecords (target : DeleteTarget)
  | getGlobalConfig
  | setGlobalConfig (patch : GlobalConfigPatch)
  | getAppConfig (packageName : Str)
  | setAppConfig (packageName : Str) (patch : AppConfigPatch)
  | listApps (includeSystemApps includeSystemProcesses : Bool) (query : Option Str) (limit : Nat)
  | stats (timeFromMs timeToMs : Option I64) (bucketMs : I64)
  | reopenApp (packageName : Str) (userId : Int)
  | muteApp (packageName : Str) (scope : MuteScope)
  | dismissNotification (recordId : RecordId)
  | setDialogTakeover (enabled : Bool)
  | readRuntimeLog (name : Option Str) (maxBytes : Nat)

def Request.variants : List (String × (List (Str × Json) → Option Request)) := [
  ("handshake", fields ["protocol_version", "client_version"] fun protocolVersion clientVersion => do
      return .handshake (← required u32 protocolVersion) (← required string clientVersion)),
  ("module_status", fun _ => some .moduleStatus),
  ("list_groups", fields ["page"] fun page => do
      return .listGroups (← defaulted {} PageRequest.deserialize page)),
  ("get_group", fields ["group_id"] fun groupId => do return .getGroup (← required string groupId)),
  ("list_records", fields ["group_id", "page"] fun groupId page => do
      return .listRecords (← required string groupId) (← defaulted {} PageRequest.deserialize page)),
  ("get_record", fields ["id"] fun id => do return .getRecord (← required recordId id)),
  ("open_payload", fields ["id"] fun id => do return .openPayload (← required recordId id)),
  ("read_payload", fields ["handle", "offset", "len"] fun handle offset len => do
      return .readPayload (← required u64 handle) (← required u64 offset) (← required u32 len)),
  ("close_payload", fields ["handle"] fun handle => do return .closePayload (← required u64 handle)),
  ("export_records", fields ["ids", "format", "redaction"] fun ids format redaction => do
      return .exportRecords (← required (list recordId) ids)
          (← required (unitVariant ExportFormat.all ExportFormat.name) format)
          (← defaulted {} ExportRedaction.deserialize redaction)),
  -- The target is flattened: it is read from the members beside the method.
  ("delete_records", fun members => do return .deleteRecords (← DeleteTarget.deserialize (.obj members))),
  ("get_global_config", fun _ => some .getGlobalConfig),
  ("set_global_config", fields ["patch"] fun patch => do
      return .setGlobalConfig (← required GlobalConfigPatch.deserialize patch)),
  ("get_app_config", fields ["package_name"] fun packageName => do
      return .getAppConfig (← required string packageName)),
  ("set_app_config", fields ["package_name", "patch"] fun packageName patch => do
      return .setAppConfig (← required string packageName) (← required AppConfigPatch.deserialize patch)),
  ("list_apps", fields ["include_system_apps", "include_system_processes", "query", "limit"] fun
        includeSystemApps includeSystemProcesses query limit => do
      return .listApps (← defaulted false bool includeSystemApps)
          (← defaulted false bool includeSystemProcesses)
          (← defaulted none (option string) query) (← defaulted 0 u32 limit)),
  ("stats", fields ["time_from_ms", "time_to_ms", "bucket_ms"] fun timeFromMs timeToMs bucketMs => do
      return .stats (← defaulted none (option i64) timeFromMs) (← defaulted none (option i64) timeToMs)
          (← defaulted 0 i64 bucketMs)),
  ("reopen_app", fields ["package_name", "user_id"] fun packageName userId => do
      return .reopenApp (← required string packageName) (← required i32 userId)),
  ("mute_app", fields ["package_name", "scope"] fun packageName scope => do
      return .muteApp (← required string packageName) (← required MuteScope.deserialize scope)),
  ("dismiss_notification", fields ["record_id"] fun id => do
      return .dismissNotification (← required recordId id)),
  ("set_dialog_takeover", fields ["enabled"] fun enabled => do
      return .setDialogTakeover (← required bool enabled)),
  ("read_runtime_log", fields ["name", "max_bytes"] fun name maxBytes => do
      return .readRuntimeLog (← defaulted none (option string) name) (← defaulted 0 u64 maxBytes))]

def Request.deserialize : Json → Option Request := enum "method" variants

structure RequestEnvelope where
  seq : Nat
  request : Request

def RequestEnvelope.deserialize : Json → Option RequestEnvelope :=
  struct ["seq", "request"] fun seq request => do
      return { seq := ← required u64 seq, request := ← required Request.deserialize request }

end Rpc
end CrashCatcher.Wire
