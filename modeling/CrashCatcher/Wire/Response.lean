import CrashCatcher.Config.Document
import CrashCatcher.Wire.Event
import CrashCatcher.Wire.Rpc

namespace CrashCatcher.Wire
open Lib Lib.Json Model Store Config

/-! What serde writes for the parts of the module's status. -/

def CollectorSource.name : CollectorSource → Str
  | events => "events".toList
  | crashBuffer => "crash_buffer".toList
  | dropbox => "dropbox".toList
  | tombstone => "tombstone".toList
  | anrFile => "anr_file".toList

def codecName : PayloadCodec → Str
  | .raw => "raw".toList
  | .zstd => "zstd".toList

def timeJson (time : I64) : Json := .num time.val

def CollectorHealth.toJson (self : CollectorHealth) : Json :=
  .obj [
    ("source".toList, .str self.source.name),
    ("enabled".toList, .bool self.enabled),
    ("ever_received".toList, .bool self.everReceived),
    ("last_received_ms".toList, optional timeJson self.lastReceivedMs),
    ("detail".toList, optional .str self.detail)]

def DialogTakeoverStatus.toJson (self : DialogTakeoverStatus) : Json :=
  .obj [
    ("requested".toList, .bool self.requested),
    ("effective".toList, .bool self.effective),
    ("anr_show_background_conflict".toList, .bool self.anrShowBackgroundConflict),
    ("unsupported_reason".toList, optional .str self.unsupportedReason)]

def StorageStatus.toJson (self : StorageStatus) : Json :=
  .obj [
    ("group_count".toList, .num self.groupCount.toNat),
    ("record_count".toList, .num self.recordCount.toNat),
    ("payload_bytes".toList, .num self.payloadBytes.toNat),
    ("database_bytes".toList, .num self.databaseBytes.toNat),
    ("evicted_payload_count".toList, .num self.evictedPayloadCount.toNat)]

def PackageIndexFacts.toJson (self : PackageIndexFacts) : Json :=
  .obj [
    ("package_count".toList, .num self.packageCount.toNat),
    ("system_flags_known".toList, .bool self.systemFlagsKnown)]

def BridgeFacts.toJson (self : BridgeFacts) : Json :=
  .obj [
    ("connected".toList, .bool self.connected),
    ("version".toList, optional .str self.version),
    ("android_sdk".toList, optional (fun sdk => .num sdk.toNat) self.androidSdk)]

def RuntimeFacts.toJson (self : RuntimeFacts) : Json :=
  .obj [
    ("pid".toList, .num self.pid.toNat),
    ("abi".toList, .str self.abi),
    ("android_sdk".toList, .num self.androidSdk.toNat),
    ("selinux".toList, .str self.selinux),
    ("store_schema_version".toList, timeJson self.storeSchemaVersion),
    ("debug_logging".toList, .bool self.debugLogging),
    ("package_index".toList, self.packageIndex.toJson),
    ("bridge".toList, self.bridge.toJson),
    ("active_mutes".toList, .num self.activeMutes.toNat)]

def ModuleStatus.members (self : ModuleStatus) : List (Str × Json) := [
  ("daemon_version".toList, .str self.daemonVersion),
  ("protocol_version".toList, .num self.protocolVersion.toNat),
  ("uptime_ms".toList, timeJson self.uptimeMs),
  ("collectors".toList, .arr (self.collectors.map CollectorHealth.toJson)),
  ("bridge_connected".toList, .bool self.bridgeConnected),
  ("dialog_takeover".toList, self.dialogTakeover.toJson),
  ("storage".toList, self.storage.toJson),
  ("runtime".toList, self.runtime.toJson)]

def ModuleStatus.toJson (self : ModuleStatus) : Json := .obj self.members

/-- An internally tagged variant: a newtype variant's members stand beside the tag. -/
def Event.toJson (self : Event) : Json :=
  let tagged (tag : String) (members : List (Str × Json)) : Json :=
    .obj (("event".toList, .str tag.toList) :: members)
  match self with
  | crashRecorded record group isNewGroup =>
      tagged "crash_recorded" [
        ("record".toList, recordJson record),
        ("group".toList, groupJson group),
        ("is_new_group".toList, .bool isNewGroup)]
  | configChanged => tagged "config_changed" []
  | moduleStatusChanged status => tagged "module_status_changed" status.members
  | dropped count sinceMs =>
      tagged "dropped" [("count".toList, .num count.toNat), ("since_ms".toList, timeJson sinceMs)]

namespace Rpc

structure AppEntry where
  packageName : Str
  label : Option Str
  userId : Int
  isSystemApp : Bool
  groupCount : Nat
  occurrence : Nat
  lastSeenMs : Option I64
  config : AppConfig
  packageInstalled : Bool

def AppEntry.toJson (self : AppEntry) : Json :=
  .obj [
    ("package_name".toList, .str self.packageName),
    ("label".toList, optional .str self.label),
    ("user_id".toList, .num self.userId),
    ("is_system_app".toList, .bool self.isSystemApp),
    ("group_count".toList, .num self.groupCount),
    ("occurrence".toList, .num self.occurrence),
    ("last_seen_ms".toList, optional timeJson self.lastSeenMs),
    ("config".toList, self.config.toJson),
    ("package_installed".toList, .bool self.packageInstalled)]

structure KindCount where
  kind : CrashKind
  count : Nat

def KindCount.toJson (self : KindCount) : Json :=
  .obj [("kind".toList, .str (kindName self.kind)), ("count".toList, .num self.count)]

structure PackageCount where
  packageName : Str
  label : Option Str
  count : Nat

def PackageCount.toJson (self : PackageCount) : Json :=
  .obj [
    ("package_name".toList, .str self.packageName),
    ("label".toList, optional .str self.label),
    ("count".toList, .num self.count)]

structure ExceptionCount where
  className : Str
  count : Nat

def ExceptionCount.toJson (self : ExceptionCount) : Json :=
  .obj [("class_name".toList, .str self.className), ("count".toList, .num self.count)]

structure TrendBucket where
  fromMs : I64
  count : Nat

def TrendBucket.toJson (self : TrendBucket) : Json :=
  .obj [("from_ms".toList, timeJson self.fromMs), ("count".toList, .num self.count)]

structure Stats where
  total : Nat
  byKind : List KindCount
  topPackages : List PackageCount
  topExceptions : List ExceptionCount
  trend : List TrendBucket
  crashedAppCount : Nat
  installedAppCount : Nat

def Stats.toJson (self : Stats) : Json :=
  .obj [
    ("total".toList, .num self.total),
    ("by_kind".toList, .arr (self.byKind.map KindCount.toJson)),
    ("top_packages".toList, .arr (self.topPackages.map PackageCount.toJson)),
    ("top_exceptions".toList, .arr (self.topExceptions.map ExceptionCount.toJson)),
    ("trend".toList, .arr (self.trend.map TrendBucket.toJson)),
    ("crashed_app_count".toList, .num self.crashedAppCount),
    ("installed_app_count".toList, .num self.installedAppCount)]

structure PayloadOpened where
  totalBytes : Nat
  state : PayloadState
  codecOnDisk : PayloadCodec
  fdAttached : Bool
  handle : Option Nat

def PayloadOpened.toJson (self : PayloadOpened) : Json :=
  .obj [
    ("total_bytes".toList, .num self.totalBytes),
    ("state".toList, .str (stateName self.state)),
    ("codec_on_disk".toList, .str (codecName self.codecOnDisk)),
    ("fd_attached".toList, .bool self.fdAttached),
    ("handle".toList, optional (fun handle : Nat => .num handle) self.handle)]

structure GlobalConfigResult where
  config : GlobalConfig
  adjusted : Bool

def GlobalConfigResult.toJson (self : GlobalConfigResult) : Json :=
  .obj [("config".toList, self.config.toJson), ("adjusted".toList, .bool self.adjusted)]

structure AppConfigResult where
  packageName : Str
  config : AppConfig

def AppConfigResult.toJson (self : AppConfigResult) : Json :=
  .obj [("package_name".toList, .str self.packageName), ("config".toList, self.config.toJson)]

structure DialogTakeoverResult where
  status : DialogTakeoverStatus

def DialogTakeoverResult.toJson (self : DialogTakeoverResult) : Json :=
    .obj [("status".toList, self.status.toJson)]

structure MuteResult where
  packageName : Str
  scope : MuteScope
  mutedUntilMs : Option I64

def MuteResult.toJson (self : MuteResult) : Json :=
  .obj [
    ("package_name".toList, .str self.packageName),
    ("scope".toList, .str self.scope.text),
    ("muted_until_ms".toList, optional timeJson self.mutedUntilMs)]

inductive Response where
  | handshake (protocolVersion : UInt32) (daemonVersion : Str)
  | moduleStatus (status : ModuleStatus)
  | groups (page : Page GroupSummary)
  | group (group : GroupSummary)
  | records (page : Page RecordSummary)
  | record (detail : RecordDetail)
  | payloadOpened (payload : PayloadOpened)
  | payloadChunk (chunk : PayloadChunk)
  | closed
  | exported (text : Str)
  | deleted (removedRecords removedGroups : Nat)
  | globalConfig (result : GlobalConfigResult)
  | appConfig (result : AppConfigResult)
  | apps (apps : List AppEntry)
  | stats (stats : Stats)
  | reopened (launched : Bool)
  | notificationDismissed (dismissed : Bool)
  | muted (result : MuteResult)
  | dialogTakeover (result : DialogTakeoverResult)
  | runtimeLog (log : RuntimeLog)

def Response.toJson (self : Response) : Json :=
  let tagged (tag : String) (members : List (Str × Json)) : Json :=
    .obj (("response".toList, .str tag.toList) :: members)
  match self with
  | handshake protocolVersion daemonVersion =>
      tagged "handshake_result" [
        ("protocol_version".toList, .num protocolVersion.toNat),
        ("daemon_version".toList, .str daemonVersion)]
  | moduleStatus status => tagged "module_status_result" [("status".toList, status.toJson)]
  | groups page => tagged "groups" [("page".toList, page.toJson groupJson)]
  | group row => tagged "group" [("group".toList, groupJson row)]
  | records page => tagged "records" [("page".toList, page.toJson recordJson)]
  | record detail => tagged "record" [("detail".toList, detail.toJson)]
  | payloadOpened payload => tagged "payload_opened" [("payload".toList, payload.toJson)]
  | payloadChunk chunk => tagged "payload_chunk" [("chunk".toList, chunk.toJson)]
  | closed => tagged "closed" []
  | exported text => tagged "export" [("text".toList, .str text)]
  | deleted removedRecords removedGroups =>
      tagged "deleted" [
        ("removed_records".toList, .num removedRecords),
        ("removed_groups".toList, .num removedGroups)]
  | globalConfig result => tagged "global_config" [("result".toList, result.toJson)]
  | appConfig result => tagged "app_config" [("result".toList, result.toJson)]
  | apps entries => tagged "apps" [("apps".toList, .arr (entries.map AppEntry.toJson))]
  | stats counts => tagged "stats_result" [("stats".toList, counts.toJson)]
  | reopened launched => tagged "reopened" [("launched".toList, .bool launched)]
  | notificationDismissed dismissed => tagged "notification_dismissed" [("dismissed".toList, .bool dismissed)]
  | muted result => tagged "muted" [("result".toList, result.toJson)]
  | dialogTakeover result => tagged "dialog_takeover" [("result".toList, result.toJson)]
  | runtimeLog log =>
      tagged "runtime_log" [
        ("name".toList, .str log.name),
        ("text".toList, .str log.text),
        ("truncated".toList, .bool log.truncated),
        ("total_bytes".toList, .num log.totalBytes),
        ("files".toList, .arr (log.files.map RuntimeLogFile.toJson))]

structure ResponseEnvelope where
  seq : Nat
  result : Except WireError Response

def ResponseEnvelope.toJson (self : ResponseEnvelope) : Json :=
  let (name, value) := match self.result with
    | .ok response => ("ok".toList, response.toJson)
    | .error error => ("err".toList, error.toJson)
  .obj [("seq".toList, .num self.seq), (name, value)]

end Rpc

end CrashCatcher.Wire
