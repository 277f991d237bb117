import CrashCatcher.Lib.Kotlinx
import CrashCatcher.Wire.Request

namespace CrashCatcher.Manager
open Lib Lib.Json Kotlinx Model Config

/-! The serial names of the enums. -/

def crashKindName : CrashKind → Str
  | .javaException => "java_exception".toList
  | .anr => "anr".toList
  | .nativeCrash => "native_crash".toList
  | .wtf => "wtf".toList

def notifyModeName : NotifyMode → Str
  | .dialog => "dialog".toList
  | .notification => "notification".toList
  | .toast => "toast".toList
  | .nothing => "nothing".toList

def muteScopeName : MuteScope → Str
  | .none => "none".toList
  | .untilUnlock => "until_unlock".toList
  | .untilRestart => "until_restart".toList

def sortKeyName : Wire.SortKey → Str
  | .lastSeenDesc => "last_seen_desc".toList
  | .firstSeenDesc => "first_seen_desc".toList
  | .occurrenceDesc => "occurrence_desc".toList
  | .packageAsc => "package_asc".toList

def exportFormatName : Wire.ExportFormat → Str
  | .text => "text".toList
  | .json => "json".toList

/-! The data classes of the requests. An `Int` or a `Long` of theirs is an integer here, and what it can
hold is part of what can be sent. -/

structure RetentionPatch where
  retentionDays : Option Int := none
  maxRecordsPerGroup : Option Int := none
  maxRecordsTotal : Option Int := none
  maxPayloadBytesTotal : Option Int := none
  maxPayloadBytesPerRecord : Option Int := none

structure GlobalConfigPatch where
  enabled : Option Bool := none
  captureJava : Option Bool := none
  captureAnr : Option Bool := none
  captureNative : Option Bool := none
  captureWtf : Option Bool := none
  captureSelfHandled : Option Bool := none
  notifyMode : Option NotifyMode := none
  onlyForeground : Option Bool := none
  foregroundUnknownNotifies : Option Bool := none
  onlyMainProcess : Option Bool := none
  includeSystemApps : Option Bool := none
  takeoverSystemDialog : Option Bool := none
  debugLogging : Option Bool := none
  retention : RetentionPatch := {}

inductive NotifyModeChange where
  | unchanged
  | followGlobal
  | setTo (mode : NotifyMode)

structure AppConfigPatch where
  notifyMode : NotifyModeChange := .unchanged
  ignore : Option Bool := none
  mute : Option MuteScope := none

/-- The constructor is private: these three make every target. -/
inductive DeleteTarget where
  | ids (ids : List RecordId)
  | group (groupId : Str)
  | all

def DeleteTarget.target : DeleteTarget → Str
  | ids _ => "ids".toList
  | group _ => "group".toList
  | all => "all".toList

def DeleteTarget.recordIds : DeleteTarget → Option (List RecordId)
  | ids records => some records
  | _ => none

def DeleteTarget.groupId : DeleteTarget → Option Str
  | group groupId => some groupId
  | _ => none

structure CrashFilter where
  packages : List Str := []
  kinds : List CrashKind := []
  userIds : List Int := []
  timeFromMs : Option Int := none
  timeToMs : Option Int := none
  includeSystemApps : Bool := false
  includeSystemProcesses : Bool := false
  onlyMainProcess : Bool := false
  onlySelfHandled : Bool := false
  query : Option Str := none

structure Cursor where
  value : Str

structure PageRequest where
  filter : CrashFilter := {}
  sort : Wire.SortKey := .lastSeenDesc
  cursor : Option Cursor := none
  limit : Int := 0

structure ExportRedaction where
  hideDeviceBrand : Bool := false
  hideDeviceModel : Bool := false
  hideBuildDisplayId : Bool := false
  hidePackageName : Bool := false

namespace WireRequest

structure Handshake where
  protocolVersion : Int
  clientVersion : Str

structure ListGroups where
  page : PageRequest := {}

structure GetGroup where
  groupId : Str

structure ListRecords where
  groupId : Str
  page : PageRequest := {}

structure GetRecord where
  id : RecordId

structure OpenPayload where
  id : RecordId

structure ReadPayload where
  handle : Int
  offset : Int
  len : Int

structure ClosePayload where
  handle : Int

structure ExportRecords where
  ids : List RecordId
  format : Wire.ExportFormat
  redaction : ExportRedaction := {}

structure DeleteRecords where
  target : Str
  ids : Option (List RecordId) := none
  groupId : Option Str := none

structure SetGlobalConfig where
  patch : GlobalConfigPatch

structure GetAppConfig where
  packageName : Str

structure SetAppConfig where
  packageName : Str
  patch : AppConfigPatch

structure ListApps where
  includeSystemApps : Bool := false
  includeSystemProcesses : Bool := false
  query : Option Str := none
  limit : Int := 0

structure StatsRequest where
  timeFromMs : Option Int := none
  timeToMs : Option Int := none
  bucketMs : Int := 0

structure ReopenApp where
  packageName : Str
  userId : Int

structure MuteApp where
  packageName : Str
  scope : MuteScope

structure DismissNotification where
  recordId : RecordId

structure SetDialogTakeover where
  enabled : Bool

structure ReadRuntimeLog where
  name : Option Str := none
  maxBytes : Int := 0

end WireRequest

open WireRequest in
inductive WireRequest where
  | handshake (request : Handshake)
  | moduleStatusRequest
  | listGroups (request : ListGroups)
  | getGroup (request : GetGroup)
  | listRecords (request : ListRecords)
  | getRecord (request : GetRecord)
  | openPayload (request : OpenPayload)
  | readPayload (request : ReadPayload)
  | closePayload (request : ClosePayload)
  | exportRecords (request : ExportRecords)
  | deleteRecords (request : DeleteRecords)
  | getGlobalConfig
  | setGlobalConfig (request : SetGlobalConfig)
  | getAppConfig (request : GetAppConfig)
  | setAppConfig (request : SetAppConfig)
  | listApps (request : ListApps)
  | statsRequest (request : StatsRequest)
  | reopenApp (request : ReopenApp)
  | muteApp (request : MuteApp)
  | dismissNotification (request : DismissNotification)
  | setDialogTakeover (request : SetDialogTakeover)
  | readRuntimeLog (request : ReadRuntimeLog)

def WireRequest.DeleteRecords.of (target : DeleteTarget) : DeleteRecords where
  target := target.target
  ids := target.recordIds
  groupId := target.groupId

structure RequestEnvelope where
  seq : Int
  request : WireRequest

/-! What is written for each class. -/

def RetentionPatch.properties : Properties RetentionPatch := [
  ("retentionDays", (·.retentionDays.map .num)),
  ("maxRecordsPerGroup", (·.maxRecordsPerGroup.map .num)),
  ("maxRecordsTotal", (·.maxRecordsTotal.map .num)),
  ("maxPayloadBytesTotal", (·.maxPayloadBytesTotal.map .num)),
  ("maxPayloadBytesPerRecord", (·.maxPayloadBytesPerRecord.map .num))]

def GlobalConfigPatch.properties : Properties GlobalConfigPatch := [
  ("enabled", (·.enabled.map .bool)),
  ("captureJava", (·.captureJava.map .bool)),
  ("captureAnr", (·.captureAnr.map .bool)),
  ("captureNative", (·.captureNative.map .bool)),
  ("captureWtf", (·.captureWtf.map .bool)),
  ("captureSelfHandled", (·.captureSelfHandled.map .bool)),
  ("notifyMode", (·.notifyMode.map fun mode => .str (notifyModeName mode))),
  ("onlyForeground", (·.onlyForeground.map .bool)),
  ("foregroundUnknownNotifies", (·.foregroundUnknownNotifies.map .bool)),
  ("onlyMainProcess", (·.onlyMainProcess.map .bool)),
  ("includeSystemApps", (·.includeSystemApps.map .bool)),
  ("takeoverSystemDialog", (·.takeoverSystemDialog.map .bool)),
  ("debugLogging", (·.debugLogging.map .bool)),
  ("retention", fun patch => some (RetentionPatch.properties.write patch.retention))]

def wireName : NotifyMode → Str
  | .dialog => "dialog".toList
  | .notification => "notification".toList
  | .toast => "toast".toList
  | .nothing => "nothing".toList

def muteWireName : MuteScope → Str
  | .none => "none".toList
  | .untilUnlock => "until_unlock".toList
  | .untilRestart => "until_restart".toList

def NotifyModeChange.element : NotifyModeChange → Option Json
  | unchanged => none
  | followGlobal => some .null
  | setTo mode => some (.str (wireName mode))

/-- The hand-written serializer: its names are not transformed, and a `null` it puts is written. -/
def AppConfigPatchSerializer.entries (value : AppConfigPatch) : List (Str × Option Json) := [
  ("notify_mode".toList, value.notifyMode.element),
  ("ignore".toList, value.ignore.map .bool),
  ("mute".toList, value.mute.map fun scope => .str (muteWireName scope))]

def AppConfigPatchSerializer.serialize (value : AppConfigPatch) : Json := .obj (present (entries value))

def CrashFilter.properties : Properties CrashFilter := [
  ("packages", fun filter => some (.arr (filter.packages.map .str))),
  ("kinds", fun filter => some (.arr (filter.kinds.map fun kind => .str (crashKindName kind)))),
  ("userIds", fun filter => some (.arr (filter.userIds.map .num))),
  ("timeFromMs", (·.timeFromMs.map .num)),
  ("timeToMs", (·.timeToMs.map .num)),
  ("includeSystemApps", fun filter => some (.bool filter.includeSystemApps)),
  ("includeSystemProcesses", fun filter => some (.bool filter.includeSystemProcesses)),
  ("onlyMainProcess", fun filter => some (.bool filter.onlyMainProcess)),
  ("onlySelfHandled", fun filter => some (.bool filter.onlySelfHandled)),
  ("query", (·.query.map .str))]

def PageRequest.properties : Properties PageRequest := [
  ("filter", fun page => some (CrashFilter.properties.write page.filter)),
  ("sort", fun page => some (.str (sortKeyName page.sort))),
  ("cursor", (·.cursor.map fun cursor => .str cursor.value)),
  ("limit", fun page => some (.num page.limit))]

def ExportRedaction.properties : Properties ExportRedaction := [
  ("hideDeviceBrand", fun redaction => some (.bool redaction.hideDeviceBrand)),
  ("hideDeviceModel", fun redaction => some (.bool redaction.hideDeviceModel)),
  ("hideBuildDisplayId", fun redaction => some (.bool redaction.hideBuildDisplayId)),
  ("hidePackageName", fun redaction => some (.bool redaction.hidePackageName))]

def recordIdJson (id : RecordId) : Json := .str id.text

namespace WireRequest

def Handshake.properties : Properties Handshake := [
  ("protocolVersion", fun request => some (.num request.protocolVersion)),
  ("clientVersion", fun request => some (.str request.clientVersion))]

def ListGroups.properties : Properties ListGroups := [
  ("page", fun request => some (PageRequest.properties.write request.page))]

def GetGroup.properties : Properties GetGroup := [
  ("groupId", fun request => some (.str request.groupId))]

def ListRecords.properties : Properties ListRecords := [
  ("groupId", fun request => some (.str request.groupId)),
  ("page", fun request => some (PageRequest.properties.write request.page))]

def GetRecord.properties : Properties GetRecord := [("id", fun request => some (recordIdJson request.id))]

def OpenPayload.properties : Properties OpenPayload := [("id", fun request => some (recordIdJson request.id))]

def ReadPayload.properties : Properties ReadPayload := [
  ("handle", fun request => some (.num request.handle)),
  ("offset", fun request => some (.num request.offset)),
  ("len", fun request => some (.num request.len))]

def ClosePayload.properties : Properties ClosePayload := [("handle", fun request => some (.num request.handle))]

def ExportRecords.properties : Properties ExportRecords := [
  ("ids", fun request => some (.arr (request.ids.map recordIdJson))),
  ("format", fun request => some (.str (exportFormatName request.format))),
  ("redaction", fun request => some (ExportRedaction.properties.write request.redaction))]

def DeleteRecords.properties : Properties DeleteRecords := [
  ("target", fun request => some (.str request.target)),
  ("ids", (·.ids.map fun ids => .arr (ids.map recordIdJson))),
  ("groupId", (·.groupId.map .str))]

def SetGlobalConfig.properties : Properties SetGlobalConfig := [
  ("patch", fun request => some (GlobalConfigPatch.properties.write request.patch))]

def GetAppConfig.properties : Properties GetAppConfig := [
  ("packageName", fun request => some (.str request.packageName))]

def SetAppConfig.properties : Properties SetAppConfig := [
  ("packageName", fun request => some (.str request.packageName)),
  ("patch", fun request => some (AppConfigPatchSerializer.serialize request.patch))]

def ListApps.properties : Properties ListApps := [
  ("includeSystemApps", fun request => some (.bool request.includeSystemApps)),
  ("includeSystemProcesses", fun request => some (.bool request.includeSystemProcesses)),
  ("query", (·.query.map .str)),
  ("limit", fun request => some (.num request.limit))]

def StatsRequest.properties : Properties StatsRequest := [
  ("timeFromMs", (·.timeFromMs.map .num)),
  ("timeToMs", (·.timeToMs.map .num)),
  ("bucketMs", fun request => some (.num request.bucketMs))]

def ReopenApp.properties : Properties ReopenApp := [
  ("packageName", fun request => some (.str request.packageName)),
  ("userId", fun request => some (.num request.userId))]

def MuteApp.properties : Properties MuteApp := [
  ("packageName", fun request => some (.str request.packageName)),
  ("scope", fun request => some (.str (muteScopeName request.scope)))]

def DismissNotification.properties : Properties DismissNotification := [
  ("recordId", fun request => some (recordIdJson request.recordId))]

def SetDialogTakeover.properties : Properties SetDialogTakeover := [
  ("enabled", fun request => some (.bool request.enabled))]

def ReadRuntimeLog.properties : Properties ReadRuntimeLog := [
  ("name", (·.name.map .str)),
  ("maxBytes", fun request => some (.num request.maxBytes))]

def serialize : WireRequest → Json
  | handshake request => Handshake.properties.writeTagged "method" "handshake" request
  | moduleStatusRequest => Properties.writeTagged [] "method" "module_status" ()
  | listGroups request => ListGroups.properties.writeTagged "method" "list_groups" request
  | getGroup request => GetGroup.properties.writeTagged "method" "get_group" request
  | listRecords request => ListRecords.properties.writeTagged "method" "list_records" request
  | getRecord request => GetRecord.properties.writeTagged "method" "get_record" request
  | openPayload request => OpenPayload.properties.writeTagged "method" "open_payload" request
  | readPayload request => ReadPayload.properties.writeTagged "method" "read_payload" request
  | closePayload request => ClosePayload.properties.writeTagged "method" "close_payload" request
  | exportRecords request => ExportRecords.properties.writeTagged "method" "export_records" request
  | deleteRecords request => DeleteRecords.properties.writeTagged "method" "delete_records" request
  | getGlobalConfig => Properties.writeTagged [] "method" "get_global_config" ()
  | setGlobalConfig request => SetGlobalConfig.properties.writeTagged "method" "set_global_config" request
  | getAppConfig request => GetAppConfig.properties.writeTagged "method" "get_app_config" request
  | setAppConfig request => SetAppConfig.properties.writeTagged "method" "set_app_config" request
  | listApps request => ListApps.properties.writeTagged "method" "list_apps" request
  | statsRequest request => StatsRequest.properties.writeTagged "method" "stats" request
  | reopenApp request => ReopenApp.properties.writeTagged "method" "reopen_app" request
  | muteApp request => MuteApp.properties.writeTagged "method" "mute_app" request
  | dismissNotification request => DismissNotification.properties.writeTagged "method"
      "dismiss_notification" request
  | setDialogTakeover request => SetDialogTakeover.properties.writeTagged "method" "set_dialog_takeover" request
  | readRuntimeLog request => ReadRuntimeLog.properties.writeTagged "method" "read_runtime_log" request

end WireRequest

def RequestEnvelope.properties : Properties RequestEnvelope := [
  ("seq", fun envelope => some (.num envelope.seq)),
  ("request", fun envelope => some envelope.request.serialize)]

/-- `DaemonJson.encodeToString`, as a JSON value. -/
def RequestEnvelope.serialize (envelope : RequestEnvelope) : Json := properties.write envelope

end CrashCatcher.Manager
