import CrashCatcher.Manager.Requests
import CrashCatcher.Wire.Response

namespace CrashCatcher.Manager
open Lib Lib.Json Kotlinx Model Config

/-! The data classes of the replies. An `Int` or a `Long` is the integer that was read; classes without
numbers are the daemon's own. -/

structure GroupSummary where
  groupId : Str
  packageName : Str
  processName : Str
  userId : Int
  kind : CrashKind
  isSystemApp : Bool
  isMainProcess : Bool
  selfHandled : Bool
  summaryClass : Option Str
  summaryText : Option Str
  occurrence : Int
  firstSeenMs : Int
  lastSeenMs : Int
  payloadBytes : Int
  mutedUntilMs : Option Int
  packageInstalled : Bool

structure RecordSummary where
  id : RecordId
  groupId : Str
  happenedAtMs : Int
  pid : Int
  sources : Int
  appVersionName : Option Str
  appVersionCode : Option Int
  isForeground : Option Bool
  isRepeating : Bool
  droppedCount : Option Int
  payloadBytes : Int
  payloadState : PayloadState

structure RecordDetail where
  record : RecordSummary
  group : GroupSummary

structure Page (α : Type) where
  items : List α
  nextCursor : Option Cursor

structure CollectorHealth where
  source : Wire.CollectorSource
  enabled : Bool
  everReceived : Bool
  lastReceivedMs : Option Int
  detail : Option Str

structure StorageStatus where
  groupCount : Int := 0
  recordCount : Int := 0
  payloadBytes : Int := 0
  databaseBytes : Int := 0
  evictedPayloadCount : Int := 0

structure PackageIndexFacts where
  packageCount : Int
  systemFlagsKnown : Bool

structure BridgeFacts where
  connected : Bool
  version : Option Str
  androidSdk : Option Int

structure RuntimeFacts where
  pid : Int
  abi : Str
  androidSdk : Int
  selinux : Str
  storeSchemaVersion : Int
  debugLogging : Bool
  packageIndex : PackageIndexFacts
  bridge : BridgeFacts
  activeMutes : Int

structure ModuleStatus where
  daemonVersion : Str
  protocolVersion : Int
  uptimeMs : Int
  collectors : List CollectorHealth
  bridgeConnected : Bool
  dialogTakeover : Wire.DialogTakeoverStatus
  storage : StorageStatus
  runtime : RuntimeFacts

structure RuntimeLogFile where
  name : Str
  bytes : Int
  modifiedMs : Int

structure RetentionPolicy where
  retentionDays : Int
  maxRecordsPerGroup : Int
  maxRecordsTotal : Int
  maxPayloadBytesTotal : Int
  maxPayloadBytesPerRecord : Int

structure GlobalConfig where
  enabled : Bool
  captureJava : Bool
  captureAnr : Bool
  captureNative : Bool
  captureWtf : Bool
  captureSelfHandled : Bool
  notifyMode : NotifyMode
  onlyForeground : Bool
  foregroundUnknownNotifies : Bool
  onlyMainProcess : Bool
  includeSystemApps : Bool
  takeoverSystemDialog : Bool
  debugLogging : Bool
  retention : RetentionPolicy

structure AppEntry where
  packageName : Str
  label : Option Str
  userId : Int
  isSystemApp : Bool
  groupCount : Int
  occurrence : Int
  lastSeenMs : Option Int
  config : AppConfig
  packageInstalled : Bool

structure KindCount where
  kind : CrashKind
  count : Int

structure PackageCount where
  packageName : Str
  label : Option Str
  count : Int

structure ExceptionCount where
  className : Str
  count : Int

structure TrendBucket where
  fromMs : Int
  count : Int

structure Stats where
  total : Int
  byKind : List KindCount
  topPackages : List PackageCount
  topExceptions : List ExceptionCount
  trend : List TrendBucket
  crashedAppCount : Int
  installedAppCount : Int

structure PayloadOpened where
  totalBytes : Int
  state : PayloadState
  codecOnDisk : PayloadCodec
  fdAttached : Bool
  handle : Option Int

structure PayloadChunk where
  offset : Int
  text : Str
  nextOffset : Int
  eof : Bool

structure GlobalConfigResult where
  config : GlobalConfig
  adjusted : Bool

structure MuteResult where
  packageName : Str
  scope : MuteScope
  mutedUntilMs : Option Int

structure RuntimeLog where
  name : Str
  text : Str
  truncated : Bool
  totalBytes : Int
  files : List RuntimeLogFile

inductive WireResponse where
  | handshake (protocolVersion : Int) (daemonVersion : Str)
  | moduleStatusResponse (status : ModuleStatus)
  | groups (page : Page GroupSummary)
  | group (group : GroupSummary)
  | records (page : Page RecordSummary)
  | record (detail : RecordDetail)
  | payloadOpenedResponse (payload : PayloadOpened)
  | payloadChunkResponse (chunk : PayloadChunk)
  | closed
  | exported (text : Str)
  | deleted (removedRecords removedGroups : Int)
  | globalConfigResponse (result : GlobalConfigResult)
  | appConfigResponse (result : Wire.Rpc.AppConfigResult)
  | apps (apps : List AppEntry)
  | statsResponse (stats : Stats)
  | reopened (launched : Bool)
  | notificationDismissed (dismissed : Bool)
  | muted (result : MuteResult)
  | dialogTakeover (result : Wire.Rpc.DialogTakeoverResult)
  | runtimeLog (log : RuntimeLog)

structure ResponseEnvelope where
  seq : Int
  ok : Option WireResponse
  err : Option Wire.WireError

inductive WireEvent where
  | crashRecorded (record : RecordSummary) (group : GroupSummary) (isNewGroup : Bool)
  | configChanged
  | moduleStatusChanged (status : ModuleStatus)
  | dropped (count sinceMs : Int)

/-! The serial names of the enums that only replies have. -/

def payloadStateName : PayloadState → Str
  | .present => "present".toList
  | .truncated => "truncated".toList
  | .evicted => "evicted".toList
  | .absent => "absent".toList

def payloadCodecName : PayloadCodec → Str
  | .raw => "raw".toList
  | .zstd => "zstd".toList

def collectorSourceName : Wire.CollectorSource → Str
  | .events => "events".toList
  | .crashBuffer => "crash_buffer".toList
  | .dropbox => "dropbox".toList
  | .tombstone => "tombstone".toList
  | .anrFile => "anr_file".toList

def wireErrorCodeName : Wire.ErrorCode → Str
  | .invalidRequest => "invalid_request".toList
  | .malformedFrame => "malformed_frame".toList
  | .unauthorized => "unauthorized".toList
  | .notFound => "not_found".toList
  | .payloadTooLarge => "payload_too_large".toList
  | .unavailable => "unavailable".toList
  | .versionMismatch => "version_mismatch".toList
  | .cursorInvalidated => "cursor_invalidated".toList
  | .internal => "internal".toList

def readCrashKind : Json → Option CrashKind :=
  enumEntry [.javaException, .anr, .nativeCrash, .wtf] crashKindName

def readNotifyMode : Json → Option NotifyMode :=
  enumEntry [.dialog, .notification, .toast, .nothing] notifyModeName

def readMuteScope : Json → Option MuteScope := enumEntry [.none, .untilUnlock, .untilRestart] muteScopeName

def readPayloadState : Json → Option PayloadState :=
  enumEntry [.present, .truncated, .evicted, .absent] payloadStateName

def readPayloadCodec : Json → Option PayloadCodec := enumEntry [.raw, .zstd] payloadCodecName

def readCollectorSource : Json → Option Wire.CollectorSource :=
  enumEntry [.events, .crashBuffer, .dropbox, .tombstone, .anrFile] collectorSourceName

def readErrorCode : Json → Option Wire.ErrorCode :=
  enumEntry [.invalidRequest, .malformedFrame, .unauthorized, .notFound, .payloadTooLarge, .unavailable,
    .versionMismatch, .cursorInvalidated, .internal] wireErrorCodeName

/-! What is read for each class. -/

def readRecordId (json : Json) : Option RecordId := (string json).map RecordId.mk

def Cursor.deserialize (json : Json) : Option Cursor := (string json).map Cursor.mk

def GroupSummary.deserialize : Json → Option GroupSummary :=
  readClass ["groupId", "packageName", "processName", "userId", "kind", "isSystemApp", "isMainProcess",
    "selfHandled", "summaryClass", "summaryText", "occurrence", "firstSeenMs", "lastSeenMs", "payloadBytes",
    "mutedUntilMs", "packageInstalled"] fun groupId packageName processName userId kind isSystemApp
        isMainProcess selfHandled summaryClass summaryText occurrence firstSeenMs lastSeenMs
        payloadBytes mutedUntilMs packageInstalled => do
    return {
      groupId := ← required string groupId
      packageName := ← required string packageName
      processName := ← required string processName
      userId := ← required int userId
      kind := ← required readCrashKind kind
      isSystemApp := ← required boolean isSystemApp
      isMainProcess := ← required boolean isMainProcess
      selfHandled := ← required boolean selfHandled
      summaryClass := ← nullable string summaryClass
      summaryText := ← nullable string summaryText
      occurrence := ← required long occurrence
      firstSeenMs := ← required long firstSeenMs
      lastSeenMs := ← required long lastSeenMs
      payloadBytes := ← required long payloadBytes
      mutedUntilMs := ← nullable long mutedUntilMs
      packageInstalled := ← defaulted true boolean packageInstalled }

def RecordSummary.deserialize : Json → Option RecordSummary :=
  readClass ["id", "groupId", "happenedAtMs", "pid", "sources", "appVersionName", "appVersionCode",
    "isForeground", "isRepeating", "droppedCount", "payloadBytes", "payloadState"] fun id groupId
        happenedAtMs pid sources appVersionName appVersionCode isForeground isRepeating droppedCount
        payloadBytes state => do
    return {
      id := ← required readRecordId id
      groupId := ← required string groupId
      happenedAtMs := ← required long happenedAtMs
      pid := ← required int pid
      sources := ← required int sources
      appVersionName := ← nullable string appVersionName
      appVersionCode := ← nullable long appVersionCode
      isForeground := ← nullable boolean isForeground
      isRepeating := ← required boolean isRepeating
      droppedCount := ← nullable int droppedCount
      payloadBytes := ← required long payloadBytes
      payloadState := ← required readPayloadState state }

def RecordDetail.deserialize : Json → Option RecordDetail :=
  readClass ["record", "group"] fun record group => do
    return {
      record := ← required RecordSummary.deserialize record
      group := ← required GroupSummary.deserialize group }

def Page.deserialize {α : Type} (item : Json → Option α) : Json → Option (Page α) :=
  readClass ["items", "nextCursor"] fun items nextCursor => do
    return {
      items := ← defaulted [] (list item) items
      nextCursor := ← nullable Cursor.deserialize nextCursor }

def CollectorHealth.deserialize : Json → Option CollectorHealth :=
  readClass ["source", "enabled", "everReceived", "lastReceivedMs", "detail"] fun source enabled
        everReceived lastReceivedMs detail => do
    return {
      source := ← required readCollectorSource source
      enabled := ← required boolean enabled
      everReceived := ← required boolean everReceived
      lastReceivedMs := ← nullable long lastReceivedMs
      detail := ← nullable string detail }

def readDialogTakeoverStatus : Json → Option Wire.DialogTakeoverStatus :=
  readClass ["requested", "effective", "anrShowBackgroundConflict", "unsupportedReason"] fun requested
        effective anrShowBackgroundConflict unsupportedReason => do
    return {
      requested := ← required boolean requested
      effective := ← required boolean effective
      anrShowBackgroundConflict := ← required boolean anrShowBackgroundConflict
      unsupportedReason := ← nullable string unsupportedReason }

def StorageStatus.deserialize : Json → Option StorageStatus :=
  readClass ["groupCount", "recordCount", "payloadBytes", "databaseBytes", "evictedPayloadCount"] fun
        groupCount recordCount payloadBytes databaseBytes evictedPayloadCount => do
    return {
      groupCount := ← defaulted 0 long groupCount
      recordCount := ← defaulted 0 long recordCount
      payloadBytes := ← defaulted 0 long payloadBytes
      databaseBytes := ← defaulted 0 long databaseBytes
      evictedPayloadCount := ← defaulted 0 long evictedPayloadCount }

def PackageIndexFacts.deserialize : Json → Option PackageIndexFacts :=
  readClass ["packageCount", "systemFlagsKnown"] fun packageCount systemFlagsKnown => do
    return {
      packageCount := ← required int packageCount
      systemFlagsKnown := ← required boolean systemFlagsKnown }

def BridgeFacts.deserialize : Json → Option BridgeFacts :=
  readClass ["connected", "version", "androidSdk"] fun connected version androidSdk => do
    return {
      connected := ← required boolean connected
      version := ← nullable string version
      androidSdk := ← nullable int androidSdk }

def RuntimeFacts.deserialize : Json → Option RuntimeFacts :=
  readClass ["pid", "abi", "androidSdk", "selinux", "storeSchemaVersion", "debugLogging",
    "packageIndex", "bridge",
    "activeMutes"] fun pid abi androidSdk selinux storeSchemaVersion debugLogging packageIndex bridge
        activeMutes => do
    return {
      pid := ← required int pid
      abi := ← required string abi
      androidSdk := ← required int androidSdk
      selinux := ← required string selinux
      storeSchemaVersion := ← required long storeSchemaVersion
      debugLogging := ← required boolean debugLogging
      packageIndex := ← required PackageIndexFacts.deserialize packageIndex
      bridge := ← required BridgeFacts.deserialize bridge
      activeMutes := ← required int activeMutes }

def ModuleStatus.deserialize : Json → Option ModuleStatus :=
  readClass ["daemonVersion", "protocolVersion", "uptimeMs", "collectors", "bridgeConnected", "dialogTakeover",
    "storage", "runtime"] fun daemonVersion protocolVersion uptimeMs collectors bridgeConnected
        dialogTakeover storage runtime => do
    return {
      daemonVersion := ← required string daemonVersion
      protocolVersion := ← required int protocolVersion
      uptimeMs := ← required long uptimeMs
      collectors := ← defaulted [] (list CollectorHealth.deserialize) collectors
      bridgeConnected := ← required boolean bridgeConnected
      dialogTakeover := ← required readDialogTakeoverStatus dialogTakeover
      storage := ← defaulted {} StorageStatus.deserialize storage
      runtime := ← required RuntimeFacts.deserialize runtime }

def RuntimeLogFile.deserialize : Json → Option RuntimeLogFile :=
  readClass ["name", "bytes", "modifiedMs"] fun name bytes modifiedMs => do
    return {
      name := ← required string name
      bytes := ← required long bytes
      modifiedMs := ← required long modifiedMs }

def RetentionPolicy.deserialize : Json → Option RetentionPolicy :=
  readClass ["retentionDays", "maxRecordsPerGroup", "maxRecordsTotal", "maxPayloadBytesTotal",
    "maxPayloadBytesPerRecord"] fun retentionDays maxRecordsPerGroup maxRecordsTotal
        maxPayloadBytesTotal maxPayloadBytesPerRecord => do
    return {
      retentionDays := ← required int retentionDays
      maxRecordsPerGroup := ← required int maxRecordsPerGroup
      maxRecordsTotal := ← required int maxRecordsTotal
      maxPayloadBytesTotal := ← required long maxPayloadBytesTotal
      maxPayloadBytesPerRecord := ← required long maxPayloadBytesPerRecord }

def GlobalConfig.deserialize : Json → Option GlobalConfig :=
  readClass ["enabled", "captureJava", "captureAnr", "captureNative", "captureWtf", "captureSelfHandled",
    "notifyMode", "onlyForeground", "foregroundUnknownNotifies", "onlyMainProcess", "includeSystemApps",
    "takeoverSystemDialog", "debugLogging", "retention"] fun enabled captureJava captureAnr
        captureNative captureWtf captureSelfHandled mode onlyForeground foregroundUnknownNotifies
        onlyMainProcess includeSystemApps takeoverSystemDialog debugLogging retention => do
    return {
      enabled := ← required boolean enabled
      captureJava := ← required boolean captureJava
      captureAnr := ← required boolean captureAnr
      captureNative := ← required boolean captureNative
      captureWtf := ← required boolean captureWtf
      captureSelfHandled := ← required boolean captureSelfHandled
      notifyMode := ← required readNotifyMode mode
      onlyForeground := ← required boolean onlyForeground
      foregroundUnknownNotifies := ← required boolean foregroundUnknownNotifies
      onlyMainProcess := ← required boolean onlyMainProcess
      includeSystemApps := ← required boolean includeSystemApps
      takeoverSystemDialog := ← required boolean takeoverSystemDialog
      debugLogging := ← defaulted false boolean debugLogging
      retention := ← required RetentionPolicy.deserialize retention }

def readAppConfig : Json → Option AppConfig :=
  readClass ["notifyMode", "ignore", "mute"] fun mode ignore mute => do
    return {
      notifyMode := ← nullable readNotifyMode mode
      ignore := ← defaulted false boolean ignore
      mute := ← defaulted .none readMuteScope mute }

def AppEntry.deserialize : Json → Option AppEntry :=
  readClass ["packageName", "label", "userId", "isSystemApp", "groupCount", "occurrence",
    "lastSeenMs", "config",
    "packageInstalled"] fun packageName label userId isSystemApp groupCount occurrence lastSeenMs config
        packageInstalled => do
    return {
      packageName := ← required string packageName
      label := ← nullable string label
      userId := ← required int userId
      isSystemApp := ← required boolean isSystemApp
      groupCount := ← required long groupCount
      occurrence := ← required long occurrence
      lastSeenMs := ← nullable long lastSeenMs
      config := ← defaulted {} readAppConfig config
      packageInstalled := ← defaulted true boolean packageInstalled }

def KindCount.deserialize : Json → Option KindCount :=
  readClass ["kind", "count"] fun kind count => do
      return { kind := ← required readCrashKind kind, count := ← required long count }

def PackageCount.deserialize : Json → Option PackageCount :=
  readClass ["packageName", "label", "count"] fun packageName label count => do
    return {
      packageName := ← required string packageName
      label := ← nullable string label
      count := ← required long count }

def ExceptionCount.deserialize : Json → Option ExceptionCount :=
  readClass ["className", "count"] fun className count => do
    return { className := ← required string className, count := ← required long count }

def TrendBucket.deserialize : Json → Option TrendBucket :=
  readClass ["fromMs", "count"] fun fromMs count => do
      return { fromMs := ← required long fromMs, count := ← required long count }

def Stats.deserialize : Json → Option Stats :=
  readClass ["total", "byKind", "topPackages", "topExceptions", "trend", "crashedAppCount",
    "installedAppCount"] fun total byKind topPackages topExceptions trend crashedAppCount
        installedAppCount => do
    return {
      total := ← required long total
      byKind := ← defaulted [] (list KindCount.deserialize) byKind
      topPackages := ← defaulted [] (list PackageCount.deserialize) topPackages
      topExceptions := ← defaulted [] (list ExceptionCount.deserialize) topExceptions
      trend := ← defaulted [] (list TrendBucket.deserialize) trend
      crashedAppCount := ← defaulted 0 long crashedAppCount
      installedAppCount := ← defaulted 0 long installedAppCount }

def PayloadOpened.deserialize : Json → Option PayloadOpened :=
  readClass ["totalBytes", "state", "codecOnDisk", "fdAttached", "handle"] fun totalBytes state
        codecOnDisk fdAttached handle => do
    return {
      totalBytes := ← required long totalBytes
      state := ← required readPayloadState state
      codecOnDisk := ← required readPayloadCodec codecOnDisk
      fdAttached := ← required boolean fdAttached
      handle := ← nullable long handle }

def PayloadChunk.deserialize : Json → Option PayloadChunk :=
  readClass ["offset", "text", "nextOffset", "eof"] fun offset text nextOffset eof => do
    return {
      offset := ← required long offset
      text := ← required string text
      nextOffset := ← required long nextOffset
      eof := ← required boolean eof }

def GlobalConfigResult.deserialize : Json → Option GlobalConfigResult :=
  readClass ["config", "adjusted"] fun config adjusted => do
    return {
      config := ← required GlobalConfig.deserialize config
      adjusted := ← defaulted false boolean adjusted }

def readAppConfigResult : Json → Option Wire.Rpc.AppConfigResult :=
  readClass ["packageName", "config"] fun packageName config => do
    return { packageName := ← required string packageName, config := ← required readAppConfig config }

def readDialogTakeoverResult : Json → Option Wire.Rpc.DialogTakeoverResult :=
  readClass ["status"] fun status => do return { status := ← required readDialogTakeoverStatus status }

def MuteResult.deserialize : Json → Option MuteResult :=
  readClass ["packageName", "scope", "mutedUntilMs"] fun packageName scope mutedUntilMs => do
    return {
      packageName := ← required string packageName
      scope := ← required readMuteScope scope
      mutedUntilMs := ← nullable long mutedUntilMs }

def readWireError : Json → Option Wire.WireError :=
  readClass ["code", "message"] fun code message => do
    return { code := ← required readErrorCode code, message := ← defaulted [] string message }

def WireResponse.classes : List (String × (Json → Option WireResponse)) := [
  ("handshake_result", readClass ["protocolVersion", "daemonVersion"] fun protocolVersion daemonVersion => do
      return .handshake (← required int protocolVersion) (← required string daemonVersion)),
  ("module_status_result", readClass ["status"] fun status => do
      return .moduleStatusResponse (← required ModuleStatus.deserialize status)),
  ("groups", readClass ["page"] fun page => do
      return .groups (← required (Page.deserialize GroupSummary.deserialize) page)),
  ("group", readClass ["group"] fun row => do return .group (← required GroupSummary.deserialize row)),
  ("records", readClass ["page"] fun page => do
      return .records (← required (Page.deserialize RecordSummary.deserialize) page)),
  ("record", readClass ["detail"] fun detail => do
      return .record (← required RecordDetail.deserialize detail)),
  ("payload_opened", readClass ["payload"] fun payload => do
      return .payloadOpenedResponse (← required PayloadOpened.deserialize payload)),
  ("payload_chunk", readClass ["chunk"] fun chunk => do
      return .payloadChunkResponse (← required PayloadChunk.deserialize chunk)),
  ("closed", readClass [] (some .closed)),
  ("export", readClass ["text"] fun text => do return .exported (← required string text)),
  ("deleted", readClass ["removedRecords", "removedGroups"] fun removedRecords removedGroups => do
      return .deleted (← required long removedRecords) (← required long removedGroups)),
  ("global_config", readClass ["result"] fun result => do
      return .globalConfigResponse (← required GlobalConfigResult.deserialize result)),
  ("app_config", readClass ["result"] fun result => do
      return .appConfigResponse (← required readAppConfigResult result)),
  ("apps", readClass ["apps"] fun entries => do
      return .apps (← defaulted [] (list AppEntry.deserialize) entries)),
  ("stats_result", readClass ["stats"] fun stats => do
      return .statsResponse (← required Stats.deserialize stats)),
  ("reopened", readClass ["launched"] fun launched => do return .reopened (← required boolean launched)),
  ("notification_dismissed", readClass ["dismissed"] fun dismissed => do
      return .notificationDismissed (← required boolean dismissed)),
  ("muted", readClass ["result"] fun result => do return .muted (← required MuteResult.deserialize result)),
  ("dialog_takeover", readClass ["result"] fun result => do
      return .dialogTakeover (← required readDialogTakeoverResult result)),
  ("runtime_log", readClass ["name", "text", "truncated", "totalBytes", "files"] fun name text truncated
        totalBytes files => do
      return .runtimeLog {
          name := ← required string name
          text := ← required string text
          truncated := ← required boolean truncated
          totalBytes := ← required long totalBytes
          files := ← defaulted [] (list RuntimeLogFile.deserialize) files })]

def WireResponse.deserialize : Json → Option WireResponse := readSealed "response" classes

def ResponseEnvelope.deserialize : Json → Option ResponseEnvelope :=
  readClass ["seq", "ok", "err"] fun seq ok err => do
    return {
      seq := ← required long seq
      ok := ← nullable WireResponse.deserialize ok
      err := ← nullable readWireError err }

/-- What reading an answer or an event can throw; a message ends before the text of its cause. -/
inductive Refusal where
  | rejected (error : Wire.WireError)
  | malformedFrame (message : Str)
  | illegalArgument

def ResponseEnvelope.result (self : ResponseEnvelope) : Except Refusal WireResponse :=
  match self.ok, self.err with
  | some ok, none => .ok ok
  | none, some err => .error (.rejected err)
  | ok, _ =>
      let which := if ok.isNone then "neither" else "both"
      .error (.malformedFrame ("response ".toList ++ Wire.decimal self.seq ++ " carries ".toList ++
        which.toList ++
        " ok and err".toList))

def WireEvent.classes : List (String × (Json → Option WireEvent)) := [
  ("crash_recorded", readClass ["record", "group", "isNewGroup"] fun record group isNewGroup => do
      return .crashRecorded (← required RecordSummary.deserialize record)
          (← required GroupSummary.deserialize group)
          (← required boolean isNewGroup)),
  ("config_changed", readClass [] (some .configChanged)),
  ("module_status_changed", readClass ["status"] fun status => do
      return .moduleStatusChanged (← required ModuleStatus.deserialize status)),
  ("dropped", readClass ["count", "sinceMs"] fun count sinceMs => do
      return .dropped (← required long count) (← required long sinceMs))]

def content : Json → Option Str
  | .null => some "null".toList
  | .bool value => some (toString value).toList
  | .num value => some (Wire.decimal value)
  | .str text => some text
  | _ => none

def known : List Str :=
  ["crash_recorded".toList, "config_changed".toList, "module_status_changed".toList, "dropped".toList]

/-- Parses an event's JSON; an unknown kind is skipped. -/
def WireEvent.parseLenient : Json → Except Refusal (Option WireEvent)
  | .obj members =>
      match last members "event".toList with
      | none => .error (.malformedFrame "event frame has no \x60event\x60 tag".toList)
      | some element =>
          match content element with
          | none => .error .illegalArgument
          | some tag =>
              if !known.contains tag then .ok none
              else match readSealed "event" classes (.obj members) with
                | some event => .ok (some event)
                | none => .error (.malformedFrame ("event ".toList ++ tag ++ " did not parse: ".toList))
  | _ => .error (.malformedFrame "event frame is not an object".toList)

end CrashCatcher.Manager
