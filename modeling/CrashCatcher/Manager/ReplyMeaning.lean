import CrashCatcher.Manager.Replies

namespace CrashCatcher.Manager
open Lib Lib.Json Kotlinx Model Config

/-! The manager's value with the same fields. `Typed` says what the daemon's types hold, with unsigned 64-bit
values below 2^63, and `Narrow` that an `Int` holds the unsigned 32-bit values. -/

def GroupSummary.of (group : Store.GroupSummary) : GroupSummary where
  groupId := group.groupId
  packageName := group.packageName
  processName := group.processName
  userId := group.userId
  kind := group.kind
  isSystemApp := group.isSystemApp
  isMainProcess := group.isMainProcess
  selfHandled := group.selfHandled
  summaryClass := group.summaryClass
  summaryText := group.summaryText
  occurrence := group.occurrence
  firstSeenMs := group.firstSeenMs.val
  lastSeenMs := group.lastSeenMs.val
  payloadBytes := group.payloadBytes
  mutedUntilMs := group.mutedUntilMs.map I64.val
  packageInstalled := group.packageInstalled

structure GroupSummary.Typed (group : Store.GroupSummary) : Prop where
  userId : IsInt group.userId
  occurrence : group.occurrence < 2 ^ 63
  payloadBytes : group.payloadBytes < 2 ^ 63

def RecordSummary.of (record : Store.RecordSummary) : RecordSummary where
  id := record.id
  groupId := record.groupId
  happenedAtMs := record.happenedAtMs.val
  pid := record.pid
  sources := record.sources.bits.toNat
  appVersionName := record.appVersionName
  appVersionCode := record.appVersionCode
  isForeground := record.isForeground
  isRepeating := record.isRepeating
  droppedCount := record.droppedCount.map Int.ofNat
  payloadBytes := record.payloadBytes
  payloadState := record.payloadState

structure RecordSummary.Typed (record : Store.RecordSummary) : Prop where
  pid : IsInt record.pid
  appVersionCode : ∀ code ∈ record.appVersionCode, IsLong code
  payloadBytes : record.payloadBytes < 2 ^ 63

def RecordSummary.Narrow (record : Store.RecordSummary) : Prop :=
  record.sources.bits.toNat < 2 ^ 31 ∧ ∀ count ∈ record.droppedCount, count < 2 ^ 31

def RecordDetail.of (detail : Wire.RecordDetail) : RecordDetail := ⟨.of detail.record, .of detail.group⟩

def Page.of {α β : Type} (item : α → β) (page : Wire.Page α) : Page β :=
  ⟨page.items.map item, page.nextCursor.map fun cursor => ⟨cursor.display⟩⟩

def CollectorHealth.of (health : Wire.CollectorHealth) : CollectorHealth where
  source := health.source
  enabled := health.enabled
  everReceived := health.everReceived
  lastReceivedMs := health.lastReceivedMs.map I64.val
  detail := health.detail

def StorageStatus.of (status : Wire.StorageStatus) : StorageStatus where
  groupCount := status.groupCount.toNat
  recordCount := status.recordCount.toNat
  payloadBytes := status.payloadBytes.toNat
  databaseBytes := status.databaseBytes.toNat
  evictedPayloadCount := status.evictedPayloadCount.toNat

structure StorageStatus.Typed (status : Wire.StorageStatus) : Prop where
  groupCount : status.groupCount.toNat < 2 ^ 63
  recordCount : status.recordCount.toNat < 2 ^ 63
  payloadBytes : status.payloadBytes.toNat < 2 ^ 63
  databaseBytes : status.databaseBytes.toNat < 2 ^ 63
  evictedPayloadCount : status.evictedPayloadCount.toNat < 2 ^ 63

def PackageIndexFacts.of (facts : Wire.PackageIndexFacts) : PackageIndexFacts :=
  ⟨facts.packageCount.toNat, facts.systemFlagsKnown⟩

def PackageIndexFacts.Narrow (facts : Wire.PackageIndexFacts) : Prop := facts.packageCount.toNat < 2 ^ 31

def BridgeFacts.of (facts : Wire.BridgeFacts) : BridgeFacts :=
  ⟨facts.connected, facts.version, facts.androidSdk.map fun sdk => sdk.toNat⟩

def BridgeFacts.Narrow (facts : Wire.BridgeFacts) : Prop := ∀ sdk ∈ facts.androidSdk, sdk.toNat < 2 ^ 31

def RuntimeFacts.of (facts : Wire.RuntimeFacts) : RuntimeFacts where
  pid := facts.pid.toNat
  abi := facts.abi
  androidSdk := facts.androidSdk.toNat
  selinux := facts.selinux
  storeSchemaVersion := facts.storeSchemaVersion.val
  debugLogging := facts.debugLogging
  packageIndex := .of facts.packageIndex
  bridge := .of facts.bridge
  activeMutes := facts.activeMutes.toNat

def RuntimeFacts.Narrow (facts : Wire.RuntimeFacts) : Prop :=
  facts.pid.toNat < 2 ^ 31 ∧ facts.androidSdk.toNat < 2 ^ 31 ∧ PackageIndexFacts.Narrow facts.packageIndex ∧
    BridgeFacts.Narrow facts.bridge ∧ facts.activeMutes.toNat < 2 ^ 31

def ModuleStatus.of (status : Wire.ModuleStatus) : ModuleStatus where
  daemonVersion := status.daemonVersion
  protocolVersion := status.protocolVersion.toNat
  uptimeMs := status.uptimeMs.val
  collectors := status.collectors.map .of
  bridgeConnected := status.bridgeConnected
  dialogTakeover := status.dialogTakeover
  storage := .of status.storage
  runtime := .of status.runtime

def ModuleStatus.Narrow (status : Wire.ModuleStatus) : Prop :=
  status.protocolVersion.toNat < 2 ^ 31 ∧ RuntimeFacts.Narrow status.runtime

def RuntimeLogFile.of (file : Wire.RuntimeLogFile) : RuntimeLogFile := ⟨file.name, file.bytes, file.modifiedMs⟩

def RuntimeLogFile.Typed (file : Wire.RuntimeLogFile) : Prop := file.bytes < 2 ^ 63 ∧ IsLong file.modifiedMs

def RetentionPolicy.of (policy : Config.RetentionPolicy) : RetentionPolicy where
  retentionDays := policy.retentionDays
  maxRecordsPerGroup := policy.maxRecordsPerGroup
  maxRecordsTotal := policy.maxRecordsTotal
  maxPayloadBytesTotal := policy.maxPayloadBytesTotal
  maxPayloadBytesPerRecord := policy.maxPayloadBytesPerRecord

def RetentionPolicy.Typed (policy : Config.RetentionPolicy) : Prop :=
  policy.maxPayloadBytesTotal < 2 ^ 63 ∧ policy.maxPayloadBytesPerRecord < 2 ^ 63

def RetentionPolicy.Narrow (policy : Config.RetentionPolicy) : Prop :=
  policy.retentionDays < 2 ^ 31 ∧ policy.maxRecordsPerGroup < 2 ^ 31 ∧ policy.maxRecordsTotal < 2 ^ 31

def GlobalConfig.of (config : Config.GlobalConfig) : GlobalConfig where
  enabled := config.enabled
  captureJava := config.captureJava
  captureAnr := config.captureAnr
  captureNative := config.captureNative
  captureWtf := config.captureWtf
  captureSelfHandled := config.captureSelfHandled
  notifyMode := config.notifyMode
  onlyForeground := config.onlyForeground
  foregroundUnknownNotifies := config.foregroundUnknownNotifies
  onlyMainProcess := config.onlyMainProcess
  includeSystemApps := config.includeSystemApps
  takeoverSystemDialog := config.takeoverSystemDialog
  debugLogging := config.debugLogging
  retention := .of config.retention

def AppEntry.of (entry : Wire.Rpc.AppEntry) : AppEntry where
  packageName := entry.packageName
  label := entry.label
  userId := entry.userId
  isSystemApp := entry.isSystemApp
  groupCount := entry.groupCount
  occurrence := entry.occurrence
  lastSeenMs := entry.lastSeenMs.map I64.val
  config := entry.config
  packageInstalled := entry.packageInstalled

structure AppEntry.Typed (entry : Wire.Rpc.AppEntry) : Prop where
  userId : IsInt entry.userId
  groupCount : entry.groupCount < 2 ^ 63
  occurrence : entry.occurrence < 2 ^ 63

def KindCount.of (count : Wire.Rpc.KindCount) : KindCount := ⟨count.kind, count.count⟩

def PackageCount.of (count : Wire.Rpc.PackageCount) : PackageCount :=
    ⟨count.packageName, count.label, count.count⟩

def ExceptionCount.of (count : Wire.Rpc.ExceptionCount) : ExceptionCount := ⟨count.className, count.count⟩

def TrendBucket.of (bucket : Wire.Rpc.TrendBucket) : TrendBucket := ⟨bucket.fromMs.val, bucket.count⟩

def Stats.of (stats : Wire.Rpc.Stats) : Stats where
  total := stats.total
  byKind := stats.byKind.map .of
  topPackages := stats.topPackages.map .of
  topExceptions := stats.topExceptions.map .of
  trend := stats.trend.map .of
  crashedAppCount := stats.crashedAppCount
  installedAppCount := stats.installedAppCount

structure Stats.Typed (stats : Wire.Rpc.Stats) : Prop where
  total : stats.total < 2 ^ 63
  byKind : ∀ count ∈ stats.byKind, count.count < 2 ^ 63
  topPackages : ∀ count ∈ stats.topPackages, count.count < 2 ^ 63
  topExceptions : ∀ count ∈ stats.topExceptions, count.count < 2 ^ 63
  trend : ∀ bucket ∈ stats.trend, bucket.count < 2 ^ 63
  crashedAppCount : stats.crashedAppCount < 2 ^ 63
  installedAppCount : stats.installedAppCount < 2 ^ 63

def PayloadOpened.of (payload : Wire.Rpc.PayloadOpened) : PayloadOpened where
  totalBytes := payload.totalBytes
  state := payload.state
  codecOnDisk := payload.codecOnDisk
  fdAttached := payload.fdAttached
  handle := payload.handle.map Int.ofNat

def PayloadOpened.Typed (payload : Wire.Rpc.PayloadOpened) : Prop :=
  payload.totalBytes < 2 ^ 63 ∧ ∀ handle ∈ payload.handle, handle < 2 ^ 63

def PayloadChunk.of (chunk : Wire.PayloadChunk) : PayloadChunk :=
  ⟨chunk.offset.toNat, chunk.text, chunk.nextOffset, chunk.eof⟩

def PayloadChunk.Typed (chunk : Wire.PayloadChunk) : Prop :=
  chunk.offset.toNat < 2 ^ 63 ∧ chunk.nextOffset < 2 ^ 63

def GlobalConfigResult.of (result : Wire.Rpc.GlobalConfigResult) : GlobalConfigResult :=
  ⟨.of result.config, result.adjusted⟩

def MuteResult.of (result : Wire.Rpc.MuteResult) : MuteResult :=
  ⟨result.packageName, result.scope, result.mutedUntilMs.map I64.val⟩

def RuntimeLog.of (log : Wire.RuntimeLog) : RuntimeLog :=
  ⟨log.name, log.text, log.truncated, log.totalBytes, log.files.map .of⟩

def RuntimeLog.Typed (log : Wire.RuntimeLog) : Prop :=
  log.totalBytes < 2 ^ 63 ∧ ∀ file ∈ log.files, RuntimeLogFile.Typed file

def WireResponse.of : Wire.Rpc.Response → WireResponse
  | .handshake protocolVersion daemonVersion => .handshake protocolVersion.toNat daemonVersion
  | .moduleStatus status => .moduleStatusResponse (.of status)
  | .groups page => .groups (.of .of page)
  | .group row => .group (.of row)
  | .records page => .records (.of .of page)
  | .record detail => .record (.of detail)
  | .payloadOpened payload => .payloadOpenedResponse (.of payload)
  | .payloadChunk chunk => .payloadChunkResponse (.of chunk)
  | .closed => .closed
  | .exported text => .exported text
  | .deleted removedRecords removedGroups => .deleted removedRecords removedGroups
  | .globalConfig result => .globalConfigResponse (.of result)
  | .appConfig result => .appConfigResponse result
  | .apps entries => .apps (entries.map .of)
  | .stats counts => .statsResponse (.of counts)
  | .reopened launched => .reopened launched
  | .notificationDismissed dismissed => .notificationDismissed dismissed
  | .muted result => .muted (.of result)
  | .dialogTakeover result => .dialogTakeover result
  | .runtimeLog log => .runtimeLog (.of log)

def WireResponse.Typed : Wire.Rpc.Response → Prop
  | .moduleStatus status => StorageStatus.Typed status.storage
  | .groups page => ∀ group ∈ page.items, GroupSummary.Typed group
  | .group row => GroupSummary.Typed row
  | .records page => ∀ record ∈ page.items, RecordSummary.Typed record
  | .record detail => RecordSummary.Typed detail.record ∧ GroupSummary.Typed detail.group
  | .payloadOpened payload => PayloadOpened.Typed payload
  | .payloadChunk chunk => PayloadChunk.Typed chunk
  | .deleted removedRecords removedGroups => removedRecords < 2 ^ 63 ∧ removedGroups < 2 ^ 63
  | .globalConfig result => RetentionPolicy.Typed result.config.retention
  | .apps entries => ∀ entry ∈ entries, AppEntry.Typed entry
  | .stats counts => Stats.Typed counts
  | .runtimeLog log => RuntimeLog.Typed log
  | _ => True

def WireResponse.Narrow : Wire.Rpc.Response → Prop
  | .handshake protocolVersion _ => protocolVersion.toNat < 2 ^ 31
  | .moduleStatus status => ModuleStatus.Narrow status
  | .records page => ∀ record ∈ page.items, RecordSummary.Narrow record
  | .record detail => RecordSummary.Narrow detail.record
  | .globalConfig result => RetentionPolicy.Narrow result.config.retention
  | _ => True

def WireEvent.of : Wire.Event → WireEvent
  | .crashRecorded record group isNewGroup => .crashRecorded (.of record) (.of group) isNewGroup
  | .configChanged => .configChanged
  | .moduleStatusChanged status => .moduleStatusChanged (.of status)
  | .dropped count sinceMs => .dropped count.toNat sinceMs.val

def WireEvent.Typed : Wire.Event → Prop
  | .crashRecorded record group _ => RecordSummary.Typed record ∧ GroupSummary.Typed group
  | .configChanged => True
  | .moduleStatusChanged status => StorageStatus.Typed status.storage
  | .dropped count _ => count.toNat < 2 ^ 63

def WireEvent.Readable : Wire.Event → Prop
  | .crashRecorded record _ _ => RecordSummary.Narrow record
  | .moduleStatusChanged _ => False
  | _ => True

/-! What is read of a single value. -/

theorem isLong_time (time : I64) : IsLong time.val := ⟨time.lower, by have := time.upper; omega⟩

@[simp] theorem long_time (time : I64) : long (.num time.val) = some time.val := long_num (isLong_time time)

@[simp] theorem long_timeJson (time : I64) : long (Wire.timeJson time) = some time.val := long_time time

@[simp] theorem nullable_time (time : Option I64) :
    nullable long (some (Json.optional (fun time => .num time.val) time)) = some (time.map I64.val) := by
  cases time <;> simp [Json.optional]

@[simp] theorem nullable_timeJson (time : Option I64) :
    nullable long (some (Json.optional Wire.timeJson time)) = some (time.map I64.val) := nullable_time time

@[simp] theorem nullable_text (text : Option Str) :
    nullable string (some (Json.optional .str text)) = some text := by
  cases text <;> simp [Json.optional]

@[simp] theorem nullable_flag (flag : Option Bool) :
    nullable boolean (some (Json.optional .bool flag)) = some flag := by
  cases flag <;> simp [Json.optional]

@[simp] theorem readCrashKind_kindName (kind : CrashKind) :
    readCrashKind (.str (Wire.kindName kind)) = some kind := by
  cases kind <;> decide

@[simp] theorem readNotifyMode_text (mode : NotifyMode) : readNotifyMode (.str mode.text) = some mode := by
  cases mode <;> decide

@[simp] theorem readMuteScope_text (scope : MuteScope) : readMuteScope (.str scope.text) = some scope := by
  cases scope <;> decide

@[simp] theorem readPayloadState_stateName (state : PayloadState) :
    readPayloadState (.str (Wire.stateName state)) = some state := by
  cases state <;> decide

@[simp] theorem readPayloadCodec_codecName (codec : PayloadCodec) :
    readPayloadCodec (.str (Wire.codecName codec)) = some codec := by
  cases codec <;> decide

@[simp] theorem readCollectorSource_name (source : Wire.CollectorSource) :
    readCollectorSource (.str source.name) = some source := by
  cases source <;> decide

@[simp] theorem readErrorCode_name (code : Wire.ErrorCode) : readErrorCode (.str code.name) = some code := by
  cases code <;> decide

@[simp] theorem readRecordId_text (id : RecordId) : readRecordId (.str id.text) = some id := by
  simp [readRecordId]

@[simp] theorem nullable_mode (mode : Option NotifyMode) :
    nullable readNotifyMode (some (Json.optional (fun mode => .str mode.text) mode)) = some mode := by
  cases mode <;> simp [Json.optional]

@[simp] theorem nullable_cursor (cursor : Option Wire.Cursor) :
    nullable Cursor.deserialize (some (Json.optional (fun cursor => .str cursor.display) cursor)) =
      some (cursor.map fun cursor => ⟨cursor.display⟩) := by
  cases cursor <;> simp [Json.optional, Cursor.deserialize]

theorem nullable_long {code : Option Int} (isLong : ∀ n ∈ code, IsLong n) :
    nullable long (some (Json.optional .num code)) = some code := by
  cases code with
  | none => simp [Json.optional]
  | some n => simp [Json.optional, long_num (isLong n rfl)]

theorem nullable_size {size : Option Nat} (small : ∀ n ∈ size, n < 2 ^ 63) :
    nullable long (some (Json.optional (fun n : Nat => .num n) size)) = some (size.map Int.ofNat) := by
  cases size with
  | none => simp [Json.optional]
  | some n => simp [Json.optional, long_natCast (small n rfl)]

theorem reads_nullable_count (count : Option Nat) :
    Reads (nullable int (some (Json.optional (fun n => .num n) count))) (∀ n ∈ count, n < 2 ^ 31)
      (count.map Int.ofNat) := by
  cases count with
  | none => exact (Reads.of_eq rfl).congr (by simp)
  | some n => exact ((reads_count n).map some).congr (by simp)

/-! One class after another. -/

attribute [local congr] bind_congr_start option_bind_congr_start

theorem GroupSummary.deserialize_groupJson {group : Store.GroupSummary} (typed : Typed group) :
    deserialize (Wire.groupJson group) = some (.of group) := by
  rw [deserialize, Wire.groupJson, readClass_obj]
  · simp only [List.map_cons, List.map_nil, Slots.apply]
    simp [of, int_num typed.userId, long_natCast typed.occurrence, long_natCast typed.payloadBytes]
  all_goals
    simp only [List.map_cons, List.map_nil]
    decide

theorem RecordSummary.reads {record : Store.RecordSummary} (typed : Typed record) :
    Reads (deserialize (Wire.recordJson record)) (Narrow record) (.of record) := by
  have sources := reads_count record.sources.bits.toNat
  have dropped := reads_nullable_count record.droppedCount
  rw [deserialize, Wire.recordJson, readClass_obj]
  · simp only [List.map_cons, List.map_nil, Slots.apply, required_some]
    generalize int (.num record.sources.bits.toNat) = readSources at sources ⊢
    generalize nullable int (some (Json.optional (fun n => .num n) record.droppedCount)) =
      readDropped at dropped ⊢
    simp [-Option.bind_some, option_bind_start, int_num typed.pid, long_natCast typed.payloadBytes,
      nullable_long typed.appVersionCode]
    exact sources.bind (dropped.build _)
  all_goals
    simp only [List.map_cons, List.map_nil]
    decide

theorem RecordDetail.reads {detail : Wire.RecordDetail} (record : RecordSummary.Typed detail.record)
    (group : GroupSummary.Typed detail.group) :
    Reads (deserialize detail.toJson) (RecordSummary.Narrow detail.record) (.of detail) := by
  have read := RecordSummary.reads record
  rw [deserialize, Wire.RecordDetail.toJson, readClass_obj]
  · simp only [List.map_cons, List.map_nil, Slots.apply, required_some,
      GroupSummary.deserialize_groupJson group]
    generalize RecordSummary.deserialize (Wire.recordJson detail.record) = readRecord at read ⊢
    simp
    exact read.build _
  all_goals
    simp only [List.map_cons, List.map_nil]
    decide

theorem Page.reads {α β : Type} {item : Json → Option β} {json : α → Json} {value : α → β} {fits : α → Prop}
    {page : Wire.Page α} (items : ∀ a ∈ page.items, Reads (item (json a)) (fits a) (value a)) :
    Reads (deserialize item (page.toJson json)) (∀ a ∈ page.items, fits a) (.of value page) := by
  have read := reads_list items
  rw [deserialize, Wire.Page.toJson, readClass_obj]
  · simp only [List.map_cons, List.map_nil, Slots.apply, defaulted_some]
    generalize list item (.arr (page.items.map json)) = readItems at read ⊢
    simp
    exact read.build _
  all_goals
    simp only [List.map_cons, List.map_nil]
    decide

theorem CollectorHealth.deserialize_toJson (health : Wire.CollectorHealth) :
    deserialize health.toJson = some (.of health) := by
  rw [deserialize, Wire.CollectorHealth.toJson, readClass_obj]
  · simp only [List.map_cons, List.map_nil, Slots.apply]
    simp [of]
  all_goals
    simp only [List.map_cons, List.map_nil]
    decide

@[simp] theorem readDialogTakeoverStatus_toJson (status : Wire.DialogTakeoverStatus) :
    readDialogTakeoverStatus status.toJson = some status := by
  rw [readDialogTakeoverStatus, Wire.DialogTakeoverStatus.toJson, readClass_obj]
  · simp only [List.map_cons, List.map_nil, Slots.apply]
    simp
  all_goals
    simp only [List.map_cons, List.map_nil]
    decide

theorem StorageStatus.deserialize_toJson {status : Wire.StorageStatus} (typed : Typed status) :
    deserialize status.toJson = some (.of status) := by
  rw [deserialize, Wire.StorageStatus.toJson, readClass_obj]
  · simp only [List.map_cons, List.map_nil, Slots.apply]
    simp [-Option.bind_some, option_bind_start, of, long_natCast typed.groupCount,
      long_natCast typed.recordCount,
      long_natCast typed.payloadBytes, long_natCast typed.databaseBytes, long_natCast typed.evictedPayloadCount]
  all_goals
    simp only [List.map_cons, List.map_nil]
    decide

theorem PackageIndexFacts.reads (facts : Wire.PackageIndexFacts) :
    Reads (deserialize facts.toJson) (Narrow facts) (.of facts) := by
  have read := reads_count facts.packageCount.toNat
  rw [deserialize, Wire.PackageIndexFacts.toJson, readClass_obj]
  · simp only [List.map_cons, List.map_nil, Slots.apply, required_some]
    generalize int (.num facts.packageCount.toNat) = readCount at read ⊢
    simp
    exact read.build _
  all_goals
    simp only [List.map_cons, List.map_nil]
    decide

theorem BridgeFacts.reads (facts : Wire.BridgeFacts) :
    Reads (deserialize facts.toJson) (Narrow facts) (.of facts) := by
  have read : Reads (nullable int (some (Json.optional (fun sdk => .num sdk.toNat) facts.androidSdk)))
      (Narrow facts) (facts.androidSdk.map fun sdk => (sdk.toNat : Int)) :=
    reads_nullable (fun _ => nofun) fun sdk _ => reads_count sdk.toNat
  rw [deserialize, Wire.BridgeFacts.toJson, readClass_obj]
  · simp only [List.map_cons, List.map_nil, Slots.apply]
    generalize nullable int _ = readSdk at read ⊢
    simp [-Option.bind_some, option_bind_start]
    exact read.build _
  all_goals
    simp only [List.map_cons, List.map_nil]
    decide

theorem RuntimeFacts.reads (facts : Wire.RuntimeFacts) :
    Reads (deserialize facts.toJson) (Narrow facts) (.of facts) := by
  have pid := reads_count facts.pid.toNat
  have sdk := reads_count facts.androidSdk.toNat
  have packages := PackageIndexFacts.reads facts.packageIndex
  have bridge := BridgeFacts.reads facts.bridge
  have mutes := reads_count facts.activeMutes.toNat
  rw [deserialize, Wire.RuntimeFacts.toJson, readClass_obj]
  · simp only [List.map_cons, List.map_nil, Slots.apply, required_some]
    generalize int (.num facts.pid.toNat) = readPid at pid ⊢
    generalize int (.num facts.androidSdk.toNat) = readSdk at sdk ⊢
    generalize PackageIndexFacts.deserialize facts.packageIndex.toJson = readPackages at packages ⊢
    generalize BridgeFacts.deserialize facts.bridge.toJson = readBridge at bridge ⊢
    generalize int (.num facts.activeMutes.toNat) = readMutes at mutes ⊢
    simp [-Option.bind_some, option_bind_start]
    exact pid.bind (sdk.bind (packages.bind (bridge.bind (mutes.build _))))
  all_goals
    simp only [List.map_cons, List.map_nil]
    decide

theorem ModuleStatus.reads {status : Wire.ModuleStatus} (storage : StorageStatus.Typed status.storage) :
    Reads (deserialize status.toJson) (Narrow status) (.of status) := by
  have protocol := reads_count status.protocolVersion.toNat
  have runtime := RuntimeFacts.reads status.runtime
  have collectors : list CollectorHealth.deserialize
    (.arr (status.collectors.map Wire.CollectorHealth.toJson)) =
      some (status.collectors.map .of) := list_map fun health _ => CollectorHealth.deserialize_toJson health
  rw [deserialize, Wire.ModuleStatus.toJson, Wire.ModuleStatus.members, readClass_obj]
  · simp only [List.map_cons, List.map_nil, Slots.apply, required_some]
    generalize int (.num status.protocolVersion.toNat) = readProtocol at protocol ⊢
    generalize RuntimeFacts.deserialize status.runtime.toJson = readRuntime at runtime ⊢
    simp [-Option.bind_some, option_bind_start, collectors, StorageStatus.deserialize_toJson storage]
    exact protocol.bind (runtime.build _)
  all_goals
    simp only [List.map_cons, List.map_nil]
    decide

theorem RuntimeLogFile.deserialize_toJson {file : Wire.RuntimeLogFile} (typed : Typed file) :
    deserialize file.toJson = some (.of file) := by
  obtain ⟨bytes, modified⟩ := typed
  rw [deserialize, Wire.RuntimeLogFile.toJson, readClass_obj]
  · simp only [List.map_cons, List.map_nil, Slots.apply]
    simp [-Option.bind_some, option_bind_start, of, long_natCast bytes, long_num modified]
  all_goals
    simp only [List.map_cons, List.map_nil]
    decide

theorem RetentionPolicy.reads {policy : Config.RetentionPolicy} (typed : Typed policy) :
    Reads (deserialize policy.toJson) (Narrow policy) (.of policy) := by
  obtain ⟨total, perRecord⟩ := typed
  have days := reads_count policy.retentionDays
  have perGroup := reads_count policy.maxRecordsPerGroup
  have records := reads_count policy.maxRecordsTotal
  rw [deserialize, Config.RetentionPolicy.toJson, readClass_obj]
  · simp only [List.map_cons, List.map_nil, Slots.apply, required_some, long_natCast total,
      long_natCast perRecord]
    generalize int (.num policy.retentionDays) = readDays at days ⊢
    generalize int (.num policy.maxRecordsPerGroup) = readPerGroup at perGroup ⊢
    generalize int (.num policy.maxRecordsTotal) = readRecords at records ⊢
    simp [-Option.bind_some, option_bind_start]
    exact days.bind (perGroup.bind (records.build _))
  all_goals
    simp only [List.map_cons, List.map_nil]
    decide

theorem GlobalConfig.reads {config : Config.GlobalConfig} (typed : RetentionPolicy.Typed config.retention) :
    Reads (deserialize config.toJson) (RetentionPolicy.Narrow config.retention) (.of config) := by
  have read := RetentionPolicy.reads typed
  rw [deserialize, Config.GlobalConfig.toJson, readClass_obj]
  · simp only [List.map_cons, List.map_nil, Slots.apply, required_some]
    generalize RetentionPolicy.deserialize config.retention.toJson = readRetention at read ⊢
    simp [-Option.bind_some, option_bind_start]
    exact read.build _
  all_goals
    simp only [List.map_cons, List.map_nil]
    decide

@[simp] theorem readAppConfig_toJson (config : AppConfig) : readAppConfig config.toJson = some config := by
  rw [readAppConfig, Config.AppConfig.toJson, readClass_obj]
  · simp only [List.map_cons, List.map_nil, Slots.apply]
    simp
  all_goals
    simp only [List.map_cons, List.map_nil]
    decide

theorem AppEntry.deserialize_toJson {entry : Wire.Rpc.AppEntry} (typed : Typed entry) :
    deserialize entry.toJson = some (.of entry) := by
  rw [deserialize, Wire.Rpc.AppEntry.toJson, readClass_obj]
  · simp only [List.map_cons, List.map_nil, Slots.apply]
    simp [-Option.bind_some, option_bind_start, of, int_num typed.userId, long_natCast typed.groupCount,
      long_natCast typed.occurrence]
  all_goals
    simp only [List.map_cons, List.map_nil]
    decide

theorem KindCount.deserialize_toJson {count : Wire.Rpc.KindCount} (small : count.count < 2 ^ 63) :
    deserialize count.toJson = some (.of count) := by
  rw [deserialize, Wire.Rpc.KindCount.toJson, readClass_obj]
  · simp only [List.map_cons, List.map_nil, Slots.apply]
    simp [of, long_natCast small]
  all_goals
    simp only [List.map_cons, List.map_nil]
    decide

theorem PackageCount.deserialize_toJson {count : Wire.Rpc.PackageCount} (small : count.count < 2 ^ 63) :
    deserialize count.toJson = some (.of count) := by
  rw [deserialize, Wire.Rpc.PackageCount.toJson, readClass_obj]
  · simp only [List.map_cons, List.map_nil, Slots.apply]
    simp [of, long_natCast small]
  all_goals
    simp only [List.map_cons, List.map_nil]
    decide

theorem ExceptionCount.deserialize_toJson {count : Wire.Rpc.ExceptionCount} (small : count.count < 2 ^ 63) :
    deserialize count.toJson = some (.of count) := by
  rw [deserialize, Wire.Rpc.ExceptionCount.toJson, readClass_obj]
  · simp only [List.map_cons, List.map_nil, Slots.apply]
    simp [of, long_natCast small]
  all_goals
    simp only [List.map_cons, List.map_nil]
    decide

theorem TrendBucket.deserialize_toJson {bucket : Wire.Rpc.TrendBucket} (small : bucket.count < 2 ^ 63) :
    deserialize bucket.toJson = some (.of bucket) := by
  rw [deserialize, Wire.Rpc.TrendBucket.toJson, readClass_obj]
  · simp only [List.map_cons, List.map_nil, Slots.apply]
    simp [-Option.bind_some, option_bind_start, of, long_natCast small]
  all_goals
    simp only [List.map_cons, List.map_nil]
    decide

theorem Stats.deserialize_toJson {stats : Wire.Rpc.Stats} (typed : Typed stats) :
    deserialize stats.toJson = some (.of stats) := by
  have byKind : list KindCount.deserialize (.arr (stats.byKind.map Wire.Rpc.KindCount.toJson)) =
      some (stats.byKind.map .of) :=
    list_map fun count there => KindCount.deserialize_toJson (typed.byKind count there)
  have topPackages : list PackageCount.deserialize (.arr (stats.topPackages.map Wire.Rpc.PackageCount.toJson)) =
      some (stats.topPackages.map .of) :=
    list_map fun count there => PackageCount.deserialize_toJson (typed.topPackages count there)
  have topExceptions :
      list ExceptionCount.deserialize (.arr (stats.topExceptions.map Wire.Rpc.ExceptionCount.toJson)) =
        some (stats.topExceptions.map .of) :=
    list_map fun count there => ExceptionCount.deserialize_toJson (typed.topExceptions count there)
  have trend : list TrendBucket.deserialize (.arr (stats.trend.map Wire.Rpc.TrendBucket.toJson)) =
      some (stats.trend.map .of) :=
    list_map fun bucket there => TrendBucket.deserialize_toJson (typed.trend bucket there)
  rw [deserialize, Wire.Rpc.Stats.toJson, readClass_obj]
  · simp only [List.map_cons, List.map_nil, Slots.apply]
    simp [-Option.bind_some, option_bind_start, of, byKind, topPackages, topExceptions, trend,
      long_natCast typed.total, long_natCast typed.crashedAppCount, long_natCast typed.installedAppCount]
  all_goals
    simp only [List.map_cons, List.map_nil]
    decide

theorem PayloadOpened.deserialize_toJson {payload : Wire.Rpc.PayloadOpened} (typed : Typed payload) :
    deserialize payload.toJson = some (.of payload) := by
  obtain ⟨total, handle⟩ := typed
  rw [deserialize, Wire.Rpc.PayloadOpened.toJson, readClass_obj]
  · simp only [List.map_cons, List.map_nil, Slots.apply]
    simp [-Option.bind_some, option_bind_start, of, long_natCast total, nullable_size handle]
  all_goals
    simp only [List.map_cons, List.map_nil]
    decide

theorem PayloadChunk.deserialize_toJson {chunk : Wire.PayloadChunk} (typed : Typed chunk) :
    deserialize chunk.toJson = some (.of chunk) := by
  obtain ⟨offset, next⟩ := typed
  rw [deserialize, Wire.PayloadChunk.toJson, readClass_obj]
  · simp only [List.map_cons, List.map_nil, Slots.apply]
    simp [-Option.bind_some, option_bind_start, of, long_natCast offset, long_natCast next]
  all_goals
    simp only [List.map_cons, List.map_nil]
    decide

theorem GlobalConfigResult.reads {result : Wire.Rpc.GlobalConfigResult}
    (typed : RetentionPolicy.Typed result.config.retention) :
    Reads (deserialize result.toJson) (RetentionPolicy.Narrow result.config.retention) (.of result) := by
  have read := GlobalConfig.reads typed
  rw [deserialize, Wire.Rpc.GlobalConfigResult.toJson, readClass_obj]
  · simp only [List.map_cons, List.map_nil, Slots.apply, required_some]
    generalize GlobalConfig.deserialize result.config.toJson = readConfig at read ⊢
    simp
    exact read.build _
  all_goals
    simp only [List.map_cons, List.map_nil]
    decide

theorem readAppConfigResult_toJson (result : Wire.Rpc.AppConfigResult) :
    readAppConfigResult result.toJson = some result := by
  rw [readAppConfigResult, Wire.Rpc.AppConfigResult.toJson, readClass_obj]
  · simp only [List.map_cons, List.map_nil, Slots.apply]
    simp
  all_goals
    simp only [List.map_cons, List.map_nil]
    decide

theorem readDialogTakeoverResult_toJson (result : Wire.Rpc.DialogTakeoverResult) :
    readDialogTakeoverResult result.toJson = some result := by
  rw [readDialogTakeoverResult, Wire.Rpc.DialogTakeoverResult.toJson, readClass_obj]
  · simp only [List.map_cons, List.map_nil, Slots.apply]
    simp
  all_goals
    simp only [List.map_cons, List.map_nil]
    decide

theorem MuteResult.deserialize_toJson (result : Wire.Rpc.MuteResult) :
    deserialize result.toJson = some (.of result) := by
  rw [deserialize, Wire.Rpc.MuteResult.toJson, readClass_obj]
  · simp only [List.map_cons, List.map_nil, Slots.apply]
    simp [of]
  all_goals
    simp only [List.map_cons, List.map_nil]
    decide

theorem readWireError_toJson (error : Wire.WireError) : readWireError error.toJson = some error := by
  rw [readWireError, Wire.WireError.toJson, readClass_obj]
  · simp only [List.map_cons, List.map_nil, Slots.apply]
    simp
  all_goals
    simp only [List.map_cons, List.map_nil]
    decide

theorem WireResponse.reads {response : Wire.Rpc.Response} (typed : Typed response) :
    Reads (deserialize response.toJson) (Narrow response) (.of response) := by
  unfold deserialize
  cases response with
  | handshake protocolVersion daemonVersion =>
      have read := reads_count protocolVersion.toNat
      rw [Wire.Rpc.Response.toJson, readSealed_class rfl rfl (by simp)]
      simp only [List.map_cons, List.map_nil, Slots.apply, required_some]
      generalize int (.num protocolVersion.toNat) = readProtocol at read ⊢
      exact read.build _
  | moduleStatus status =>
      have read := ModuleStatus.reads typed
      rw [Wire.Rpc.Response.toJson, readSealed_class rfl rfl (by simp)]
      simp only [List.map_cons, List.map_nil, Slots.apply, required_some]
      generalize ModuleStatus.deserialize status.toJson = readStatus at read ⊢
      exact read.build _
  | groups page =>
      have read := Page.reads fun group there =>
        Reads.of_eq (GroupSummary.deserialize_groupJson (typed group there))
      rw [Wire.Rpc.Response.toJson, readSealed_class rfl rfl (by simp)]
      simp only [List.map_cons, List.map_nil, Slots.apply, required_some]
      generalize Page.deserialize GroupSummary.deserialize (page.toJson Wire.groupJson) = readPage at read ⊢
      exact (read.build _).congr (by simp [Narrow])
  | group row =>
      rw [Wire.Rpc.Response.toJson, readSealed_class rfl rfl (by simp)]
      simp only [List.map_cons, List.map_nil, Slots.apply, required_some,
        GroupSummary.deserialize_groupJson typed]
      exact .of_eq rfl
  | records page =>
      have read := Page.reads fun record there => RecordSummary.reads (typed record there)
      rw [Wire.Rpc.Response.toJson, readSealed_class rfl rfl (by simp)]
      simp only [List.map_cons, List.map_nil, Slots.apply, required_some]
      generalize Page.deserialize RecordSummary.deserialize (page.toJson Wire.recordJson) = readPage at read ⊢
      exact read.build _
  | record detail =>
      have read := RecordDetail.reads typed.1 typed.2
      rw [Wire.Rpc.Response.toJson, readSealed_class rfl rfl (by simp)]
      simp only [List.map_cons, List.map_nil, Slots.apply, required_some]
      generalize RecordDetail.deserialize detail.toJson = readDetail at read ⊢
      exact read.build _
  | payloadOpened payload =>
      rw [Wire.Rpc.Response.toJson, readSealed_class rfl rfl (by simp)]
      simp only [List.map_cons, List.map_nil, Slots.apply, required_some,
        PayloadOpened.deserialize_toJson typed]
      exact .of_eq rfl
  | payloadChunk chunk =>
      rw [Wire.Rpc.Response.toJson, readSealed_class rfl rfl (by simp)]
      simp only [List.map_cons, List.map_nil, Slots.apply, required_some, PayloadChunk.deserialize_toJson typed]
      exact .of_eq rfl
  | closed =>
      rw [Wire.Rpc.Response.toJson, readSealed_class rfl rfl (by simp)]
      exact .of_eq rfl
  | exported text =>
      rw [Wire.Rpc.Response.toJson, readSealed_class rfl rfl (by simp)]
      simp only [List.map_cons, List.map_nil, Slots.apply, required_some, string_str]
      exact .of_eq rfl
  | deleted removedRecords removedGroups =>
      obtain ⟨records, groups⟩ := typed
      rw [Wire.Rpc.Response.toJson, readSealed_class rfl rfl (by simp)]
      simp only [List.map_cons, List.map_nil, Slots.apply, required_some, long_natCast records,
        long_natCast groups]
      exact .of_eq rfl
  | globalConfig result =>
      have read := GlobalConfigResult.reads typed
      rw [Wire.Rpc.Response.toJson, readSealed_class rfl rfl (by simp)]
      simp only [List.map_cons, List.map_nil, Slots.apply, required_some]
      generalize GlobalConfigResult.deserialize result.toJson = readResult at read ⊢
      exact read.build _
  | appConfig result =>
      rw [Wire.Rpc.Response.toJson, readSealed_class rfl rfl (by simp)]
      simp only [List.map_cons, List.map_nil, Slots.apply, required_some, readAppConfigResult_toJson]
      exact .of_eq rfl
  | apps entries =>
      have read : list AppEntry.deserialize (.arr (entries.map Wire.Rpc.AppEntry.toJson)) =
          some (entries.map .of) :=
        list_map fun entry there => AppEntry.deserialize_toJson (typed entry there)
      rw [Wire.Rpc.Response.toJson, readSealed_class rfl rfl (by simp)]
      simp only [List.map_cons, List.map_nil, Slots.apply, defaulted_some, read]
      exact .of_eq rfl
  | stats counts =>
      rw [Wire.Rpc.Response.toJson, readSealed_class rfl rfl (by simp)]
      simp only [List.map_cons, List.map_nil, Slots.apply, required_some, Stats.deserialize_toJson typed]
      exact .of_eq rfl
  | reopened launched =>
      rw [Wire.Rpc.Response.toJson, readSealed_class rfl rfl (by simp)]
      simp only [List.map_cons, List.map_nil, Slots.apply, required_some, boolean_bool]
      exact .of_eq rfl
  | notificationDismissed dismissed =>
      rw [Wire.Rpc.Response.toJson, readSealed_class rfl rfl (by simp)]
      simp only [List.map_cons, List.map_nil, Slots.apply, required_some, boolean_bool]
      exact .of_eq rfl
  | muted result =>
      rw [Wire.Rpc.Response.toJson, readSealed_class rfl rfl (by simp)]
      simp only [List.map_cons, List.map_nil, Slots.apply, required_some, MuteResult.deserialize_toJson]
      exact .of_eq rfl
  | dialogTakeover result =>
      rw [Wire.Rpc.Response.toJson, readSealed_class rfl rfl (by simp)]
      simp only [List.map_cons, List.map_nil, Slots.apply, required_some, readDialogTakeoverResult_toJson]
      exact .of_eq rfl
  | runtimeLog log =>
      obtain ⟨total, files⟩ := typed
      have read : list RuntimeLogFile.deserialize (.arr (log.files.map Wire.RuntimeLogFile.toJson)) =
          some (log.files.map .of) := list_map fun file there =>
            RuntimeLogFile.deserialize_toJson (files file there)
      rw [Wire.Rpc.Response.toJson, readSealed_class rfl rfl (by simp)]
      simp only [List.map_cons, List.map_nil, Slots.apply, required_some, defaulted_some, string_str,
        boolean_bool, long_natCast total, read]
      exact .of_eq rfl

/-! Whole replies and events. -/

def ResponseEnvelope.Typed (envelope : Wire.Rpc.ResponseEnvelope) : Prop :=
  envelope.seq < 2 ^ 63 ∧ ∀ response, envelope.result = .ok response → WireResponse.Typed response

def ResponseEnvelope.Narrow (envelope : Wire.Rpc.ResponseEnvelope) : Prop :=
  ∀ response, envelope.result = .ok response → WireResponse.Narrow response

def ResponseEnvelope.meaning (envelope : Wire.Rpc.ResponseEnvelope) : Except Refusal WireResponse :=
  match envelope.result with
  | .ok response => .ok (.of response)
  | .error error => .error (.rejected error)

def ResponseEnvelope.Understood (envelope : Wire.Rpc.ResponseEnvelope) : Prop :=
  ∃ reply, deserialize envelope.toJson = some reply ∧ reply.seq = envelope.seq ∧ reply.result = meaning envelope

theorem ResponseEnvelope.reads {seq : Nat} {response : Wire.Rpc.Response} (small : seq < 2 ^ 63)
    (typed : WireResponse.Typed response) :
    Reads (deserialize (Wire.Rpc.ResponseEnvelope.toJson ⟨seq, .ok response⟩)) (WireResponse.Narrow response)
      ⟨seq, some (.of response), none⟩ := by
  have read := (WireResponse.reads typed).map some
  have written : Wire.Rpc.ResponseEnvelope.toJson ⟨seq, .ok response⟩ =
      .obj (present [("seq".toList, some (.num seq)), ("ok".toList, some response.toJson),
        ("err".toList, none)]) :=
    rfl
  have passed : nullable WireResponse.deserialize (some response.toJson) =
      (WireResponse.deserialize response.toJson).map some := by
    rw [nullable]
    intro absent
    cases response <;> cases absent
  rw [deserialize, written, readClass_present rfl (by simp)]
  simp only [List.map_cons, List.map_nil, Slots.apply, required_some, long_natCast small, passed]
  generalize (WireResponse.deserialize response.toJson).map some = readOk at read ⊢
  exact read.build _

theorem ResponseEnvelope.deserialize_error {seq : Nat} (small : seq < 2 ^ 63) (error : Wire.WireError) :
    deserialize (Wire.Rpc.ResponseEnvelope.toJson ⟨seq, .error error⟩) = some ⟨seq, none, some error⟩ := by
  have written : Wire.Rpc.ResponseEnvelope.toJson ⟨seq, .error error⟩ =
      .obj (present [("seq".toList, some (.num seq)), ("ok".toList, none),
        ("err".toList, some error.toJson)]) :=
    rfl
  have passed : nullable readWireError (some error.toJson) = some (some error) := by
    rw [nullable, readWireError_toJson, Option.map_some]
    intro absent
    cases absent
  rw [deserialize, written, readClass_present rfl (by simp)]
  simp only [List.map_cons, List.map_nil, Slots.apply, required_some, long_natCast small, passed]
  rfl

theorem ResponseEnvelope.understood_iff {envelope : Wire.Rpc.ResponseEnvelope} (typed : Typed envelope) :
    Understood envelope ↔ Narrow envelope := by
  obtain ⟨small, typed⟩ := typed
  obtain ⟨seq, result⟩ := envelope
  cases result with
  | ok response =>
      have reads := ResponseEnvelope.reads small (typed response rfl)
      constructor
      · rintro ⟨reply, read, -, -⟩ answer same
        cases same
        exact ((reads reply).mp read).1
      · intro narrow
        exact ⟨_, reads.eq_some_iff.mpr (narrow response rfl), rfl, rfl⟩
  | error error =>
      refine ⟨fun _ response ok => ?_, fun _ => ⟨_, deserialize_error small error, rfl, rfl⟩⟩
      cases ok

theorem WireEvent.toJson_tagged (event : Wire.Event) : ∃ tag members,
    event.toJson = .obj (("event".toList, .str tag) :: members) ∧ tag ∈ known ∧
      ("event".toList :: members.map Prod.fst).Nodup := by
  cases event with
  | crashRecorded record group isNewGroup => exact ⟨_, _, rfl, by simp [known], by simp⟩
  | configChanged => exact ⟨_, _, rfl, by simp [known], by simp⟩
  | moduleStatusChanged status => exact ⟨_, _, rfl, by simp [known], by simp [Wire.ModuleStatus.members]⟩
  | dropped count sinceMs => exact ⟨_, _, rfl, by simp [known], by simp⟩

/-- The status stands beside the tag, and the class looks for it under a name of its own. -/
theorem WireEvent.moduleStatusChanged_unread (status : Wire.ModuleStatus) :
    readSealed "event" classes (Wire.Event.toJson (.moduleStatusChanged status)) = none := by
  have distinct : ("event".toList :: status.members.map Prod.fst).Nodup := by simp [Wire.ModuleStatus.members]
  have apart : "status".toList ∉
      ((("event".toList, .str "module_status_changed".toList) :: status.members).map Prod.fst : List Str) := by
    simp [Wire.ModuleStatus.members]
  rw [Wire.Event.toJson, readSealed_found rfl distinct, readClass]
  simp only [List.map_cons, List.map_nil]
  rw [show snakeCase "status" = "status".toList from rfl, last_eq_none apart]
  rfl

theorem WireEvent.reads {event : Wire.Event} (typed : Typed event) :
    Reads (readSealed "event" classes event.toJson) (Readable event) (.of event) := by
  cases event with
  | crashRecorded record group isNewGroup =>
      have read := RecordSummary.reads typed.1
      rw [Wire.Event.toJson, readSealed_class rfl rfl (by simp)]
      simp only [List.map_cons, List.map_nil, Slots.apply, required_some, boolean_bool,
        GroupSummary.deserialize_groupJson typed.2]
      generalize RecordSummary.deserialize (Wire.recordJson record) = readRecord at read ⊢
      exact read.build _
  | configChanged =>
      rw [Wire.Event.toJson, readSealed_class rfl rfl (by simp)]
      exact .of_eq rfl
  | moduleStatusChanged status =>
      intro read
      simp [moduleStatusChanged_unread, Readable]
  | dropped count sinceMs =>
      rw [Wire.Event.toJson, readSealed_class rfl rfl (by simp)]
      simp only [List.map_cons, List.map_nil, Slots.apply, required_some, long_natCast typed, long_timeJson]
      exact .of_eq rfl

theorem WireEvent.parseLenient_toJson (event : Wire.Event) :
    ∃ message, parseLenient event.toJson = match readSealed "event" classes event.toJson with
      | some read => .ok (some read)
      | none => .error (.malformedFrame message) := by
  obtain ⟨tag, members, written, named, distinct⟩ := toJson_tagged event
  have found : last (("event".toList, .str tag) :: members) "event".toList = some (.str tag) :=
    @last_of_mem (("event".toList, .str tag) :: members) distinct _ List.mem_cons_self
  simp only [parseLenient, written, found, content, List.contains_eq_mem, named, decide_true, Bool.not_true,
    Bool.false_eq_true, if_false]
  exact ⟨_, rfl⟩

theorem WireEvent.parseLenient_iff {event : Wire.Event} (typed : Typed event) :
    parseLenient event.toJson = .ok (some (.of event)) ↔ Readable event := by
  obtain ⟨message, parsed⟩ := parseLenient_toJson event
  rw [parsed, ← (reads typed).eq_some_iff]
  cases readSealed "event" classes event.toJson with
  | none => simp
  | some read => simp

inductive DaemonMessage where
  | reply (envelope : Wire.Rpc.ResponseEnvelope)
  | event (event : Wire.Event)

def DaemonMessage.Typed : DaemonMessage → Prop
  | reply envelope => ResponseEnvelope.Typed envelope
  | event pushed => WireEvent.Typed pushed

def DaemonMessage.Understood : DaemonMessage → Prop
  | reply envelope => ResponseEnvelope.Understood envelope
  | event pushed => WireEvent.parseLenient pushed.toJson = .ok (some (.of pushed))

/-- An `Int` holds the unsigned 32-bit values, and an event has its fields where the manager looks for them. -/
def DaemonMessage.Readable : DaemonMessage → Prop
  | reply envelope => ResponseEnvelope.Narrow envelope
  | event pushed => WireEvent.Readable pushed

theorem replies_and_events_understood (message : DaemonMessage) (typed : message.Typed) :
    message.Understood ↔ message.Readable := by
  cases message with
  | reply envelope => exact ResponseEnvelope.understood_iff typed
  | event pushed => exact WireEvent.parseLenient_iff typed

/-- A record whose DropBox report came with the header `Dropped-Count: 3000000000`. -/
def droppedRecord : Store.RecordSummary where
  id := ⟨"1".toList⟩
  groupId := "g".toList
  happenedAtMs := 0
  pid := 1
  sources := .events
  appVersionName := none
  appVersionCode := none
  isForeground := none
  isRepeating := true
  droppedCount := some 3000000000
  payloadBytes := 0
  payloadState := .absent

def startedStatus : Wire.ModuleStatus where
  daemonVersion := "1.0".toList
  protocolVersion := 5
  uptimeMs := 0
  collectors := []
  bridgeConnected := false
  dialogTakeover := ⟨false, false, false, none⟩
  storage := ⟨0, 0, 0, 0, 0⟩
  runtime := ⟨1, "arm64-v8a".toList, 34, "enforcing".toList, 0, false, ⟨0, false⟩, ⟨false, none, none⟩, 0⟩

theorem droppedRecord_typed : RecordSummary.Typed droppedRecord := ⟨by decide, nofun, by decide⟩

theorem startedStatus_typed : StorageStatus.Typed startedStatus.storage := by
  constructor <;> decide

def droppedReply : DaemonMessage := .reply ⟨1, .ok (.records ⟨[droppedRecord], none⟩)⟩

def statusEvent : DaemonMessage := .event (.moduleStatusChanged startedStatus)

theorem droppedReply_typed : droppedReply.Typed := by
  refine ⟨by decide, fun response same => ?_⟩
  cases same
  exact List.forall_mem_singleton.mpr droppedRecord_typed

theorem statusEvent_typed : statusEvent.Typed := startedStatus_typed

theorem dropped_reply_and_status_event_misread :
    droppedReply.Typed ∧ ¬ droppedReply.Understood ∧ statusEvent.Typed ∧ ¬ statusEvent.Understood := by
  refine ⟨droppedReply_typed, fun understood => ?_, statusEvent_typed, fun understood => ?_⟩
  · have narrow := (ResponseEnvelope.understood_iff droppedReply_typed).mp understood _ rfl
    have small := (narrow droppedRecord List.mem_cons_self).2 3000000000 rfl
    omega
  · have typed : WireEvent.Typed (.moduleStatusChanged startedStatus) := startedStatus_typed
    exact (WireEvent.parseLenient_iff typed).mp understood

def seenRecord : Store.RecordSummary := { droppedRecord with droppedCount := some 3 }

def seenGroup : Store.GroupSummary where
  groupId := "g".toList
  packageName := "app".toList
  processName := "app:remote".toList
  userId := 10
  kind := .javaException
  isSystemApp := false
  packageInstalled := true
  isMainProcess := false
  selfHandled := false
  summaryClass := none
  summaryText := some "\"x\"".toList
  occurrence := 2
  firstSeenMs := 0
  lastSeenMs := 7
  payloadBytes := 0
  mutedUntilMs := none

theorem seenRecord_narrow : RecordSummary.Narrow seenRecord := by
  refine ⟨by decide, fun count dropped => ?_⟩
  cases dropped
  decide

def pageReply : DaemonMessage :=
  .reply ⟨1, .ok (.records ⟨[seenRecord], some ⟨.lastSeenDesc, .int 7, "1".toList⟩⟩)⟩

def refusedReply : DaemonMessage := .reply ⟨2, .error (.unavailable "gone".toList)⟩

def crashEvent : DaemonMessage := .event (.crashRecorded seenRecord seenGroup true)

theorem pageReply_typed : pageReply.Typed := by
  refine ⟨by decide, fun response same => ?_⟩
  cases same
  exact List.forall_mem_singleton.mpr ⟨by decide, nofun, by decide⟩

theorem pageReply_readable : pageReply.Readable := by
  intro response same
  cases same
  exact List.forall_mem_singleton.mpr seenRecord_narrow

theorem refusedReply_typed : refusedReply.Typed := by
  refine ⟨by decide, fun response same => ?_⟩
  cases same

theorem refusedReply_readable : refusedReply.Readable := by
  intro response same
  cases same

theorem crashEvent_typed : crashEvent.Typed := ⟨⟨by decide, nofun, by decide⟩, by decide, by decide, by decide⟩

/-- A page of records with a cursor, an error, and a crash that is pushed. -/
theorem replies_and_events_understood_of_page :
    pageReply.Understood ∧ refusedReply.Understood ∧ crashEvent.Understood :=
  ⟨(replies_and_events_understood pageReply pageReply_typed).mpr pageReply_readable,
    (replies_and_events_understood refusedReply refusedReply_typed).mpr refusedReply_readable,
    (replies_and_events_understood crashEvent crashEvent_typed).mpr seenRecord_narrow⟩

end CrashCatcher.Manager
