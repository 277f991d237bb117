import CrashCatcher.Manager.Requests

namespace CrashCatcher.Manager
open Lib Lib.Json Kotlinx Model Config

/-! What a request of the manager stands for in the daemon. -/

def RetentionPatch.toRust (self : RetentionPatch) : Config.RetentionPatch where
  retentionDays := self.retentionDays.map Int.toNat
  maxRecordsPerGroup := self.maxRecordsPerGroup.map Int.toNat
  maxRecordsTotal := self.maxRecordsTotal.map Int.toNat
  maxPayloadBytesTotal := self.maxPayloadBytesTotal.map Int.toNat
  maxPayloadBytesPerRecord := self.maxPayloadBytesPerRecord.map Int.toNat

def GlobalConfigPatch.toRust (self : GlobalConfigPatch) : Config.GlobalConfigPatch where
  enabled := self.enabled
  captureJava := self.captureJava
  captureAnr := self.captureAnr
  captureNative := self.captureNative
  captureWtf := self.captureWtf
  captureSelfHandled := self.captureSelfHandled
  notifyMode := self.notifyMode
  onlyForeground := self.onlyForeground
  foregroundUnknownNotifies := self.foregroundUnknownNotifies
  onlyMainProcess := self.onlyMainProcess
  includeSystemApps := self.includeSystemApps
  takeoverSystemDialog := self.takeoverSystemDialog
  debugLogging := self.debugLogging
  retention := self.retention.toRust

def NotifyModeChange.toRust : NotifyModeChange → Option (Option NotifyMode)
  | unchanged => none
  | followGlobal => some none
  | setTo mode => some (some mode)

def AppConfigPatch.toRust (self : AppConfigPatch) : Config.AppConfigPatch where
  notifyMode := self.notifyMode.toRust
  ignore := self.ignore
  mute := self.mute

def DeleteTarget.toRust : DeleteTarget → Wire.Rpc.DeleteTarget
  | ids records => .ids records
  | group groupId => .group groupId
  | all => .all

def CrashFilter.toRust (self : CrashFilter) : Option Wire.CrashFilter := do
  return {
    packages := self.packages
    kinds := self.kinds
    userIds := self.userIds
    timeFromMs := ← self.timeFromMs.mapM I64.ofInt?
    timeToMs := ← self.timeToMs.mapM I64.ofInt?
    includeSystemApps := self.includeSystemApps
    includeSystemProcesses := self.includeSystemProcesses
    onlyMainProcess := self.onlyMainProcess
    onlySelfHandled := self.onlySelfHandled
    query := self.query }

def Cursor.toRust (self : Cursor) : Option Wire.Cursor := (Wire.Cursor.fromStr self.value).toOption

def PageRequest.toRust (self : PageRequest) : Option Wire.PageRequest := do
  return {
    filter := ← self.filter.toRust
    sort := self.sort
    cursor := ← self.cursor.mapM Cursor.toRust
    limit := self.limit.toNat }

def ExportRedaction.toRust (self : ExportRedaction) : Wire.Rpc.ExportRedaction where
  hideDeviceBrand := self.hideDeviceBrand
  hideDeviceModel := self.hideDeviceModel
  hideBuildDisplayId := self.hideBuildDisplayId
  hidePackageName := self.hidePackageName

def WireRequest.DeleteRecords.toRust : WireRequest.DeleteRecords → Option Wire.Rpc.DeleteTarget
  | ⟨target, some records, none⟩ => if target = "ids".toList then some (.ids records) else none
  | ⟨target, none, some groupId⟩ => if target = "group".toList then some (.group groupId) else none
  | ⟨target, none, none⟩ => if target = "all".toList then some .all else none
  | _ => none

def WireRequest.toRust : WireRequest → Option Wire.Rpc.Request
  | handshake request => some (.handshake request.protocolVersion.toNat request.clientVersion)
  | moduleStatusRequest => some .moduleStatus
  | listGroups request => do return .listGroups (← request.page.toRust)
  | getGroup request => some (.getGroup request.groupId)
  | listRecords request => do return .listRecords request.groupId (← request.page.toRust)
  | getRecord request => some (.getRecord request.id)
  | openPayload request => some (.openPayload request.id)
  | readPayload request => some (.readPayload request.handle.toNat request.offset.toNat request.len.toNat)
  | closePayload request => some (.closePayload request.handle.toNat)
  | exportRecords request => some (.exportRecords request.ids request.format request.redaction.toRust)
  | deleteRecords request => do return .deleteRecords (← request.toRust)
  | getGlobalConfig => some .getGlobalConfig
  | setGlobalConfig request => some (.setGlobalConfig request.patch.toRust)
  | getAppConfig request => some (.getAppConfig request.packageName)
  | setAppConfig request => some (.setAppConfig request.packageName request.patch.toRust)
  | listApps request =>
      some (.listApps request.includeSystemApps request.includeSystemProcesses request.query
        request.limit.toNat)
  | statsRequest request => do
      return .stats (← request.timeFromMs.mapM I64.ofInt?) (← request.timeToMs.mapM I64.ofInt?)
        (← I64.ofInt? request.bucketMs)
  | reopenApp request => some (.reopenApp request.packageName request.userId)
  | muteApp request => some (.muteApp request.packageName request.scope)
  | dismissNotification request => some (.dismissNotification request.recordId)
  | setDialogTakeover request => some (.setDialogTakeover request.enabled)
  | readRuntimeLog request => some (.readRuntimeLog request.name request.maxBytes.toNat)

def RequestEnvelope.toRust (self : RequestEnvelope) : Option Wire.Rpc.RequestEnvelope := do
  return { seq := self.seq.toNat, request := ← self.request.toRust }

/-! What the manager can send: what its types hold, with the numbers that count or measure something not
below zero, and cursors that the daemon's parser accepts. -/

def Count (n : Int) : Prop := 0 ≤ n ∧ n < 2 ^ 31

def Size (n : Int) : Prop := 0 ≤ n ∧ n < 2 ^ 63

structure RetentionPatch.Sendable (patch : RetentionPatch) : Prop where
  retentionDays : ∀ n ∈ patch.retentionDays, Count n
  maxRecordsPerGroup : ∀ n ∈ patch.maxRecordsPerGroup, Count n
  maxRecordsTotal : ∀ n ∈ patch.maxRecordsTotal, Count n
  maxPayloadBytesTotal : ∀ n ∈ patch.maxPayloadBytesTotal, Size n
  maxPayloadBytesPerRecord : ∀ n ∈ patch.maxPayloadBytesPerRecord, Size n

structure CrashFilter.Sendable (filter : CrashFilter) : Prop where
  userIds : ∀ n ∈ filter.userIds, IsInt n
  timeFromMs : ∀ n ∈ filter.timeFromMs, IsLong n
  timeToMs : ∀ n ∈ filter.timeToMs, IsLong n

structure PageRequest.Sendable (page : PageRequest) : Prop where
  filter : page.filter.Sendable
  cursor : ∀ cursor ∈ page.cursor, ∃ position, Wire.Cursor.fromStr cursor.value = .ok position
  limit : Count page.limit

def WireRequest.Sendable : WireRequest → Prop
  | handshake request => Count request.protocolVersion
  | listGroups request => request.page.Sendable
  | listRecords request => request.page.Sendable
  | readPayload request => Size request.handle ∧ Size request.offset ∧ Count request.len
  | closePayload request => Size request.handle
  -- Only a target's constructor is used to build one.
  | deleteRecords request => ∃ target, request = DeleteRecords.of target
  | setGlobalConfig request => request.patch.retention.Sendable
  | listApps request => Count request.limit
  | statsRequest request =>
      (∀ n ∈ request.timeFromMs, IsLong n) ∧ (∀ n ∈ request.timeToMs, IsLong n) ∧ IsLong request.bucketMs
  | reopenApp request => IsInt request.userId
  | readRuntimeLog request => Size request.maxBytes
  | _ => True

structure RequestEnvelope.Sendable (envelope : RequestEnvelope) : Prop where
  seq : Size envelope.seq
  request : envelope.request.Sendable

/-! One kind of value after another. -/

theorem u32_count {n : Int} (count : Count n) : Serde.u32 (.num n) = some n.toNat :=
  Serde.unsigned_num count.1 (count.2.trans (by decide))

theorem u64_size {n : Int} (size : Size n) : Serde.u64 (.num n) = some n.toNat :=
  Serde.unsigned_num size.1 (size.2.trans (by decide))

theorem i32_isInt {n : Int} (isInt : IsInt n) : Serde.i32 (.num n) = some n := if_pos isInt

theorem counts {b : Option Int} (count : ∀ n ∈ b, Count n) :
    Serde.defaulted none (Serde.option Serde.u32) (b.map .num) = some (b.map Int.toNat) :=
  Serde.defaulted_option nofun fun n there => u32_count (count n there)

theorem sizes {b : Option Int} (size : ∀ n ∈ b, Size n) :
    Serde.defaulted none (Serde.option Serde.u64) (b.map .num) = some (b.map Int.toNat) :=
  Serde.defaulted_option nofun fun n there => u64_size (size n there)

@[simp] theorem times (b : Option Int) :
    Serde.defaulted none (Serde.option Serde.i64) (b.map .num) = b.mapM I64.ofInt? := by
  cases b with
  | none => rfl
  | some n => simp [Serde.defaulted, Serde.option, Serde.i64]

@[simp] theorem flags (b : Option Bool) :
    Serde.defaulted none (Serde.option Serde.bool) (b.map .bool) = some b := by
  cases b <;> rfl

@[simp] theorem texts (b : Option Str) :
    Serde.defaulted none (Serde.option Serde.string) (b.map .str) = some b := by
  cases b <;> rfl

theorem notifyMode_deserialize (mode : NotifyMode) :
    NotifyMode.deserialize (.str (notifyModeName mode)) = some mode := by
  cases mode <;> decide

theorem muteScope_deserialize (scope : MuteScope) :
    MuteScope.deserialize (.str (muteScopeName scope)) = some scope := by
  cases scope <;> decide

theorem wireName_eq (mode : NotifyMode) : wireName mode = notifyModeName mode := by
  cases mode <;> rfl

theorem muteWireName_eq (scope : MuteScope) : muteWireName scope = muteScopeName scope := by
  cases scope <;> rfl

theorem crashKind_deserialize (kind : CrashKind) :
    Serde.unitVariant Wire.allKinds Wire.kindName (.str (crashKindName kind)) = some kind := by
  cases kind <;> decide

theorem sortKey_deserialize (sort : Wire.SortKey) :
    Serde.unitVariant Wire.SortKey.all Wire.SortKey.name (.str (sortKeyName sort)) = some sort := by
  cases sort <;> decide

theorem exportFormat_deserialize (format : Wire.ExportFormat) :
    Serde.unitVariant Wire.ExportFormat.all Wire.ExportFormat.name (.str (exportFormatName format)) =
      some format := by
  cases format <;> decide

theorem recordId_deserialize (id : RecordId) : Wire.recordId (recordIdJson id) = some id := rfl

theorem recordIds_deserialize (ids : List RecordId) :
    Serde.list Wire.recordId (.arr (ids.map recordIdJson)) = some ids := by
  simpa using Serde.list_map fun id (_ : id ∈ ids) => recordId_deserialize id

/-! One class after another. -/

attribute [local congr] bind_congr_start option_bind_congr_start

theorem RetentionPatch.deserialize {patch : RetentionPatch} (sendable : patch.Sendable) :
    Config.RetentionPatch.deserialize (properties.write patch) = some patch.toRust := by
  rw [Config.RetentionPatch.deserialize, Properties.Mirror.struct (by decide)]
  simp only [properties, List.map_cons, List.map_nil, Slots.apply]
  simp [toRust, counts sendable.retentionDays, counts sendable.maxRecordsPerGroup,
    counts sendable.maxRecordsTotal, sizes sendable.maxPayloadBytesTotal,
    sizes sendable.maxPayloadBytesPerRecord]

theorem GlobalConfigPatch.deserialize {patch : GlobalConfigPatch} (sendable : patch.retention.Sendable) :
    Config.GlobalConfigPatch.deserialize (properties.write patch) = some patch.toRust := by
  have mode : Serde.defaulted none (Serde.option NotifyMode.deserialize)
      (patch.notifyMode.map fun mode => .str (notifyModeName mode)) = some patch.notifyMode := by
    simpa using Serde.defaulted_option nofun fun mode (_ : mode ∈ patch.notifyMode) =>
      notifyMode_deserialize mode
  rw [Config.GlobalConfigPatch.deserialize, Properties.Mirror.struct (by decide)]
  simp only [properties, List.map_cons, List.map_nil, Slots.apply]
  simp [toRust, mode, RetentionPatch.deserialize sendable]

theorem NotifyModeChange.deserialize (change : NotifyModeChange) :
    Serde.defaulted none (doubleOption NotifyMode.deserialize) change.element = some change.toRust := by
  cases change with
  | unchanged => rfl
  | followGlobal => rfl
  | setTo mode =>
      have value : Json.str (notifyModeName mode) ≠ .null := nofun
      rw [element, wireName_eq, Serde.defaulted_some, doubleOption, Serde.option_of_ne_null value,
        notifyMode_deserialize]
      rfl

theorem AppConfigPatch.deserialize (patch : AppConfigPatch) :
    Config.AppConfigPatch.deserialize (AppConfigPatchSerializer.serialize patch) = some patch.toRust := by
  have scope : Serde.defaulted none (Serde.option MuteScope.deserialize)
      (patch.mute.map fun scope => .str (muteWireName scope)) = some patch.mute := by
    simp only [muteWireName_eq]
    simpa using Serde.defaulted_option nofun fun scope (_ : scope ∈ patch.mute) => muteScope_deserialize scope
  have named : (AppConfigPatchSerializer.entries patch).map Prod.fst =
    ["notify_mode", "ignore", "mute"].map String.toList := rfl
  rw [Config.AppConfigPatch.deserialize, AppConfigPatchSerializer.serialize, Serde.struct,
    Serde.fields_present named (by decide)]
  simp [AppConfigPatchSerializer.entries, toRust, NotifyModeChange.deserialize, scope]

theorem CrashFilter.deserialize {filter : CrashFilter} (sendable : filter.Sendable) :
    Wire.CrashFilter.deserialize (properties.write filter) = filter.toRust := by
  have packages : Serde.list Serde.string (.arr (filter.packages.map .str)) = some filter.packages := by
    simpa using Serde.list_map fun text (_ : text ∈ filter.packages) =>
      (rfl : Serde.string (.str text) = some (id text))
  have kinds : Serde.list (Serde.unitVariant Wire.allKinds Wire.kindName)
      (.arr (filter.kinds.map fun kind => .str (crashKindName kind))) = some filter.kinds := by
    simpa using Serde.list_map fun kind (_ : kind ∈ filter.kinds) => crashKind_deserialize kind
  have userIds : Serde.list Serde.i32 (.arr (filter.userIds.map .num)) = some filter.userIds := by
    simpa using Serde.list_map fun n (there : n ∈ filter.userIds) => i32_isInt (sendable.userIds n there)
  rw [Wire.CrashFilter.deserialize, Properties.Mirror.struct (by decide)]
  simp only [properties, List.map_cons, List.map_nil, Slots.apply]
  simp [toRust, packages, kinds, userIds, Serde.bool]

theorem PageRequest.deserialize {page : PageRequest} (sendable : page.Sendable) :
    Wire.PageRequest.deserialize (properties.write page) = page.toRust := by
  have cursor : Serde.defaulted none (Serde.option Wire.Cursor.deserialize)
      (page.cursor.map fun cursor => .str cursor.value) = page.cursor.mapM Cursor.toRust := by
    cases page.cursor with
    | none => rfl
    | some cursor => simp [Serde.option, Wire.Cursor.deserialize, Serde.string, Cursor.toRust]
  rw [Wire.PageRequest.deserialize, Properties.Mirror.struct (by decide)]
  simp [properties, toRust, CrashFilter.deserialize sendable.filter, sortKey_deserialize, cursor,
    u32_count sendable.limit]

theorem ExportRedaction.deserialize (redaction : ExportRedaction) :
    Wire.Rpc.ExportRedaction.deserialize (properties.write redaction) = some redaction.toRust := by
  rw [Wire.Rpc.ExportRedaction.deserialize, Properties.Mirror.struct (by decide)]
  simp [properties, toRust, Serde.bool]

/-- The flattened target is read from the members beside the method. -/
theorem DeleteTarget.deserialize (target : DeleteTarget) :
    Wire.Rpc.DeleteTarget.deserialize
      (.obj (present (WireRequest.DeleteRecords.properties.entries (.of target)))) = some target.toRust := by
  unfold Wire.Rpc.DeleteTarget.deserialize
  cases target with
  | ids records =>
      have written : present (WireRequest.DeleteRecords.properties.entries (.of (ids records))) =
          ("target".toList, .str "ids".toList) :: present
            [("ids".toList, some (.arr (records.map recordIdJson)))] :=
        rfl
      rw [written, Serde.enum_cons (by simp [present]) rfl, Serde.fields_present rfl (by decide)]
      simp [recordIds_deserialize, toRust]
  | group groupId =>
      have written : present (WireRequest.DeleteRecords.properties.entries (.of (group groupId))) =
          ("target".toList, .str "group".toList) :: present [("group_id".toList, some (.str groupId))] :=
        rfl
      rw [written, Serde.enum_cons (by simp [present]) rfl, Serde.fields_present rfl (by decide)]
      simp [Serde.string, toRust]
  | all =>
      have written : present (WireRequest.DeleteRecords.properties.entries (.of all)) =
          ("target".toList, .str "all".toList) :: present [] :=
        rfl
      rw [written, Serde.enum_cons (by decide) rfl, toRust]

theorem WireRequest.deserialize {request : WireRequest} (sendable : request.Sendable) :
    Wire.Rpc.Request.deserialize request.serialize = request.toRust := by
  unfold Wire.Rpc.Request.deserialize
  cases request with
  | handshake request =>
      rw [serialize, enum_fields (by decide) rfl (by decide)]
      simp [Handshake.properties, toRust, u32_count sendable, Serde.string]
  | moduleStatusRequest =>
      rw [serialize, enum_writeTagged (by decide) rfl, toRust]
  | listGroups request =>
      rw [serialize, enum_fields (by decide) rfl (by decide)]
      simp [ListGroups.properties, toRust, PageRequest.deserialize sendable]
  | getGroup request =>
      rw [serialize, enum_fields (by decide) rfl (by decide)]
      simp [GetGroup.properties, toRust, Serde.string]
  | listRecords request =>
      rw [serialize, enum_fields (by decide) rfl (by decide)]
      simp [ListRecords.properties, toRust, Serde.string, PageRequest.deserialize sendable]
  | getRecord request =>
      rw [serialize, enum_fields (by decide) rfl (by decide)]
      simp [GetRecord.properties, toRust, recordId_deserialize]
  | openPayload request =>
      rw [serialize, enum_fields (by decide) rfl (by decide)]
      simp [OpenPayload.properties, toRust, recordId_deserialize]
  | readPayload request =>
      obtain ⟨handle, offset, len⟩ := sendable
      rw [serialize, enum_fields (by decide) rfl (by decide)]
      simp [ReadPayload.properties, toRust, u64_size handle, u64_size offset, u32_count len]
  | closePayload request =>
      rw [serialize, enum_fields (by decide) rfl (by decide)]
      simp [ClosePayload.properties, toRust, u64_size sendable]
  | exportRecords request =>
      rw [serialize, enum_fields (by decide) rfl (by decide)]
      simp [ExportRecords.properties, toRust, recordIds_deserialize, exportFormat_deserialize,
        ExportRedaction.deserialize]
  | deleteRecords request =>
      obtain ⟨target, rfl⟩ := sendable
      rw [serialize, enum_writeTagged (by decide) rfl, DeleteTarget.deserialize]
      cases target <;> rfl
  | getGlobalConfig =>
      rw [serialize, enum_writeTagged (by decide) rfl, toRust]
  | setGlobalConfig request =>
      rw [serialize, enum_fields (by decide) rfl (by decide)]
      simp [SetGlobalConfig.properties, toRust, GlobalConfigPatch.deserialize sendable]
  | getAppConfig request =>
      rw [serialize, enum_fields (by decide) rfl (by decide)]
      simp [GetAppConfig.properties, toRust, Serde.string]
  | setAppConfig request =>
      rw [serialize, enum_fields (by decide) rfl (by decide)]
      simp [SetAppConfig.properties, toRust, Serde.string, AppConfigPatch.deserialize]
  | listApps request =>
      rw [serialize, enum_fields (by decide) rfl (by decide)]
      simp [ListApps.properties, toRust, Serde.bool, u32_count sendable]
  | statsRequest request =>
      rw [serialize, enum_fields (by decide) rfl (by decide)]
      simp [StatsRequest.properties, toRust, Serde.i64]
  | reopenApp request =>
      rw [serialize, enum_fields (by decide) rfl (by decide)]
      simp [ReopenApp.properties, toRust, Serde.string, i32_isInt sendable]
  | muteApp request =>
      rw [serialize, enum_fields (by decide) rfl (by decide)]
      simp [MuteApp.properties, toRust, Serde.string, muteScope_deserialize]
  | dismissNotification request =>
      rw [serialize, enum_fields (by decide) rfl (by decide)]
      simp [DismissNotification.properties, toRust, recordId_deserialize]
  | setDialogTakeover request =>
      rw [serialize, enum_fields (by decide) rfl (by decide)]
      simp [SetDialogTakeover.properties, toRust, Serde.bool]
  | readRuntimeLog request =>
      rw [serialize, enum_fields (by decide) rfl (by decide)]
      simp [ReadRuntimeLog.properties, toRust, u64_size sendable]

theorem long_represented {n : Int} (isLong : IsLong n) : ∃ time, I64.ofInt? n = some time :=
  ⟨_, dif_pos ⟨isLong.1, Int.le_sub_one_of_lt isLong.2⟩⟩

theorem times_represented {b : Option Int} (isLong : ∀ n ∈ b, IsLong n) :
    ∃ time, b.mapM I64.ofInt? = some time := by
  cases b with
  | none => exact ⟨none, rfl⟩
  | some n =>
      obtain ⟨time, read⟩ := long_represented (isLong n rfl)
      exact ⟨some time, by simp [read]⟩

theorem PageRequest.represented {page : PageRequest} (sendable : page.Sendable) :
    ∃ value, page.toRust = some value := by
  obtain ⟨timeFromMs, read⟩ := times_represented sendable.filter.timeFromMs
  obtain ⟨timeToMs, read'⟩ := times_represented sendable.filter.timeToMs
  have cursor : ∃ position, page.cursor.mapM Cursor.toRust = some position := by
    cases given : page.cursor with
    | none => exact ⟨none, rfl⟩
    | some cursor =>
        obtain ⟨position, accepted⟩ := sendable.cursor cursor given
        exact ⟨some position, by simp [Cursor.toRust, accepted, Except.toOption]⟩
  obtain ⟨position, accepted⟩ := cursor
  simp [toRust, CrashFilter.toRust, read, read', accepted]

theorem WireRequest.represented {request : WireRequest} (sendable : request.Sendable) :
    ∃ value, request.toRust = some value := by
  cases request with
  | listGroups request =>
      obtain ⟨page, represented⟩ := PageRequest.represented sendable
      exact ⟨.listGroups page, by simp [toRust, represented]⟩
  | listRecords request =>
      obtain ⟨page, represented⟩ := PageRequest.represented sendable
      exact ⟨.listRecords request.groupId page, by simp [toRust, represented]⟩
  | deleteRecords request =>
      obtain ⟨target, rfl⟩ := sendable
      exact ⟨.deleteRecords target.toRust, by cases target <;> rfl⟩
  | statsRequest request =>
      obtain ⟨isLong, isLong', width⟩ := sendable
      obtain ⟨timeFromMs, read⟩ := times_represented isLong
      obtain ⟨timeToMs, read'⟩ := times_represented isLong'
      obtain ⟨bucketMs, read''⟩ := long_represented width
      exact ⟨.stats timeFromMs timeToMs bucketMs, by simp [toRust, read, read', read'']⟩
  | _ => exact ⟨_, rfl⟩

theorem NotifyModeChange.toRust_injective : Function.Injective toRust := by
  intro change other same
  cases change <;> cases other <;> simp_all [toRust]

/-- The daemon reads each request that the manager can send as the one it stands for. -/
theorem requests_decoded (envelope : RequestEnvelope) (sendable : envelope.Sendable) :
    (∃ request, envelope.toRust = some request ∧
      Wire.Rpc.RequestEnvelope.deserialize envelope.serialize = some request ∧ request.seq = envelope.seq) ∧
    Function.Injective NotifyModeChange.toRust ∧
    ∀ records, (WireRequest.deleteRecords (.of (.ids records))).toRust =
      some (.deleteRecords (.ids records)) := by
  refine ⟨?_, NotifyModeChange.toRust_injective, fun _ => rfl⟩
  obtain ⟨request, represented⟩ := WireRequest.represented sendable.request
  have meaning : envelope.toRust = some { seq := envelope.seq.toNat, request } := by
    simp [RequestEnvelope.toRust, represented]
  refine ⟨_, meaning, ?_, Int.toNat_of_nonneg sendable.seq.1⟩
  rw [Wire.Rpc.RequestEnvelope.deserialize, RequestEnvelope.serialize, Properties.Mirror.struct (by decide)]
  simp [RequestEnvelope.properties, u64_size sendable.seq, WireRequest.deserialize sendable.request,
    represented]

def secondPage : RequestEnvelope where
  seq := 7
  request := .listGroups { page := {
    filter := { userIds := [10] }
    cursor := some ⟨"1|last_seen_desc|i|1755440000123|0f".toList⟩
    limit := 25 } }

theorem requests_decoded_secondPage : ∃ request, secondPage.toRust = some request ∧
    Wire.Rpc.RequestEnvelope.deserialize secondPage.serialize = some request ∧ request.seq = secondPage.seq :=
  (requests_decoded secondPage
    { seq := ⟨by decide, by decide⟩
      request :=
        { filter :=
            { userIds := fun n there => by
                cases List.mem_singleton.mp there
                exact ⟨by decide, by decide⟩
              timeFromMs := fun n there => by cases there
              timeToMs := fun n there => by cases there }
          cursor := fun cursor there => by
            cases there
            exact ⟨⟨.lastSeenDesc, .int 1755440000123, "0f".toList⟩, by decide⟩
          limit := ⟨by decide, by decide⟩ } }).1

end CrashCatcher.Manager
