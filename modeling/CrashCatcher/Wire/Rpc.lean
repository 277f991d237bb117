import CrashCatcher.Store.Schema
import CrashCatcher.Wire.Frame

namespace CrashCatcher.Wire
open Lib Lib.Json Model Store

def SortKey.name : SortKey → Str
  | lastSeenDesc => "last_seen_desc".toList
  | firstSeenDesc => "first_seen_desc".toList
  | occurrenceDesc => "occurrence_desc".toList
  | packageAsc => "package_asc".toList

def Cursor.display (self : Cursor) : Str :=
  let (kind, anchor) := match self.anchor with
    | .int value => ("i".toList, decimal value)
    | .text value => ("t".toList, value)
  joined ['|'] ["1".toList, self.sort.name, kind, anchor, self.tiebreak]

def kindName : CrashKind → Str
  | .javaException => "java_exception".toList
  | .anr => "anr".toList
  | .nativeCrash => "native_crash".toList
  | .wtf => "wtf".toList

def stateName : PayloadState → Str
  | .present => "present".toList
  | .truncated => "truncated".toList
  | .evicted => "evicted".toList
  | .absent => "absent".toList

def groupJson (self : GroupSummary) : Json :=
  .obj [
    ("group_id".toList, .str self.groupId),
    ("package_name".toList, .str self.packageName),
    ("process_name".toList, .str self.processName),
    ("user_id".toList, .num self.userId),
    ("kind".toList, .str (kindName self.kind)),
    ("is_system_app".toList, .bool self.isSystemApp),
    ("is_main_process".toList, .bool self.isMainProcess),
    ("self_handled".toList, .bool self.selfHandled),
    ("summary_class".toList, optional .str self.summaryClass),
    ("summary_text".toList, optional .str self.summaryText),
    ("occurrence".toList, .num self.occurrence),
    ("first_seen_ms".toList, .num self.firstSeenMs.val),
    ("last_seen_ms".toList, .num self.lastSeenMs.val),
    ("payload_bytes".toList, .num self.payloadBytes),
    ("muted_until_ms".toList, optional (fun untilMs => .num untilMs.val) self.mutedUntilMs),
    ("package_installed".toList, .bool self.packageInstalled)]

def recordJson (self : RecordSummary) : Json :=
  .obj [
    ("id".toList, .str self.id.text),
    ("group_id".toList, .str self.groupId),
    ("happened_at_ms".toList, .num self.happenedAtMs.val),
    ("pid".toList, .num self.pid),
    ("sources".toList, .num self.sources.bits.toNat),
    ("app_version_name".toList, optional .str self.appVersionName),
    ("app_version_code".toList, optional .num self.appVersionCode),
    ("is_foreground".toList, optional .bool self.isForeground),
    ("is_repeating".toList, .bool self.isRepeating),
    ("dropped_count".toList, optional (fun count => .num count) self.droppedCount),
    ("payload_bytes".toList, .num self.payloadBytes),
    ("payload_state".toList, .str (stateName self.payloadState))]

structure RecordDetail where
  record : RecordSummary
  group : GroupSummary

def RecordDetail.toJson (self : RecordDetail) : Json :=
  .obj [("record".toList, recordJson self.record), ("group".toList, groupJson self.group)]

def Page.toJson {α : Type} (item : α → Json) (self : Page α) : Json :=
  .obj [
    ("items".toList, .arr (self.items.map item)),
    ("next_cursor".toList, optional (fun cursor => .str cursor.display) self.nextCursor)]

def maxPayloadChunkBytes : Nat := 256 * 1024

structure PayloadChunk where
  offset : UInt64
  text : Str
  nextOffset : Nat
  eof : Bool

def PayloadChunk.toJson (self : PayloadChunk) : Json :=
  .obj [
    ("offset".toList, .num self.offset.toNat),
    ("text".toList, .str self.text),
    ("next_offset".toList, .num self.nextOffset),
    ("eof".toList, .bool self.eof)]

structure RuntimeLogFile where
  name : Str
  bytes : Nat
  modifiedMs : Int
deriving DecidableEq

def RuntimeLogFile.toJson (self : RuntimeLogFile) : Json :=
  .obj [
    ("name".toList, .str self.name),
    ("bytes".toList, .num self.bytes),
    ("modified_ms".toList, .num self.modifiedMs)]

structure RuntimeLog where
  name : Str
  text : Str
  truncated : Bool
  totalBytes : Nat
  files : List RuntimeLogFile

inductive ExportFormat where
  | text
  | json
deriving DecidableEq

inductive Response where
  | handshake (protocolVersion : Nat) (daemonVersion : Str)
  | groups (page : Page GroupSummary)
  | payloadChunk (chunk : PayloadChunk)
  | exported (text : Str)
  | runtimeLog (log : RuntimeLog)

def Response.toJson (self : Response) : Json :=
  let tagged (tag : String) (members : List (Str × Json)) : Json :=
    .obj (("response".toList, .str tag.toList) :: members)
  match self with
  | handshake protocolVersion daemonVersion =>
      tagged "handshake_result" [
        ("protocol_version".toList, .num protocolVersion),
        ("daemon_version".toList, .str daemonVersion)]
  | groups page => tagged "groups" [("page".toList, page.toJson groupJson)]
  | payloadChunk chunk => tagged "payload_chunk" [("chunk".toList, chunk.toJson)]
  | exported text => tagged "export" [("text".toList, .str text)]
  | runtimeLog log =>
      tagged "runtime_log" [
        ("name".toList, .str log.name),
        ("text".toList, .str log.text),
        ("truncated".toList, .bool log.truncated),
        ("total_bytes".toList, .num log.totalBytes),
        ("files".toList, .arr (log.files.map RuntimeLogFile.toJson))]

/-- Exactly one of a response and an error, under the request's `seq`. -/
structure ResponseEnvelope where
  seq : UInt64
  result : Except WireError Response

namespace ResponseEnvelope

def toJson (self : ResponseEnvelope) : Json :=
  let (name, value) := match self.result with
    | .ok response => ("ok".toList, response.toJson)
    | .error error => ("err".toList, error.toJson)
  .obj [("seq".toList, .num self.seq.toNat), (name, value)]

def body (self : ResponseEnvelope) : List UInt8 := toVec self.toJson

end ResponseEnvelope

/-! The sizes of encoded answers: fixed parts, the decimal numbers, and the escaped texts. -/

theorem size_ok (seq : UInt64) (response : Response) :
    (ResponseEnvelope.mk seq (.ok response)).body.length =
      14 + digits seq.toNat + Utf8.size response.toJson.compact := by
  rw [ResponseEnvelope.body, length_toVec, ResponseEnvelope.toJson, size_compact_obj]
  have names : frameSize ["seq".toList, "ok".toList] = 14 := by decide
  simp only [List.map_cons, List.map_nil, names, total, size_compact_num]
  omega

theorem size_err (seq : UInt64) (error : WireError) :
    (ResponseEnvelope.mk seq (.error error)).body.length =
      39 + digits seq.toNat + (escapedSize error.code.name + escapedSize error.message) := by
  rw [ResponseEnvelope.body, length_toVec, ResponseEnvelope.toJson, size_compact_obj]
  have names : frameSize ["seq".toList, "err".toList] = 15 := by decide
  have names' : frameSize ["code".toList, "message".toList] = 20 := by decide
  simp only [List.map_cons, List.map_nil, names, total, size_compact_num, WireError.toJson,
    size_compact_obj, names', size_compact_str]
  omega

/-- What a group's row takes in a page: its texts escaped, its numbers and names, and the rest. -/
def groupSize (self : GroupSummary) : Nat :=
  260 + (escapedSize self.groupId + escapedSize self.packageName + escapedSize self.processName +
    optionalSize (fun text => escapedSize text + 2) self.summaryClass +
    optionalSize (fun text => escapedSize text + 2) self.summaryText) +
  (digits self.userId + escapedSize (kindName self.kind) + digits self.occurrence +
    digits self.firstSeenMs.val + digits self.lastSeenMs.val + digits self.payloadBytes +
    optionalSize (fun untilMs => digits untilMs.val) self.mutedUntilMs) +
  (boolSize self.isSystemApp + boolSize self.isMainProcess + boolSize self.selfHandled +
    boolSize self.packageInstalled)

theorem size_groupJson (self : GroupSummary) : Utf8.size (groupJson self).compact = groupSize self := by
  have names : frameSize ["group_id".toList, "package_name".toList, "process_name".toList,
    "user_id".toList, "kind".toList, "is_system_app".toList, "is_main_process".toList,
    "self_handled".toList, "summary_class".toList, "summary_text".toList, "occurrence".toList,
    "first_seen_ms".toList, "last_seen_ms".toList, "payload_bytes".toList, "muted_until_ms".toList,
    "package_installed".toList] = 252 := by decide +kernel
  rw [groupJson, size_compact_obj]
  simp only [List.map_cons, List.map_nil, names, total, size_compact_num, size_compact_str,
    size_compact_bool, size_compact_optional, groupSize]
  omega

end CrashCatcher.Wire
