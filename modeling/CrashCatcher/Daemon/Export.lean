import CrashCatcher.Daemon.Replies

namespace CrashCatcher.Daemon
open Lib Lib.Json Model Wire Store Fallible

section
variable (services : Services) (s : StoreState)

def storedDetail (id : RecordId) : Option RecordDetail := do
  let row ← s.db.records.find? id
  let group ← s.db.groups.find? (mapRecord row).groupId
  pure { record := mapRecord row, group }

def storedText (id : RecordId) : Str :=
  match (readPayloadText services.decodeAll id (quiet s)).1 with
  | .ok text => text
  | .error error => "[payload unavailable: ".toList ++ error.display services.systemMessage ++ "]".toList

theorem readBytes_quiet (decodeAll : List UInt8 → Option (List UInt8)) (path : Str)
    (codec : PayloadCodec) :
    (PayloadStore.readBytes decodeAll path codec (quiet s)).2 = quiet s := by
  unfold PayloadStore.readBytes
  split_ifs
  · simp only [bind_run, attempt_quiet, Fallible.get, quiet_store]
    cases s.files path with
    | none => rfl
    | some content =>
        cases codec with
        | raw => rfl
        | zstd => cases decoded : decodeAll content <;> simp only [decoded] <;> rfl
  · rfl

theorem payloadLocation_quiet (id : RecordId) : (payloadLocation id (quiet s)).2 = quiet s := by
  unfold payloadLocation
  simp only [bind_run, query_quiet]
  cases s.db.records.find? id with
  | none => rfl
  | some row =>
      cases path : row.payloadPath with
      | none => simp only [path]; rfl
      | some _ =>
          simp only [path]
          split_ifs <;> rfl

theorem readPayloadBytes_unchanged (decodeAll : List UInt8 → Option (List UInt8)) (id : RecordId) :
    (readPayloadBytes decodeAll id (quiet s)).2 = quiet s := by
  have located := payloadLocation_quiet s id
  unfold readPayloadBytes
  rw [bind_run]
  rcases found : payloadLocation id (quiet s) with ⟨location | location, world⟩
  · rw [found] at located
    exact located
  · rw [found] at located
    cases located
    exact readBytes_quiet s decodeAll location.1 location.2

theorem readPayloadText_quiet (decodeAll : List UInt8 → Option (List UInt8)) (id : RecordId) :
    (readPayloadText decodeAll id (quiet s)).2 = quiet s := by
  have bytes := readPayloadBytes_unchanged s decodeAll id
  unfold readPayloadText
  rw [bind_run]
  rcases read : readPayloadBytes decodeAll id (quiet s) with ⟨content | content, world⟩ <;>
    · rw [read] at bytes
      exact bytes

theorem exportEntry_quiet {id : RecordId} {detail : RecordDetail} (stored : storedDetail s id = some detail)
    (redaction : ExportRedaction) :
    services.exportEntry redaction id (quiet s) =
      (.ok (Services.redact redaction detail, storedText services s id), quiet s) := by
  have got : getRecord id (quiet s) = (.ok detail, quiet s) := by
    unfold storedDetail at stored
    simp only [Option.bind_eq_bind, Option.bind_eq_some_iff] at stored
    obtain ⟨row, found, group, grouped, made⟩ := stored
    cases made
    have read : querySome (fun db => db.groups.find? (mapRecord row).groupId) (quiet s) =
        (.ok group, quiet s) := querySome_quiet grouped
    unfold getRecord
    simp only [bind_run, query_quiet, found, read]
    rfl
  have text : (readPayloadText services.decodeAll id).recover (fun error =>
      pure ("[payload unavailable: ".toList ++ error.display services.systemMessage ++ "]".toList))
        (quiet s) = (.ok (storedText services s id), quiet s) := by
    have unchanged := readPayloadText_quiet s services.decodeAll id
    unfold recover storedText
    rcases read : readPayloadText services.decodeAll id (quiet s) with ⟨content | content, world⟩ <;>
      · rw [read] at unchanged
        cases unchanged
        rfl
  unfold Services.exportEntry
  exact (bind_of_ok got).trans ((bind_of_ok text).trans rfl)

def entryOf (redaction : ExportRedaction) (id : RecordId) : Option (RecordDetail × Str) :=
  (storedDetail s id).map fun detail => (Services.redact redaction detail, storedText services s id)

theorem exportEntries_quiet (redaction : ExportRedaction) {ids : List RecordId}
    (stored : ∀ id ∈ ids, (storedDetail s id).isSome) :
    services.exportEntries redaction ids (quiet s) =
      (.ok (ids.filterMap (entryOf services s redaction)), quiet s) := by
  induction ids with
  | nil => rfl
  | cons id rest ih =>
      obtain ⟨detail, found⟩ := Option.isSome_iff_exists.mp (stored id List.mem_cons_self)
      have first := exportEntry_quiet services s found redaction
      have later := ih fun other member => stored other (List.mem_cons_of_mem _ member)
      have shown : entryOf services s redaction id =
          some (Services.redact redaction detail, storedText services s id) := by
        rw [entryOf, found]
        rfl
      rw [List.filterMap_cons_some shown]
      unfold Services.exportEntries
      exact (bind_of_ok first).trans ((bind_of_ok later).trans rfl)

theorem storedDetail_of_kept (kept : WellKept s.db) {row : RecordRow} (stored : row ∈ s.db.records.rows) :
    (storedDetail s row.id).isSome := by
  have found : s.db.records.find? row.id = some row := (Table.find?_eq_some_iff _).mpr ⟨stored, rfl⟩
  obtain ⟨group, member, same⟩ := List.mem_map.mp (kept.grouped row stored)
  have grouped : s.db.groups.find? (mapRecord row).groupId = some group :=
    (Table.find?_eq_some_iff _).mpr ⟨member, same⟩
  unfold storedDetail
  rw [found]
  show ((s.db.groups.find? (mapRecord row).groupId).bind _).isSome
  rw [grouped]
  rfl

end

/-! How much an export takes. -/

def entrySize (format : ExportFormat) (entry : RecordDetail × Str) : Nat :=
  match format with
  | .text => escapedSize (Services.entryText entry)
  | .json => escapedSize (pretty 1 (Services.entryJson entry))

def exportSize (format : ExportFormat) (entries : List (RecordDetail × Str)) : Nat :=
  match format with
  | .text => total (entrySize .text) entries + (entries.length - 1) * 7
  | .json => 8 + total (entrySize .json) entries + (entries.length - 1) * 5

theorem escapedSize_exportText {format : ExportFormat} {entries : List (RecordDetail × Str)}
    (some' : entries ≠ []) : escapedSize (Services.exportText format entries) = exportSize format entries := by
  cases format with
  | text =>
      have separator : escapedSize "\n---\n".toList = 7 := by decide
      show escapedSize (joined _ _) = _
      rw [escapedSize_joined, separator, total_map, List.length_map]
      rfl
  | json =>
      have separator : escapedSize (',' :: '\n' :: indent 1) = 5 := by decide
      have left : escapedSize ('[' :: '\n' :: indent 1) = 5 := by decide
      have right : escapedSize ('\n' :: indent 0 ++ [']']) = 3 := by decide
      obtain ⟨entry, rest, rfl⟩ := List.exists_cons_of_ne_nil some'
      have laid : Services.exportText .json (entry :: rest) = ('[' :: '\n' :: indent 1) ++
          (joined (',' :: '\n' :: indent 1) (((entry :: rest).map Services.entryJson).map (pretty 1)) ++
            ('\n' :: indent 0 ++ [']'])) := by
        rw [← prettyItems_eq_map]
        simp [Services.exportText, pretty, block, prettyItems]
      rw [laid, escapedSize_append, escapedSize_append, left, right, escapedSize_joined, separator,
        total_map, total_map, List.length_map, List.length_map]
      have rows : total (fun entry => escapedSize (pretty 1 (Services.entryJson entry))) (entry :: rest) =
          total (entrySize .json) (entry :: rest) := rfl
      rw [rows, exportSize]
      omega

theorem size_exported (seq : UInt64) (text : Str) :
    (ResponseEnvelope.mk seq (.ok (.exported text))).body.length =
      45 + digits seq.toNat + escapedSize text := by
  have names : frameSize ["response".toList, "text".toList] = 21 := by decide
  have tag : escapedSize "export".toList = 6 := by decide
  rw [size_ok, Response.toJson, size_compact_obj]
  simp only [List.map_cons, List.map_nil, names, total, size_compact_str, tag]
  omega

section
variable (services : Services) {s : StoreState}

/-- One answer to the request is written and the connection stays open. -/
def Answered (s : StoreState) (envelope : RequestEnvelope) : Prop :=
  ∃ (response : ResponseEnvelope) (frame : List UInt8), response.seq = envelope.seq ∧
    encodeFrame response.body = .ok frame ∧
    (managerControl services true envelope (quiet s)).1 = ([frame], .serving true)

theorem answered_iff (envelope : RequestEnvelope) : Answered services s envelope ↔
    FitsFrame (services.dispatch envelope (quiet s)).1.body := by
  have seq : (services.dispatch envelope (quiet s)).1.seq = envelope.seq := by
    unfold Services.dispatch
    rcases services.handleRequest envelope.request (quiet s) with ⟨_ | _, _⟩ <;> rfl
  have control : (managerControl services true envelope (quiet s)).1 =
      writeJsonFrame (services.dispatch envelope (quiet s)).1 (.serving true) := by
    unfold managerControl
    rw [if_pos rfl]
  unfold Answered
  rw [control]
  constructor
  · rintro ⟨response, frame, -, -, wrote⟩
    unfold writeJsonFrame at wrote
    cases encoded : encodeFrame (services.dispatch envelope (quiet s)).1.body with
    | ok written => exact ⟨written, encoded⟩
    | error error =>
        rw [encoded] at wrote
        cases wrote
  · rintro ⟨frame, encoded⟩
    refine ⟨_, frame, seq, encoded, ?_⟩
    rw [writeJsonFrame, encoded]

/-- In a reachable store, an export of stored records is answered on a connection that stays open
exactly when the entries of its text leave room in the frame. -/
theorem export_answered_iff {platform : Platform} (reachable : Reachable platform s) (seq : UInt64)
    {ids : List RecordId} (stored : ∀ id ∈ ids, ∃ row ∈ s.db.records.rows, row.id = id)
    (format : ExportFormat) (redaction : ExportRedaction) :
    Answered services s ⟨seq, .exportRecords ids format redaction⟩ ↔
      ids = [] ∨ 45 + digits seq.toNat +
        exportSize format (ids.filterMap (entryOf services s redaction)) ≤ maxFrameBodyBytes := by
  rw [answered_iff]
  cases ids with
  | nil =>
      have refused : services.dispatch ⟨seq, .exportRecords [] format redaction⟩ (quiet s) =
          (⟨seq, .error (.invalidRequest "export requires at least one record".toList)⟩, quiet s) := rfl
      have texts : escapedSize ErrorCode.invalidRequest.name +
          escapedSize "export requires at least one record".toList = 50 := by decide
      have digits := digits_u64_le seq
      rw [refused, fitsFrame_iff, size_err]
      refine iff_of_true ?_ (.inl rfl)
      show 39 + _ + (escapedSize ErrorCode.invalidRequest.name +
        escapedSize "export requires at least one record".toList) ≤ 1024 * 1024
      omega
  | cons id rest =>
      have known : ∀ other ∈ id :: rest, (storedDetail s other).isSome := by
        intro other member
        obtain ⟨row, present, rfl⟩ := stored other member
        exact storedDetail_of_kept s reachable.kept.2 present
      have entries := exportEntries_quiet services s redaction known
      have some' : (id :: rest).filterMap (entryOf services s redaction) ≠ [] := by
        obtain ⟨detail, found⟩ := Option.isSome_iff_exists.mp (known id List.mem_cons_self)
        have shown : entryOf services s redaction id =
            some (Services.redact redaction detail, storedText services s id) := by
          rw [entryOf, found]
          rfl
        rw [List.filterMap_cons_some shown]
        exact List.cons_ne_nil _ _
      have exported : services.dispatch ⟨seq, .exportRecords (id :: rest) format redaction⟩ (quiet s) =
          (⟨seq, .ok (.exported (Services.exportText format
            ((id :: rest).filterMap (entryOf services s redaction))))⟩, quiet s) := by
        have ran : services.exportRecords (id :: rest) format redaction (quiet s) =
            (.ok (.exported (Services.exportText format
              ((id :: rest).filterMap (entryOf services s redaction)))), quiet s) := by
          unfold Services.exportRecords
          exact (bind_of_ok entries).trans rfl
        unfold Services.dispatch Services.handleRequest
        simp only [ran]
      rw [exported, fitsFrame_iff, size_exported, escapedSize_exportText some']
      simp

theorem stored_of_stores {id : RecordId} {bytes : List UInt8} (reads : Stores services s id bytes) :
    ∃ row ∈ s.db.records.rows, row.id = id := by
  cases found : s.db.records.find? id with
  | some row =>
      obtain ⟨member, same⟩ := (Table.find?_eq_some_iff _).mp found
      exact ⟨row, member, same⟩
  | none =>
      have located : payloadLocation id (quiet s) = (.error (.recordNotFound id.text), quiet s) := by
        unfold payloadLocation
        simp only [bind_run, query_quiet, found]
        rfl
      have failed : readPayloadBytes services.decodeAll id (quiet s) =
          (.error (.recordNotFound id.text), quiet s) := bind_of_error located
      cases failed.symm.trans reads

theorem storedText_of_stores {id : RecordId} {bytes : List UInt8} (reads : Stores services s id bytes) :
    storedText services s id = Utf8.fromUtf8Lossy bytes := by
  have text : readPayloadText services.decodeAll id (quiet s) =
      (.ok (Utf8.fromUtf8Lossy bytes), quiet s) := bind_of_ok reads
  rw [storedText, text]

end

theorem one_byte_export_answered :
    Answered plainServices (storeWith [65]) ⟨1, .exportRecords [firstId] .text {}⟩ ↔
      [firstId] = [] ∨ 45 + digits (1 : UInt64).toNat +
        exportSize .text ([firstId].filterMap (entryOf plainServices (storeWith [65]) {})) ≤
          maxFrameBodyBytes :=
  export_answered_iff plainServices (.step _ _ .empty : Reachable plainPlatform (storeWith [65])) 1
    (fun id member => List.mem_singleton.mp member ▸
      stored_of_stores plainServices (stores_storeWith nofun (by decide))) .text {}

/-- Exporting one record with a payload of 256 KiB of zero bytes ends the connection without an answer. -/
theorem export_ends_the_connection :
    ∃ s id format redaction, Reachable plainPlatform s ∧ (∃ row ∈ s.db.records.rows, row.id = id) ∧
      ¬ Answered plainServices s ⟨1, .exportRecords [id] format redaction⟩ := by
  have length : (List.replicate 262144 (0 : UInt8)).length = 262144 := List.length_replicate
  have overflows : ∀ bytes : List UInt8, bytes.length ≤ 2 * 1024 * 1024 →
      262144 ≤ bytes.countP (fun b => isControl (Char.ofNat b.toNat)) →
      Reachable plainPlatform (storeWith bytes) ∧
        (∃ row ∈ (storeWith bytes).db.records.rows, row.id = firstId) ∧
        ¬ Answered plainServices (storeWith bytes) ⟨1, .exportRecords [firstId] .text {}⟩ := by
    intro bytes fits controls
    have nonempty : bytes ≠ [] := by
      rintro rfl
      cases controls
    have reads := stores_storeWith nonempty fits
    have stored := stored_of_stores plainServices reads
    have reachable : Reachable plainPlatform (storeWith bytes) := .step _ _ .empty
    refine ⟨reachable, stored, ?_⟩
    have all : ∀ id ∈ [firstId], ∃ row ∈ (storeWith bytes).db.records.rows, row.id = id :=
      fun id member => List.mem_singleton.mp member ▸ stored
    rw [export_answered_iff plainServices reachable 1 all]
    obtain ⟨row, present, named⟩ := stored
    obtain ⟨detail, found⟩ := Option.isSome_iff_exists.mp
      (storedDetail_of_kept (storeWith bytes) reachable.kept.2 present)
    rw [named] at found
    have shown : entryOf plainServices (storeWith bytes) {} firstId =
        some (Services.redact {} detail, Utf8.fromUtf8Lossy bytes) := by
      rw [entryOf, found, Option.map_some, storedText_of_stores plainServices reads]
    have payload : 5 * 262144 ≤ escapedSize (Utf8.fromUtf8Lossy bytes) := by
      rw [escapedSize_fromUtf8Lossy, textCost]
      omega
    have entry : escapedSize (Utf8.fromUtf8Lossy bytes) ≤
        entrySize .text (Services.redact {} detail, Utf8.fromUtf8Lossy bytes) := by
      have line := escapedSize_append ['\n'] (Utf8.fromUtf8Lossy bytes)
      show _ ≤ escapedSize (_ ++ (['\n'] ++ Utf8.fromUtf8Lossy bytes) ++ ['\n'])
      rw [escapedSize_append, escapedSize_append, line]
      omega
    have most : maxFrameBodyBytes = 1048576 := rfl
    rintro (none | room)
    · cases none
    · rw [List.filterMap_cons_some shown, List.filterMap_nil, exportSize, total, total] at room
      omega
  have controls : 262144 ≤ (List.replicate 262144 (0 : UInt8)).countP
      (fun b => isControl (Char.ofNat b.toNat)) := by
    rw [List.countP_replicate, if_pos (by decide)]
  have fits : (List.replicate 262144 (0 : UInt8)).length ≤ 2 * 1024 * 1024 := by
    rw [length]
    decide
  obtain ⟨reachable, stored, lost⟩ := overflows _ fits controls
  exact ⟨_, firstId, .text, {}, reachable, stored, lost⟩

end CrashCatcher.Daemon
