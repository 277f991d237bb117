import CrashCatcher.Daemon.Server
import CrashCatcher.Store.Quiet

namespace CrashCatcher.Daemon
open Lib Lib.Json Lib.Text Model Wire Store Fallible

/-- What a text that decodes these bytes takes between quotes: its own bytes, one more for each
character with a short escape and five more for each other control character. -/
def textCost (bytes : List UInt8) : Nat :=
  Utf8.size (Utf8.fromUtf8Lossy bytes) + bytes.countP (fun b => isShort (Char.ofNat b.toNat)) +
    5 * bytes.countP fun b => isControl (Char.ofNat b.toNat)

theorem isShort_ascii (c : Char) (short : isShort c = true) : c.toNat < 0x80 := by
  unfold isShort shortEscape at short
  split at short <;> first | decide | cases short

theorem isControl_ascii (c : Char) (control : isControl c = true) : c.toNat < 0x80 := by
  simp only [isControl, Bool.and_eq_true, decide_eq_true_eq] at control
  omega

theorem escapedSize_fromUtf8Lossy (bytes : List UInt8) :
    escapedSize (Utf8.fromUtf8Lossy bytes) = textCost bytes := by
  rw [escapedSize, Utf8.countP_fromUtf8Lossy isShort_ascii, Utf8.countP_fromUtf8Lossy isControl_ascii,
    textCost]

theorem digits_u64_le (n : UInt64) : digits n.toNat ≤ 20 :=
  digits_natCast_le (by decide) (n.toNat_lt.trans (by decide))

/-! Chunks of a payload. -/

theorem length_truncateUtf8_pos {bytes : List UInt8} {limit : Nat} (some : bytes ≠ [])
    (room : 0 < limit) : 0 < (truncateUtf8 bytes limit).length := by
  have length : 0 < bytes.length := List.length_pos_iff.mpr some
  unfold truncateUtf8
  split_ifs with whole none
  · exact length
  · rw [List.length_take]
    omega
  · rw [List.length_take]
    omega

theorem nextOffset_advances (bytes : List UInt8) (offset : UInt64) {len : UInt32} (room : 0 < len.toNat) :
    bytes.length ≤ PayloadStore.nextOffset bytes offset len ∨
      offset.toNat < PayloadStore.nextOffset bytes offset len := by
  unfold PayloadStore.nextOffset
  by_cases past : bytes.length ≤ offset.toNat
  · exact .inl (by omega)
  · refine .inr ?_
    have rest : bytes.drop (min offset.toNat bytes.length) ≠ [] := by
      rw [Ne, List.drop_eq_nil_iff]
      omega
    have chunk : 0 < (PayloadStore.chunkOf bytes offset len).length :=
      length_truncateUtf8_pos rest (by omega)
    omega

section
variable (services : Services) {s : StoreState}

def Stores (s : StoreState) (id : RecordId) (bytes : List UInt8) : Prop :=
  readPayloadBytes services.decodeAll id (quiet s) = (.ok bytes, quiet s)

theorem readPayloadChunk_run (decodeAll : List UInt8 → Option (List UInt8)) (id : RecordId)
    (offset : UInt64) (len : UInt32) (world : World) :
    readPayloadChunk decodeAll id offset len world =
      match readPayloadBytes decodeAll id world with
      | (.ok bytes, world) =>
          (.ok (Utf8.fromUtf8Lossy (PayloadStore.chunkOf bytes offset len),
            PayloadStore.nextOffset bytes offset len,
            decide (PayloadStore.nextOffset bytes offset len ≥ bytes.length)), world)
      | (.error error, world) => (.error error, world) := by
  unfold readPayloadChunk readPayloadBytes
  rw [bind_run, bind_run]
  rcases payloadLocation id world with ⟨location | location, world'⟩
  · rfl
  · unfold PayloadStore.readChunk
    simp only [bind_run]
    rcases PayloadStore.readBytes decodeAll location.1 location.2 world' with ⟨bytes | bytes, world''⟩ <;> rfl

def servedLen (len : UInt32) : UInt32 := UInt32.ofNat (min len.toNat maxPayloadChunkBytes)

theorem toNat_servedLen (len : UInt32) : (servedLen len).toNat = min len.toNat maxPayloadChunkBytes := by
  have small : min len.toNat maxPayloadChunkBytes < 2 ^ 32 :=
    Nat.lt_of_le_of_lt (Nat.min_le_right _ _) (by decide)
  rw [servedLen, UInt32.toNat_ofNat']
  exact Nat.mod_eq_of_lt small

def chunkAnswer (bytes : List UInt8) (offset : UInt64) (len : UInt32) : PayloadChunk where
  offset
  text := Utf8.fromUtf8Lossy (PayloadStore.chunkOf bytes offset (servedLen len))
  nextOffset := PayloadStore.nextOffset bytes offset (servedLen len)
  eof := decide (PayloadStore.nextOffset bytes offset (servedLen len) ≥ bytes.length)

theorem readPayload_stored {id : RecordId} {bytes : List UInt8} {handle : UInt64}
    (opened : services.payloadHandles handle = some id) (stored : Stores services s id bytes) (offset : UInt64)
    {len : UInt32} (some' : len ≠ 0) :
    services.readPayload handle offset len (quiet s) =
      (.ok (.payloadChunk (chunkAnswer bytes offset len)), quiet s) := by
  unfold Services.readPayload
  rw [if_neg some', opened]
  simp only [bind_run, readPayloadChunk_run]
  rw [stored]
  rfl

theorem dispatch_readPayload {id : RecordId} {bytes : List UInt8} {handle : UInt64}
    (opened : services.payloadHandles handle = some id) (stored : Stores services s id bytes)
    (seq offset : UInt64) {len : UInt32} (some' : len ≠ 0) :
    services.dispatch ⟨seq, .readPayload handle offset len⟩ (quiet s) =
      (⟨seq, .ok (.payloadChunk (chunkAnswer bytes offset len))⟩, quiet s) := by
  have read := readPayload_stored services opened stored offset some'
  unfold Services.dispatch Services.handleRequest
  simp only [read]

def chunkReplySize (bytes : List UInt8) (seq offset : UInt64) (len : UInt32) : Nat :=
  let next := PayloadStore.nextOffset bytes offset (servedLen len)
  94 + digits seq.toNat + digits offset.toNat + digits next +
    boolSize (decide (next ≥ bytes.length)) +
    textCost (PayloadStore.chunkOf bytes offset (servedLen len))

theorem size_chunkAnswer (bytes : List UInt8) (seq offset : UInt64) (len : UInt32) :
    (ResponseEnvelope.mk seq (.ok (.payloadChunk (chunkAnswer bytes offset len)))).body.length =
      chunkReplySize bytes seq offset len := by
  have outer : frameSize ["response".toList, "chunk".toList] = 22 := by decide
  have tag : escapedSize "payload_chunk".toList = 13 := by decide
  have inner : frameSize ["offset".toList, "text".toList, "next_offset".toList, "eof".toList] = 41 := by
    decide
  rw [size_ok, Response.toJson, size_compact_obj, PayloadChunk.toJson]
  simp only [List.map_cons, List.map_nil, outer, total, size_compact_str, tag, size_compact_obj, inner,
    size_compact_num, size_compact_bool]
  simp only [chunkAnswer, escapedSize_fromUtf8Lossy, chunkReplySize]
  omega

def ChunkServed (s : StoreState) (seq handle offset : UInt64) (len : UInt32) : Prop :=
  let response := (services.dispatch ⟨seq, .readPayload handle offset len⟩ (quiet s)).1
  FitsFrame response.body ∧
    ∀ chunk, response.result = .ok (.payloadChunk chunk) → chunk.eof ∨ offset.toNat < chunk.nextOffset

theorem chunkServed_iff {id : RecordId} {bytes : List UInt8} {handle : UInt64}
    (opened : services.payloadHandles handle = some id) (stored : Stores services s id bytes)
    (seq offset : UInt64) (len : UInt32) :
    ChunkServed services s seq handle offset len ↔
      len = 0 ∨ chunkReplySize bytes seq offset len ≤ maxFrameBodyBytes := by
  unfold ChunkServed
  by_cases none : len = 0
  · refine iff_of_true ⟨?_, ?_⟩ (.inl none)
    · have refused : services.dispatch ⟨seq, .readPayload handle offset len⟩ (quiet s) =
          (⟨seq, .error (.invalidRequest "payload chunk length must be non-zero".toList)⟩, quiet s) := by
        unfold Services.dispatch Services.handleRequest Services.readPayload
        simp only [if_pos none]
        rfl
      have texts : escapedSize ErrorCode.invalidRequest.name +
          escapedSize "payload chunk length must be non-zero".toList = 52 := by decide
      have digits := digits_u64_le seq
      rw [refused, fitsFrame_iff, size_err]
      show 39 + _ + (escapedSize ErrorCode.invalidRequest.name +
        escapedSize "payload chunk length must be non-zero".toList) ≤ 1024 * 1024
      omega
    · intro chunk answered
      unfold Services.dispatch Services.handleRequest Services.readPayload at answered
      simp only [if_pos none] at answered
      cases answered
  · rw [dispatch_readPayload services opened stored seq offset none]
    simp only [fitsFrame_iff, size_chunkAnswer, none, false_or]
    refine and_iff_left ?_
    intro chunk answered
    cases answered
    have room : 0 < (servedLen len).toNat := by
      have positive : len.toNat ≠ 0 := fun zero => none (UInt32.toNat_inj.mp zero)
      have limit : 0 < maxPayloadChunkBytes := by decide
      rw [toNat_servedLen]
      omega
    simpa [chunkAnswer] using nextOffset_advances bytes offset room

/-! The tail of a log. -/

/-- The bytes whose text is shown: from the first line that starts within the last `budget`. -/
def tailBytes (bytes : List UInt8) (budget : Nat) : List UInt8 :=
  let tail := bytes.drop (bytes.length - budget)
  if bytes.length > budget then (tail.dropWhile (· ≠ 0x0A)).tail else tail

theorem text_readTail (bytes : List UInt8) (budget : Nat) :
    (readTail (some bytes) budget).text = Utf8.fromUtf8Lossy (tailBytes bytes budget) := by
  have newline : Char.ofNat (0x0A : UInt8).toNat = '\n' := by decide
  have start : Utf8.Decoding.Sound .start := trivial
  have split := Utf8.splitOnce_lossyFrom (b := 0x0A) (by decide) start
    (bytes.drop (bytes.length - budget))
  rw [newline] at split
  simp only [readTail, tailBytes, decide_eq_true_eq]
  split_ifs
  · exact split
  · rfl

def listingSize (files : List RuntimeLogFile) : Nat :=
  2 + total (fun file => 35 + escapedSize file.name + digits file.bytes + digits file.modifiedMs) files +
    (files.length - 1)

def selectedLog (logs : LogDirectory) (name : Option Str) : Option RuntimeLogFile :=
  (name.bind fun name => logs.listFiles.find? fun file => file.name = name).or logs.listFiles.head?

def logBudget (maxBytes : UInt64) : Nat :=
  max (4 * 1024) (min (if maxBytes = 0 then defaultLogBytes else maxBytes.toNat) maxLogBytes)

/-- What a log's text, its length and the truncation mark take; a blank tail shows a fixed note. -/
def logContentSize (content : Option (List UInt8)) (budget : Nat) : Nat :=
  match content with
  | none => 15
  | some bytes =>
      boolSize (decide (bytes.length > budget)) + digits bytes.length +
        if (trim (Utf8.fromUtf8Lossy (tailBytes bytes budget))).isEmpty then 9
        else textCost (tailBytes bytes budget)

def logReplySize (logs : LogDirectory) (name : Option Str) (seq maxBytes : UInt64) : Nat :=
  97 + digits seq.toNat + listingSize logs.listFiles +
    match selectedLog logs name with
    | none => 21
    | some selected =>
        escapedSize selected.name + logContentSize (logs.resolve selected.name) (logBudget maxBytes)

theorem size_listing (files : List RuntimeLogFile) :
    Utf8.size (Json.arr (files.map RuntimeLogFile.toJson)).compact = listingSize files := by
  have names : frameSize ["name".toList, "bytes".toList, "modified_ms".toList] = 33 := by decide
  have row : ∀ file : RuntimeLogFile, Utf8.size file.toJson.compact =
      35 + escapedSize file.name + digits file.bytes + digits file.modifiedMs := by
    intro file
    rw [RuntimeLogFile.toJson, size_compact_obj]
    simp only [List.map_cons, List.map_nil, names, total, size_compact_str, size_compact_num]
    omega
  rw [size_compact_arr, total_map, List.length_map, listingSize]
  simp only [row]

theorem size_runtimeLog (seq : UInt64) (log : RuntimeLog) :
    (ResponseEnvelope.mk seq (.ok (.runtimeLog log))).body.length =
      97 + digits seq.toNat + listingSize log.files + (escapedSize log.name +
        (boolSize log.truncated + digits log.totalBytes + escapedSize log.text)) := by
  have names : frameSize ["response".toList, "name".toList, "text".toList, "truncated".toList,
    "total_bytes".toList, "files".toList] = 66 := by decide
  have tag : escapedSize "runtime_log".toList = 11 := by decide
  rw [size_ok, Response.toJson, size_compact_obj]
  simp only [List.map_cons, List.map_nil, names, total, size_compact_str, tag, size_compact_num,
    size_compact_bool, size_listing]
  omega

theorem logContentSize_readTail (content : Option (List UInt8)) (budget : Nat) :
    boolSize (readTail content budget).truncated + digits (readTail content budget).totalBytes +
        escapedSize (if (trim (readTail content budget).text).isEmpty then "(empty)\n".toList
          else (readTail content budget).text) =
      logContentSize content budget := by
  have blank : escapedSize "(empty)\n".toList = 9 := by decide
  cases content with
  | none =>
      have none : boolSize false + digits (0 : Nat) + escapedSize "(empty)\n".toList = 15 := by decide
      exact none
  | some bytes =>
      rw [text_readTail, apply_ite escapedSize, blank, escapedSize_fromUtf8Lossy]
      rfl

theorem size_readRuntimeLog (logs : LogDirectory) (name : Option Str) (seq maxBytes : UInt64) :
    (ResponseEnvelope.mk seq (.ok (.runtimeLog (readRuntimeLog logs name
      (if maxBytes = 0 then defaultLogBytes else maxBytes.toNat))))).body.length =
      logReplySize logs name seq maxBytes := by
  rw [size_runtimeLog, logReplySize]
  unfold readRuntimeLog selectedLog
  dsimp only
  cases (name.bind fun name => logs.listFiles.find? fun file => file.name = name).or
      logs.listFiles.head? with
  | none =>
      have empty : escapedSize [] + (boolSize false + digits (0 : Nat) +
        escapedSize "(no logs yet)\n".toList) = 21 := by decide
      rw [← empty]
  | some selected =>
      have content := logContentSize_readTail (logs.resolve selected.name) (logBudget maxBytes)
      simp only [← content]
      rfl

theorem logServed_iff (seq : UInt64) (name : Option Str) (maxBytes : UInt64) :
    FitsFrame (services.dispatch ⟨seq, .readRuntimeLog name maxBytes⟩ (quiet s)).1.body ↔
      logReplySize services.logs name seq maxBytes ≤ maxFrameBodyBytes := by
  rw [← size_readRuntimeLog]
  exact fitsFrame_iff

/-- Which chunk requests and which log requests are answered within a frame. -/
theorem replies_fit_iff (s : StoreState) :
    (∀ id bytes handle, services.payloadHandles handle = some id → Stores services s id bytes →
      ∀ seq offset len, ChunkServed services s seq handle offset len ↔
        len = 0 ∨ chunkReplySize bytes seq offset len ≤ maxFrameBodyBytes) ∧
    ∀ seq name maxBytes,
      FitsFrame (services.dispatch ⟨seq, .readRuntimeLog name maxBytes⟩ (quiet s)).1.body ↔
        logReplySize services.logs name seq maxBytes ≤ maxFrameBodyBytes := by
  constructor
  · intro id bytes handle opened stored seq offset len
    exact chunkServed_iff services opened stored seq offset len
  · intro seq name maxBytes
    exact logServed_iff services seq name maxBytes

end

def storeWith (content : List UInt8) : StoreState :=
  quietStep plainPlatform .empty (.insert { oneByteCrash with payload := .inline content } {} [] 0)

def firstId : RecordId := StoreState.empty.newId oneByteCrash.happenedAtMs

def plainServices : Services where
  daemonVersion := "1".toList
  decodeAll := some
  systemMessage _ := "failed".toList
  payloadHandles handle := if handle = 1 then some firstId else none
  logs := { current := [], old := [] }

theorem stores_storeWith {content : List UInt8} (nonempty : content ≠ [])
    (fits : content.length ≤ 2 * 1024 * 1024) :
    Stores plainServices (storeWith content) firstId content := by
  have fresh : ∀ row ∈ StoreState.empty.db.records.rows, row.id ≠ firstId := by
    intro row stored
    cases stored
  have inline : { oneByteCrash with payload := .inline content : CrashRecord }.payload =
      .inline content := rfl
  exact insert_inline_quiet plainPlatform inline nonempty fits rfl RecordIdGenerator.fits_new fresh

theorem replies_fit_of_two_bytes :
    ChunkServed plainServices (storeWith [65, 66]) 7 1 0 1 ↔
      (1 : UInt32) = 0 ∨ chunkReplySize [65, 66] 7 0 1 ≤ maxFrameBodyBytes :=
  (replies_fit_iff plainServices (storeWith [65, 66])).1 firstId [65, 66] 1 rfl
    (stores_storeWith nofun (by decide)) 7 0 1

/-- A payload of 256 KiB of zero bytes cannot be answered with one chunk. -/
theorem control_bytes_overflow_a_frame :
    ∃ s id bytes handle offset len, Reachable plainPlatform s ∧
      plainServices.payloadHandles handle = some id ∧ Stores plainServices s id bytes ∧
      ¬ ChunkServed plainServices s 1 handle offset len := by
  let bytes := List.replicate 262144 (0 : UInt8)
  have length : bytes.length = 262144 := List.length_replicate
  have nonempty : bytes ≠ [] := by
    intro empty
    rw [empty] at length
    cases length
  have stored := stores_storeWith nonempty (by rw [length]; decide)
  refine ⟨storeWith bytes, firstId, bytes, 1, 0, 262144, .step _ _ .empty, rfl, stored, ?_⟩
  rw [chunkServed_iff plainServices rfl stored]
  have whole : PayloadStore.chunkOf bytes 0 (servedLen 262144) = bytes := by
    have start : (0 : UInt64).toNat = 0 := rfl
    have served : (servedLen 262144).toNat = 262144 := by decide
    unfold PayloadStore.chunkOf truncateUtf8
    rw [start, served, length]
    exact if_pos (by rw [List.length_drop, length]; decide)
  have controls : bytes.countP (fun b => isControl (Char.ofNat b.toNat)) = 262144 := by
    rw [List.countP_replicate]
    exact if_pos (by decide)
  have cost : 5 * 262144 ≤ textCost bytes := by
    rw [textCost, controls]
    exact Nat.le_add_left _ _
  have limit : maxFrameBodyBytes = 1048576 := rfl
  rintro (none | fits)
  · cases none
  · rw [chunkReplySize, whole] at fits
    omega

end CrashCatcher.Daemon
