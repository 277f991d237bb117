import CrashCatcher.Logd.EventFormat

namespace CrashCatcher.Logd
open Lib Checked LittleEndian ByteCursor

inductive EntryError where
  | parse (error : ParseError)
  | invalidHeaderSize (size : Nat)
  | unexpectedTag (tag : Int32)
  | wrongEventType (field : Str)
  | wrongValueCount (expected : Str) (actual : Nat)
deriving DecidableEq

def parsed {α : Type} : Checked ParseError α → Checked EntryError α
  | .ok a => .ok a
  | .error e => .error (.parse e)
  | .panicked => .panicked
  | .unfinished => .unfinished

structure EntryHeader where
  pid : Int32
  tid : UInt32
  seconds : UInt32
  nanoseconds : UInt32
  logId : Option UInt32
  uid : Option UInt32

structure LoggerEntry extends EntryHeader where
  payload : List UInt8

def maxLogPayloadBytes : Nat := 1024 * 1024

section Parse
variable (target : Target)

def readU16Le (field : Str) : Parser Nat := readNumber target 2 field

def readFrom (least headerSize : Nat) (field : Str) : Parser (Option UInt32) := fun cursor =>
  if headerSize ≥ least then do
    let (n, cursor) ← readU32Le target field cursor
    return (some n, cursor)
  else .ok (none, cursor)

def readHeader (headerSize : Nat) : Parser EntryHeader := fun cursor => do
  let (pid, cursor) ← readI32Le target "logger pid".toList cursor
  let (tid, cursor) ← readU32Le target "logger tid".toList cursor
  let (seconds, cursor) ← readU32Le target "logger seconds".toList cursor
  let (nanoseconds, cursor) ← readU32Le target "logger nanoseconds".toList cursor
  let (logId, cursor) ← readFrom target 24 headerSize "logger id".toList cursor
  let (uid, cursor) ← readFrom target 28 headerSize "logger uid".toList cursor
  return ({ pid, tid, seconds, nanoseconds, logId, uid }, cursor)

/-- The payload stands behind the header's own size, whatever the header holds. -/
def takePayload (bytes : List UInt8) (headerSize payloadLength : Nat) (header : EntryHeader) :
    Checked EntryError LoggerEntry :=
  let stop := headerSize + payloadLength
  if stop > target.usizeMax then .error (.parse (.integerOutOfRange "logger entry length".toList))
  else if stop > bytes.length then .error (.parse
    (.lengthOutOfBounds "logger payload".toList payloadLength (bytes.length - headerSize)))
  else do
    let payload ← slice bytes headerSize stop
    return { header with payload }

def parseLoggerEntry (bytes : List UInt8) : Checked EntryError LoggerEntry := do
  let (payloadLength, cursor) ← parsed (readU16Le target "logger payload length".toList (.new bytes))
  if payloadLength > maxLogPayloadBytes then
    .error (.parse (.limitExceeded "logger payload".toList maxLogPayloadBytes))
  else do
    let (headerSize, cursor) ← parsed (readU16Le target "logger header size".toList cursor)
    if headerSize < 20 ∨ headerSize > bytes.length then .error (.invalidHeaderSize headerSize)
    else do
      let (header, _) ← parsed (readHeader target headerSize cursor)
      takePayload target bytes headerSize payloadLength header

end Parse

namespace EntryHeader
variable (self : EntryHeader)

def encodeField (field : Option UInt32) : List UInt8 := (field.map fun n => toLe 4 n.toNat).getD []

def encode : List UInt8 :=
  encodeI32 self.pid ++ toLe 4 self.tid.toNat ++ toLe 4 self.seconds.toNat ++ toLe 4 self.nanoseconds.toNat ++
    encodeField self.logId ++ encodeField self.uid

def Sized (headerSize : Nat) : Prop :=
  (self.logId.isSome ↔ 24 ≤ headerSize) ∧ (self.uid.isSome ↔ 28 ≤ headerSize)

end EntryHeader

theorem readFrom_reads {target : Target} (least headerSize : Nat) (field : Str) :
    Reads target (readFrom target least headerSize field) (fun value => value.isSome ↔ least ≤ headerSize)
      EntryHeader.encodeField := by
  unfold readFrom
  by_cases large : headerSize ≥ least
  · simp only [if_pos large]
    have read := (@readU32Le_reads target field).map some (fun value => value.getD 0) fun _ _ => rfl
    refine read.congr (fun value => ?_) fun value valid => ?_
    · cases value <;> simp [large]
    · rw [valid.2]
      rfl
  · simp only [if_neg large]
    refine (Reads.pure none).congr (fun value => ?_) fun value valid => ?_
    · cases value <;> simp [large]
    · rw [valid]
      rfl

theorem readHeader_reads {target : Target} (headerSize : Nat) :
    Reads target (readHeader target headerSize) (EntryHeader.Sized · headerSize) EntryHeader.encode := by
  have word := fun field => @readU32Le_reads target field
  have uid (pid : Int32) (tid seconds nanoseconds : UInt32) (logId : Option UInt32) :=
    (@readFrom_reads target 28 headerSize "logger uid".toList).map
      (fun uid => ({ pid, tid, seconds, nanoseconds, logId, uid } : EntryHeader)) (·.uid) fun _ _ => rfl
  have logId (pid : Int32) (tid seconds nanoseconds : UInt32) :=
    (@readFrom_reads target 24 headerSize "logger id".toList).bind
      (fun logId _ => uid pid tid seconds nanoseconds logId)
        (·.logId) fun logId header _ valid => by rw [valid.2]
  have nanoseconds (pid : Int32) (tid seconds : UInt32) := (word "logger nanoseconds".toList).bind
    (fun nanoseconds _ => logId pid tid seconds nanoseconds) (·.nanoseconds)
    fun nanoseconds header _ valid => by rw [valid.2.2]
  have seconds (pid : Int32) (tid : UInt32) := (word "logger seconds".toList).bind
    (fun seconds _ => nanoseconds pid tid seconds) (·.seconds) fun seconds header _ valid => by rw [valid.2.2.2]
  have tid (pid : Int32) := (word "logger tid".toList).bind (fun tid _ => seconds pid tid) (·.tid)
    fun tid header _ valid => by rw [valid.2.2.2.2]
  have pid := (@readI32Le_reads target "logger pid".toList).bind (fun pid _ => tid pid) (·.pid)
    fun pid header _ valid => by rw [valid.2.2.2.2.2]
  refine pid.congr (fun header => ?_) fun header _ => ?_
  · exact ⟨fun sized => ⟨trivial, trivial, trivial, trivial, sized.1, sized.2, rfl⟩,
      fun valid => ⟨valid.2.2.2.2.1, valid.2.2.2.2.2.1⟩⟩
  · simp only [EntryHeader.encode, List.append_assoc]

theorem parsed_eq_ok {α : Type} {read : Checked ParseError α} {a : α} : parsed read = .ok a ↔ read = .ok a := by
  cases read <;> simp [parsed]

theorem returns_parsed {α : Type} {read : Checked ParseError α} (returns : read.Returns) :
    (Logd.parsed read).Returns := by
  cases read with
  | ok a => trivial
  | error e => trivial
  | panicked => exact returns
  | unfinished => exact returns

namespace EntryHeader
variable {self : EntryHeader}

theorem length_encodeField (field : Option UInt32) :
    (encodeField field).length = if field.isSome then 4 else 0 := by
  cases field <;> simp [encodeField]

theorem length_encode (self : EntryHeader) : self.encode.length =
    16 + (if self.logId.isSome then 4 else 0) + if self.uid.isSome then 4 else 0 := by
  simp only [encode, List.length_append, length_encodeField, encodeI32, length_toLe]

theorem Sized.length_le {headerSize : Nat} (sized : self.Sized headerSize) (least : 20 ≤ headerSize) :
    4 + self.encode.length ≤ headerSize := by
  obtain ⟨logId, uid⟩ := sized
  rw [length_encode]
  simp only [logId, uid]
  split <;> split <;> omega

end EntryHeader

namespace LoggerEntry

def headerSize (self : LoggerEntry) (padding : List UInt8) : Nat :=
  4 + self.toEntryHeader.encode.length + padding.length

def encode (self : LoggerEntry) (padding : List UInt8) : List UInt8 :=
  toLe 2 self.payload.length ++ (toLe 2 (self.headerSize padding) ++
    (self.toEntryHeader.encode ++ (padding ++ self.payload)))

theorem length_encode (self : LoggerEntry) (padding : List UInt8) :
    (self.encode padding).length = self.headerSize padding + self.payload.length := by
  simp only [encode, headerSize, List.length_append, length_toLe]
  omega

/-- The sizes fit their fields, and the header has the fields that its size calls for. -/
structure Framed (entry : LoggerEntry) (padding : List UInt8) : Prop where
  payload : entry.payload.length < 65536
  header : entry.headerSize padding < 65536
  sized : entry.toEntryHeader.Sized (entry.headerSize padding)

end LoggerEntry

variable {target : Target}

theorem takePayload_eq_ok {bytes : List UInt8} (addressable : bytes.length ≤ target.usizeMax)
    {headerSize payloadLength : Nat} {header : EntryHeader} {entry : LoggerEntry} :
    takePayload target bytes headerSize payloadLength header = .ok entry ↔
      headerSize + payloadLength ≤ bytes.length ∧
        entry = { header with payload := (bytes.drop headerSize).take payloadLength } := by
  simp only [takePayload]
  by_cases inside : headerSize + payloadLength ≤ bytes.length
  · have small : ¬ headerSize + payloadLength > target.usizeMax := Nat.not_lt.mpr (inside.trans addressable)
    rw [if_neg small, if_neg (Nat.not_lt.mpr inside), slice_of_le (Nat.le_add_right _ _) inside,
      Nat.add_sub_cancel_left, ok_bind, pure_eq, Checked.ok.injEq, and_iff_right inside, eq_comm]
  · have outside : headerSize + payloadLength > bytes.length := Nat.not_le.mp inside
    rw [if_pos outside]
    split
    · simp [inside]
    · simp [inside]

theorem returns_takePayload {bytes : List UInt8} {headerSize payloadLength : Nat} {header : EntryHeader} :
    (takePayload target bytes headerSize payloadLength header).Returns := by
  simp only [takePayload]
  split
  · trivial
  · split
    · trivial
    next inside =>
      rw [slice_of_le (Nat.le_add_right _ _) (Nat.not_lt.mp inside)]
      trivial

theorem encode_prefix {bytes : List UInt8} {header : EntryHeader} {headerSize payloadLength : Nat}
    (enough : 4 + header.encode.length ≤ headerSize) (fits : headerSize + payloadLength ≤ bytes.length)
    (length : toLe 2 payloadLength <+: bytes) (size : toLe 2 headerSize <+: bytes.drop 2)
    (start : header.encode <+: bytes.drop 4) :
    ∃ padding, ({ header with payload := (bytes.drop headerSize).take payloadLength } : LoggerEntry).headerSize
        padding = headerSize ∧
      ({ header with payload := (bytes.drop headerSize).take payloadLength } : LoggerEntry).encode padding <+:
        bytes := by
  let padding := (bytes.drop (4 + header.encode.length)).take (headerSize - (4 + header.encode.length))
  have padded : padding.length = headerSize - (4 + header.encode.length) := by
    rw [List.length_take, List.length_drop]
    omega
  have taken : ((bytes.drop headerSize).take payloadLength).length = payloadLength := by
    rw [List.length_take, List.length_drop]
    omega
  have same : LoggerEntry.headerSize { header with payload := (bytes.drop headerSize).take payloadLength }
      padding = headerSize := by
    show 4 + header.encode.length + padding.length = headerSize
    omega
  refine ⟨padding, same, ?_⟩
  rw [LoggerEntry.encode, same, taken]
  refine Reads.prefix_append_of length (Reads.prefix_append_of ?_ (Reads.prefix_append_of ?_
    (Reads.prefix_append_of ?_ ?_)))
  · rwa [length_toLe]
  · rwa [length_toLe, length_toLe, List.drop_drop]
  · rw [length_toLe, length_toLe, List.drop_drop, List.drop_drop]
    have place : 2 + (2 + header.encode.length) = 4 + header.encode.length := by omega
    show padding <+: bytes.drop (2 + (2 + header.encode.length))
    rw [place]
    exact List.take_prefix _ _
  · rw [length_toLe, length_toLe, List.drop_drop, List.drop_drop, List.drop_drop]
    have place : 2 + (2 + (header.encode.length + padding.length)) = headerSize := by omega
    show (bytes.drop headerSize).take payloadLength <+:
      bytes.drop (2 + (2 + (header.encode.length + padding.length)))
    rw [place]
    exact List.take_prefix _ _

/-- The parser of an entry reads what any release writes, and nothing else. -/
theorem parseLoggerEntry_exact {bytes : List UInt8} (addressable : bytes.length ≤ target.usizeMax) :
    (∀ entry, parseLoggerEntry target bytes = .ok entry ↔
      ∃ padding, entry.Framed padding ∧ entry.encode padding <+: bytes) ∧
    (parseLoggerEntry target bytes).Returns := by
  have inside := inside_new addressable
  have lengths := @readNumber_reads target 2 "logger payload length".toList
  have sizes := @readNumber_reads target 2 "logger header size".toList
  constructor
  · intro entry
    rw [parseLoggerEntry, bind_eq_ok]
    constructor
    · rintro ⟨⟨payloadLength, behind⟩, ranLength, ran⟩
      obtain ⟨short, startLength, rfl⟩ :=
        (lengths.ok_iff _ inside payloadLength behind).mp (parsed_eq_ok.mp ranLength)
      have most : ¬payloadLength > maxLogPayloadBytes := by
        have limit : maxLogPayloadBytes = 1048576 := rfl
        omega
      have behind := inside.skip startLength.length_le
      rw [length_toLe] at behind
      simp only [if_neg most, bind_eq_ok, length_toLe] at ran
      obtain ⟨⟨headerSize, after⟩, ranSize, ran⟩ := ran
      obtain ⟨small, startSize, rfl⟩ := (sizes.ok_iff _ behind headerSize after).mp (parsed_eq_ok.mp ranSize)
      have behind := behind.skip startSize.length_le
      simp only [rest_skip, rest_new, skip_skip, length_toLe] at startSize ran behind
      by_cases invalid : headerSize < 20 ∨ headerSize > bytes.length
      · rw [if_pos invalid] at ran
        cases ran
      rw [if_neg invalid, bind_eq_ok] at ran
      obtain ⟨⟨header, last⟩, ranHeader, ran⟩ := ran
      obtain ⟨sized, startHeader, -⟩ :=
        ((readHeader_reads headerSize).ok_iff _ behind header last).mp (parsed_eq_ok.mp ranHeader)
      obtain ⟨fits, rfl⟩ := (takePayload_eq_ok addressable).mp ran
      obtain ⟨least, -⟩ := not_or.mp invalid
      obtain ⟨padding, size, start⟩ := encode_prefix (sized.length_le (Nat.not_lt.mp least)) fits startLength
        startSize (by simpa using startHeader)
      refine ⟨padding, ⟨?_, ?_, ?_⟩, start⟩
      · show ((bytes.drop headerSize).take payloadLength).length < 65536
        exact (List.length_take_le _ _).trans_lt short
      · rw [size]
        exact small
      · rw [size]
        exact sized
    · rintro ⟨padding, framed, start⟩
      have whole := start.length_le
      rw [LoggerEntry.length_encode] at whole
      obtain ⟨startLength, start⟩ := Reads.of_prefix_append start
      obtain ⟨startSize, start⟩ := Reads.of_prefix_append start
      obtain ⟨startHeader, start⟩ := Reads.of_prefix_append start
      obtain ⟨-, startPayload⟩ := Reads.of_prefix_append start
      simp only [length_toLe, List.drop_drop] at startSize startHeader startPayload
      have most : ¬entry.payload.length > maxLogPayloadBytes := by
        have limit : maxLogPayloadBytes = 1048576 := rfl
        have payload := framed.payload
        omega
      have least := EntryHeader.length_encode entry.toEntryHeader
      have valid : ¬(entry.headerSize padding < 20 ∨ entry.headerSize padding > bytes.length) := by
        unfold LoggerEntry.headerSize at whole ⊢
        omega
      have second : ((new bytes).skip 2).Inside target := inside.skip (by
        show 2 ≤ bytes.length
        omega)
      have third : ((new bytes).skip 4).Inside target := inside.skip (by
        show 4 ≤ bytes.length
        omega)
      refine ⟨(entry.payload.length, (new bytes).skip 2), parsed_eq_ok.mpr
        ((lengths.ok_iff _ inside _ _).mpr ⟨framed.payload, startLength, by rw [length_toLe]⟩), ?_⟩
      simp only [if_neg most, bind_eq_ok]
      refine ⟨(entry.headerSize padding, (new bytes).skip 4), parsed_eq_ok.mpr
        ((sizes.ok_iff _ second _ _).mpr ⟨framed.header, ?_, ?_⟩), ?_⟩
      · rwa [rest_skip, rest_new]
      · rw [length_toLe, skip_skip]
      rw [if_neg valid, bind_eq_ok]
      refine ⟨(entry.toEntryHeader, _), parsed_eq_ok.mpr
        (((readHeader_reads _).ok_iff _ third _ _).mpr ⟨framed.sized, ?_, rfl⟩), ?_⟩
      · rwa [rest_skip, rest_new]
      · refine (takePayload_eq_ok addressable).mpr ⟨whole, ?_⟩
        have place : 2 + 2 + entry.toEntryHeader.encode.length + padding.length = entry.headerSize padding := by
          unfold LoggerEntry.headerSize
          omega
        rw [place] at startPayload
        rw [← List.prefix_iff_eq_take.mp startPayload]
  · refine (returns_parsed (lengths.returns _ inside)).bind fun read ranLength => ?_
    obtain ⟨-, startLength, same⟩ := (lengths.ok_iff _ inside read.1 read.2).mp (parsed_eq_ok.mp ranLength)
    have behind := inside.skip startLength.length_le
    rw [← same] at behind
    show (if read.1 > maxLogPayloadBytes then _ else _ : Checked EntryError LoggerEntry).Returns
    split
    · trivial
    · refine (returns_parsed (sizes.returns _ behind)).bind fun size ranSize => ?_
      obtain ⟨-, startSize, same⟩ := (sizes.ok_iff _ behind size.1 size.2).mp (parsed_eq_ok.mp ranSize)
      have behind := behind.skip startSize.length_le
      rw [← same] at behind
      show (if size.1 < 20 ∨ size.1 > bytes.length then _ else _ : Checked EntryError LoggerEntry).Returns
      split
      · trivial
      · exact (returns_parsed ((readHeader_reads size.1).returns _ behind)).bind fun _ _ => returns_takePayload

end CrashCatcher.Logd
