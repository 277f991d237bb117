import CrashCatcher.Logd.Event

namespace CrashCatcher.Logd
open Lib Checked LittleEndian ByteCursor
variable {target : Target}

theorem readNumber_reads (width : Nat) (field : Str) :
    Reads target (readNumber target width field) (fun n => n < 256 ^ width) (toLe width) :=
  Reads.number width _

theorem readI32Le_reads (field : Str) :
    Reads target (readI32Le target field) (fun _ => True) encodeI32 := by
  have read := (@readNumber_reads target 4 field).map (fun n => (UInt32.ofNat n).toInt32)
    (fun value => value.toUInt32.toNat) fun n small => UInt32.toNat_ofNat_of_lt' small
  refine read.congr (fun value => ?_) fun _ _ => rfl
  rw [true_iff, UInt32.ofNat_toNat]
  exact ⟨value.toUInt32.toNat_lt, rfl⟩

theorem readI64Le_reads (field : Str) :
    Reads target (readI64Le target field) (fun _ => True) fun value => toLe 8 value.toUInt64.toNat := by
  have read := (@readNumber_reads target 8 field).map (fun n => (UInt64.ofNat n).toInt64)
    (fun value => value.toUInt64.toNat) fun n small => UInt64.toNat_ofNat_of_lt' small
  refine read.congr (fun value => ?_) fun _ _ => rfl
  rw [true_iff, UInt64.ofNat_toNat]
  exact ⟨value.toUInt64.toNat_lt, rfl⟩

theorem readU32Le_reads (field : Str) :
    Reads target (readU32Le target field) (fun _ => True) fun value => toLe 4 value.toNat := by
  have read := (@readNumber_reads target 4 field).map UInt32.ofNat UInt32.toNat
    fun n small => UInt32.toNat_ofNat_of_lt' small
  refine read.congr (fun value => ?_) fun _ _ => rfl
  rw [true_iff, UInt32.ofNat_toNat]
  exact ⟨value.toNat_lt, rfl⟩

theorem readU8_reads (field : Str) :
    Reads target (readU8 target field) (fun _ => True) fun byte => [byte] :=
  Reads.byte _

namespace EventValue

def intOf : EventValue → Int32
  | .int value => value
  | _ => 0

def longOf : EventValue → Int64
  | .long value => value
  | _ => 0

def textOf : EventValue → Str
  | .string value => value
  | _ => []

def valuesOf : EventValue → List EventValue
  | .list values => values
  | _ => []

def bitsOf : EventValue → UInt32
  | .float bits => bits
  | _ => 0

def Fits (left : Nat) (type : UInt8) (value : EventValue) : Prop :=
  value.typeByte = type ∧ WithinLimits left value

theorem payload_int (n : Int32) : (int n).payload = encodeI32 n := by
  rw [payload, encode, List.tail_cons]

theorem payload_long (n : Int64) : (long n).payload = toLe 8 n.toUInt64.toNat := by
  rw [payload, encode, List.tail_cons]

theorem payload_string (text : Str) : (string text).payload = toLe 4 (Utf8.size text) ++ Utf8.encode text := by
  rw [payload, encode]
  rfl

theorem payload_list (values : List EventValue) :
    (list values).payload = UInt8.ofNat values.length :: values.flatMap encode := by
  rw [payload, encode, encodeAll_eq]
  rfl

theorem payload_float (bits : UInt32) : (float bits).payload = toLe 4 bits.toNat := by
  rw [payload, encode, List.tail_cons]

theorem fits_int_iff {left : Nat} {value : EventValue} :
    value.Fits (left + 1) eventTypeInt ↔ value = .int value.intOf := by
  constructor
  · rintro ⟨type, -⟩
    cases value with
    | int n => rfl
    | long | string | list | float => cases type
  · intro same
    rw [same]
    exact ⟨rfl, .int _⟩

theorem fits_long_iff {left : Nat} {value : EventValue} :
    value.Fits (left + 1) eventTypeLong ↔ value = .long value.longOf := by
  constructor
  · rintro ⟨type, -⟩
    cases value with
    | long n => rfl
    | int | string | list | float => cases type
  · intro same
    rw [same]
    exact ⟨rfl, .long _⟩

theorem fits_string_iff {left : Nat} {value : EventValue} :
    value.Fits (left + 1) eventTypeString ↔
      Utf8.size value.textOf ≤ maxEventStringBytes ∧ value = .string value.textOf := by
  constructor
  · rintro ⟨type, limits⟩
    cases limits with
    | string short => exact ⟨short, rfl⟩
    | int | long | list | float => cases type
  · rintro ⟨short, same⟩
    rw [same]
    exact ⟨rfl, .string short⟩

theorem fits_list_iff {left : Nat} {value : EventValue} :
    value.Fits (left + 1) eventTypeList ↔ (value.valuesOf.length ≤ maxEventElements ∧
      ∀ inner ∈ value.valuesOf, WithinLimits left inner) ∧ value = .list value.valuesOf := by
  constructor
  · rintro ⟨type, limits⟩
    cases limits with
    | list few nested => exact ⟨⟨few, nested⟩, rfl⟩
    | int | long | string | float => cases type
  · rintro ⟨⟨few, nested⟩, same⟩
    rw [same]
    exact ⟨rfl, .list few nested⟩

theorem fits_float_iff {left : Nat} {value : EventValue} :
    value.Fits (left + 1) eventTypeFloat ↔ value = .float value.bitsOf := by
  constructor
  · rintro ⟨type, -⟩
    cases value with
    | float bits => rfl
    | int | long | string | list => cases type
  · intro same
    rw [same]
    exact ⟨rfl, .float _⟩

end EventValue

open EventValue

theorem int_reads (left : Nat) :
    Reads target
      (fun cursor => readI32Le target "event int".toList cursor >>= fun read => .ok (.int read.1, read.2))
      (Fits (left + 1) eventTypeInt) payload := by
  have read := (@readI32Le_reads target "event int".toList).map EventValue.int intOf fun _ _ => rfl
  refine read.congr (fun value => fits_int_iff.trans (and_iff_right trivial).symm) fun value valid => ?_
  obtain ⟨-, same⟩ := valid
  rw [same, payload_int]
  rfl

theorem long_reads (left : Nat) :
    Reads target
      (fun cursor => readI64Le target "event long".toList cursor >>= fun read => .ok (.long read.1, read.2))
      (Fits (left + 1) eventTypeLong) payload := by
  have read := (@readI64Le_reads target "event long".toList).map EventValue.long longOf fun _ _ => rfl
  refine read.congr (fun value => fits_long_iff.trans (and_iff_right trivial).symm) fun value valid => ?_
  obtain ⟨-, same⟩ := valid
  rw [same, payload_long]
  rfl

theorem float_reads (left : Nat) :
    Reads target
      (fun cursor => readU32Le target "event float".toList cursor >>= fun read => .ok (.float read.1, read.2))
      (Fits (left + 1) eventTypeFloat) payload := by
  have read := (@readU32Le_reads target "event float".toList).map EventValue.float bitsOf fun _ _ => rfl
  refine read.congr (fun value => fits_float_iff.trans (and_iff_right trivial).symm) fun value valid => ?_
  obtain ⟨-, same⟩ := valid
  rw [same, payload_float]
  rfl

theorem text_reads (length : UInt32) :
    Reads target
      (fun cursor => readBytes target length.toNat "event string".toList cursor >>= fun read =>
        okOr (.invalidUtf8 "event string".toList) (Utf8.fromUtf8 read.1) >>= fun value => .ok (value, read.2))
      (fun value => Utf8.size value = length.toNat) Utf8.encode := by
  have read := (@Reads.bytes _ target length.toNat fun remaining =>
    ParseError.lengthOutOfBounds "event string".toList length.toNat remaining).bind_check Utf8.fromUtf8
    (.invalidUtf8 "event string".toList) Utf8.encode fun _ _ => Utf8.fromUtf8_eq_some_iff
  exact read.congr (fun value => by rw [Utf8.length_encode]) fun _ _ => rfl

def stringBody (target : Target) (length : UInt32) : Parser EventValue := fun cursor =>
  if length.toNat > target.usizeMax then .error (.integerOutOfRange "event string length".toList)
  else if length.toNat > maxEventStringBytes then
    .error (.limitExceeded "event string".toList maxEventStringBytes)
  else
    readBytes target length.toNat "event string".toList cursor >>= fun read =>
      okOr (.invalidUtf8 "event string".toList) (Utf8.fromUtf8 read.1) >>= fun value =>
        .ok (.string value, read.2)

theorem stringBody_reads (length : UInt32) :
    Reads target (stringBody target length)
      (fun value => (length.toNat ≤ maxEventStringBytes ∧ Utf8.size value.textOf = length.toNat) ∧
        value = .string value.textOf)
      fun value => Utf8.encode value.textOf := by
  have word : length.toNat ≤ target.usizeMax :=
    (Nat.le_sub_one_of_lt length.toNat_lt).trans target.le_usizeMax
  have read := (@text_reads target length).map EventValue.string textOf fun _ _ => rfl
  by_cases short : length.toNat ≤ maxEventStringBytes
  · have body : stringBody target length = fun cursor =>
        (readBytes target length.toNat "event string".toList cursor >>= fun read =>
          okOr (.invalidUtf8 "event string".toList) (Utf8.fromUtf8 read.1) >>= fun value =>
            .ok (value, read.2)) >>=
            fun read => .ok (.string read.1, read.2) := by
      funext cursor
      rw [stringBody, if_neg (Nat.not_lt.mpr word), if_neg (Nat.not_lt.mpr short)]
      simp only [Checked.bind_assoc, ok_bind]
    rw [body]
    refine read.congr (fun value => ?_) fun _ _ => rfl
    rw [and_iff_right short]
  · have body : stringBody target length = fun _ =>
        .error (.limitExceeded "event string".toList maxEventStringBytes) := by
      funext cursor
      rw [stringBody, if_neg (Nat.not_lt.mpr word), if_pos (Nat.not_le.mp short)]
    rw [body]
    refine (Reads.fail _ fun _ => []).congr (fun value => ?_) fun _ impossible => impossible.elim
    simp [short]

theorem string_reads (left : Nat) :
    Reads target
      (fun cursor => readU32Le target "event string length".toList cursor >>= fun read =>
        stringBody target read.1 read.2)
      (Fits (left + 1) eventTypeString) payload := by
  have read := (@readU32Le_reads target "event string length".toList).bind
    (fun length _ => stringBody_reads length) (fun value => UInt32.ofNat (Utf8.size value.textOf))
    fun length value _ next => by rw [next.1.2, UInt32.ofNat_toNat]
  have counted (value : EventValue) (short : Utf8.size value.textOf ≤ maxEventStringBytes) :
      (UInt32.ofNat (Utf8.size value.textOf)).toNat = Utf8.size value.textOf :=
    UInt32.toNat_ofNat_of_lt' (short.trans_lt (by decide))
  refine read.congr (fun value => ?_) fun value valid => ?_
  · rw [fits_string_iff, true_and]
    constructor
    · rintro ⟨short, same⟩
      rw [counted value short]
      exact ⟨⟨short, rfl⟩, same⟩
    · rintro ⟨⟨short, length⟩, same⟩
      exact ⟨length.le.trans short, same⟩
  · obtain ⟨-, ⟨-, length⟩, same⟩ := valid
    rw [← length]
    conv_lhs => rw [same]
    exact payload_string _

theorem list_reads {left : Nat} {parse : Parser EventValue}
    (nested : Reads target parse (WithinLimits left) encode) :
    Reads target
      (fun cursor => readU8 target "event list length".toList cursor >>= fun read =>
        if read.1.toNat > maxEventElements then .error (.limitExceeded "event list".toList maxEventElements)
        else Reads.many parse read.1.toNat read.2 >>= fun more => .ok (.list more.1, more.2))
      (Fits (left + 1) eventTypeList) payload := by
  have few (count : UInt8) : ¬ count.toNat > maxEventElements :=
    Nat.not_lt.mpr (Nat.le_of_lt_succ count.toNat_lt)
  have body (count : UInt8) := (nested.counted count.toNat).map EventValue.list valuesOf fun _ _ => rfl
  have read := (@readU8_reads target "event list length".toList).bind (fun count _ => body count)
    (fun value => UInt8.ofNat value.valuesOf.length)
    fun count value _ next => by rw [next.1.1, UInt8.ofNat_toNat]
  simp only [if_neg (few _)]
  refine read.congr (fun value => ?_) fun value valid => ?_
  · rw [fits_list_iff, true_and]
    constructor
    · rintro ⟨⟨short, all⟩, same⟩
      have counted : (UInt8.ofNat value.valuesOf.length).toNat = value.valuesOf.length :=
        UInt8.toNat_ofNat_of_lt' (Nat.lt_succ_of_le short)
      rw [counted]
      exact ⟨⟨rfl, all⟩, same⟩
    · rintro ⟨⟨length, all⟩, same⟩
      exact ⟨⟨length.le.trans (Nat.le_of_lt_succ (UInt8.toNat_lt _)), all⟩, same⟩
  · obtain ⟨-, -, same⟩ := valid
    conv_lhs => rw [same]
    exact payload_list _

theorem parseBody_reads {left : Nat} {parse : Parser EventValue}
    (nested : Reads target parse (WithinLimits left) encode) (type : UInt8) :
    Reads target (parseBody target parse type) (Fits (left + 1) type) payload := by
  by_cases int : type = eventTypeInt
  · subst int
    exact int_reads left
  by_cases long : type = eventTypeLong
  · subst long
    exact long_reads left
  by_cases string : type = eventTypeString
  · subst string
    exact string_reads left
  by_cases list : type = eventTypeList
  · subst list
    exact list_reads nested
  by_cases float : type = eventTypeFloat
  · subst float
    exact float_reads left
  have body : parseBody target parse type = fun _ => .error (.unsupportedEventType type) := by
    funext cursor
    rw [parseBody, if_neg int, if_neg long, if_neg string, if_neg list, if_neg float]
  rw [body]
  refine (Reads.fail _ payload).congr (fun value => ?_) fun _ impossible => impossible.elim
  rw [iff_false]
  rintro ⟨rfl, -⟩
  cases value with
  | int n => exact int rfl
  | long n => exact long rfl
  | string text => exact string rfl
  | list values => exact list rfl
  | float bits => exact float rfl

theorem parseValue_reads (left : Nat) :
    Reads target (parseValue target left) (WithinLimits left) encode := by
  induction left with
  | zero =>
      refine (Reads.fail (ParseError.eventNestingTooDeep maxEventDepth) encode).congr
        (fun value => ?_) fun _ _ => rfl
      rw [iff_false]
      intro limits
      cases limits
  | succ left ih =>
      have read := (@readU8_reads target "event type".toList).bind
        (fun type _ => parseBody_reads ih type) typeByte fun type value _ fits => fits.1
      refine read.congr (fun value => ?_) fun value _ => encode_eq value
      exact ⟨fun limits => ⟨trivial, rfl, limits⟩, fun fits => fits.2.2⟩

/-- The parser reads exactly the encodings, whatever follows them, and comes back from any bytes. -/
theorem parseEventPayload_exact (bytes : List UInt8) (addressable : bytes.length ≤ target.usizeMax) :
    (∀ record : EventRecord, parseEventPayload target bytes = .ok record ↔
      WithinLimits maxEventDepth record.value ∧ record.encode <+: bytes) ∧
      (parseEventPayload target bytes).Returns := by
  have inside := inside_new addressable
  have tag := @readI32Le_reads target "event tag".toList
  have parse := @parseValue_reads target maxEventDepth
  constructor
  · intro record
    rw [parseEventPayload, bind_eq_ok]
    constructor
    · rintro ⟨⟨n, middle⟩, ranTag, ran⟩
      obtain ⟨⟨value, after⟩, ranValue, same⟩ := bind_eq_ok.mp ran
      cases same
      obtain ⟨-, start, rfl⟩ := (tag.ok_iff _ inside n middle).mp ranTag
      obtain ⟨limits, startValue, -⟩ := (parse.ok_iff _ (inside.skip start.length_le) value after).mp ranValue
      rw [rest_skip] at startValue
      exact ⟨limits, Reads.prefix_append_of start startValue⟩
    · rintro ⟨limits, whole⟩
      obtain ⟨start, startValue⟩ := Reads.of_prefix_append whole
      refine ⟨(record.tag, _), (tag.ok_iff _ inside _ _).mpr ⟨trivial, start, rfl⟩, bind_eq_ok.mpr ?_⟩
      refine ⟨(record.value, _), (parse.ok_iff _ (inside.skip start.length_le) _ _).mpr ⟨limits, ?_, rfl⟩, rfl⟩
      rwa [rest_skip]
  · apply (tag.returns _ inside).bind
    rintro ⟨n, middle⟩ ranTag
    obtain ⟨-, start, rfl⟩ := (tag.ok_iff _ inside n middle).mp ranTag
    exact (parse.returns _ (inside.skip start.length_le)).bind fun _ _ => trivial

/-- `parse_event_payload` gives back what was encoded before any other bytes, gives nothing that does
not stand encoded at the start of the input, and answers every other input with an error. -/
theorem event_payload_format (bytes : List UInt8) (addressable : bytes.length ≤ target.usizeMax) :
    (∀ record rest, WithinLimits maxEventDepth record.value → bytes = record.encode ++ rest →
      parseEventPayload target bytes = .ok record) ∧
      (∀ record, parseEventPayload target bytes = .ok record → record.encode <+: bytes) ∧
      ((¬ ∃ record : EventRecord, WithinLimits maxEventDepth record.value ∧ record.encode <+: bytes) →
        ∃ e, parseEventPayload target bytes = .error e) := by
  obtain ⟨exactly, returns⟩ := parseEventPayload_exact bytes addressable
  refine ⟨?_, fun record ran => ((exactly record).mp ran).2, fun none => ?_⟩
  · intro record rest limits split
    exact (exactly record).mpr ⟨limits, split ▸ List.prefix_append _ _⟩
  · rcases returns.cases with ⟨record, ran⟩ | failed
    · exact absurd ⟨record, (exactly record).mp ran⟩ none
    · exact failed

theorem event_payload_format_of_list :
    parseEventPayload .armv7 [0x38, 0x75, 0, 0, 3, 2, 0, 7, 0, 0, 0, 2, 2, 0, 0, 0, 0x68, 0x69, 0xFF] =
      .ok { tag := 30008, value := .list [.int 7, .string "hi".toList] } :=
  (event_payload_format _ (by decide)).1 { tag := 30008, value := .list [.int 7, .string "hi".toList] } [0xFF]
    (.list (by decide) fun value member => by
      rcases List.mem_pair.mp member with rfl | rfl
      · exact .int 7
      · exact .string (by decide)) (by decide)

end CrashCatcher.Logd
