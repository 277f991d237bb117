import CrashCatcher.Lib.Reads
import CrashCatcher.Lib.Utf8

namespace CrashCatcher.Logd
open Lib Checked LittleEndian ByteCursor

inductive ParseError where
  | truncated (field : Str)
  | lengthOutOfBounds (field : Str) (length remaining : Nat)
  | limitExceeded (field : Str) (limit : Nat)
  | unsupportedEventType (type : UInt8)
  | eventNestingTooDeep (limit : Nat)
  | invalidUtf8 (field : Str)
  | integerOutOfRange (field : Str)
  | missingCrashField (field : Str)
deriving DecidableEq

abbrev Parser (α : Type) := Reader ParseError α

section Cursor
variable (target : Target)

def readU8 (field : Str) : Parser UInt8 := Reads.nextByte target (.truncated field)

def readBytes (length : Nat) (field : Str) : Parser (List UInt8) := fun cursor =>
  cursor.read target length fun remaining => .lengthOutOfBounds field length remaining

def readNumber (width : Nat) (field : Str) : Parser Nat := fun cursor =>
  cursor.readLe target width fun remaining => .lengthOutOfBounds field width remaining

def readU32Le (field : Str) : Parser UInt32 := fun cursor => do
  let (n, cursor) ← readNumber target 4 field cursor
  return (UInt32.ofNat n, cursor)

def readI32Le (field : Str) : Parser Int32 := fun cursor => do
  let (n, cursor) ← readNumber target 4 field cursor
  return ((UInt32.ofNat n).toInt32, cursor)

def readI64Le (field : Str) : Parser Int64 := fun cursor => do
  let (n, cursor) ← readNumber target 8 field cursor
  return ((UInt64.ofNat n).toInt64, cursor)

end Cursor

def eventTypeInt : UInt8 := 0
def eventTypeLong : UInt8 := 1
def eventTypeString : UInt8 := 2
def eventTypeList : UInt8 := 3
def eventTypeFloat : UInt8 := 4
def maxEventDepth : Nat := 16
def maxEventElements : Nat := 255
def maxEventStringBytes : Nat := 64 * 1024

/-- A float is its bits. -/
inductive EventValue where
  | int (value : Int32)
  | long (value : Int64)
  | string (value : Str)
  | list (values : List EventValue)
  | float (bits : UInt32)

structure EventRecord where
  tag : Int32
  value : EventValue

section Parse
variable (target : Target)

def parseBody (parse : Parser EventValue) (type : UInt8) : Parser EventValue := fun cursor =>
  if type = eventTypeInt then do
    let (value, cursor) ← readI32Le target "event int".toList cursor
    return (.int value, cursor)
  else if type = eventTypeLong then do
    let (value, cursor) ← readI64Le target "event long".toList cursor
    return (.long value, cursor)
  else if type = eventTypeString then do
    let (length, cursor) ← readU32Le target "event string length".toList cursor
    if length.toNat > target.usizeMax then .error (.integerOutOfRange "event string length".toList)
    else if length.toNat > maxEventStringBytes then
      .error (.limitExceeded "event string".toList maxEventStringBytes)
    else do
      let (bytes, cursor) ← readBytes target length.toNat "event string".toList cursor
      let value ← okOr (.invalidUtf8 "event string".toList) (Utf8.fromUtf8 bytes)
      return (.string value, cursor)
  else if type = eventTypeList then do
    let (count, cursor) ← readU8 target "event list length".toList cursor
    if count.toNat > maxEventElements then .error (.limitExceeded "event list".toList maxEventElements)
    else do
      let (values, cursor) ← Reads.many parse count.toNat cursor
      return (.list values, cursor)
  else if type = eventTypeFloat then do
    let (bits, cursor) ← readU32Le target "event float".toList cursor
    return (.float bits, cursor)
  else .error (.unsupportedEventType type)

/-- A value at the depth that leaves so many levels below `maxEventDepth`. -/
def parseValue : Nat → Parser EventValue
  | 0, _ => .error (.eventNestingTooDeep maxEventDepth)
  | left + 1, cursor => do
      let (type, cursor) ← readU8 target "event type".toList cursor
      parseBody target (parseValue left) type cursor

def parseEventPayload (bytes : List UInt8) : Checked ParseError EventRecord := do
  let (tag, cursor) ← readI32Le target "event tag".toList (.new bytes)
  let (value, _) ← parseValue target maxEventDepth cursor
  return { tag, value }

end Parse

section Encoding

def encodeI32 (value : Int32) : List UInt8 := toLe 4 value.toUInt32.toNat

mutual

def EventValue.encode : EventValue → List UInt8
  | .int value => eventTypeInt :: encodeI32 value
  | .long value => eventTypeLong :: toLe 8 value.toUInt64.toNat
  | .string value => eventTypeString :: toLe 4 (Utf8.size value) ++ Utf8.encode value
  | .list values => eventTypeList :: UInt8.ofNat values.length :: encodeAll values
  | .float bits => eventTypeFloat :: toLe 4 bits.toNat

def EventValue.encodeAll : List EventValue → List UInt8
  | [] => []
  | value :: values => value.encode ++ encodeAll values

end

def EventRecord.encode (record : EventRecord) : List UInt8 := encodeI32 record.tag ++ record.value.encode

/-- The value fits the parser's limits when so many levels may still be nested. -/
inductive WithinLimits : Nat → EventValue → Prop where
  | int {left : Nat} (value : Int32) : WithinLimits (left + 1) (.int value)
  | long {left : Nat} (value : Int64) : WithinLimits (left + 1) (.long value)
  | string {left : Nat} {value : Str} (short : Utf8.size value ≤ maxEventStringBytes) :
      WithinLimits (left + 1) (.string value)
  | list {left : Nat} {values : List EventValue} (few : values.length ≤ maxEventElements)
      (nested : ∀ value ∈ values, WithinLimits left value) : WithinLimits (left + 1) (.list values)
  | float {left : Nat} (bits : UInt32) : WithinLimits (left + 1) (.float bits)

end Encoding

namespace EventValue

def typeByte : EventValue → UInt8
  | .int _ => eventTypeInt
  | .long _ => eventTypeLong
  | .string _ => eventTypeString
  | .list _ => eventTypeList
  | .float _ => eventTypeFloat

def payload (value : EventValue) : List UInt8 := value.encode.tail

theorem encode_eq (value : EventValue) : value.encode = value.typeByte :: value.payload := by
  cases value <;> simp [payload, encode, typeByte]

theorem encodeAll_eq (values : List EventValue) : encodeAll values = values.flatMap encode := by
  induction values with
  | nil => rw [encodeAll, List.flatMap_nil]
  | cons value values ih => rw [encodeAll, List.flatMap_cons, ih]

end EventValue
end CrashCatcher.Logd
