import CrashCatcher.Daemon.Undecodable

namespace CrashCatcher.Wire
open Lib Daemon

def lengthMismatch (declared actual : Nat) : WireError :=
  .malformedFrame ("frame body length mismatch: declared ".toList ++ decimal declared ++
    " bytes, got ".toList ++
    decimal actual ++ " bytes".toList)

def decodeFrame (frame : List UInt8) : Except WireError (List UInt8) :=
  if frame.length < lengthPrefixBytes then
    .error (.malformedFrame "frame is shorter than its length prefix".toList)
  else do
    let declared ← decodeLength (frame.take lengthPrefixBytes)
    let body := frame.drop lengthPrefixBytes
    if body.length ≠ declared then .error (lengthMismatch declared body.length) else .ok body

def cutFrames (stream : List UInt8) : List (List UInt8) :=
  if stream = [] then []
  else
    let size := lengthPrefixBytes + fromBeBytes (stream.take lengthPrefixBytes)
    stream.take size :: cutFrames (stream.drop size)
termination_by stream.length
decreasing_by
  have nonempty : 0 < stream.length := List.length_pos_iff.mpr ‹_›
  rw [List.length_drop, lengthPrefixBytes]
  omega

/-- The bodies of the frames before the first that does not decode, and its error. -/
def decodeFrames : List (List UInt8) → List (List UInt8) × Option WireError
  | [] => ([], none)
  | frame :: frames => match decodeFrame frame with
    | .error error => ([], some error)
    | .ok body =>
        let (bodies, error) := decodeFrames frames
        (body :: bodies, error)

theorem decodeFrame_short {frame : List UInt8} (short : frame.length < lengthPrefixBytes) :
    ∃ message, decodeFrame frame = .error (.malformedFrame message) := ⟨_, if_pos short⟩

section
variable {head body : List UInt8} (prefixed : head.length = lengthPrefixBytes)
include prefixed

theorem decodeFrame_append : decodeFrame (head ++ body) = (decodeLength head >>= fun declared =>
    if body.length ≠ declared then .error (lengthMismatch declared body.length) else .ok body) := by
  have long : ¬ (head ++ body).length < lengthPrefixBytes := by
    rw [List.length_append, prefixed]
    omega
  rw [decodeFrame, if_neg long, List.take_left' prefixed, List.drop_left' prefixed]

theorem decodeFrame_large (large : fromBeBytes head > maxFrameBodyBytes) :
    decodeFrame (head ++ body) = .error (.payloadTooLarge (fromBeBytes head)) := by
  rw [decodeFrame_append prefixed, decodeLength, if_pos large]
  rfl

theorem decodeFrame_mismatch (fits : ¬ fromBeBytes head > maxFrameBodyBytes)
    (other : body.length ≠ fromBeBytes head) :
    ∃ message, decodeFrame (head ++ body) = .error (.malformedFrame message) := by
  rw [decodeFrame_append prefixed, decodeLength, if_neg fits]
  exact ⟨_, if_pos other⟩

theorem decodeFrame_whole (fits : ¬ fromBeBytes head > maxFrameBodyBytes)
    (whole : body.length = fromBeBytes head) :
    decodeFrame (head ++ body) = .ok body := by
  rw [decodeFrame_append prefixed, decodeLength, if_neg fits]
  exact if_neg (not_not.mpr whole)

theorem cutFrames_append : cutFrames (head ++ body) =
    (head ++ body.take (fromBeBytes head)) :: cutFrames (body.drop (fromBeBytes head)) := by
  have open_ : head ++ body ≠ [] := by
    intro empty
    have lengths := congrArg List.length empty
    rw [List.length_append, prefixed, lengthPrefixBytes, List.length_nil] at lengths
    omega
  rw [cutFrames, if_neg open_, List.take_left' prefixed, ← prefixed]
  dsimp only
  rw [List.take_length_add_append, List.drop_length_add_append]

end

theorem cutFrames_short {stream : List UInt8} (open_ : stream ≠ [])
    (short : stream.length < lengthPrefixBytes) :
    cutFrames stream = [stream] := by
  rw [cutFrames, if_neg open_]
  dsimp only
  rw [List.take_of_length_le (by omega), List.drop_eq_nil_of_le (by omega), cutFrames, if_pos rfl]

theorem decodeFrames_error {frame : List UInt8} {error : WireError} (frames : List (List UInt8))
    (failed : decodeFrame frame = .error error) : decodeFrames (frame :: frames) = ([], some error) := by
  rw [decodeFrames, failed]

theorem decodeFrames_ok {frame body : List UInt8} (frames : List (List UInt8))
    (decoded : decodeFrame frame = .ok body) :
    decodeFrames (frame :: frames) = (body :: (decodeFrames frames).1, (decodeFrames frames).2) := by
  rw [decodeFrames, decoded]

end CrashCatcher.Wire

namespace CrashCatcher.Manager
open Lib Wire Daemon

/-- A `ByteArray`: its size is an `Int`. -/
structure Bytes where
  elements : List Int8
  bounded : elements.length < 0x80000000

def unsigned (bytes : List Int8) : List UInt8 := bytes.map Int8.toUInt8

def Bytes.size (self : Bytes) : Int32 := Int32.ofNat self.elements.length

inductive DaemonException where
  | connectionClosed (message : Str)
  | malformedFrame (message : Str)
  | payloadTooLarge (bytes : Int64)
deriving DecidableEq

namespace DaemonFrameCodec

def lengthPrefixBytes : Int32 := 4
def maxFrameBodyBytes : Int32 := 1024 * 1024

def readLength (bytes : List Int8) : Int64 :=
  let byte (n : Nat) : Int64 := (bytes.getD n 0).toInt64 &&& 0xff
  byte 0 <<< 24 ||| byte 1 <<< 16 ||| byte 2 <<< 8 ||| byte 3

def ushr (n : Int32) (bits : UInt32) : Int32 := (n.toUInt32 >>> bits).toInt32

def writeLength (length : Int32) : List Int8 :=
  [(ushr length 24).toInt8, (ushr length 16).toInt8, (ushr length 8).toInt8, length.toInt8]

def encodeFrame (body : Bytes) : Except DaemonException (List Int8) :=
  if body.size > maxFrameBodyBytes then .error (.payloadTooLarge body.size.toInt64)
  else .ok (writeLength body.size ++ body.elements)

def decodeFrame (frame : Bytes) : Except DaemonException (List Int8) :=
  if frame.size < lengthPrefixBytes then
    .error (.malformedFrame "frame is shorter than its length prefix".toList)
  else
    let declared := readLength frame.elements
    if declared > maxFrameBodyBytes.toInt64 then .error (.payloadTooLarge declared)
    else
      let actual := (frame.size - lengthPrefixBytes).toInt64
      if actual ≠ declared then
        .error (.malformedFrame ("frame body length mismatch: declared ".toList ++ decimal declared.toInt ++
          " bytes, got ".toList ++ decimal actual.toInt ++ " bytes".toList))
      else .ok (frame.elements.drop 4)

end DaemonFrameCodec

/-- The bytes that are still to come, and the most that each of the next reads delivers. -/
structure InputStream where
  remaining : List Int8
  chunks : Nat → { n : Nat // 0 < n }

namespace InputStream

def read (self : InputStream) (length : Nat) : Option (List Int8 × InputStream) :=
  if self.remaining = [] then none
  else
    let count := min (self.chunks 0).val length
    some (self.remaining.take count, ⟨self.remaining.drop count, fun n => self.chunks (n + 1)⟩)

theorem length_read {self next : InputStream} {length : Nat} {bytes : List Int8} (wanted : 0 < length)
    (delivered : self.read length = some (bytes, next)) :
    0 < bytes.length ∧ bytes.length ≤ length ∧ self.remaining = bytes ++ next.remaining := by
  unfold read at delivered
  split at delivered
  · cases delivered
  · next open_ =>
      cases delivered
      have positive := (self.chunks 0).property
      have nonempty := List.length_pos_iff.mpr open_
      refine ⟨?_, ?_, (List.take_append_drop _ _).symm⟩
      · rw [List.length_take]
        omega
      · rw [List.length_take]
        omega

def fill (length : Nat) (bytes : List Int8) (self : InputStream) :
    Except DaemonException (List Int8 × InputStream) :=
  if _missing : bytes.length < length then
    match _delivered : self.read (length - bytes.length) with
    | none =>
        .error (.connectionClosed ("stream ended after ".toList ++ decimal bytes.length ++ " of ".toList ++
        decimal length ++ " bytes".toList))
    | some (more, next) => next.fill length (bytes ++ more)
  else .ok (bytes, self)
termination_by length - bytes.length
decreasing_by
  have progress := length_read (by omega) _delivered
  rw [List.length_append]
  omega

def readExactly (self : InputStream) (length : Nat) : Except DaemonException (List Int8 × InputStream) :=
  self.fill length []

theorem fill_spec (length : Nat) (bytes : List Int8) (self : InputStream) (within : bytes.length ≤ length) :
    (∃ more next, self.fill length bytes = .ok (bytes ++ more, next) ∧ (bytes ++ more).length = length ∧
      self.remaining = more ++ next.remaining) ∨
    ∃ message, self.fill length bytes = .error (.connectionClosed message) ∧
      bytes.length + self.remaining.length < length := by
  unfold fill
  split
  · next missing =>
      split
      · next ended =>
          have empty : self.remaining = [] := by
            by_contra open_
            simp [read, open_] at ended
          exact .inr ⟨_, rfl, by simpa [empty] using missing⟩
      · next more next delivered =>
          obtain ⟨positive, few, split⟩ := length_read (by omega) delivered
          have shorter : length - (bytes ++ more).length < length - bytes.length := by
            rw [List.length_append]
            omega
          rcases fill_spec length (bytes ++ more) next (by
            rw [List.length_append]
            omega) with ⟨rest, last, filled, total, left⟩ | ⟨message, closed, short⟩
          · refine .inl ⟨more ++ rest, last, ?_, ?_, ?_⟩
            · rw [filled, List.append_assoc]
            · rw [← List.append_assoc, total]
            · rw [split, left, List.append_assoc]
          · refine .inr ⟨message, closed, ?_⟩
            rw [split, List.length_append]
            rw [List.length_append] at short
            omega
  · next complete =>
      exact .inl ⟨[], self, by rw [List.append_nil], by
        rw [List.append_nil]
        omega, rfl⟩
termination_by length - bytes.length

theorem readExactly_spec (self : InputStream) (length : Nat) :
    (∃ bytes next, self.readExactly length = .ok (bytes, next) ∧ bytes.length = length ∧
      self.remaining = bytes ++ next.remaining) ∨
    ∃ message, self.readExactly length = .error (.connectionClosed message) ∧
      self.remaining.length < length := by
  rcases fill_spec length [] self (Nat.zero_le _) with ⟨more, next, filled, total, split⟩ | ⟨message,
    closed, short⟩
  · exact .inl ⟨more, next, filled, total, split⟩
  · exact .inr ⟨message, closed, by simpa using short⟩

end InputStream

namespace DaemonFrameCodec

def readFrame (input : InputStream) : Except DaemonException (List Int8 × InputStream) := do
  let (lengthPrefix, input) ← input.readExactly 4
  let declared := readLength lengthPrefix
  if declared > maxFrameBodyBytes.toInt64 then .error (.payloadTooLarge declared)
  else input.readExactly declared.toInt.toNat

/-! The prefix: signed arithmetic against unsigned. -/

theorem signExtend_and : ∀ byte : BitVec 8, byte.signExtend 64 &&& 255#64 =
    byte.setWidth 64 := by decide +kernel

theorem toNat_masked (byte : Int8) : (byte.toInt64 &&& 0xff).toBitVec.toNat = byte.toUInt8.toNat := by
  have masked : (byte.toInt64 &&& 0xff).toBitVec = byte.toBitVec.setWidth 64 := signExtend_and byte.toBitVec
  rw [masked, BitVec.toNat_setWidth]
  exact Nat.mod_eq_of_lt (Nat.lt_of_lt_of_le byte.toUInt8.toNat_lt (by decide))

theorem toNat_shifted (byte : Int8) (bits : Int64) (n : Nat)
    (amount : bits.toBitVec.smod 64 = BitVec.ofNat 64 n)
    (small : n < 64) (fits : byte.toUInt8.toNat <<< n < 0x10000000000000000) :
    ((byte.toInt64 &&& 0xff) <<< bits).toBitVec.toNat = byte.toUInt8.toNat <<< n := by
  have own : n % 0x10000000000000000 = n := Nat.mod_eq_of_lt (Nat.lt_trans small (by decide))
  rw [Int64.toBitVec_shiftLeft, amount, BitVec.shiftLeft_eq', BitVec.toNat_shiftLeft, BitVec.toNat_ofNat,
    toNat_masked]
  exact (congrArg (byte.toUInt8.toNat <<< · % 0x10000000000000000) own).trans (Nat.mod_eq_of_lt fits)

theorem or_eq_add (a b c d : Nat) (hb : b < 256) (hc : c < 256) (hd : d < 256) :
    ((a <<< 24 ||| b <<< 16) ||| c <<< 8) ||| d = 256 * (256 * (256 * a + b) + c) + d := by
  have third : c <<< 8 ||| d = c <<< 8 + d := (Nat.shiftLeft_add_eq_or_of_lt hd c).symm
  have second : b <<< 16 ||| (c <<< 8 + d) = b <<< 16 + (c <<< 8 + d) :=
    (Nat.shiftLeft_add_eq_or_of_lt (by rw [Nat.shiftLeft_eq]; omega) b).symm
  have first : a <<< 24 ||| (b <<< 16 + (c <<< 8 + d)) = a <<< 24 + (b <<< 16 + (c <<< 8 + d)) :=
    (Nat.shiftLeft_add_eq_or_of_lt (by simp only [Nat.shiftLeft_eq]; omega) a).symm
  rw [Nat.or_assoc, Nat.or_assoc, third, second, first]
  simp only [Nat.shiftLeft_eq]
  omega

theorem toNat_readLength (a b c d : Int8) (rest : List Int8) :
    (readLength (a :: b :: c :: d :: rest)).toBitVec.toNat = fromBeBytes (unsigned [a, b, c, d]) := by
  have fits (byte : Int8) : byte.toUInt8.toNat < 256 := byte.toUInt8.toNat_lt
  have first := toNat_shifted a 24 24 rfl (by decide) (by
    have := fits a
    rw [Nat.shiftLeft_eq]
    omega)
  have second := toNat_shifted b 16 16 rfl (by decide) (by
    have := fits b
    rw [Nat.shiftLeft_eq]
    omega)
  have third := toNat_shifted c 8 8 rfl (by decide) (by
    have := fits c
    rw [Nat.shiftLeft_eq]
    omega)
  simp only [readLength, List.getD_cons_zero, List.getD_cons_succ, Int64.toBitVec_or, BitVec.toNat_or]
  rw [first, second, third, toNat_masked, or_eq_add _ _ _ _ (fits b) (fits c) (fits d)]
  simp [fromBeBytes, unsigned]

theorem length_four {α : Type} {bytes : List α} (enough : 4 ≤ bytes.length) :
    ∃ a b c d rest, bytes = a :: b :: c :: d :: rest := by
  match bytes, enough with
  | a :: b :: c :: d :: rest, _ => exact ⟨a, b, c, d, rest, rfl⟩

theorem toInt_readLength {bytes : List Int8} (enough : 4 ≤ bytes.length) :
    (readLength bytes).toInt = fromBeBytes ((unsigned bytes).take 4) := by
  obtain ⟨a, b, c, d, rest, rfl⟩ := length_four enough
  have value := toNat_readLength a b c d rest
  have taken : (unsigned (a :: b :: c :: d :: rest)).take 4 = unsigned [a, b, c, d] := rfl
  have fits (byte : Int8) : byte.toUInt8.toNat < 256 := byte.toUInt8.toNat_lt
  have bound : fromBeBytes (unsigned [a, b, c, d]) < 0x100000000 := by
    have := fits a
    have := fits b
    have := fits c
    have := fits d
    simp only [fromBeBytes, unsigned, List.map_cons, List.map_nil, List.foldl_cons, List.foldl_nil]
    omega
  rw [taken, ← value]
  exact BitVec.toInt_eq_toNat_of_lt (by omega)

theorem unsigned_writeLength {n : Nat} (small : n < 0x80000000) :
    unsigned (writeLength (Int32.ofNat n)) = beBytes n := by
  have byte (x : UInt32) : x.toInt32.toInt8.toUInt8 = UInt8.ofNat x.toNat := by
    have own : x.toInt32 = Int32.ofNat x.toNat := by simp [← Int32.toBitVec_inj]
    rw [own, Int32.toInt8_ofNat', Int8.toUInt8_ofNat']
  have whole : (UInt32.ofNat n).toNat = n := UInt32.toNat_ofNat_of_lt' (Nat.lt_trans small (by decide))
  have shifted (bits : UInt32) (k : Nat) (amount : bits.toNat % 32 = k) :
      (ushr (Int32.ofNat n) bits).toInt8.toUInt8 = UInt8.ofNat (n >>> k) := by
    rw [ushr, byte, Int32.toUInt32_ofNat', UInt32.toNat_shiftRight, whole, amount]
  simp only [unsigned, writeLength, List.map_cons, List.map_nil, shifted 24 24 rfl, shifted 16 16 rfl,
    shifted 8 8 rfl, Int32.toInt8_ofNat', Int8.toUInt8_ofNat', beBytes, Nat.shiftRight_eq_div_pow]

end DaemonFrameCodec

namespace Bytes

theorem toInt_size (self : Bytes) : self.size.toInt = self.elements.length :=
    Int32.toInt_ofNat_of_lt self.bounded

theorem size_gt (self : Bytes) : self.size > DaemonFrameCodec.maxFrameBodyBytes ↔
    self.elements.length > maxFrameBodyBytes := by
  rw [gt_iff_lt, Int32.lt_iff_toInt_lt, toInt_size]
  have max : DaemonFrameCodec.maxFrameBodyBytes.toInt = (maxFrameBodyBytes : Int) := by decide
  rw [max]
  exact Int.ofNat_lt

theorem size_lt (self : Bytes) : self.size < DaemonFrameCodec.lengthPrefixBytes ↔
    self.elements.length < lengthPrefixBytes := by
  rw [Int32.lt_iff_toInt_lt, toInt_size]
  have four : DaemonFrameCodec.lengthPrefixBytes.toInt = (lengthPrefixBytes : Int) := by decide
  rw [four]
  exact Int.ofNat_lt

theorem toInt_actual (self : Bytes) (enough : lengthPrefixBytes ≤ self.elements.length) :
    (self.size - DaemonFrameCodec.lengthPrefixBytes).toInt64.toInt =
      ((self.elements.length - lengthPrefixBytes : Nat) : Int) := by
  have four : DaemonFrameCodec.lengthPrefixBytes.toInt = (lengthPrefixBytes : Int) := by decide
  rw [Int32.toInt_toInt64, Int32.toInt_sub_of_le, toInt_size, four, Int.ofNat_sub enough]
  · decide
  · rw [Int32.le_iff_toInt_le, toInt_size, four]
    exact Int.ofNat_le.mpr enough

end Bytes

namespace DaemonFrameCodec

inductive Corresponds : WireError → DaemonException → Prop
  | tooLarge {length : Nat} {bytes : Int64} (same : bytes.toInt = length) :
      Corresponds (.payloadTooLarge length) (.payloadTooLarge bytes)
  | malformed (message : Str) : Corresponds (.malformedFrame message) (.malformedFrame message)

def Agree : Except WireError (List UInt8) → Except DaemonException (List Int8) → Prop
  | .ok bytes, .ok bytes' => unsigned bytes' = bytes
  | .error error, .error exception => Corresponds error exception
  | _, _ => False

theorem length_unsigned (bytes : List Int8) : (unsigned bytes).length = bytes.length := List.length_map _

theorem unsigned_injective {bytes bytes' : List Int8} (same : unsigned bytes = unsigned bytes') :
    bytes = bytes' :=
  List.map_injective_iff.mpr (fun _ _ equal => congrArg UInt8.toInt8 equal) same

theorem encode_agrees (body : Bytes) : Agree (Wire.encodeFrame (unsigned body.elements))
    (encodeFrame body) := by
  unfold Wire.encodeFrame encodeFrame
  rw [length_unsigned]
  by_cases large : body.elements.length > Wire.maxFrameBodyBytes
  · rw [if_pos large, if_pos (body.size_gt.mpr large)]
    exact .tooLarge (Int32.toInt_toInt64 _ ▸ body.toInt_size)
  · rw [if_neg large, if_neg (mt body.size_gt.mp large)]
    show unsigned (writeLength body.size ++ body.elements) = _
    rw [unsigned, List.map_append]
    exact congrArg (· ++ unsigned body.elements) (unsigned_writeLength body.bounded)

theorem declared_gt {bytes : List Int8} (enough : 4 ≤ bytes.length) :
    readLength bytes > maxFrameBodyBytes.toInt64 ↔
      fromBeBytes ((unsigned bytes).take 4) > Wire.maxFrameBodyBytes := by
  have max : maxFrameBodyBytes.toInt64.toInt = (Wire.maxFrameBodyBytes : Int) := by decide
  rw [gt_iff_lt, Int64.lt_iff_toInt_lt, toInt_readLength enough, max]
  exact Int.ofNat_lt

theorem decode_agrees (frame : Bytes) : Agree (Wire.decodeFrame (unsigned frame.elements))
    (decodeFrame frame) := by
  unfold Wire.decodeFrame decodeFrame
  rw [length_unsigned]
  by_cases short : frame.elements.length < Wire.lengthPrefixBytes
  · rw [if_pos short, if_pos (frame.size_lt.mpr short)]
    exact .malformed _
  · rw [if_neg short, if_neg (mt frame.size_lt.mp short)]
    have enough : 4 ≤ frame.elements.length := Nat.le_of_not_lt short
    have declared := toInt_readLength enough
    have actual := frame.toInt_actual enough
    have four : Wire.lengthPrefixBytes = 4 := rfl
    simp only [decodeLength, four]
    by_cases large : fromBeBytes ((unsigned frame.elements).take 4) > Wire.maxFrameBodyBytes
    · rw [if_pos large, if_pos ((declared_gt enough).mpr large)]
      exact .tooLarge declared
    · rw [if_neg large, if_neg (mt (declared_gt enough).mp large)]
      have other : (frame.size - lengthPrefixBytes).toInt64 ≠ readLength frame.elements ↔
          ((unsigned frame.elements).drop 4).length ≠ fromBeBytes ((unsigned frame.elements).take 4) := by
        rw [ne_eq, ← Int64.toInt_inj, declared, actual, List.length_drop, length_unsigned]
        exact not_congr Int.ofNat_inj
      show Agree (if ((unsigned frame.elements).drop 4).length ≠ fromBeBytes ((unsigned frame.elements).take 4)
        then _ else _) _
      by_cases mismatch : ((unsigned frame.elements).drop 4).length ≠
        fromBeBytes ((unsigned frame.elements).take 4)
      · rw [if_pos mismatch, if_pos (other.mpr mismatch), declared, actual, List.length_drop, length_unsigned]
        exact .malformed _
      · rw [if_neg mismatch, if_neg (mt other.mp mismatch)]
        exact List.map_drop

/-- How the reader's failure answers to the first frame that does not decode: a frame that is cut short leaves it
waiting for bytes that do not come, and so does the end of the stream. -/
inductive Ends : Option WireError → DaemonException → Prop
  | tooLarge {length : Nat} {bytes : Int64} (same : bytes.toInt = length) :
      Ends (some (.payloadTooLarge length)) (.payloadTooLarge bytes)
  | truncated (message message' : Str) : Ends (some (.malformedFrame message)) (.connectionClosed message')
  | finished (message : Str) : Ends none (.connectionClosed message)

/-- One frame is read, or the first one of the stream does not decode. -/
theorem readFrame_spec (input : InputStream) :
    (∃ body next frame, readFrame input = .ok (body, next) ∧ input.remaining = frame ++ next.remaining ∧
      frame ≠ [] ∧
      decodeFrames (cutFrames (unsigned input.remaining)) =
        (unsigned body :: (decodeFrames (cutFrames (unsigned next.remaining))).1,
          (decodeFrames (cutFrames (unsigned next.remaining))).2)) ∨
    ∃ exception error, readFrame input = .error exception ∧ Ends error exception ∧
      decodeFrames (cutFrames (unsigned input.remaining)) = ([], error) := by
  have append (front back : List Int8) : unsigned (front ++ back) = unsigned front ++ unsigned back :=
    List.map_append
  rcases input.readExactly_spec 4 with ⟨lengthPrefix, rest, read, four, split⟩ | ⟨message, closed, short⟩
  · have first : (unsigned lengthPrefix).length = Wire.lengthPrefixBytes := (length_unsigned _).trans four
    have declared := @toInt_readLength lengthPrefix four.ge
    have large := @declared_gt lengthPrefix four.ge
    have whole : (unsigned lengthPrefix).take 4 = unsigned lengthPrefix := List.take_of_length_le first.le
    rw [whole] at declared large
    have frames := @cutFrames_append _ (unsigned rest.remaining) first
    rw [split, append, frames]
    unfold readFrame
    rw [read]
    simp only [bind, Except.bind]
    by_cases tooLarge : fromBeBytes (unsigned lengthPrefix) > Wire.maxFrameBodyBytes
    · rw [if_pos (large.mpr tooLarge)]
      exact .inr ⟨_, _, rfl, .tooLarge declared, decodeFrames_error _ (decodeFrame_large first tooLarge)⟩
    · rw [if_neg (mt large.mp tooLarge), declared, Int.toNat_natCast]
      rcases rest.readExactly_spec (fromBeBytes (unsigned lengthPrefix)) with
        ⟨body, next, read', whole, split'⟩ | ⟨message, closed, short⟩
      · rw [read', split', append]
        have whole : (unsigned body).length = fromBeBytes (unsigned lengthPrefix) :=
          (length_unsigned _).trans whole
        rw [List.take_left' whole, List.drop_left' whole]
        refine .inl ⟨body, next, lengthPrefix ++ body, rfl, (List.append_assoc _ _ _).symm, ?_,
          decodeFrames_ok _ (decodeFrame_whole first tooLarge whole)⟩
        intro empty
        rw [(List.append_eq_nil_iff.mp empty).1] at four
        cases four
      · rw [closed]
        have cut : (unsigned rest.remaining).length < fromBeBytes (unsigned lengthPrefix) :=
          (length_unsigned _).trans_lt short
        obtain ⟨message', failed⟩ := @decodeFrame_mismatch _ (unsigned rest.remaining) first tooLarge cut.ne
        rw [List.take_of_length_le cut.le]
        exact .inr ⟨_, _, rfl, .truncated message' message, decodeFrames_error _ failed⟩
  · have failed : readFrame input = .error (.connectionClosed message) := by
      unfold readFrame
      rw [closed]
      rfl
    refine .inr ?_
    by_cases ended : input.remaining = []
    · refine ⟨_, none, failed, .finished message, ?_⟩
      rw [ended]
      rw [show unsigned [] = [] from rfl, cutFrames, if_pos rfl, decodeFrames]
    · have short : (unsigned input.remaining).length < Wire.lengthPrefixBytes :=
        (length_unsigned _).trans_lt short
      obtain ⟨message', malformed⟩ := decodeFrame_short short
      refine ⟨_, _, failed, .truncated message' message, ?_⟩
      rw [cutFrames_short (by simpa [unsigned] using ended) short]
      exact decodeFrames_error _ malformed

def readFrames (input : InputStream) : List (List Int8) × DaemonException :=
  match _frame : readFrame input with
  | .error exception => ([], exception)
  | .ok (body, next) =>
      let (bodies, exception) := readFrames next
      (body :: bodies, exception)
termination_by input.remaining.length
decreasing_by
  rcases readFrame_spec input with ⟨_, _, frame, read, split, nonempty, -⟩ | ⟨_, _, failed, -⟩
  · cases _frame.symm.trans read
    have positive := List.length_pos_iff.mpr nonempty
    rw [split, List.length_append]
    omega
  · cases _frame.symm.trans failed

theorem readFrames_agree (input : InputStream) :
    (readFrames input).1.map unsigned = (decodeFrames (cutFrames (unsigned input.remaining))).1 ∧
      Ends (decodeFrames (cutFrames (unsigned input.remaining))).2 (readFrames input).2 := by
  rw [readFrames]
  rcases readFrame_spec input with ⟨body, next, frame, read, split, nonempty, decoded⟩ | ⟨exception, error,
    failed, ends, decoded⟩
  · have shorter : next.remaining.length < input.remaining.length := by
      have positive := List.length_pos_iff.mpr nonempty
      rw [split, List.length_append]
      omega
    obtain ⟨bodies, ends⟩ := readFrames_agree next
    rw [decoded]
    split
    · next failed => cases failed.symm.trans read
    · next read' =>
        cases read'.symm.trans read
        exact ⟨by rw [List.map_cons, bodies], ends⟩
  · rw [decoded]
    split
    · next failed' =>
        cases failed'.symm.trans failed
        exact ⟨rfl, ends⟩
    · next read => cases read.symm.trans failed
termination_by input.remaining.length

theorem round_trip (body : Bytes) (fits : body.elements.length ≤ Wire.maxFrameBodyBytes) :
    ∃ frame : Bytes, encodeFrame body = .ok frame.elements ∧
      Wire.encodeFrame (unsigned body.elements) = .ok (unsigned frame.elements) ∧
      decodeFrame frame = .ok body.elements ∧
      Wire.decodeFrame (unsigned frame.elements) = .ok (unsigned body.elements) := by
  have head := unsigned_writeLength body.bounded
  have four : (writeLength body.size).length = 4 := rfl
  let frame : Bytes := ⟨writeLength body.size ++ body.elements, by
    rw [List.length_append, four]
    exact Nat.lt_of_le_of_lt (Nat.add_le_add_left fits 4) (by decide)⟩
  have bytes : unsigned frame.elements = beBytes body.elements.length ++ unsigned body.elements := by
    rw [← head]
    exact List.map_append
  have number : fromBeBytes (beBytes body.elements.length) = body.elements.length :=
    fromBeBytes_beBytes (Nat.lt_of_le_of_lt fits (by decide))
  have decoded : Wire.decodeFrame (unsigned frame.elements) = .ok (unsigned body.elements) := by
    rw [bytes]
    refine decodeFrame_whole rfl ?_ ?_
    · rw [number]
      exact Nat.not_lt.mpr fits
    · rw [number, length_unsigned]
  refine ⟨frame, if_neg (mt body.size_gt.mp (Nat.not_lt.mpr fits)), ?_, ?_, decoded⟩
  · rw [bytes, Wire.encodeFrame, length_unsigned]
    exact if_neg (Nat.not_lt.mpr fits)
  · have agrees := decode_agrees frame
    rw [decoded] at agrees
    cases result : decodeFrame frame with
    | ok elements =>
        rw [result] at agrees
        rw [unsigned_injective agrees]
    | error exception =>
        rw [result] at agrees
        exact agrees.elim

theorem larger_refused (body : Bytes) (large : body.elements.length > Wire.maxFrameBodyBytes) :
    encodeFrame body = .error (.payloadTooLarge body.size.toInt64) ∧
      Wire.encodeFrame (unsigned body.elements) = .error (.payloadTooLarge body.elements.length) := by
  rw [Wire.encodeFrame, length_unsigned]
  exact ⟨if_pos (body.size_gt.mpr large), if_pos large⟩

/-- The two codecs agree on every frame, on every body and on every stream. -/
theorem codecs_agree :
    (∀ frame : Bytes, Agree (Wire.decodeFrame (unsigned frame.elements)) (decodeFrame frame)) ∧
    (∀ body : Bytes, Agree (Wire.encodeFrame (unsigned body.elements)) (encodeFrame body) ∧
      (body.elements.length ≤ Wire.maxFrameBodyBytes → ∃ frame : Bytes, encodeFrame body = .ok frame.elements ∧
        Wire.encodeFrame (unsigned body.elements) = .ok (unsigned frame.elements) ∧
        decodeFrame frame = .ok body.elements ∧
        Wire.decodeFrame (unsigned frame.elements) = .ok (unsigned body.elements)) ∧
      (body.elements.length > Wire.maxFrameBodyBytes →
        encodeFrame body = .error (.payloadTooLarge body.size.toInt64) ∧
          Wire.encodeFrame (unsigned body.elements) = .error (.payloadTooLarge body.elements.length))) ∧
    ∀ input : InputStream,
      (readFrames input).1.map unsigned = (decodeFrames (cutFrames (unsigned input.remaining))).1 ∧
        Ends (decodeFrames (cutFrames (unsigned input.remaining))).2 (readFrames input).2 :=
  ⟨decode_agrees, fun body => ⟨encode_agrees body, round_trip body, larger_refused body⟩, readFrames_agree⟩

end DaemonFrameCodec
end CrashCatcher.Manager
