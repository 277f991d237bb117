import CrashCatcher.Lib.ByteCursor
import CrashCatcher.Lib.Utf8Chars
import CrashCatcher.Watch.Poll
import Mathlib.Data.List.Forall2

namespace CrashCatcher.Watch.InotifyBuffer
open Lib Checked LittleEndian

structure RawInotifyEvent where
  watchDescriptor : Int32
  mask : UInt32
  cookie : UInt32
  name : Str
deriving DecidableEq

inductive Endian where
  | little
  | big

namespace Endian

def order : Endian → List UInt8 → List UInt8
  | .little, bytes => bytes
  | .big, bytes => bytes.reverse

def fromNe (self : Endian) (bytes : List UInt8) : UInt32 := UInt32.ofNat (ofLe (self.order bytes))

def toNe (self : Endian) (n : UInt32) : List UInt8 := self.order (toLe 4 n.toNat)

@[simp] theorem order_order (self : Endian) (bytes : List UInt8) : self.order (self.order bytes) = bytes := by
  cases self with
  | little => rfl
  | big => exact List.reverse_reverse bytes

@[simp] theorem length_order (self : Endian) (bytes : List UInt8) :
    (self.order bytes).length = bytes.length := by
  cases self with
  | little => rfl
  | big => exact List.length_reverse

@[simp] theorem length_toNe (self : Endian) (n : UInt32) : (self.toNe n).length = 4 := by
  rw [toNe, length_order, length_toLe]

@[simp] theorem fromNe_toNe (self : Endian) (n : UInt32) : self.fromNe (self.toNe n) = n := by
  rw [fromNe, toNe, order_order, ofLe_toLe n.toNat_lt, UInt32.ofNat_toNat]

theorem toNe_fromNe (self : Endian) {bytes : List UInt8} (word : bytes.length = 4) :
    self.toNe (self.fromNe bytes) = bytes := by
  have small : ofLe (self.order bytes) < 2 ^ 32 := by
    have bound := ofLe_lt (self.order bytes)
    rw [length_order, word] at bound
    exact bound
  have same := toLe_ofLe (self.order bytes)
  rw [length_order, word] at same
  rw [toNe, fromNe, UInt32.toNat_ofNat_of_lt' small, same, order_order]

end Endian

section Parse
variable (target : Target) (endian : Endian)

def copy4 (b : List UInt8) : Checked WatcherError (List UInt8) :=
  if b.length = 4 then .ok b else .error (.malformedEvent "truncated integer".toList)

/-- One turn of the parser's loop: the event at `p`, and where the next one stands. -/
def readEvent (bytes : List UInt8) (p : Nat) : Checked WatcherError (RawInotifyEvent × Nat) := do
  let left ← sub bytes.length p
  if left < 16 then .error (.malformedEvent "truncated header".toList)
  else do
    let stop ← add target.usizeMax p 16
    let h ← slice bytes p stop
    let wd ← slice h 0 4 >>= copy4
    let mask ← slice h 4 8 >>= copy4
    let cookie ← slice h 8 12 >>= copy4
    let length ← slice h 12 16 >>= copy4
    let len := (endian.fromNe length).toNat
    if len > target.usizeMax then .error (.malformedEvent "name length overflow".toList)
    else do
      let p ← add target.usizeMax p 16
      let left ← sub bytes.length p
      if len > left then .error (.malformedEvent "truncated name".toList)
      else do
        let stop ← add target.usizeMax p len
        let raw ← slice bytes p stop
        let text ← slice raw 0 (raw.findIdx fun b => b == 0)
        let name ← okOr (.malformedEvent "non-UTF8 name".toList) (Utf8.fromUtf8 text)
        return ({
          watchDescriptor := (endian.fromNe wd).toInt32
          mask := endian.fromNe mask
          cookie := endian.fromNe cookie
          name }, stop)

/-- The parser's loop, with a bound on its turns. -/
def parseFrom (bytes : List UInt8) : Nat → Nat → List RawInotifyEvent →
    Checked WatcherError (List RawInotifyEvent)
  | 0, p, out => if p < bytes.length then .unfinished else .ok out
  | turns + 1, p, out =>
    if p < bytes.length then do
      let (event, p) ← readEvent target endian bytes p
      parseFrom bytes turns p (out ++ [event])
    else .ok out

def parseInotifyEvents (bytes : List UInt8) : Checked WatcherError (List RawInotifyEvent) :=
  parseFrom target endian bytes bytes.length 0 []

end Parse

structure Header where
  watchDescriptor : Int32
  mask : UInt32
  cookie : UInt32
  length : UInt32

def Header.bytes (self : Header) (endian : Endian) : List UInt8 :=
  endian.toNe self.watchDescriptor.toUInt32 ++ (endian.toNe self.mask ++
    (endian.toNe self.cookie ++ endian.toNe self.length))

def Header.event (self : Header) (name : Str) : RawInotifyEvent where
  watchDescriptor := self.watchDescriptor
  mask := self.mask
  cookie := self.cookie
  name

def fieldName (field : List UInt8) : Option Str := Utf8.fromUtf8 (field.takeWhile fun b => b != 0)

section Turn
variable {target : Target} {endian : Endian} {bytes : List UInt8} {turns p : Nat} {out : List RawInotifyEvent}

@[simp] theorem Header.length_bytes (self : Header) : (self.bytes endian).length = 16 := by simp [Header.bytes]

theorem Header.exists_bytes {bytes : List UInt8} (long : 16 ≤ bytes.length) (endian : Endian) :
    ∃ header : Header, ∃ more, bytes = header.bytes endian ++ more := by
  have word : ∀ {rest : List UInt8}, 4 ≤ rest.length → ∃ n more, rest = endian.toNe n ++ more ∧
      more.length = rest.length - 4 := by
    intro rest enough
    refine ⟨endian.fromNe (rest.take 4), rest.drop 4, ?_, List.length_drop⟩
    rw [endian.toNe_fromNe (List.length_take_of_le enough), List.take_append_drop]
  obtain ⟨wd, afterWd, rfl, left⟩ := word (by omega : 4 ≤ bytes.length)
  obtain ⟨mask, afterMask, rfl, left'⟩ := word (by omega : 4 ≤ afterWd.length)
  obtain ⟨cookie, afterCookie, rfl, left''⟩ := word (by omega : 4 ≤ afterMask.length)
  obtain ⟨length, more, rfl, -⟩ := word (by omega : 4 ≤ afterCookie.length)
  exact ⟨⟨wd.toInt32, mask, cookie, length⟩, more, by simp [Header.bytes]⟩

theorem slice_word {h start word more : List UInt8} (laid : h = start ++ (word ++ more))
    (four : word.length = 4) {low high : Nat} (from' : low = start.length) (upTo : high = low + 4) :
    (slice h low high >>= copy4) = .ok word := by
  subst laid from' upTo
  rw [slice_of_le (Nat.le_add_right _ _) (by simp [four]), ok_bind, List.drop_left,
    Nat.add_sub_cancel_left, ← four, List.take_left, copy4, if_pos four]

theorem place_of_drop {rest : List UInt8} (here : bytes.drop p = rest) (nonempty : rest ≠ []) :
    p + rest.length = bytes.length := by
  have length := congrArg List.length here
  rw [List.length_drop] at length
  have positive := List.length_pos_iff.mpr nonempty
  omega

theorem parseFrom_nil (here : bytes.drop p = []) : parseFrom target endian bytes turns p out = .ok out := by
  have ended : ¬ p < bytes.length := Nat.not_lt.mpr (List.drop_eq_nil_iff.mp here)
  cases turns <;> rw [parseFrom, if_neg ended]

theorem readEvent_short {rest : List UInt8} (here : bytes.drop p = rest) (nonempty : rest ≠ [])
    (short : rest.length < 16) : readEvent target endian bytes p =
      .error (.malformedEvent "truncated header".toList) := by
  have place := place_of_drop here nonempty
  have positive := List.length_pos_iff.mpr nonempty
  have left : bytes.length - p < 16 := by omega
  rw [readEvent, sub_of_le (by omega), ok_bind, if_pos left]

theorem readEvent_header (addressable : bytes.length ≤ target.usizeMax) {header : Header} {more : List UInt8}
    (here : bytes.drop p = header.bytes endian ++ more) :
    readEvent target endian bytes p =
      if header.length.toNat > more.length then .error (.malformedEvent "truncated name".toList)
      else do
        let name ← okOr (.malformedEvent "non-UTF8 name".toList) (fieldName (more.take header.length.toNat))
        return (header.event name, p + 16 + header.length.toNat) := by
  have nonempty : header.bytes endian ++ more ≠ [] := by
    rw [← List.length_pos_iff, List.length_append, Header.length_bytes]
    omega
  have place := place_of_drop here nonempty
  rw [List.length_append, Header.length_bytes] at place
  have headed : (slice bytes p (p + 16) : Checked WatcherError (List UInt8)) = .ok (header.bytes endian) := by
    rw [slice_of_le (Nat.le_add_right _ _) (by omega), here, Nat.add_sub_cancel_left,
      List.take_left' header.length_bytes]
  have words : ∀ a b c d : List UInt8, a ++ (b ++ (c ++ d)) = (a ++ b) ++ (c ++ d) ∧
      a ++ (b ++ (c ++ d)) = (a ++ b ++ c) ++ (d ++ []) := by simp
  have wd : (slice (header.bytes endian) 0 4 >>= copy4) = .ok (endian.toNe header.watchDescriptor.toUInt32) :=
    slice_word (List.nil_append _).symm (endian.length_toNe _) rfl rfl
  have mask : (slice (header.bytes endian) 4 8 >>= copy4) = .ok (endian.toNe header.mask) :=
    slice_word rfl (endian.length_toNe _) (endian.length_toNe _).symm rfl
  have cookie : (slice (header.bytes endian) 8 12 >>= copy4) = .ok (endian.toNe header.cookie) :=
    slice_word (words _ _ _ _).1 (endian.length_toNe _) (by simp) rfl
  have length : (slice (header.bytes endian) 12 16 >>= copy4) = .ok (endian.toNe header.length) :=
    slice_word (words _ _ _ _).2 (endian.length_toNe _) (by simp) rfl
  have small : ¬ header.length.toNat > target.usizeMax := by
    have bound := header.length.toNat_lt
    have large := target.le_usizeMax
    omega
  have left : bytes.length - (p + 16) = more.length := by omega
  rw [readEvent, sub_of_le (by omega), ok_bind, if_neg (by omega), add_of_le (by omega), ok_bind, headed,
    ok_bind, wd, ok_bind, mask, ok_bind, cookie, ok_bind, length, ok_bind]
  dsimp only
  rw [Endian.fromNe_toNe, if_neg small, ok_bind, sub_of_le (by omega), ok_bind, left]
  by_cases long : header.length.toNat > more.length
  · rw [if_pos long, if_pos long]
  · have field : (bytes.drop (p + 16)).take header.length.toNat = more.take header.length.toNat := by
      rw [← List.drop_drop, here, List.drop_left' header.length_bytes]
    have name : (more.take header.length.toNat).take ((more.take header.length.toNat).findIdx fun b => b == 0) =
        (more.take header.length.toNat).takeWhile fun b => b != 0 := by
      rw [List.takeWhile_eq_take_findIdx_not]
      simp only [bne, Bool.not_not]
    rw [if_neg long, if_neg long, add_of_le (by omega), ok_bind,
      slice_of_le (Nat.le_add_right _ _) (by omega), ok_bind,
      Nat.add_sub_cancel_left, field, slice_of_le (Nat.zero_le _) List.findIdx_le_length, ok_bind,
        List.drop_zero,
      Nat.sub_zero, name]
    simp only [Endian.fromNe_toNe]
    rfl

end Turn

structure Record where
  header : Header
  field : List UInt8
  announced : header.length.toNat = field.length

namespace Record

def bytes (self : Record) (endian : Endian) : List UInt8 := self.header.bytes endian ++ self.field

def event? (self : Record) : Option RawInotifyEvent := (fieldName self.field).map self.header.event

end Record

def EndsInside (endian : Endian) (bytes : List UInt8) : Prop :=
  bytes ≠ [] ∧ (bytes.length < 16 ∨
    ∃ header : Header, ∃ more, bytes = header.bytes endian ++ more ∧ more.length < header.length.toNat)

theorem cases_rest (endian : Endian) (rest : List UInt8) :
    rest = [] ∨ EndsInside endian rest ∨ ∃ record : Record, ∃ more, rest = record.bytes endian ++ more := by
  by_cases empty : rest = []
  · exact .inl empty
  by_cases short : rest.length < 16
  · exact .inr (.inl ⟨empty, .inl short⟩)
  obtain ⟨header, more, rfl⟩ := Header.exists_bytes (Nat.not_lt.mp short) endian
  by_cases cut : more.length < header.length.toNat
  · exact .inr (.inl ⟨empty, .inr ⟨header, more, rfl, cut⟩⟩)
  · refine .inr (.inr ⟨⟨header, more.take header.length.toNat, ?_⟩, more.drop header.length.toNat, ?_⟩)
    · rw [List.length_take_of_le (Nat.not_lt.mp cut)]
    · rw [Record.bytes, List.append_assoc, List.take_append_drop]

section Loop
variable {target : Target} {endian : Endian} {bytes : List UInt8} {turns p : Nat} {out : List RawInotifyEvent}
  (addressable : bytes.length ≤ target.usizeMax)
include addressable

theorem readEvent_record {record : Record} {more : List UInt8}
    (here : bytes.drop p = record.bytes endian ++ more) :
    readEvent target endian bytes p = match record.event? with
      | none => .error (.malformedEvent "non-UTF8 name".toList)
      | some event => .ok (event, p + (record.bytes endian).length) := by
  rw [Record.bytes, List.append_assoc] at here
  have inside : ¬ record.header.length.toNat > (record.field ++ more).length := by
    rw [record.announced, List.length_append]
    omega
  have length : (record.bytes endian).length = 16 + record.field.length := by
    rw [Record.bytes, List.length_append, Header.length_bytes]
  rw [readEvent_header addressable here, if_neg inside, record.announced, List.take_left, Record.event?, length,
    ← Nat.add_assoc]
  cases fieldName record.field <;> rfl

theorem readEvent_endsInside (cut : EndsInside endian (bytes.drop p)) :
    ∃ e, readEvent target endian bytes p = .error e := by
  obtain ⟨nonempty, short | ⟨header, more, here, shorter⟩⟩ := cut
  · exact ⟨_, readEvent_short rfl nonempty short⟩
  · rw [readEvent_header addressable here, if_pos shorter]
    exact ⟨_, rfl⟩

omit addressable in
theorem parseFrom_succ (nonempty : bytes.drop p ≠ []) :
    parseFrom target endian bytes (turns + 1) p out =
      readEvent target endian bytes p >>= fun next =>
        parseFrom target endian bytes turns next.2 (out ++ [next.1]) := by
  have left : p < bytes.length := by
    by_contra ended
    exact nonempty (List.drop_eq_nil_of_le (Nat.not_lt.mp ended))
  rw [parseFrom, if_pos left]

theorem parseFrom_record {record : Record} {more : List UInt8}
    (here : bytes.drop p = record.bytes endian ++ more) :
    parseFrom target endian bytes (turns + 1) p out = match record.event? with
      | none => .error (.malformedEvent "non-UTF8 name".toList)
      | some event => parseFrom target endian bytes turns (p + (record.bytes endian).length)
          (out ++ [event]) := by
  have nonempty : bytes.drop p ≠ [] := by
    rw [here, ← List.length_pos_iff, List.length_append, Record.bytes, List.length_append, Header.length_bytes]
    omega
  rw [parseFrom_succ nonempty, readEvent_record addressable here]
  cases record.event? <;> rfl

omit addressable in
theorem drop_record {record : Record} {more : List UInt8} (here : bytes.drop p = record.bytes endian ++ more) :
    bytes.drop (p + (record.bytes endian).length) = more := by
  rw [← List.drop_drop, here, List.drop_left]

omit addressable in
theorem length_record (record : Record) : 16 ≤ (record.bytes endian).length := by
  rw [Record.bytes, List.length_append, Header.length_bytes]
  omega

theorem returns_parseFrom (enough : bytes.length - p ≤ turns) :
    (parseFrom target endian bytes turns p out).Returns := by
  induction turns generalizing p out with
  | zero =>
      rw [parseFrom_nil (List.drop_eq_nil_of_le (by omega))]
      trivial
  | succ turns ih =>
      rcases cases_rest endian (bytes.drop p) with ended | cut | ⟨record, more, here⟩
      · rw [parseFrom_nil ended]
        trivial
      · obtain ⟨e, failed⟩ := readEvent_endsInside addressable cut
        rw [parseFrom_succ cut.1, failed]
        trivial
      · rw [parseFrom_record addressable here]
        cases record.event? with
        | none => trivial
        | some event =>
            have long := @length_record endian record
            exact ih (by omega)

omit addressable in
theorem turns_left (nonempty : bytes.drop p ≠ []) (enough : bytes.length - p ≤ turns) : ∃ n, turns = n + 1 := by
  have left : p < bytes.length := by
    by_contra ended
    exact nonempty (List.drop_eq_nil_of_le (Nat.not_lt.mp ended))
  exact ⟨turns - 1, by omega⟩

theorem parseFrom_endsInside {records : List Record} {tail : List UInt8} (cut : EndsInside endian tail)
    (here : bytes.drop p = records.flatMap (Record.bytes · endian) ++ tail)
      (enough : bytes.length - p ≤ turns) :
    ∃ e, parseFrom target endian bytes turns p out = .error e := by
  induction records generalizing p turns out with
  | nil =>
      rw [List.flatMap_nil, List.nil_append] at here
      rw [← here] at cut
      obtain ⟨turns, rfl⟩ := turns_left cut.1 enough
      obtain ⟨e, failed⟩ := readEvent_endsInside addressable cut
      rw [parseFrom_succ cut.1, failed]
      exact ⟨e, rfl⟩
  | cons record records ih =>
      rw [List.flatMap_cons, List.append_assoc] at here
      have long := @length_record endian record
      have nonempty : bytes.drop p ≠ [] := by
        rw [here, ← List.length_pos_iff, List.length_append]
        omega
      obtain ⟨turns, rfl⟩ := turns_left nonempty enough
      rw [parseFrom_record addressable here]
      cases record.event? with
      | none => exact ⟨_, rfl⟩
      | some event => exact ih (drop_record here) (by omega)

theorem parseFrom_records {records : List Record} {events : List RawInotifyEvent}
    (named : List.Forall₂ (fun record event => record.event? = some event) records events)
    (here : bytes.drop p = records.flatMap (Record.bytes · endian)) (enough : bytes.length - p ≤ turns) :
    parseFrom target endian bytes turns p out = .ok (out ++ events) := by
  induction named generalizing p turns out with
  | nil => rw [parseFrom_nil here, List.append_nil]
  | @cons record event records events name _ ih =>
      rw [List.flatMap_cons] at here
      have long := @length_record endian record
      have nonempty : bytes.drop p ≠ [] := by
        rw [here, ← List.length_pos_iff, List.length_append]
        omega
      obtain ⟨turns, rfl⟩ := turns_left nonempty enough
      rw [parseFrom_record addressable here, name]
      have later := @ih turns _ (out ++ [event]) (drop_record here) (by omega)
      rw [List.append_assoc] at later
      exact later

end Loop

structure KernelEvent where
  event : RawInotifyEvent
  padding : Nat
  plain : Char.ofNat 0 ∉ event.name
  fits : (Utf8.encode event.name).length + padding < 2 ^ 32

namespace KernelEvent
variable (self : KernelEvent)

def field : List UInt8 := Utf8.encode self.event.name ++ List.replicate self.padding 0

def header : Header where
  watchDescriptor := self.event.watchDescriptor
  mask := self.event.mask
  cookie := self.event.cookie
  length := UInt32.ofNat self.field.length

def bytes (endian : Endian) : List UInt8 := self.header.bytes endian ++ self.field

def record : Record where
  header := self.header
  field := self.field
  announced := by
    refine UInt32.toNat_ofNat_of_lt' ?_
    rw [field, List.length_append, List.length_replicate]
    exact self.fits

theorem event?_record : self.record.event? = some self.event := by
  have named : ∀ b ∈ Utf8.encode self.event.name, (b != 0) = true := by
    intro b member
    rw [bne_iff_ne]
    rintro rfl
    exact Utf8.zero_notMem_encode self.plain member
  have padded : (List.replicate self.padding (0 : UInt8)).takeWhile (fun b => b != 0) = [] := by
    cases self.padding <;> rfl
  have name : fieldName self.field = some self.event.name := by
    rw [fieldName, field, List.takeWhile_append_of_pos named, padded, List.append_nil, Utf8.fromUtf8_encode]
  show (fieldName self.field).map self.header.event = _
  rw [name]
  rfl

end KernelEvent

section Agreement

def RawInotifyEvent.raw (self : RawInotifyEvent) : Inotify.RawInotifyEvent :=
  ⟨self.watchDescriptor.toInt, self.mask.toNat, self.cookie.toNat, self.name⟩

def ofExcept {ε α : Type} : Except ε α → Checked ε α
  | .ok a => .ok a
  | .error e => .error e

theorem u32_eq_ofLe (bytes : List UInt8) : Inotify.u32 bytes = ofLe bytes := by
  induction bytes with
  | nil => rfl
  | cons byte bytes ih => exact congrArg (byte.toNat + 256 * ·) ih

theorem u32_toNe (n : UInt32) : Inotify.u32 (Endian.little.toNe n) = n.toNat := by
  rw [u32_eq_ofLe]
  exact ofLe_toLe n.toNat_lt

theorem i32_toNe (n : Int32) : Inotify.i32 (Endian.little.toNe n.toUInt32) = n.toInt := by
  have cases := BitVec.toInt_eq_toNat_cond n.toBitVec
  rw [Inotify.i32, u32_toNe]
  show (if n.toBitVec.toNat < 2 ^ 32 / 2 then _ else _) = n.toBitVec.toInt
  rw [cases]
  split_ifs <;> first | rfl | omega

theorem split_header (header : Header) (more : List UInt8) :
    Inotify.split (header.bytes .little ++ more) =
      if more.length < header.length.toNat then .error (.malformedEvent "truncated name".toList)
      else .ok (⟨header.watchDescriptor.toInt, header.mask.toNat, header.cookie.toNat,
        more.take header.length.toNat⟩, more.drop header.length.toNat) := by
  have long : ¬ (header.bytes .little ++ more).length < 16 := by simp
  have words : ∀ a b c d e : List UInt8, a ++ (b ++ (c ++ d)) ++ e = a ++ (b ++ (c ++ (d ++ e))) := by simp
  have rest : (header.bytes .little ++ more).drop 16 = more := List.drop_left' header.length_bytes
  have length : ((header.bytes .little ++ more).drop 12).take 4 = Endian.little.toNe header.length := by
    rw [Header.bytes, words, ← List.append_assoc, ← List.append_assoc, List.drop_left' (by simp),
      List.take_left' (by simp)]
  have cookie : ((header.bytes .little ++ more).drop 8).take 4 = Endian.little.toNe header.cookie := by
    rw [Header.bytes, words, ← List.append_assoc, List.drop_left' (by simp), List.take_left' (by simp)]
  have mask : ((header.bytes .little ++ more).drop 4).take 4 = Endian.little.toNe header.mask := by
    rw [Header.bytes, words, List.drop_left' (by simp), List.take_left' (by simp)]
  have wd : (header.bytes .little ++ more).take 4 = Endian.little.toNe header.watchDescriptor.toUInt32 := by
    rw [Header.bytes, words, List.take_left' (by simp)]
  simp only [Inotify.split, if_neg long, rest, length, cookie, mask, wd, u32_toNe, i32_toNe]

theorem name_eq_fieldName (frame : Inotify.Frame) : frame.name = fieldName frame.raw := by
  have same : (fun b : UInt8 => decide (b ≠ 0)) = fun b => b != 0 := by
    funext b
    by_cases zero : b = 0 <;> simp [zero]
  rw [Inotify.Frame.name, fieldName, same]

variable {target : Target} {bytes rest : List UInt8} {turns p : Nat} {out : List RawInotifyEvent}

theorem parseFrom_agrees (addressable : bytes.length ≤ target.usizeMax) (fuel : Nat)
    (fuelled : rest.length ≤ fuel) (here : bytes.drop p = rest) (enough : bytes.length - p ≤ turns) :
    (parseFrom target .little bytes turns p out >>= fun events => .ok (events.map RawInotifyEvent.raw)) =
      ofExcept (Inotify.parseFrom fuel rest >>= fun events => .ok (out.map RawInotifyEvent.raw ++ events)) := by
  induction fuel generalizing p turns out rest with
  | zero =>
      obtain rfl := List.length_eq_zero_iff.mp (Nat.le_zero.mp fuelled)
      rw [parseFrom_nil here, ok_bind]
      exact congrArg Checked.ok (List.append_nil _).symm
  | succ fuel ih =>
      rcases cases_rest .little rest with rfl | cut | ⟨record, more, rfl⟩
      · rw [parseFrom_nil here, ok_bind]
        exact congrArg Checked.ok (List.append_nil _).symm
      · obtain ⟨turns, rfl⟩ := turns_left (here ▸ cut.1) enough
        obtain ⟨byte, tail, rfl⟩ := List.exists_cons_of_ne_nil cut.1
        rw [parseFrom_succ (here ▸ cut.1), Inotify.parseFrom]
        obtain ⟨_, short | ⟨header, more, laid, shorter⟩⟩ := cut
        · rw [readEvent_short here (List.cons_ne_nil byte tail) short, Inotify.split, if_pos short]
          rfl
        · rw [laid] at here ⊢
          rw [readEvent_header addressable here, if_pos shorter, split_header, if_pos shorter]
          rfl
      · have nonempty : record.bytes .little ++ more ≠ [] := by
          rw [← List.length_pos_iff, List.length_append, Record.bytes, List.length_append, Header.length_bytes]
          omega
        have long := @length_record .little record
        rw [List.length_append] at fuelled
        obtain ⟨turns, rfl⟩ := turns_left (here ▸ nonempty) enough
        have inside : ¬ (record.field ++ more).length < record.header.length.toNat := by
          rw [record.announced, List.length_append]
          omega
        have first : Inotify.split (record.bytes .little ++ more) =
            .ok (⟨record.header.watchDescriptor.toInt, record.header.mask.toNat, record.header.cookie.toNat,
              record.field⟩, more) := by
          rw [Record.bytes, List.append_assoc, split_header, if_neg inside, record.announced, List.take_left,
            List.drop_left]
        obtain ⟨byte, tail, shape⟩ := List.exists_cons_of_ne_nil nonempty
        rw [parseFrom_record addressable here, shape, Inotify.parseFrom, ← shape, first, Record.event?]
        cases named : fieldName record.field with
        | none =>
            simp only [Option.map_none, error_bind]
            show _ = ofExcept ((Inotify.Frame.decode _ >>= _) >>= _)
            rw [Inotify.Frame.decode, name_eq_fieldName, named]
            rfl
        | some text =>
            simp only [Option.map_some]
            have later := @ih more turns (p + (record.bytes .little).length) (out ++ [record.header.event text])
              (by omega) (drop_record here) (by omega)
            rw [later]
            show _ = ofExcept ((Inotify.Frame.decode _ >>= _) >>= _)
            rw [Inotify.Frame.decode, name_eq_fieldName, named, List.map_append]
            cases Inotify.parseFrom fuel more with
            | error e => rfl
            | ok events => exact congrArg Checked.ok (List.append_assoc _ _ _)

/-- The parser that the poll uses reads the same events on targets whose bytes are in little-endian order. -/
theorem parseInotifyEvents_agrees (addressable : bytes.length ≤ target.usizeMax) :
    (parseInotifyEvents target .little bytes >>= fun events => .ok (events.map RawInotifyEvent.raw)) =
      ofExcept (Inotify.parseInotifyEvents bytes) := by
  have agrees := @parseFrom_agrees target bytes bytes bytes.length 0 [] addressable bytes.length (Nat.le_refl _)
    List.drop_zero (Nat.sub_le _ _)
  rw [parseInotifyEvents, agrees, Inotify.parseInotifyEvents]
  cases Inotify.parseFrom bytes.length bytes <;> rfl

end Agreement

/-- Buffers of the kernel are decoded to their events, and all others end in events or an error: in an
error where the bytes end inside a record. -/
theorem inotify_buffers_decode (target : Target) (endian : Endian) {bytes : List UInt8}
    (addressable : bytes.length ≤ target.usizeMax) :
    (∀ events : List KernelEvent, bytes = events.flatMap (KernelEvent.bytes · endian) →
      parseInotifyEvents target endian bytes = .ok (events.map KernelEvent.event)) ∧
    ((∃ events, parseInotifyEvents target endian bytes = .ok events) ∨
      ∃ e, parseInotifyEvents target endian bytes = .error e) ∧
    ∀ records : List Record, ∀ tail, bytes = records.flatMap (Record.bytes · endian) ++ tail →
      EndsInside endian tail → ∃ e, parseInotifyEvents target endian bytes = .error e := by
  refine ⟨fun events laid => ?_, ?_, fun records tail laid cut => ?_⟩
  · have named : List.Forall₂ (fun (record : Record) event => record.event? = some event)
        (events.map KernelEvent.record) (events.map KernelEvent.event) := by
      rw [List.forall₂_map_left_iff, List.forall₂_map_right_iff, List.forall₂_same]
      exact fun event _ => event.event?_record
    have here : bytes.drop 0 = (events.map KernelEvent.record).flatMap (Record.bytes · endian) := by
      rw [List.flatMap_map]
      exact laid
    exact parseFrom_records addressable named here (Nat.sub_le _ _)
  · exact (returns_parseFrom addressable (Nat.sub_le _ _)).cases
  · exact parseFrom_endsInside addressable cut laid (Nat.sub_le _ _)

def closing : KernelEvent where
  event := { watchDescriptor := 1, mask := 8, cookie := 0, name := "ab".toList }
  padding := 2
  plain := by decide
  fits := by decide

def moving : KernelEvent where
  event := { watchDescriptor := 2, mask := 0x80, cookie := 513, name := "é".toList }
  padding := 14
  plain := by decide
  fits := by decide

def overflow : KernelEvent where
  event := { watchDescriptor := -1, mask := 0x4000, cookie := 0, name := [] }
  padding := 0
  plain := List.not_mem_nil
  fits := by decide

/-- A buffer of three events, and one that ends inside the header of its second event. -/
theorem inotify_buffers_decode_closing :
    parseInotifyEvents .aarch64 .little ([1, 0, 0, 0, 8, 0, 0, 0, 0, 0, 0, 0, 4, 0, 0, 0, 0x61, 0x62, 0, 0] ++
      [2, 0, 0, 0, 0x80, 0, 0, 0, 1, 2, 0, 0, 16, 0, 0, 0, 0xc3, 0xa9] ++ List.replicate 14 0 ++
      [0xff, 0xff, 0xff, 0xff, 0, 0x40, 0, 0, 0, 0, 0, 0, 0, 0, 0, 0]) =
        .ok [closing.event, moving.event, overflow.event] ∧
    ∃ e, parseInotifyEvents .armv7 .big ([0, 0, 0, 1, 0, 0, 0, 8, 0, 0, 0, 0, 0, 0, 0, 4, 0x61, 0x62, 0, 0] ++
      [0, 0, 0, 2, 0, 0, 0]) = .error e :=
  ⟨(inotify_buffers_decode .aarch64 .little (by decide)).1 [closing, moving, overflow] (by decide),
    (inotify_buffers_decode .armv7 .big (by decide)).2.2 [closing.record] [0, 0, 0, 2, 0, 0, 0] (by decide)
      ⟨List.cons_ne_nil _ _, .inl (by decide)⟩⟩

end CrashCatcher.Watch.InotifyBuffer
