import CrashCatcher.Lib.Run
import Mathlib.Data.List.Basic
import Mathlib.Logic.Function.Basic

namespace CrashCatcher.Daemon
open Lib

inductive LogName where
  | live
  | numbered (index : Nat)
deriving DecidableEq

/-- A directory whose names refer to files by number; an open descriptor is such a number, so that it
stays with a file that is renamed. -/
structure RollingDirectory where
  entry : LogName → Option Nat
  data : Nat → List UInt8
  fresh : Nat

namespace RollingDirectory

def empty : RollingDirectory := { entry := fun _ => none, data := fun _ => [], fresh := 0 }

def isFile (self : RollingDirectory) (name : LogName) : Bool := (self.entry name).isSome

def read (self : RollingDirectory) (name : LogName) : Option (List UInt8) := (self.entry name).map self.data

def removeFile (self : RollingDirectory) (name : LogName) : RollingDirectory :=
  { self with entry := Function.update self.entry name none }

def rename (self : RollingDirectory) (source target : LogName) : RollingDirectory :=
  match self.entry source with
  | none => self
  | some file =>
      { self with entry := Function.update (Function.update self.entry source none) target (some file) }

def openAppend (self : RollingDirectory) (name : LogName) : Nat × RollingDirectory :=
  match self.entry name with
  | some file => (file, self)
  | none => (self.fresh,
      { entry := Function.update self.entry name (some self.fresh)
        data := Function.update self.data self.fresh []
        fresh := self.fresh + 1 })

def append (self : RollingDirectory) (file : Nat) (bytes : List UInt8) : RollingDirectory :=
  { self with data := Function.update self.data file (self.data file ++ bytes) }

/-- Shifts `.1` to `.index` up by one, the highest first. -/
def shiftUp : Nat → RollingDirectory → RollingDirectory
  | 0, self => self
  | index + 1, self =>
      shiftUp index (if self.isFile (.numbered (index + 1)) then
        self.rename (.numbered (index + 1)) (.numbered (index + 2)) else self)

end RollingDirectory

structure RollingLog where
  directory : RollingDirectory
  maxBytes : UInt64
  maxFiles : Nat
  file : Nat
  written : UInt64
  atLineStart : Bool

def newline : UInt8 := 10

namespace RollingLog

def withLimits (directory : RollingDirectory) (maxBytes : UInt64) (maxFiles : Nat) : RollingLog :=
  let (file, directory) := directory.openAppend .live
  { directory, maxBytes
    maxFiles := max maxFiles 1
    file
    written := UInt64.ofNat (directory.data file).length
    atLineStart := true }

def rotate (self : RollingLog) : RollingLog :=
  let directory := self.directory.removeFile (.numbered self.maxFiles)
  let directory := directory.shiftUp (self.maxFiles - 1)
  let directory := directory.rename .live (.numbered 1)
  let (file, directory) := directory.openAppend .live
  { self with directory, file, written := 0 }

/-- A call of `write`: its buffer and how many of its bytes the file takes. -/
structure Write where
  buffer : List UInt8
  taken : Nat

def Write.bytes (call : Write) : List UInt8 := call.buffer.take call.taken

def write (self : RollingLog) (call : Write) : List UInt8 × RollingLog :=
  let self := if self.written ≥ self.maxBytes && self.atLineStart then self.rotate else self
  let bytes := call.bytes
  (bytes, { self with
    directory := self.directory.append self.file bytes
    written := self.written + UInt64.ofNat bytes.length
    atLineStart := if bytes.length > 0 then bytes.getLast? = some newline else self.atLineStart })

/-- The files of the directory in the order of their bytes: the highest number first, the live one last. -/
def files (self : RollingLog) : List (List UInt8) :=
  ((List.range self.maxFiles).reverse.filterMap fun index => self.directory.read (.numbered (index + 1))) ++
    (self.directory.read .live).toList

end RollingLog

namespace RollingDirectory
variable {self : RollingDirectory}

@[simp] theorem entry_removeFile (name other : LogName) :
    (self.removeFile name).entry other = if other = name then none else self.entry other := by
  simp only [removeFile, Function.update_apply]

theorem entry_rename {source : LogName} {file : Nat} (found : self.entry source = some file)
    (target other : LogName) : (self.rename source target).entry other =
      if other = target then some file else if other = source then none else self.entry other := by
  rw [rename, found]
  simp only [Function.update_apply]

@[simp] theorem data_removeFile (name : LogName) : (self.removeFile name).data = self.data := rfl

@[simp] theorem data_rename (source target : LogName) : (self.rename source target).data = self.data := by
  unfold rename
  split
  · rfl
  · rfl

@[simp] theorem fresh_rename (source target : LogName) : (self.rename source target).fresh = self.fresh := by
  unfold rename
  split
  · rfl
  · rfl

theorem entry_shifted (index : Nat) (vacant : self.entry (.numbered (index + 2)) = none) (other : LogName) :
    (if self.isFile (.numbered (index + 1)) then
        self.rename (.numbered (index + 1)) (.numbered (index + 2)) else self).entry other =
      if other = .numbered (index + 2) then self.entry (.numbered (index + 1))
      else if other = .numbered (index + 1) then none else self.entry other := by
  cases found : self.entry (.numbered (index + 1)) with
  | none =>
      rw [isFile, found, Option.isSome_none, if_neg Bool.false_ne_true]
      split_ifs with high low
      · rw [high, vacant]
      · rw [low, found]
      · rfl
  | some file =>
      rw [isFile, found, Option.isSome_some, if_pos rfl, entry_rename found]

theorem entry_shiftUp (count : Nat) (vacant : self.entry (.numbered (count + 1)) = none) :
    (self.shiftUp count).entry .live = self.entry .live ∧
      (self.shiftUp count).entry (.numbered 0) = self.entry (.numbered 0) ∧
      (self.shiftUp count).entry (.numbered 1) = none ∧
      ∀ index, (self.shiftUp count).entry (.numbered (index + 2)) =
        if index < count then self.entry (.numbered (index + 1)) else self.entry (.numbered (index + 2)) := by
  induction count generalizing self with
  | zero => exact ⟨rfl, rfl, vacant, fun index => by rw [if_neg (Nat.not_lt_zero index)]; rfl⟩
  | succ count ih =>
      have step := entry_shifted count vacant
      obtain ⟨live, zero, one, rest⟩ := ih (by rw [step]; simp)
      simp only [shiftUp]
      refine ⟨live.trans (by rw [step]; simp), zero.trans (by rw [step]; simp), one, fun index => ?_⟩
      rw [rest, step, step]
      simp only [LogName.numbered.injEq]
      rcases Nat.lt_trichotomy index count with below | rfl | above
      · rw [if_pos below, if_neg (by omega), if_neg (by omega), if_pos (by omega)]
      · rw [if_neg (Nat.lt_irrefl _), if_pos rfl, if_pos (Nat.lt_succ_self _)]
      · rw [if_neg (by omega), if_neg (by omega), if_neg (by omega), if_neg (by omega)]

@[simp] theorem data_shiftUp (count : Nat) : (self.shiftUp count).data = self.data := by
  induction count generalizing self with
  | zero => rfl
  | succ count ih =>
      rw [shiftUp, ih]
      split
      · rw [data_rename]
      · rfl

@[simp] theorem fresh_shiftUp (count : Nat) : (self.shiftUp count).fresh = self.fresh := by
  induction count generalizing self with
  | zero => rfl
  | succ count ih =>
      rw [shiftUp, ih]
      split
      · rw [fresh_rename]
      · rfl

end RollingDirectory
namespace RollingLog

/-- The directory holds these files under the numbers 1, 2 and so on and this live one, and nothing
else; the sink's descriptor is that of the live file. -/
structure Represents (log : RollingLog) (older : List (List UInt8)) (live : List UInt8) : Prop where
  positive : 1 ≤ log.maxFiles
  handle : log.directory.entry .live = some log.file
  known : ∀ name file, log.directory.entry name = some file → file < log.directory.fresh
  apart : ∀ name other file, log.directory.entry name = some file →
    log.directory.entry other = some file → name = other
  zero : log.directory.entry (.numbered 0) = none
  liveData : log.directory.data log.file = live
  olderData : ∀ index, log.directory.read (.numbered (index + 1)) = older[index]?
  few : older.length ≤ log.maxFiles

variable {self : RollingLog} {older : List (List UInt8)} {live : List UInt8}

theorem Represents.vacant (represents : self.Represents older live) {index : Nat}
    (past : self.maxFiles ≤ index) : self.directory.entry (.numbered (index + 1)) = none := by
  have absent := represents.olderData index
  rw [List.getElem?_eq_none (Nat.le_trans represents.few past)] at absent
  exact Option.map_eq_none_iff.mp absent

theorem rotate_directory (represents : self.Represents older live) :
    (self.rotate.directory.entry .live = some self.directory.fresh ∧
      self.rotate.directory.entry (.numbered 0) = none ∧
      self.rotate.directory.entry (.numbered 1) = some self.file ∧
      ∀ index, self.rotate.directory.entry (.numbered (index + 2)) =
        if index + 1 < self.maxFiles then self.directory.entry (.numbered (index + 1)) else none) ∧
      self.rotate.file = self.directory.fresh ∧
      self.rotate.directory.data = Function.update self.directory.data self.directory.fresh [] ∧
      self.rotate.directory.fresh = self.directory.fresh + 1 := by
  obtain ⟨count, most⟩ := Nat.exists_eq_add_of_le' represents.positive
  have shifted := (self.directory.removeFile (.numbered (count + 1))).entry_shiftUp count (by simp)
  simp only [RollingDirectory.entry_removeFile, reduceCtorEq, if_false, represents.handle,
    LogName.numbered.injEq] at shifted
  obtain ⟨moved, zero, one, rest⟩ := shifted
  have renamed := RollingDirectory.entry_rename moved (.numbered 1)
  have opened : ((((self.directory.removeFile (.numbered (count + 1))).shiftUp count).rename
      .live (.numbered 1)).entry .live) = none := by
    rw [renamed]
    simp
  simp only [rotate, most, Nat.add_sub_cancel, RollingDirectory.openAppend, opened, Function.update_apply,
    RollingDirectory.data_rename, RollingDirectory.data_shiftUp, RollingDirectory.data_removeFile,
    RollingDirectory.fresh_rename, RollingDirectory.fresh_shiftUp, renamed]
  refine ⟨⟨if_pos trivial, ?_, ?_, fun index => ?_⟩, rfl, rfl, rfl⟩
  · simp [zero, represents.zero]
  · simp
  · have other : LogName.numbered (index + 2) ≠ .numbered 1 := by simp
    rw [if_neg (by simp), if_neg other, if_neg (by simp), rest]
    by_cases below : index < count
    · rw [if_pos below, if_neg (by omega), if_pos (by omega)]
    · rw [if_neg below, if_neg (by omega), if_neg (by omega)]
      exact represents.vacant (by omega)

theorem rotate_represents (represents : self.Represents older live) :
    self.rotate.Represents ((live :: older).take self.maxFiles) [] := by
  obtain ⟨⟨opened, zero, one, rest⟩, file, data, fresh⟩ := rotate_directory represents
  have old : ∀ name file, self.directory.entry name = some file → file ≠ self.directory.fresh :=
    fun name file entry => Nat.ne_of_lt (represents.known name file entry)
  have kept : ∀ name, (self.directory.entry name).map self.rotate.directory.data =
      (self.directory.entry name).map self.directory.data := fun name => by
    cases entry : self.directory.entry name with
    | none => rfl
    | some file => rw [Option.map_some, Option.map_some, data, Function.update_of_ne (old name file entry)]
  have source : ∀ name file, self.rotate.directory.entry name = some file →
      (name = .live ∧ file = self.directory.fresh) ∨
      (name = .numbered 1 ∧ self.directory.entry .live = some file) ∨
      ∃ index, name = .numbered (index + 2) ∧ self.directory.entry (.numbered (index + 1)) = some file := by
    intro name file found
    rcases name with _ | _ | _ | index
    · exact .inl ⟨rfl, Option.some.inj (found.symm.trans opened)⟩
    · exact absurd (zero.symm.trans found) (by simp)
    · exact .inr (.inl ⟨rfl, represents.handle.trans (one.symm.trans found)⟩)
    · rw [rest] at found
      split_ifs at found with below
      exact .inr (.inr ⟨index, rfl, found⟩)
  refine ⟨represents.positive, opened.trans (congrArg some file.symm), ?_, ?_, zero, ?_, ?_, ?_⟩
  · intro name file found
    rw [fresh]
    rcases source name file found with ⟨-, rfl⟩ | ⟨-, entry⟩ | ⟨index, -, entry⟩
    · exact Nat.lt_succ_self _
    · exact Nat.lt_succ_of_lt (represents.known _ _ entry)
    · exact Nat.lt_succ_of_lt (represents.known _ _ entry)
  · intro name other file found again
    rcases source name file found with ⟨rfl, rfl⟩ | ⟨rfl, entry⟩ | ⟨index, rfl, entry⟩
    · rcases source other _ again with ⟨rfl, -⟩ | ⟨rfl, second⟩ | ⟨index, rfl, second⟩
      · rfl
      · exact absurd rfl (old _ _ second)
      · exact absurd rfl (old _ _ second)
    · rcases source other file again with ⟨rfl, rfl⟩ | ⟨rfl, second⟩ | ⟨index, rfl, second⟩
      · exact absurd rfl (old _ _ entry)
      · rfl
      · exact absurd (represents.apart _ _ _ entry second) (by simp)
    · rcases source other file again with ⟨rfl, rfl⟩ | ⟨rfl, second⟩ | ⟨index', rfl, second⟩
      · exact absurd rfl (old _ _ entry)
      · exact absurd (represents.apart _ _ _ second entry) (by simp)
      · rw [Nat.succ.inj (LogName.numbered.inj (represents.apart _ _ _ entry second))]
  · rw [file, data, Function.update_self]
  · rintro (_ | index)
    · have moved := kept .live
      rw [represents.handle, Option.map_some, Option.map_some, represents.liveData] at moved
      rw [RollingDirectory.read, one, Option.map_some, moved,
        List.getElem?_take_of_lt (Nat.lt_of_lt_of_le Nat.zero_lt_one represents.positive),
        List.getElem?_cons_zero]
    · rw [RollingDirectory.read, rest]
      split_ifs with below
      · rw [kept, List.getElem?_take_of_lt below, List.getElem?_cons_succ]
        exact represents.olderData index
      · rw [List.getElem?_take_eq_none (Nat.not_lt.mp below)]
        rfl
  · exact List.length_take_le _ _

theorem append_represents (represents : self.Represents older live) (bytes : List UInt8) (written : UInt64)
    (atLineStart : Bool) :
    RollingLog.Represents { self with directory := self.directory.append self.file bytes, written, atLineStart }
      older (live ++ bytes) := by
  refine ⟨represents.positive, represents.handle, represents.known, represents.apart, represents.zero,
    ?_, fun index => ?_, represents.few⟩
  · simp only [RollingDirectory.append, Function.update_self, represents.liveData]
  · rw [← represents.olderData index]
    cases entry : self.directory.entry (.numbered (index + 1)) with
    | none => simp only [RollingDirectory.read, RollingDirectory.append, entry, Option.map_none]
    | some file =>
        have other : file ≠ self.file := fun same =>
          absurd (represents.apart _ _ _ entry (represents.handle.trans (congrArg some same.symm))) (by simp)
        simp only [RollingDirectory.read, RollingDirectory.append, entry, Option.map_some,
          Function.update_of_ne other]

theorem filterMap_getElem?_range {α : Type*} (list : List α) (rest : Nat) :
    (List.range (list.length + rest)).filterMap (fun index => list[index]?) = list := by
  induction list with
  | nil => simp
  | cons head list ih =>
      rw [List.length_cons, Nat.add_right_comm, List.range_succ_eq_map]
      simp [List.filterMap_map, ih]

theorem files_eq (represents : self.Represents older live) : self.files = older.reverse ++ [live] := by
  have numbered : (List.range self.maxFiles).filterMap
      (fun index => self.directory.read (.numbered (index + 1))) = older := by
    simp only [represents.olderData]
    obtain ⟨rest, length⟩ := Nat.exists_eq_add_of_le represents.few
    rw [length]
    exact filterMap_getElem?_range older rest
  rw [files, RollingDirectory.read, represents.handle, Option.map_some, represents.liveData,
    List.filterMap_reverse, numbered, Option.toList_some]

def LineStart (before : List UInt8) : Prop := before = [] ∨ before.getLast? = some newline

/-- After the bytes before them, each of the files starts at the start of a line. -/
def WholeLines : List UInt8 → List (List UInt8) → Prop
  | _, [] => True
  | before, file :: files => LineStart before ∧ WholeLines (before ++ file) files

theorem wholeLines_append (before : List UInt8) (files more : List (List UInt8)) :
    WholeLines before (files ++ more) ↔ WholeLines before files ∧
      WholeLines (before ++ files.flatten) more := by
  induction files generalizing before with
  | nil => simp [WholeLines]
  | cons file files ih => simp [WholeLines, ih, and_assoc]

theorem LineStart.append {before bytes : List UInt8}
    (start : bytes = [] → LineStart before)
    (ends : bytes ≠ [] → bytes.getLast? = some newline) : LineStart (before ++ bytes) := by
  by_cases empty : bytes = []
  · rw [empty, List.append_nil]
    exact start empty
  · exact .inr (by rw [List.getLast?_append, ends empty, Option.some_or])

/-- The files hold the bytes written after the dropped ones, cut at line starts only. -/
structure Keeps (maxFiles : Nat) (log : RollingLog) (history : List UInt8) : Prop where
  limit : log.maxFiles = maxFiles
  holds : ∃ dropped older live, log.Represents older live ∧
    dropped ++ (older.reverse ++ [live]).flatten = history ∧ WholeLines dropped (older.reverse ++ [live])
  ended : log.atLineStart = true → LineStart history

variable {maxFiles : Nat} {history : List UInt8}

theorem rotate_keeps (keeps : self.Keeps maxFiles history) (atLineStart : self.atLineStart = true) :
    self.rotate.Keeps maxFiles history := by
  obtain ⟨limit, ⟨dropped, older, live, represents, bytes, whole⟩, ended⟩ := keeps
  refine ⟨limit, ?_, ended⟩
  have cut : (live :: older).reverse =
      ((live :: older).drop self.maxFiles).reverse ++ ((live :: older).take self.maxFiles).reverse := by
    rw [← List.reverse_append, List.take_append_drop]
  rw [← List.reverse_cons, cut] at bytes whole
  rw [wholeLines_append] at whole
  rw [List.flatten_append, ← List.append_assoc] at bytes
  refine ⟨dropped ++ ((live :: older).drop self.maxFiles).reverse.flatten, _, [],
    rotate_represents represents, ?_, ?_⟩
  · rw [List.flatten_append, ← List.append_assoc, bytes]
    simp
  · rw [wholeLines_append, bytes]
    exact ⟨whole.2, ended atLineStart, trivial⟩

theorem write_fst (log : RollingLog) (call : Write) : (log.write call).1 = call.bytes := rfl

theorem write_keeps (keeps : self.Keeps maxFiles history) (call : Write) :
    (self.write call).2.Keeps maxFiles (history ++ (self.write call).1) := by
  have appended : ∀ log : RollingLog, log.Keeps maxFiles history →
      RollingLog.Keeps maxFiles { log with
        directory := log.directory.append log.file call.bytes
        written := log.written + UInt64.ofNat call.bytes.length
        atLineStart := if call.bytes.length > 0 then call.bytes.getLast? = some newline
          else log.atLineStart } (history ++ call.bytes) := by
    rintro log ⟨limit, ⟨dropped, older, live, represents, bytes, whole⟩, ended⟩
    refine ⟨limit, ⟨dropped, older, live ++ call.bytes, append_represents represents _ _ _, ?_, ?_⟩, ?_⟩
    · rw [← bytes]
      simp
    · rw [wholeLines_append] at whole ⊢
      exact ⟨whole.1, whole.2.1, trivial⟩
    · intro atLineStart
      apply LineStart.append
      · intro empty
        rw [empty, List.length_nil, if_neg (Nat.lt_irrefl 0)] at atLineStart
        exact ended atLineStart
      · intro some
        rw [if_pos (List.length_pos_iff.mpr some)] at atLineStart
        exact of_decide_eq_true atLineStart
  unfold write
  split_ifs with full
  · exact appended self.rotate (rotate_keeps keeps (Bool.and_eq_true_iff.mp full).2)
  · exact appended self keeps

theorem withLimits_keeps (maxBytes : UInt64) (maxFiles : Nat) :
    (withLimits .empty maxBytes maxFiles).Keeps (max maxFiles 1) [] := by
  refine ⟨rfl, ⟨[], [], [], ?_, rfl, .inl rfl, trivial⟩, fun _ => .inl rfl⟩
  have entry : ∀ name, (withLimits .empty maxBytes maxFiles).directory.entry name =
      if name = .live then some 0 else none := fun name => by
    exact Function.update_apply _ _ _ _
  refine ⟨Nat.le_max_right _ _, entry _, fun name file found => ?_, fun name other file found again => ?_,
    entry _, rfl, fun index => by rw [RollingDirectory.read, entry]; rfl, Nat.zero_le _⟩
  · rw [entry] at found
    split_ifs at found
    rw [← Option.some.inj found]
    exact Nat.zero_lt_one
  · rw [entry] at found again
    split_ifs at found again with live alsoLive
    exact live.trans alsoLive.symm

theorem Represents.within (represents : self.Represents older live) {index : Nat}
    (present : self.directory.isFile (.numbered index) = true) : 1 ≤ index ∧ index ≤ self.maxFiles := by
  rcases index with _ | index
  · rw [RollingDirectory.isFile, represents.zero] at present
    exact absurd present Bool.false_ne_true
  · refine ⟨Nat.succ_le_succ (Nat.zero_le index), Nat.lt_of_not_le fun past => ?_⟩
    rw [RollingDirectory.isFile, represents.vacant past] at present
    exact absurd present Bool.false_ne_true

/-- From an empty directory, the files always hold the last of the bytes written, in their order and cut
at line starts only, and no more than the allowed number of them is numbered. -/
theorem log_keeps_whole_lines (maxBytes : UInt64) (maxFiles : Nat) (calls : List Write) :
    (∃ dropped,
      dropped ++ (Run.collect write calls (withLimits .empty maxBytes maxFiles)).2.files.flatten =
        calls.flatMap Write.bytes ∧
      WholeLines dropped (Run.collect write calls (withLimits .empty maxBytes maxFiles)).2.files) ∧
    ∀ index,
      (Run.collect write calls (withLimits .empty maxBytes maxFiles)).2.directory.isFile (.numbered index) →
        1 ≤ index ∧ index ≤ max maxFiles 1 := by
  have kept := Run.collect_keeps write_keeps calls (withLimits_keeps maxBytes maxFiles)
  rw [Run.collect_fst write_fst] at kept
  obtain ⟨limit, ⟨dropped, older, live, represents, bytes, whole⟩, -⟩ := kept
  rw [files_eq represents]
  refine ⟨⟨dropped, bytes, whole⟩, fun index present => ?_⟩
  rw [← limit]
  exact represents.within present

end RollingLog
end CrashCatcher.Daemon
