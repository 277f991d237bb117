import CrashCatcher.Logd.Event
import CrashCatcher.Lib.Lines
import CrashCatcher.Lib.Numerals
import CrashCatcher.Lib.Trim

namespace CrashCatcher.Logd
open Lib Lib.Text

structure JavaFrame where
  className : Str
  methodName : Str
  fileName : Option Str
  line : Option UInt32
deriving DecidableEq

def JavaFrame.normalized (self : JavaFrame) : Str := self.className ++ '.' :: self.methodName

structure CrashBufferReport where
  threadName : Str
  processName : Str
  pid : Int
  exceptionClass : Str
  exceptionMessage : Str
  frames : List JavaFrame
  raw : Str
deriving DecidableEq

/-- `Iterator::find` on an iterator that is used again: what is found, and what is left. -/
def findNext {α : Type} (p : α → Bool) : List α → Option (α × List α)
  | [] => none
  | a :: rest => if p a then some (a, rest) else findNext p rest

def parseProcessLine (line : Str) : Except ParseError (Str × Int) := do
  let content ← orError (.missingCrashField "process prefix".toList)
    ((stripPrefix "Process:".toList line).map trim)
  let (name, pidText) ← orError (.missingCrashField "PID".toList) (rsplitOnceStr ", PID:".toList content)
  let pid ← orError (.integerOutOfRange "PID".toList) (parseI32 (trim pidText))
  pure (trim name, pid)

def parseLocation (location : Str) : Option Str × Option UInt32 :=
  if location = "Native Method".toList ∨ location = "Unknown Source".toList then (none, none)
  else match rsplitOnce ':' location with
    | some (file, lineText) => (some file, (parseUnsigned 10 UInt32.size lineText).map UInt32.ofNat)
    | none => (some location, none)

def parseJavaFrame (line : Str) : Option JavaFrame := do
  let body ← (stripPrefix "at ".toList line).map trim
  let (path, _) ← rsplitOnce '(' body
  let close ← stripSuffix [')'] body
  let location := close.drop (path.length + 1)
  let (className, methodName) ← rsplitOnce '.' (trim path)
  let (fileName, line) := parseLocation location
  pure { className, methodName, fileName, line }

def readFrame (line : Str) : Option JavaFrame := parseJavaFrame (trim line)

def otherLines : List Str := ["at ".toList, "Caused by:".toList, "Suppressed:".toList, "...".toList]

def opensException (line : Str) : Bool := !line.isEmpty && otherLines.all fun mark => !mark.isPrefixOf line

def parseCrashBuffer (message : Str) : Except ParseError CrashBufferReport := do
  let normalized := replaceCrlf message
  let (first, rest) ← orError (.missingCrashField "FATAL EXCEPTION header".toList)
    (findNext (fun line => "FATAL EXCEPTION:".toList.isPrefixOf (trimStart line)) (lines normalized))
  let threadName ← orError (.missingCrashField "thread name".toList)
    (((stripPrefix "FATAL EXCEPTION:".toList (trimStart first)).map trim).filter fun value => !value.isEmpty)
  let (processLine, remaining) ← orError (.missingCrashField "process line".toList)
    (findNext (fun line => "Process:".toList.isPrefixOf (trimStart line)) rest)
  let (processName, pid) ← parseProcessLine (trim processLine)
  let exceptionLine ← orError (.missingCrashField "exception line".toList)
    ((remaining.map trim).find? opensException)
  let (exceptionClass, exceptionMessage) := match splitOnce ':' exceptionLine with
    | none => (exceptionLine, [])
    | some (className, detail) => (trim className, trim detail)
  pure {
    threadName, processName, pid, exceptionClass, exceptionMessage
    frames := remaining.filterMap readFrame
    raw := normalized }

inductive Location where
  | nativeMethod
  | unknownSource
  | file (name : Str)
  | line (name : Str) (number : UInt32)

namespace Location

def text : Location → Str
  | .nativeMethod => "Native Method".toList
  | .unknownSource => "Unknown Source".toList
  | .file name => name
  | .line name number => name ++ ':' :: Nat.toDigits 10 number.toNat

def said : Location → Option Str × Option UInt32
  | .nativeMethod => (none, none)
  | .unknownSource => (none, none)
  | .file name => (some name, none)
  | .line name number => (some name, some number)

def PlainFile (name : Str) : Prop := '(' ∉ name ∧ ')' ∉ name ∧ ':' ∉ name ∧ '\n' ∉ name

def Plain : Location → Prop
  | .nativeMethod => True
  | .unknownSource => True
  | .file name => PlainFile name ∧ name ≠ "Native Method".toList ∧ name ≠ "Unknown Source".toList
  | .line name _ => PlainFile name

end Location

structure TraceFrame where
  className : Str
  methodName : Str
  location : Location
  single : '\n' ∉ className ∧ '\n' ∉ methodName
  dotless : '.' ∉ methodName
  blankless : (∀ c ∈ className.head?, isWhitespace c = false) ∧
    ∀ c ∈ methodName.getLast?, isWhitespace c = false
  plain : location.Plain

namespace TraceFrame
variable (self : TraceFrame)

def path : Str := self.className ++ '.' :: self.methodName
def body : Str := self.path ++ '(' :: (self.location.text ++ [')'])
def text : Str := '\t' :: ("at ".toList ++ self.body)

def said : JavaFrame where
  className := self.className
  methodName := self.methodName
  fileName := self.location.said.1
  line := self.location.said.2

end TraceFrame

structure Throwable where
  className : Str
  message : Option Str
  named : className ≠ [] ∧ Trimmed className ∧ ':' ∉ className ∧ '\n' ∉ className
  worded : ∀ m ∈ message, Trimmed m ∧ '\n' ∉ m

def Throwable.title (self : Throwable) : Str :=
  self.className ++ match self.message with
    | none => []
    | some m => ':' :: ' ' :: m

structure CauseSection where
  cause : Throwable
  frames : List TraceFrame
  common : Option Nat

def commonText (n : Nat) : Str := '\t' :: ("... ".toList ++ Nat.toDigits 10 n ++ " more".toList)

def CauseSection.lines (self : CauseSection) : List Str :=
  ("Caused by: ".toList ++ self.cause.title) :: (self.frames.map TraceFrame.text ++
    (self.common.map commonText).toList)

structure CrashText where
  threadName : Str
  processName : Str
  pid : Int
  thrown : Throwable
  frames : List TraceFrame
  causes : List CauseSection
  threadNamed : threadName ≠ [] ∧ Trimmed threadName ∧ '\n' ∉ threadName
  processNamed : Trimmed processName ∧ '\n' ∉ processName
  pidFits : -2 ^ 31 ≤ pid ∧ pid < 2 ^ 31

namespace CrashText
variable (self : CrashText)

def threadLine : Str := "FATAL EXCEPTION: ".toList ++ self.threadName
def processLine : Str := "Process: ".toList ++ self.processName ++ ", PID: ".toList ++
    (toString self.pid).toList

def traceLines : List Str :=
  self.thrown.title :: (self.frames.map TraceFrame.text ++ self.causes.flatMap CauseSection.lines)

def lines : List Str := self.threadLine :: self.processLine :: self.traceLines

def lineEnd (crlf : Bool) : Str := if crlf then ['\r', '\n'] else ['\n']

def text (crlf ended : Bool) : Str := joinLines (lineEnd crlf) ended self.lines

def allFrames : List TraceFrame := self.frames ++ self.causes.flatMap CauseSection.frames

def said (ended : Bool) : CrashBufferReport where
  threadName := self.threadName
  processName := self.processName
  pid := self.pid
  exceptionClass := self.thrown.className
  exceptionMessage := self.thrown.message.getD []
  frames := self.allFrames.map TraceFrame.said
  raw := self.text false ended

end CrashText

theorem parseLocation_text {location : Location} (plain : location.Plain) :
    parseLocation location.text = location.said := by
  cases location with
  | nativeMethod => rfl
  | unknownSource => rfl
  | file name =>
      have colon : ':' ∉ name := plain.1.2.2.1
      have known : ¬ (name = "Native Method".toList ∨ name = "Unknown Source".toList) := fun same =>
        same.elim plain.2.1 plain.2.2
      have read : parseLocation name = (some name, none) := by
        rw [parseLocation, if_neg known, rsplitOnce_eq_none colon]
      exact read
  | line name number =>
      have colon : ∀ {shown : Str}, ':' ∉ shown → (Location.line name number).text ≠ shown := by
        intro shown apart same
        exact apart (same ▸ List.mem_append_right _ List.mem_cons_self)
      have known : ¬ ((Location.line name number).text = "Native Method".toList ∨
          (Location.line name number).text = "Unknown Source".toList) :=
        not_or.mpr ⟨colon (by decide), colon (by decide)⟩
      have split : rsplitOnce ':' (Location.line name number).text =
          some (name, Nat.toDigits 10 number.toNat) :=
        rsplitOnce_append_cons (notMem_toDigits (by decide) _) name
      have read : parseUnsigned 10 UInt32.size (Nat.toDigits 10 number.toNat) = some number.toNat :=
        parseUnsigned_of_readDigits (readDigits_toDigits _) number.toNat_lt
      rw [parseLocation, if_neg known, split]
      show (some name, (parseUnsigned 10 UInt32.size (Nat.toDigits 10 number.toNat)).map UInt32.ofNat) = _
      rw [read, Option.map_some, UInt32.ofNat_toNat]
      rfl

theorem isLine_of_trimmed {s : Str} (trimmed : Trimmed s) (single : '\n' ∉ s) : IsLine s :=
  ⟨single, fun last => by cases last_of_trimmed trimmed last⟩

namespace TraceFrame
variable (self : TraceFrame)

theorem single_location : '\n' ∉ self.location.text := by
  have plain := self.plain
  cases location : self.location with
  | nativeMethod => decide
  | unknownSource => decide
  | file name =>
      rw [location] at plain
      exact plain.1.2.2.2
  | line name number =>
      rw [location] at plain
      refine List.not_mem_append plain.2.2.2 ?_
      rw [List.mem_cons, not_or]
      exact ⟨by decide, notMem_toDigits (by decide) _⟩

theorem closed_location : '(' ∉ self.location.text := by
  have plain := self.plain
  cases location : self.location with
  | nativeMethod => decide
  | unknownSource => decide
  | file name =>
      rw [location] at plain
      exact plain.1.1
  | line name number =>
      rw [location] at plain
      refine List.not_mem_append plain.1 ?_
      rw [List.mem_cons, not_or]
      exact ⟨by decide, notMem_toDigits (by decide) _⟩

theorem trimmed_path : Trimmed self.path := by
  refine trimmed_of_ends (fun c head => ?_) fun c last => ?_
  · cases name : self.className with
    | nil =>
        rw [path, name] at head
        cases head
        decide
    | cons d rest =>
        rw [path, name] at head
        exact self.blankless.1 c (by rw [name]; exact head)
  · rcases List.eq_nil_or_concat self.methodName with name | ⟨start, d, name⟩
    · rw [path, name, List.getLast?_concat] at last
      cases last
      decide
    · rw [path, name, List.concat_eq_append, ← List.cons_append, ← List.append_assoc,
        List.getLast?_concat] at last
      refine self.blankless.2 c ?_
      rw [name, List.concat_eq_append, List.getLast?_concat]
      exact last

theorem trimmed_body : Trimmed self.body := by
  have ends : self.body = self.path ++ '(' :: self.location.text ++ [')'] := by simp [body]
  refine trimmed_of_ends (fun c head => ?_) fun c last => ?_
  · have some : self.path ≠ [] := by simp [path]
    rw [body, List.head?_append_of_ne_nil _ some] at head
    exact head_of_trimmed self.trimmed_path head
  · rw [ends, List.getLast?_concat] at last
    cases last
    decide

theorem trim_text : trim self.text = "at ".toList ++ self.body := by
  have tab : Blank ['\t'] := by simp [Blank, isWhitespace]
  have trimmed : Trimmed ("at ".toList ++ self.body) := by
    refine trimmed_of_ends (fun c head => ?_) fun c last => ?_
    · cases head
      decide
    · have some : self.body ≠ [] := by simp [body]
      rw [List.getLast?_append_of_ne_nil _ some] at last
      exact last_of_trimmed self.trimmed_body last
  exact (trim_blank_append tab _).trans trimmed

theorem isLine_text : IsLine self.text := by
  have path : '\n' ∉ self.path := by simp [TraceFrame.path, self.single]
  have body : '\n' ∉ self.body := by simp [TraceFrame.body, path, self.single_location]
  have some : self.body ≠ [] := by simp [TraceFrame.body]
  exact (isLine_of_trimmed self.trimmed_body body).append (show '\n' ∉ '\t' :: "at ".toList by decide) some

theorem readFrame_text : readFrame self.text = some self.said := by
  have inner : (stripPrefix "at ".toList ("at ".toList ++ self.body)).map trim = some self.body := by
    rw [stripPrefix_append, Option.map_some, self.trimmed_body]
  have opened : rsplitOnce '(' self.body = some (self.path, self.location.text ++ [')']) :=
    rsplitOnce_append_cons (List.not_mem_append self.closed_location (by decide)) self.path
  have ends : self.body = (self.path ++ '(' :: self.location.text) ++ [')'] := by simp [body]
  have closed : stripSuffix [')'] self.body = some (self.path ++ '(' :: self.location.text) := by
    rw [ends]
    exact stripSuffix_append _ _
  have location : (self.path ++ '(' :: self.location.text).drop (self.path.length + 1) =
      self.location.text := by
    rw [← List.drop_drop, List.drop_left, List.drop_one, List.tail_cons]
  have named : rsplitOnce '.' (trim self.path) = some (self.className, self.methodName) := by
    rw [self.trimmed_path]
    exact rsplitOnce_append_cons self.dotless self.className
  rw [readFrame, trim_text, parseJavaFrame, inner]
  show (rsplitOnce '(' self.body).bind _ = _
  rw [opened]
  show (stripSuffix [')'] self.body).bind _ = _
  rw [closed]
  show (rsplitOnce '.' (trim self.path)).bind _ = _
  rw [named]
  show some (JavaFrame.mk _ _ (parseLocation _).1 (parseLocation _).2) = _
  rw [location, parseLocation_text self.plain]
  rfl

end TraceFrame

namespace Throwable
variable (self : Throwable)

theorem trim_title : trim self.title = self.className ++ match self.message with
    | none => []
    | some m => ':' :: trimEnd (' ' :: m) := by
  obtain ⟨nonempty, trimmed, -, -⟩ := self.named
  cases message : self.message with
  | none =>
      rw [title, message, List.append_nil]
      exact trimmed
  | some m =>
      have colon : Trimmed (self.className ++ [':']) := by
        refine trimmed_of_ends (fun c head => ?_) fun c last => ?_
        · rw [List.head?_append_of_ne_nil _ nonempty] at head
          exact head_of_trimmed trimmed head
        · rw [List.getLast?_concat] at last
          cases last
          decide
      have kept := trim_append_of_trimmed (by simp) colon (' ' :: m)
      rw [List.append_assoc, List.append_assoc] at kept
      rw [title, message]
      exact kept

theorem title_ne_nil : self.title ≠ [] := by
  rw [title]
  simp [self.named.1]

theorem isLine_title : IsLine self.title := by
  obtain ⟨-, trimmed, -, single⟩ := self.named
  have worded := self.worded
  have named := isLine_of_trimmed trimmed single
  cases message : self.message with
  | none =>
      rw [title, message, List.append_nil]
      exact named
  | some m =>
      obtain ⟨words, word⟩ := worded m message
      have spaced : IsLine (' ' :: m) := by
        by_cases empty : m = []
        · rw [empty]
          exact ⟨by decide, by decide⟩
        · exact (isLine_of_trimmed words word).append (show '\n' ∉ [' '] by decide) empty
      have colon : '\n' ∉ self.className ++ [':'] := List.not_mem_append single (by decide)
      have whole := spaced.append colon (List.cons_ne_nil _ _)
      rw [List.append_assoc] at whole
      rw [title, message]
      exact whole

theorem trim_title_prefix : trim self.title <+: self.title := by
  rw [trim_title, title]
  refine (List.prefix_append_right_inj _).mpr ?_
  cases self.message with
  | none => exact List.prefix_rfl
  | some m => exact List.cons_prefix_cons.mpr ⟨rfl, List.rdropWhile_prefix _ _⟩

theorem splitOnce_title : (match splitOnce ':' (trim self.title) with
    | none => (trim self.title, [])
    | some (className, detail) => (trim className, trim detail)) = (self.className, self.message.getD []) := by
  obtain ⟨-, trimmed, colon, -⟩ := self.named
  have worded := self.worded
  rw [trim_title]
  cases message : self.message with
  | none =>
      rw [List.append_nil, splitOnce_eq_none colon]
      rfl
  | some m =>
      have words : trim (trimEnd (' ' :: m)) = m := by
        rw [trim_trimEnd, trim_space]
        exact (worded m message).1
      have split : splitOnce ':' (self.className ++ ':' :: trimEnd (' ' :: m)) =
          some (self.className, trimEnd (' ' :: m)) := by
        rw [splitOnce_append colon, splitOnce, if_pos rfl, Option.map_some, List.append_nil]
      show (match splitOnce ':' (self.className ++ ':' :: trimEnd (' ' :: m)) with
        | none => _
        | some (className, detail) => (trim className, trim detail)) = _
      rw [split]
      exact Prod.ext trimmed words

variable {self}

theorem opensException_title (marked : ∀ mark ∈ otherLines, ¬ mark <+: self.title) :
    opensException (trim self.title) = true := by
  have nonempty : trim self.title ≠ [] := by
    rw [trim_title]
    simp [self.named.1]
  rw [opensException, Bool.and_eq_true, List.all_eq_true]
  refine ⟨by simpa using nonempty, fun mark member => ?_⟩
  rw [Bool.not_eq_true', Bool.eq_false_iff]
  intro prefixed
  exact marked mark member ((List.isPrefixOf_iff_prefix.mp prefixed).trans self.trim_title_prefix)

end Throwable

theorem parseJavaFrame_eq_none {line : Str} (other : ¬ "at ".toList <+: line) : parseJavaFrame line = none := by
  have unmarked : stripPrefix "at ".toList line = none :=
    if_neg fun prefixed => other (List.isPrefixOf_iff_prefix.mp prefixed)
  rw [parseJavaFrame, unmarked]
  rfl

theorem readFrame_other {c : Char} (solid : isWhitespace c = false) (other : c ≠ 'a') (s : Str) :
    readFrame (c :: s) = none := by
  have kept : trim ([c] ++ s) = [c] ++ trimEnd s :=
    trim_append (List.cons_ne_nil _ _) (by simpa [Solid] using solid) s
  rw [List.singleton_append] at kept
  rw [readFrame, kept]
  refine parseJavaFrame_eq_none fun prefixed => ?_
  exact other (List.cons_prefix_cons.mp prefixed).1.symm

theorem filterMap_frames (frames : List TraceFrame) :
    (frames.map TraceFrame.text).filterMap readFrame = frames.map TraceFrame.said := by
  induction frames with
  | nil => rfl
  | cons frame frames ih =>
      rw [List.map_cons, List.filterMap_cons_some frame.readFrame_text, ih]
      rfl

theorem CauseSection.filterMap_lines (self : CauseSection) :
    self.lines.filterMap readFrame = self.frames.map TraceFrame.said := by
  have header : readFrame ("Caused by: ".toList ++ self.cause.title) = none :=
    readFrame_other (by decide) (by decide) _
  have tab : Blank ['\t'] := by simp [Blank, isWhitespace]
  have common : ∀ n, readFrame (commonText n) = none := by
    intro n
    have indented : readFrame (commonText n) =
        readFrame ("... ".toList ++ Nat.toDigits 10 n ++ " more".toList) :=
      congrArg parseJavaFrame (trim_blank_append tab _)
    rw [indented]
    exact readFrame_other (by decide) (by decide) _
  rw [CauseSection.lines, List.filterMap_cons_none header, List.filterMap_append, filterMap_frames]
  cases self.common with
  | none => exact List.append_nil _
  | some n =>
      rw [Option.map_some, Option.toList_some, List.filterMap_cons_none (common n)]
      exact List.append_nil _

theorem isLine_common (n : Nat) : IsLine (commonText n) := by
  have word : IsLine " more".toList := ⟨by decide, by decide⟩
  have number : '\n' ∉ '\t' :: ("... ".toList ++ Nat.toDigits 10 n) := by
    rw [List.mem_cons, not_or]
    exact ⟨by decide, List.not_mem_append (by decide) (notMem_toDigits (by decide) _)⟩
  exact word.append number (by decide)

theorem CauseSection.isLine_of_mem {self : CauseSection} : ∀ line ∈ self.lines, IsLine line ∧ line ≠ [] := by
  intro line member
  rw [CauseSection.lines, List.mem_cons, List.mem_append] at member
  rcases member with rfl | member | member
  · exact ⟨self.cause.isLine_title.append (by decide) self.cause.title_ne_nil, by simp⟩
  · obtain ⟨frame, -, rfl⟩ := List.mem_map.mp member
    exact ⟨frame.isLine_text, List.cons_ne_nil _ _⟩
  · obtain ⟨n, -, rfl⟩ := Option.map_eq_some_iff.mp (Option.mem_toList.mp member)
    exact ⟨isLine_common n, List.cons_ne_nil _ _⟩

namespace CrashText
variable {self : CrashText}

theorem isLine_processLine (self : CrashText) : IsLine self.processLine := by
  have digits := solid_toString_int self.pid
  have number : IsLine (toString self.pid).toList :=
    isLine_of_trimmed (trim_of_solid digits) fun member => by cases digits '\n' member
  have marked : '\n' ∉ "Process: ".toList ++ self.processName ++ ", PID: ".toList :=
    List.not_mem_append (List.not_mem_append (by decide) self.processNamed.2) (by decide)
  exact number.append marked (toString_int_ne_nil _)

theorem isLine_of_mem : ∀ line ∈ self.lines, IsLine line ∧ line ≠ [] := by
  intro line member
  rw [lines, traceLines, List.mem_cons, List.mem_cons, List.mem_cons, List.mem_append] at member
  rcases member with rfl | rfl | rfl | member | member
  · obtain ⟨nonempty, trimmed, single⟩ := self.threadNamed
    have marked : '\n' ∉ "FATAL EXCEPTION: ".toList := by decide
    exact ⟨(isLine_of_trimmed trimmed single).append marked nonempty,
      List.append_ne_nil_of_right_ne_nil _ nonempty⟩
  · exact ⟨self.isLine_processLine, List.append_ne_nil_of_right_ne_nil _ (toString_int_ne_nil _)⟩
  · exact ⟨self.thrown.isLine_title, self.thrown.title_ne_nil⟩
  · obtain ⟨frame, -, rfl⟩ := List.mem_map.mp member
    exact ⟨frame.isLine_text, List.cons_ne_nil _ _⟩
  · obtain ⟨cause, -, inside⟩ := List.mem_flatMap.mp member
    exact CauseSection.isLine_of_mem line inside

theorem filterMap_traceLines (marked : ¬ "at ".toList <+: self.thrown.title) :
    self.traceLines.filterMap readFrame = self.allFrames.map TraceFrame.said := by
  have title : readFrame self.thrown.title = none :=
    parseJavaFrame_eq_none fun prefixed => marked (prefixed.trans self.thrown.trim_title_prefix)
  rw [traceLines, List.filterMap_cons_none title, List.filterMap_append, filterMap_frames, allFrames,
    List.map_append, List.filterMap_flatMap, List.map_flatMap]
  simp only [CauseSection.filterMap_lines]

theorem replaceCrlf_text (crlf ended : Bool) : replaceCrlf (self.text crlf ended) = self.text false ended := by
  have ends : lineEnd crlf = ['\n'] ∨ lineEnd crlf = ['\r', '\n'] := by cases crlf <;> simp [lineEnd]
  exact replaceCrlf_joinLines ends ended fun line member => (isLine_of_mem line member).1

theorem lines_text (ended : Bool) : Text.lines (self.text false ended) = self.lines := by
  refine lines_joinLines ended (fun line member => (isLine_of_mem line member).1) fun _ last => ?_
  exact (isLine_of_mem [] (List.mem_of_getLast? last)).2 rfl

theorem threadLine_names : ((stripPrefix "FATAL EXCEPTION:".toList (trimStart self.threadLine)).map trim).filter
    (fun value => !value.isEmpty) = some self.threadName := by
  obtain ⟨nonempty, trimmed, -⟩ := self.threadNamed
  have shown : stripPrefix "FATAL EXCEPTION:".toList (trimStart self.threadLine) =
      some (' ' :: self.threadName) :=
    stripPrefix_append _ _
  have name : trim (' ' :: self.threadName) = self.threadName := (trim_space _).trans trimmed
  rw [shown, Option.map_some, name, Option.filter_some, if_pos (by simpa using nonempty)]

theorem last_pid {start : Str} : ∀ c ∈ (start ++ (toString self.pid).toList).getLast?, isWhitespace c =
    false := by
  intro c last
  rw [List.getLast?_append_of_ne_nil _ (toString_int_ne_nil _)] at last
  exact solid_toString_int self.pid c (List.mem_of_getLast? last)

theorem trim_processLine : trim self.processLine = self.processLine := by
  refine trimmed_of_ends (fun c head => ?_) last_pid
  cases head
  decide

theorem parseProcessLine_text : parseProcessLine self.processLine = .ok (self.processName, self.pid) := by
  have named : stripPrefix "Process:".toList self.processLine =
      some (' ' :: (self.processName ++ ", PID: ".toList ++ (toString self.pid).toList)) :=
    stripPrefix_append "Process:".toList _
  have content : Trimmed (self.processName ++ ", PID: ".toList ++ (toString self.pid).toList) := by
    refine trimmed_of_ends (fun c head => ?_) last_pid
    cases name : self.processName with
    | nil =>
        rw [name] at head
        cases head
        decide
    | cons d rest =>
        rw [name] at head
        cases head
        exact head_of_trimmed self.processNamed.1 (by rw [name]; rfl)
  have apart : ',' ∉ " PID:".toList ++ ' ' :: (toString self.pid).toList := by
    refine List.not_mem_append (by decide) ?_
    rw [List.mem_cons, not_or]
    exact ⟨by decide, notMem_toString_int (by decide) rfl _⟩
  have laid : self.processName ++ ", PID: ".toList ++ (toString self.pid).toList =
      self.processName ++ (", PID:".toList ++ ' ' :: (toString self.pid).toList) := by simp
  have split : rsplitOnceStr ", PID:".toList
      (self.processName ++ ", PID: ".toList ++ (toString self.pid).toList) =
        some (self.processName, ' ' :: (toString self.pid).toList) := by
    rw [laid]
    exact rsplitOnceStr_append apart self.processName
  have pid : parseI32 (trim (' ' :: (toString self.pid).toList)) = some self.pid := by
    rw [trim_space, trim_of_solid (solid_toString_int _), parseI32_toString self.pidFits.1 self.pidFits.2]
  rw [parseProcessLine, named, Option.map_some, trim_space, content]
  show (orError _ (rsplitOnceStr ", PID:".toList _) >>= _) = _
  rw [split]
  show (orError _ (parseI32 (trim (' ' :: (toString self.pid).toList))) >>= _) = _
  rw [pid]
  show Except.ok (trim self.processName, self.pid) = _
  rw [self.processNamed.1]

theorem find?_traceLines (marked : ∀ mark ∈ otherLines, ¬ mark <+: self.thrown.title) :
    (self.traceLines.map trim).find? opensException = some (trim self.thrown.title) := by
  rw [traceLines, List.map_cons, List.find?_cons_of_pos (Throwable.opensException_title marked)]

end CrashText

/-- A report that is laid out in lines is read back, unless its exception line reads as one of another kind. -/
theorem parseCrashBuffer_text (report : CrashText)
    (marked : ∀ mark ∈ otherLines, ¬ mark <+: report.thrown.title)
    (crlf ended : Bool) : parseCrashBuffer (report.text crlf ended) = .ok (report.said ended) := by
  have header : findNext (fun line => "FATAL EXCEPTION:".toList.isPrefixOf (trimStart line)) report.lines =
      some (report.threadLine, report.processLine :: report.traceLines) := rfl
  have process : findNext (fun line => "Process:".toList.isPrefixOf (trimStart line))
      (report.processLine :: report.traceLines) = some (report.processLine, report.traceLines) := rfl
  have at' : ¬ "at ".toList <+: report.thrown.title := marked _ List.mem_cons_self
  have read : (Except.ok (report.processName, report.pid) : Except ParseError (Str × Int)) =
      parseProcessLine (trim report.processLine) := by
    rw [report.trim_processLine, report.parseProcessLine_text]
  rw [parseCrashBuffer, report.replaceCrlf_text, report.lines_text, header, orError_some_bind]
  dsimp only
  rw [report.threadLine_names, orError_some_bind, process, orError_some_bind]
  dsimp only
  rw [← read]
  show (orError _ ((report.traceLines.map trim).find? opensException) >>= _) = _
  rw [CrashText.find?_traceLines marked, orError_some_bind, report.thrown.splitOnce_title]
  exact congrArg (fun frames => Except.ok (CrashBufferReport.mk _ _ _ _ _ frames _))
    (CrashText.filterMap_traceLines at')

def crashOf (className message : Str) (named : className ≠ [] ∧ Trimmed className ∧ ':' ∉ className ∧
    '\n' ∉ className) (worded : Trimmed message ∧ '\n' ∉ message) : CrashText where
  threadName := "main".toList
  processName := "com.example:sync".toList
  pid := 4321
  thrown := {
    className, message := some message, named
    worded := by rintro m ⟨⟩; exact worded }
  frames := [{
    className := "Cache".toList
    methodName := "read".toList
    location := .line "Cache.kt".toList 44
    single := by decide
    dotless := by decide
    blankless := ⟨by rintro c ⟨⟩; rfl, by rintro c ⟨⟩; rfl⟩
    plain := ⟨by decide, by decide, by decide, by decide⟩ }]
  causes := []
  threadNamed := by decide
  processNamed := by decide
  pidFits := by decide

theorem parseCrashBuffer_text_of_closed_cache :
    parseCrashBuffer ((crashOf "Failure".toList "cache: closed".toList (by decide) (by decide)).text
      true true) =
      .ok ((crashOf "Failure".toList "cache: closed".toList (by decide) (by decide)).said true) :=
  parseCrashBuffer_text _ (by decide) true true

/-- An exception of the class `Suppressed` has no exception line. -/
theorem suppressed_is_skipped :
    (crashOf "Suppressed".toList "boom".toList (by decide) (by decide)).text false false =
        "FATAL EXCEPTION: main\nProcess: com.example:sync, PID: 4321\nSuppressed: boom\n\tat Cache.read(Cache.kt:44)".toList ∧
      parseCrashBuffer ((crashOf "Suppressed".toList "boom".toList (by decide) (by decide)).text false false) =
        .error (.missingCrashField "exception line".toList) := by
  have text : (crashOf "Suppressed".toList "boom".toList (by decide) (by decide)).text false false =
      "FATAL EXCEPTION: main\nProcess: com.example:sync, PID: 4321\nSuppressed: boom\n\tat Cache.read(Cache.kt:44)".toList := by
    decide
  refine ⟨text, ?_⟩
  rw [text]
  decide

end CrashCatcher.Logd
