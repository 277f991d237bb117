import CrashCatcher.Collect.TombstoneText
import CrashCatcher.Lib.Trim

namespace CrashCatcher.Collect
open Lib Lib.Text

structure ProcessHeader where
  pid : Int
  tid : Int
  name : Str
  command : Str
  pidFits : -2 ^ 31 ≤ pid ∧ pid < 2 ^ 31
  tidFits : -2 ^ 31 ≤ tid ∧ tid < 2 ^ 31
  named : name ≠ [] ∧ Trimmed name
  single : '\n' ∉ name ∧ '\n' ∉ command
  unopened : splitOnceStr ">>>".toList name = none ∧ splitOnceStr ">>>".toList command = none
  unclosed : splitOnceStr "<<<".toList name = none ∧ splitOnceStr "<<<".toList command = none

namespace ProcessHeader

def rest (self : ProcessHeader) : Str := self.name ++ "  >>> ".toList ++ self.command ++ " <<<".toList

/-- `pid: P, tid: T, name: N  >>> C <<<`. -/
def line (self : ProcessHeader) : Str :=
  "pid: ".toList ++ (toString self.pid).toList ++ ", tid: ".toList ++ (toString self.tid).toList ++
    ", name: ".toList ++ self.rest

def said (self : ProcessHeader) : Int × Int × Option Str × Str :=
  (self.pid, self.tid, some self.name, self.command)

/-- What the parser takes for the thread's name: all that follows it up to a comma. -/
def threadField (self : ProcessHeader) : Str := trim (before ',' self.rest)

variable (self : ProcessHeader)

theorem trimmed_field {key number : Str} (nonempty : number ≠ []) (solid : Solid number)
    (first : key.head?.map isWhitespace = some false) : Trimmed (key ++ ' ' :: number) := by
  obtain ⟨c, head, blank⟩ := Option.map_eq_some_iff.mp first
  obtain ⟨key, rfl⟩ := List.head?_eq_some_iff.mp head
  refine trimmed_of_ends (fun d here => ?_) fun c last => solid c ?_
  · obtain rfl : c = d := by simpa using here
    exact blank
  · rw [List.getLast?_append_of_ne_nil _ (List.cons_ne_nil _ _), List.getLast?_cons_of_ne_nil nonempty] at last
    exact List.mem_of_getLast? last

theorem fields {pidKey tidKey nameKey pid tid rest : Str}
    (keys : ',' ∉ pidKey ∧ ',' ∉ tidKey ∧ ',' ∉ nameKey)
    (pidPart : ',' ∉ pid) (tidPart : ',' ∉ tid)
    (pidTrimmed : Trimmed (pidKey ++ ' ' :: pid)) (tidTrimmed : Trimmed (tidKey ++ ' ' :: tid)) :
    ∃ more, (((pidKey ++ ' ' :: pid) ++ ',' :: ((' ' :: (tidKey ++ ' ' :: tid)) ++ ',' ::
        (nameKey ++ ' ' :: rest))).splitOn ',').map trim =
      (pidKey ++ ' ' :: pid) :: (tidKey ++ ' ' :: tid) :: trim (nameKey ++ ' ' :: before ',' rest) :: more := by
  have apart : ∀ {key value : Str}, ',' ∉ key → ',' ∉ value → ',' ∉ key ++ ' ' :: value := by
    intro key value noKey noValue
    simp [noKey, noValue]
  have blank : Blank [' '] := by simp [Blank, isWhitespace]
  obtain ⟨more, last⟩ := splitOn_eq_before ',' (nameKey ++ ' ' :: rest)
  have name : before ',' (nameKey ++ ' ' :: rest) = nameKey ++ ' ' :: before ',' rest := by
    have space : ',' ∉ [' '] := by simp
    rw [before_append keys.2.2, ← List.singleton_append, before_append space, List.singleton_append]
  have tidTrim : trim (' ' :: (tidKey ++ ' ' :: tid)) = tidKey ++ ' ' :: tid :=
    (trim_blank_append blank _).trans tidTrimmed
  have spaced : ',' ∉ ' ' :: (tidKey ++ ' ' :: tid) := by simp [keys.2.1, tidPart]
  refine ⟨more.map trim, ?_⟩
  rw [splitOn_append (apart keys.1 pidPart), splitOn_append spaced, last, List.map_cons, List.map_cons,
    List.map_cons, tidTrim, name, pidTrimmed]

theorem parts : ∃ more, (self.line.splitOn ',').map trim =
    ("pid:".toList ++ ' ' :: (toString self.pid).toList) ::
      ("tid:".toList ++ ' ' :: (toString self.tid).toList) ::
      trim (" name:".toList ++ ' ' :: before ',' self.rest) :: more := by
  have comma : ∀ value : Int, ',' ∉ (toString value).toList := notMem_toString_int (by decide) rfl
  have laid : ∀ a b c x y z : Str,
      (a ++ [' ']) ++ x ++ (',' :: ' ' :: (b ++ [' '])) ++ y ++ (',' :: (c ++ [' '])) ++ z =
        (a ++ ' ' :: x) ++ ',' :: ((' ' :: (b ++ ' ' :: y)) ++ ',' :: (c ++ ' ' :: z)) := by simp
  have shape : self.line = _ := laid "pid:".toList "tid:".toList " name:".toList (toString self.pid).toList
    (toString self.tid).toList self.rest
  rw [shape]
  exact fields (by decide) (comma _) (comma _)
    (trimmed_field (toString_int_ne_nil _) (solid_toString_int _) (by decide))
    (trimmed_field (toString_int_ne_nil _) (solid_toString_int _) (by decide))

theorem findSome_name (x : Str) : stripPrefix "name:".toList (trim (" name:".toList ++ ' ' :: x)) =
    some (trimEnd (' ' :: x)) := by
  have blank : Blank [' '] := by simp [Blank, isWhitespace]
  have inner : trim (" name:".toList ++ ' ' :: x) = "name:".toList ++ trimEnd (' ' :: x) :=
    (trim_blank_append blank ("name:".toList ++ ' ' :: x)).trans (trim_append (by decide) (by decide) _)
  rw [inner]
  exact stripPrefix_append _ _

theorem findSome_of_skips {f : Str → Option Str} {skipped : List Str} {field value : Str}
    (skips : ∀ part ∈ skipped, f part = none) (found : f field = some value) (more : List Str) :
    (skipped ++ field :: more).findSome? f = some value := by
  rw [List.findSome?_append, List.findSome?_eq_none_iff.mpr skips, Option.none_or, List.findSome?_cons, found]

theorem reads_of_fields {pidField tidField nameField : Option Str} {pidText tidText nameText : Str}
    {pid tid : Int}
    (pidFound : pidField = some pidText) (tidFound : tidField = some tidText)
      (nameFound : nameField = some nameText)
    (pidRead : parseI32 (trim pidText) = some pid) (tidRead : parseI32 (trim tidText) = some tid)
    (process : Option Str) :
    (do
      let pid ← orError TombstoneError.invalidProcessHeader (pidField.bind fun v => parseI32 (trim v))
      let tid ← orError TombstoneError.invalidProcessHeader (tidField.bind fun v => parseI32 (trim v))
      let thread := nameField.bind fun v => nonEmpty (trim v)
      let process ← orError TombstoneError.missingProcessHeader (process.or thread)
      pure (pid, tid, thread, process)) =
      (orError TombstoneError.missingProcessHeader (process.or (nonEmpty (trim nameText)))).map fun process =>
        (pid, tid, nonEmpty (trim nameText), process) := by
  subst pidFound tidFound nameFound
  simp only [Option.bind_some, pidRead, tidRead]
  cases process.or (nonEmpty (trim nameText)) with
  | none => rfl
  | some name => rfl

theorem marked {c d : Char} {opens closes start name command : Str}
    (opening : ' ' ∉ c :: opens) (closing : ' ' ∉ d :: closes) (plain : c ∉ start)
    (unopened : splitOnceStr (c :: opens) name = none) (unclosed : splitOnceStr (d :: closes) command = none) :
    (splitOnceStr (c :: opens)
      (start ++ (name ++ ' ' :: ' ' :: (c :: opens ++ ' ' :: (command ++ ' ' :: (d :: closes ++ [])))))).bind
        (fun parts => splitOnceStr (d :: closes) parts.2) = some (' ' :: (command ++ [' ']), []) := by
  have blank : splitOnceStr (c :: opens) (name ++ [' ']) = none := by
    rw [splitOnceStr_append_of_none opening unopened, splitOnceStr_cons, splitOnceStr]
    · rfl
    · exact fun prefixed => opening (List.mem_cons.mpr (.inl (List.cons_prefix_cons.mp prefixed).1.symm))
  have spaced : d ∉ [' '] := fun member => closing
    (List.mem_cons.mpr (.inl (List.mem_singleton.mp member).symm))
  rw [splitOnceStr_append_of_notMem plain, List.append_cons,
    splitOnceStr_of_none opening (List.cons_ne_nil _ _) blank, Option.map_some, Option.bind_some]
  show splitOnceStr (d :: closes) ([' '] ++ (command ++ ' ' :: (d :: closes ++ []))) = _
  rw [splitOnceStr_append_of_notMem spaced, splitOnceStr_of_none closing (List.cons_ne_nil _ _) unclosed]
  rfl

theorem process_of_line : ((splitOnceStr ">>>".toList self.line).bind fun parts =>
      splitOnceStr "<<<".toList parts.2).bind (fun parts => nonEmpty (trim parts.1)) =
    nonEmpty (trim self.command) := by
  have plain : '>' ∉ "pid: ".toList ++ (toString self.pid).toList ++ ", tid: ".toList ++
      (toString self.tid).toList ++ ", name: ".toList := by
    have number : ∀ value : Int, '>' ∉ (toString value).toList := notMem_toString_int (by decide) rfl
    refine List.not_mem_append (List.not_mem_append (List.not_mem_append (List.not_mem_append ?_ ?_) ?_) ?_) ?_
    · decide
    · exact number _
    · decide
    · exact number _
    · decide
  have laid : ∀ a b c d e : Str, a ++ (b ++ (' ' :: ' ' :: (c ++ [' '])) ++ d ++ (' ' :: e)) =
      a ++ (b ++ ' ' :: ' ' :: (c ++ ' ' :: (d ++ ' ' :: (e ++ [])))) := by simp
  have shape : self.line = _ := laid _ self.name ['>', '>', '>'] self.command ['<', '<', '<']
  have blank : Blank [' '] := by simp [Blank, isWhitespace]
  have kept : trim (' ' :: (self.command ++ [' '])) = trim self.command :=
    (trim_blank_append blank _).trans (trim_append_blank blank _)
  have found := marked (by decide) (by decide) plain self.unopened.1 self.unclosed.2
  rw [shape]
  refine (congrArg (fun parts : Option (Str × Str) => parts.bind fun parts => nonEmpty (trim parts.1))
    found).trans ?_
  rw [Option.bind_some, kept]

theorem parse_line : parseProcessHeader self.line =
    (orError TombstoneError.missingProcessHeader
      ((nonEmpty (trim self.command)).or (nonEmpty self.threadField))).map
      fun process => (self.pid, self.tid, nonEmpty self.threadField, process) := by
  obtain ⟨more, parts⟩ := self.parts
  have pid : parseI32 (trim (' ' :: (toString self.pid).toList)) = some self.pid := by
    rw [trim_space, trim_of_solid (solid_toString_int _), parseI32_toString self.pidFits.1 self.pidFits.2]
  have tid : parseI32 (trim (' ' :: (toString self.tid).toList)) = some self.tid := by
    rw [trim_space, trim_of_solid (solid_toString_int _), parseI32_toString self.tidFits.1 self.tidFits.2]
  have thread : trim (trimEnd (' ' :: before ',' self.rest)) = self.threadField := by
    rw [trim_trimEnd, trim_space, threadField]
  have pidField := stripPrefix_append "pid:".toList (' ' :: (toString self.pid).toList)
  have tidField := stripPrefix_append "tid:".toList (' ' :: (toString self.tid).toList)
  have tidSkips : stripPrefix "tid:".toList ("pid:".toList ++ ' ' :: (toString self.pid).toList) = none := rfl
  have nameSkips : stripPrefix "name:".toList ("pid:".toList ++ ' ' :: (toString self.pid).toList) = none := rfl
  have nameSkips' : stripPrefix "name:".toList ("tid:".toList ++ ' ' :: (toString self.tid).toList) = none :=
    rfl
  have nameField := findSome_name (before ',' self.rest)
  have pidFound := findSome_of_skips (List.forall_mem_nil _) pidField
  have tidFound := findSome_of_skips (List.forall_mem_singleton.mpr tidSkips) tidField
  have nameFound := findSome_of_skips
    (List.forall_mem_cons.mpr ⟨nameSkips, List.forall_mem_singleton.mpr nameSkips'⟩) nameField
  rw [parseProcessHeader, parts, process_of_line, ← thread]
  exact reads_of_fields (pidFound _) (tidFound _) (nameFound more) pid tid _

theorem said_in_rest : self.rest = self.name ++ "  >>>".toList ++ ' ' :: (self.command ++ " <<<".toList) := by
  have laid : ∀ a b c d : Str, a ++ (b ++ [' ']) ++ c ++ d = a ++ b ++ ' ' :: (c ++ d) := by simp
  exact laid self.name "  >>>".toList self.command " <<<".toList

/-- A name without a comma is followed by the marker, and one with a comma is cut. -/
theorem threadField_ne_name : self.threadField ≠ self.name := by
  intro same
  have blank : Blank [' '] := by simp [Blank, isWhitespace]
  by_cases comma : ',' ∈ self.name
  · rw [← same] at comma
    exact notMem_before ',' self.rest (trim_subset _ comma)
  · have marker : ',' ∉ self.name ++ "  >>>".toList := List.not_mem_append comma (by decide)
    have trimmed : Trimmed (self.name ++ "  >>>".toList) := by
      refine trimmed_of_ends (fun c head => ?_) fun c last => ?_
      · rw [List.head?_append_of_ne_nil _ self.named.1] at head
        exact head_of_trimmed self.named.2 head
      · rw [List.getLast?_append_of_ne_nil _ (by decide)] at last
        cases last
        decide
    rw [threadField, said_in_rest, before_append marker, trim_append_of_trimmed (by simp) trimmed] at same
    have longer := congrArg List.length same
    simp at longer

/-- No header's thread name is read as it is written. -/
theorem parse_ne_said (header : ProcessHeader) : parseProcessHeader header.line ≠ .ok header.said := by
  rw [parse_line]
  intro ok
  cases process : (nonEmpty (trim header.command)).or (nonEmpty header.threadField) with
  | none =>
      rw [process] at ok
      cases ok
  | some process' =>
      rw [process] at ok
      have thread : nonEmpty header.threadField = some header.name :=
        congrArg (fun fields => fields.2.2.1) (Except.ok.inj ok)
      rw [nonEmpty] at thread
      split_ifs at thread
      exact header.threadField_ne_name (Option.some.inj thread)

def worker : ProcessHeader where
  pid := 7
  tid := 8
  name := ['w']
  command := "com.example:w".toList
  pidFits := by decide
  tidFits := by decide
  named := by decide
  single := by decide
  unopened := by decide
  unclosed := by decide

theorem worker_keeps_its_marker :
    parseProcessHeader "pid: 7, tid: 8, name: w  >>> com.example:w <<<".toList =
        .ok (7, 8, some "w  >>> com.example:w <<<".toList, "com.example:w".toList) ∧
      worker.line = "pid: 7, tid: 8, name: w  >>> com.example:w <<<".toList ∧
      parseProcessHeader worker.line ≠ .ok worker.said := by
  have text : worker.line = "pid: 7, tid: 8, name: w  >>> com.example:w <<<".toList := by decide
  have read : parseProcessHeader "pid: 7, tid: 8, name: w  >>> com.example:w <<<".toList =
      .ok (7, 8, some "w  >>> com.example:w <<<".toList, "com.example:w".toList) := by decide
  refine ⟨read, text, ?_⟩
  rw [text, read]
  decide

end ProcessHeader
end CrashCatcher.Collect
