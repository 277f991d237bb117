import CrashCatcher.Collect.TombstoneText
import CrashCatcher.Lib.Trim

namespace CrashCatcher.Collect
open Lib Lib.Text

structure PlatformFrame where
  number : Str
  pc : UInt64
  pcText : Str
  path : Str
  offset : Option Str
  function : Option (Str × UInt64)
  buildId : Option Str
  numbered : ' ' ∉ number
  pcRead : readDigits 16 pcText = some pc.toNat
  unspaced : ' ' ∉ path
  offsetRead : ∀ o ∈ offset, (readDigits 16 o).isSome

namespace PlatformFrame

def offsetContent (o : Str) : Str := "offset 0x".toList ++ o
def functionContent (f : Str × UInt64) : Str := f.1 ++ '+' :: Nat.toDigits 10 f.2.toNat
def buildIdContent (id : Str) : Str := "BuildId: ".toList ++ id

def contents (self : PlatformFrame) : List Str :=
  (self.offset.map offsetContent).toList ++ (self.function.map functionContent).toList ++
    (self.buildId.map buildIdContent).toList

def group (content : Str) : Str := ' ' :: '(' :: (content ++ [')'])

def groups (contents : List Str) : Str := contents.flatMap group

/-- `#NN pc HEX  PATH [(offset 0xHEX)] [(FUNC+OFF)] [(BuildId: ID)]`. -/
def line (self : PlatformFrame) : Str :=
  '#' :: (self.number ++ " pc ".toList ++ self.pcText ++ "  ".toList ++ self.path ++ groups self.contents)

def said (self : PlatformFrame) : NativeFrame where
  relativePc := self.pc
  functionName := self.function.map Prod.fst
  functionOffset := self.function.map Prod.snd
  fileName := some self.path
  buildId := self.buildId

def buildIdMark : Str := "BuildId:".toList

/-- The text in a parenthesis names the function and its offset, or none. -/
def Names (text : Str) (function : Option (Str × UInt64)) : Prop :=
  if buildIdMark <+: text then function = none
  else match rsplitOnce '+' text with
    | none => function = none ∧ Blank text
    | some parts =>
        nonEmpty (trim parts.1) = function.map Prod.fst ∧ parseU64 parts.2 = function.map Prod.snd

/-- The first group is the function's, and its name does not read as something else. -/
def FunctionPlain (self : PlatformFrame) : Prop :=
  self.offset = none ∧
    ∀ f ∈ self.function, f.1 ≠ [] ∧ Trimmed f.1 ∧ ')' ∉ f.1 ∧ ¬ buildIdMark <+: f.1

/-- A path that begins with a parenthesis is taken for the function. -/
def FunctionStands (self : PlatformFrame) : Prop :=
  if self.path.head? = some '(' then Names (before ')' (self.path.tail ++ groups self.contents)) self.function
  else self.FunctionPlain

/-- The text up to the next mark or parenthesis is the build id, or blank where there is none. -/
def Identifies (text : Str) (buildId : Option Str) : Prop :=
  trim (before ')' (beforeStr buildIdMark text)) = buildId.getD [] ∧ buildId ≠ some []

def IdPlain (id : Str) : Prop := id ≠ [] ∧ Trimmed id ∧ ')' ∉ id ∧ afterStr buildIdMark id = none

/-- The path and the function's name hold no mark of a build id, or what is behind it is the build id. -/
def BuildIdStands (self : PlatformFrame) : Prop :=
  match afterStr buildIdMark self.path, self.function.bind fun f =>
    afterStr buildIdMark (functionContent f) with
  | some rest, _ => Identifies (rest ++ groups self.contents) self.buildId
  | none, some rest =>
      Identifies (rest ++ ')' :: groups (self.buildId.map buildIdContent).toList) self.buildId
  | none, none => ∀ id ∈ self.buildId, IdPlain id

def Readable (self : PlatformFrame) : Prop :=
  (self.path ≠ [] ∧ Solid self.path) ∧ self.FunctionStands ∧ self.BuildIdStands

section Groups

theorem groups_cons (content : Str) (contents : List Str) :
    groups (content :: contents) = ' ' :: '(' :: (content ++ ')' :: groups contents) := by
  rw [groups, List.flatMap_cons, group, groups]
  simp

theorem last_groups {start : Str} (last : ∀ c ∈ start.getLast?, isWhitespace c = false) (contents : List Str) :
    ∀ c ∈ (start ++ groups contents).getLast?, isWhitespace c = false := by
  rcases List.eq_nil_or_concat contents with rfl | ⟨contents, content, rfl⟩
  · rw [groups, List.flatMap_nil, List.append_nil]
    exact last
  · intro c here
    have ends : start ++ groups (contents.concat content) =
        (start ++ groups contents ++ ' ' :: '(' :: content) ++ [')'] := by
      simp [groups, group]
    rw [ends, List.getLast?_concat] at here
    cases here
    decide

theorem afterStr_group {c : Char} {mark content : Str}
    (apart : ' ' ∉ c :: mark ∧ '(' ∉ c :: mark ∧ ')' ∉ c :: mark)
    (rest : Str) : afterStr (c :: mark) (' ' :: '(' :: (content ++ ')' :: rest)) =
      ((afterStr (c :: mark) content).map (· ++ ')' :: rest)).or (afterStr (c :: mark) rest) := by
  have opened : c ∉ [' ', '('] := by
    simp only [List.mem_cons, not_or] at apart ⊢
    exact ⟨fun same => apart.1.1 same.symm, fun same => apart.2.1.1 same.symm, List.not_mem_nil⟩
  exact (afterStr_append_of_notMem opened _).trans (afterStr_append_cons apart.2.2 content rest)

theorem afterStr_groups {c : Char} {mark : Str} (apart : ' ' ∉ c :: mark) (start : Str) (contents : List Str) :
    afterStr (c :: mark) (start ++ groups contents) =
      ((afterStr (c :: mark) start).map (· ++ groups contents)).or
        (afterStr (c :: mark) (groups contents)) := by
  cases contents with
  | nil =>
      rw [groups, List.flatMap_nil, List.append_nil]
      cases afterStr (c :: mark) start <;> simp [afterStr, splitOnceStr]
  | cons content contents =>
      have spaced : c ∉ [' '] := fun member =>
        apart (List.mem_cons.mpr (.inl (List.mem_singleton.mp member).symm))
      rw [groups_cons, afterStr_append_cons apart]
      exact congrArg _ (afterStr_append_of_notMem spaced _).symm

end Groups

section Line
variable (self : PlatformFrame)

theorem solid_pcText : self.pcText ≠ [] ∧ Solid self.pcText := by
  obtain ⟨nonempty, letters⟩ := isAlphanum_of_readDigits self.pcRead
  exact ⟨nonempty, fun c member => isWhitespace_of_isAlphanum (letters c member)⟩

def fields : Str := self.pcText ++ ' ' :: ' ' :: (self.path ++ groups self.contents)

theorem parseFrame_of_parts {line rest start rest' fields : Str} {pc : UInt64} {file : Str} {more : List Str}
    (numbered : stripPrefix ['#'] (trim line) = some rest) (spaced : splitOnce ' ' rest = some (start, rest'))
    (counted : stripPrefix "pc ".toList (trim rest') = some fields) {pcText : Str}
    (words : splitWhitespace fields = pcText :: file :: more) (read : parseHexU64 pcText = some pc) :
    parseFrame line =
      let block := readBlock ((afterStr " (".toList fields).map (before ')'))
      some {
        relativePc := pc
        functionName := block.1
        functionOffset := block.2
        fileName := some file
        buildId := (afterStr buildIdMark fields).bind fun rest =>
          nonEmpty (trim (before ')' (beforeStr buildIdMark rest))) } := by
  have block : ∀ pat : Str, (splitOnceStr pat fields).map (fun parts => before ')' parts.2) =
      (afterStr pat fields).map (before ')') := fun pat => (Option.map_map _ _ _).symm
  have build : ∀ pat : Str, (splitOnceStr pat fields).bind (fun parts =>
      nonEmpty (trim (before ')' (beforeStr pat parts.2)))) =
      (afterStr pat fields).bind fun rest => nonEmpty (trim (before ')' (beforeStr pat rest))) :=
    by
    intro pat
    rw [afterStr, Option.bind_map]
    rfl
  rw [parseFrame, numbered]
  show (splitOnce ' ' rest).bind _ = _
  rw [spaced]
  show (stripPrefix "pc ".toList (trim rest')).bind _ = _
  rw [counted]
  show ((splitWhitespace fields).head?.bind parseHexU64).bind _ = _
  rw [words, List.head?_cons, Option.bind_some, read]
  refine congrArg some ?_
  rw [block, build]
  rfl

variable {self} in
theorem parse_line (named : self.path ≠ []) (solid : Solid self.path) :
    parseFrame self.line =
      let block := readBlock ((afterStr " (".toList self.fields).map (before ')'))
      some {
        relativePc := self.pc
        functionName := block.1
        functionOffset := block.2
        fileName := some self.path
        buildId := (afterStr buildIdMark self.fields).bind fun rest =>
          nonEmpty (trim (before ')' (beforeStr buildIdMark rest))) } := by
  have last : ∀ c ∈ (self.path ++ groups self.contents).getLast?, isWhitespace c = false :=
    last_groups (fun c here => solid c (List.mem_of_getLast? here)) _
  have nonempty : self.path ++ groups self.contents ≠ [] := by simp [named]
  have trimmed : ∀ start : Str, (∀ c ∈ start.head?, isWhitespace c = false) → start ≠ [] →
      Trimmed (start ++ (self.path ++ groups self.contents)) := by
    intro start first some
    refine trimmed_of_ends (fun c here => first c ?_) fun c here => last c ?_
    · rwa [List.head?_append_of_ne_nil _ some] at here
    · rwa [List.getLast?_append_of_ne_nil _ nonempty] at here
  have shape : self.line = ('#' :: (self.number ++ " pc ".toList ++ self.pcText ++ "  ".toList)) ++
      (self.path ++ groups self.contents) := by
    simp [line]
  have whole : trim self.line = self.line := by
    rw [shape]
    exact trimmed _ (by simp; decide) (by simp)
  have laid : ∀ a b c d : Str, '#' :: (a ++ (' ' :: b) ++ c ++ [' ', ' '] ++ d) =
      ['#'] ++ (a ++ ' ' :: (b ++ (c ++ ' ' :: ' ' :: d))) := by simp
  have shape' : self.line = ['#'] ++ (self.number ++ ' ' :: ("pc ".toList ++ self.fields)) :=
    shape.trans (laid self.number "pc ".toList self.pcText (self.path ++ groups self.contents))
  have numbered : stripPrefix ['#'] (trim self.line) =
      some (self.number ++ ' ' :: ("pc ".toList ++ self.fields)) := by
    rw [whole, shape']
    exact stripPrefix_append _ _
  have spaced : splitOnce ' ' (self.number ++ ' ' :: ("pc ".toList ++ self.fields)) =
      some (self.number, "pc ".toList ++ self.fields) := by
    rw [splitOnce_append self.numbered, splitOnce, if_pos rfl, Option.map_some, List.append_nil]
  have counted : stripPrefix "pc ".toList (trim ("pc ".toList ++ self.fields)) = some self.fields := by
    have same : trim ("pc ".toList ++ self.fields) = "pc ".toList ++ self.fields := by
      have parted : ∀ x y z : Str, x ++ (y ++ ' ' :: ' ' :: z) = (x ++ (y ++ [' ', ' '])) ++ z := by simp
      have head : ∀ x : Str, ("pc ".toList ++ x).head? = some 'p' := fun _ => rfl
      have text : "pc ".toList ++ self.fields = _ := parted "pc ".toList self.pcText _
      rw [text]
      refine trimmed _ (fun c here => ?_) fun none => ?_
      · rw [head] at here
        cases here
        decide
      · rw [← List.head?_eq_none_iff, head] at none
        cases none
    rw [same]
    exact stripPrefix_append _ _
  have words : splitWhitespace self.fields =
      self.pcText :: self.path :: splitWhitespace (groups self.contents) := by
    have blank : isWhitespace ' ' = true := by decide
    rw [fields, splitWhitespace_solid_cons self.solid_pcText.1 self.solid_pcText.2 blank,
      splitWhitespace_blank_cons blank]
    cases self.contents with
    | nil => rw [groups, List.flatMap_nil, List.append_nil, splitWhitespace_of_solid named solid,
        splitWhitespace_nil]
    | cons content contents =>
        rw [groups_cons, splitWhitespace_solid_cons named solid blank, splitWhitespace_blank_cons blank]
  exact parseFrame_of_parts numbered spaced counted words (parseHexU64_of_readDigits self.pcRead)

theorem afterStr_opening_cons {c : Char} (other : c ≠ '(') (s : Str) :
    afterStr [' ', '('] (' ' :: c :: s) = afterStr [' ', '('] (c :: s) := by
  have differs : ¬ [' ', '('] <+: ' ' :: c :: s := fun prefixed =>
    other (List.cons_prefix_cons.mp (List.cons_prefix_cons.mp prefixed).2).1.symm
  rw [afterStr, splitOnceStr_cons differs, Option.map_map]
  rfl

theorem afterStr_opening_groups (contents : List Str) :
    (afterStr [' ', '('] (groups contents)).map (before ')') =
    contents.head?.map (before ')') := by
  cases contents with
  | nil => rfl
  | cons content contents =>
      have found := splitOnceStr_self (List.cons_ne_nil ' ' ['(']) (content ++ ')' :: groups contents)
      rw [groups_cons, afterStr]
      refine (congrArg (fun split : Option (Str × Str) => (split.map Prod.snd).map (before ')')) found).trans ?_
      rw [Option.map_some, Option.map_some, before_cons_self, List.head?_cons, Option.map_some]

theorem block_fields : (afterStr " (".toList self.fields).map (before ')') =
    if self.path.head? = some '(' then some (before ')' (self.path.tail ++ groups self.contents))
    else self.contents.head?.map (before ')') := by
  have apart : ' ' ∉ self.pcText := fun member => by
    have solid := self.solid_pcText.2 ' ' member
    cases solid
  have skip : afterStr [' ', '('] self.fields =
      afterStr [' ', '('] (' ' :: (self.path ++ groups self.contents)) := by
    rw [fields, afterStr_append_of_notMem apart, afterStr_opening_cons (by decide)]
  refine (congrArg (Option.map (before ')')) skip).trans ?_
  split_ifs with opened
  · obtain ⟨path, shape⟩ := List.head?_eq_some_iff.mp opened
    have found := splitOnceStr_self (List.cons_ne_nil ' ' ['(']) (path ++ groups self.contents)
    rw [shape, afterStr]
    exact congrArg (fun split : Option (Str × Str) => (split.map Prod.snd).map (before ')')) found
  · rw [← afterStr_opening_groups]
    refine congrArg (Option.map (before ')')) ?_
    have unspaced := self.unspaced
    cases shape : self.path with
    | nil =>
        cases self.contents with
        | nil => rfl
        | cons content contents =>
            rw [List.nil_append, groups_cons]
            exact afterStr_opening_cons (by decide) _
    | cons c path =>
        have other : c ≠ '(' := fun same => opened (by rw [shape, same, List.head?_cons])
        rw [List.cons_append, afterStr_opening_cons other, ← List.cons_append, ← shape,
          afterStr_append_of_notMem unspaced]

end Line

section Function
variable (self : PlatformFrame)

theorem nonEmpty_trim_eq_none_iff (s : Str) : nonEmpty (trim s) = none ↔ Blank s := by
  rw [nonEmpty, trim_eq_nil_iff.symm]
  split_ifs with empty
  · simpa using empty
  · simpa using empty

theorem nonEmpty_trim_eq_some_iff (s : Str) : nonEmpty (trim s) = some s ↔ s ≠ [] ∧ Trimmed s := by
  rw [nonEmpty, Trimmed]
  split_ifs with empty
  · constructor
    · intro none
      cases none
    · rintro ⟨nonempty, same⟩
      rw [same] at empty
      exact absurd (List.isEmpty_iff.mp empty) nonempty
  · refine ⟨fun same => ?_, fun both => congrArg some both.2⟩
    have trimmed := Option.some.inj same
    exact ⟨fun nil => empty (by rw [nil]; rfl), trimmed⟩

theorem readBlock_eq_iff (text : Str) (function : Option (Str × UInt64)) :
    readBlock (some text) = (function.map Prod.fst, function.map Prod.snd) ↔ Names text function := by
  unfold Names
  rw [readBlock]
  by_cases marked : buildIdMark <+: text
  · have prefixed : "BuildId:".toList.isPrefixOf text = true := List.isPrefixOf_iff_prefix.mpr marked
    rw [if_pos prefixed, if_pos marked]
    cases function <;> simp
  · have apart : ¬ "BuildId:".toList.isPrefixOf text = true := fun prefixed =>
      marked (List.isPrefixOf_iff_prefix.mp prefixed)
    rw [if_neg apart, if_neg marked]
    cases rsplitOnce '+' text with
    | none =>
        cases function with
        | none => simp [nonEmpty_trim_eq_none_iff]
        | some f => simp
    | some parts => exact Prod.mk_inj

theorem names_functionContent_iff (f : Str × UInt64) : Names (before ')' (functionContent f)) (some f) ↔
    f.1 ≠ [] ∧ Trimmed f.1 ∧ ')' ∉ f.1 ∧ ¬ buildIdMark <+: f.1 := by
  by_cases closed : ')' ∈ f.1
  · refine ⟨fun names => ?_, fun plain => absurd closed plain.2.2.1⟩
    unfold Names at names
    split_ifs at names
    cases split : rsplitOnce '+' (before ')' (functionContent f)) with
    | none =>
        rw [split] at names
        cases names.1
    | some parts =>
        rw [split] at names
        obtain ⟨named, -⟩ := names
        rw [nonEmpty, Option.map_some] at named
        split_ifs at named
        have inside : ')' ∈ parts.1 := by
          rw [← Option.some.inj named] at closed
          exact trim_subset _ closed
        have member : ')' ∈ before ')' (functionContent f) := by
          rw [rsplitOnce_eq_some split]
          exact List.mem_append_left _ inside
        exact absurd member (notMem_before _ _)
  · have apart : ')' ∉ functionContent f := by
      refine List.not_mem_append closed ?_
      rw [List.mem_cons, not_or]
      exact ⟨by decide, notMem_toDigits (by decide) _⟩
    have split : rsplitOnce '+' (functionContent f) = some (f.1, Nat.toDigits 10 f.2.toNat) :=
      rsplitOnce_append_cons (notMem_toDigits (by decide) _) f.1
    have marked : buildIdMark <+: functionContent f ↔ buildIdMark <+: f.1 := prefix_append_cons_iff (by decide)
    unfold Names
    rw [before_eq_self apart, split]
    simp only [marked, parseU64_toDigits, Option.map_some, nonEmpty_trim_eq_some_iff]
    split_ifs with here <;> simp [here, closed]

theorem notMem_of_readDigits {c : Char} {s : Str} {value : Nat} (read : readDigits 16 s = some value)
    (other : digitOf 16 c = none) : c ∉ s := by
  intro member
  have digit := (digitOf_of_readDigits read).2 c member
  rw [other] at digit
  cases digit

theorem notMem_offsetContent {c : Char} {o : Str} (read : (readDigits 16 o).isSome)
    (other : digitOf 16 c = none) (apart : c ∉ "offset 0x".toList) : c ∉ offsetContent o := by
  obtain ⟨value, digits⟩ := Option.isSome_iff_exists.mp read
  exact List.not_mem_append apart (notMem_of_readDigits digits other)

theorem readBlock_offsetContent {o : Str} (read : (readDigits 16 o).isSome) :
    ∃ name, readBlock (some (before ')' (offsetContent o))) = (some name, none) := by
  have open' : ')' ∉ offsetContent o := notMem_offsetContent read (by decide) (by decide)
  have plus : '+' ∉ offsetContent o := notMem_offsetContent read (by decide) (by decide)
  have unmarked : ¬ "BuildId:".toList.isPrefixOf (offsetContent o) = true := by
    intro prefixed
    cases prefixed
  have solid : ¬ Blank (offsetContent o) := fun blank => by
    have here := blank 'o' (List.mem_append_left _ (by decide))
    cases here
  refine ⟨trim (offsetContent o), ?_⟩
  rw [before_eq_self open', readBlock, if_neg unmarked, rsplitOnce_eq_none plus]
  refine Prod.ext ?_ rfl
  rw [nonEmpty, if_neg fun empty => solid (trim_eq_nil_iff.mp (List.isEmpty_iff.mp empty))]

theorem readBlock_buildIdContent (id : Str) :
    readBlock (some (before ')' (buildIdContent id))) = (none, none) := by
  have text : before ')' (buildIdContent id) = "BuildId: ".toList ++ before ')' id :=
    before_append (by decide) id
  have marked : "BuildId:".toList.isPrefixOf ("BuildId: ".toList ++ before ')' id) = true := rfl
  rw [text, readBlock, if_pos marked]

theorem function_iff : readBlock ((afterStr " (".toList self.fields).map (before ')')) =
    (self.function.map Prod.fst, self.function.map Prod.snd) ↔ self.FunctionStands := by
  rw [block_fields, FunctionStands]
  split_ifs with opened
  · exact readBlock_eq_iff _ _
  · rw [FunctionPlain]
    have offsetRead := self.offsetRead
    cases offset : self.offset with
    | some o =>
        obtain ⟨name, block⟩ := readBlock_offsetContent (offsetRead o offset)
        have first : self.contents.head? = some (offsetContent o) := by rw [contents, offset]; rfl
        rw [first, Option.map_some, block]
        cases self.function <;> simp
    | none =>
        cases function : self.function with
        | some f =>
            have first : self.contents.head? =
                some (functionContent f) := by rw [contents, offset, function]; rfl
            rw [first, Option.map_some, readBlock_eq_iff, names_functionContent_iff]
            simp
        | none =>
            have first : self.contents.head? = self.buildId.map buildIdContent := by
              rw [contents, offset, function]
              cases self.buildId <;> rfl
            rw [first]
            cases self.buildId with
            | none => simp [readBlock]
            | some id => simp [readBlock_buildIdContent]

end Function

section BuildId
variable (self : PlatformFrame)

theorem afterStr_mark_groups (content : Str) (contents : List Str) :
    afterStr buildIdMark (groups (content :: contents)) =
      ((afterStr buildIdMark content).map (· ++ ')' :: groups contents)).or
        (afterStr buildIdMark (groups contents)) := by
  rw [groups_cons]
  exact afterStr_group (by decide) _

theorem afterStr_mark_offset (contents : List Str) :
    afterStr buildIdMark (groups ((self.offset.map offsetContent).toList ++ contents)) =
      afterStr buildIdMark (groups contents) := by
  have offsetRead := self.offsetRead
  cases offset : self.offset with
  | none => rfl
  | some o =>
      have unmarked : afterStr buildIdMark (offsetContent o) = none :=
        afterStr_eq_none (c := 'u') (by decide)
          (notMem_offsetContent (offsetRead o offset) (by decide) (by decide))
      have skip := afterStr_mark_groups (offsetContent o) contents
      rw [unmarked] at skip
      exact skip

theorem afterStr_mark_fields : afterStr buildIdMark self.fields =
    match afterStr buildIdMark self.path, self.function.bind fun f =>
      afterStr buildIdMark (functionContent f) with
    | some rest, _ => some (rest ++ groups self.contents)
    | none, some rest => some (rest ++ ')' :: groups (self.buildId.map buildIdContent).toList)
    | none, none => self.buildId.map fun id => ' ' :: (id ++ [')']) := by
  have counter : afterStr buildIdMark self.pcText = none :=
    afterStr_eq_none (c := 'u') (by decide) (notMem_of_readDigits self.pcRead (by decide))
  have skip : afterStr buildIdMark self.fields = afterStr buildIdMark (self.path ++ groups self.contents) := by
    have spaces : 'B' ∉ [' ', ' '] := by decide
    rw [fields, afterStr_append_of_none (by decide) counter]
    exact afterStr_append_of_notMem spaces _
  have whole : afterStr buildIdMark (self.path ++ groups self.contents) =
      ((afterStr buildIdMark self.path).map (· ++ groups self.contents)).or
        (afterStr buildIdMark (groups self.contents)) := afterStr_groups (by decide) _ _
  rw [skip, whole]
  cases afterStr buildIdMark self.path with
  | some rest => rfl
  | none =>
      have tail := self.afterStr_mark_offset
        ((self.function.map functionContent).toList ++ (self.buildId.map buildIdContent).toList)
      rw [← List.append_assoc] at tail
      refine tail.trans ?_
      have last : afterStr buildIdMark (groups (self.buildId.map buildIdContent).toList) =
          self.buildId.map fun id => ' ' :: (id ++ [')']) := by
        cases self.buildId with
        | none => rfl
        | some id =>
            have found : afterStr buildIdMark (buildIdContent id) = some (' ' :: id) :=
              by
              have whole : buildIdContent id = buildIdMark ++ ' ' :: id := rfl
              rw [whole, afterStr, splitOnceStr_self (by decide)]
              rfl
            have group := afterStr_mark_groups (buildIdContent id) []
            rw [found] at group
            exact group
      cases self.function with
      | none => exact last
      | some f =>
          have group := afterStr_mark_groups (functionContent f) (self.buildId.map buildIdContent).toList
          rw [last] at group
          refine group.trans ?_
          rw [Option.bind_some]
          cases afterStr buildIdMark (functionContent f) <;> rfl

theorem nonEmpty_eq_iff (s : Str) (value : Option Str) :
    nonEmpty s = value ↔ s = value.getD [] ∧ value ≠ some [] := by
  rw [nonEmpty]
  cases value with
  | none => simp
  | some v =>
      split_ifs with empty
      · rw [List.isEmpty_iff.mp empty]
        simp only [Option.getD_some, ne_eq, Option.some.injEq, false_iff, not_and, not_not]
        exact fun same => same.symm
      · simp only [Option.some.injEq, Option.getD_some, ne_eq]
        refine ⟨fun same => ⟨same, fun none => empty ?_⟩, And.left⟩
        rw [same, none]
        rfl

theorem idPlain_iff (id : Str) :
    nonEmpty (trim (before ')' (beforeStr buildIdMark (' ' :: (id ++ [')']))))) = some id ↔ IdPlain id := by
  rw [IdPlain, afterStr, Option.map_eq_none_iff]
  have differs : ¬ buildIdMark <+: ' ' :: (id ++ [')']) := fun prefixed => by
    have first := (List.cons_prefix_cons.mp prefixed).1
    cases first
  cases split : splitOnceStr buildIdMark id with
  | some parts =>
      have found : splitOnceStr buildIdMark (' ' :: (id ++ [')'])) =
          some (' ' :: parts.1, parts.2 ++ [')']) := by
        rw [splitOnceStr_cons differs, splitOnceStr_append_of_some split]
        rfl
      rw [beforeStr, found, Option.map_some, Option.getD_some]
      refine ⟨fun same => ?_, fun plain => by cases plain.2.2.2⟩
      have whole := splitOnceStr_eq_some split
      have longer : id.length = parts.1.length + 8 + parts.2.length := by
        rw [whole, List.length_append, List.length_append]
        rfl
      have read : trim (before ')' (' ' :: parts.1)) = id := ((nonEmpty_eq_iff _ _).mp same).1
      have shorter : id.length ≤ parts.1.length + 1 :=
        calc id.length = (trim (before ')' (' ' :: parts.1))).length := by rw [read]
          _ ≤ (before ')' (' ' :: parts.1)).length := length_trim_le _
          _ ≤ parts.1.length + 1 := (List.takeWhile_prefix _).length_le
      omega
  | none =>
      have apart : splitOnceStr buildIdMark (' ' :: (id ++ [')'])) = none := by
        rw [splitOnceStr_cons differs, splitOnceStr_append_of_none (by decide) split]
        rfl
      have text : before ')' (' ' :: (id ++ [')'])) = ' ' :: before ')' id := by
        rw [← before_cons_self ')' id []]
        exact before_append (show ')' ∉ [' '] by decide) _
      rw [beforeStr, apart, Option.map_none, Option.getD_none, text, trim_space]
      by_cases closed : ')' ∈ id
      · refine ⟨fun same => ?_, fun plain => absurd closed plain.2.2.1⟩
        have read : trim (before ')' id) = id := ((nonEmpty_eq_iff _ _).mp same).1
        have inside : ')' ∈ trim (before ')' id) := by rwa [read]
        exact absurd (trim_subset _ inside) (notMem_before _ _)
      · rw [before_eq_self closed, nonEmpty_trim_eq_some_iff]
        simp [closed]

theorem buildId_iff : ((afterStr buildIdMark self.fields).bind fun rest =>
    nonEmpty (trim (before ')' (beforeStr buildIdMark rest)))) = self.buildId ↔ self.BuildIdStands := by
  rw [afterStr_mark_fields]
  unfold BuildIdStands
  cases afterStr buildIdMark self.path with
  | some rest => exact nonEmpty_eq_iff _ _
  | none =>
      cases self.function.bind fun f => afterStr buildIdMark (functionContent f) with
      | some rest => exact nonEmpty_eq_iff _ _
      | none =>
          cases self.buildId with
          | none => simp
          | some id => simpa using idPlain_iff id

end BuildId

theorem fileName_solid {line : Str} {frame : NativeFrame} {path : Str} (read : parseFrame line = some frame)
    (named : frame.fileName = some path) : path ≠ [] ∧ Solid path := by
  rw [parseFrame] at read
  simp only [Option.bind_eq_bind, Option.bind_eq_some_iff] at read
  obtain ⟨rest, -, parts, -, fields, -, pc, -, written⟩ := read
  cases written
  exact solid_of_mem_splitWhitespace (List.mem_of_getElem? named)

theorem parse_eq_said_iff (frame : PlatformFrame) :
    parseFrame frame.line = some frame.said ↔ frame.Readable := by
  by_cases path : frame.path ≠ [] ∧ Solid frame.path
  · have functionIff := frame.function_iff
    have buildIff := frame.buildId_iff
    rw [parse_line path.1 path.2, Readable, ← functionIff, ← buildIff, and_iff_right path,
      Option.some.injEq, said]
    simp only [NativeFrame.mk.injEq, true_and, Prod.ext_iff, and_assoc]
  · rw [Readable]
    refine ⟨fun read => absurd (fileName_solid read rfl) path, fun readable => absurd readable.1 path⟩

def overloaded : PlatformFrame where
  number := "02".toList
  pc := 420
  pcText := "01a4".toList
  path := "/data/libgame.so".toList
  offset := none
  function := some ("load(char const*)".toList, 36)
  buildId := some "5a1f".toList
  numbered := by decide
  pcRead := by decide
  unspaced := by decide
  offsetRead := by rintro o ⟨⟩

theorem overloaded_is_cut :
    overloaded.line = "#02 pc 01a4  /data/libgame.so (load(char const*)+36) (BuildId: 5a1f)".toList ∧
      parseFrame overloaded.line = some {
        relativePc := 420
        functionName := some "load(char const*".toList
        functionOffset := none
        fileName := some "/data/libgame.so".toList
        buildId := some "5a1f".toList } ∧
      parseFrame overloaded.line ≠ some overloaded.said := by
  have text : overloaded.line = "#02 pc 01a4  /data/libgame.so (load(char const*)+36) (BuildId: 5a1f)".toList := by
    decide
  have read : parseFrame "#02 pc 01a4  /data/libgame.so (load(char const*)+36) (BuildId: 5a1f)".toList = some {
      relativePc := 420
      functionName := some "load(char const*".toList
      functionOffset := none
      fileName := some "/data/libgame.so".toList
      buildId := some "5a1f".toList } := by decide
  refine ⟨text, text ▸ read, ?_⟩
  rw [text, read]
  decide

end PlatformFrame
end CrashCatcher.Collect
