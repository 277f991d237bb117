import CrashCatcher.Collect.Fragments
import CrashCatcher.Lib.LineByLine
import CrashCatcher.Lib.TwoRuns

/-! Reports that differ in the line numbers of their stack frames. -/

namespace CrashCatcher.Collect
open Lib Lib.Text Model Merge Logd

def frameText (method file : Str) (number : Nat) : Str :=
  "at ".toList ++ (method ++ '(' :: (file ++ ':' :: (Nat.toDigits 10 number ++ [')'])))

inductive RenumberedLine : Str → Str → Prop where
  | same (line : Str) : RenumberedLine line line
  | frame {indent method file blank : Str} (indented : Blank indent) (apart : '(' ∉ file) (ended : Blank blank)
      (number number' : Nat) : RenumberedLine (indent ++ (frameText method file number ++ blank))
        (indent ++ (frameText method file number' ++ blank))

def Renumbered : Str → Str → Prop := LineByLine RenumberedLine

structure RenumberedReport (report report' : CrashBufferReport) : Prop where
  same : { report' with frames := report.frames, raw := report.raw } = report
  frames : report.frames.map JavaFrame.normalized = report'.frames.map JavaFrame.normalized

section
variable {indent method file blank : Str} {number : Nat}

theorem frameText_closes (method file : Str) (number : Nat) : frameText method file number =
    "at ".toList ++ (method ++ '(' :: (file ++ ':' :: Nat.toDigits 10 number)) ++ [')'] := by
  simp [frameText]

theorem trimmed_frameText (method file : Str) (number : Nat) : Trimmed (frameText method file number) := by
  refine trimmed_of_ends (fun c head => ?_) fun c last => ?_
  · cases head
    rfl
  · rw [frameText_closes, List.getLast?_concat] at last
    cases last
    rfl

theorem trim_frame (indented : Blank indent) (ended : Blank blank) :
    trim (indent ++ (frameText method file number ++ blank)) = frameText method file number := by
  rw [trim_blank_append indented, trim_append_blank ended]
  exact trimmed_frameText method file number

theorem trimStart_frame (indented : Blank indent) :
    trimStart (indent ++ (frameText method file number ++ blank)) = frameText method file number ++ blank := by
  rw [trimStart_blank indented]
  rfl

theorem parseJavaFrame_frameText (apart : '(' ∉ file) (number : Nat) :
    (parseJavaFrame (frameText method file number)).map JavaFrame.normalized =
      (rsplitOnce '.' (trim (trimStart method))).map fun named => named.1 ++ '.' :: named.2 := by
  let place := file ++ ':' :: Nat.toDigits 10 number
  have inside : '(' ∉ place ++ [')'] := by
    simp [place, apart, notMem_toDigits (show '('.isDigit = false by decide)]
  have shown : frameText method file number = "at ".toList ++ (method ++ '(' :: (place ++ [')'])) := by
    simp [frameText, place]
  have ends : ∀ s : Str, s ++ '(' :: (place ++ [')']) = (s ++ '(' :: place) ++ [')'] := fun s => by simp
  have body : trim (method ++ '(' :: (place ++ [')'])) = trimStart method ++ '(' :: (place ++ [')']) := by
    rw [trim, ends, trimEnd_concat (by decide), ← ends, trimStart_append_cons (by decide)]
  have closed : stripSuffix [')'] (trimStart method ++ '(' :: (place ++ [')'])) =
      some (trimStart method ++ '(' :: place) := by
    rw [ends]
    exact stripSuffix_append _ _
  rw [shown, parseJavaFrame, stripPrefix_append, Option.map_some, body]
  show ((rsplitOnce '(' _).bind _).map _ = _
  rw [rsplitOnce_append_cons inside]
  show ((stripSuffix [')'] _).bind _).map _ = _
  rw [closed]
  show ((rsplitOnce '.' (trim (trimStart method))).bind _).map _ = _
  cases rsplitOnce '.' (trim (trimStart method)) with
  | none => rfl
  | some named => rfl

theorem stripJavaFramePrefix_frameText (method file : Str) (number : Nat) :
    stripJavaFramePrefix (frameText method file number) =
      trimStart method ++ '(' :: (file ++ ':' :: (Nat.toDigits 10 number ++ [')'])) := by
  have whole : trim (frameText method file number) = frameText method file number :=
    trimmed_frameText method file number
  rw [stripJavaFramePrefix, whole]
  exact trimStart_append_cons (by decide) method _

theorem normalizeJavaFrame_frameText (apart : '(' ∉ file) (number : Nat) :
    normalizeJavaFrame (frameText method file number) =
      trimStart method ++ '(' :: (file.takeWhile fun c => c != ':' && c != ')') ++ [')'] := by
  let place := file ++ ':' :: (Nat.toDigits 10 number ++ [')'])
  have outside : '(' ∉ place := by
    simp [place, apart, notMem_toDigits (show '('.isDigit = false by decide)]
  have closed : ')' ∈ place := by simp [place]
  obtain ⟨inside, rest, split, before'⟩ := List.eq_append_cons_of_mem closed
  have location : before ':' inside = file.takeWhile fun c => c != ':' && c != ')' := by
    rw [← before_append_cons before' rest, ← split, before, before, List.takeWhile_takeWhile]
    simp only [Bool.decide_and, Bool.decide_eq_true]
    exact takeWhile_append_cons (c := ':') rfl file _
  have parts : splitOnce ')' place = some (inside, rest) := by
    rw [split, splitOnce_append before', splitOnce, if_pos rfl, Option.map_some, List.append_nil]
  have outer : rsplitOnce '(' (trimStart method ++ '(' :: place) = some (trimStart method, place) :=
    rsplitOnce_append_cons outside _
  rw [normalizeJavaFrame, stripJavaFramePrefix_frameText, outer]
  dsimp only
  rw [parts]
  dsimp only
  rw [location]

end

namespace RenumberedLine
variable {line line' : Str}

theorem strips (lines : RenumberedLine line line') : RenumberedLine (stripReturn line) (stripReturn line') := by
  cases lines with
  | same => exact .same _
  | @frame indent method file blank indented apart ended number number' =>
      have strip : ∀ n, stripReturn (indent ++ (frameText method file n ++ blank)) =
          indent ++ (frameText method file n ++ stripReturn blank) := fun n => by
        rw [← List.append_assoc, stripReturn_append, List.append_assoc]
        rw [frameText_closes, ← List.append_assoc, List.getLast?_concat]
        decide
      rw [strip, strip]
      exact .frame indented apart (fun c member => ended c (stripReturn_subset _ member)) number number'

theorem empty (lines : RenumberedLine line line') : line = [] ↔ line' = [] := by
  cases lines with
  | same => rfl
  | frame => simp [frameText]

theorem tells {p : Str → Bool} (frames : ∀ {indent method file blank : Str} (number : Nat), Blank indent →
    Blank blank →
      p (indent ++ (frameText method file number ++ blank)) = false) : Tells RenumberedLine p := by
  intro line line' lines
  cases lines with
  | same => exact ⟨rfl, fun _ => rfl⟩
  | frame indented apart ended number number' =>
      rw [frames number indented ended, frames number' indented ended]
      exact ⟨rfl, fun passed => by cases passed⟩

theorem readFrame (lines : RenumberedLine line line') :
    (Logd.readFrame line).map JavaFrame.normalized = (Logd.readFrame line').map JavaFrame.normalized := by
  cases lines with
  | same => rfl
  | frame indented apart ended number number' =>
      rw [Logd.readFrame, Logd.readFrame, trim_frame indented ended, trim_frame indented ended,
        parseJavaFrame_frameText apart, parseJavaFrame_frameText apart]

theorem normalizeJavaFrame (lines : RenumberedLine line line') :
    Model.normalizeJavaFrame (trim line) = Model.normalizeJavaFrame (trim line') := by
  cases lines with
  | same => rfl
  | frame indented apart ended number number' =>
      rw [trim_frame indented ended, trim_frame indented ended, normalizeJavaFrame_frameText apart,
        normalizeJavaFrame_frameText apart]

end RenumberedLine

theorem opens_marked {mark : Str} (other : mark.head? = some 'F' ∨ mark.head? = some 'P') :
    Tells RenumberedLine fun line => mark.isPrefixOf (trimStart line) := by
  refine RenumberedLine.tells fun number indented _ => ?_
  rw [trimStart_frame indented]
  cases mark with
  | nil => rcases other with other | other <;> cases other
  | cons c mark =>
      have first : c ≠ 'a' := by
        rintro rfl
        rcases other with other | other <;> cases other
      show (c == 'a' && _) = false
      rw [beq_false_of_ne first, Bool.false_and]

theorem opens_exception : Tells RenumberedLine fun line => opensException (trim line) := by
  refine RenumberedLine.tells fun number indented ended => ?_
  rw [trim_frame indented ended, opensException, Bool.and_eq_false_iff]
  exact .inr rfl

theorem findNext_renumbered {p : Str → Bool} {lines lines' : List Str} (tells : Tells RenumberedLine p)
    (error : ParseError) (related : List.Forall₂ RenumberedLine lines lines') :
    Related (fun found found' => found.1 = found'.1 ∧ List.Forall₂ RenumberedLine found.2 found'.2)
      (orError error (findNext p lines)) (orError error (findNext p lines')) := by
  induction related with
  | nil => exact .error error
  | @cons line line' rest rest' here later ih =>
      obtain ⟨same, equal⟩ := tells line line' here
      rw [findNext, findNext, ← same]
      cases passed : p line with
      | false => exact ih
      | true => exact .ok ⟨equal passed, later⟩

section
variable {text text' : Str}

theorem Renumbered.lines (texts : Renumbered text text') :
    List.Forall₂ RenumberedLine (Text.lines text) (Text.lines text') :=
  LineByLine.lines RenumberedLine.strips RenumberedLine.empty texts

theorem Renumbered.replaceCrlf (texts : Renumbered text text') :
    Renumbered (Text.replaceCrlf text) (Text.replaceCrlf text') :=
  LineByLine.replaceCrlf RenumberedLine.strips texts

theorem parseCrashBuffer_renumbered (texts : Renumbered text text') :
    Related RenumberedReport (parseCrashBuffer text) (parseCrashBuffer text') := by
  rw [parseCrashBuffer, parseCrashBuffer]
  apply (findNext_renumbered (opens_marked (.inl rfl)) _ texts.replaceCrlf.lines).bind
  rintro ⟨first, rest⟩ ⟨_, rest'⟩ ⟨rfl, rests⟩
  apply (Related.refl _).bind
  rintro threadName _ rfl
  apply (findNext_renumbered (opens_marked (.inr rfl)) _ rests).bind
  rintro ⟨processLine, remaining⟩ ⟨_, remaining'⟩ ⟨rfl, remainings⟩
  apply (Related.refl _).bind
  rintro ⟨processName, pid⟩ _ rfl
  have exception : (remaining.map trim).find? opensException = (remaining'.map trim).find? opensException := by
    rw [List.find?_map, List.find?_map]
    exact congrArg (Option.map trim) (find?_eq_of_tells opens_exception remainings)
  have frames : (remaining.filterMap readFrame).map JavaFrame.normalized =
      (remaining'.filterMap readFrame).map JavaFrame.normalized := by
    rw [List.map_filterMap, List.map_filterMap]
    exact filterMap_eq_of_forall₂ (fun line line' lines => RenumberedLine.readFrame lines) remainings
  simp only [exception]
  apply (Related.refl _).bind
  rintro exceptionLine _ rfl
  exact .ok ⟨rfl, frames⟩

theorem exceptionClass_renumbered (texts : Renumbered text text') :
    exceptionClass text = exceptionClass text' := by
  rw [exceptionClass, exceptionClass, List.findSome?_map, List.findSome?_map]
  refine findSome?_eq_of_forall₂ (fun line line' lines => ?_) texts.lines
  cases lines with
  | same => rfl
  | @frame indent method file blank indented apart ended number number' =>
      have named : ∀ n, "at ".toList.isPrefixOf (before ':' (frameText method file n)) = true := fun n => rfl
      simp only [Function.comp_apply, trim_frame indented ended, named, Bool.not_true, Bool.and_false,
        Bool.false_eq_true, if_false]

theorem firstNonEmptyLine_renumbered (texts : Renumbered text text') :
    (firstNonEmptyLine text).isSome = (firstNonEmptyLine text').isSome := by
  rw [firstNonEmptyLine, firstNonEmptyLine, List.find?_map, List.find?_map, Option.isSome_map,
    Option.isSome_map]
  refine isSome_find?_eq_of_forall₂ (fun line line' lines => ?_) texts.lines
  cases lines with
  | same => rfl
  | frame indented apart ended number number' =>
      rw [Function.comp_apply, Function.comp_apply, trim_frame indented ended, trim_frame indented ended]
      rfl

theorem javaLikeFrames_renumbered (texts : Renumbered text text') :
    (javaLikeFrames text).map normalizeJavaFrame = (javaLikeFrames text').map normalizeJavaFrame := by
  rw [javaLikeFrames, javaLikeFrames, List.filter_map, List.filter_map, List.map_map, List.map_map]
  refine map_filter_eq_of_forall₂ (fun line line' lines => ⟨?_, lines.normalizeJavaFrame⟩) texts.lines
  cases lines with
  | same => rfl
  | frame indented apart ended number number' =>
      simp only [Function.comp_apply, trim_frame indented ended]
      rfl

end

/-- Fragments that differ in what line numbers show in: in their frames, but not as they are compared, in
their text and in their payload. -/
structure RenumberedFragment (f f' : CrashFragment) : Prop where
  same : { f' with
    frames := f.frames, payload := f.payload, summaryText := f.summaryText, sourceKey := f.sourceKey } = f
  frames : f.frames.map normalizeJavaFrame = f'.frames.map normalizeJavaFrame

section
variable {f f' : CrashFragment}

theorem applyJavaReport_renumbered {report report' : CrashBufferReport}
    (reports : RenumberedReport report report') (same : RenumberedFragment f f') :
    RenumberedFragment (applyJavaReport f report) (applyJavaReport f' report') := by
  refine ⟨?_, congrArg (List.map normalizeJavaFrame) reports.frames⟩
  rw [← reports.same, ← same.same]
  rfl

theorem applyJavaBody_renumbered {body body' : Str} (bodies : Renumbered body body')
    (same : RenumberedFragment f f') :
    RenumberedFragment (applyJavaBody f body) (applyJavaBody f' body') := by
  have read := parseCrashBuffer_renumbered bodies
  rw [applyJavaBody, applyJavaBody]
  generalize parseCrashBuffer body = result, parseCrashBuffer body' = result' at read ⊢
  cases read with
  | error =>
      refine ⟨?_, javaLikeFrames_renumbered bodies⟩
      rw [exceptionClass_renumbered bodies, ← same.same]
  | ok reports => exact applyJavaReport_renumbered reports same

end

end CrashCatcher.Collect
