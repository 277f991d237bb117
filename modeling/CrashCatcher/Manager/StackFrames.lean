import CrashCatcher.Lib.Decimal
import CrashCatcher.Lib.Lines
import CrashCatcher.Lib.Runs
import CrashCatcher.Manager.CrashList
import CrashCatcher.Model.Fingerprint

namespace CrashCatcher.Manager.StackFrames
open Lib

section Model

def frameworkPrefixes : List Str :=
  ["android.", "androidx.", "com.android.internal.", "com.android.server.", "dalvik.", "java.",
    "javax.", "kotlin.", "kotlinx.coroutines.", "libcore.", "sun.", "art_"].map String.toList

def frameMarker : Str := "at ".toList

def trimStart (text : Str) : Str := text.dropWhile isWhitespace

def trim (text : Str) : Str := (trimStart text).rdropWhile isWhitespace

def isFrameworkFrame (line : Str) : Bool :=
  let trimmed := trim line
  if !frameMarker.isPrefixOf trimmed then false
  else
    let frame := trimStart (trimmed.drop frameMarker.length)
    frameworkPrefixes.any fun pre => pre.isPrefixOf frame

structure StackLine where
  index : Nat
  text : Str
  isFramework : Bool
deriving DecidableEq

inductive StackItem where
  | line (line : StackLine)
  | foldedFrames (lines : List StackLine)
deriving DecidableEq

/-- The key of an item in the list on the screen; nothing where `first` finds no line. -/
def StackItem.stableKey : StackItem → Option Str
  | .line single => some ("line-".toList ++ Nat.toDigits 10 single.index)
  | .foldedFrames lines => lines.head?.map fun first => "fold-".toList ++ Nat.toDigits 10 first.index

def isLineEnd (c : Char) : Bool := c == '\n' || c == '\r'

/-- `lineSequence`: a line ends at "\r\n", "\n" or "\r", and the last one where the text does. -/
def lineSequence (text : Str) : List Str := (Text.replaceCrlf text).splitOnP isLineEnd

def stackLine (index : Nat) (line : Str) : StackLine where
  index
  text := line
  isFramework := isFrameworkFrame line

def stackLines (text : Str) : List StackLine := (lineSequence text).mapIdx stackLine

structure FoldState where
  items : List StackItem := []
  run : List StackLine := []

def flush (minimumFoldSize : Int) (s : FoldState) : FoldState where
  items :=
    if s.run.isEmpty then s.items
    else if s.run.length ≥ minimumFoldSize then s.items ++ [.foldedFrames s.run]
    else s.items ++ s.run.map .line
  run := []

def takeLine (minimumFoldSize : Int) (s : FoldState) (line : StackLine) : FoldState :=
  if line.isFramework || (!s.run.isEmpty && !isNotBlank line.text) then { s with run := s.run ++ [line] }
  else
    let s := flush minimumFoldSize s
    { s with items := s.items ++ [.line line] }

def buildStackItems (text : Str) (foldFrameworkFrames : Bool) (minimumFoldSize : Int := 3) : List StackItem :=
  let lines := stackLines text
  if !foldFrameworkFrames then lines.map .line
  else (flush minimumFoldSize (lines.foldl (takeLine minimumFoldSize) {})).items

end Model

theorem index_stackLines (text : Str) :
    (stackLines text).map StackLine.index = List.range (lineSequence text).length := by
  refine List.ext_getElem (by simp [stackLines]) fun i _ _ => ?_
  simp [stackLines, stackLine]

/-- Framework lines open a run; blank lines keep it going. -/
def stackRule : RunRule StackLine where
  opens line := line.isFramework
  joins line := line.isFramework || !isNotBlank line.text
  joins_of_opens framework := by simp [framework]

def StackItem.lines : StackItem → List StackLine
  | line single => [single]
  | foldedFrames run => run

def flatten (items : List StackItem) : List StackLine := items.flatMap StackItem.lines

def FoldedAt (items : List StackItem) (before run after : List StackLine) : Prop :=
  ∃ prior later, items = prior ++ .foldedFrames run :: later ∧ flatten prior = before ∧ flatten later = after

/-- Items show some lines, folding what cannot be made longer where there are enough of them. -/
structure Folds (minimumFoldSize : Int) (items : List StackItem) (lines : List StackLine) : Prop where
  flat : flatten items = lines
  folded : ∀ before run after, FoldedAt items before run after ↔
    stackRule.MaximalIn lines before run after ∧ run.length ≥ minimumFoldSize

/-- The loop behind some lines: items for those that are done, and the run that is pending. -/
structure Invariant (minimumFoldSize : Int) (lines : List StackLine) (s : FoldState) : Prop where
  folds : ∃ done, lines = done ++ s.run ∧ Folds minimumFoldSize s.items done ∧ ¬ stackRule.Reaches done
  pending : s.run = [] ∨ stackRule.IsRun s.run

variable {items more : List StackItem} {lines before run after done : List StackLine} {line : StackLine}
  {minimumFoldSize : Int}

@[simp] theorem flatten_append : flatten (items ++ more) = flatten items ++ flatten more := List.flatMap_append

@[simp] theorem flatten_lines : flatten (lines.map .line) = lines := by
  induction lines with
  | nil => rfl
  | cons line lines ih => exact congrArg (line :: ·) ih

theorem foldedAt_append : FoldedAt (items ++ more) before run after ↔
    (∃ after', FoldedAt items before run after' ∧ after = after' ++ flatten more) ∨
      ∃ before', FoldedAt more before' run after ∧ before = flatten items ++ before' := by
  constructor
  · rintro ⟨prior, later, split, rfl, rfl⟩
    rcases List.append_eq_append_iff.mp split with ⟨between, rfl, rfl⟩ | ⟨between, rfl, tail⟩
    · exact .inr ⟨flatten between, ⟨between, later, rfl, rfl, rfl⟩, flatten_append⟩
    · cases between with
      | nil => exact .inr ⟨[], ⟨[], later, by simpa using tail.symm, rfl, rfl⟩, by simp⟩
      | cons item between =>
          obtain ⟨rfl, rfl⟩ := List.cons.inj tail
          exact .inl ⟨flatten between, ⟨prior, between, rfl, rfl, rfl⟩, flatten_append⟩
  · rintro (⟨_, ⟨prior, later, rfl, rfl, rfl⟩, rfl⟩ | ⟨_, ⟨prior, later, rfl, rfl, rfl⟩, rfl⟩)
    · exact ⟨prior, later ++ more, by simp, rfl, flatten_append⟩
    · exact ⟨items ++ prior, later, by simp, flatten_append, rfl⟩

theorem not_foldedAt_lines : ¬ FoldedAt (lines.map .line) before run after := by
  rintro ⟨prior, later, split, _, _⟩
  have member : .foldedFrames run ∈ lines.map StackItem.line := by simp [split]
  simp at member

theorem foldedAt_single {found : List StackLine} :
    FoldedAt [.foldedFrames run] before found after ↔ before = [] ∧ found = run ∧ after = [] := by
  constructor
  · rintro ⟨prior, later, split, rfl, rfl⟩
    rcases List.singleton_eq_append_iff.mp split with ⟨rfl, single⟩ | ⟨_, impossible⟩
    · obtain ⟨same, rfl⟩ := List.cons.inj single
      exact ⟨rfl, StackItem.foldedFrames.inj same, rfl⟩
    · simp at impossible
  · rintro ⟨rfl, rfl, rfl⟩
    exact ⟨[], [], rfl, rfl, rfl⟩

theorem Invariant.flush {s : FoldState} (inv : Invariant minimumFoldSize lines s) :
    Folds minimumFoldSize (flush minimumFoldSize s).items lines := by
  obtain ⟨done, rfl, folds, unreached⟩ := inv.folds
  rcases inv.pending with empty | pending
  · simpa [StackFrames.flush, empty] using folds
  have nonempty : s.run.isEmpty = false := by simpa using pending.ne_nil
  by_cases enough : (s.run.length : Int) ≥ minimumFoldSize
  · have items : (StackFrames.flush minimumFoldSize s).items = s.items ++ [.foldedFrames s.run] := by
      simp [StackFrames.flush, nonempty, enough]
    rw [items]
    have single : flatten [.foldedFrames s.run] = s.run := by simp [flatten, StackItem.lines]
    refine ⟨by rw [flatten_append, folds.flat, single], fun before run after => ?_⟩
    rw [foldedAt_append, RunRule.maximalIn_append_run pending unreached]
    simp only [folds.folded, foldedAt_single, single, folds.flat]
    constructor
    · rintro (⟨after', ⟨maximal, long⟩, rfl⟩ | ⟨_, ⟨rfl, rfl, rfl⟩, rfl⟩)
      · exact ⟨.inl ⟨after', maximal, rfl⟩, long⟩
      · exact ⟨.inr ⟨List.append_nil done, rfl, rfl⟩, enough⟩
    · rintro ⟨⟨after', maximal, rfl⟩ | ⟨rfl, rfl, rfl⟩, long⟩
      · exact .inl ⟨after', ⟨maximal, long⟩, rfl⟩
      · exact .inr ⟨[], ⟨rfl, rfl, rfl⟩, (List.append_nil _).symm⟩
  · have items : (StackFrames.flush minimumFoldSize s).items = s.items ++ s.run.map .line := by
      simp [StackFrames.flush, nonempty, enough]
    rw [items]
    refine ⟨by simp [folds.flat], fun before run after => ?_⟩
    rw [foldedAt_append, RunRule.maximalIn_append_run pending unreached]
    simp only [folds.folded, not_foldedAt_lines, false_and, exists_false, or_false, flatten_lines]
    constructor
    · rintro ⟨after', ⟨maximal, long⟩, rfl⟩
      exact ⟨.inl ⟨after', maximal, rfl⟩, long⟩
    · rintro ⟨⟨after', maximal, rfl⟩ | ⟨_, rfl, _⟩, long⟩
      · exact ⟨after', ⟨maximal, long⟩, rfl⟩
      · exact absurd long enough

theorem Folds.append_line (folds : Folds minimumFoldSize items lines)
    (apart : ¬ stackRule.Reaches (lines ++ [line])) :
    Folds minimumFoldSize (items ++ [.line line]) (lines ++ [line]) := by
  have single : flatten [.line line] = [line] := rfl
  refine ⟨by rw [flatten_append, folds.flat, single], fun before run after => ?_⟩
  have unfolded : ∀ before', ¬ FoldedAt [.line line] before' run after := fun before' =>
    (not_foldedAt_lines : ¬ FoldedAt ([line].map .line) before' run after)
  rw [foldedAt_append, RunRule.maximalIn_concat apart]
  simp only [folds.folded, unfolded, single, false_and, exists_false, or_false]
  constructor
  · rintro ⟨after', ⟨maximal, long⟩, rfl⟩
    exact ⟨⟨after', maximal, rfl⟩, long⟩
  · rintro ⟨⟨after', maximal, rfl⟩, long⟩
    exact ⟨after', ⟨maximal, long⟩, rfl⟩

theorem Invariant.takeLine {s : FoldState} (inv : Invariant minimumFoldSize lines s) (line : StackLine) :
    Invariant minimumFoldSize (lines ++ [line]) (takeLine minimumFoldSize s line) := by
  obtain ⟨done, split, folds, unreached⟩ := inv.folds
  rw [StackFrames.takeLine]
  split_ifs with joins
  · refine ⟨⟨done, by rw [split, List.append_assoc], folds, unreached⟩, .inr ?_⟩
    rcases inv.pending with empty | pending
    · have framework : line.isFramework = true := by simpa [empty] using joins
      have single : stackRule.IsRun [line] := RunRule.isRun_singleton framework
      simpa [empty] using single
    · have joined : stackRule.joins line = true := by
        have either : line.isFramework = true ∨ s.run ≠ [] ∧
            isNotBlank line.text = false := by simpa using joins
        rcases either with framework | ⟨_, blank⟩ <;> simp [stackRule, *]
      exact pending.append (by simpa using joined)
  · have apart : ¬ stackRule.Reaches (lines ++ [line]) := by
      rw [RunRule.reaches_concat]
      rintro (framework | ⟨reached, joined⟩)
      · exact joins (by simp [show line.isFramework = true from framework])
      · have nonempty : s.run ≠ [] := by
          rintro empty
          rw [split, empty, List.append_nil] at reached
          exact unreached reached
        exact joins (by simpa [stackRule, nonempty] using joined)
    exact ⟨⟨lines ++ [line], by simp [StackFrames.flush], inv.flush.append_line apart, apart⟩, .inl rfl⟩

theorem foldl_takeLine (lines : List StackLine) :
    Invariant minimumFoldSize lines (lines.foldl (takeLine minimumFoldSize) {}) := by
  induction lines using List.reverseRecOn with
  | nil =>
      refine ⟨⟨[], rfl, ⟨rfl, fun before run after => ?_⟩, RunRule.not_reaches_nil⟩, .inl rfl⟩
      constructor
      · rintro ⟨prior, later, impossible, _, _⟩
        simp at impossible
      · rintro ⟨⟨split, isRun, _, _⟩, _⟩
        exact absurd split (by simp [isRun.ne_nil])
  | append_singleton lines line ih =>
      rw [List.foldl_concat]
      exact ih.takeLine line

theorem buildStackItems_folds (text : Str) (minimumFoldSize : Int) :
    Folds minimumFoldSize (buildStackItems text true minimumFoldSize) (stackLines text) :=
  (foldl_takeLine (stackLines text)).flush

example : (buildStackItems "at a.b\n\tat java.c\r\n\n at sun.d\rat art_e\n".toList true).map StackItem.lines =
    [[⟨0, "at a.b".toList, false⟩],
      [⟨1, "\tat java.c".toList, true⟩, ⟨2, [], false⟩, ⟨3, " at sun.d".toList, true⟩,
        ⟨4, "at art_e".toList, true⟩, ⟨5, [], false⟩]] := by decide

theorem StackItem.stableKey_eq (item : StackItem) (nonempty : item.lines ≠ []) :
    ∃ kind first, kind.length = 5 ∧ item.lines.head? = some first ∧
      item.stableKey = some (kind ++ Nat.toDigits 10 first.index) := by
  cases item with
  | line line => exact ⟨"line-".toList, line, rfl, rfl, rfl⟩
  | foldedFrames lines =>
      obtain ⟨first, rest, rfl⟩ := List.exists_cons_of_ne_nil nonempty
      exact ⟨"fold-".toList, first, rfl, rfl, rfl⟩

theorem Folds.lines_ne_nil (folds : Folds minimumFoldSize items lines) : ∀ item ∈ items, item.lines ≠ [] := by
  intro item member
  cases item with
  | line line => exact List.cons_ne_nil line []
  | foldedFrames run =>
      obtain ⟨prior, later, split⟩ := List.append_of_mem member
      exact ((folds.folded _ _ _).mp ⟨prior, later, split, rfl, rfl⟩).1.isRun.ne_nil

theorem nodup_stableKey (nonempty : ∀ item ∈ items, item.lines ≠ [])
    (indices : ((flatten items).map StackLine.index).Nodup) : (items.map StackItem.stableKey).Nodup := by
  induction items with
  | nil => exact List.nodup_nil
  | cons item items ih =>
      obtain ⟨own, others⟩ := List.forall_mem_cons.mp nonempty
      rw [show flatten (item :: items) = item.lines ++ flatten items from rfl, List.map_append] at indices
      obtain ⟨_, later, disjoint⟩ := List.nodup_append.mp indices
      refine List.nodup_cons.mpr ⟨fun member => ?_, ih others later⟩
      obtain ⟨other, inside, same⟩ := List.mem_map.mp member
      obtain ⟨kind, first, length, head, key⟩ := item.stableKey_eq own
      obtain ⟨kind', first', length', head', key'⟩ := other.stableKey_eq (others other inside)
      rw [key, key', Option.some_inj] at same
      have digits := (List.append_inj same (length'.trans length.symm)).2
      have shown : first' ∈ flatten items := List.mem_flatMap.mpr ⟨other, inside, List.mem_of_mem_head? head'⟩
      exact disjoint _ (List.mem_map_of_mem (List.mem_of_mem_head? head)) _ (List.mem_map_of_mem shown)
        (Decimal.toDigits_injective digits).symm

/-- The list on the screen never sees a key twice. -/
theorem buildStackItems_keys (text : Str) (foldFrameworkFrames : Bool) (minimumFoldSize : Int) :
    ((buildStackItems text foldFrameworkFrames minimumFoldSize).map StackItem.stableKey).Nodup := by
  have indices : ((stackLines text).map StackLine.index).Nodup := by
    rw [index_stackLines]
    exact List.nodup_range
  cases foldFrameworkFrames with
  | false =>
      have flat : flatten (buildStackItems text false minimumFoldSize) = stackLines text := flatten_lines
      refine nodup_stableKey (fun item member => ?_) (by rwa [flat])
      obtain ⟨line, _, rfl⟩ := List.mem_map.mp member
      exact List.cons_ne_nil line []
  | true =>
      have folds := buildStackItems_folds text minimumFoldSize
      exact nodup_stableKey folds.lines_ne_nil (by rwa [folds.flat])

/-- A framework line, followed by framework and blank lines only. -/
structure FrameworkRun (run : List StackLine) : Prop where
  begins : ∃ first rest, run = first :: rest ∧ first.isFramework = true
  consists : ∀ line ∈ run, line.isFramework = true ∨ isNotBlank line.text = false

structure MaximalRun (before run after : List StackLine) : Prop where
  isRun : FrameworkRun run
  left : ∀ line ∈ before.getLast?, line.isFramework = false
  right : ∀ line ∈ after.head?, line.isFramework = false ∧ isNotBlank line.text = true

theorem isRun_iff : stackRule.IsRun run ↔ FrameworkRun run := by
  constructor
  · intro isRun
    refine ⟨?_, fun line member => by simpa [stackRule] using isRun.joins line member⟩
    obtain ⟨first, rest, rfl, opened, _⟩ := isRun
    exact ⟨first, rest, rfl, opened⟩
  · rintro ⟨⟨first, rest, rfl, framework⟩, consists⟩
    exact ⟨first, rest, rfl, framework, fun line member => by
      simpa [stackRule] using consists line (List.mem_cons_of_mem first member)⟩

theorem maximalRun_of_maximalIn (maximal : stackRule.MaximalIn lines before run after) :
    MaximalRun before run after := by
  refine ⟨isRun_iff.mp maximal.isRun, fun line last => ?_, fun line head => by
    simpa [stackRule] using maximal.right line head⟩
  obtain ⟨start, rfl⟩ := List.getLast?_eq_some_iff.mp last
  exact Bool.eq_false_iff.mpr fun framework => maximal.left (RunRule.reaches_concat.mpr (.inl framework))

theorem MaximalRun.exists_maximalIn (maximal : MaximalRun before run after) :
    ∃ start extra, start ++ extra = before ∧
      stackRule.MaximalIn (before ++ run ++ after) start (extra ++ run) after := by
  have isRun := isRun_iff.mpr maximal.isRun
  have right : ∀ line ∈ after.head?, stackRule.joins line = false := fun line head => by
    simpa [stackRule] using maximal.right line head
  by_cases reached : stackRule.Reaches before
  · obtain ⟨start, extra, rfl, earlier, unreached⟩ := reached.exists_first
    exact ⟨start, extra, rfl, by simp, earlier.append isRun.joins, unreached, right⟩
  · exact ⟨before, [], List.append_nil before, by simp, isRun, reached, right⟩

/-- Folding shows every line with its index, and folds exactly the long enough runs that no longer run contains. -/
theorem buildStackItems_folds_maximal_runs (text : Str) (minimumFoldSize : Int) :
    (∀ fold, flatten (buildStackItems text fold minimumFoldSize) = (lineSequence text).mapIdx stackLine) ∧
    (∀ prior run later, buildStackItems text true minimumFoldSize = prior ++ .foldedFrames run :: later →
      MaximalRun (flatten prior) run (flatten later) ∧ run.length ≥ minimumFoldSize ∧
      ∀ before longer after, stackLines text = before ++ longer ++ after → FrameworkRun longer →
        before <+: flatten prior → after <:+ flatten later → longer = run) ∧
    (∀ before run after, stackLines text = before ++ run ++ after → FrameworkRun run →
      run.length ≥ minimumFoldSize →
      (∀ start longer rest, stackLines text = start ++ longer ++ rest → FrameworkRun longer →
        start <+: before → rest <:+ after → longer = run) →
      FoldedAt (buildStackItems text true minimumFoldSize) before run after) ∧
    ∀ before run after, stackLines text = before ++ run ++ after → MaximalRun before run after →
      run.length ≥ minimumFoldSize → ∃ start extra, start ++ extra = before ∧
        FoldedAt (buildStackItems text true minimumFoldSize) start (extra ++ run) after := by
  have folds := buildStackItems_folds text minimumFoldSize
  refine ⟨fun fold => ?_, fun prior run later items => ?_, fun before run after split isRun long longest => ?_,
    fun before run after split maximal long => ?_⟩
  · cases fold with
    | false => exact flatten_lines
    | true => exact folds.flat
  · obtain ⟨maximal, long⟩ := (folds.folded _ _ _).mp ⟨prior, later, items, rfl, rfl⟩
    exact ⟨maximalRun_of_maximalIn maximal, long, fun _ _ _ split isRun starts ends =>
      maximal.eq_of_longer split (isRun_iff.mpr isRun) starts ends⟩
  · have maximal := RunRule.maximalIn_iff.mpr ⟨split, isRun_iff.mpr isRun,
      fun start longer rest same longerRun starts ends =>
        longest start longer rest same (isRun_iff.mp longerRun) starts ends⟩
    exact (folds.folded before run after).mpr ⟨maximal, long⟩
  · obtain ⟨start, extra, whole, widest⟩ := maximal.exists_maximalIn
    rw [← split] at widest
    refine ⟨start, extra, whole, (folds.folded _ _ _).mpr ⟨widest, ?_⟩⟩
    rw [List.length_append]
    push_cast
    omega

end CrashCatcher.Manager.StackFrames
