import CrashCatcher.Lib.Text
import Mathlib.Data.List.SplitBy

namespace CrashCatcher.Lib.Text

def Solid (s : Str) : Prop := ∀ c ∈ s, isWhitespace c = false

instance (s : Str) : Decidable (Solid s) := List.decidableBAll (fun c => isWhitespace c = false) s

theorem solid_append {s t : Str} : Solid (s ++ t) ↔ Solid s ∧ Solid t := List.forall_mem_append

theorem solid_takeWhile (s : Str) : Solid (s.takeWhile fun c => !isWhitespace c) := by
  intro c member
  simpa using List.mem_takeWhile_imp member

def Blank (s : Str) : Prop := ∀ c ∈ s, isWhitespace c = true

theorem blank_rtakeWhile (s : Str) : Blank (s.rtakeWhile isWhitespace) := fun _ member =>
  List.mem_rtakeWhile_imp member

theorem blank_takeWhile (s : Str) : Blank (s.takeWhile isWhitespace) := fun _ member =>
  List.mem_takeWhile_imp member

theorem isChain_whitespace {s : Str} {b : Bool} (same : ∀ c ∈ s, isWhitespace c = b) :
    s.IsChain fun c d => (isWhitespace c == isWhitespace d) = true := by
  induction s with
  | nil => exact List.isChain_nil
  | cons c s ih =>
      have rest := ih fun d member => same d (List.mem_cons_of_mem c member)
      refine List.IsChain.cons rest ?_
      intro d head
      rw [same c List.mem_cons_self, same d (List.mem_cons_of_mem c (List.mem_of_mem_head? head))]
      simp

@[simp] theorem splitWhitespace_nil : splitWhitespace [] = [] := rfl

theorem splitWhitespace_append {s t : Str}
    (apart : ∀ c ∈ s.getLast?, ∀ d ∈ t.head?, isWhitespace c ≠ isWhitespace d) :
    splitWhitespace (s ++ t) = splitWhitespace s ++ splitWhitespace t := by
  simp only [splitWhitespace]
  rw [List.splitBy_append (by simpa using apart), List.filter_append]

theorem splitWhitespace_of_blank {s : Str} (blank : Blank s) : splitWhitespace s = [] := by
  rcases eq_or_ne s [] with rfl | nonempty
  · rfl
  · rw [splitWhitespace, List.splitBy_of_isChain nonempty (isChain_whitespace blank), List.filter_singleton]
    have all : s.all isWhitespace = true := List.all_eq_true.mpr blank
    simp [all]

theorem splitWhitespace_of_solid {s : Str} (nonempty : s ≠ []) (solid : Solid s) : splitWhitespace s = [s] := by
  rw [splitWhitespace, List.splitBy_of_isChain nonempty (isChain_whitespace solid), List.filter_singleton]
  obtain ⟨c, member⟩ := List.exists_mem_of_ne_nil s nonempty
  have notAll : s.all isWhitespace = false := by
    rw [List.all_eq_false]
    exact ⟨c, member, by simp [solid c member]⟩
  simp [notAll]

theorem head?_dropWhile_not {p : Char → Bool} {s : Str} {c : Char} (head : c ∈ (s.dropWhile p).head?) :
    p c = false := by
  have found := List.head?_dropWhile_not p s
  rw [Option.mem_def.mp head] at found
  exact found

theorem splitWhitespace_dropWhile (s : Str) :
    splitWhitespace (s.dropWhile isWhitespace) = splitWhitespace s := by
  conv_rhs => rw [← List.takeWhile_append_dropWhile (p := isWhitespace) (l := s)]
  rw [splitWhitespace_append, splitWhitespace_of_blank (blank_takeWhile s), List.nil_append]
  intro c last d head
  rw [blank_takeWhile s c (List.mem_of_getLast? last), head?_dropWhile_not head]
  decide

theorem splitWhitespace_trimEnd (s : Str) : splitWhitespace (trimEnd s) = splitWhitespace s := by
  conv_rhs => rw [← List.rdropWhile_append_rtakeWhile (p := isWhitespace) (l := s)]
  rw [splitWhitespace_append, splitWhitespace_of_blank (blank_rtakeWhile s), List.append_nil, trimEnd]
  intro c last d head
  have blank := blank_rtakeWhile s d (List.mem_of_mem_head? head)
  have nonempty : s.rdropWhile isWhitespace ≠ [] := by
    intro none
    simp [none] at last
  have solid := List.rdropWhile_last_not isWhitespace s nonempty
  rw [List.getLast_of_getLast?_eq_some last] at solid
  rw [blank]
  exact solid

theorem splitWhitespace_trim (s : Str) : splitWhitespace (trim s) = splitWhitespace s := by
  rw [trim, trimStart, splitWhitespace_dropWhile, splitWhitespace_trimEnd]

theorem splitWhitespace_split (t : Str) : splitWhitespace t =
    splitWhitespace (t.takeWhile fun c => !isWhitespace c) ++
      splitWhitespace (t.dropWhile fun c => !isWhitespace c) := by
  conv_lhs => rw [← List.takeWhile_append_dropWhile (p := fun c => !isWhitespace c) (l := t)]
  apply splitWhitespace_append
  intro c last d head
  have blank := head?_dropWhile_not head
  rw [solid_takeWhile t c (List.mem_of_getLast? last)]
  simpa using blank

theorem splitWhitespace_solid_append {s : Str} (nonempty : s ≠ []) (solid : Solid s) (t : Str) :
    splitWhitespace (s ++ t) = (s ++ t.takeWhile fun c => !isWhitespace c) ::
      splitWhitespace (t.dropWhile fun c => !isWhitespace c) := by
  have word : Solid (s ++ t.takeWhile fun c => !isWhitespace c) := solid_append.mpr ⟨solid, solid_takeWhile t⟩
  have all : ∀ c ∈ s, (fun c => !isWhitespace c) c = true := fun c member => by simp [solid c member]
  rw [splitWhitespace_split, List.takeWhile_append_of_pos all, List.dropWhile_append_of_pos all,
    splitWhitespace_of_solid (by simp [nonempty]) word, List.singleton_append]

theorem splitWhitespace_blank_cons {c : Char} (white : isWhitespace c = true) (s : Str) :
    splitWhitespace (c :: s) = splitWhitespace s := by
  rw [← splitWhitespace_dropWhile, List.dropWhile_cons_of_pos white, splitWhitespace_dropWhile]

theorem splitWhitespace_solid_cons {s : Str} {c : Char} (nonempty : s ≠ []) (solid : Solid s)
    (white : isWhitespace c = true) (t : Str) : splitWhitespace (s ++ c :: t) = s :: splitWhitespace t := by
  have none : (c :: t).takeWhile (fun d => !isWhitespace d) = [] := List.takeWhile_cons_of_neg (by simp [white])
  have all : (c :: t).dropWhile (fun d => !isWhitespace d) = c :: t :=
    List.dropWhile_cons_of_neg (by simp [white])
  rw [splitWhitespace_solid_append nonempty solid, none, all, List.append_nil, splitWhitespace_blank_cons white]

theorem same_of_isChain {c : Char} {s : Str}
    (chain : (c :: s).IsChain fun c d => (isWhitespace c == isWhitespace d) = true) :
    ∀ d ∈ s, isWhitespace d = isWhitespace c := by
  induction s generalizing c with
  | nil => simp
  | cons d s ih =>
      obtain ⟨here, rest⟩ := List.isChain_cons_cons.mp chain
      have same : isWhitespace d = isWhitespace c := (beq_iff_eq.mp here).symm
      refine List.forall_mem_cons.mpr ⟨same, fun e member => ?_⟩
      rw [ih rest e member, same]

theorem solid_of_mem_splitWhitespace {s word : Str} (member : word ∈ splitWhitespace s) :
    word ≠ [] ∧ Solid word := by
  rw [splitWhitespace, List.mem_filter] at member
  obtain ⟨inside, some⟩ := member
  cases word with
  | nil => cases some
  | cons c word =>
      have same := same_of_isChain (List.isChain_of_mem_splitBy inside)
      cases white : isWhitespace c with
      | false => exact ⟨List.cons_ne_nil _ _,
          List.forall_mem_cons.mpr ⟨white, fun d here => (same d here).trans white⟩⟩
      | true =>
          have all : (c :: word).all isWhitespace = true := by
            rw [List.all_cons, white, Bool.true_and, List.all_eq_true]
            exact fun d here => (same d here).trans white
          rw [all] at some
          cases some

theorem subset_of_mem_splitWhitespace {s word : Str} (member : word ∈ splitWhitespace s) : word ⊆ s := by
  intro c inside
  rw [splitWhitespace, List.mem_filter] at member
  have whole : c ∈ (s.splitBy fun a b => isWhitespace a == isWhitespace b).flatten :=
    List.mem_flatten.mpr ⟨word, member.1, inside⟩
  rwa [List.flatten_splitBy] at whole

/-- No word of the text ends in `c`: every `c` has something solid behind it. -/
def NoWordEndsIn (c : Char) (s : Str) : Prop :=
  ∀ start rest, s = start ++ c :: rest → ∃ d ∈ rest.head?, isWhitespace d = false

theorem NoWordEndsIn.of_append {c : Char} {s t : Str} (none : NoWordEndsIn c (s ++ t)) : NoWordEndsIn c t := by
  intro start rest split
  exact none (s ++ start) rest (by rw [split, List.append_assoc])

theorem NoWordEndsIn.append {c : Char} {s t : Str} (apart : c ∉ s) (none : NoWordEndsIn c t) :
    NoWordEndsIn c (s ++ t) := by
  intro start rest split
  rcases List.append_eq_append_iff.mp split with ⟨more, rfl, found⟩ | ⟨more, rfl, found⟩
  · exact none more rest found
  · cases more with
    | nil => exact none [] rest found.symm
    | cons d more =>
        obtain ⟨rfl, -⟩ := List.cons.inj found
        exact absurd (by simp) apart

theorem NoWordEndsIn.of_notMem {c : Char} {s : Str} (apart : c ∉ s) : NoWordEndsIn c s := by
  rintro start rest rfl
  exact absurd (by simp) apart

theorem NoWordEndsIn.getLast? {c : Char} {s : Str} (none : NoWordEndsIn c s) :
    ∀ word ∈ splitWhitespace s, word.getLast? ≠ some c := by
  intro word member
  rw [← splitWhitespace_dropWhile] at member
  have whole := List.takeWhile_append_dropWhile (p := isWhitespace) (l := s)
  rw [← whole] at none
  replace none := none.of_append
  generalize trimmed : s.dropWhile isWhitespace = t at member none
  cases t with
  | nil => simp at member
  | cons d t =>
      have solid : isWhitespace d = false := head?_dropWhile_not (s := s) (by simp [trimmed])
      have single : Solid [d] := by simpa [Solid] using solid
      have first := splitWhitespace_solid_append (List.cons_ne_nil d []) single t
      rw [List.singleton_append] at first
      rw [first, List.mem_cons] at member
      have parts := List.takeWhile_append_dropWhile (p := fun c => !isWhitespace c) (l := t)
      rcases member with rfl | later
      · intro last
        obtain ⟨start, closed⟩ := List.getLast?_eq_some_iff.mp last
        have split : d :: t = start ++ c :: t.dropWhile fun c => !isWhitespace c := by
          rw [List.append_cons, ← closed, List.singleton_append, List.cons_append, parts]
        obtain ⟨e, head, found⟩ := none start _ split
        have blank := head?_dropWhile_not head
        simp [found] at blank
      · rw [← parts, ← List.cons_append] at none
        have shorter : (t.dropWhile fun c => !isWhitespace c).length < s.length := by
          have suffix := (List.dropWhile_suffix (l := t) fun c => !isWhitespace c).length_le
          have cut := (List.dropWhile_suffix (l := s) isWhitespace).length_le
          rw [trimmed, List.length_cons] at cut
          omega
        exact NoWordEndsIn.getLast? none.of_append word later
termination_by s.length

section Paths
variable {c : Char}

def upToLast (c : Char) (s : Str) : Str := s.rdropWhile (· != c)

theorem upToLast_append_afterLast (s : Str) : upToLast c s ++ afterLast c s = s :=
  List.rdropWhile_append_rtakeWhile

theorem upToLast_cases (s : Str) : upToLast c s = [] ∨ ∃ start, upToLast c s = start ++ [c] := by
  rcases List.eq_nil_or_concat (upToLast c s) with none | ⟨start, last, text⟩
  · exact .inl none
  rw [List.concat_eq_append] at text
  have nonempty : s.rdropWhile (· != c) ≠ [] := by
    rw [← upToLast, text]
    simp
  have stops := List.rdropWhile_last_not (· != c) s nonempty
  have same : (s.rdropWhile (· != c)).getLast nonempty = last := by
    apply List.getLast_of_getLast?_eq_some
    rw [← upToLast, text, List.getLast?_concat]
  rw [same] at stops
  have here : last = c := by simpa using stops
  exact .inr ⟨start, by rw [text, here]⟩

theorem afterLast_append (s t : Str) : afterLast c (s ++ c :: t) = afterLast c t := by
  induction t using List.reverseRecOn with
  | nil => simp [afterLast]
  | append_singleton t d ih =>
      simp only [afterLast] at ih
      rw [afterLast, ← List.cons_append, ← List.append_assoc, List.rtakeWhile_concat, ih, afterLast,
        List.rtakeWhile_concat]

theorem notMem_afterLast {s : Str} : c ∉ afterLast c s := by
  intro member
  have differs := List.mem_rtakeWhile_imp member
  simp at differs

theorem exists_append_afterLast (member : c ∈ s) : ∃ start, s = start ++ c :: afterLast c s := by
  have whole := upToLast_append_afterLast (c := c) s
  rcases upToLast_cases (c := c) s with none | ⟨start, text⟩
  · rw [none, List.nil_append] at whole
    rw [← whole] at member
    exact absurd member notMem_afterLast
  · exact ⟨start, by rw [text, List.append_assoc] at whole; exact whole.symm⟩

theorem afterLast_eq_self {s : Str} (apart : c ∉ s) : afterLast c s = s := by
  rw [afterLast, List.rtakeWhile_eq_self_iff]
  intro d member
  have differs : d ≠ c := fun same => apart (same ▸ member)
  simpa using differs

theorem afterLast_append_of_notMem {t : Str} (apart : c ∉ t) (s : Str) :
    afterLast c (s ++ t) = afterLast c s ++ t := by
  by_cases member : c ∈ s
  · obtain ⟨start, split⟩ := exists_append_afterLast member
    have outside : c ∉ afterLast c s ++ t := fun inside =>
      (List.mem_append.mp inside).elim notMem_afterLast apart
    conv_lhs => rw [split, List.append_assoc, List.cons_append, afterLast_append, afterLast_eq_self outside]
  · have outside : c ∉ s ++ t := fun inside => (List.mem_append.mp inside).elim member apart
    rw [afterLast_eq_self member, afterLast_eq_self outside]

theorem afterLast_ne_nil {s : Str} (nonempty : s ≠ []) (open' : s.getLast? ≠ some c) : afterLast c s ≠ [] := by
  intro none
  have closed := List.rtakeWhile_eq_nil_iff.mp none nonempty
  rw [List.getLast?_eq_some_getLast nonempty] at open'
  exact closed (by simpa using open')

theorem contains_of_contains_append {needle s : Str} (t : Str) (held : contains needle s = true) :
    contains needle (s ++ t) = true := by
  simp only [contains, List.any_eq_true, List.mem_tails] at held ⊢
  obtain ⟨rest, suffix, found⟩ := held
  obtain ⟨start, rfl⟩ := suffix
  refine ⟨rest ++ t, ⟨start, (List.append_assoc ..).symm⟩, ?_⟩
  rw [List.isPrefixOf_iff_prefix] at found ⊢
  exact found.trans (List.prefix_append rest t)

theorem contains_append_of_contains {needle s : Str} (t : Str) (held : contains needle s = true) :
    contains needle (t ++ s) = true := by
  simp only [contains, List.any_eq_true, List.mem_tails] at held ⊢
  obtain ⟨rest, suffix, found⟩ := held
  exact ⟨rest, suffix.trans (List.suffix_append t s), found⟩

end Paths
end CrashCatcher.Lib.Text
