import CrashCatcher.Lib.Scan

namespace CrashCatcher.Lib.Text

def stripReturn (line : Str) : Str := (stripSuffix ['\r'] line).getD line

/-- `str::lines`. -/
def lines (s : Str) : List Str :=
  let parts := s.splitOn '\n'
  parts.dropLast.map stripReturn ++ (parts.getLast?.filter fun line => !line.isEmpty).toList

def replaceCrlf : Str → Str
  | [] => []
  | c :: s => if c = '\r' ∧ s.head? = some '\n' then replaceCrlf s else c :: replaceCrlf s

def joinLines (lineEnd : Str) (ended : Bool) : List Str → Str
  | [] => []
  | [line] => if ended then line ++ lineEnd else line
  | line :: rest => line ++ lineEnd ++ joinLines lineEnd ended rest

def IsLine (line : Str) : Prop := '\n' ∉ line ∧ line.getLast? ≠ some '\r'

theorem IsLine.append {start line : Str} (apart : '\n' ∉ start) (single : IsLine line) (nonempty : line ≠ []) :
    IsLine (start ++ line) := by
  refine ⟨List.not_mem_append apart single.1, ?_⟩
  rw [List.getLast?_append_of_ne_nil _ nonempty]
  exact single.2

theorem splitOn_append {c : Char} {part : Str} (apart : c ∉ part) (s : Str) :
    (part ++ c :: s).splitOn c = part :: s.splitOn c := by
  have differs : ∀ d ∈ part, (d == c) = false :=
    fun d member => beq_false_of_ne fun same => apart (same ▸ member)
  rw [List.splitOn_eq_splitOnP, List.splitOnP_append_cons_of_forall_mem differs c (beq_self_eq_true c),
    List.splitOn_eq_splitOnP]

theorem before_append {c : Char} {part : Str} (apart : c ∉ part) (s : Str) :
    before c (part ++ s) = part ++ before c s :=
  List.takeWhile_append_of_pos fun _ member => bne_iff_ne.mpr fun same => apart (same ▸ member)

theorem before_append_cons {c : Char} {part : Str} (apart : c ∉ part) (s : Str) :
    before c (part ++ c :: s) = part := by
  rw [before_append apart, before, List.takeWhile_cons_of_neg (by simp), List.append_nil]

theorem before_cons_self (c : Char) (s t : Str) : before c (s ++ c :: t) = before c s := by
  induction s with
  | nil => rw [List.nil_append, before, List.takeWhile_cons_of_neg (by simp), before, List.takeWhile_nil]
  | cons d s ih =>
      rw [List.cons_append, before, List.takeWhile_cons, before, List.takeWhile_cons]
      split_ifs
      · exact congrArg (d :: ·) ih
      · rfl

theorem before_eq_self {c : Char} {s : Str} (apart : c ∉ s) : before c s = s := by
  have whole := before_append apart []
  rwa [List.append_nil, show before c [] = [] from rfl, List.append_nil] at whole

theorem notMem_before (c : Char) (s : Str) : c ∉ before c s := fun member => by
  simpa using List.mem_takeWhile_imp member

theorem splitOn_eq_before (c : Char) (s : Str) : ∃ rest, s.splitOn c = before c s :: rest := by
  by_cases member : c ∈ s
  · obtain ⟨part, rest, rfl, apart⟩ := List.eq_append_cons_of_mem member
    exact ⟨rest.splitOn c, by rw [splitOn_append apart, before_append_cons apart]⟩
  · refine ⟨[], ?_⟩
    have differs : ∀ d ∈ s, (d == c) = false :=
      fun d inside => beq_false_of_ne fun same => member (same ▸ inside)
    rw [List.splitOn_eq_splitOnP, List.splitOnP_eq_singleton differs, before_eq_self member]

@[simp] theorem lines_nil : lines [] = [] := rfl

theorem lines_append {line : Str} (single : '\n' ∉ line) (s : Str) :
    lines (line ++ '\n' :: s) = stripReturn line :: lines s := by
  obtain ⟨first, rest, split⟩ := List.exists_cons_of_ne_nil (List.splitOn_ne_nil '\n' s)
  rw [lines, splitOn_append single, lines, split, List.dropLast_cons_of_ne_nil (by simp), List.map_cons,
    List.getLast?_cons_cons]
  rfl

theorem replaceCrlf_newline (s : Str) : replaceCrlf ('\n' :: s) = '\n' :: replaceCrlf s := by
  rw [replaceCrlf, if_neg fun both => absurd both.1 (by decide)]

theorem replaceCrlf_return (s : Str) : replaceCrlf ('\r' :: '\n' :: s) = '\n' :: replaceCrlf s := by
  rw [replaceCrlf, if_pos ⟨rfl, rfl⟩, replaceCrlf_newline]

theorem stripReturn_of_isLine {line : Str} (single : IsLine line) : stripReturn line = line := by
  rw [stripReturn, stripSuffix, if_neg]
  · rfl
  · intro suffix
    obtain ⟨start, whole⟩ := List.isSuffixOf_iff_suffix.mp suffix
    rw [← whole] at single
    exact single.2 List.getLast?_concat

theorem replaceCrlf_append {line : Str} (single : IsLine line) (s : Str) :
    replaceCrlf (line ++ s) = line ++ replaceCrlf s := by
  induction line with
  | nil => rfl
  | cons c line ih =>
      cases line with
      | nil =>
          have apart : c ≠ '\r' := fun same => single.2 (by rw [same]; rfl)
          rw [List.cons_append, replaceCrlf, if_neg fun both => apart both.1]
          rfl
      | cons d line =>
          obtain ⟨apart, last⟩ := single
          rw [List.mem_cons, not_or] at apart
          have later : IsLine (d :: line) := ⟨apart.2, by rwa [List.getLast?_cons_cons] at last⟩
          have newline : d ≠ '\n' := fun same => apart.2 (List.mem_cons.mpr (.inl same.symm))
          rw [List.cons_append, replaceCrlf, if_neg fun both => newline (Option.some.inj both.2), ih later]
          rfl

section
variable {rest : List Str}

theorem joinLines_cons {lineEnd : Str} {ended : Bool} (line : Str) (more : rest ≠ []) :
    joinLines lineEnd ended (line :: rest) = line ++ lineEnd ++ joinLines lineEnd ended rest := by
  obtain ⟨next, rest, rfl⟩ := List.exists_cons_of_ne_nil more
  rfl

theorem replaceCrlf_joinLines {lineEnd : Str} (ends : lineEnd = ['\n'] ∨ lineEnd = ['\r', '\n']) (ended : Bool)
    (single : ∀ line ∈ rest, IsLine line) :
    replaceCrlf (joinLines lineEnd ended rest) = joinLines ['\n'] ended rest := by
  have newline : ∀ s, replaceCrlf (lineEnd ++ s) = '\n' :: replaceCrlf s := by
    intro s
    rcases ends with rfl | rfl
    · exact replaceCrlf_newline s
    · exact replaceCrlf_return s
  induction rest with
  | nil => rfl
  | cons line rest ih =>
      obtain ⟨here, later⟩ := List.forall_mem_cons.mp single
      by_cases more : rest = []
      · subst more
        cases ended with
        | false =>
            have text := replaceCrlf_append here []
            rw [List.append_nil] at text
            rw [joinLines, joinLines, if_neg Bool.false_ne_true, if_neg Bool.false_ne_true, text]
            exact List.append_nil line
        | true =>
            have text := newline []
            rw [List.append_nil] at text
            rw [joinLines, joinLines, if_pos rfl, if_pos rfl, replaceCrlf_append here, text]
            rfl
      · rw [joinLines_cons line more, joinLines_cons line more, List.append_assoc, replaceCrlf_append here,
          newline, ih later, List.append_assoc]
        rfl

theorem lines_joinLines (ended : Bool) (single : ∀ line ∈ rest, IsLine line)
    (last : ended = false → rest.getLast? ≠ some []) : lines (joinLines ['\n'] ended rest) = rest := by
  induction rest with
  | nil => rfl
  | cons line rest ih =>
      obtain ⟨here, later⟩ := List.forall_mem_cons.mp single
      by_cases more : rest = []
      · subst more
        cases ended with
        | false =>
            have nonempty : line ≠ [] := fun empty => last rfl (by rw [empty]; rfl)
            have differs : ∀ c ∈ line, (c == '\n') = false := fun c member =>
              beq_false_of_ne fun same => here.1 (same ▸ member)
            rw [joinLines, if_neg Bool.false_ne_true, lines, List.splitOn_eq_splitOnP,
              List.splitOnP_eq_singleton differs]
            simp [nonempty]
        | true =>
            rw [joinLines, if_pos rfl, lines_append here.1, stripReturn_of_isLine here, lines_nil]
      · have last' : ended = false → rest.getLast? ≠ some [] := by
          obtain ⟨next, rest, rfl⟩ := List.exists_cons_of_ne_nil more
          rwa [List.getLast?_cons_cons] at last
        rw [joinLines_cons line more, List.append_assoc, List.singleton_append, lines_append here.1,
          stripReturn_of_isLine here, ih later last']

end
end CrashCatcher.Lib.Text
