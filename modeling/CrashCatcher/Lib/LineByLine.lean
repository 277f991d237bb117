import CrashCatcher.Lib.Lines
import Mathlib.Data.List.Forall2

namespace CrashCatcher.Lib.Text

/-- Two texts of equally many lines, each line related to the other's. -/
inductive LineByLine (R : Str → Str → Prop) : Str → Str → Prop where
  | last {line line' : Str} (related : R line line') (single : '\n' ∉ line) (single' : '\n' ∉ line') :
      LineByLine R line line'
  | line {line line' s s' : Str} (related : R line line') (single : '\n' ∉ line) (single' : '\n' ∉ line')
      (rest : LineByLine R s s') : LineByLine R (line ++ '\n' :: s) (line' ++ '\n' :: s')

theorem stripReturn_subset (line : Str) : stripReturn line ⊆ line := by
  rw [stripReturn, stripSuffix]
  split_ifs
  · exact List.take_subset _ _
  · exact fun _ member => member

theorem stripReturn_of_last {line : Str} (last : line.getLast? ≠ some '\r') : stripReturn line = line := by
  rw [stripReturn, stripSuffix, if_neg]
  · rfl
  · intro suffix
    obtain ⟨start, whole⟩ := List.isSuffixOf_iff_suffix.mp suffix
    rw [← whole] at last
    exact last List.getLast?_concat

theorem stripReturn_concat (line : Str) : stripReturn (line ++ ['\r']) = line := by
  rw [stripReturn, stripSuffix_append]
  rfl

theorem stripReturn_append {line : Str} (last : line.getLast? ≠ some '\r') (s : Str) :
    stripReturn (line ++ s) = line ++ stripReturn s := by
  rcases List.eq_nil_or_concat s with rfl | ⟨start, c, rfl⟩
  · rw [List.append_nil, stripReturn_of_last last]
    exact (List.append_nil line).symm
  · rw [List.concat_eq_append, ← List.append_assoc]
    by_cases returned : c = '\r'
    · rw [returned, stripReturn_concat, stripReturn_concat]
    · have ends : ∀ t : Str, (t ++ [c]).getLast? ≠ some '\r' := fun t => by
        rw [List.getLast?_concat]
        exact fun same => returned (Option.some.inj same)
      rw [stripReturn_of_last (ends _), stripReturn_of_last (ends _), List.append_assoc]

theorem replaceCrlf_append_of_head {line s : Str} (single : '\n' ∉ line) (apart : s.head? ≠ some '\n') :
    replaceCrlf (line ++ s) = line ++ replaceCrlf s := by
  induction line with
  | nil => rfl
  | cons c line ih =>
      rw [List.mem_cons, not_or] at single
      have head : (line ++ s).head? ≠ some '\n' := by
        cases line with
        | nil => exact apart
        | cons d line =>
            intro same
            exact single.2 (List.mem_cons.mpr (.inl (Option.some.inj same).symm))
      rw [List.cons_append, replaceCrlf, if_neg fun both => head both.2, ih single.2]
      rfl

theorem replaceCrlf_line {line : Str} (single : '\n' ∉ line) (s : Str) :
    replaceCrlf (line ++ '\n' :: s) = stripReturn line ++ '\n' :: replaceCrlf s := by
  rcases List.eq_nil_or_concat line with rfl | ⟨start, c, rfl⟩
  · exact replaceCrlf_newline s
  · rw [List.concat_eq_append] at single ⊢
    have start' : '\n' ∉ start := fun member => single (List.mem_append_left _ member)
    by_cases ended : c = '\r'
    · subst ended
      rw [stripReturn_concat, List.append_assoc]
      have head : (['\r'] ++ '\n' :: s).head? ≠ some '\n' := by simp
      rw [replaceCrlf_append_of_head start' head]
      exact congrArg (start ++ ·) (replaceCrlf_return s)
    · have isLine : IsLine (start ++ [c]) := ⟨single, by simpa using ended⟩
      rw [replaceCrlf_append isLine, stripReturn_of_isLine isLine, replaceCrlf_newline]

theorem replaceCrlf_last {line : Str} (single : '\n' ∉ line) : replaceCrlf line = line := by
  have whole := replaceCrlf_append_of_head single (s := []) (by simp)
  rwa [List.append_nil, show replaceCrlf [] = [] from rfl, List.append_nil] at whole

theorem lines_last {line : Str} (single : '\n' ∉ line) : lines line = if line = [] then [] else [line] := by
  have whole : line.splitOn '\n' = [line] := by
    have differs : ∀ d ∈ line, (d == '\n') = false := fun d inside =>
      beq_false_of_ne fun same => single (same ▸ inside)
    rw [List.splitOn_eq_splitOnP, List.splitOnP_eq_singleton differs]
  rw [lines, whole]
  by_cases empty : line = [] <;> simp [empty]

namespace LineByLine
variable {R : Str → Str → Prop} {s s' : Str}

theorem replaceCrlf (strips : ∀ {line line'}, R line line' → R (stripReturn line) (stripReturn line'))
    (texts : LineByLine R s s') : LineByLine R (Text.replaceCrlf s) (Text.replaceCrlf s') := by
  induction texts with
  | last related single single' =>
      rw [replaceCrlf_last single, replaceCrlf_last single']
      exact .last related single single'
  | line related single single' _ ih =>
      rw [replaceCrlf_line single, replaceCrlf_line single']
      exact .line (strips related) (fun member => single (stripReturn_subset _ member))
        (fun member => single' (stripReturn_subset _ member)) ih

theorem lines (strips : ∀ {line line'}, R line line' → R (stripReturn line) (stripReturn line'))
    (empty : ∀ {line line'}, R line line' → (line = [] ↔ line' = [])) (texts : LineByLine R s s') :
    List.Forall₂ R (Text.lines s) (Text.lines s') := by
  induction texts with
  | @last line _ related single single' =>
      rw [lines_last single, lines_last single']
      by_cases none : line = []
      · rw [if_pos none, if_pos ((empty related).mp none)]
        exact .nil
      · rw [if_neg none, if_neg fun none' => none ((empty related).mpr none')]
        exact .cons related .nil
  | line related single single' _ ih =>
      rw [lines_append single, lines_append single']
      exact .cons (strips related) ih

end LineByLine
end CrashCatcher.Lib.Text
