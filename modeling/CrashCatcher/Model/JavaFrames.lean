import CrashCatcher.Lib.Lines
import CrashCatcher.Lib.Numerals
import CrashCatcher.Lib.Trim
import CrashCatcher.Model.Fingerprint

namespace CrashCatcher.Model
open Lib Lib.Text

def ClosesParenthesis (s : Str) : Prop := '(' ∈ s ∧ ')' ∈ afterLast '(' s

def bareFrame (s : Str) : Str := trimStart ((List.isPrefixOf? "at ".toList (trimStart s)).getD (trimStart s))

theorem bareFrame_spec (s : Str) : ∃ dropped, '(' ∉ dropped ∧ s = dropped ++ bareFrame s := by
  obtain ⟨first, blank, whole⟩ := trimStart_spec s
  have apart : ∀ {b : Str}, Blank b → '(' ∉ b := fun blank member => by cases blank '(' member
  cases found : List.isPrefixOf? "at ".toList (trimStart s) with
  | none =>
      obtain ⟨second, blank', rest⟩ := trimStart_spec (trimStart s)
      refine ⟨first ++ second, List.not_mem_append (apart blank) (apart blank'), ?_⟩
      rw [bareFrame, found, Option.getD_none, List.append_assoc, ← rest, ← whole]
  | some rest =>
      obtain ⟨second, blank', whole'⟩ := trimStart_spec rest
      refine ⟨first ++ ("at ".toList ++ second), ?_, ?_⟩
      · exact List.not_mem_append (apart blank) (List.not_mem_append (by decide) (apart blank'))
      · rw [bareFrame, found, Option.getD_some, List.append_assoc, List.append_assoc, ← whole',
          List.append_eq_of_isPrefixOf?_eq_some found, ← whole]

theorem closesParenthesis_append {dropped : Str} (apart : '(' ∉ dropped) (s : Str) :
    ClosesParenthesis (dropped ++ s) ↔ ClosesParenthesis s := by
  by_cases member : '(' ∈ s
  · obtain ⟨start, text⟩ := exists_append_afterLast member
    have last : afterLast '(' (dropped ++ s) = afterLast '(' s := by
      conv_lhs => rw [text, ← List.append_assoc]
      rw [afterLast_append, afterLast_eq_self notMem_afterLast]
    rw [ClosesParenthesis, ClosesParenthesis, last, List.mem_append]
    exact and_congr_left fun _ => ⟨fun _ => member, .inr⟩
  · have neither : '(' ∉ dropped ++ s := List.not_mem_append apart member
    exact ⟨fun closes => absurd closes.1 neither, fun closes => absurd closes.1 member⟩

theorem closesParenthesis_bareFrame (s : Str) : ClosesParenthesis (bareFrame s) ↔ ClosesParenthesis s := by
  obtain ⟨dropped, apart, whole⟩ := bareFrame_spec s
  rw [← closesParenthesis_append apart, ← whole]

section
variable {file : Str}

theorem stripJavaFramePrefix_line {shown : Str} (solid : Solid shown) :
    stripJavaFramePrefix (file ++ ':' :: shown) = bareFrame file ++ ':' :: shown := by
  have solid' : Solid (':' :: shown) := List.forall_mem_cons.mpr ⟨by decide, solid⟩
  have notBlank : ¬ Blank (':' :: shown) := fun blank => by cases blank ':' List.mem_cons_self
  have ended : trimEnd (':' :: shown) = ':' :: shown := by
    have whole := trimEnd_append solid' []
    rwa [List.append_nil, show trimEnd [] = [] from rfl, List.append_nil] at whole
  have trimmed : trim (file ++ ':' :: shown) = trimStart file ++ ':' :: shown := by
    rw [trim, trimEnd_append_of_not_blank notBlank, ended, trimStart_append_cons (by decide)]
  rw [stripJavaFramePrefix, trimmed, isPrefixOf?_append_cons (by decide), bareFrame]
  cases List.isPrefixOf? "at ".toList (trimStart file) with
  | none => exact trimStart_append_cons (by decide) _ _
  | some rest => exact trimStart_append_cons (by decide) _ _

theorem notMem_line {c : Char} {shown : Str} (apart : c ≠ ':') (plain : c ∉ shown) : c ∉ ':' :: shown := by
  rw [List.mem_cons, not_or]
  exact ⟨apart, plain⟩

theorem rsplitOnce_line {s : Str} (opens : '(' ∈ s) : ∃ start, ∀ shown, '(' ∉ shown →
    rsplitOnce '(' (s ++ ':' :: shown) = some (start, afterLast '(' s ++ ':' :: shown) := by
  obtain ⟨start, text⟩ := exists_append_afterLast opens
  refine ⟨start, fun shown plain => ?_⟩
  conv_lhs => rw [text, List.append_assoc, List.cons_append]
  exact rsplitOnce_append_cons (List.not_mem_append notMem_afterLast (notMem_line (by decide) plain)) start

theorem normalizeJavaFrame_closed (closes : ClosesParenthesis file) :
    ∃ normal, ∀ shown, Solid shown → '(' ∉ shown → normalizeJavaFrame (file ++ ':' :: shown) = normal := by
  obtain ⟨opens, shuts⟩ := (closesParenthesis_bareFrame file).mpr closes
  obtain ⟨start, outer⟩ := rsplitOnce_line opens
  obtain ⟨inside, rest, split, apart⟩ := List.eq_append_cons_of_mem shuts
  refine ⟨start ++ '(' :: before ':' inside ++ [')'], fun shown solid plain => ?_⟩
  have inner : splitOnce ')' (afterLast '(' (bareFrame file) ++ ':' :: shown) =
      some (inside, rest ++ ':' :: shown) := by
    rw [split, List.append_assoc, List.cons_append, splitOnce_append apart, splitOnce, if_pos rfl,
      Option.map_some, List.append_nil]
  rw [normalizeJavaFrame, stripJavaFramePrefix_line solid, outer shown plain]
  dsimp only
  rw [inner]

theorem normalizeJavaFrame_open (opens : ¬ ClosesParenthesis file) {shown : Str} (solid : Solid shown)
    (plain : '(' ∉ shown) (plain' : ')' ∉ shown) :
    normalizeJavaFrame (file ++ ':' :: shown) = bareFrame file ++ ':' :: shown := by
  rw [← closesParenthesis_bareFrame] at opens
  rw [normalizeJavaFrame, stripJavaFramePrefix_line solid]
  by_cases member : '(' ∈ bareFrame file
  · obtain ⟨start, outer⟩ := rsplitOnce_line member
    have never : ')' ∉ afterLast '(' (bareFrame file) ++ ':' :: shown :=
      List.not_mem_append (fun shuts => opens ⟨member, shuts⟩) (notMem_line (by decide) plain')
    rw [outer shown plain]
    dsimp only
    rw [splitOnce_eq_none never]
  · rw [rsplitOnce_eq_none (List.not_mem_append member (notMem_line (by decide) plain))]

/-- The normalizer tells two lines of a file apart, but where the file's name puts them into parentheses. -/
theorem normalizeJavaFrame_line_eq_iff (line line' : Int) :
    normalizeJavaFrame (file ++ ':' :: (toString line).toList) =
      normalizeJavaFrame (file ++ ':' :: (toString line').toList) ↔ line = line' ∨ ClosesParenthesis file := by
  have solid : ∀ n : Int, Solid (toString n).toList := solid_toString_int
  have plain : ∀ n : Int, '(' ∉ (toString n).toList := notMem_toString_int (by decide) (by decide)
  have plain' : ∀ n : Int, ')' ∉ (toString n).toList := notMem_toString_int (by decide) (by decide)
  by_cases closes : ClosesParenthesis file
  · obtain ⟨normal, drops⟩ := normalizeJavaFrame_closed closes
    rw [drops _ (solid line) (plain line), drops _ (solid line') (plain line')]
    exact ⟨fun _ => .inr closes, fun _ => rfl⟩
  · rw [normalizeJavaFrame_open closes (solid line) (plain line) (plain' line),
      normalizeJavaFrame_open closes (solid line') (plain line') (plain' line')]
    refine ⟨fun same => .inl ?_, fun same => ?_⟩
    · exact Decimal.toString_int_injective (List.cons.inj (List.append_cancel_left same)).2
    · rcases same with rfl | closes'
      · rfl
      · exact absurd closes' closes

end

end CrashCatcher.Model
