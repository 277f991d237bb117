import CrashCatcher.Lib.Words

namespace CrashCatcher.Lib.Text

theorem trimEnd_append {s : Str} (solid : Solid s) (t : Str) : trimEnd (s ++ t) = s ++ trimEnd t := by
  induction t using List.reverseRecOn with
  | nil =>
      rw [List.append_nil, trimEnd, List.rdropWhile_eq_self_iff.mpr]
      · simp [trimEnd]
      · intro here
        simp [solid _ (List.getLast_mem here)]
  | append_singleton t c ih =>
      rw [trimEnd, ← List.append_assoc, List.rdropWhile_concat, trimEnd, List.rdropWhile_concat]
      split_ifs
      · exact ih
      · rw [List.append_assoc]

theorem trim_append {s : Str} (nonempty : s ≠ []) (solid : Solid s) (t : Str) :
    trim (s ++ t) = s ++ trimEnd t := by
  rw [trim, trimEnd_append solid, trimStart]
  obtain ⟨c, s, rfl⟩ := List.exists_cons_of_ne_nil nonempty
  rw [List.cons_append, List.dropWhile_cons_of_neg]
  simp [solid c List.mem_cons_self]

theorem trim_subset (s : Str) : trim s ⊆ s := fun _ member =>
  (List.rdropWhile_prefix _ s).subset ((List.dropWhile_suffix _).subset member)

theorem length_trim_le (s : Str) : (trim s).length ≤ s.length :=
  (List.dropWhile_suffix _).length_le.trans (List.rdropWhile_prefix _ s).length_le

theorem trimEnd_blank {s b : Str} (blank : Blank b) : trimEnd (s ++ b) = trimEnd s := by
  induction b using List.reverseRecOn with
  | nil => rw [List.append_nil]
  | append_singleton b c ih =>
      obtain ⟨inner, last⟩ := List.forall_mem_append.mp blank
      rw [← List.append_assoc, trimEnd, List.rdropWhile_concat_pos _ _ _ (last c (List.mem_singleton_self c))]
      exact ih inner

theorem trimStart_blank {b : Str} (blank : Blank b) (s : Str) : trimStart (b ++ s) = trimStart s :=
  List.dropWhile_append_of_pos blank

theorem trimStart_spec (s : Str) : ∃ blank, Blank blank ∧ s = blank ++ trimStart s :=
  ⟨s.takeWhile isWhitespace, blank_takeWhile s, List.takeWhile_append_dropWhile.symm⟩

theorem trimEnd_trimEnd (s : Str) : trimEnd (trimEnd s) = trimEnd s := List.rdropWhile_idempotent _ _

theorem trim_trimEnd (s : Str) : trim (trimEnd s) = trim s := by rw [trim, trimEnd_trimEnd, trim]

theorem trimEnd_eq_nil_iff {s : Str} : trimEnd s = [] ↔ Blank s := List.rdropWhile_eq_nil_iff

theorem trimEnd_append_of_not_blank {s : Str} (solid : ¬ Blank s) (t : Str) :
    trimEnd (t ++ s) = t ++ trimEnd s := by
  induction s using List.reverseRecOn with
  | nil => exact absurd (by simp [Blank]) solid
  | append_singleton s c ih =>
      rw [trimEnd, trimEnd, ← List.append_assoc]
      by_cases white : isWhitespace c = true
      · rw [List.rdropWhile_concat_pos _ _ _ white, List.rdropWhile_concat_pos _ _ _ white]
        refine ih fun blank => solid (List.forall_mem_append.mpr ⟨blank, List.forall_mem_singleton.mpr white⟩)
      · rw [List.rdropWhile_concat_neg _ _ _ white, List.rdropWhile_concat_neg _ _ _ white, List.append_assoc]

theorem trimEnd_concat {c : Char} (solid : isWhitespace c = false) (s : Str) : trimEnd (s ++ [c]) = s ++ [c] :=
  List.rdropWhile_concat_neg _ _ _ (by rw [solid]; exact Bool.false_ne_true)

theorem trimStart_append_cons {c : Char} (solid : isWhitespace c = false) (s t : Str) :
    trimStart (s ++ c :: t) = trimStart s ++ c :: t := by
  induction s with
  | nil =>
      rw [List.nil_append, trimStart, List.dropWhile_cons_of_neg (by rw [solid]; exact Bool.false_ne_true)]
      rfl
  | cons d s ih =>
      rw [List.cons_append, trimStart, List.dropWhile_cons, trimStart, List.dropWhile_cons]
      split_ifs
      · exact ih
      · rfl

theorem trim_of_blank {s : Str} (blank : Blank s) : trim s = [] := by
  rw [trim, trimEnd_eq_nil_iff.mpr blank]
  rfl

theorem trim_eq_nil_iff {s : Str} : trim s = [] ↔ Blank s := by
  refine ⟨fun none => ?_, trim_of_blank⟩
  by_contra solid
  rw [trim, trimStart, List.dropWhile_eq_nil_iff] at none
  have blank : Blank (trimEnd s ++ s.rtakeWhile isWhitespace) :=
    List.forall_mem_append.mpr ⟨none, blank_rtakeWhile s⟩
  rw [trimEnd, List.rdropWhile_append_rtakeWhile] at blank
  exact solid blank

theorem trim_blank_append {b : Str} (blank : Blank b) (s : Str) : trim (b ++ s) = trim s := by
  by_cases solid : Blank s
  · rw [trim_of_blank solid, trim_of_blank (List.forall_mem_append.mpr ⟨blank, solid⟩)]
  · rw [trim, trimEnd_append_of_not_blank solid, trimStart_blank blank, trim]

theorem trim_append_blank {b : Str} (blank : Blank b) (s : Str) : trim (s ++ b) = trim s := by
  rw [trim, trimEnd_blank blank, trim]

theorem trim_space (s : Str) : trim (' ' :: s) = trim s :=
  trim_blank_append (show Blank [' '] by simp [Blank, isWhitespace]) s

theorem trim_of_solid {s : Str} (solid : Solid s) : trim s = s := by
  by_cases empty : s = []
  · rw [empty]
    rfl
  · have whole := trim_append empty solid []
    rw [List.append_nil] at whole
    rw [whole]
    exact List.append_nil s

def Trimmed (s : Str) : Prop := trim s = s

instance (s : Str) : Decidable (Trimmed s) := inferInstanceAs (Decidable (trim s = s))

theorem trimmed_of_ends {s : Str} (first : ∀ c ∈ s.head?, isWhitespace c = false)
    (last : ∀ c ∈ s.getLast?, isWhitespace c = false) : Trimmed s := by
  have ends : trimEnd s = s := List.rdropWhile_eq_self_iff.mpr fun nonempty => by
    rw [last _ (List.getLast?_eq_some_getLast nonempty)]
    exact Bool.false_ne_true
  rw [Trimmed, trim, ends, trimStart]
  cases s with
  | nil => rfl
  | cons c s => rw [List.dropWhile_cons_of_neg (by rw [first c rfl]; exact Bool.false_ne_true)]

theorem trimEnd_of_trimmed {s : Str} (trimmed : Trimmed s) : trimEnd s = s := by
  have shorter : (trimEnd s).length ≤ s.length := (List.rdropWhile_prefix _ s).length_le
  have whole : s.length ≤ (trimEnd s).length := by
    conv_lhs => rw [← trimmed, trim]
    exact (List.dropWhile_suffix _).length_le
  exact (List.rdropWhile_prefix _ s).eq_of_length (Nat.le_antisymm shorter whole)

theorem head_of_trimmed {s : Str} (trimmed : Trimmed s) {c : Char} (head : c ∈ s.head?) :
    isWhitespace c = false := by
  rw [← trimmed, trim] at head
  exact head?_dropWhile_not head

theorem last_of_trimmed {s : Str} (trimmed : Trimmed s) {c : Char} (last : c ∈ s.getLast?) :
    isWhitespace c = false := by
  have nonempty : s.rdropWhile isWhitespace ≠ [] := fun none => by
    have whole := trimEnd_of_trimmed trimmed
    rw [trimEnd, none] at whole
    rw [← whole] at last
    cases last
  have solid := List.rdropWhile_last_not isWhitespace s nonempty
  rw [← trimEnd_of_trimmed trimmed, trimEnd] at last
  rw [List.getLast_of_getLast?_eq_some last] at solid
  simpa using solid

theorem trim_append_of_trimmed {s : Str} (nonempty : s ≠ []) (trimmed : Trimmed s) (t : Str) :
    trim (s ++ t) = s ++ trimEnd t := by
  have ends : trimEnd (s ++ t) = s ++ trimEnd t := by
    by_cases blank : Blank t
    · rw [trimEnd_blank blank, trimEnd_eq_nil_iff.mpr blank, List.append_nil, trimEnd_of_trimmed trimmed]
    · exact trimEnd_append_of_not_blank blank s
  rw [trim, ends, trimStart]
  obtain ⟨c, s, rfl⟩ := List.exists_cons_of_ne_nil nonempty
  rw [List.cons_append, List.dropWhile_cons_of_neg]
  rw [head_of_trimmed trimmed (c := c) rfl]
  exact Bool.false_ne_true

end CrashCatcher.Lib.Text
