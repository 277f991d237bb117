import CrashCatcher.Lib.Decimal
import CrashCatcher.Lib.Words

namespace CrashCatcher.Lib.Text

def orError {ε α : Type} (error : ε) : Option α → Except ε α
  | none => .error error
  | some a => .ok a

theorem orError_some_bind {ε α β : Type} (error : ε) (a : α) (f : α → Except ε β) :
    (orError error (some a) >>= f) = f a := rfl

theorem orError_bind_eq_ok {ε α β : Type} {error : ε} {found : Option α} {f : α → Except ε β} {b : β} :
    (orError error found >>= f) = .ok b ↔ ∃ a, found = some a ∧ f a = .ok b := by
  cases found with
  | none => simp [orError, bind, Except.bind]
  | some a => simp [orError_some_bind]

def stripPrefix (pre s : Str) : Option Str := if pre.isPrefixOf s then some (s.drop pre.length) else none

def stripSuffix (suffix s : Str) : Option Str :=
  if suffix.isSuffixOf s then some (s.take (s.length - suffix.length)) else none

theorem stripPrefix_append (pre s : Str) : stripPrefix pre (pre ++ s) = some s := by
  simp [stripPrefix, List.isPrefixOf_iff_prefix]

theorem stripSuffix_append (s suffix : Str) : stripSuffix suffix (s ++ suffix) = some s := by
  simp [stripSuffix, List.isSuffixOf_iff_suffix]

theorem stripSuffix_eq_some {suffix s stem : Str} (found : stripSuffix suffix s = some stem) :
    s = stem ++ suffix := by
  unfold stripSuffix at found
  split at found
  next ends =>
    obtain ⟨start, whole⟩ := List.isSuffixOf_iff_suffix.mp ends
    subst whole
    simp at found
    rw [found]
  next => cases found

def splitOnceStr (pat : Str) : Str → Option (Str × Str)
  | [] => if pat.isEmpty then some ([], []) else none
  | c :: s =>
      if pat.isPrefixOf (c :: s) then some ([], (c :: s).drop pat.length)
      else (splitOnceStr pat s).map fun parts => (c :: parts.1, parts.2)

def rsplitOnceStr (pat : Str) : Str → Option (Str × Str)
  | [] => if pat.isEmpty then some ([], []) else none
  | c :: s => match rsplitOnceStr pat s with
    | some (left, right) => some (c :: left, right)
    | none => if pat.isPrefixOf (c :: s) then some ([], (c :: s).drop pat.length) else none

def afterStr (pat s : Str) : Option Str := (splitOnceStr pat s).map Prod.snd

def beforeStr (pat s : Str) : Str := ((splitOnceStr pat s).map Prod.fst).getD s

section
variable {c : Char} {s : Str}

theorem rsplitOnce_eq_none (apart : c ∉ s) : rsplitOnce c s = none := by
  induction s with
  | nil => rfl
  | cons d s ih =>
      rw [List.mem_cons, not_or] at apart
      rw [rsplitOnce, ih apart.2]
      exact if_neg fun same => apart.1 same.symm

theorem rsplitOnce_append_cons {right : Str} (apart : c ∉ right) (left : Str) :
    rsplitOnce c (left ++ c :: right) = some (left, right) := by
  induction left with
  | nil =>
      rw [List.nil_append, rsplitOnce, rsplitOnce_eq_none apart]
      exact if_pos rfl
  | cons d left ih => rw [List.cons_append, rsplitOnce, ih]

theorem rsplitOnce_eq_some {parts : Str × Str} (found : rsplitOnce c s = some parts) :
    s = parts.1 ++ c :: parts.2 := by
  induction s generalizing parts with
  | nil => cases found
  | cons d s ih =>
      rw [rsplitOnce] at found
      cases later : rsplitOnce c s with
      | none =>
          rw [later] at found
          by_cases same : d = c
          · rw [show (if d = c then some ([], s) else none) = some ([], s) from if_pos same] at found
            cases found
            rw [same, List.nil_append]
          · rw [show (if d = c then some (([] : Str), s) else none) = none from if_neg same] at found
            cases found
      | some inner =>
          rw [later] at found
          cases found
          rw [ih later, List.cons_append]

theorem isPrefixOf?_append_cons {pat : Str} (apart : c ∉ pat) (t : Str) :
    List.isPrefixOf? pat (s ++ c :: t) = (List.isPrefixOf? pat s).map (· ++ c :: t) := by
  induction pat generalizing s with
  | nil => rfl
  | cons a pat ih =>
      rw [List.mem_cons, not_or] at apart
      cases s with
      | nil =>
          have differs : (a == c) = false := beq_false_of_ne fun same => apart.1 same.symm
          simp [List.isPrefixOf?, differs]
      | cons b s =>
          rw [List.cons_append, List.isPrefixOf?, List.isPrefixOf?]
          split_ifs
          · exact ih apart.2
          · rfl

theorem takeWhile_append_cons {p : Char → Bool} {c : Char} (stops : p c = false) (s t : Str) :
    (s ++ c :: t).takeWhile p = s.takeWhile p := by
  induction s with
  | nil => rw [List.nil_append, List.takeWhile_cons, stops, List.takeWhile_nil, if_neg Bool.false_ne_true]
  | cons d s ih => rw [List.cons_append, List.takeWhile_cons, List.takeWhile_cons, ih]

end

section
variable {pat s t : Str}

theorem splitOnceStr_self (nonempty : pat ≠ []) (s : Str) : splitOnceStr pat (pat ++ s) = some ([], s) := by
  obtain ⟨c, pat, rfl⟩ := List.exists_cons_of_ne_nil nonempty
  have prefixed : (c :: pat).isPrefixOf (c :: (pat ++ s)) = true :=
    List.isPrefixOf_iff_prefix.mpr ⟨s, rfl⟩
  rw [List.cons_append, splitOnceStr, if_pos prefixed]
  simp

theorem splitOnceStr_cons {c : Char} (apart : ¬ pat <+: c :: s) :
    splitOnceStr pat (c :: s) = (splitOnceStr pat s).map fun parts => (c :: parts.1, parts.2) := by
  rw [splitOnceStr, if_neg fun prefixed => apart (List.isPrefixOf_iff_prefix.mp prefixed)]

theorem splitOnceStr_append_of_notMem {c : Char} {start : Str} (apart : c ∉ start) (s : Str) :
    splitOnceStr (c :: pat) (start ++ s) =
      (splitOnceStr (c :: pat) s).map fun parts => (start ++ parts.1, parts.2) := by
  induction start with
  | nil => simp
  | cons d start ih =>
      have differs : ¬ c :: pat <+: d :: (start ++ s) := fun prefixed =>
        apart (List.mem_cons.mpr (.inl (List.cons_prefix_cons.mp prefixed).1))
      rw [List.cons_append, splitOnceStr_cons differs, ih fun member => apart (List.mem_cons_of_mem d member),
        Option.map_map]
      rfl

theorem splitOnceStr_eq_some {parts : Str × Str} (found : splitOnceStr pat s = some parts) :
    s = parts.1 ++ pat ++ parts.2 := by
  induction s generalizing parts with
  | nil =>
      rw [splitOnceStr] at found
      split_ifs at found with empty
      cases found
      rw [List.isEmpty_iff.mp empty]
      rfl
  | cons c s ih =>
      rw [splitOnceStr] at found
      split_ifs at found with prefixed
      · cases found
        obtain ⟨rest, whole⟩ := List.isPrefixOf_iff_prefix.mp prefixed
        rw [← whole, List.drop_left, List.nil_append]
      · obtain ⟨later, inner, rfl⟩ := Option.map_eq_some_iff.mp found
        rw [ih inner]
        rfl

theorem splitOnceStr_eq_none {c : Char} (member : c ∈ pat) (apart : c ∉ s) : splitOnceStr pat s = none := by
  cases found : splitOnceStr pat s with
  | none => rfl
  | some parts =>
      refine absurd ?_ apart
      rw [splitOnceStr_eq_some found]
      simp [member]

theorem splitOnceStr_append_of_some {parts : Str × Str} (found : splitOnceStr pat s = some parts) (t : Str) :
    splitOnceStr pat (s ++ t) = some (parts.1, parts.2 ++ t) := by
  induction s generalizing parts with
  | nil =>
      rw [splitOnceStr] at found
      split_ifs at found with empty
      cases found
      rw [List.isEmpty_iff.mp empty]
      cases t <;> rfl
  | cons c s ih =>
      by_cases prefixed : pat <+: c :: s
      · have longer : pat <+: c :: s ++ t := prefixed.trans (List.prefix_append _ _)
        rw [splitOnceStr, if_pos (List.isPrefixOf_iff_prefix.mpr prefixed)] at found
        cases found
        rw [List.cons_append, splitOnceStr, if_pos (List.isPrefixOf_iff_prefix.mpr (by exact longer)),
          ← List.cons_append, List.drop_append_of_le_length prefixed.length_le]
      · rw [splitOnceStr_cons prefixed] at found
        obtain ⟨later, inner, rfl⟩ := Option.map_eq_some_iff.mp found
        have inside : pat.length ≤ (c :: s).length := by
          rw [splitOnceStr_eq_some inner]
          simp only [List.length_cons, List.length_append]
          omega
        have apart : ¬ pat <+: c :: (s ++ t) := fun longer =>
          prefixed (List.prefix_of_prefix_length_le longer (List.prefix_append (c :: s) t) inside)
        rw [List.cons_append, splitOnceStr_cons apart, ih inner]
        rfl

theorem prefix_append_cons_iff {d : Char} (apart : d ∉ pat) : pat <+: s ++ d :: t ↔ pat <+: s := by
  refine ⟨fun prefixed => ?_, fun prefixed => prefixed.trans (List.prefix_append _ _)⟩
  rcases Nat.lt_or_ge s.length pat.length with longer | shorter
  · obtain ⟨more, whole⟩ := prefixed
    have here : (s ++ d :: t)[s.length]? = some d := by simp
    rw [← whole, List.getElem?_append_left longer] at here
    exact absurd (List.mem_of_getElem? here) apart
  · exact List.prefix_of_prefix_length_le prefixed (List.prefix_append s (d :: t)) shorter

theorem splitOnceStr_append_of_none {d : Char} (apart : d ∉ pat) (none : splitOnceStr pat s = none) (t : Str) :
    splitOnceStr pat (s ++ d :: t) = (splitOnceStr pat (d :: t)).map fun parts => (s ++ parts.1, parts.2) := by
  induction s with
  | nil => simp
  | cons c s ih =>
      have differs : ¬ pat <+: c :: s := fun prefixed => by
        rw [splitOnceStr, if_pos (List.isPrefixOf_iff_prefix.mpr prefixed)] at none
        cases none
      rw [splitOnceStr_cons differs, Option.map_eq_none_iff] at none
      have differs' : ¬ pat <+: c :: (s ++ d :: t) := fun prefixed =>
        differs ((prefix_append_cons_iff (s := c :: s) apart).mp prefixed)
      rw [List.cons_append, splitOnceStr_cons differs', ih none, Option.map_map]
      rfl

theorem splitOnceStr_of_none {d : Char} (apart : d ∉ pat) (nonempty : pat ≠ [])
    (none : splitOnceStr pat s = none)
    (t : Str) : splitOnceStr pat (s ++ d :: (pat ++ t)) = some (s ++ [d], t) := by
  have differs : ¬ pat <+: d :: (pat ++ t) := fun prefixed => by
    obtain ⟨c, pat, rfl⟩ := List.exists_cons_of_ne_nil nonempty
    exact apart (List.mem_cons.mpr (.inl (List.cons_prefix_cons.mp prefixed).1.symm))
  rw [splitOnceStr_append_of_none apart none, splitOnceStr_cons differs, splitOnceStr_self nonempty]
  rfl

theorem rsplitOnceStr_eq_none {c : Char} (apart : c ∉ s) : rsplitOnceStr (c :: pat) s = none := by
  induction s with
  | nil => rfl
  | cons d s ih =>
      rw [List.mem_cons, not_or] at apart
      rw [rsplitOnceStr, ih apart.2]
      exact if_neg fun prefixed => apart.1 (List.cons_prefix_cons.mp (List.isPrefixOf_iff_prefix.mp prefixed)).1

theorem rsplitOnceStr_append {c : Char} {right : Str} (last : c ∉ pat ++ right) (left : Str) :
    rsplitOnceStr (c :: pat) (left ++ (c :: pat ++ right)) = some (left, right) := by
  induction left with
  | nil =>
      have prefixed : (c :: pat).isPrefixOf (c :: (pat ++ right)) = true :=
        List.isPrefixOf_iff_prefix.mpr ⟨right, rfl⟩
      have behind : (c :: (pat ++ right)).drop (c :: pat).length = right := by simp
      rw [List.nil_append, List.cons_append, rsplitOnceStr, rsplitOnceStr_eq_none last, behind]
      exact if_pos prefixed
  | cons d left ih => rw [List.cons_append, rsplitOnceStr, ih]

theorem afterStr_append_of_notMem {c : Char} {start : Str} (apart : c ∉ start) (s : Str) :
    afterStr (c :: pat) (start ++ s) = afterStr (c :: pat) s := by
  rw [afterStr, splitOnceStr_append_of_notMem apart, Option.map_map]
  rfl

theorem afterStr_append_of_some {rest : Str} (found : afterStr pat s = some rest) (t : Str) :
    afterStr pat (s ++ t) = some (rest ++ t) := by
  obtain ⟨parts, split, rfl⟩ := Option.map_eq_some_iff.mp found
  rw [afterStr, splitOnceStr_append_of_some split]
  rfl

theorem afterStr_append_of_none {d : Char} (apart : d ∉ pat) (none : afterStr pat s = none) (t : Str) :
    afterStr pat (s ++ d :: t) = afterStr pat (d :: t) := by
  rw [afterStr, Option.map_eq_none_iff] at none
  rw [afterStr, splitOnceStr_append_of_none apart none, Option.map_map]
  rfl

theorem afterStr_append_cons {c d : Char} (apart : d ∉ c :: pat) (s t : Str) :
    afterStr (c :: pat) (s ++ d :: t) =
      ((afterStr (c :: pat) s).map (· ++ d :: t)).or (afterStr (c :: pat) t) := by
  have differs : c ∉ [d] := fun member => apart (List.mem_cons.mpr (.inl (List.mem_singleton.mp member).symm))
  cases found : afterStr (c :: pat) s with
  | none =>
      rw [afterStr_append_of_none apart found]
      exact afterStr_append_of_notMem differs t
  | some rest =>
      rw [afterStr_append_of_some found]
      rfl

theorem afterStr_eq_none {c : Char} (member : c ∈ pat) (apart : c ∉ s) : afterStr pat s = none := by
  rw [afterStr, splitOnceStr_eq_none member apart]
  rfl

end
end CrashCatcher.Lib.Text
