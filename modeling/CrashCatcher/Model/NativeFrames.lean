import CrashCatcher.Lib.Trim
import CrashCatcher.Model.Fingerprint

namespace CrashCatcher.Model
open Lib Lib.Text

def isLibraryToken (token : Str) : Bool := contains ".so".toList token || contains ".apk".toList token

theorem isLibraryToken_append_left {s : Str} (t : Str) (library : isLibraryToken s = true) :
    isLibraryToken (s ++ t) = true := by
  simp only [isLibraryToken, Bool.or_eq_true] at library ⊢
  exact library.imp (contains_of_contains_append t) (contains_of_contains_append t)

theorem isLibraryToken_append_right {s : Str} (t : Str) (library : isLibraryToken s = true) :
    isLibraryToken (t ++ s) = true := by
  simp only [isLibraryToken, Bool.or_eq_true] at library ⊢
  exact library.imp (contains_append_of_contains t) (contains_append_of_contains t)

theorem isLibraryToken_takeWhile_append {s : Str} (t : Str) {p : Char → Bool}
    (library : isLibraryToken (s.takeWhile p) = true) : isLibraryToken ((s ++ t).takeWhile p) = true := by
  rw [List.takeWhile_append]
  split_ifs with whole
  · have all : s.takeWhile p = s := (List.takeWhile_prefix p).eq_of_length whole
    rw [all] at library
    exact isLibraryToken_append_left _ library
  · exact library

def libraryStep (library token : Str) : Str :=
  if token.contains '/' && isLibraryToken token then afterLast '/' token else library

theorem nativeLibrary_eq (frame : Str) : nativeLibrary frame = (splitWhitespace frame).foldl libraryStep [] :=
    rfl

theorem libraryStep_of_library {library token : Str} (slash : '/' ∈ token)
    (found : isLibraryToken token = true) :
    libraryStep library token = afterLast '/' token := by
  simp [libraryStep, slash, found]

theorem foldl_libraryStep_ne_nil {tokens : List Str} (open' : ∀ token ∈ tokens, token.getLast? ≠ some '/')
    {library : Str} (nonempty : library ≠ []) : tokens.foldl libraryStep library ≠ [] := by
  induction tokens generalizing library with
  | nil => exact nonempty
  | cons token tokens ih =>
      refine ih (fun other member => open' other (List.mem_cons_of_mem token member)) ?_
      simp only [libraryStep]
      split_ifs with found
      · rw [Bool.and_eq_true, List.contains_iff_mem] at found
        exact afterLast_ne_nil (List.ne_nil_of_mem found.1) (open' token List.mem_cons_self)
      · exact nonempty

theorem nativeSymbol_append {s : Str} (apart : '(' ∉ s) (t : Str) : nativeSymbol (s ++ t) = nativeSymbol t := by
  rw [nativeSymbol, splitOnce_append apart, nativeSymbol]
  cases splitOnce '(' t <;> rfl

theorem splitOnce_append_of_notMem {c : Char} {blank : Str} (apart : c ∉ blank) (s : Str) :
    splitOnce c (s ++ blank) = (splitOnce c s).map fun parts => (parts.1, parts.2 ++ blank) := by
  induction s with
  | nil => exact splitOnce_eq_none apart
  | cons d s ih =>
      rw [List.cons_append, splitOnce, splitOnce, ih]
      split_ifs
      · rfl
      · cases splitOnce c s <;> rfl

theorem nativeSymbol_trimEnd (s : Str) : nativeSymbol (trimEnd s) = nativeSymbol s := by
  have blank := blank_rtakeWhile s
  have outside : ∀ c, isWhitespace c = false → c ∉ s.rtakeWhile isWhitespace := fun c solid member => by
    rw [blank c member] at solid
    cases solid
  have whole : s = trimEnd s ++ s.rtakeWhile isWhitespace := (List.rdropWhile_append_rtakeWhile).symm
  conv_rhs => rw [whole]
  rw [nativeSymbol, nativeSymbol, splitOnce_append_of_notMem (outside '(' (by decide))]
  cases splitOnce '(' (trimEnd s) with
  | none => rfl
  | some parts =>
      dsimp only [Option.map_some]
      rw [splitOnce_append_of_notMem (outside ')' (by decide))]
      cases splitOnce ')' parts.2 <;> rfl

theorem foldl_libraryStep_unseen {tokens : List Str}
    (unseen : ∀ token ∈ tokens, '/' ∈ token → isLibraryToken token = false) (library : Str) :
    tokens.foldl libraryStep library = library := by
  induction tokens generalizing library with
  | nil => rfl
  | cons token tokens ih =>
      obtain ⟨first, rest⟩ := List.forall_mem_cons.mp unseen
      have kept : libraryStep library token = library := by
        by_cases slash : '/' ∈ token
        · simp [libraryStep, first slash]
        · simp [libraryStep, slash]
      rw [List.foldl_cons, kept]
      exact ih rest library

theorem normalizeNativeFrame_unseen {s : Str} (nonempty : s ≠ []) (solid : Solid s) (apart : '(' ∉ s) {t : Str}
    (unseen : ∀ word ∈ splitWhitespace (s ++ t), '/' ∈ word → isLibraryToken word = false) :
    normalizeNativeFrame (s ++ t) = if nativeSymbol t = [] then s ++ trimEnd t else nativeSymbol t := by
  have trimmed := trim_append nonempty solid t
  have library : nativeLibrary (s ++ trimEnd t) = [] := by
    rw [nativeLibrary_eq, ← trimmed, splitWhitespace_trim]
    exact foldl_libraryStep_unseen unseen []
  have symbol : nativeSymbol (s ++ trimEnd t) = nativeSymbol t := by
    rw [nativeSymbol_append apart, nativeSymbol_trimEnd]
  simp only [normalizeNativeFrame, trimmed, library, symbol]
  cases nativeSymbol t <;> rfl

theorem normalizeNativeFrame_plain {s : Str} (nonempty : s ≠ []) (solid : Solid s) (apart : '(' ∉ s)
    (unseen : '/' ∈ s → isLibraryToken s = false) : normalizeNativeFrame s = s := by
  have words : ∀ word ∈ splitWhitespace (s ++ []), '/' ∈ word → isLibraryToken word = false := by
    rw [List.append_nil, splitWhitespace_of_solid nonempty solid]
    exact List.forall_mem_singleton.mpr unseen
  have whole := normalizeNativeFrame_unseen nonempty solid apart words
  rw [List.append_nil] at whole
  exact whole.trans (List.append_nil s)

theorem frameworkPrefixes_plain : ∀ pre ∈ frameworkPrefixes, '/' ∉ pre ∧ '+' ∉ pre ∧ pre ≠ [] := by decide

theorem stripJavaFramePrefix_solid {s : Str} (nonempty : s ≠ []) (solid : Solid s) (t : Str) :
    stripJavaFramePrefix (s ++ t) = s ++ trimEnd t ∨ ∃ rest, s ++ trimEnd t = "at ".toList ++ rest ∧
      stripJavaFramePrefix (s ++ t) = trimStart rest := by
  have start : trimStart (s ++ trimEnd t) = s ++ trimEnd t := by
    obtain ⟨c, s, rfl⟩ := List.exists_cons_of_ne_nil nonempty
    rw [List.cons_append, trimStart, List.dropWhile_cons_of_neg]
    simp [solid c List.mem_cons_self]
  rw [stripJavaFramePrefix, trim_append nonempty solid]
  cases found : List.isPrefixOf? "at ".toList (s ++ trimEnd t) with
  | none => exact .inl start
  | some rest => exact .inr ⟨rest, List.isPrefixOf?_eq_some_iff_append_eq.mp found |>.symm, rfl⟩

theorem isFrameworkFrame_root {s : Str} (solid : Solid ('/' :: s)) (t : Str) :
    isFrameworkFrame ('/' :: s ++ t) = false := by
  have stripped : stripJavaFramePrefix ('/' :: s ++ t) = '/' :: s ++ trimEnd t := by
    rcases stripJavaFramePrefix_solid (List.cons_ne_nil _ _) solid t with same | ⟨rest, at', -⟩
    · exact same
    · cases at'
  rw [isFrameworkFrame, stripped, List.any_eq_false]
  intro pre member found
  obtain ⟨noSlash, -, nonempty⟩ := frameworkPrefixes_plain pre member
  obtain ⟨c, pre, rfl⟩ := List.exists_cons_of_ne_nil nonempty
  obtain ⟨rest, split⟩ := List.isPrefixOf_iff_prefix.mp found
  obtain ⟨rfl, -⟩ := List.cons.inj split
  exact noSlash List.mem_cons_self

theorem prefix_append_cons_iff {c : Char} {pre s t : Str} (apart : c ∉ pre) : pre <+: s ++ c :: t ↔ pre <+: s := by
  refine ⟨fun found => ?_, fun found => found.trans (List.prefix_append _ _)⟩
  rcases List.prefix_or_prefix_of_prefix found (List.prefix_append s (c :: t)) with inside | ⟨rest, split⟩
  · exact inside
  · obtain rfl := split
    rw [List.prefix_append_right_inj] at found
    cases rest with
    | nil => simp
    | cons d rest =>
        obtain ⟨tail, same⟩ := found
        obtain ⟨rfl, -⟩ := List.cons.inj same
        exact absurd (by simp) apart

theorem isFrameworkFrame_plus {s t t' : Str} (solid : Solid s) (here : Solid t) (there : Solid t') :
    isFrameworkFrame (s ++ '+' :: t) = isFrameworkFrame (s ++ '+' :: t') := by
  have stripped : ∀ t : Str, Solid t → stripJavaFramePrefix (s ++ '+' :: t) = s ++ '+' :: t := by
    intro t here
    have word : Solid (s ++ '+' :: t) :=
      solid_append.mpr ⟨solid, List.forall_mem_cons.mpr ⟨by decide, here⟩⟩
    have nonempty : s ++ '+' :: t ≠ [] := by simp
    have split := stripJavaFramePrefix_solid nonempty word []
    rw [List.append_nil] at split
    rcases split with same | ⟨rest, at', -⟩
    · exact same.trans (List.append_nil _)
    · have blank : isWhitespace ' ' = false := by
        refine word ' ' ?_
        rw [← List.append_nil (s ++ '+' :: t)]
        exact at' ▸ List.mem_append_left _ (by decide)
      cases blank
  rw [isFrameworkFrame, isFrameworkFrame, stripped t here, stripped t' there]
  rw [Bool.eq_iff_iff, List.any_eq_true, List.any_eq_true]
  refine exists_congr fun pre => and_congr_right fun member => ?_
  have apart := (frameworkPrefixes_plain pre member).2.1
  rw [List.isPrefixOf_iff_prefix, List.isPrefixOf_iff_prefix, prefix_append_cons_iff apart,
    prefix_append_cons_iff apart]

structure NamesLibrary (rest : Str) : Prop where
  library : isLibraryToken (rest.takeWhile fun c => !isWhitespace c) = true
  open' : NoWordEndsIn '/' rest

section Directory
variable {directory directory' rest : Str}

theorem nativeLibrary_directory (solid : Solid (directory ++ ['/'])) (names : NamesLibrary rest) :
    nativeLibrary ((directory ++ ['/']) ++ rest) =
      (splitWhitespace (rest.dropWhile fun c => !isWhitespace c)).foldl libraryStep
        (afterLast '/' (rest.takeWhile fun c => !isWhitespace c)) := by
  rw [nativeLibrary_eq, splitWhitespace_solid_append (by simp) solid, List.foldl_cons,
    libraryStep_of_library (by simp) (isLibraryToken_append_right _ names.library), List.append_assoc,
    List.singleton_append, afterLast_append]

theorem NamesLibrary.nonempty (names : NamesLibrary rest) : (rest.takeWhile fun c => !isWhitespace c) ≠ [] := by
  intro none
  have library := names.library
  rw [none] at library
  revert library
  decide

theorem nativeLibrary_directory_ne_nil (solid : Solid (directory ++ ['/'])) (names : NamesLibrary rest) :
    nativeLibrary ((directory ++ ['/']) ++ rest) ≠ [] := by
  rw [nativeLibrary_directory solid names]
  have words := names.open'.getLast?
  rw [splitWhitespace_split, splitWhitespace_of_solid names.nonempty (solid_takeWhile rest)] at words
  apply foldl_libraryStep_ne_nil
  · exact fun token member => words token (List.mem_cons_of_mem _ member)
  · exact afterLast_ne_nil names.nonempty (words _ List.mem_cons_self)

theorem normalizeNativeFrame_directory (solid : Solid (directory ++ ['/'])) (apart : '(' ∉ directory ++ ['/'])
    (solid' : Solid (directory' ++ ['/'])) (apart' : '(' ∉ directory' ++ ['/']) (names : NamesLibrary rest) :
    normalizeNativeFrame ((directory ++ ['/']) ++ rest) =
      normalizeNativeFrame ((directory' ++ ['/']) ++ rest) := by
  have library : nativeLibrary (trim ((directory ++ ['/']) ++ rest)) =
      nativeLibrary (trim ((directory' ++ ['/']) ++ rest)) := by
    rw [nativeLibrary_eq, splitWhitespace_trim, ← nativeLibrary_eq, nativeLibrary_eq (trim _),
      splitWhitespace_trim,
      ← nativeLibrary_eq, nativeLibrary_directory solid names, nativeLibrary_directory solid' names]
  have symbol : nativeSymbol (trim ((directory ++ ['/']) ++ rest)) =
      nativeSymbol (trim ((directory' ++ ['/']) ++ rest)) := by
    rw [trim_append (by simp) solid, trim_append (by simp) solid', nativeSymbol_append apart,
      nativeSymbol_append apart']
  have found : (nativeLibrary (trim ((directory' ++ ['/']) ++ rest))).isEmpty = false := by
    rw [nativeLibrary_eq, splitWhitespace_trim, ← nativeLibrary_eq, List.isEmpty_eq_false_iff]
    exact nativeLibrary_directory_ne_nil solid' names
  simp only [normalizeNativeFrame, library, symbol, found]
  cases (nativeSymbol (trim ((directory' ++ ['/']) ++ rest))).isEmpty <;> rfl

end Directory

theorem normalizeNativeFrame_word {frame : Str} (solid : Solid frame) (apart : '(' ∉ frame)
    (library : isLibraryToken frame = true) (open' : frame.getLast? ≠ some '/') :
    normalizeNativeFrame frame = afterLast '/' frame := by
  have nonempty : frame ≠ [] := by
    rintro rfl
    revert library
    decide
  have trimmed : trim frame = frame := by
    have whole := trim_append nonempty solid []
    rw [List.append_nil] at whole
    rw [whole]
    exact List.append_nil frame
  have symbol : nativeSymbol frame = [] := by rw [nativeSymbol, splitOnce_eq_none apart]
  simp only [normalizeNativeFrame, trimmed, symbol, nativeLibrary_eq, splitWhitespace_of_solid nonempty solid,
    List.foldl_cons, List.foldl_nil]
  by_cases slash : '/' ∈ frame
  · rw [libraryStep_of_library slash library]
    have found : (afterLast '/' frame).isEmpty = false := by simp [afterLast_ne_nil nonempty open']
    simp [found]
  · have none : libraryStep [] frame = [] := by simp [libraryStep, slash]
    rw [none, afterLast_eq_self slash]
    simp

theorem normalizeNativeFrame_root {frame : Str} (names : NamesLibrary frame) (solid : Solid frame)
    (apart : '(' ∉ frame) :
    normalizeNativeFrame frame = normalizeNativeFrame ('/' :: frame) := by
  have first : frame.takeWhile (fun c => !isWhitespace c) = frame := by
    rw [List.takeWhile_eq_self_iff]
    exact fun c member => by simp [solid c member]
  have nonempty : frame ≠ [] := first ▸ names.nonempty
  have library : isLibraryToken frame = true := first ▸ names.library
  have open' := names.open'.getLast? frame (by simp [splitWhitespace_of_solid nonempty solid])
  have below : afterLast '/' ('/' :: frame) = afterLast '/' frame := afterLast_append [] frame
  rw [normalizeNativeFrame_word solid apart library open', normalizeNativeFrame_word, below]
  · exact List.forall_mem_cons.mpr ⟨rfl, solid⟩
  · simp [apart]
  · exact isLibraryToken_append_right ['/'] library
  · rwa [List.getLast?_cons_of_ne_nil nonempty]

end CrashCatcher.Model
