import CrashCatcher.Collect.Tombstone
import CrashCatcher.Lib.Scan
import CrashCatcher.Merge.ShownFrames
import CrashCatcher.Model.NativeFrames

/-! What a rebuild of a program, or another run of it, changes in the record of a native crash. -/

namespace CrashCatcher.Collect
open Lib Lib.Text Model Merge

/-- Frames that a rebuild or another run of the same program may tell apart: their addresses, and the
directory the library was loaded from. -/
structure NativeFrame.Rebuilt (f f' : NativeFrame) : Prop where
  symbol : f.functionName = f'.functionName
  library : f.fileName.map (afterLast '/') = f'.fileName.map (afterLast '/')

structure TombstoneReport.Rebuilt (r r' : TombstoneReport) : Prop where
  same : { r' with frames := r.frames, rawText := r.rawText } = r
  frames : List.Forall₂ NativeFrame.Rebuilt r.frames r'.frames

/-- The file is a library that the normalizer finds, below a directory that it drops. -/
structure NativeFrame.Placed (frame : NativeFrame) (file : Str) : Prop where
  library : isLibraryToken ((afterLast '/' file).takeWhile fun c => !isWhitespace c) = true
  directory : Solid (upToLast '/' file) ∧ '(' ∉ upToLast '/' file
  symbol : ∀ symbol, frame.functionName = some symbol → NoWordEndsIn '/' symbol
  bare : upToLast '/' file = [] → (Solid file ∧ '(' ∉ file) ∧
    ∀ symbol, frame.functionName = some symbol → Solid symbol ∧ '(' ∉ symbol

/-- No library is seen in the frame, and the parameters of its symbol stand for it. -/
structure NativeFrame.Masked (frame : NativeFrame) (file : Str) : Prop where
  directory : Solid file ∧ '(' ∉ file
  unseen : ∀ word ∈ splitWhitespace frame.normalized, '/' ∈ word → isLibraryToken word = false
  symbol : ∃ symbol, frame.functionName = some symbol ∧ nativeSymbol symbol ≠ []

/-- Frames whose differences the normalizer removes: an address counts where there is no symbol, and a
directory where it is not dropped with the library or with the whole path. -/
structure NativeFrame.Steady (f f' : NativeFrame) : Prop where
  address : f.functionName = none → f.relativePc = f'.relativePc
  directory : f.fileName = f'.fileName ∨ ∃ file file', f.fileName = some file ∧ f'.fileName = some file' ∧
    (f.Placed file ∧ f'.Placed file' ∨ f.Masked file ∧ f'.Masked file')

/-- The frames that a fingerprint is made of. -/
def countedFrames (frames : List NativeFrame) : List NativeFrame :=
  let app := (frames.filter fun frame => !isFrameworkFrame (normalizeNativeFrame frame.normalized)).take
    fingerprintFrameCount
  if app.isEmpty then frames.take fingerprintFrameCount else app

theorem digitChar_plain {n : Nat} (digit : n < 16) :
    isWhitespace n.digitChar = false ∧ n.digitChar ≠ '/' ∧ n.digitChar ≠ '(' ∧ n.digitChar ≠ '+' := by
  revert n
  decide

theorem toDigits_plain (n : Nat) :
    ∀ c ∈ Nat.toDigits 16 n, isWhitespace c = false ∧ c ≠ '/' ∧ c ≠ '(' ∧ c ≠ '+' := by
  induction n using Nat.strongRecOn with
  | ind n ih =>
      intro c member
      by_cases digit : n < 16
      · rw [Nat.toDigits_of_lt_base digit, List.mem_singleton] at member
        rw [member]
        exact digitChar_plain digit
      · rw [Nat.toDigits_of_base_le (by decide) (by omega), List.mem_append, List.mem_singleton] at member
        rcases member with leading | rfl
        · exact ih (n / 16) (by omega) c leading
        · exact digitChar_plain (by omega)

theorem toDigits_hex_injective : Function.Injective (Nat.toDigits 16) := by
  have last : ∀ n, 16 ≤ n → Nat.toDigits 16 n = Nat.toDigits 16 (n / 16) ++ [(n % 16).digitChar] := fun n big =>
    Nat.toDigits_of_base_le (by decide) big
  have single : ∀ n, n < 16 → Nat.toDigits 16 n = [n.digitChar] := fun n small =>
    Nat.toDigits_of_lt_base small
  have digit : ∀ m < 16, ∀ n < 16, m.digitChar = n.digitChar → m = n := by decide
  intro m
  induction m using Nat.strongRecOn with
  | ind m ih =>
      intro n same
      have some : ∀ n, Nat.toDigits 16 n ≠ [] := fun n => List.ne_nil_of_length_pos Nat.length_toDigits_pos
      by_cases small : m < 16
      · by_cases small' : n < 16
        · rw [single m small, single n small'] at same
          exact digit m small n small' (List.singleton_injective same)
        · rw [single m small, last n (by omega)] at same
          exact absurd (List.append_eq_singleton_iff.mp same.symm) (by simp [some])
      · by_cases small' : n < 16
        · rw [single n small', last m (by omega)] at same
          exact absurd (List.append_eq_singleton_iff.mp same) (by simp [some])
        · rw [last m (by omega), last n (by omega)] at same
          obtain ⟨front, back⟩ := List.append_inj' same rfl
          have quotient := ih (m / 16) (by omega) front
          have remainder := digit (m % 16) (Nat.mod_lt _ (by decide)) (n % 16) (Nat.mod_lt _ (by decide))
            (List.singleton_injective back)
          omega

namespace NativeFrame

def hexText (self : NativeFrame) : Str := "0x".toList ++ lowerHex self.relativePc

theorem hexText_plain (f : NativeFrame) :
    Solid f.hexText ∧ '/' ∉ f.hexText ∧ '(' ∉ f.hexText ∧ '+' ∉ f.hexText := by
  have marked : ∀ c ∈ "0x".toList, isWhitespace c = false ∧ c ≠ '/' ∧ c ≠ '(' ∧ c ≠ '+' :=
    List.forall_mem_cons.mpr ⟨by decide, List.forall_mem_singleton.mpr (by decide)⟩
  have plain : ∀ c ∈ f.hexText, isWhitespace c = false ∧ c ≠ '/' ∧ c ≠ '(' ∧ c ≠ '+' :=
    List.forall_mem_append.mpr ⟨marked, toDigits_plain f.relativePc.toNat⟩
  exact ⟨fun c member => (plain c member).1, fun member => (plain _ member).2.1 rfl,
    fun member => (plain _ member).2.2.1 rfl, fun member => (plain _ member).2.2.2 rfl⟩

theorem hexText_inj {f f' : NativeFrame} (same : f.hexText = f'.hexText) : f.relativePc = f'.relativePc :=
  UInt64.toNat_inj.mp (toDigits_hex_injective (List.append_cancel_left same))

def place (self : NativeFrame) : Char × Str :=
  match self.functionName with
  | some f => ('!', f)
  | none => ('+', self.hexText)

theorem normalized_of_file {f : NativeFrame} {file : Str} (known : f.fileName = some file) :
    f.normalized = file ++ f.place.1 :: f.place.2 := by
  simp only [normalized, place, known]
  cases f.functionName with
  | some symbol => rfl
  | none => exact List.append_assoc file "+0x".toList (lowerHex f.relativePc)

theorem normalized_named {f : NativeFrame} {file symbol : Str} (known : f.fileName = some file)
    (named : f.functionName = some symbol) : f.normalized = (file ++ ['!']) ++ symbol := by
  rw [normalized_of_file known, place, named]
  exact List.append_cons file '!' symbol

theorem normalized_address {f : NativeFrame} {file : Str} (known : f.fileName = some file)
    (unnamed : f.functionName = none) : f.normalized = file ++ '+' :: f.hexText := by
  rw [normalized_of_file known, place, unnamed]

theorem place_mark (f : NativeFrame) : isWhitespace f.place.1 = false ∧ f.place.1 ≠ '/' ∧ f.place.1 ≠ '(' := by
  simp only [place]
  cases f.functionName with
  | some symbol => exact (by decide : isWhitespace '!' = false ∧ '!' ≠ '/' ∧ '!' ≠ '(')
  | none => exact (by decide : isWhitespace '+' = false ∧ '+' ≠ '/' ∧ '+' ≠ '(')

theorem Placed.place_open {f : NativeFrame} {file : Str} (placed : f.Placed file) :
    NoWordEndsIn '/' f.place.2 := by
  simp only [place]
  cases named : f.functionName with
  | some symbol => exact placed.symbol symbol named
  | none => exact .of_notMem f.hexText_plain.2.1

theorem Placed.place_bare {f : NativeFrame} {file : Str} (placed : f.Placed file)
    (bare : upToLast '/' file = []) :
    Solid f.place.2 ∧ '(' ∉ f.place.2 := by
  simp only [place]
  cases named : f.functionName with
  | some symbol => exact (placed.bare bare).2 symbol named
  | none => exact ⟨f.hexText_plain.1, f.hexText_plain.2.2.1⟩

theorem Placed.namesLibrary {f : NativeFrame} {file : Str} (placed : f.Placed file) :
    NamesLibrary (afterLast '/' file ++ f.place.1 :: f.place.2) where
  library := isLibraryToken_takeWhile_append _ placed.library
  open' := by
    rw [List.append_cons]
    apply NoWordEndsIn.append _ placed.place_open
    intro member
    rcases List.mem_append.mp member with name | mark
    · exact notMem_afterLast name
    · exact f.place_mark.2.1 (List.mem_singleton.mp mark).symm

theorem Placed.normalize {f : NativeFrame} {file : Str} (known : f.fileName = some file)
    (placed : f.Placed file) :
    normalizeNativeFrame f.normalized =
      normalizeNativeFrame ('/' :: (afterLast '/' file ++ f.place.1 :: f.place.2)) := by
  have names := placed.namesLibrary
  have root : Solid ([] ++ ['/']) := by decide
  have path := upToLast_append_afterLast (c := '/') file
  rw [normalized_of_file known]
  rcases upToLast_cases (c := '/') file with bare | ⟨directory, below⟩
  · rw [bare, List.nil_append] at path
    obtain ⟨⟨solid, apart⟩, -⟩ := placed.bare bare
    obtain ⟨restSolid, restApart⟩ := placed.place_bare bare
    rw [path] at names ⊢
    refine normalizeNativeFrame_root names ?_ ?_
    · rw [List.append_cons]
      refine solid_append.mpr ⟨solid_append.mpr ⟨solid, ?_⟩, restSolid⟩
      simpa [Solid] using f.place_mark.1
    · simp [apart, restApart, f.place_mark.2.2.symm]
  · obtain ⟨solid, apart⟩ := placed.directory
    rw [below] at solid apart path
    conv_lhs => rw [← path, List.append_assoc]
    have dropped := normalizeNativeFrame_directory solid apart root (by decide) names
    rw [List.nil_append, List.singleton_append] at dropped
    exact dropped

theorem Rebuilt.place {f f' : NativeFrame} (rebuilt : f.Rebuilt f')
    (address : f.functionName = none → f.relativePc = f'.relativePc) : f.place = f'.place := by
  simp only [NativeFrame.place, hexText, ← rebuilt.symbol]
  cases named : f.functionName with
  | some symbol => rfl
  | none => rw [address named]

theorem Masked.normalize {f : NativeFrame} {file symbol : Str} (known : f.fileName = some file)
    (named : f.functionName = some symbol) (masked : f.Masked file) :
    normalizeNativeFrame f.normalized = nativeSymbol symbol := by
  obtain ⟨⟨solid, apart⟩, unseen, symbol', named', some⟩ := masked
  obtain rfl := Option.some.inj (named.symm.trans named')
  have solid : Solid (file ++ ['!']) := solid_append.mpr ⟨solid, by decide⟩
  have apart : '(' ∉ file ++ ['!'] := fun member => by
    rcases List.mem_append.mp member with inside | mark
    · exact apart inside
    · exact absurd (List.mem_singleton.mp mark) (by decide)
  rw [normalized_named known named] at unseen ⊢
  rw [normalizeNativeFrame_unseen (by simp) solid apart unseen, if_neg some]

theorem Rebuilt.normalized {f f' : NativeFrame} (rebuilt : f.Rebuilt f') (same : f.fileName = f'.fileName)
    (address : f.functionName = none → f.relativePc = f'.relativePc) : f.normalized = f'.normalized := by
  simp only [NativeFrame.normalized, ← rebuilt.symbol, ← same]
  cases named : f.functionName with
  | some symbol => cases f.fileName <;> rfl
  | none => rw [address named]

theorem Steady.normalize {f f' : NativeFrame} (rebuilt : f.Rebuilt f') (steady : f.Steady f') :
    normalizeNativeFrame f.normalized = normalizeNativeFrame f'.normalized := by
  rcases steady.directory with same | ⟨file, file', known, known', ⟨placed, placed'⟩ | ⟨masked, masked'⟩⟩
  · rw [rebuilt.normalized same steady.address]
  · have library := rebuilt.library
    rw [known, known', Option.map_some, Option.map_some, Option.some.injEq] at library
    rw [placed.normalize known, placed'.normalize known', rebuilt.place steady.address, library]
  · obtain ⟨symbol, named, -⟩ := masked.symbol
    rw [masked.normalize known named, masked'.normalize known' (rebuilt.symbol ▸ named)]

end NativeFrame

/-- A frame as `tombstoned` writes it: no blanks or parentheses in a path, no slash in a symbol, and a library
is known by its own name. -/
structure NativeFrame.Ordinary (frame : NativeFrame) : Prop where
  symbol : ∀ symbol ∈ frame.functionName, '/' ∉ symbol
  file : ∀ file ∈ frame.fileName, Solid file ∧ '(' ∉ file
  library : ∀ file ∈ frame.fileName,
    isLibraryToken (frame.normalized.takeWhile fun c => !isWhitespace c) = true →
      isLibraryToken (afterLast '/' file) = true

def Rooted (file : Str) : Prop := file.head? = some '/'

theorem Rooted.isFrameworkFrame {s : Str} (root : Rooted s) (solid : Solid s) (t : Str) :
    isFrameworkFrame (s ++ t) = false := by
  cases s with
  | nil => cases root
  | cons c s =>
      obtain rfl := Option.some.inj root
      exact isFrameworkFrame_root solid t

/-- Ordinary frames of two runs; a file that moved has an absolute path in both. -/
structure NativeFrame.Comparable (f f' : NativeFrame) : Prop where
  rebuilt : f.Rebuilt f'
  ordinary : f.Ordinary ∧ f'.Ordinary
  rooted : f.fileName = f'.fileName ∨ ∃ file file', f.fileName = some file ∧ f'.fileName = some file' ∧
    Rooted file ∧ Rooted file'

namespace NativeFrame

def shownPath (self : NativeFrame) : Str :=
  match self.fileName with
  | none => "pc".toList
  | some file => if isLibraryToken (afterLast '/' file) then afterLast '/' file else file

theorem Ordinary.shownPath {f : NativeFrame} (ordinary : f.Ordinary) : Solid f.shownPath := by
  rw [NativeFrame.shownPath]
  cases known : f.fileName with
  | none => decide
  | some file =>
      have solid := (ordinary.file file known).1
      dsimp only
      split_ifs
      · exact (solid_append.mp (upToLast_append_afterLast (c := '/') file ▸ solid)).2
      · exact solid

theorem Ordinary.normalize_address {f : NativeFrame} (ordinary : f.Ordinary) (unnamed : f.functionName = none) :
    normalizeNativeFrame f.normalized = f.shownPath ++ '+' :: f.hexText := by
  obtain ⟨hexSolid, hexSlash, hexOpen, -⟩ := f.hexText_plain
  rw [NativeFrame.shownPath]
  cases known : f.fileName with
  | none =>
      have text : f.normalized = "pc".toList ++ '+' :: f.hexText := by
        simp only [normalized, unnamed, known, hexText]
        rfl
      have solid : Solid ("pc".toList ++ '+' :: f.hexText) :=
        solid_append.mpr ⟨by decide, List.forall_mem_cons.mpr ⟨by decide, hexSolid⟩⟩
      have apart : ∀ c ∉ f.hexText, c ∉ "pc+".toList → c ∉ "pc".toList ++ '+' :: f.hexText := by
        intro c outside letters member
        rw [List.append_cons] at member
        exact (List.mem_append.mp member).elim letters outside
      rw [text]
      refine normalizeNativeFrame_plain (by simp) solid (apart '(' hexOpen (by decide)) fun slash => ?_
      exact absurd slash (apart '/' hexSlash (by decide))
  | some file =>
      obtain ⟨solidFile, apartFile⟩ := ordinary.file file known
      have text := normalized_address known unnamed
      have solid : Solid (file ++ '+' :: f.hexText) :=
        solid_append.mpr ⟨solidFile, List.forall_mem_cons.mpr ⟨by decide, hexSolid⟩⟩
      have outside : ∀ c ∉ f.hexText, c ≠ '+' → c ∉ '+' :: f.hexText := fun c hex plus member =>
        (List.mem_cons.mp member).elim plus hex
      have apart : '(' ∉ file ++ '+' :: f.hexText := fun member =>
        (List.mem_append.mp member).elim apartFile (outside '(' hexOpen (by decide))
      have first : f.normalized.takeWhile (fun c => !isWhitespace c) = file ++ '+' :: f.hexText := by
        rw [text, List.takeWhile_eq_self_iff]
        exact fun c member => by simp [solid c member]
      have named := ordinary.library file known
      rw [first] at named
      rw [text]
      dsimp only
      split_ifs with library
      · rw [normalizeNativeFrame_word solid apart, afterLast_append_of_notMem (outside '/' hexSlash (by decide))]
        · refine isLibraryToken_append_left _ ?_
          rw [← upToLast_append_afterLast (c := '/') file]
          exact isLibraryToken_append_right _ library
        · intro closed
          have last := List.mem_of_getLast? (l := '+' :: f.hexText) (a := '/') (by simpa using closed)
          exact outside '/' hexSlash (by decide) last
      · refine normalizeNativeFrame_plain (by simp) solid apart fun _ => ?_
        exact Bool.eq_false_iff.mpr fun seen => library (named seen)

theorem Ordinary.unseen {f : NativeFrame} {file symbol : Str} (ordinary : f.Ordinary)
    (known : f.fileName = some file) (named : f.functionName = some symbol)
    (other : isLibraryToken (afterLast '/' file) = false) :
    ∀ word ∈ splitWhitespace f.normalized, '/' ∈ word → isLibraryToken word = false := by
  have text := normalized_named known named
  have solid : Solid (file ++ ['!']) := solid_append.mpr ⟨(ordinary.file file known).1, by decide⟩
  have library := ordinary.library file known
  intro word member slash
  rw [text, splitWhitespace_solid_append (by simp) solid] at member
  rcases List.mem_cons.mp member with rfl | later
  · have first : f.normalized.takeWhile (fun c => !isWhitespace c) =
        (file ++ ['!']) ++ symbol.takeWhile fun c => !isWhitespace c := by
      rw [text, List.takeWhile_append_of_pos]
      exact fun c member => by simp [solid c member]
    rw [← first]
    exact Bool.eq_false_iff.mpr fun seen => Bool.false_ne_true (other.symm.trans (library seen))
  · have inside := (List.dropWhile_suffix _).subset (subset_of_mem_splitWhitespace later slash)
    exact absurd inside (ordinary.symbol symbol named)

theorem Ordinary.placed {f : NativeFrame} {file : Str} (ordinary : f.Ordinary) (known : f.fileName = some file)
    (root : Rooted file) (library : isLibraryToken (afterLast '/' file) = true) : f.Placed file := by
  obtain ⟨solid, apart⟩ := ordinary.file file known
  have path := upToLast_append_afterLast (c := '/') file
  obtain ⟨solidDirectory, solidName⟩ := solid_append.mp (path ▸ solid)
  have word : (afterLast '/' file).takeWhile (fun c => !isWhitespace c) = afterLast '/' file :=
    List.takeWhile_eq_self_iff.mpr fun c member => by simp [solidName c member]
  refine ⟨?_, ⟨solidDirectory, fun member => apart ?_⟩, fun symbol named => ?_, fun bare => ?_⟩
  · rwa [word]
  · exact path ▸ List.mem_append_left _ member
  · exact .of_notMem (ordinary.symbol symbol named)
  · rw [bare, List.nil_append] at path
    have inside : '/' ∈ afterLast '/' file := by
      rw [path]
      exact List.mem_of_head? root
    exact absurd inside notMem_afterLast

section
variable {f f' : NativeFrame}

theorem Comparable.shownPath (pair : f.Comparable f') :
    f.shownPath = f'.shownPath ∨ Rooted f.shownPath ∧ Rooted f'.shownPath := by
  rcases pair.rooted with same | ⟨file, file', known, known', root, root'⟩
  · left
    rw [NativeFrame.shownPath, NativeFrame.shownPath, same]
  · have library := pair.rebuilt.library
    rw [known, known', Option.map_some, Option.map_some, Option.some.injEq] at library
    simp only [NativeFrame.shownPath, known, known', ← library]
    split_ifs
    · exact .inl rfl
    · exact .inr ⟨root, root'⟩

theorem Comparable.named (pair : f.Comparable f') (named : f.functionName ≠ none) :
    f.Steady f' ∨ ∃ file file' rest, f.fileName = some file ∧ f'.fileName = some file' ∧ Rooted file ∧
      Rooted file' ∧ normalizeNativeFrame f.normalized = file ++ rest ∧
        normalizeNativeFrame f'.normalized = file' ++ rest := by
  obtain ⟨symbol, named⟩ := Option.ne_none_iff_exists'.mp named
  have named' : f'.functionName = some symbol := pair.rebuilt.symbol ▸ named
  have address : f.functionName = none → f.relativePc = f'.relativePc := fun none => by
    cases named.symm.trans none
  rcases pair.rooted with same | ⟨file, file', known, known', root, root'⟩
  · exact .inl ⟨address, .inl same⟩
  have base := pair.rebuilt.library
  rw [known, known', Option.map_some, Option.map_some, Option.some.injEq] at base
  obtain ⟨here, there⟩ := pair.ordinary
  cases library : isLibraryToken (afterLast '/' file) with
  | true => exact .inl ⟨address, .inr ⟨file, file', known, known',
      .inl ⟨here.placed known root library, there.placed known' root' (base ▸ library)⟩⟩⟩
  | false =>
      have unseen := here.unseen known named library
      have unseen' := there.unseen known' named' (base ▸ library)
      by_cases parameters : nativeSymbol symbol = []
      · have shown : ∀ {g : NativeFrame} {path : Str}, g.Ordinary → g.fileName = some path →
            g.functionName = some symbol →
            (∀ word ∈ splitWhitespace g.normalized, '/' ∈ word → isLibraryToken word = false) →
            normalizeNativeFrame g.normalized = path ++ ('!' :: trimEnd symbol) := by
          intro g path ordinary known named unseen
          obtain ⟨solid, apart⟩ := ordinary.file path known
          have solid : Solid (path ++ ['!']) := solid_append.mpr ⟨solid, by decide⟩
          have apart : '(' ∉ path ++ ['!'] := by simp [apart]
          rw [normalized_named known named] at unseen ⊢
          rw [normalizeNativeFrame_unseen (by simp) solid apart unseen, if_pos parameters]
          exact (List.append_cons path '!' (trimEnd symbol)).symm
        exact .inr ⟨file, file', _, known, known', root, root', shown here known named unseen,
          shown there known' named' unseen'⟩
      · exact .inl ⟨address, .inr ⟨file, file', known, known',
          .inr ⟨⟨here.file file known, unseen, symbol, named, parameters⟩,
            ⟨there.file file' known', unseen', symbol, named', parameters⟩⟩⟩⟩

theorem Comparable.isFrameworkFrame (pair : f.Comparable f') :
    isFrameworkFrame (normalizeNativeFrame f.normalized) =
      isFrameworkFrame (normalizeNativeFrame f'.normalized) := by
  obtain ⟨here, there⟩ := pair.ordinary
  by_cases unnamed : f.functionName = none
  · rw [here.normalize_address unnamed, there.normalize_address (pair.rebuilt.symbol ▸ unnamed)]
    rcases pair.shownPath with same | ⟨root, root'⟩
    · rw [same]
      exact isFrameworkFrame_plus there.shownPath f.hexText_plain.1 f'.hexText_plain.1
    · rw [root.isFrameworkFrame here.shownPath, root'.isFrameworkFrame there.shownPath]
  · rcases pair.named unnamed with steady | ⟨file, file', rest, known, known', root, root', shown, shown'⟩
    · rw [steady.normalize pair.rebuilt]
    · rw [shown, shown', root.isFrameworkFrame (here.file file known).1,
        root'.isFrameworkFrame (there.file file' known').1]

theorem Comparable.steady (pair : f.Comparable f')
    (same : normalizeNativeFrame f.normalized = normalizeNativeFrame f'.normalized) : f.Steady f' := by
  obtain ⟨here, there⟩ := pair.ordinary
  by_cases unnamed : f.functionName = none
  · rw [here.normalize_address unnamed, there.normalize_address (pair.rebuilt.symbol ▸ unnamed)] at same
    have parts := congrArg (rsplitOnce '+') same
    rw [rsplitOnce_append_cons f.hexText_plain.2.2.2, rsplitOnce_append_cons f'.hexText_plain.2.2.2,
      Option.some.injEq, Prod.mk.injEq] at parts
    obtain ⟨paths, addresses⟩ := parts
    refine ⟨fun _ => hexText_inj addresses, ?_⟩
    rcases pair.rooted with same | ⟨file, file', known, known', root, root'⟩
    · exact .inl same
    have base := pair.rebuilt.library
    rw [known, known', Option.map_some, Option.map_some, Option.some.injEq] at base
    cases library : isLibraryToken (afterLast '/' file) with
    | true => exact .inr ⟨file, file', known, known',
        .inl ⟨here.placed known root library, there.placed known' root' (base ▸ library)⟩⟩
    | false =>
        simp only [NativeFrame.shownPath, known, known', ← base, library] at paths
        exact .inl (known.trans ((congrArg some paths).trans known'.symm))
  · rcases pair.named unnamed with steady | ⟨file, file', rest, known, known', -, -, shown, shown'⟩
    · exact steady
    · rw [shown, shown'] at same
      have files := List.append_cancel_right same
      exact ⟨fun none => absurd none unnamed, .inl (known.trans ((congrArg some files).trans known'.symm))⟩

end

end NativeFrame

section
variable {frames frames' : List NativeFrame}

theorem shown_native (frames : List NativeFrame) : shown .nativeCrash (frames.map NativeFrame.normalized) =
    (countedFrames frames).map fun frame => normalizeNativeFrame frame.normalized := by
  have normalized : (frames.map NativeFrame.normalized).map (Fingerprint.normalizer .nativeCrash) =
      frames.map fun frame => normalizeNativeFrame frame.normalized := List.map_map
  have app : ((frames.map fun frame => normalizeNativeFrame frame.normalized).filter
      fun frame => !isFrameworkFrame frame) = (frames.filter fun frame =>
        !isFrameworkFrame (normalizeNativeFrame frame.normalized)).map
          fun frame => normalizeNativeFrame frame.normalized := by
    rw [List.filter_map]
    rfl
  simp only [shown, Fingerprint.fromRawFrames, normalized, app, countedFrames, ← List.map_take, List.isEmpty_map]
  split_ifs <;> rfl

theorem countedFrames_comparable (pairs : List.Forall₂ NativeFrame.Comparable frames frames') :
    List.Forall₂ NativeFrame.Comparable (countedFrames frames) (countedFrames frames') := by
  have app : List.Forall₂ NativeFrame.Comparable
      (frames.filter fun frame => !isFrameworkFrame (normalizeNativeFrame frame.normalized))
      (frames'.filter fun frame => !isFrameworkFrame (normalizeNativeFrame frame.normalized)) := by
    refine List.rel_filter (fun f f' pair => ?_) pairs
    show (!isFrameworkFrame _) = true ↔ (!isFrameworkFrame _) = true
    rw [pair.isFrameworkFrame]
  have app := List.forall₂_take fingerprintFrameCount app
  rw [countedFrames, countedFrames]
  generalize (frames.filter _).take _ = here, (frames'.filter _).take _ = there at app
  cases app with
  | nil => exact List.forall₂_take _ pairs
  | cons first rest => exact .cons first rest

theorem steady_of_map_eq (pairs : List.Forall₂ NativeFrame.Comparable frames frames')
    (same : (frames.map fun frame => normalizeNativeFrame frame.normalized) =
      frames'.map fun frame => normalizeNativeFrame frame.normalized) :
    List.Forall₂ (fun f f' => f.Rebuilt f' ∧ f.Steady f') frames frames' := by
  induction pairs with
  | nil => exact .nil
  | cons pair _ ih =>
      obtain ⟨first, rest⟩ := List.cons.inj same
      exact .cons ⟨pair.rebuilt, pair.steady first⟩ (ih rest)

theorem map_eq_of_steady
    (steady : List.Forall₂ (fun f f' : NativeFrame => f.Rebuilt f' ∧ f.Steady f') frames frames') :
    (frames.map fun frame => normalizeNativeFrame frame.normalized) =
      frames'.map fun frame => normalizeNativeFrame frame.normalized := by
  induction steady with
  | nil => rfl
  | cons one _ ih => exact List.cons_eq_cons.mpr ⟨one.2.normalize one.1, ih⟩

end

theorem tombstoneFragment_alike {report report' : TombstoneReport} (rebuilt : report.Rebuilt report')
    (path path' : Str) (modifiedMs : I64) :
    (tombstoneFragment report path modifiedMs).Alike (tombstoneFragment report' path' modifiedMs) := by
  rw [CrashFragment.Alike, ← rebuilt.same]
  rfl

def tombstoneRecord (before : List CrashFragment) (tombstone : CrashFragment) (after : List CrashFragment)
    (completionId : UInt64) : CrashRecord :=
  ((Occurrence.around before tombstone after).pending.finish completionId).record

def TombstoneFormat.quality : TombstoneFormat → EvidenceQuality
  | .protobuf => .protobuf
  | .text => .artifact

/-- The record takes its frames from another fragment, or the frames that its fingerprint counts are steady. -/
def SteadyRecord (before after : List CrashFragment) (report report' : TombstoneReport) : Prop :=
  TakesFrames before after report.format.quality →
    List.Forall₂ (fun f f' => f.Rebuilt f' ∧ f.Steady f') (countedFrames report.frames)
      (countedFrames report'.frames)

def singleFrame (relativePc : UInt64) (symbol : Option Str) (file : Str) : TombstoneReport where
  format := .protobuf
  pid := 41
  tid := 42
  uid := some 10123
  processName := "com.example".toList
  threadName := some "worker".toList
  signalNumber := some 11
  signalName := some "SIGSEGV".toList
  signalCode := some 1
  signalCodeName := some "SEGV_MAPERR".toList
  abortMessage := none
  cause := none
  frames := [⟨relativePc, symbol, none, some file, none⟩]
  rawText := none

theorem singleFrame_rebuilt (relativePc relativePc' : UInt64) (symbol : Option Str) {file file' : Str}
    (library : afterLast '/' file = afterLast '/' file') :
    (singleFrame relativePc symbol file).Rebuilt (singleFrame relativePc' symbol file') :=
  ⟨rfl, .cons ⟨rfl, congrArg some library⟩ .nil⟩

theorem singleFrame_comparable (relativePc relativePc' : UInt64) :
    NativeFrame.Comparable ⟨relativePc, none, none, some "/a/x.so".toList, none⟩
      ⟨relativePc', none, none, some "/a/x.so".toList, none⟩ := by
  have ordinary : ∀ n : UInt64, NativeFrame.Ordinary ⟨n, none, none, some "/a/x.so".toList, none⟩ := by
    refine fun n => ⟨fun symbol named => ?_, fun file known => ?_, fun file known _ => ?_⟩
    · cases named
    all_goals obtain rfl := Option.some.inj known
    · decide
    · decide
  exact ⟨⟨rfl, rfl⟩, ⟨ordinary relativePc, ordinary relativePc'⟩, .inl rfl⟩

theorem takesFrames_alone {quality : EvidenceQuality} : TakesFrames [] [] quality := by
  refine ⟨fun first rest split => ?_, fun f member => ?_⟩
  · cases split
  · cases member

theorem countedFrames_single (frame : NativeFrame) : countedFrames [frame] = [frame] := by
  cases framework : isFrameworkFrame (normalizeNativeFrame frame.normalized) <;>
    simp [countedFrames, framework, fingerprintFrameCount]

def textCopy (relativePc : UInt64) : TombstoneReport :=
  { singleFrame relativePc none "/a/x.so".toList with format := .text }

end CrashCatcher.Collect
