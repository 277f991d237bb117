import CrashCatcher.Lib.Text
import Mathlib.Data.List.Infix
import Mathlib.Data.List.Sort

namespace CrashCatcher.Lib.Sql

/-- SQLite decodes these two as the replacement character. -/
def decode (c : Char) : Char := if c = '\uFFFE' ∨ c = '\uFFFF' then '\uFFFD' else c

/-- What `LIKE` sees of a text, which ends for it at the first NUL. -/
def seen (text : Str) : Str := (text.takeWhile (· ≠ '\x00')).map decode

/-- Only ASCII letters match in either case; `\` is the escape. -/
def patternCompare : Str → Str → Bool
  | [], text => text.isEmpty
  | '%' :: pattern, text => text.tails.any fun rest => patternCompare pattern rest
  | '_' :: pattern, _ :: text => patternCompare pattern text
  | '\\' :: c :: pattern, d :: text => c.toLower == d.toLower && patternCompare pattern text
  | c :: pattern, d :: text => c != '\\' && c.toLower == d.toLower && patternCompare pattern text
  | _, [] => false

def like (pattern text : Str) : Bool := patternCompare (seen pattern) (seen text)

inductive Value where
  | null
  | integer (n : Int)
  | text (s : Str)
deriving DecidableEq

namespace Value

def less : Value → Value → Bool
  | null, null => false
  | null, _ => true
  | integer a, integer b => decide (a < b)
  | integer _, text _ => true
  | text a, text b => decide (a < b)
  | _, _ => false

def asText : Value → Option Str
  | null => none
  | integer n => some (toString n).toList
  | text s => some s

end Value

inductive Comparison where
  | less
  | greater
  | atLeast
  | equal
deriving DecidableEq

namespace Comparison

def sign : Comparison → Str
  | less => "<".toList
  | greater => ">".toList
  | atLeast => ">=".toList
  | equal => "=".toList

/-- Nothing compares to `NULL`. -/
def apply (op : Comparison) : Value → Value → Option Bool
  | .null, _ => none
  | _, .null => none
  | a, b => some (match op with
    | less => a.less b
    | greater => b.less a
    | atLeast => !a.less b
    | equal => a == b)

end Comparison

theorem Comparison.equal_apply {a b : Value} (known : a ≠ .null) (other : b ≠ .null) :
    Comparison.equal.apply a b = some (a == b) := by
  cases a with
  | null => exact absurd rfl known
  | integer n => cases b with
    | null => exact absurd rfl other
    | integer m => rfl
    | text t => rfl
  | text s => cases b with
    | null => exact absurd rfl other
    | integer m => rfl
    | text t => rfl

/-- `AND` and `OR` where either side may be unknown. -/
def and3 : Option Bool → Option Bool → Option Bool
  | some false, _ => some false
  | _, some false => some false
  | some true, b => b
  | none, _ => none

def or3 : Option Bool → Option Bool → Option Bool
  | some true, _ => some true
  | _, some true => some true
  | some false, b => b
  | none, _ => none

@[simp] theorem and3_some (a b : Bool) : and3 (some a) (some b) = some
    (a && b) := by cases a <;> cases b <;> rfl
@[simp] theorem or3_some (a b : Bool) : or3 (some a) (some b) = some (a || b) := by cases a <;> cases b <;> rfl

def IsName (name : Str) : Prop := ∀ c ∈ name, c.isAlphanum ∨ c = '_'

instance (name : Str) : Decidable (IsName name) :=
    List.decidableBAll (fun c : Char => c.isAlphanum ∨ c = '_') name

inductive Operand where
  | column (name : Str)
  | integer (n : Nat)
  | blank
  | placeholder
  | coalesce (a b : Operand)

namespace Operand

def text : Operand → Str
  | column name => name
  | integer n => (toString n).toList
  | blank => "''".toList
  | placeholder => "?".toList
  | coalesce a b => "COALESCE(".toList ++ a.text ++ ", ".toList ++ b.text ++ ")".toList

def holes : Operand → Nat
  | placeholder => 1
  | coalesce a b => a.holes + b.holes
  | _ => 0

def value (cells : Str → Value) (bind : Nat → Value) (i : Nat) : Operand → Value
  | column name => cells name
  | integer n => .integer n
  | blank => .text []
  | placeholder => bind i
  | coalesce a b => match a.value cells bind i with
    | .null => b.value cells bind (i + a.holes)
    | value => value

def Reads : Operand → Prop
  | column name => IsName name
  | coalesce a b => a.Reads ∧ b.Reads
  | _ => True

end Operand

def placeholders (count : Nat) : Str := [','].intercalate (List.replicate count ['?'])

inductive Cond where
  | compare (op : Comparison) (a b : Operand)
  | isIn (a : Operand) (count : Nat)
  | like (a pattern : Operand)
  | not (c : Cond)
  | and (c d : Cond)
  | or (gap : Str) (c d : Cond)
  | paren (c : Cond)

namespace Cond

def text : Cond → Str
  | compare op a b => a.text ++ " ".toList ++ op.sign ++ " ".toList ++ b.text
  | isIn a count => a.text ++ " IN (".toList ++ placeholders count ++ ")".toList
  | like a pattern => a.text ++ " LIKE ".toList ++ pattern.text ++ " ESCAPE '\\'".toList
  | not c => "NOT ".toList ++ c.text
  | and c d => c.text ++ " AND ".toList ++ d.text
  | or gap c d => c.text ++ gap ++ "OR ".toList ++ d.text
  | paren c => "(".toList ++ c.text ++ ")".toList

def holes : Cond → Nat
  | compare _ a b => a.holes + b.holes
  | isIn a count => a.holes + count
  | like a pattern => a.holes + pattern.holes
  | not c => c.holes
  | and c d => c.holes + d.holes
  | or _ c d => c.holes + d.holes
  | paren c => c.holes

def level : Cond → Nat
  | or _ _ _ => 1
  | and _ _ => 2
  | not _ => 3
  | _ => 4

/-- The text is read as this tree: operators are bracketed, and gaps are white. -/
def Reads : Cond → Prop
  | compare _ a b => a.Reads ∧ b.Reads
  | isIn a _ => a.Reads
  | like a pattern => a.Reads ∧ pattern.Reads
  | not c => 3 ≤ c.level ∧ c.Reads
  | and c d => 2 ≤ c.level ∧ 2 ≤ d.level ∧ c.Reads ∧ d.Reads
  | or gap c d => gap ≠ [] ∧ (∀ c ∈ gap, Text.isWhitespace c) ∧ c.Reads ∧ d.Reads
  | paren c => c.Reads

def truth (cells : Str → Value) (bind : Nat → Value) (i : Nat) : Cond → Option Bool
  | compare op a b => op.apply (a.value cells bind i) (b.value cells bind (i + a.holes))
  | isIn a count =>
      ((List.range count).map fun k => Comparison.equal.apply (a.value cells bind i)
        (bind (i + a.holes + k))).foldr
        or3 (some false)
  | like a pattern => do
      let text ← (a.value cells bind i).asText
      let pattern ← (pattern.value cells bind (i + a.holes)).asText
      pure (Sql.like pattern text)
  | not c => (c.truth cells bind i).map (! ·)
  | and c d => and3 (c.truth cells bind i) (d.truth cells bind (i + c.holes))
  | or _ c d => or3 (c.truth cells bind i) (d.truth cells bind (i + c.holes))
  | paren c => c.truth cells bind i

end Cond

def conjunction (cells : Str → Value) (bind : Nat → Value) : Nat → List Cond → Option Bool
  | _, [] => some true
  | i, c :: rest => and3 (c.truth cells bind i) (conjunction cells bind (i + c.holes) rest)

def totalHoles : List Cond → Nat
  | [] => 0
  | c :: rest => c.holes + totalHoles rest

structure Select where
  columns : List Str
  table : Str
  conds : List Cond
  order : List (Str × Bool)
  limit : Operand

namespace Select

def direction (descending : Bool) : Str := if descending then "DESC".toList else "ASC".toList

def text (self : Select) : Str :=
  "SELECT ".toList ++ ", ".toList.intercalate self.columns ++ " FROM ".toList ++ self.table ++
    (if self.conds.isEmpty then [] else " WHERE ".toList ++
      " AND ".toList.intercalate (self.conds.map Cond.text)) ++
    " ORDER BY ".toList ++
    ", ".toList.intercalate (self.order.map fun term => term.1 ++ " ".toList ++ direction term.2) ++
    " LIMIT ".toList ++ self.limit.text

def holes (self : Select) : Nat := totalHoles self.conds + self.limit.holes

structure Reads (s : Select) : Prop where
  columns : ∀ name ∈ s.columns, IsName name
  table : IsName s.table
  conds : ∀ c ∈ s.conds, c.Reads ∧ 2 ≤ c.level
  order : ∀ term ∈ s.order, IsName term.1
  limit : s.limit.Reads

section
variable {ρ : Type} (cells : ρ → Str → Value)

def orderBy : List (Str × Bool) → ρ → ρ → Bool
  | [], _, _ => true
  | (name, descending) :: rest, a, b =>
      if (cells a name).less (cells b name) then !descending
      else if (cells b name).less (cells a name) then descending
      else orderBy rest a b

/-- The rows that it selects; its placeholders are bound by their place in the text. -/
def run (self : Select) (params : List Value) (rows : List ρ) : List ρ :=
  let bind i := params.getD i .null
  let kept := rows.filter fun row => conjunction (cells row) bind 0 self.conds == some true
  let sorted := kept.mergeSort (orderBy cells self.order)
  match self.limit.value (fun _ => .null) bind (totalHoles self.conds) with
  | .integer n => if n < 0 then sorted else sorted.take n.toNat
  | _ => []

theorem run_of_limit {s : Select} {params : List Value} {n : Int}
    (limited : s.limit.value (fun _ => .null) (fun i => params.getD i .null) (totalHoles s.conds) = .integer n)
    (positive : ¬ n < 0) (rows : List ρ) :
    s.run cells params rows =
      ((rows.filter fun row => conjunction (cells row)
        (fun i => params.getD i .null) 0 s.conds == some true).mergeSort
        (orderBy cells s.order)).take n.toNat := by
  simp only [run, limited, if_neg positive]

end

end Select

theorem and3_true (a : Option Bool) : and3 (some true) a = a := by
  cases a with
  | none => rfl
  | some a => cases a <;> rfl

theorem and3_assoc (a b c : Option Bool) : and3 (and3 a b) c = and3 a (and3 b c) := by
  cases a with
  | some a => cases a with
    | true => rw [and3_true, and3_true]
    | false => rfl
  | none => cases b with
    | some b => cases b with
      | true => rw [and3_true]; rfl
      | false => rfl
    | none => rcases c with _ | _ | _ <;> rfl

theorem IsName.no_hole {name : Str} (isName : IsName name) : name.count '?' = 0 := by
  refine List.count_eq_zero.mpr fun member => ?_
  rcases isName _ member with letter | score
  · cases letter
  · cases score

theorem count_toString (n : Nat) : ((toString n).toList).count '?' = 0 := by
  refine List.count_eq_zero.mpr fun member => ?_
  have digit : ('?').isDigit = true := by
    refine Nat.isDigit_of_mem_toDigits (b := 10) (n := n) (by decide) (by decide) ?_
    rw [← Nat.toList_repr]
    exact member
  cases digit

theorem Operand.count_text {a : Operand} (reads : a.Reads) : a.text.count '?' = a.holes := by
  induction a with
  | column name => exact IsName.no_hole reads
  | integer n => exact count_toString n
  | blank => rfl
  | placeholder => rfl
  | coalesce a b iha ihb =>
      have shape : (coalesce a b).text = "COALESCE(".toList ++ a.text ++ ", ".toList ++ b.text ++
          ")".toList := rfl
      have opening : List.count '?' "COALESCE(".toList = 0 := by decide
      have comma : List.count '?' ", ".toList = 0 := by decide
      have closing : List.count '?' ")".toList = 0 := by decide
      obtain ⟨readsA, readsB⟩ := reads
      rw [shape, List.count_append, List.count_append, List.count_append, List.count_append, opening,
        comma, closing, iha readsA, ihb readsB, Nat.zero_add]
      rfl

theorem count_intercalate (separator : Str) (apart : separator.count '?' = 0) (parts : List Str) :
    (separator.intercalate parts).count '?' = (parts.map (List.count '?')).foldr (· + ·) 0 := by
  induction parts with
  | nil => rfl
  | cons part rest ih =>
      cases rest with
      | nil => rw [List.intercalate_singleton]; rfl
      | cons next rest =>
          rw [List.intercalate_cons_cons, List.count_append, List.count_append, apart, ih]
          rfl

theorem count_placeholders (count : Nat) : (placeholders count).count '?' = count := by
  rw [placeholders, count_intercalate _ (by decide), List.map_replicate]
  induction count with
  | zero => rfl
  | succ count ih =>
      rw [List.replicate_succ, List.foldr_cons, ih, Nat.add_comm]
      rfl

theorem Comparison.count_sign (op : Comparison) : op.sign.count '?' = 0 := by
  cases op <;> decide

theorem Cond.count_text {c : Cond} (reads : c.Reads) : c.text.count '?' = c.holes := by
  have space : List.count '?' " ".toList = 0 := by decide
  induction c with
  | compare op a b =>
      have shape : (compare op a b).text = a.text ++ " ".toList ++ op.sign ++ " ".toList ++ b.text := rfl
      obtain ⟨readsA, readsB⟩ := reads
      rw [shape, List.count_append, List.count_append, List.count_append, List.count_append, space,
        op.count_sign, a.count_text readsA, b.count_text readsB]
      rfl
  | isIn a count =>
      have shape : (isIn a count).text = a.text ++ " IN (".toList ++ placeholders count ++ ")".toList := rfl
      have opening : List.count '?' " IN (".toList = 0 := by decide
      have closing : List.count '?' ")".toList = 0 := by decide
      rw [shape, List.count_append, List.count_append, List.count_append, opening, closing, count_placeholders,
        Operand.count_text reads]
      rfl
  | like a pattern =>
      have shape : (like a pattern).text = a.text ++ " LIKE ".toList ++ pattern.text ++
          " ESCAPE '\\'".toList := rfl
      have infixed : List.count '?' " LIKE ".toList = 0 := by decide
      have escape : List.count '?' " ESCAPE '\\'".toList = 0 := by decide
      obtain ⟨readsA, readsB⟩ := reads
      rw [shape, List.count_append, List.count_append, List.count_append, infixed, escape, a.count_text readsA,
        pattern.count_text readsB]
      rfl
  | not c ih =>
      have shape : (not c).text = "NOT ".toList ++ c.text := rfl
      have negation : List.count '?' "NOT ".toList = 0 := by decide
      rw [shape, List.count_append, negation, ih reads.2, Nat.zero_add]
      rfl
  | and c d ihc ihd =>
      have shape : (and c d).text = c.text ++ " AND ".toList ++ d.text := rfl
      have between : List.count '?' " AND ".toList = 0 := by decide
      obtain ⟨-, -, readsC, readsD⟩ := reads
      rw [shape, List.count_append, List.count_append, between, ihc readsC, ihd readsD]
      rfl
  | or gap c d ihc ihd =>
      have shape : (or gap c d).text = c.text ++ gap ++ "OR ".toList ++ d.text := rfl
      have between : List.count '?' "OR ".toList = 0 := by decide
      obtain ⟨-, white, readsC, readsD⟩ := reads
      have gapped : List.count '?' gap = 0 := by
        refine List.count_eq_zero.mpr fun member => ?_
        cases white _ member
      rw [shape, List.count_append, List.count_append, List.count_append, gapped, between, ihc readsC,
        ihd readsD]
      rfl
  | paren c ih =>
      have shape : (paren c).text = "(".toList ++ c.text ++ ")".toList := rfl
      have opening : List.count '?' "(".toList = 0 := by decide
      have closing : List.count '?' ")".toList = 0 := by decide
      rw [shape, List.count_append, List.count_append, opening, closing, ih reads, Nat.zero_add]
      rfl

theorem totalHoles_append (conds more : List Cond) :
    totalHoles (conds ++ more) = totalHoles conds + totalHoles more := by
  induction conds with
  | nil => exact (Nat.zero_add _).symm
  | cons c rest ih => rw [List.cons_append, totalHoles, totalHoles, ih, Nat.add_assoc]

theorem count_conds {conds : List Cond} (reads : ∀ c ∈ conds, c.Reads) :
    ((conds.map Cond.text).map (List.count '?')).foldr (· + ·) 0 = totalHoles conds := by
  induction conds with
  | nil => rfl
  | cons c rest ih =>
      rw [List.map_cons, List.map_cons, List.foldr_cons,
        ih fun d member => reads d (List.mem_cons_of_mem _ member),
        Cond.count_text (reads c List.mem_cons_self), totalHoles]

theorem count_of_parts {parts : List Str} (apart : ∀ part ∈ parts, part.count '?' = 0) :
    (parts.map (List.count '?')).foldr (· + ·) 0 = 0 := by
  induction parts with
  | nil => rfl
  | cons part rest ih =>
      rw [List.map_cons, List.foldr_cons, ih fun other member => apart other (List.mem_cons_of_mem _ member),
        apart part List.mem_cons_self]

theorem Select.count_text {s : Select} (reads : s.Reads) : s.text.count '?' = s.holes := by
  have select : List.count '?' "SELECT ".toList = 0 := by decide
  have from_ : List.count '?' " FROM ".toList = 0 := by decide
  have order : List.count '?' " ORDER BY ".toList = 0 := by decide
  have limit : List.count '?' " LIMIT ".toList = 0 := by decide
  have columns : List.count '?' (", ".toList.intercalate s.columns) = 0 := by
    rw [count_intercalate _ (by decide), count_of_parts fun name member => (reads.columns name member).no_hole]
  have terms : List.count '?' (", ".toList.intercalate
      (s.order.map fun term => term.1 ++ " ".toList ++ direction term.2)) = 0 := by
    rw [count_intercalate _ (by decide)]
    refine count_of_parts fun part member => ?_
    obtain ⟨⟨name, descending⟩, listed, rfl⟩ := List.mem_map.mp member
    have ends : List.count '?' (direction descending) = 0 := by cases descending <;> decide
    have space : List.count '?' " ".toList = 0 := by decide
    rw [List.count_append, List.count_append, (reads.order _ listed).no_hole, space, ends]
  have conds : List.count '?' (if s.conds.isEmpty then []
      else " WHERE ".toList ++ " AND ".toList.intercalate (s.conds.map Cond.text)) = totalHoles s.conds := by
    have where_ : List.count '?' " WHERE ".toList = 0 := by decide
    have joined := count_intercalate " AND ".toList (by decide) (s.conds.map Cond.text)
    rw [count_conds fun c member => (reads.conds c member).1] at joined
    cases empty : s.conds with
    | nil => rfl
    | cons c rest =>
        rw [← empty, if_neg (by rw [empty]; exact nofun), List.count_append, where_, joined, Nat.zero_add]
  have shape : s.text = "SELECT ".toList ++ ", ".toList.intercalate s.columns ++ " FROM ".toList ++ s.table ++
      (if s.conds.isEmpty then [] else " WHERE ".toList ++
        " AND ".toList.intercalate (s.conds.map Cond.text)) ++
      " ORDER BY ".toList ++
      ", ".toList.intercalate (s.order.map fun term => term.1 ++ " ".toList ++ direction term.2) ++
      " LIMIT ".toList ++ s.limit.text := rfl
  rw [shape, List.count_append, List.count_append, List.count_append, List.count_append, List.count_append,
    List.count_append, List.count_append, List.count_append, select, columns, from_, reads.table.no_hole,
      conds, order,
    terms, limit, s.limit.count_text reads.limit]
  simp only [holes, Nat.zero_add, Nat.add_zero]

def Bound (bind : Nat → Value) (i : Nat) (values : List Value) : Prop :=
  ∀ k v, values[k]? = some v → bind (i + k) = v

section
variable {cells : Str → Value} {bind : Nat → Value} {i : Nat}

theorem Bound.head {v : Value} {values : List Value} (bound : Bound bind i (v :: values)) : bind i = v :=
  bound 0 v rfl

theorem Bound.append {values more : List Value} (bound : Bound bind i (values ++ more)) :
    Bound bind i values ∧ Bound bind (i + values.length) more := by
  refine ⟨fun k v found => ?_, fun k v found => ?_⟩
  · refine bound k v ?_
    rw [List.getElem?_append_left (List.getElem?_eq_some_iff.mp found).1, found]
  · rw [Nat.add_assoc]
    refine bound _ v ?_
    rw [List.getElem?_append_right (Nat.le_add_right _ _), Nat.add_sub_cancel_left, found]

theorem bound_getD (params : List Value) : Bound (fun i => params.getD i .null) 0 params := by
  intro k v found
  simp [List.getD, found]

theorem conjunction_append (conds more : List Cond) (i : Nat) :
    conjunction cells bind i (conds ++ more) =
      and3 (conjunction cells bind i conds) (conjunction cells bind (i + totalHoles conds) more) := by
  induction conds generalizing i with
  | nil => rw [conjunction, and3_true]; rfl
  | cons c rest ih =>
      rw [List.cons_append, conjunction, ih, conjunction, and3_assoc, totalHoles, Nat.add_assoc]

theorem truth_isIn {a : Operand} {values : List Value} (bound : Bound bind (i + a.holes) values)
    (known : a.value cells bind i ≠ .null) (valued : .null ∉ values) :
    (Cond.isIn a values.length).truth cells bind i = some (values.contains (a.value cells bind i)) := by
  have listed : ((List.range values.length).map fun k =>
      Comparison.equal.apply (a.value cells bind i) (bind (i + a.holes + k))) =
      values.map fun v => some (a.value cells bind i == v) := by
    refine List.ext_getElem (by simp) fun k _ inside => ?_
    have inside : k < values.length := by simpa using inside
    have found : bind (i + a.holes + k) = values[k] := bound k _ (List.getElem?_eq_getElem inside)
    have nonnull : values[k] ≠ .null := fun same => valued (same ▸ List.getElem_mem inside)
    rw [List.getElem_map, List.getElem_map, List.getElem_range, found]
    exact Comparison.equal_apply known nonnull
  rw [Cond.truth, listed]
  clear listed bound valued
  induction values with
  | nil => rfl
  | cons v values ih => rw [List.map_cons, List.foldr_cons, ih, or3_some, List.contains_cons]

end

def Contains (needle text : Str) : Prop :=
  ∃ front middle back, text = front ++ middle ++ back ∧ middle.map Char.toLower = needle.map Char.toLower

/-- Escapes the metacharacters, so that `%` is searched for as `%`. -/
def escape (query : Str) : Str :=
  query.flatMap fun c => if c = '\\' ∨ c = '%' ∨ c = '_' then ['\\', c] else [c]

theorem patternCompare_rest (text : Str) : patternCompare ['%'] text = true := by
  rw [patternCompare, List.any_eq_true]
  exact ⟨[], (List.mem_tails _ _).mpr List.nil_suffix, rfl⟩

theorem patternCompare_literal (c : Char) (pattern text : Str) :
    patternCompare ((if c = '\\' ∨ c = '%' ∨ c = '_' then ['\\', c] else [c]) ++ pattern) text = true ↔
      ∃ d rest, text = d :: rest ∧ c.toLower = d.toLower ∧ patternCompare pattern rest = true := by
  by_cases special : c = '\\' ∨ c = '%' ∨ c = '_'
  · rw [if_pos special]
    cases text with
    | nil => simp [patternCompare]
    | cons d rest => simp [patternCompare]
  · rw [if_neg special]
    obtain ⟨backslash, percent, score⟩ : c ≠ '\\' ∧ c ≠ '%' ∧ c ≠ '_' := by
      simpa only [not_or] using special
    cases text with
    | nil =>
        have unmatched : patternCompare (c :: pattern) [] = false := by
          unfold patternCompare
          split
          all_goals first | rfl | simp_all
        simp [unmatched]
    | cons d rest => simp [patternCompare, backslash]

theorem patternCompare_escape (query text : Str) :
    patternCompare (escape query ++ ['%']) text = true ↔
      ∃ middle back, text = middle ++ back ∧ middle.map Char.toLower = query.map Char.toLower := by
  induction query generalizing text with
  | nil =>
      refine ⟨fun _ => ⟨[], text, rfl, rfl⟩, fun _ => patternCompare_rest text⟩
  | cons c query ih =>
      have shape : escape (c :: query) ++ ['%'] =
          (if c = '\\' ∨ c = '%' ∨ c = '_' then ['\\', c] else [c]) ++ (escape query ++ ['%']) := by
        rw [escape, List.flatMap_cons, List.append_assoc]
        rfl
      rw [shape, patternCompare_literal]
      constructor
      · rintro ⟨d, rest, rfl, letter, matched⟩
        obtain ⟨middle, back, rfl, same⟩ := (ih rest).mp matched
        exact ⟨d :: middle, back, rfl, by rw [List.map_cons, List.map_cons, letter, same]⟩
      · rintro ⟨middle, back, rfl, same⟩
        cases middle with
        | nil => cases same
        | cons d middle =>
            obtain ⟨letter, same⟩ := List.cons_eq_cons.mp same
            exact ⟨d, middle ++ back, rfl, letter.symm, (ih _).mpr ⟨middle, back, rfl, same⟩⟩

theorem patternCompare_contains (query text : Str) :
    patternCompare ('%' :: escape query ++ ['%']) text = true ↔ Contains query text := by
  rw [List.cons_append, patternCompare, List.any_eq_true]
  constructor
  · rintro ⟨rest, tail, matched⟩
    obtain ⟨middle, back, rfl, same⟩ := (patternCompare_escape query rest).mp matched
    obtain ⟨front, rfl⟩ := (List.mem_tails _ _).mp tail
    exact ⟨front, middle, back, (List.append_assoc _ _ _).symm, same⟩
  · rintro ⟨front, middle, back, rfl, same⟩
    refine ⟨middle ++ back, (List.mem_tails _ _).mpr ⟨front, (List.append_assoc _ _ _).symm⟩, ?_⟩
    exact (patternCompare_escape query _).mpr ⟨middle, back, rfl, same⟩

def Shows (needle text : Str) : Prop := Contains (seen needle) (seen text)

/-- A text that `LIKE` sees as it is. -/
structure Plain (text : Str) : Prop where
  ends : '\x00' ∉ text
  apart : '\uFFFE' ∉ text ∧ '\uFFFF' ∉ text

theorem seen_of_no_nul {text : Str} (ends : '\x00' ∉ text) : seen text = text.map decode := by
  rw [seen, List.takeWhile_eq_self_iff.mpr]
  intro c member
  exact decide_eq_true fun nul => ends (nul ▸ member)

theorem Plain.seen {text : Str} (plain : Plain text) : seen text = text := by
  rw [seen_of_no_nul plain.ends]
  refine (List.map_congr_left fun c member => ?_).trans (List.map_id _)
  refine if_neg fun folded => ?_
  rcases folded with rfl | rfl
  · exact plain.apart.1 member
  · exact plain.apart.2 member

theorem Plain.shows_iff {needle text : Str} (plain : Plain needle) (plain' : Plain text) :
    Shows needle text ↔ Contains needle text := by
  rw [Shows, plain.seen, plain'.seen]

theorem decode_eq_iff {c d : Char} (ascii : d.toNat < 0x80) : decode c = d ↔ c = d := by
  unfold decode
  split
  · rename_i folded
    have outside : d ≠ '\uFFFD' ∧ d ≠ '\uFFFE' ∧ d ≠ '\uFFFF' := by
      refine ⟨?_, ?_, ?_⟩ <;> rintro rfl <;> exact absurd ascii (by decide)
    rcases folded with rfl | rfl
    · exact iff_of_false outside.1.symm outside.2.1.symm
    · exact iff_of_false outside.1.symm outside.2.2.symm
  · exact Iff.rfl

theorem escape_decode (query : Str) : (escape query).map decode = escape (query.map decode) := by
  induction query with
  | nil => rfl
  | cons c query ih =>
      have same : (if c = '\\' ∨ c = '%' ∨ c = '_' then ['\\', c] else [c]).map decode =
          if decode c = '\\' ∨ decode c = '%' ∨ decode c = '_' then ['\\', decode c] else [decode c] := by
        simp only [decode_eq_iff (show ('\\').toNat < 0x80 by decide),
          decode_eq_iff (show ('%').toNat < 0x80 by decide), decode_eq_iff (show ('_').toNat < 0x80 by decide)]
        split <;> rfl
      rw [escape, List.flatMap_cons, List.map_append, same]
      exact congrArg (_ ++ ·) ih

/-- Between two `%`, an escaped text without NUL is looked for in what `LIKE` sees. -/
theorem like_contains {query : Str} (ends : '\x00' ∉ query) (text : Str) :
    like ('%' :: escape query ++ ['%']) text = true ↔ Shows query text := by
  have whole : '\x00' ∉ '%' :: escape query ++ ['%'] := by
    intro member
    rcases List.mem_append.mp member with member | last
    · rcases List.mem_cons.mp member with first | member
      · exact absurd first (by decide)
      · obtain ⟨c, among, letter⟩ := List.mem_flatMap.mp member
        split at letter
        · rcases List.mem_cons.mp letter with backslash | same
          · exact absurd backslash (by decide)
          · exact ends (List.mem_singleton.mp same ▸ among)
        · exact ends (List.mem_singleton.mp letter ▸ among)
    · exact absurd (List.mem_singleton.mp last) (by decide)
  have pattern : seen ('%' :: escape query ++ ['%']) = '%' :: escape (query.map decode) ++ ['%'] := by
    rw [seen_of_no_nul whole, List.map_append, List.map_cons, escape_decode]
    rfl
  rw [like, pattern, patternCompare_contains, Shows, seen_of_no_nul ends]

end CrashCatcher.Lib.Sql
