import CrashCatcher.Lib.ByteCursor

namespace CrashCatcher.Lib.ByteCursor
open Checked LittleEndian

abbrev Reader (ε α : Type) := ByteCursor → Checked ε (α × ByteCursor)

/-- A reader that accepts exactly an encoding: it always comes back, it reads a value exactly where the
value's encoding stands, and it leaves the cursor behind it. -/
structure Reads {ε α : Type} (target : Target) (parse : Reader ε α) (valid : α → Prop)
    (encode : α → List UInt8) : Prop where
  returns : ∀ cursor, cursor.Inside target → (parse cursor).Returns
  ok_iff : ∀ cursor, cursor.Inside target → ∀ value after, parse cursor = .ok (value, after) ↔
    valid value ∧ encode value <+: cursor.rest ∧ after = cursor.skip (encode value).length

namespace Reads
variable {ε α β : Type} {target : Target}

theorem of_prefix_append {a b s : List UInt8} (whole : a ++ b <+: s) : a <+: s ∧ b <+: s.drop a.length := by
  obtain ⟨tail, rfl⟩ := whole
  rw [List.append_assoc, List.drop_left]
  exact ⟨List.prefix_append _ _, List.prefix_append _ _⟩

theorem prefix_append_of {a b s : List UInt8} (first : a <+: s) (second : b <+: s.drop a.length) :
    a ++ b <+: s := by
  obtain ⟨tail, rfl⟩ := first
  rw [List.drop_left] at second
  exact (List.prefix_append_right_inj a).mpr second

theorem congr {parse : Reader ε α} {valid valid' : α → Prop} {encode encode' : α → List UInt8}
    (reads : Reads target parse valid encode) (same : ∀ value, valid' value ↔ valid value)
    (bytes : ∀ value, valid value → encode' value = encode value) : Reads target parse valid' encode' where
  returns := reads.returns
  ok_iff cursor inside value after := by
    rw [reads.ok_iff cursor inside, same]
    refine and_congr_right fun holds => ?_
    rw [bytes value holds]

theorem pure (value : α) :
    Reads target (fun cursor => (.ok (value, cursor) : Checked ε (α × ByteCursor)))
      (· = value) fun _ => [] where
  returns _ _ := trivial
  ok_iff cursor _ other after := by
    constructor
    · intro ran
      cases ran
      exact ⟨rfl, List.nil_prefix, rfl⟩
    · rintro ⟨rfl, -, rfl⟩
      rfl

theorem fail (e : ε) (encode : α → List UInt8) :
    Reads target (fun _ => (.error e : Checked ε (α × ByteCursor))) (fun _ => False) encode where
  returns _ _ := trivial
  ok_iff _ _ _ _ := by
    constructor
    · intro ran
      cases ran
    · rintro ⟨impossible, -⟩
      exact impossible.elim

theorem bind {first : Reader ε α} {second : α → Reader ε β} {valid : α → Prop} {encode : α → List UInt8}
    {validNext : α → β → Prop} {encodeNext : α → β → List UInt8} (reads : Reads target first valid encode)
    (next : ∀ a, valid a → Reads target (second a) (validNext a) (encodeNext a)) (shown : β → α)
    (shows : ∀ a b, valid a → validNext a b → shown b = a) :
    Reads target (fun cursor => first cursor >>= fun read => second read.1 read.2)
      (fun b => valid (shown b) ∧ validNext (shown b) b)
      (fun b => encode (shown b) ++ encodeNext (shown b) b) where
  returns cursor inside := by
    apply (reads.returns cursor inside).bind
    rintro ⟨a, middle⟩ ran
    obtain ⟨valid, start, rfl⟩ := (reads.ok_iff cursor inside a middle).mp ran
    exact (next a valid).returns _ (inside.skip start.length_le)
  ok_iff cursor inside b after := by
    rw [bind_eq_ok]
    constructor
    · rintro ⟨⟨a, middle⟩, ran, ranNext⟩
      obtain ⟨valid, start, rfl⟩ := (reads.ok_iff cursor inside a middle).mp ran
      obtain ⟨validNext, startNext, rfl⟩ :=
        ((next a valid).ok_iff _ (inside.skip start.length_le) b after).mp ranNext
      obtain rfl := shows a b valid validNext
      rw [rest_skip] at startNext
      exact ⟨⟨valid, validNext⟩, prefix_append_of start startNext, by rw [skip_skip, List.length_append]⟩
    · rintro ⟨⟨valid, validNext⟩, whole, rfl⟩
      obtain ⟨start, startNext⟩ := of_prefix_append whole
      refine ⟨(shown b, cursor.skip (encode (shown b)).length),
        (reads.ok_iff cursor inside _ _).mpr ⟨valid, start, rfl⟩, ?_⟩
      refine ((next _ valid).ok_iff _ (inside.skip start.length_le) b _).mpr ⟨validNext, ?_, ?_⟩
      · rwa [rest_skip]
      · rw [skip_skip, List.length_append]

theorem map {first : Reader ε α} {valid : α → Prop} {encode : α → List UInt8} (f : α → β)
    (reads : Reads target first valid encode) (shown : β → α) (shows : ∀ a, valid a → shown (f a) = a) :
    Reads target (fun cursor => first cursor >>= fun read => .ok (f read.1, read.2))
      (fun b => valid (shown b) ∧ b = f (shown b)) (fun b => encode (shown b)) := by
  have next (a : α) (_ : valid a) :
      Reads target (fun cursor => (.ok (f a, cursor) : Checked ε (β × ByteCursor))) (· = f a) fun _ => [] :=
    pure (f a)
  have both := reads.bind next shown fun a b valid same => same ▸ shows a valid
  exact both.congr (fun _ => Iff.rfl) fun _ _ => (List.append_nil _).symm

theorem bind_check {parse : Reader ε α} {valid : α → Prop} {encode : α → List UInt8}
    (reads : Reads target parse valid encode) (check : α → Option β) (e : ε) (shown : β → α)
    (checks : ∀ a b, check a = some b ↔ a = shown b) :
    Reads target (fun cursor => parse cursor >>= fun read => okOr e (check read.1) >>= fun b => .ok (b, read.2))
      (fun b => valid (shown b)) (fun b => encode (shown b)) := by
  have checked (a : α) : Reads target
      (fun cursor => okOr e (check a) >>= fun b => (.ok (b, cursor) : Checked ε (β × ByteCursor)))
      (fun b => a = shown b) fun _ => [] := by
    cases found : check a with
    | none =>
        refine (fail e fun _ => []).congr (fun b => ?_) fun _ _ => rfl
        rw [← checks, found]
        simp
    | some b =>
        refine (pure b).congr (fun other => ?_) fun _ _ => rfl
        rw [← checks, found, Option.some.injEq, eq_comm]
  have both := reads.bind (fun a _ => checked a) shown fun a b _ same => same.symm
  exact both.congr (fun b => (and_iff_left rfl).symm) fun _ _ => (List.append_nil _).symm

theorem bytes (count : Nat) (short : Nat → ε) :
    Reads target (fun cursor => cursor.read target count short) (fun bytes => bytes.length = count) id where
  returns _ inside := returns_read inside count short
  ok_iff _ inside bytes after := by
    rw [read_eq_ok_iff inside]
    constructor
    · rintro ⟨start, rfl, rfl⟩
      exact ⟨rfl, start, rfl⟩
    · rintro ⟨rfl, start, rfl⟩
      exact ⟨start, rfl, rfl⟩

theorem number (width : Nat) (short : Nat → ε) :
    Reads target (fun cursor => cursor.readLe target width short) (fun n => n < 256 ^ width) (toLe width) where
  returns _ inside := returns_readLe inside width short
  ok_iff _ inside n after := by rw [readLe_eq_ok_iff inside, length_toLe]

def nextByte (target : Target) (e : ε) : Reader ε UInt8 := fun cursor => do
  let byte ← okOr e cursor.bytes[cursor.position]?
  let position ← add target.usizeMax cursor.position 1
  return (byte, { cursor with position })

theorem byte (e : ε) : Reads target (nextByte target e) (fun _ => True) fun byte => [byte] := by
  have cases (cursor : ByteCursor) (inside : cursor.Inside target) :
      cursor.rest = [] ∧ nextByte target e cursor = .error e ∨
        ∃ byte tail, cursor.rest = byte :: tail ∧ nextByte target e cursor = .ok (byte, cursor.skip 1) := by
    by_cases here : cursor.position < cursor.bytes.length
    · right
      have small : cursor.position + 1 ≤ target.usizeMax := Nat.le_trans here inside.addressable
      refine ⟨cursor.bytes[cursor.position], cursor.bytes.drop (cursor.position + 1),
        List.drop_eq_getElem_cons here, ?_⟩
      rw [nextByte, List.getElem?_eq_getElem here, okOr_some, ok_bind, add_of_le small]
      rfl
    · left
      have past : cursor.bytes.length ≤ cursor.position := Nat.not_lt.mp here
      rw [nextByte, List.getElem?_eq_none past]
      exact ⟨List.drop_eq_nil_of_le past, rfl⟩
  constructor
  · intro cursor inside
    rcases cases cursor inside with ⟨_, ran⟩ | ⟨byte, tail, _, ran⟩
    · rw [ran]
      trivial
    · rw [ran]
      trivial
  · intro cursor inside value after
    rcases cases cursor inside with ⟨rest, ran⟩ | ⟨byte, tail, rest, ran⟩
    · rw [ran, rest]
      simp
    · rw [ran, rest]
      simp [eq_comm]

def many (parse : Reader ε α) : Nat → Reader ε (List α)
  | 0, cursor => .ok ([], cursor)
  | count + 1, cursor => do
      let (value, cursor) ← parse cursor
      let (values, cursor) ← many parse count cursor
      return (value :: values, cursor)

theorem counted {parse : Reader ε α} {valid : α → Prop} {encode : α → List UInt8}
    (reads : Reads target parse valid encode) (count : Nat) :
    Reads target (many parse count) (fun values => values.length = count ∧ ∀ value ∈ values, valid value)
      (fun values => values.flatMap encode) := by
  induction count with
  | zero =>
      refine (pure []).congr (fun values => ?_) ?_
      · rw [List.length_eq_zero_iff]
        constructor
        · exact And.left
        · rintro rfl
          exact ⟨rfl, fun _ impossible => by cases impossible⟩
      · rintro _ rfl
        rfl
  | succ count ih =>
      have rest (value : α) : Reads target
          (fun cursor => many parse count cursor >>= fun read => .ok (value :: read.1, read.2))
          (fun values => (values.tail.length = count ∧ ∀ value ∈ values.tail, valid value) ∧
            values = value :: values.tail)
          (fun values => values.tail.flatMap encode) :=
        ih.map (value :: ·) List.tail fun _ _ => rfl
      constructor
      · intro cursor inside
        apply (reads.returns cursor inside).bind
        rintro ⟨value, middle⟩ ran
        obtain ⟨-, start, rfl⟩ := (reads.ok_iff cursor inside value middle).mp ran
        exact (rest value).returns _ (inside.skip start.length_le)
      · intro cursor inside values after
        show (parse cursor >>= fun read =>
          many parse count read.2 >>= fun more => .ok (read.1 :: more.1, more.2)) = _ ↔ _
        rw [bind_eq_ok]
        constructor
        · rintro ⟨⟨value, middle⟩, ran, ranRest⟩
          obtain ⟨holds, start, rfl⟩ := (reads.ok_iff cursor inside value middle).mp ran
          obtain ⟨⟨⟨length, all⟩, same⟩, startRest, rfl⟩ :=
            ((rest value).ok_iff _ (inside.skip start.length_le) values after).mp ranRest
          rw [rest_skip] at startRest
          cases values with
          | nil => cases same
          | cons head tail =>
              obtain ⟨rfl, -⟩ := List.cons.inj same
              rw [List.forall_mem_cons, List.flatMap_cons]
              refine ⟨⟨congrArg (· + 1) length, holds, all⟩, prefix_append_of start startRest, ?_⟩
              rw [skip_skip, List.length_append]
              rfl
        · rintro ⟨⟨length, all⟩, whole, rfl⟩
          cases values with
          | nil => cases length
          | cons value values =>
              rw [List.forall_mem_cons] at all
              rw [List.flatMap_cons] at whole ⊢
              obtain ⟨start, startRest⟩ := of_prefix_append whole
              refine ⟨(value, cursor.skip (encode value).length),
                (reads.ok_iff cursor inside _ _).mpr ⟨all.1, start, rfl⟩, ?_⟩
              refine ((rest value).ok_iff _ (inside.skip start.length_le) _ _).mpr
                ⟨⟨⟨Nat.succ.inj length, all.2⟩, rfl⟩, ?_, ?_⟩
              · rwa [rest_skip]
              · rw [skip_skip, List.length_append]
                rfl

end Reads
end CrashCatcher.Lib.ByteCursor
