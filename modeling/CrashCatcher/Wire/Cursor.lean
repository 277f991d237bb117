import CrashCatcher.Lib.Decimal
import CrashCatcher.Wire.Rpc

namespace CrashCatcher.Lib.I64

def signed : Str → Bool × Str
  | '-' :: digits => (true, digits)
  | '+' :: digits => (false, digits)
  | digits => (false, digits)

/-- `str::parse::<i64>`. -/
def parse (text : Str) : Option I64 :=
  let (negative, digits) := signed text
  if digits.isEmpty || !digits.all Char.isDigit then none
  else
    let magnitude : Int := Nat.ofDigitChars 10 digits 0
    ofInt? (if negative then -magnitude else magnitude)

theorem signed_toDigits (n : Nat) : signed (Nat.toDigits 10 n) = (false, Nat.toDigits 10 n) := by
  unfold signed
  split
  · rename_i digits text
    have digit : ('-').isDigit = true := Decimal.isDigit_of_mem_toDigits (n := n) (text ▸ List.mem_cons_self)
    cases digit
  · rename_i digits text
    have digit : ('+').isDigit = true := Decimal.isDigit_of_mem_toDigits (n := n) (text ▸ List.mem_cons_self)
    cases digit
  · rfl

theorem parse_of_signed {text : Str} {negative : Bool} {n : Nat}
    (sign : signed text = (negative, Nat.toDigits 10 n)) :
    parse text = ofInt? (if negative then -(n : Int) else n) := by
  have nonempty : (Nat.toDigits 10 n).isEmpty = false := by simp
  have digits : (Nat.toDigits 10 n).all Char.isDigit = true :=
    List.all_eq_true.mpr fun c member => Decimal.isDigit_of_mem_toDigits member
  simp only [parse, sign, nonempty, digits, Bool.not_true, Bool.or_self, Bool.false_eq_true, if_false,
    Nat.ofDigitChars_ten_toDigits]

theorem parse_toString (value : I64) : parse (toString value.val).toList = some value := by
  rw [← ofInt?_val]
  rcases Decimal.toString_int_cases value.val with ⟨n, nonneg, text⟩ | ⟨n, neg, text⟩
  · rw [text, parse_of_signed (signed_toDigits n), nonneg]
    rfl
  · have sign : signed ('-' :: Nat.toDigits 10 n) = (true, Nat.toDigits 10 n) := by rw [signed]
    rw [text, parse_of_signed sign, neg]
    rfl

end CrashCatcher.Lib.I64

namespace CrashCatcher.Wire
open Lib

def SortKey.ofName (name : Str) : Option SortKey :=
  if name = "last_seen_desc".toList then some .lastSeenDesc
  else if name = "first_seen_desc".toList then some .firstSeenDesc
  else if name = "occurrence_desc".toList then some .occurrenceDesc
  else if name = "package_asc".toList then some .packageAsc
  else none

def CursorAnchor.parse (kind text : Str) : Option CursorAnchor :=
  if kind = "i".toList then (I64.parse text).map fun value => .int value.val
  else if kind = "t".toList then some (.text text)
  else none

namespace Cursor

def invalid : WireError := .cursorInvalidated "cursor is not in a recognised format".toList

def fromStr (value : Str) : Except WireError Cursor :=
  match Text.splitn '|' 5 value with
  | [] => .error invalid
  | version :: parts =>
      if version ≠ "1".toList then
        .error (.cursorInvalidated ("cursor version ".toList ++ version ++ " is not supported".toList))
      else match parts with
        | [name, kind, anchorText, tiebreak] =>
            match SortKey.ofName name, CursorAnchor.parse kind anchorText with
            | some sort, some anchor => .ok { sort, anchor, tiebreak }
            | _, _ => .error invalid
        | _ => .error invalid

end Cursor

theorem SortKey.ofName_name (sort : SortKey) : ofName sort.name = some sort := by
  cases sort <;> decide

theorem SortKey.separator_not_mem_name (sort : SortKey) : '|' ∉ sort.name := by
  cases sort <;> decide

theorem separator_not_mem_decimal (value : Int) : '|' ∉ decimal value := by
  have digits : ∀ n : Nat, '|' ∉ Nat.toDigits 10 n := fun n listed => by
    cases Decimal.isDigit_of_mem_toDigits listed
  intro member
  rcases Decimal.toString_int_cases value with ⟨n, -, text⟩ | ⟨n, -, text⟩
  · exact digits n (text ▸ member)
  · rcases List.mem_cons.mp (text ▸ member : '|' ∈ '-' :: Nat.toDigits 10 n) with sign | listed
    · cases sign
    · exact digits n listed

namespace Cursor

theorem fromStr_fields {sort : SortKey} {kind anchorText tiebreak : Str} {anchor : CursorAnchor}
    (kindApart : '|' ∉ kind) (anchorApart : '|' ∉ anchorText)
      (parsed : CursorAnchor.parse kind anchorText = some anchor) :
    fromStr (Json.joined ['|'] ["1".toList, sort.name, kind, anchorText, tiebreak]) =
      .ok { sort, anchor, tiebreak } := by
  have fields : Text.splitn '|' 5 (Json.joined ['|'] ["1".toList, sort.name, kind, anchorText, tiebreak]) =
      ["1".toList, sort.name, kind, anchorText, tiebreak] := by
    simp only [Json.joined, List.append_assoc, List.singleton_append]
    rw [Text.splitn_cons (by decide), Text.splitn_cons sort.separator_not_mem_name, Text.splitn_cons kindApart,
      Text.splitn_cons anchorApart, Text.splitn]
  simp only [fromStr, fields, ne_eq, not_true_eq_false, if_false, sort.ofName_name, parsed]

theorem fromStr_display_int (sort : SortKey) (value : I64) (tiebreak : Str) :
    fromStr (display { sort, anchor := .int value.val, tiebreak }) =
      .ok { sort, anchor := .int value.val, tiebreak } := by
  have parsed : CursorAnchor.parse "i".toList (decimal value.val) = some (.int value.val) := by
    rw [CursorAnchor.parse, if_pos rfl, decimal, I64.parse_toString]
    rfl
  exact fromStr_fields (by decide) (separator_not_mem_decimal value.val) parsed

theorem parse_text (text : Str) : CursorAnchor.parse "t".toList text = some (.text text) := by
  rw [CursorAnchor.parse, if_neg (by decide), if_pos rfl]

theorem fromStr_display_text {sort : SortKey} {text tiebreak : Str} (apart : '|' ∉ text) :
    fromStr (display { sort, anchor := .text text, tiebreak }) = .ok { sort, anchor := .text text, tiebreak } :=
  fromStr_fields (by decide) apart (parse_text text)

/-- A separator in the anchor moves what follows it to the tiebreaker. -/
theorem fromStr_display_split {sort : SortKey} {front back tiebreak : Str} (apart : '|' ∉ front) :
    fromStr (display { sort, anchor := .text (front ++ '|' :: back), tiebreak }) =
      .ok { sort, anchor := .text front, tiebreak := back ++ '|' :: tiebreak } := by
  have same : display { sort, anchor := .text (front ++ '|' :: back), tiebreak } =
      Json.joined ['|'] ["1".toList, sort.name, "t".toList, front, back ++ '|' :: tiebreak] := by
    simp [display, Json.joined]
  rw [same]
  exact fromStr_fields (by decide) apart (parse_text front)

end Cursor
end CrashCatcher.Wire
