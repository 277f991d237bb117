import Mathlib.Init

/-! Percent encoding: any byte may be written as a percent sign and two hexadecimal digits. -/

namespace CrashCatcher.Lib.PercentCode

def hex (b : UInt8) : Option UInt8 :=
  if 48 ≤ b ∧ b ≤ 57 then some (b - 48)
  else if 97 ≤ b ∧ b ≤ 102 then some (b - 97 + 10)
  else if 65 ≤ b ∧ b ≤ 70 then some (b - 65 + 10)
  else none

def decode : List UInt8 → Option (List UInt8)
  | [] => some []
  | b :: rest =>
      if b = 37 then
        match rest with
        | high :: low :: rest => do
            let high ← hex high
            let low ← hex low
            let later ← decode rest
            return (high <<< 4 ||| low) :: later
        | _ => none
      else (decode rest).map (b :: ·)

/-- The code of bytes, each of which is written as it is or escaped with digits of either case. -/
inductive Encoded : List UInt8 → List UInt8 → Prop where
  | nil : Encoded [] []
  | plain {b : UInt8} {bytes code : List UInt8} (unescaped : b ≠ 37) (later : Encoded bytes code) :
      Encoded (b :: bytes) (b :: code)
  | escaped {high low h l : UInt8} {bytes code : List UInt8} (first : hex high = some h)
      (second : hex low = some l)
      (later : Encoded bytes code) : Encoded ((h <<< 4 ||| l) :: bytes) (37 :: high :: low :: code)

theorem encoded_self {bytes : List UInt8} (unescaped : 37 ∉ bytes) : Encoded bytes bytes := by
  induction bytes with
  | nil => exact .nil
  | cons b rest ih =>
      rw [List.mem_cons, not_or] at unescaped
      exact .plain (Ne.symm unescaped.1) (ih unescaped.2)

theorem Encoded.append {bytes code bytes' code' : List UInt8} (first : Encoded bytes code)
    (second : Encoded bytes' code') : Encoded (bytes ++ bytes') (code ++ code') := by
  induction first with
  | nil => exact second
  | plain unescaped _ ih => exact .plain unescaped ih
  | escaped high low _ ih => exact .escaped high low ih

theorem decode_plain {b : UInt8} (unescaped : b ≠ 37) (rest : List UInt8) :
    decode (b :: rest) = (decode rest).map (b :: ·) := by
  rw [decode.eq_def]
  exact if_neg unescaped

theorem decode_escaped (high low : UInt8) (rest : List UInt8) :
    decode (37 :: high :: low :: rest) = do
      let high ← hex high
      let low ← hex low
      let later ← decode rest
      return (high <<< 4 ||| low) :: later := by
  rw [decode, if_pos rfl]

/-- What is decoded is exactly what was encoded. -/
theorem decode_eq_some_iff {code bytes : List UInt8} : decode code = some bytes ↔ Encoded bytes code := by
  constructor
  · intro decoded
    induction code using decode.induct generalizing bytes with
    | case1 =>
        cases decoded
        exact .nil
    | case2 high low rest ih =>
        rw [decode_escaped] at decoded
        cases first : hex high with
        | none => simp [first] at decoded
        | some h =>
            cases second : hex low with
            | none => simp [first, second] at decoded
            | some l =>
                cases later : decode rest with
                | none => simp [first, second, later] at decoded
                | some tail =>
                    simp [first, second, later] at decoded
                    subst decoded
                    exact .escaped first second (ih later)
    | case3 rest short =>
        rw [decode, if_pos rfl] at decoded
        · cases decoded
        · exact short
    | case4 b rest unescaped ih =>
        rw [decode_plain unescaped] at decoded
        obtain ⟨tail, later, same⟩ := Option.map_eq_some_iff.mp decoded
        subst same
        exact .plain unescaped (ih later)
  · intro encoded
    induction encoded with
    | nil => rfl
    | plain unescaped _ ih => rw [decode_plain unescaped, ih, Option.map_some]
    | escaped first second _ ih => simp [decode_escaped, first, second, ih]

end CrashCatcher.Lib.PercentCode
