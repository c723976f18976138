import LoadScript.Text.Word

/-!
# Decimal numbers

A decimal is a whole coefficient and a power of ten.  This file tells the texts
that look like numbers and writes a decimal in the two usual ways: *plainly*,
with all its digits around a point, and *scientifically*, with one digit before
the point and an exponent.
-/

namespace LoadScript

open Text

/-- The number `coefficient * 10 ^ exponent`. -/
structure Decimal where
  /-- The whole number formed by the digits. -/
  coefficient : Nat
  /-- The power of ten that scales it. -/
  exponent : Int
deriving DecidableEq

/-- The digits of a whole number in base ten. -/
def decimalDigits (n : Nat) : Text :=
  Nat.toDigits 10 n

/-- The whole number that a run of digits spells. -/
def digitsValue (digits : Text) : Nat :=
  Nat.ofDigitChars 10 digits 0

/-- The digits of a number spell that number. -/
@[simp]
theorem digitsValue_decimalDigits (n : Nat) : digitsValue (decimalDigits n) = n :=
  Nat.ofDigitChars_toDigits (by decide) (by decide)

/-- A run of digits, that is at least one and nothing else. -/
def isDigits (text : Text) : Bool :=
  !text.isEmpty && text.all isDigit

/-- Digits and exactly one point, with at least one digit. -/
def isDecimalForm (text : Text) : Bool :=
  text.all (fun c => isDigit c || c == '.') && text.count '.' == 1 && text.any isDigit

namespace Decimal

/-- A decimal as a quotient of whole numbers. -/
def ratio (d : Decimal) : Nat × Nat :=
  (d.coefficient * Nat.pow 10 d.exponent.toNat, Nat.pow 10 (-d.exponent).toNat)

/-- Moves trailing zeros of the coefficient into the exponent. -/
def reduced (d : Decimal) : Decimal :=
  if d.coefficient ≠ 0 ∧ d.coefficient % 10 = 0 then
    reduced ⟨d.coefficient / 10, d.exponent + 1⟩
  else d
termination_by d.coefficient
decreasing_by omega

/-- The exponent of the first digit. -/
def lead (d : Decimal) : Int :=
  d.exponent + (decimalDigits d.coefficient).length - 1

/-- All digits around a point, at least one on both sides of it. -/
def plain (d : Decimal) : Text :=
  match d.exponent with
  | .ofNat zeros => decimalDigits (d.coefficient * Nat.pow 10 zeros) ++ ['.', '0']
  | .negSucc places =>
      let one := Nat.pow 10 (places + 1)
      decimalDigits (d.coefficient / one) ++
        '.' :: (decimalDigits (d.coefficient % one)).leftpad (places + 1) '0'

/-- One digit before the point, the others behind it, and the exponent of the
first digit with its sign. -/
def scientific (d : Decimal) : Text :=
  let mantissa :=
    match decimalDigits d.coefficient with
    | first :: second :: rest => first :: '.' :: second :: rest
    | digits => digits
  let sign := if d.lead < 0 then '-' else '+'
  mantissa ++ 'e' :: sign :: decimalDigits d.lead.natAbs

end Decimal

end LoadScript
