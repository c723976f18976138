import LoadScript.Number.Rounding

/-!
# Reading numbers

A floating-point number is written as a decimal, or as one of the words for an
infinity and for an undefined result.  A sign may stand in front of either, and
letter case does not count.  A decimal is digits around at most one point, and an
exponent may follow them.
-/

namespace LoadScript

open Text

/-- Takes a sign off the front of a text and tells whether it is a minus. -/
def takeSign : Text → Bool × Text
  | '-' :: rest => (true, rest)
  | '+' :: rest => (false, rest)
  | text => (false, text)

namespace Decimal

/-- Takes digits around at most one point off the front of a text, at least one
digit in all. -/
def take? (text : Text) : Option (Decimal × Text) :=
  let whole := text.takeWhile isDigit
  let (places, rest) :=
    match text.dropWhile isDigit with
    | '.' :: behind => (behind.takeWhile isDigit, behind.dropWhile isDigit)
    | behind => ([], behind)
  if (whole ++ places).isEmpty then none
  else some (⟨digitsValue (whole ++ places), -places.length⟩, rest)

/-- The power of ten that an exponent stands for; without one it is zero. -/
def exponentOf? : Text → Option Int
  | [] => some 0
  | mark :: rest =>
      let (negative, digits) := takeSign rest
      if mark.toLower = 'e' ∧ isDigits digits then
        some (if negative then -digitsValue digits else digitsValue digits)
      else none

/-- Reads a decimal. -/
def ofText? (text : Text) : Option Decimal := do
  let (d, rest) ← take? text
  let exponent ← exponentOf? rest
  return ⟨d.coefficient, d.exponent + exponent⟩

end Decimal

namespace Binary64

/-- A magnitude with a sign; an undefined result has none. -/
def withSign (negative : Bool) : Binary64 → Binary64
  | .finite _ rank => .finite negative rank
  | .infinite _ => .infinite negative
  | .nan => .nan

/-- Reads a floating-point number. -/
def ofText? (text : Text) : Option Binary64 :=
  let (negative, rest) := takeSign text
  let word := rest.map Char.toLower
  let magnitude :=
    if word = "inf".toList ∨ word = "infinity".toList then some (.infinite false)
    else if word = "nan".toList then some .nan
    else (Decimal.ofText? rest).map ofDecimal
  magnitude.map (withSign negative)

end Binary64

end LoadScript
