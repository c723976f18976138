import LoadScript.Number.Reading
import LoadScript.Number.Shortest
import LoadScript.Text.Blank

/-!
# Values

A variable holds a whole number, a binary floating-point number or a text.  The
shape is fixed when a text is *coerced* into a value; reading a variable never
converts it.
-/

namespace LoadScript

open Text

/-- What a variable can hold. -/
inductive Value where
  /-- A whole number. -/
  | integer (n : Int)
  /-- A binary floating-point number. -/
  | float (x : Binary64)
  /-- A text. -/
  | string (s : Text)
deriving DecidableEq

/-- The largest whole number that digits alone make an integer of. -/
def maxInteger : Nat := 9223372036854775807

/-- The decimal digits of a whole number, with a sign when it is negative. -/
def integerText : Int → Text
  | .ofNat n => decimalDigits n
  | .negSucc n => '-' :: decimalDigits (n + 1)

/-- A sign in front of the negative numbers. -/
def signed (negative : Bool) (text : Text) : Text :=
  if negative then '-' :: text else text

namespace Rank

/-- A magnitude in full.  A whole magnitude is written with all its digits and
one place, every other one with the shortest decimal that is rounded to it, the
larger one of two equally near; there is never an exponent. -/
def fullText (rank : Rank) : Text :=
  if rank.units % unitsPerOne = 0 then Decimal.plain ⟨rank.units / unitsPerOne, 0⟩
  else (rank.shortest .up).plain

end Rank

namespace Binary64

/-- The text of a floating-point number. -/
def text : Binary64 → Text
  | .finite negative rank => signed negative rank.fullText
  | .infinite negative => signed negative "inf".toList
  | .nan => "NaN".toList

end Binary64

namespace Value

/-- The text of a value, as it replaces a reference to a variable. -/
def text : Value → Text
  | .integer n => integerText n
  | .float x => x.text
  | .string s => s

/-- The name of a value's shape. -/
def typeName : Value → Text
  | .integer _ => "integer".toList
  | .float _ => "float".toList
  | .string _ => "string".toList

/-! ## Coercion -/

/-- The two quotation marks. -/
def isQuote (c : Char) : Bool :=
  c == '\x27' || c == '\x22'

/-- The text inside quotation marks.  Either mark opens; the single mark or a
colon closes; no mark stands in between. -/
def unquoted? : Text → Option Text
  | opening :: inner :: rest =>
      let body := (inner :: rest).dropLast
      let closing := (inner :: rest).getLast (by simp)
      if isQuote opening && (closing == '\x27' || closing == ':') && !body.any isQuote then
        some body
      else none
  | _ => none

/-- The value that a trimmed text stands for: digits are an integer, or a
floating-point number when they exceed the integers; digits around a point are a
floating-point number; quotation marks are taken off; all else is itself.  A
number that could not be read would stay a text. -/
def ofTrimmed (text : Text) : Value :=
  if isDigits text then
    let n := digitsValue text
    if n ≤ maxInteger then .integer n
    else ((Binary64.ofText? text).map .float).getD (.string text)
  else
    match if isDecimalForm text then Binary64.ofText? text else none with
    | some x => .float x
    | none => .string ((unquoted? text).getD text)

/-- The value that a text stands for, blanks around it aside. -/
def coerce (raw : Text) : Value :=
  ofTrimmed (trim raw)

end Value

end LoadScript
