import LoadScript.Text.Quoted
import LoadScript.Value.Basic

/-!
# Values in JSON

Integers and floating-point numbers are JSON numbers, texts are JSON strings.
JSON has no infinities, so these and undefined results are written as `null`.
-/

namespace LoadScript

open Text

namespace Json

/-- How a character stands in a JSON string. -/
def stringChar (c : Char) : Text :=
  if c = '\x22' then ['\\', '\x22']
  else if c = '\\' then ['\\', '\\']
  else if c = '\x08' then ['\\', 'b']
  else if c = '\x0c' then ['\\', 'f']
  else if c = '\n' then ['\\', 'n']
  else if c = '\r' then ['\\', 'r']
  else if c = '\t' then ['\\', 't']
  else if c.toNat < 0x20 then '\\' :: 'u' :: (hexDigits c.toNat).leftpad 4 '0'
  else [c]

/-- A text as a JSON string. -/
def string (text : Text) : Text :=
  '\x22' :: (text.flatMap stringChar ++ ['\x22'])

/-- A decimal as a JSON number: plain while the first digit lies between the
fifth place and the sixteenth digit before the point, otherwise scientific. -/
def decimal (d : Decimal) : Text :=
  if -5 ≤ d.lead ∧ d.lead ≤ 15 then d.plain else d.scientific

/-- A floating-point number in JSON: the shortest decimal that is rounded to it,
of two equally near the one that ends in an even digit. -/
def float : Binary64 → Text
  | .finite negative rank => signed negative (decimal (rank.shortest .toEven))
  | .infinite _ => "null".toList
  | .nan => "null".toList

end Json

/-- A value in JSON. -/
def Value.json : Value → Text
  | .integer n => integerText n
  | .float x => Json.float x
  | .string s => Json.string s

end LoadScript
