import LoadScript.Text.Glyph

/-!
# Quoted text

Messages show a text between double quotes.  Quotes and backslashes inside it
get a backslash, four controls have letters of their own, and every other
character without a glyph is shown by its number.
-/

namespace LoadScript.Text

/-- The digits of a number in base sixteen, in lower case. -/
def hexDigits (n : Nat) : Text :=
  Nat.toDigits 16 n

/-- A character shown by its number. -/
def numbered (c : Char) : Text :=
  '\\' :: 'u' :: '\x7b' :: (hexDigits c.toNat ++ ['\x7d'])

/-- How a character stands in a quoted text. -/
def quotedChar (c : Char) : Text :=
  if c = '\x00' then ['\\', '0']
  else if c = '\t' then ['\\', 't']
  else if c = '\n' then ['\\', 'n']
  else if c = '\r' then ['\\', 'r']
  else if c = '\x22' then ['\\', '\x22']
  else if c = '\\' then ['\\', '\\']
  else if hasGlyph c then [c]
  else numbered c

/-- A text between double quotes. -/
def quoted (text : Text) : Text :=
  '\x22' :: (text.flatMap quotedChar ++ ['\x22'])

end LoadScript.Text
