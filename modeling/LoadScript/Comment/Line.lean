import LoadScript.Text.Word

/-!
# Line comments

A line comment begins with a double slash and runs to the end of its line.  A
double slash that follows a word character or a colon begins no comment, so that
addresses such as `lib://data` survive.
-/

namespace LoadScript.Comment

open Text

/-- A character after which a double slash begins no comment. -/
def shields (c : Char) : Bool :=
  c == ':' || isWord c

/-- The part of a line before its comment.  The flag says whether the character
before the line shields its first one. -/
def beforeSlashes (shielded : Bool) : Text → Text
  | [] => []
  | c :: rest =>
      if !shielded && c == '/' && rest.head? == some '/' then []
      else c :: beforeSlashes (shields c) rest

/-- A line without its line comment. -/
def cutLine (line : Text) : Text :=
  beforeSlashes false line

/-- Cutting a line keeps a first part of it. -/
theorem beforeSlashes_isPrefix (shielded : Bool) (line : Text) :
    beforeSlashes shielded line <+: line := by
  induction line generalizing shielded with
  | nil => simp [beforeSlashes]
  | cons c rest ih =>
      simp only [beforeSlashes]
      split
      · exact List.nil_prefix
      · exact List.cons_prefix_cons.2 ⟨rfl, ih (shields c)⟩

end LoadScript.Comment
