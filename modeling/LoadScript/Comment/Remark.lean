import LoadScript.Text.Blank
import LoadScript.Text.Caseless

/-!
# Remark lines

A line that begins with the word `REM` in any letter case, after blanks if any,
and goes on with a space is a remark.  A remark is dropped whole.
-/

namespace LoadScript.Comment

open Text

/-- Whether a line is a remark. -/
def isRemark (line : Text) : Bool :=
  match afterKeyword? ['r', 'e', 'm'] (line.dropWhile isBlank) with
  | some (' ' :: _) => true
  | _ => false

/-- A line, or nothing if the line is a remark. -/
def dropRemark (line : Text) : Text :=
  if isRemark line then [] else line

/-- Dropping remarks invents nothing. -/
theorem dropRemark_sublist (line : Text) : (dropRemark line).Sublist line := by
  unfold dropRemark
  split
  · exact List.nil_sublist line
  · exact List.Sublist.refl line

end LoadScript.Comment
