import LoadScript.Text.Basic

/-!
# Block comments

A block comment begins with a slash and a star and ends with the next star and
slash behind these two, across line ends.  One that is never closed is no
comment.
-/

namespace LoadScript.Comment

/-- Whether a star and a slash stand together somewhere in a text. -/
def closes : Text → Bool
  | '*' :: '/' :: _ => true
  | [] => false
  | _ :: rest => closes rest

/-- A text without its block comments.  The flag says whether the text begins
inside a comment, which then ends before the text does. -/
def dropBlocksFrom : (inside : Bool) → Text → Text
  | _, [] => []
  | true, '*' :: '/' :: rest => dropBlocksFrom false rest
  | true, _ :: rest => dropBlocksFrom true rest
  | false, '/' :: '*' :: rest =>
      if closes rest then dropBlocksFrom true rest else '/' :: '*' :: rest
  | false, c :: rest => c :: dropBlocksFrom false rest

/-- A text without its block comments. -/
def dropBlocks (text : Text) : Text :=
  dropBlocksFrom false text

/-- Dropping block comments invents nothing. -/
theorem dropBlocksFrom_sublist (inside : Bool) (text : Text) :
    (dropBlocksFrom inside text).Sublist text := by
  fun_induction dropBlocksFrom inside text with
  | case1 => exact List.Sublist.refl _
  | case2 rest ih => exact (ih.cons _).cons _
  | case3 c rest _ ih => exact ih.cons _
  | case4 rest _ ih => exact (ih.cons _).cons _
  | case5 rest _ => exact List.Sublist.refl _
  | case6 c rest _ ih => exact ih.cons_cons _

end LoadScript.Comment
