import LoadScript.Comment.Block
import LoadScript.Comment.Line
import LoadScript.Comment.Remark

/-!
# Cleaning a script

A script is cleaned before it is run: line ends of all three styles are made
alike, the three kinds of comments are removed, and line breaks and tabs become
spaces, so that one physical line is left.

Removing a comment can bring another one to light, so passes are repeated until
one changes nothing.  From the first pass on the text is *flat*, that is without
line breaks and tabs; on a flat text a pass only deletes, so a pass that does not
shorten it leaves it as it is.
-/

namespace LoadScript.Script

open Comment

/-- Gives every line end the form of a line feed. -/
def foldLineEnds : Text → Text
  | '\r' :: '\n' :: rest => '\n' :: foldLineEnds rest
  | '\r' :: rest => '\n' :: foldLineEnds rest
  | c :: rest => c :: foldLineEnds rest
  | [] => []

/-- Removes the comments that belong to a single line. -/
def cleanLine (line : Text) : Text :=
  dropRemark (cutLine line)

/-- Removes line comments and remarks, line by line. -/
def cleanLines (text : Text) : Text :=
  List.intercalate ['\n'] ((text.splitOn '\n').map cleanLine)

/-- A character that breaks or bends a line. -/
def isLayout (c : Char) : Bool :=
  c == '\n' || c == '\t'

/-- Puts spaces in place of line breaks and tabs. -/
def flatten (text : Text) : Text :=
  text.map fun c => if isLayout c then ' ' else c

/-- One pass over a text: line comments, remarks, block comments, line breaks. -/
def pass (text : Text) : Text :=
  flatten (dropBlocks (cleanLines text))

/-- Repeats the pass while it shortens the text. -/
def settle (text : Text) : Text :=
  if (pass text).length < text.length then settle (pass text) else text
termination_by text.length

/-- The clean text of a script. -/
def clean (source : Text) : Text :=
  settle (pass (foldLineEnds source))

/-! ## Flat texts -/

/-- A text without line breaks and tabs. -/
def Flat (text : Text) : Prop :=
  ∀ c ∈ text, isLayout c = false

/-- A pass leaves a flat text. -/
theorem flat_flatten (text : Text) : Flat (flatten text) := by
  intro c member
  obtain ⟨d, _, rfl⟩ := List.mem_map.1 member
  by_cases layout : isLayout d
  · simp only [layout, ↓reduceIte]
    decide
  · simp [layout]

/-- Flat texts stay as they are. -/
theorem flatten_of_flat {text : Text} (flat : Flat text) : flatten text = text := by
  calc
    flatten text = text.map id := List.map_congr_left fun c member => by simp [flat c member]
    _ = text := List.map_id text

/-- A text without line feeds is a single line. -/
theorem cleanLines_of_noFeed {text : Text} (noFeed : '\n' ∉ text) :
    cleanLines text = cleanLine text := by
  simp [cleanLines, List.splitOn_eq_singleton noFeed]

theorem cleanLines_of_flat {text : Text} (flat : Flat text) : cleanLines text = cleanLine text := by
  apply cleanLines_of_noFeed
  intro member
  simpa [isLayout] using flat '\n' member

/-- On a flat text a pass only deletes characters. -/
theorem pass_sublist_of_flat {text : Text} (flat : Flat text) : (pass text).Sublist text := by
  have deleted : (dropBlocks (cleanLine text)).Sublist text :=
    (dropBlocksFrom_sublist false _).trans
      ((dropRemark_sublist _).trans (beforeSlashes_isPrefix false text).sublist)
  have stillFlat : Flat (dropBlocks (cleanLine text)) := fun c member =>
    flat c (deleted.mem member)
  rw [pass, cleanLines_of_flat flat, flatten_of_flat stillFlat]
  exact deleted

/-- On a flat text a pass that does not shorten changes nothing. -/
theorem pass_eq_self_of_flat {text : Text} (flat : Flat text)
    (long : ¬(pass text).length < text.length) : pass text = text :=
  (pass_sublist_of_flat flat).eq_of_length_le (by omega)

/-- Repeated passes over a flat text end where a pass changes nothing. -/
theorem pass_settle {text : Text} (flat : Flat text) : pass (settle text) = settle text := by
  fun_induction settle text with
  | case1 text _ ih => exact ih (flat_flatten _)
  | case2 text long => exact pass_eq_self_of_flat flat long

end LoadScript.Script
