import LoadScript.Text.Basic

/-!
# Patterns

A pattern describes parts of texts.  This file holds the tree of a pattern and
the ways in which a written pattern can be wrong.
-/

namespace LoadScript.Pattern

/-- A member of a bracketed class of characters. -/
inductive ClassItem where
  /-- All characters from the first to the last. -/
  | range (first last : Char)
  /-- The blanks, or all other characters. -/
  | blank (negated : Bool)
  /-- The word characters, or all other characters. -/
  | word (negated : Bool)
deriving DecidableEq

/-- A place in a text that consumes no character. -/
inductive Place where
  /-- The beginning of the text, or of a line when lines count. -/
  | lineStart
  /-- The end of the text, or of a line when lines count. -/
  | lineEnd
  /-- The beginning of the text. -/
  | textStart
  /-- The end of the text. -/
  | textEnd
  /-- Between a word character and something else, or anywhere else. -/
  | wordEdge (negated : Bool)
deriving DecidableEq

/-- The tree of a pattern. -/
inductive Expr where
  /-- The empty text. -/
  | empty
  /-- One given character. -/
  | literal (c : Char)
  /-- Any character, line breaks only when they count as characters. -/
  | any
  /-- One character of a class, or none of it. -/
  | oneOf (negated : Bool) (items : List ClassItem)
  /-- A place. -/
  | place (place : Place)
  /-- One pattern and then another. -/
  | seq (first second : Expr)
  /-- One pattern or, failing that, another. -/
  | alt (first second : Expr)
  /-- A pattern a number of times, as often as possible or as rarely. -/
  | repeated (expr : Expr) (least : Nat) (most : Option Nat) (greedy : Bool)

/-- How a pattern is read. -/
structure Flags where
  /-- Letter case does not count. -/
  caseless : Bool := false
  /-- Line starts and line ends hold at every line. -/
  multiLine : Bool := false
  /-- A line break counts as any character. -/
  dotAll : Bool := false

/-- What can be wrong with a written pattern. -/
inductive Flaw where
  /-- A group is not closed. -/
  | unclosedGroup
  /-- A group is closed that was not opened. -/
  | unopenedGroup
  /-- A group is opened in a way that is not known; looking ahead or back is. -/
  | unknownGroup
  /-- Two groups have one name. -/
  | repeatedName (name : Text)
  /-- A class is not closed. -/
  | unclosedClass
  /-- The ends of a range are in the wrong order. -/
  | emptyRange (first last : Char)
  /-- There is nothing to repeat. -/
  | nothingToRepeat
  /-- A number of repetitions is malformed. -/
  | malformedCount
  /-- The least number of repetitions exceeds the most. -/
  | emptyCount (least most : Nat)
  /-- Nothing follows a backslash. -/
  | danglingEscape
  /-- A backslash stands before a character to which it gives no meaning. -/
  | unknownEscape (c : Char)
deriving DecidableEq

end LoadScript.Pattern
