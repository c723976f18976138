import LoadScript.Text.Blank

/-!
# Statements

A clean script is cut into statements at its semicolons.  Statements are numbered
from zero; a blank statement keeps its number.  What follows the last semicolon
is no statement.
-/

namespace LoadScript

open Text

/-- The character that ends a statement. -/
def terminator : Char := ';'

/-- One statement of a script. -/
structure Statement where
  /-- The number of the statement. -/
  index : Nat
  /-- The text of the statement, without its terminator. -/
  text : Text
deriving DecidableEq

namespace Statement

/-- Whether a statement holds nothing but blanks. -/
def isBlank (statement : Statement) : Bool :=
  isAllBlank statement.text

/-- The statements of a text, in order. -/
def listOf (text : Text) : List Statement :=
  (text.splitOn terminator).dropLast.mapIdx Statement.mk

/-- A statement stands at the place that its number says. -/
theorem index_of_getElem? {text : Text} {place : Nat} {statement : Statement}
    (found : (listOf text)[place]? = some statement) : statement.index = place := by
  simp only [listOf, List.getElem?_mapIdx, Option.map_eq_some_iff] at found
  obtain ⟨_, _, rfl⟩ := found
  rfl

end Statement

end LoadScript
