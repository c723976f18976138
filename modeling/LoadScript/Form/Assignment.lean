import LoadScript.Form.Basic
import LoadScript.Name
import LoadScript.Text.Caseless

/-!
# Assignments

An assignment is one of the keywords `SET` and `LET` in any letter case, a name,
an equals sign and a value, with blanks between them.  The two keywords mean the
same, because values are not evaluated.

The part up to the equals sign is the *head* of an assignment.  A statement that
holds a second head, whether at its front or after a blank, is ambiguous.
-/

namespace LoadScript.Assignment

open Text

/-- What follows one of the two keywords. -/
def afterVerb? (text : Text) : Option Text :=
  (afterKeyword? ['s', 'e', 't'] text).or (afterKeyword? ['l', 'e', 't'] text)

/-- Reads the name of the variable to be assigned.  Letter case is ignored up to
the name's first character, so the letters that fold to ASCII may begin a name
here. -/
def target? : Text → Option (Text × Text)
  | [] => none
  | c :: rest =>
      if isLetter (fold c) then
        some (c :: rest.takeWhile isNameChar, rest.dropWhile isNameChar)
      else none

/-- Reads the head of an assignment: the name, and what follows the equals
sign. -/
def head? (text : Text) : Option (Text × Text) := do
  let rest ← afterVerb? text
  let rest ← afterBlanks? rest
  let (name, rest) ← target? rest
  match ← afterBlanks? rest with
  | '=' :: rest => some (name, rest)
  | _ => none

/-- The number of heads that follow a blank. -/
def innerHeads : Text → Nat
  | [] => 0
  | c :: rest => (if isBlank c && (head? rest).isSome then 1 else 0) + innerHeads rest

/-- The number of heads in a text, at its front or after a blank. -/
def headCount (text : Text) : Nat :=
  (if (head? text).isSome then 1 else 0) + innerHeads text

/-- Reads an assignment: the name and the text of the value. -/
def ofText? (text : Text) : Option (Text × Text) := do
  let (name, rest) ← head? (text.dropWhile isBlank)
  let value ← afterBlanks? rest
  return (name, value)

/-- Whether a text begins with one of the keywords as a whole word. -/
def claims (text : Text) : Bool :=
  match afterVerb? (text.dropWhile isBlank) with
  | none => false
  | some [] => true
  | some (c :: _) => !isWord c

/-- Executes an assignment. -/
def execute (text : Text) (state : State) : Outcome × State :=
  if 1 < headCount text then
    (.refused .ambiguous
      (decimalDigits (headCount text) ++ " assignments in one statement".toList), state)
  else
    match ofText? text with
    | none =>
        (.refused .unmatched
          "malformed SET/LET statement, expected \x60SET name = value\x60".toList, state)
    | some (name, value) =>
        (.executed, { state with vars := state.vars.set name (.coerce value) }.advance)

/-- The form of assignments. -/
def form : Form where
  name := "SET/LET".toList
  claims := claims
  execute := execute

end LoadScript.Assignment

namespace LoadScript

/-- The forms that are built in. -/
def Registry.standard : Registry := [Assignment.form]

end LoadScript
