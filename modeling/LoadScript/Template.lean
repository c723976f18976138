import LoadScript.Name

/-!
# Templates

A statement may refer to variables: a reference is a dollar sign followed by a
name in parentheses.  A text is read as a *template*, a row of plain characters
and references, and filling in the template puts a text in place of every
reference that has one.  Texts that were filled in are not read again.

The main statement, `source_ofText`, says that a template holds all of its text.
-/

namespace LoadScript

open Text

/-- A part of a template. -/
inductive Piece where
  /-- A character that stands for itself. -/
  | plain (c : Char)
  /-- A reference to a name. -/
  | reference (name : Text)
deriving DecidableEq

namespace Piece

/-- The text that a piece was read from. -/
def source : Piece → Text
  | .plain c => [c]
  | .reference name => '$' :: '(' :: (name ++ [')'])

/-- The text of a piece once references are looked up.  A reference that leads
nowhere stays as it was written. -/
def fill (lookup : Text → Option Text) : Piece → Text
  | .plain c => [c]
  | .reference name => (lookup name).getD (Piece.source (.reference name))

/-- The name of a reference that leads nowhere. -/
def unresolved? (lookup : Text → Option Text) : Piece → Option Text
  | .plain _ => none
  | .reference name => if (lookup name).isNone then some name else none

end Piece

/-- A row of plain characters and references. -/
abbrev Template := List Piece

/-- The name of a reference whose opening parenthesis has just been read, and
what follows its closing one. -/
def openedReference? (text : Text) : Option (Text × Text) :=
  let name := text.takeWhile isNameChar
  match text.dropWhile isNameChar with
  | ')' :: rest => if isName name then some (name, rest) else none
  | _ => none

/-- A reference is read exactly when a name and a closing parenthesis follow. -/
theorem openedReference?_eq_some_iff {text name rest : Text} :
    openedReference? text = some (name, rest) ↔ isName name ∧ text = name ++ ')' :: rest := by
  constructor
  · intro found
    simp only [openedReference?] at found
    split at found
    case h_1 closed =>
        split at found
        case isTrue valid =>
            obtain ⟨rfl, rfl⟩ := Prod.mk.inj (Option.some.inj found)
            exact ⟨valid, by rw [← closed, List.takeWhile_append_dropWhile]⟩
        case isFalse => simp at found
    case h_2 => simp at found
  · rintro ⟨valid, rfl⟩
    have closing : isNameChar ')' = false := by decide
    have inName : ∀ c ∈ name, isNameChar c = true := fun c member =>
      isNameChar_of_mem_isName valid member
    simp [openedReference?, List.takeWhile_append_of_pos inName,
      List.dropWhile_append_of_pos inName, closing, valid]

/-- A reference ends within the text. -/
theorem length_lt_of_openedReference? {text name rest : Text}
    (found : openedReference? text = some (name, rest)) : rest.length < text.length := by
  obtain ⟨_, rfl⟩ := openedReference?_eq_some_iff.1 found
  simp only [List.length_append, List.length_cons]
  omega

namespace Template

/-- Reads a text as a template. -/
def ofText : Text → Template
  | [] => []
  | '$' :: '(' :: text =>
      match _found : openedReference? text with
      | some (name, rest) => .reference name :: ofText rest
      | none => .plain '$' :: .plain '(' :: ofText text
  | c :: text => .plain c :: ofText text
termination_by text => text.length
decreasing_by
  · have shorter := length_lt_of_openedReference? _found
    simp only [List.length_cons]
    omega
  · simp only [List.length_cons]
    omega
  · simp only [List.length_cons]
    omega

/-- The text that a template was read from. -/
def source (template : Template) : Text :=
  template.flatMap Piece.source

/-- Puts texts in place of the references. -/
def fill (lookup : Text → Option Text) (template : Template) : Text :=
  template.flatMap (Piece.fill lookup)

/-- The names of the references that lead nowhere, in order. -/
def unresolved (lookup : Text → Option Text) (template : Template) : List Text :=
  template.filterMap (Piece.unresolved? lookup)

/-- A template holds all of its text. -/
theorem source_ofText (text : Text) : (ofText text).source = text := by
  fun_induction ofText text with
  | case1 => rfl
  | case2 text name rest found ih =>
      rw [(openedReference?_eq_some_iff.1 found).2]
      simpa [source, Piece.source] using ih
  | case3 text _ ih => simpa [source, Piece.source] using ih
  | case4 c text _ ih => simpa [source, Piece.source] using ih

end Template

/-- A text with its references filled in. -/
def expand (lookup : Text → Option Text) (text : Text) : Text :=
  (Template.ofText text).fill lookup

end LoadScript
