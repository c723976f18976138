/-!
# Text

Scripts, variable names, string values and messages are all lists of
characters.  This file fixes that type and the few cuts on it that the rest of
the library shares.
-/

namespace LoadScript

/-- A text is the list of its characters. -/
abbrev Text := List Char

namespace Text

/-- What is left of a text once all characters of a class are removed from its
front and from its back. -/
def strip (inClass : Char → Bool) (text : Text) : Text :=
  ((text.dropWhile inClass).reverse.dropWhile inClass).reverse

/-- Stripping removes characters and invents none. -/
theorem mem_of_mem_strip {inClass : Char → Bool} {text : Text} {c : Char}
    (member : c ∈ strip inClass text) : c ∈ text := by
  have inner : c ∈ (text.dropWhile inClass).reverse :=
    (List.dropWhile_sublist inClass).mem (List.mem_reverse.1 member)
  exact (List.dropWhile_sublist inClass).mem (List.mem_reverse.1 inner)

/-- The two parts of a text around the first occurrence of a character, or
nothing when the character does not occur. -/
def cutAt? (mark : Char) : Text → Option (Text × Text)
  | [] => none
  | c :: rest =>
      if c = mark then some ([], rest)
      else (cutAt? mark rest).map fun (before, after) => (c :: before, after)

/-- A cut puts the mark between two parts of the text, the first of which does
not hold the mark. -/
theorem cutAt?_eq_some_iff {mark : Char} {text before after : Text} :
    cutAt? mark text = some (before, after) ↔
      text = before ++ mark :: after ∧ mark ∉ before := by
  induction text generalizing before with
  | nil => simp [cutAt?]
  | cons c rest ih =>
      by_cases same : c = mark
      · subst same
        cases before with
        | nil => simp [cutAt?, eq_comm]
        | cons b before =>
            simp only [cutAt?, ↓reduceIte, Option.some.injEq, Prod.mk.injEq, List.nil_eq,
              List.cons_append, List.cons.injEq, List.mem_cons, not_or]
            grind
      · cases before with
        | nil => simp [cutAt?, same]
        | cons b before =>
            simp only [cutAt?, same, ↓reduceIte, Option.map_eq_some_iff, Prod.exists,
              Prod.mk.injEq, List.cons.injEq, List.cons_append, List.mem_cons, not_or]
            grind

/-- The lines of a text, which line feeds separate. -/
def lines (text : Text) : List Text :=
  text.splitOn '\n'

/-- A text up to its first line end, which is a line feed or a carriage return and a
line feed. -/
def firstLine (text : Text) : Text :=
  match cutAt? '\n' text with
  | some (line, _) => if line.getLast? = some '\r' then line.dropLast else line
  | none => text

/-- The number of bytes that a text takes in UTF-8. -/
def byteSize (text : Text) : Nat :=
  text.foldl (fun size c => size + c.utf8Size) 0

end Text

end LoadScript
