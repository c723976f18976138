import LoadScript.Text.Basic

/-!
# Blank characters

The blanks are the 25 characters with the Unicode property White_Space.  They
separate the words of a statement, and they are what trimming removes.
-/

namespace LoadScript.Text

/-- Whether a character is white space. -/
def isBlank (c : Char) : Bool :=
  let point := c.toNat
  (9 ≤ point && point ≤ 13) || point == 0x20 || point == 0x85 || point == 0xA0 ||
    point == 0x1680 || (0x2000 ≤ point && point ≤ 0x200A) || point == 0x2028 ||
    point == 0x2029 || point == 0x202F || point == 0x205F || point == 0x3000

/-- A text without the blanks at its two ends. -/
def trim (text : Text) : Text :=
  strip isBlank text

/-- A text that holds nothing but blanks. -/
def isAllBlank (text : Text) : Bool :=
  text.all isBlank

/-- What follows a run of at least one blank. -/
def afterBlanks? : Text → Option Text
  | [] => none
  | c :: rest => if isBlank c then some (rest.dropWhile isBlank) else none

/-- A run of blanks is read off the front and nothing else is lost. -/
theorem afterBlanks?_eq_some {text rest : Text} (read : afterBlanks? text = some rest) :
    ∃ blanks, blanks ≠ [] ∧ (∀ c ∈ blanks, isBlank c) ∧ text = blanks ++ rest := by
  cases text with
  | nil => simp [afterBlanks?] at read
  | cons c tail =>
      by_cases blank : isBlank c
      · simp only [afterBlanks?, blank, ↓reduceIte, Option.some.injEq] at read
        refine ⟨c :: tail.takeWhile isBlank, by simp, ?_, by simp [← read]⟩
        intro d member
        rcases List.mem_cons.1 member with rfl | member
        · exact blank
        · exact List.all_eq_true.1 List.all_takeWhile d member
      · simp [afterBlanks?, blank] at read

end LoadScript.Text
