import LoadScript.Text.Word

/-!
# Variable names

A variable name is an ASCII letter followed by word characters and points.
-/

namespace LoadScript

open Text

/-- A character that may follow the first one of a name. -/
def isNameChar (c : Char) : Bool :=
  isWord c || c == '.'

/-- Whether a text is a variable name. -/
def isName : Text → Bool
  | [] => false
  | c :: rest => isLetter c && rest.all isNameChar

/-- Letters may stand anywhere in a name. -/
theorem isNameChar_of_isLetter {c : Char} (letter : isLetter c) : isNameChar c := by
  have ascii : c.toNat < 0x80 := by
    simp only [isLetter, Bool.or_eq_true, Bool.and_eq_true, decide_eq_true_eq, Char.le_def,
      UInt32.le_iff_toNat_le] at letter
    simp only [Char.toNat]
    rcases letter with ⟨_, bound⟩ | ⟨_, bound⟩
    · exact Nat.lt_of_le_of_lt bound (by decide)
    · exact Nat.lt_of_le_of_lt bound (by decide)
  simp [isNameChar, isWord, ascii, letter]

/-- All characters of a name are name characters. -/
theorem isNameChar_of_mem_isName {name : Text} {c : Char} (valid : isName name)
    (member : c ∈ name) : isNameChar c := by
  cases name with
  | nil => simp at member
  | cons first rest =>
      simp only [isName, Bool.and_eq_true, List.all_eq_true] at valid
      rcases List.mem_cons.1 member with rfl | member
      · exact isNameChar_of_isLetter valid.1
      · exact valid.2 c member

end LoadScript
