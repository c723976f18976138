import LoadScript.Comment.Remark
import LoadScript.Name
import Mathlib.Data.List.Basic

/-!
# Blanks and remark lines

There are twenty-five blanks, so what holds of each of them holds of every blank;
in particular no blank is a letter, even without regard to case, nor a character of
names.  A keyword is therefore always told from the blanks before it, which
gives the shape of a remark line.
-/

namespace LoadScript.Text

/-- The code points of the blanks. -/
def blankPoints : List Nat :=
  [0x09, 0x0A, 0x0B, 0x0C, 0x0D, 0x20, 0x85, 0xA0, 0x1680, 0x2000, 0x2001, 0x2002, 0x2003, 0x2004,
    0x2005, 0x2006, 0x2007, 0x2008, 0x2009, 0x200A, 0x2028, 0x2029, 0x202F, 0x205F, 0x3000]

/-- A test that fails at every blank point fails at every blank. -/
theorem eq_false_of_isBlank (test : Char → Bool)
    (fails : ∀ point ∈ blankPoints, test (Char.ofNat point) = false) {c : Char}
    (blank : isBlank c = true) : test c = false := by
  have listed : c.toNat ∈ blankPoints := by
    simp only [isBlank, Bool.or_eq_true, Bool.and_eq_true, decide_eq_true_eq, beq_iff_eq] at blank
    simp only [blankPoints, List.mem_cons, List.not_mem_nil, or_false]
    omega
  rw [← Char.ofNat_toNat c]
  exact fails c.toNat listed

/-- No blank stands in a name. -/
theorem isNameChar_of_isBlank {c : Char} (blank : isBlank c = true) : isNameChar c = false :=
  eq_false_of_isBlank isNameChar (by decide +kernel) blank

/-- No blank is a letter, whatever the case. -/
theorem isLetter_fold_of_isBlank {c : Char} (blank : isBlank c = true) :
    isLetter (fold c) = false :=
  eq_false_of_isBlank (fun c => isLetter (fold c)) (by decide +kernel) blank

/-- What holds at every ASCII point holds of every ASCII character. -/
theorem of_ascii {motive : Char → Prop} (each : ∀ point < 0x80, motive (Char.ofNat point))
    {c : Char} (ascii : c.toNat < 0x80) : motive c := by
  rw [← Char.ofNat_toNat c]
  exact each c.toNat ascii

theorem toNat_lt_of_isLetter {c : Char} (letter : isLetter c = true) : c.toNat < 0x80 := by
  simp only [isLetter, Bool.or_eq_true, Bool.and_eq_true, decide_eq_true_eq, Char.le_def,
    UInt32.le_iff_toNat_le] at letter
  rcases letter with ⟨_, bound⟩ | ⟨_, bound⟩
  · exact Nat.lt_of_le_of_lt bound (by decide)
  · exact Nat.lt_of_le_of_lt bound (by decide)

theorem toNat_lt_of_isDigit {c : Char} (digit : isDigit c = true) : c.toNat < 0x80 := by
  simp only [isDigit, Bool.and_eq_true, decide_eq_true_eq, Char.le_def,
    UInt32.le_iff_toNat_le] at digit
  exact Nat.lt_of_le_of_lt digit.2 (by decide)

/-- Nothing but the blanks in front of a letter is passed over. -/
theorem dropWhile_isBlank_append {blanks rest : Text} (blank : ∀ c ∈ blanks, isBlank c = true)
    (stops : ∀ c ∈ rest.head?, isBlank c = false) :
    (blanks ++ rest).dropWhile isBlank = rest := by
  rw [List.dropWhile_append_of_pos blank]
  cases rest with
  | nil => rfl
  | cons c rest => simp [stops c (by simp)]

end LoadScript.Text

namespace LoadScript.Comment

open Text

/-- A remark line: blanks, the keyword in any letter case, a space, and anything
behind it. -/
def Remark (line : Text) : Prop :=
  ∃ blanks keyword rest, line = blanks ++ (keyword ++ ' ' :: rest) ∧
    (∀ c ∈ blanks, isBlank c = true) ∧ keyword.map fold = ['r', 'e', 'm']

/-- A keyword of letters begins with no blank. -/
theorem head_isBlank_of_map_fold {letter : Char} {letters keyword rest : Text}
    (spelled : keyword.map fold = letter :: letters) (isLetter : isLetter letter = true) :
    ∀ c ∈ (keyword ++ rest).head?, isBlank c = false := by
  cases keyword with
  | nil => simp at spelled
  | cons first keyword =>
      intro c atFront
      obtain rfl : first = c := by simpa using atFront
      rw [List.map_cons, List.cons.injEq] at spelled
      by_contra blank
      have notLetter := isLetter_fold_of_isBlank (by simpa using blank)
      rw [spelled.1, isLetter] at notLetter
      contradiction

/-- The test for remarks finds exactly the remark lines. -/
theorem isRemark_iff {line : Text} : isRemark line = true ↔ Remark line := by
  constructor
  · intro remark
    unfold isRemark at remark
    split at remark
    case h_1 rest found =>
        rcases afterKeyword?_eq_some_iff.mp found with ⟨keyword, spelled, split⟩
        refine ⟨line.takeWhile isBlank, keyword, rest, ?_, ?_, spelled⟩
        · rw [← split, List.takeWhile_append_dropWhile]
        · exact List.all_eq_true.mp List.all_takeWhile
    case h_2 => simp at remark
  · rintro ⟨blanks, keyword, rest, rfl, blank, spelled⟩
    have stops : ∀ c ∈ (keyword ++ ' ' :: rest).head?, isBlank c = false :=
      head_isBlank_of_map_fold spelled (by decide)
    have found : afterKeyword? ['r', 'e', 'm'] (keyword ++ ' ' :: rest) = some (' ' :: rest) :=
      afterKeyword?_eq_some_iff.mpr ⟨keyword, spelled, rfl⟩
    simp only [isRemark, dropWhile_isBlank_append blank stops, found]

end LoadScript.Comment
