import LoadScript.Text.Word

/-!
# Letter case

Keywords are read without regard to letter case.  Two letters beyond ASCII fold
to ASCII ones, the long s `ſ` and the Kelvin sign `K`; they therefore count as
`s` and `k` wherever case is ignored.
-/

namespace LoadScript.Text

/-- The long s, which folds to `s`. -/
def longS : Char := '\u017f'

/-- The Kelvin sign, which folds to `k`. -/
def kelvinSign : Char := '\u212a'

/-- The lower-case form under which a character is compared when case is
ignored.  Characters that fold to nothing in ASCII stay as they are. -/
def fold (c : Char) : Char :=
  if c = longS then 's'
  else if c = kelvinSign then 'k'
  else c.toLower

/-- What follows a keyword at the front of a text.  The keyword is given in
lower case and read without regard to case. -/
def afterKeyword? : (keyword : Text) → Text → Option Text
  | [], rest => some rest
  | _ :: _, [] => none
  | letter :: keyword, c :: rest =>
      if fold c = letter then afterKeyword? keyword rest else none

/-- A keyword is read exactly when the text begins with a spelling of it. -/
theorem afterKeyword?_eq_some_iff {keyword text rest : Text} :
    afterKeyword? keyword text = some rest ↔
      ∃ spelling, spelling.map fold = keyword ∧ text = spelling ++ rest := by
  induction keyword generalizing text with
  | nil => simp [afterKeyword?, eq_comm]
  | cons letter keyword ih =>
      cases text with
      | nil =>
          simp only [afterKeyword?, reduceCtorEq, false_iff, not_exists, not_and]
          intro spelling folded split
          have empty : spelling = [] := (List.append_eq_nil_iff.1 split.symm).1
          simp [empty] at folded
      | cons c text =>
          by_cases same : fold c = letter
          · simp only [afterKeyword?, same, ↓reduceIte, ih]
            constructor
            · rintro ⟨spelling, folded, rfl⟩
              exact ⟨c :: spelling, by simp [same, folded], rfl⟩
            · rintro ⟨spelling, folded, split⟩
              cases spelling with
              | nil => simp at folded
              | cons d spelling =>
                  simp only [List.map_cons, List.cons.injEq, List.cons_append] at folded split
                  exact ⟨spelling, folded.2, split.2⟩
          · simp only [afterKeyword?, same, ↓reduceIte, reduceCtorEq, false_iff, not_exists,
              not_and]
            intro spelling folded split
            cases spelling with
            | nil => simp at folded
            | cons d spelling =>
                simp only [List.map_cons, List.cons.injEq, List.cons_append] at folded split
                exact same (split.1 ▸ folded.1)

/-- The characters that fold as a given one does. -/
def caseVariants (c : Char) : List Char :=
  let lower := fold c
  let others := if lower = 's' then [longS] else if lower = 'k' then [kelvinSign] else []
  c :: lower :: lower.toUpper :: others

end LoadScript.Text
