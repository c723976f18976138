import LoadScript.Proofs.NormalForm

/-!
# The passes come to an end

Passes are repeated until one of them changes nothing; no other rule ends them.  On a flat text
a pass that changes anything makes the text shorter, and every pass leaves a flat text, so the
length of the first text that enters bounds the number of passes.

The main statement, `passes_end`, gives the bound for every script.
-/

namespace LoadScript.Script

/-- The passes that begin with a text end in `result`.  There are `count` of them, and the last
one is the first that changes nothing. -/
inductive Settles : (text : Text) → (count : Nat) → (result : Text) → Prop where
  /-- A pass that changes nothing is the last one. -/
  | last {text : Text} (same : pass text = text) : Settles text 1 text
  /-- A pass that changes the text is followed by another one. -/
  | again {text result : Text} {count : Nat} (changed : pass text ≠ text)
      (rest : Settles (pass text) count result) : Settles text (count + 1) result

namespace Settles

/-- The passes end in a text that a further pass leaves alone. -/
theorem pass_eq {text result : Text} {count : Nat} (settles : Settles text count result) :
    pass result = result := by
  induction settles with
  | last same => exact same
  | again _ _ ih => exact ih

/-- The passes end in one way. -/
theorem unique {text result other : Text} {count count' : Nat}
    (settles : Settles text count result) (settles' : Settles text count' other) :
    count' = count ∧ other = result := by
  induction settles generalizing other count' with
  | last same =>
      cases settles' with
      | last _ => exact ⟨rfl, rfl⟩
      | again changed _ => exact absurd same changed
  | again changed _ ih =>
      cases settles' with
      | last same => exact absurd same changed
      | again _ rest' =>
          obtain ⟨rfl, rfl⟩ := ih rest'
          exact ⟨rfl, rfl⟩

end Settles

/-- On a flat text a pass changes nothing or shortens the text. -/
theorem pass_eq_or_shorter {text : Text} (flat : Flat text) :
    pass text = text ∨ (pass text).length < text.length := by
  by_cases shorter : (pass text).length < text.length
  · exact .inr shorter
  · exact .inl (pass_eq_self_of_flat flat shorter)

/-- Passes over a flat text end, after one pass more than the text has characters at the
latest. -/
theorem exists_settles {text : Text} (flat : Flat text) :
    ∃ count ≤ text.length + 1, Settles text count (settle text) := by
  fun_induction settle text with
  | case1 text shorter ih =>
      rcases ih (flat_pass text) with ⟨count, bound, rest⟩
      have changed : pass text ≠ text := by
        intro same
        rw [same] at shorter
        exact Nat.lt_irrefl _ shorter
      exact ⟨count + 1, by omega, .again changed rest⟩
  | case2 text long => exact ⟨1, by omega, .last (pass_eq_self_of_flat flat long)⟩

theorem length_pass_le (text : Text) : (pass text).length ≤ text.length := by
  have kept := (pass_sublist text).length_le
  rwa [flatten, List.length_map] at kept

/-- A pass over a flat text changes nothing or shortens it, and leaves it flat.  The text that
enters the repeated passes is flat, so they end for every script, in its clean text, after at
most one pass more than the script has characters once its line ends are made alike. -/
theorem passes_end :
    (∀ text, Flat text →
      (pass text = text ∨ (pass text).length < text.length) ∧ Flat (pass text)) ∧
    ∀ source, Flat (pass (foldLineEnds source)) ∧
      ∃ count ≤ (foldLineEnds source).length + 1,
        Settles (pass (foldLineEnds source)) count (clean source) ∧
        pass (clean source) = clean source ∧
        ∀ count' result, Settles (pass (foldLineEnds source)) count' result →
          count' = count ∧ result = clean source := by
  refine ⟨?_, ?_⟩
  · intro text flat
    exact ⟨pass_eq_or_shorter flat, flat_pass text⟩
  · intro source
    have flat := flat_pass (foldLineEnds source)
    rcases exists_settles flat with ⟨count, bound, settles⟩
    have shorter := length_pass_le (foldLineEnds source)
    refine ⟨flat, count, by omega, settles, settles.pass_eq, ?_⟩
    intro count' result settles'
    exact settles.unique settles'

/-- The first pass brings a block comment to light, the second one deletes it and the third one
finds nothing. -/
theorem passes_end_exposed_block :
    Flat "a/*y*/;".toList ∧
    ((pass "a/*y*/;".toList = "a/*y*/;".toList ∨
      (pass "a/*y*/;".toList).length < "a/*y*/;".toList.length) ∧
        Flat (pass "a/*y*/;".toList)) ∧
    Settles (pass (foldLineEnds "a//*x*/*y*/;".toList)) 2 (clean "a//*x*/*y*/;".toList) := by
  have flat : Flat "a/*y*/;".toList := flat_iff.mpr (by decide)
  have twice : Settles (pass (foldLineEnds "a//*x*/*y*/;".toList)) 2 "a;".toList :=
    .again (by decide) (.last (by decide))
  rcases passes_end.2 "a//*x*/*y*/;".toList with ⟨_, count, _, settles, _, unique⟩
  obtain ⟨rfl, _⟩ := unique 2 _ twice
  exact ⟨flat, passes_end.1 _ flat, settles⟩

end LoadScript.Script
