import LoadScript.Proofs.Effects
import LoadScript.Proofs.References

/-!
# The names that scripts assign

The name in an assignment is read without regard to letter case, but a name in a reference
is not.  The two readings differ at the two letters beyond ASCII that fold to ASCII ones: a
name that begins with one of them can be assigned, though it is no valid name, and what it
holds cannot be read back.

The main statement, `execAll_readable_iff`, follows every assignment of some scripts and
shows that these names are the only ones that are lost.
-/

namespace LoadScript

open Text

/-- The name begins with one of the letters beyond ASCII that fold to ASCII ones. -/
def FoldedInitial (name : Text) : Prop :=
  ∃ c ∈ name.head?, c = longS ∨ c = kelvinSign

/-! ## Targets of assignments and valid names -/

/-- The two letters beyond ASCII apart, only letters fold to letters. -/
theorem isLetter_fold_iff {c : Char} :
    isLetter (fold c) = true ↔ isLetter c = true ∨ c = longS ∨ c = kelvinSign := by
  constructor
  · intro letter
    by_cases notLongS : c = longS
    · exact .inr (.inl notLongS)
    · by_cases notKelvin : c = kelvinSign
      · exact .inr (.inr notKelvin)
      · left
        by_cases upper : 'A' ≤ c ∧ c ≤ 'Z'
        · rw [isLetter, Bool.or_eq_true, Bool.and_eq_true, decide_eq_true_eq, decide_eq_true_eq]
          exact .inl upper
        · have lower : c.toLower = c := dif_neg upper
          rwa [fold, if_neg notLongS, if_neg notKelvin, lower] at letter
  · rintro (letter | rfl | rfl)
    · exact Assignment.isLetter_fold_of_isLetter letter
    · decide
    · decide

namespace Assignment

theorem Target.isNameChar_of_mem {name : Text} (target : Target name) {c : Char}
    (member : c ∈ name) : isNameChar c = true := by
  cases name with
  | nil => exact absurd target id
  | cons first rest =>
      rcases List.mem_cons.mp member with rfl | inRest
      · rcases isLetter_fold_iff.mp target.1 with letter | rfl | rfl
        · exact isNameChar_of_isLetter letter
        · decide +kernel
        · decide +kernel
      · exact target.2 c inRest

/-- A target is a valid name unless it begins with a letter beyond ASCII. -/
theorem Target.isName_iff {name : Text} (target : Target name) :
    isName name = true ↔ ¬FoldedInitial name := by
  cases name with
  | nil => exact absurd target id
  | cons first rest =>
      have initial : FoldedInitial (first :: rest) ↔ first = longS ∨ first = kelvinSign := by
        simp [FoldedInitial]
      rw [initial, isName, Bool.and_eq_true, List.all_eq_true]
      constructor
      · rintro ⟨letter, _⟩ (rfl | rfl)
        · exact absurd letter (by decide)
        · exact absurd letter (by decide)
      · intro plain
        refine ⟨?_, target.2⟩
        rcases isLetter_fold_iff.mp target.1 with letter | folded
        · exact letter
        · exact absurd folded plain

/-- What is assigned is a target. -/
theorem Assigns.target {text name raw : Text} (assigns : Assigns text name raw) :
    Target name := by
  rcases assigns with ⟨_, _, _, _, _, ⟨_, _, _, _, _, _, target, _⟩, _⟩
  exact target

end Assignment

namespace Run.Visit

variable {visit : Visit} {name raw : Text}

theorem Assigns.target (assigns : visit.Assigns name raw) : Assignment.Target name := by
  rcases assigns with ⟨_, _, _, assigns⟩
  exact assigns.target

/-- Right after an assignment the variable holds the value. -/
theorem Standard.varsAfter_of_assigns (standard : visit.Standard)
    (assigns : visit.Assigns name raw) :
    visit.varsAfter = visit.before.state.vars.set name (.coerce raw) := by
  rcases standard.cases with ⟨refused, _⟩ | ⟨other, otherRaw, otherAssigns, written⟩
  · rw [assigns.1] at refused
    contradiction
  · rcases otherAssigns.unique assigns with ⟨rfl, rfl⟩
    exact written

/-- Right after an assignment a reference reads the value back, if the name is valid. -/
theorem Standard.expand_reference (standard : visit.Standard)
    (assigns : visit.Assigns name raw) :
    expand visit.varsAfter.referenceText? (referenceTo name) =
      if isName name then (Value.coerce raw).text else referenceTo name := by
  split
  · rename_i valid
    rw [expand_referenceTo valid, standard.varsAfter_of_assigns assigns,
      Store.referenceText?_set, if_pos rfl, Option.getD_some]
  · rename_i invalid
    exact expand_referenceTo_of_not_isName
      (fun c => assigns.target.isNameChar_of_mem) (Bool.eq_false_iff.mpr invalid)

end Run.Visit

namespace Session

open Run

theorem contains_execAll_iff {vars : Store} {sources : List Text} {name : Text} :
    ((Session.mk .standard vars).execAll sources).vars.contains name = true ↔
      vars.contains name = true ∨
        ∃ visit ∈ (Session.mk .standard vars).visitsAll sources, ∃ raw, visit.Assigns name raw := by
  rw [session_execAll, Store.contains_setAll_iff]
  apply or_congr Iff.rfl
  simp only [mem_writesOf_iff]
  constructor
  · rintro ⟨_, visit, member, raw, assigns, _⟩
    exact ⟨visit, member, raw, assigns⟩
  · rintro ⟨visit, member, raw, assigns⟩
    exact ⟨_, visit, member, raw, assigns, rfl⟩

/-- From valid names, scripts come to valid names exactly when they assign no name with one
of the two letters beyond ASCII in front.  Right after an assignment its name stands for the
value in a reference, again unless the name begins with one of these letters; then the
reference leads nowhere. -/
theorem execAll_readable_iff {vars : Store}
    (valid : ∀ name, vars.contains name = true → isName name = true) (sources : List Text) :
    ((∀ name, ((Session.mk .standard vars).execAll sources).vars.contains name = true →
        isName name = true) ↔
      ∀ visit ∈ (Session.mk .standard vars).visitsAll sources, ∀ name raw,
        visit.Assigns name raw → ¬FoldedInitial name) ∧
    (∀ visit ∈ (Session.mk .standard vars).visitsAll sources, ∀ name raw,
      visit.Assigns name raw →
        visit.varsAfter.find? name = some ⟨.variable, .coerce raw⟩ ∧
        (¬FoldedInitial name → isName name = true ∧
          expand visit.varsAfter.referenceText? ('$' :: '(' :: (name ++ [')'])) =
            (Value.coerce raw).text) ∧
        (FoldedInitial name → isName name = false ∧
          expand visit.varsAfter.referenceText? ('$' :: '(' :: (name ++ [')'])) =
            '$' :: '(' :: (name ++ [')']))) := by
  constructor
  · constructor
    · intro allValid visit member name raw assigns
      rw [← assigns.target.isName_iff]
      exact allValid name (contains_execAll_iff.mpr (.inr ⟨visit, member, raw, assigns⟩))
    · intro plain name present
      rcases contains_execAll_iff.mp present with before | ⟨visit, member, raw, assigns⟩
      · exact valid name before
      · exact assigns.target.isName_iff.mpr (plain visit member name raw assigns)
  · intro visit member name raw assigns
    have standard := standard_of_mem_visitsAll member
    have read := standard.expand_reference assigns
    refine ⟨?_, ?_, ?_⟩
    · rw [standard.varsAfter_of_assigns assigns, Store.find?_set, if_pos rfl]
    · intro plain
      have isValid := assigns.target.isName_iff.mpr plain
      rw [if_pos isValid] at read
      exact ⟨isValid, read⟩
    · intro folded
      have invalid : ¬isName name = true := fun isValid =>
        assigns.target.isName_iff.mp isValid folded
      rw [if_neg invalid] at read
      exact ⟨Bool.eq_false_iff.mpr invalid, read⟩

/-- The long s can be assigned, although it is no name. -/
theorem execAll_assigns_longS :
    ∃ visit ∈ (Session.mk .standard .empty).visitsAll
        [['L', 'E', 'T', ' ', longS, ' ', '=', ' ', '1', ';']],
      ∃ name raw, visit.Assigns name raw ∧ FoldedInitial name := by
  have present : ((Session.mk .standard .empty).execAll
      [['L', 'E', 'T', ' ', longS, ' ', '=', ' ', '1', ';']]).vars.contains [longS] = true := by
    decide +kernel
  have noName : ∀ name, Store.empty.contains name = true → isName name = true := by
    simp [Store.contains, Store.find?, Store.empty]
  by_contra none
  have allValid := (execAll_readable_iff noName
    [['L', 'E', 'T', ' ', longS, ' ', '=', ' ', '1', ';']]).1.mpr
    fun visit member name raw assigns folded => none ⟨visit, member, name, raw, assigns, folded⟩
  exact absurd (allValid [longS] present) (by decide)

end Session

end LoadScript
