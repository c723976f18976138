import LoadScript.Store.Basic
import LoadScript.Template
import Mathlib.Data.List.Infix

/-!
# References

A text refers to a name when the name stands in it between a dollar sign with an opening
parenthesis and a closing one.  The template of a text holds a reference to exactly these
names, since no character of a name can begin a reference.  What a text expands to is
therefore told by what these names stand for and by nothing else.
-/

namespace LoadScript

/-- The written reference to a name. -/
def referenceTo (name : Text) : Text :=
  '$' :: '(' :: (name ++ [')'])

/-- A valid name is referred to somewhere in the text. -/
def RefersTo (text name : Text) : Prop :=
  isName name = true ∧ referenceTo name <:+: text

/-! ## The references of a template -/

/-- A text whose first character does not occur in `left` stands behind `left`. -/
theorem infix_of_infix_append {first : Char} {pattern right : Text} (left : Text)
    (absent : first ∉ left) (stands : first :: pattern <:+: left ++ right) :
    first :: pattern <:+: right := by
  induction left with
  | nil => exact stands
  | cons c left ih =>
      rcases List.infix_cons_iff.mp stands with atFront | behind
      · obtain rfl := (List.cons_prefix_cons.mp atFront).1
        exact absurd List.mem_cons_self absent
      · exact ih (fun member => absent (List.mem_cons_of_mem c member)) behind

theorem dollar_not_mem_of_isName {name : Text} (valid : isName name = true) : '$' ∉ name := by
  intro member
  exact absurd (isNameChar_of_mem_isName valid member) (by decide)

/-- A written reference is read where it stands. -/
theorem openedReference?_of_isPrefix {name text : Text} (valid : isName name = true)
    (atFront : referenceTo name <+: '$' :: '(' :: text) :
    ∃ rest, openedReference? text = some (name, rest) := by
  rcases atFront with ⟨rest, split⟩
  refine ⟨rest, openedReference?_eq_some_iff.mpr ⟨valid, ?_⟩⟩
  simpa [referenceTo] using split.symm

/-- Behind the opening of a reference another one can only stand in the rest. -/
theorem infix_of_infix_opening {name text : Text}
    (stands : referenceTo name <:+: '(' :: text) : referenceTo name <:+: text :=
  infix_of_infix_append ['('] (by decide) stands

/-- The template of a text refers to the names that the text refers to. -/
theorem reference_mem_ofText_iff {text name : Text} :
    .reference name ∈ Template.ofText text ↔ RefersTo text name := by
  constructor
  · intro member
    fun_induction Template.ofText text with
    | case1 => simp at member
    | case2 text other rest found ih =>
        rcases openedReference?_eq_some_iff.mp found with ⟨valid, rfl⟩
        rcases List.mem_cons.mp member with same | behind
        · obtain rfl := Piece.reference.inj same
          exact ⟨valid, [], rest, by simp [referenceTo]⟩
        · rcases ih behind with ⟨valid', stands⟩
          refine ⟨valid', stands.trans ⟨referenceTo other, [], ?_⟩⟩
          simp [referenceTo]
    | case3 text _ ih =>
        rcases ih (by simpa using member) with ⟨valid, stands⟩
        exact ⟨valid, stands.trans (List.suffix_append ['$', '('] text).isInfix⟩
    | case4 c text _ ih =>
        rcases ih (by simpa using member) with ⟨valid, stands⟩
        exact ⟨valid, stands.trans (List.suffix_cons c text).isInfix⟩
  · rintro ⟨valid, stands⟩
    fun_induction Template.ofText text with
    | case1 => simp [referenceTo] at stands
    | case2 text other rest found ih =>
        rcases List.infix_cons_iff.mp stands with atFront | behind
        · rcases openedReference?_of_isPrefix valid atFront with ⟨_, found'⟩
          obtain rfl := (Prod.mk.inj (Option.some.inj (found.symm.trans found'))).1
          exact List.mem_cons_self
        · rcases openedReference?_eq_some_iff.mp found with ⟨validOther, rfl⟩
          have inRest : referenceTo name <:+: rest := by
            apply infix_of_infix_append (other ++ [')'])
            · simp [dollar_not_mem_of_isName validOther]
            · simpa [referenceTo] using infix_of_infix_opening behind
          exact List.mem_cons_of_mem _ (ih inRest)
    | case3 text unread ih =>
        rcases List.infix_cons_iff.mp stands with atFront | behind
        · rcases openedReference?_of_isPrefix valid atFront with ⟨_, found⟩
          rw [unread] at found
          contradiction
        · have inRest := ih (infix_of_infix_opening behind)
          exact List.mem_cons_of_mem _ (List.mem_cons_of_mem _ inRest)
    | case4 c text plain ih =>
        rcases List.infix_cons_iff.mp stands with atFront | behind
        · rcases atFront with ⟨rest, split⟩
          rcases List.cons.inj split with ⟨rfl, tail⟩
          exact absurd tail.symm (plain _ rfl)
        · exact List.mem_cons_of_mem _ (ih behind)

/-- The references that lead nowhere are among those of the text. -/
theorem mem_unresolved_ofText_iff {lookup : Text → Option Text} {text name : Text} :
    name ∈ (Template.ofText text).unresolved lookup ↔ RefersTo text name ∧ lookup name = none := by
  rw [← reference_mem_ofText_iff, Template.unresolved, List.mem_filterMap]
  constructor
  · rintro ⟨piece, member, unresolved⟩
    cases piece with
    | plain c => simp [Piece.unresolved?] at unresolved
    | reference other =>
        rw [Piece.unresolved?] at unresolved
        split at unresolved
        · rename_i missing
          obtain rfl := Option.some.inj unresolved
          exact ⟨member, Option.isNone_iff_eq_none.mp missing⟩
        · contradiction
  · rintro ⟨member, missing⟩
    exact ⟨.reference name, member, by simp [Piece.unresolved?, missing]⟩

/-! ## What references are replaced by -/

/-- What a text expands to is told by what the names it refers to stand for. -/
theorem expand_congr {first second : Text → Option Text} {text : Text}
    (agree : ∀ name, RefersTo text name → first name = second name) :
    expand first text = expand second text := by
  unfold expand Template.fill
  apply List.flatMap_congr
  intro piece member
  cases piece with
  | plain c => rfl
  | reference name => rw [Piece.fill, Piece.fill, agree name (reference_mem_ofText_iff.mp member)]

/-- Where all references lead nowhere, a text stays as it is. -/
theorem expand_eq_self_of_forall_none {lookup : Text → Option Text} {text : Text}
    (unresolved : ∀ name, RefersTo text name → lookup name = none) :
    expand lookup text = text := by
  calc
    expand lookup text = expand (fun _ => none) text := expand_congr unresolved
    _ = (Template.ofText text).source := by
      apply List.flatMap_congr
      intro piece _
      cases piece with
      | plain c => rfl
      | reference name => rfl
    _ = text := Template.source_ofText text

/-- A single reference is replaced by what its name stands for. -/
theorem expand_referenceTo {lookup : Text → Option Text} {name : Text}
    (valid : isName name = true) :
    expand lookup (referenceTo name) = (lookup name).getD (referenceTo name) := by
  have found : openedReference? (name ++ [')']) = some (name, []) :=
    openedReference?_eq_some_iff.mpr ⟨valid, rfl⟩
  have read : Template.ofText (referenceTo name) = [.reference name] := by
    rw [referenceTo, Template.ofText]
    split
    · rename_i other rest found'
      rcases Prod.mk.inj (Option.some.inj (found'.symm.trans found)) with ⟨rfl, rfl⟩
      rw [Template.ofText]
    · rename_i unread
      rw [found] at unread
      contradiction
  rw [expand, read]
  simp [Template.fill, Piece.fill, Piece.source, referenceTo]

/-- A reference to what is no valid name stays as it is. -/
theorem expand_referenceTo_of_not_isName {lookup : Text → Option Text} {name : Text}
    (inName : ∀ c ∈ name, isNameChar c = true) (invalid : isName name = false) :
    expand lookup (referenceTo name) = referenceTo name := by
  apply expand_eq_self_of_forall_none
  rintro other ⟨valid, stands⟩
  have noDollar : '$' ∉ '(' :: (name ++ [')']) := by
    have notInName : '$' ∉ name := fun member => absurd (inName '$' member) (by decide)
    simp [notInName]
  rcases List.infix_cons_iff.mp stands with atFront | behind
  · -- Both names end at the first character that stands in no name, so they are the same.
    rcases openedReference?_of_isPrefix valid atFront with ⟨rest, found⟩
    have split := (openedReference?_eq_some_iff.mp found).2
    have inOther : ∀ c ∈ other, isNameChar c = true := fun c member =>
      isNameChar_of_mem_isName valid member
    have closing : isNameChar ')' = false := by decide
    have same : name = other := by
      have taken := congrArg (List.takeWhile isNameChar) split
      simpa [List.takeWhile_append_of_pos inName, List.takeWhile_append_of_pos inOther,
        closing] using taken
    rw [same, valid] at invalid
    contradiction
  · have inNothing : referenceTo other <:+: [] := by
      apply infix_of_infix_append _ noDollar
      rwa [List.append_nil]
    simp [referenceTo] at inNothing

theorem Store.referenceText?_set (store : Store) (name other : Text) (value : Value) :
    (store.set name value).referenceText? other =
      if other = name then some value.text else store.referenceText? other := by
  unfold referenceText?
  rw [find?_set]
  split
  · rfl
  · rfl

end LoadScript
