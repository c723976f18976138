import LoadScript.Command.Setup
import LoadScript.Proofs.SingleAssignment

/-!
# Ways to make the same assignment

The keyword of an assignment is read and then forgotten, so the form of assignments cannot tell
one spelling from another.  The statement `verbs_interchangeable` says this of every text that
begins with a keyword, whether it is an assignment or not.

A definition from the command line makes the same assignment as a statement does.  The one is
cut at its first equals sign and its name is trimmed; the other is cleaned, cut, expanded and
read by its grammar.  The statement `definition_agrees_with_assignment` says that both write the
same value to the same name.
-/

namespace LoadScript.Assignment

open Text

/-! ## Either keyword -/

section Verbs

variable {blanks verb verb' : Text} (blank : ∀ c ∈ blanks, isBlank c = true)
  (spelled : Verb verb) (spelled' : Verb verb') (rest : Text)

include spelled

/-- Heads behind a keyword stand in what follows it. -/
theorem innerHeads_verb_append : innerHeads (verb ++ rest) = innerHeads rest :=
  innerHeads_append_of_shown fun _ member => spelled.isBlank_eq_false member

include spelled'

theorem head?_verb_congr : head? (verb ++ rest) = head? (verb' ++ rest) := by
  rw [head?, head?, spelled.afterVerb?_append, spelled'.afterVerb?_append]

include blank

theorem headCount_verb_congr :
    headCount (blanks ++ (verb ++ rest)) = headCount (blanks ++ (verb' ++ rest)) := by
  rw [headCount_blanks_append blank, headCount_blanks_append blank, headCount, headCount,
    head?_verb_congr spelled spelled', innerHeads_verb_append spelled,
    innerHeads_verb_append spelled']

theorem ofText?_verb_congr :
    ofText? (blanks ++ (verb ++ rest)) = ofText? (blanks ++ (verb' ++ rest)) := by
  rw [ofText?, ofText?, dropWhile_isBlank_append blank spelled.head_append,
    dropWhile_isBlank_append blank spelled'.head_append, head?_verb_congr spelled spelled']

theorem claims_verb_congr :
    claims (blanks ++ (verb ++ rest)) = claims (blanks ++ (verb' ++ rest)) := by
  rw [claims, claims, dropWhile_isBlank_append blank spelled.head_append,
    dropWhile_isBlank_append blank spelled'.head_append, spelled.afterVerb?_append,
    spelled'.afterVerb?_append]

end Verbs

/-- The two keywords, in all their spellings, are interchangeable: whatever follows the keyword
and whatever the state, a text is claimed or not, and executed or refused for the same reason
with the same effect. -/
theorem verbs_interchangeable {blanks verb verb' : Text} (blank : ∀ c ∈ blanks, isBlank c = true)
    (spelled : Verb verb) (spelled' : Verb verb') (rest : Text) (state : State) :
    claims (blanks ++ (verb ++ rest)) = claims (blanks ++ (verb' ++ rest)) ∧
      execute (blanks ++ (verb ++ rest)) state = execute (blanks ++ (verb' ++ rest)) state := by
  constructor
  · exact claims_verb_congr blank spelled spelled' rest
  · rw [execute, execute, headCount_verb_congr blank spelled spelled',
      ofText?_verb_congr blank spelled spelled']

/-- A keyword in place of the name makes no difference, nor does a second head. -/
theorem verbs_interchangeable_in_value :
    claims "\t sEt Set = 1 LET let = 2".toList = claims "\t LET Set = 1 LET let = 2".toList ∧
      execute "\t sEt Set = 1 LET let = 2".toList ⟨.empty, 7⟩ =
        execute "\t LET Set = 1 LET let = 2".toList ⟨.empty, 7⟩ := by
  have blank : ∀ c ∈ ['\t', ' '], isBlank c = true :=
    List.forall_mem_cons.mpr ⟨rfl, List.forall_mem_singleton.mpr rfl⟩
  have spelled : Verb ['s', 'E', 't'] := by decide
  have spelled' : Verb ['L', 'E', 'T'] := by decide
  exact verbs_interchangeable blank spelled spelled' " Set = 1 LET let = 2".toList ⟨.empty, 7⟩

end LoadScript.Assignment

namespace LoadScript

open Text Assignment Command

/-! ## Definitions -/

/-- A definition with a name before its first equals sign is read as it stands. -/
theorem Command.readDefinition_of_isName {name : Text} (valid : isName name = true)
    (value : Text) : readDefinition (name ++ '=' :: value) = .ok (name, .coerce value) := by
  have inName : ∀ c ∈ name, isNameChar c = true := fun c => isNameChar_of_mem_isName valid
  have noEquals : '=' ∉ name := fun member => absurd (inName '=' member) (by decide)
  have cut : cutAt? '=' (name ++ '=' :: value) = some (name, value) :=
    cutAt?_eq_some_iff.mpr ⟨rfl, noEquals⟩
  have trimmed : trim name = name := by
    apply Literal.trim_eq_self
    · exact fun c atFront => isBlank_of_isNameChar (inName c (List.mem_of_mem_head? atFront))
    · exact fun c atBack => isBlank_of_isNameChar (inName c (List.mem_of_mem_getLast? atBack))
  simp only [readDefinition, cut, trimmed, valid, ↓reduceIte]

/-- A definition and a statement agree.  Where cleaning leaves the statement alone, and its value
holds no terminator, no reference and no head of another assignment, the definition is read, the
statement is executed without a report, and both write the same value to the same name, whatever
the variables before. -/
theorem definition_agrees_with_assignment {name value : Text} (valid : isName name = true)
    (noTerminator : ';' ∉ value) (noReference : ¬['$', '('] <:+: value)
    (unchanged : Script.clean ("SET ".toList ++ name ++ " = ".toList ++ value ++ ";".toList) =
      "SET ".toList ++ name ++ " = ".toList ++ value ++ ";".toList)
    (noHead : ∀ before c rest, ' ' :: value = before ++ c :: rest → isBlank c = true →
      ∀ target behind, ¬Head rest target behind) :
    ∃ x, readDefinition (name ++ '=' :: value) = .ok (name, x) ∧
      ∀ vars, ((Session.mk .standard vars).exec
          ("SET ".toList ++ name ++ " = ".toList ++ value ++ ";".toList)).diagnostics = [] ∧
        ((Session.mk .standard vars).exec
          ("SET ".toList ++ name ++ " = ".toList ++ value ++ ";".toList)).session =
            (Session.mk .standard vars).set name x := by
  have shape : "SET ".toList ++ name ++ " = ".toList ++ value ++ ";".toList =
      spaced ['S', 'E', 'T'] name value ++ [terminator] := by
    simp [spaced, terminator]
  rw [shape] at unchanged ⊢
  have normal : Script.Normal (spaced ['S', 'E', 'T'] name value ++ [terminator]) :=
    unchanged ▸ Script.normal_clean _
  refine ⟨.coerce value, readDefinition_of_isName valid value, fun vars => ?_⟩
  have expanded : expand vars.referenceText? value = value := expand_eq_self noReference
  have executed := Session.exec_assignment (.inl (by decide)) (target_of_isName valid) normal
    noTerminator (expanded.symm ▸ innerHeads_eq_zero_iff.mpr noHead)
  rwa [expanded] at executed

/-- An equals sign and blanks in the value. -/
theorem definition_agrees_with_assignment_quoted :
    readDefinition "v.1= 'a = b' ".toList = .ok ("v.1".toList, .string "a = b".toList) ∧
      ((Session.mk .standard .empty).exec "SET v.1 =  'a = b' ;".toList).session =
        (Session.mk .standard .empty).set "v.1".toList (.string "a = b".toList) := by
  have valid : isName "v.1".toList = true := by decide
  have noReference : ¬['$', '('] <:+: " 'a = b' ".toList := by decide
  have coerced : Value.coerce " 'a = b' ".toList = .string "a = b".toList := by decide +kernel
  have read := readDefinition_of_isName valid " 'a = b' ".toList
  rcases definition_agrees_with_assignment valid (by decide) noReference (by decide +kernel)
    (innerHeads_eq_zero_iff.mp (by decide +kernel)) with ⟨x, readAs, agrees⟩
  rw [coerced] at read
  obtain ⟨_, rfl⟩ := Prod.mk.inj (Except.ok.inj (read.symm.trans readAs))
  exact ⟨read, (agrees .empty).2⟩

end LoadScript
