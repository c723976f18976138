import LoadScript.Proofs.AssignedNames
import LoadScript.Proofs.Coercion
import LoadScript.Proofs.HeadSearch

/-!
# The grammar of assignments

An assignment is spelled as blanks, a keyword, blanks, a name, blanks, an equals sign, blanks
and the text of the value.  How the blanks are shared out between the last gap and the value
makes no difference, because values are trimmed.

The main statement, `execute_judges`, says that the form of assignments refuses the texts with
several heads as ambiguous, executes exactly those among the others that are spelled like this,
refuses the rest as malformed, and claims everything that it would execute.
-/

namespace LoadScript.Assignment

open Text

/-- The text is an assignment to `name`, and `rest` is what follows some blanks behind the equals
sign. -/
def Spells (text name rest : Text) : Prop :=
  ∃ blanks verb gap gap' gap'',
    text = blanks ++ (verb ++ (gap ++ (name ++ (gap' ++ '=' :: (gap'' ++ rest))))) ∧
    (∀ c ∈ blanks, isBlank c = true) ∧ Verb verb ∧ Gap gap ∧ Target name ∧ Gap gap' ∧ Gap gap''

variable {text name rest name' rest' : Text}

/-! ## Keywords and names, character by character -/

/-- The letters of the keywords, each with the characters that are read as it. -/
def letterSpellings : List (Char × List Char) :=
  [('s', ['S', 's', longS]), ('l', ['L', 'l']), ('e', ['E', 'e']), ('t', ['T', 't'])]

theorem fold_eq_iff (letter : Char × List Char) (listed : letter ∈ letterSpellings) (c : Char) :
    fold c = letter.1 ↔ c ∈ letter.2 := by
  apply fold_cases (motive := fun c => ∀ letter ∈ letterSpellings,
    (fold c = letter.1 ↔ c ∈ letter.2)) ?_ ?_ ?_ ?_ c letter listed
  · decide +kernel
  · decide +kernel
  · decide +kernel
  · intro c beyond same _ letter listed
    have table : letterSpellings.all (fun letter => decide (letter.1.toNat < 0x80) &&
        letter.2.all fun d => decide (d.toNat < 0x80) || fold d != d) = true := by
      decide
    simp only [List.all_eq_true, Bool.and_eq_true, Bool.or_eq_true, decide_eq_true_eq,
      bne_iff_ne] at table
    rcases table letter listed with ⟨ascii, spellings⟩
    constructor
    · intro folded
      rw [same] at folded
      rw [folded] at beyond
      omega
    · intro member
      rcases spellings c member with isAscii | folds
      · omega
      · exact absurd same folds

/-- The spellings of the keywords. -/
theorem verb_iff {verb : Text} :
    Verb verb ↔ ∃ c d e, verb = [c, d, e] ∧ c ∈ ['S', 's', longS, 'L', 'l'] ∧ d ∈ ['E', 'e'] ∧
      e ∈ ['T', 't'] := by
  have atS := fold_eq_iff ('s', ['S', 's', longS]) (by decide)
  have atL := fold_eq_iff ('l', ['L', 'l']) (by decide)
  have atE := fold_eq_iff ('e', ['E', 'e']) (by decide)
  have atT := fold_eq_iff ('t', ['T', 't']) (by decide)
  dsimp only at atS atL atE atT
  have initial : ∀ c, c ∈ ['S', 's', longS, 'L', 'l'] ↔ fold c = 's' ∨ fold c = 'l' := by
    intro c
    rw [atS, atL, ← List.mem_append]
    rfl
  simp only [Verb, List.map_eq_cons_iff, List.map_eq_nil_iff, initial, ← atE, ← atT]
  constructor
  · rintro (⟨c, _, rfl, first, d, _, rfl, second, e, _, rfl, third, rfl⟩ |
      ⟨c, _, rfl, first, d, _, rfl, second, e, _, rfl, third, rfl⟩)
    · exact ⟨c, d, e, rfl, .inl first, second, third⟩
    · exact ⟨c, d, e, rfl, .inr first, second, third⟩
  · rintro ⟨c, d, e, rfl, first | first, second, third⟩
    · exact .inl ⟨c, _, rfl, first, d, _, rfl, second, e, _, rfl, third, rfl⟩
    · exact .inr ⟨c, _, rfl, first, d, _, rfl, second, e, _, rfl, third, rfl⟩

/-- The names that can be assigned. -/
theorem target_iff {name : Text} :
    Target name ↔ ∃ c rest, name = c :: rest ∧ (isLetter c = true ∨ c = longS ∨ c = kelvinSign) ∧
      ∀ d ∈ rest, isWord d = true ∨ d = '.' := by
  cases name with
  | nil => simp [Target]
  | cons c rest => simp [Target, isLetter_fold_iff, isNameChar]

/-! ## One assignment, spelled in several ways -/

theorem Gap.append_takeWhile {gap : Text} (isGap : Gap gap) (rest : Text) :
    Gap (gap ++ rest.takeWhile isBlank) :=
  ⟨List.append_ne_nil_of_left_ne_nil isGap.1 _,
    List.forall_mem_append.mpr ⟨isGap.2, List.all_eq_true.mp List.all_takeWhile⟩⟩

theorem Spells.assigns (spells : Spells text name rest) :
    Assigns text name (rest.dropWhile isBlank) := by
  rcases spells with ⟨blanks, verb, gap, gap', gap'', rfl, blank, spelled, isGap, target, isGap',
    isGap''⟩
  refine ⟨blanks, _, gap'' ++ rest.takeWhile isBlank, rfl, blank,
    ⟨verb, gap, gap', ?_, spelled, isGap, target, isGap'⟩, isGap''.append_takeWhile rest, ?_⟩
  · rw [List.append_assoc, List.takeWhile_append_dropWhile]
  · exact fun c atFront => eq_false_of_head?_dropWhile atFront

theorem Assigns.spells {raw : Text} (assigns : Assigns text name raw) : Spells text name raw := by
  rcases assigns with ⟨blanks, _, gap'', rfl, blank, ⟨verb, gap, gap', rfl, spelled, isGap, target,
    isGap'⟩, isGap'', _⟩
  exact ⟨blanks, verb, gap, gap', gap'', rfl, blank, spelled, isGap, target, isGap', isGap''⟩

/-- Blanks in front of a value do not count. -/
theorem coerce_dropWhile_isBlank (text : Text) :
    Value.coerce (text.dropWhile isBlank) = .coerce text := by
  have blank : ∀ c ∈ text.takeWhile isBlank, isBlank c = true :=
    List.all_eq_true.mp List.all_takeWhile
  have trimmed := trim_append_of_blank blank (text.dropWhile isBlank)
  rw [List.takeWhile_append_dropWhile] at trimmed
  rw [Value.coerce, Value.coerce, trimmed]

theorem Spells.unique (left : Spells text name rest) (right : Spells text name' rest') :
    name = name' ∧ Value.coerce rest = .coerce rest' := by
  rcases left.assigns.unique right.assigns with ⟨rfl, sameValue⟩
  rw [← coerce_dropWhile_isBlank rest, ← sameValue, coerce_dropWhile_isBlank]
  exact ⟨rfl, rfl⟩

/-! ## What the form does -/

theorem execute_of_several (several : 1 < headCount text) (state : State) :
    ∃ reason, execute text state = (.refused .ambiguous reason, state) :=
  ⟨_, if_pos several⟩

theorem Spells.execute_eq (spells : Spells text name rest) (few : ¬1 < headCount text)
    (state : State) :
    execute text state = (.executed, ⟨state.vars.set name (.coerce rest), state.next + 1⟩) := by
  rw [execute, if_neg few, ofText?_eq_some_iff.mpr spells.assigns, ← coerce_dropWhile_isBlank rest]
  rfl

theorem execute_of_not_spells (malformed : ∀ name rest, ¬Spells text name rest)
    (few : ¬1 < headCount text) (state : State) :
    ∃ reason, execute text state = (.refused .unmatched reason, state) := by
  have unread : ofText? text = none := by
    rw [Option.eq_none_iff_forall_ne_some]
    rintro ⟨name, raw⟩ read
    exact malformed name raw (ofText?_eq_some_iff.mp read).spells
  refine ⟨?reason, ?refused⟩
  case refused =>
    rw [execute, if_neg few, unread]

/-- A text is claimed if it begins with a keyword that is a whole word. -/
theorem claims_eq_true_iff :
    claims text = true ↔
      ∃ blanks verb rest, text = blanks ++ (verb ++ rest) ∧ (∀ c ∈ blanks, isBlank c = true) ∧
        Verb verb ∧ ∀ c ∈ rest.head?, isWord c = false := by
  constructor
  · intro claimed
    cases read : afterVerb? (text.dropWhile isBlank) with
    | none => simp [claims, read] at claimed
    | some rest =>
        rcases afterVerb?_eq_some_iff.mp read with ⟨verb, spelled, split⟩
        refine ⟨text.takeWhile isBlank, verb, rest, ?_, ?_, spelled, ?_⟩
        · rw [← split, List.takeWhile_append_dropWhile]
        · exact List.all_eq_true.mp List.all_takeWhile
        · intro c atFront
          cases rest with
          | nil => simp at atFront
          | cons d rest =>
              obtain rfl := Option.some.inj atFront
              simpa [claims, read] using claimed
  · rintro ⟨blanks, verb, rest, rfl, blank, spelled, ends⟩
    rw [claims, dropWhile_isBlank_append blank spelled.head_append, spelled.afterVerb?_append]
    cases rest with
    | nil => rfl
    | cons c rest => simp [ends c rfl]

theorem Spells.claims_eq (spells : Spells text name rest) : claims text = true := by
  rcases spells with ⟨blanks, verb, gap, gap', gap'', rfl, blank, spelled, isGap, _⟩
  refine claims_eq_true_iff.mpr ⟨blanks, verb, _, rfl, blank, spelled, ?_⟩
  intro c atFront
  have noName : isNameChar c = false := isGap.head_append c atFront
  simp only [isNameChar, Bool.or_eq_false_iff] at noName
  exact noName.1

theorem execute_fst_eq_executed_iff {state : State} :
    (execute text state).1 = .executed ↔
      headCount text < 2 ∧ ∃ name rest, Spells text name rest := by
  constructor
  · intro executed
    have few : ¬1 < headCount text := by
      intro several
      rcases execute_of_several several state with ⟨reason, refused⟩
      rw [refused] at executed
      contradiction
    refine ⟨Nat.lt_of_not_le few, ?_⟩
    by_contra malformed
    have notSpelled : ∀ name rest, ¬Spells text name rest :=
      fun name rest spells => malformed ⟨name, rest, spells⟩
    rcases execute_of_not_spells notSpelled few state with ⟨reason, refused⟩
    rw [refused] at executed
    contradiction
  · rintro ⟨few, name, rest, spells⟩
    rw [spells.execute_eq (Nat.not_lt_of_le (Nat.le_of_lt_succ few)) state]

/-- How the form of assignments judges a text. -/
structure Judged (text : Text) (state : State) : Prop where
  /-- The heads of the text do not overlap. -/
  disjoint : ∀ start stop start' stop', HeadAt text start stop → HeadAt text start' stop' →
    (start = start' ∧ stop = stop') ∨ stop ≤ start' ∨ stop' ≤ start
  /-- The heads are counted by the places where they begin, and a search from left to right
  finds all of them. -/
  counted : headCount text = {start | ∃ stop, HeadAt text start stop}.ncard ∧
    ∃ pattern,
      Pattern.ofText "(?:^|\\s)(?:SET|LET)\\s+[A-Za-z][\\w.]*\\s+=".toList = .ok pattern ∧
      (Pattern.findAll .ignoringCase pattern text).length = headCount text
  /-- Several heads are ambiguous. -/
  ambiguous : 2 ≤ headCount text →
    ∃ reason, execute text state = (.refused .ambiguous reason, state)
  /-- The other texts are executed exactly when they are spelled as assignments. -/
  executes_iff : (execute text state).1 = .executed ↔
    headCount text < 2 ∧ ∃ name rest, Spells text name rest
  /-- An assignment writes its value. -/
  written : ∀ name rest, Spells text name rest → headCount text < 2 →
    execute text state = (.executed, ⟨state.vars.set name (.coerce rest), state.next + 1⟩)
  /-- All ways to spell the text as an assignment give the same name and value. -/
  unique : ∀ name rest name' rest', Spells text name rest → Spells text name' rest' →
    name = name' ∧ Value.coerce rest = .coerce rest'
  /-- Any other text is malformed. -/
  malformed : headCount text < 2 → (∀ name rest, ¬Spells text name rest) →
    ∃ reason, execute text state = (.refused .unmatched reason, state)
  /-- A text that is refused changes nothing. -/
  unchanged : ∀ fault reason, (execute text state).1 = .refused fault reason →
    (execute text state).2 = state
  /-- What is executed is claimed, so it reaches the form. -/
  claimed : (execute text state).1 = .executed → claims text = true ∧
    Registry.standard.dispatch text state = (.executed form.name, (execute text state).2)

theorem dispatch_of_executed {state : State} (claimed : claims text = true)
    (executed : (execute text state).1 = .executed) :
    Registry.standard.dispatch text state = (.executed form.name, (execute text state).2) := by
  have alone : Registry.standard.claimants text = [form] := List.filter_cons_of_pos claimed
  have executes : form.execute text state = (.executed, (execute text state).2) :=
    Prod.ext executed rfl
  simp only [Registry.dispatch, alone, executes]

/-- The form of assignments accepts exactly its grammar.  Keywords are read without regard to
case, and so is the first letter of a name.  With two heads or more a text is ambiguous; any
other text is executed if it is spelled as an assignment, in whatever way the blanks around its
value are shared out, and malformed if it is not.  Nothing that would be executed goes
unclaimed. -/
theorem execute_judges :
    (∀ verb, Verb verb ↔ ∃ c d e, verb = [c, d, e] ∧ c ∈ ['S', 's', '\u017f', 'L', 'l'] ∧
      d ∈ ['E', 'e'] ∧ e ∈ ['T', 't']) ∧
    (∀ name, Target name ↔ ∃ c rest, name = c :: rest ∧
      (isLetter c = true ∨ c = '\u017f' ∨ c = '\u212a') ∧ ∀ d ∈ rest, isWord d = true ∨ d = '.') ∧
    ∀ text state, Judged text state := by
  refine ⟨fun verb => verb_iff, fun name => target_iff, fun text state => ?_⟩
  constructor
  case disjoint =>
    intro start stop start' stop' first second
    rcases Nat.lt_trichotomy start start' with before | rfl | behind
    · exact .inr (.inl (first.disjoint second before))
    · exact .inl ⟨rfl, first.stop_unique second⟩
    · exact .inr (.inr (second.disjoint first behind))
  case counted =>
    exact ⟨headCount_eq_ncard text, headPattern, ofText_headPattern,
      length_findAll_headPattern text⟩
  case ambiguous => exact fun several => execute_of_several several state
  case executes_iff => exact execute_fst_eq_executed_iff
  case written =>
    intro name rest spells few
    exact spells.execute_eq (Nat.not_lt_of_le (Nat.le_of_lt_succ few)) state
  case unique => exact fun name rest name' rest' left right => left.unique right
  case malformed =>
    intro few notSpelled
    exact execute_of_not_spells notSpelled (Nat.not_lt_of_le (Nat.le_of_lt_succ few)) state
  case unchanged =>
    intro fault reason refused
    rcases execute_cases text with ⟨_, _, refuses⟩ | ⟨_, _, _, executes⟩
    · rw [refuses state]
    · rw [executes state] at refused
      contradiction
  case claimed =>
    intro executed
    rcases execute_fst_eq_executed_iff.mp executed with ⟨_, name, rest, spells⟩
    exact ⟨spells.claims_eq, dispatch_of_executed spells.claims_eq executed⟩

end LoadScript.Assignment
