import LoadScript.Proofs.AssignmentGrammar
import LoadScript.Proofs.PatternGroups

/-!
# The patterns of assignments

The form of assignments is given by two written patterns besides that of heads.  It claims the
statements in which its keywords are found, and it takes the name and the value of an assignment
from the groups of a pattern for whole statements.

The main statements, `claims_iff_findAll` and `ofText?_eq_captures`, say that the readers of
assignments do what a search for the written patterns does.
-/

namespace LoadScript

open Text Pattern

/-- How statements are matched: letter case does not count, and a value may hold line ends. -/
def Pattern.Flags.acrossLines : Flags :=
  { caseless := true, dotAll := true }

namespace Assignment

/-! ## The patterns -/

/-- The pattern of the blanks in front of a statement. -/
def indentPattern : Expr :=
  .repeated (.oneOf false [.blank false]) 0 none true

/-- The pattern of keywords. -/
def verbPattern : Expr :=
  .alt (.seq (.literal 'S') (.seq (.literal 'E') (.literal 'T')))
    (.seq (.literal 'L') (.seq (.literal 'E') (.literal 'T')))

/-- The pattern of the blanks between the parts of a statement. -/
def gapPattern : Expr :=
  .repeated (.oneOf false [.blank false]) 1 none true

/-- The pattern of names. -/
def targetPattern : Expr :=
  .seq (.oneOf false [.range 'A' 'Z', .range 'a' 'z'])
    (.repeated (.oneOf false [.word false, .range '.' '.']) 0 none true)

/-- The pattern of values. -/
def valuePattern : Expr :=
  .repeated .any 0 none true

/-- The pattern that tells whether a statement is claimed. -/
def keywordPattern : Expr :=
  .seq (.place .lineStart) (.seq indentPattern (.seq verbPattern (.place (.wordEdge false))))

theorem ofText_keywordPattern :
    Pattern.ofText "^\\s*(?:SET|LET)\\b".toList = .ok keywordPattern :=
  rfl

/-- The pattern of whole statements. -/
def statementPattern : Expr :=
  .seq (.place .lineStart) (.seq indentPattern (.seq verbPattern (.seq gapPattern
    (.seq targetPattern (.seq gapPattern (.seq (.literal '=') (.seq gapPattern
      (.seq valuePattern (.place .lineEnd)))))))))

theorem ofText_statementPattern :
    Pattern.ofText
      "^\\s*(?:SET|LET)\\s+(?P<name>[A-Za-z][\\w.]*)\\s+=\\s+(?P<value>.*)$".toList =
        .ok statementPattern :=
  rfl

/-- What stands before the name. -/
def openingPattern : Expr :=
  .seq (.place .lineStart) (.seq indentPattern (.seq verbPattern gapPattern))

/-- What stands between the name and the value. -/
def equalsPattern : Expr :=
  .seq gapPattern (.seq (.literal '=') gapPattern)

/-- What follows the name. -/
def closingPattern : Expr :=
  .seq equalsPattern (.seq valuePattern (.place .lineEnd))

/-- The parts of the pattern, each as it is written. -/
theorem ofText_parts :
    Pattern.ofText "^\\s*(?:SET|LET)\\s+".toList = .ok openingPattern ∧
    Pattern.ofText "[A-Za-z][\\w.]*".toList = .ok targetPattern ∧
    Pattern.ofText "\\s+=\\s+".toList = .ok equalsPattern ∧
    Pattern.ofText ".*".toList = .ok valuePattern :=
  ⟨rfl, rfl, rfl, rfl⟩

/-- The pattern of whole statements is matched as its groups and what stands around them. -/
theorem attempt_statementPattern (flags : Flags) :
    attempt flags statementPattern =
      attempt flags (.seq openingPattern (.seq targetPattern closingPattern)) :=
  rfl

/-! ## Keywords -/

variable {flags : Flags} {text before piece after : Text}

theorem fits_indent_iff (caseless : flags.caseless = true) :
    Fits flags indentPattern before piece after ↔ ∀ c ∈ piece, isBlank c = true := by
  rw [indentPattern, fits_repeated_iff fun _ _ _ => fits_blank_iff caseless]
  simp

/-- A keyword is a whole word if no word character follows it. -/
theorem Verb.isAt_wordEdge_iff {verb : Text} (spelled : Verb verb) :
    (Cursor.between (before ++ verb) after).isAt flags (.wordEdge false) = true ↔
      ∀ c ∈ after.head?, isWord c = false := by
  rcases verb_iff.mp spelled with ⟨c, d, e, rfl, _, _, last⟩
  have wordBefore : isWord e = true := by
    rcases List.mem_pair.mp last with rfl | rfl
    · decide
    · decide
  cases after <;> simp [Cursor.isAt, Cursor.between, wordBefore]

theorem fits_keywordPattern_iff :
    Fits .ignoringCase keywordPattern before piece after ↔
      before = [] ∧ ∃ blanks verb, piece = blanks ++ verb ∧ (∀ c ∈ blanks, isBlank c = true) ∧
        Verb verb ∧ ∀ c ∈ after.head?, isWord c = false := by
  have caseless : Flags.ignoringCase.caseless = true := rfl
  have wholeText : Flags.ignoringCase.multiLine = false := rfl
  simp only [keywordPattern, fits_seq_iff, fits_lineStart_iff wholeText, fits_indent_iff caseless,
    verbPattern, fits_verb_iff caseless]
  constructor
  · rintro ⟨_, _, rfl, ⟨rfl, rfl⟩, blanks, _, rfl, blank, verb, _, rfl, spelled, rfl, edge⟩
    refine ⟨rfl, blanks, verb, by simp, blank, spelled, ?_⟩
    exact spelled.isAt_wordEdge_iff.mp edge
  · rintro ⟨rfl, blanks, verb, rfl, blank, spelled, ends⟩
    refine ⟨[], _, rfl, ⟨rfl, rfl⟩, blanks, verb, rfl, blank, verb, [], by simp, spelled, rfl, ?_⟩
    exact spelled.isAt_wordEdge_iff.mpr ends

/-- A statement is claimed exactly if the keywords are found in it. -/
theorem claims_iff_findAll (text : Text) :
    claims text = true ↔ findAll .ignoringCase keywordPattern text ≠ [] := by
  rw [claims_eq_true_iff, findAll_ne_nil_iff]
  simp only [fits_keywordPattern_iff]
  constructor
  · rintro ⟨blanks, verb, rest, rfl, blank, spelled, ends⟩
    exact ⟨[], blanks ++ verb, rest, by simp, rfl, blanks, verb, rfl, blank, spelled, ends⟩
  · rintro ⟨_, _, rest, rfl, rfl, blanks, verb, rfl, blank, spelled, ends⟩
    exact ⟨blanks, verb, rest, by simp, blank, spelled, ends⟩

/-! ## Whole statements -/

section Parts

variable (caseless : flags.caseless = true)

include caseless

theorem fits_openingPattern_iff (wholeText : flags.multiLine = false) :
    Fits flags openingPattern before piece after ↔
      before = [] ∧ ∃ blanks verb gap, piece = blanks ++ (verb ++ gap) ∧
        (∀ c ∈ blanks, isBlank c = true) ∧ Verb verb ∧ Gap gap := by
  simp only [openingPattern, fits_seq_iff, fits_lineStart_iff wholeText, fits_indent_iff caseless,
    verbPattern, fits_verb_iff caseless, gapPattern, fits_blanks_iff caseless]
  constructor
  · rintro ⟨_, _, rfl, ⟨rfl, rfl⟩, blanks, _, rfl, blank, verb, gap, rfl, spelled, isGap⟩
    exact ⟨rfl, blanks, verb, gap, rfl, blank, spelled, isGap⟩
  · rintro ⟨rfl, blanks, verb, gap, rfl, blank, spelled, isGap⟩
    exact ⟨[], _, rfl, ⟨rfl, rfl⟩, blanks, _, rfl, blank, verb, gap, rfl, spelled, isGap⟩

theorem fits_targetPattern_iff :
    Fits flags targetPattern before piece after ↔ Target piece := by
  simp only [targetPattern, fits_seq_iff, fits_initial_iff caseless, fits_nameChars_iff caseless]
  constructor
  · rintro ⟨_, rest, rfl, ⟨first, rfl, isLetter⟩, inName⟩
    exact ⟨isLetter, inName⟩
  · intro target
    cases piece with
    | nil => exact absurd target id
    | cons first rest => exact ⟨[first], rest, rfl, ⟨first, rfl, target.1⟩, target.2⟩

theorem fits_equalsPattern_iff :
    Fits flags equalsPattern before piece after ↔
      ∃ gap gap', piece = gap ++ '=' :: gap' ∧ Gap gap ∧ Gap gap' := by
  simp only [equalsPattern, fits_seq_iff, gapPattern, fits_blanks_iff caseless,
    fits_equals_iff caseless]
  constructor
  · rintro ⟨gap, _, rfl, isGap, _, gap', rfl, rfl, isGap'⟩
    exact ⟨gap, gap', rfl, isGap, isGap'⟩
  · rintro ⟨gap, gap', rfl, isGap, isGap'⟩
    exact ⟨gap, _, rfl, isGap, ['='], gap', rfl, rfl, isGap'⟩

end Parts

theorem fits_valuePattern (dotAll : flags.dotAll = true) :
    Fits flags valuePattern before piece after := by
  have single : ∀ before piece after : Text,
      Fits flags .any before piece after ↔ ∃ c, piece = [c] ∧ true = true := by
    simp [Fits, dotAll]
  rw [valuePattern, fits_repeated_iff single]
  simp

theorem fits_lineEnd_iff (wholeText : flags.multiLine = false) :
    Fits flags (.place .lineEnd) before piece after ↔ piece = [] ∧ after = [] := by
  simp [Fits, Cursor.isAt, Cursor.between, wholeText]

theorem fits_closingPattern_iff :
    Fits .acrossLines closingPattern before piece after ↔
      after = [] ∧ ∃ gap gap' rest, piece = gap ++ '=' :: (gap' ++ rest) ∧ Gap gap ∧ Gap gap' := by
  have caseless : Flags.acrossLines.caseless = true := rfl
  have wholeText : Flags.acrossLines.multiLine = false := rfl
  simp only [closingPattern, fits_seq_iff, fits_equalsPattern_iff caseless,
    fits_lineEnd_iff wholeText]
  constructor
  · rintro ⟨_, _, rfl, ⟨gap, gap', rfl, isGap, isGap'⟩, rest, _, rfl, _, rfl, rfl⟩
    exact ⟨rfl, gap, gap', rest, by simp, isGap, isGap'⟩
  · rintro ⟨rfl, gap, gap', rest, rfl, isGap, isGap'⟩
    exact ⟨gap ++ '=' :: gap', rest, by simp, ⟨gap, gap', rfl, isGap, isGap'⟩, rest, [], by simp,
      fits_valuePattern rfl, rfl, rfl⟩

theorem spells_of_fits {before' after' before'' after'' left name right : Text}
    (opens : Fits .acrossLines openingPattern before left after')
    (target : Fits .acrossLines targetPattern before' name after'')
    (closes : Fits .acrossLines closingPattern before'' right after) :
    before = [] ∧ after = [] ∧ ∃ rest, Spells (left ++ (name ++ right)) name rest := by
  have caseless : Flags.acrossLines.caseless = true := rfl
  rcases (fits_openingPattern_iff caseless rfl).mp opens with
    ⟨rfl, blanks, verb, gap, rfl, blank, spelled, isGap⟩
  rcases fits_closingPattern_iff.mp closes with ⟨rfl, gap', gap'', rest, rfl, isGap', isGap''⟩
  exact ⟨rfl, rfl, rest, blanks, verb, gap, gap', gap'', by simp, blank, spelled, isGap,
    (fits_targetPattern_iff caseless).mp target, isGap', isGap''⟩

theorem Spells.fits {name rest : Text} (spells : Spells text name rest) :
    Fits .acrossLines (.seq openingPattern (.seq targetPattern closingPattern)) [] text [] := by
  have caseless : Flags.acrossLines.caseless = true := rfl
  rcases spells with ⟨blanks, verb, gap, gap', gap'', rfl, blank, spelled, isGap, target, isGap',
    isGap''⟩
  refine ⟨blanks ++ (verb ++ gap), _, by simp, ?_, name, gap' ++ '=' :: (gap'' ++ rest), rfl, ?_,
    ?_⟩
  · exact (fits_openingPattern_iff caseless rfl).mpr
      ⟨rfl, blanks, verb, gap, rfl, blank, spelled, isGap⟩
  · exact (fits_targetPattern_iff caseless).mpr target
  · exact fits_closingPattern_iff.mpr ⟨rfl, gap', gap'', rest, rfl, isGap', isGap''⟩

theorem fits_groups_iff :
    Fits .acrossLines (.seq openingPattern (.seq targetPattern closingPattern)) before piece after ↔
      before = [] ∧ after = [] ∧ (ofText? piece).isSome = true := by
  constructor
  · rintro ⟨left, _, rfl, opens, name, right, rfl, target, closes⟩
    rcases spells_of_fits opens target closes with ⟨rfl, rfl, rest, spells⟩
    rw [ofText?_eq_some_iff.mpr spells.assigns]
    exact ⟨rfl, rfl, rfl⟩
  · rintro ⟨rfl, rfl, readable⟩
    rcases Option.isSome_iff_exists.mp readable with ⟨⟨name, raw⟩, read⟩
    exact (ofText?_eq_some_iff.mp read).spells.fits

/-- A statement is read as an assignment exactly if its pattern is found. -/
theorem isSome_ofText?_iff_findAll (text : Text) :
    (ofText? text).isSome = true ↔ findAll .acrossLines statementPattern text ≠ [] := by
  rw [findAll_congr (attempt_statementPattern _), findAll_ne_nil_iff]
  simp only [fits_groups_iff]
  constructor
  · intro readable
    exact ⟨[], text, [], by simp, rfl, rfl, readable⟩
  · rintro ⟨_, piece, _, rfl, rfl, rfl, readable⟩
    rwa [List.append_nil, List.nil_append]

theorem isSome_attempt_statementPattern_iff :
    (attempt .acrossLines statementPattern (.between [] text) some).isSome = true ↔
      (ofText? text).isSome = true := by
  rw [attempt_statementPattern, isSome_attempt_iff]
  simp only [fits_groups_iff]
  constructor
  · rintro ⟨piece, _, rfl, _, rfl, readable⟩
    rwa [List.append_nil]
  · intro readable
    exact ⟨text, [], (List.append_nil text).symm, trivial, rfl, readable⟩

/-! ## Groups -/

/-- A group of the pattern holds a part of the assignment if it can hold nothing else. -/
theorem capture?_eq_map {first group last : Expr} {part : Text × Text → Text}
    (whole : attempt .acrossLines (.seq first (.seq group last)) =
      attempt .acrossLines statementPattern)
    (only : ∀ held, capture? .acrossLines first group last (.between [] text) = some held →
      ∃ assignment, ofText? text = some assignment ∧ held = part assignment) :
    capture? .acrossLines first group last (.between [] text) = (ofText? text).map part := by
  cases captured : capture? .acrossLines first group last (.between [] text) with
  | some held =>
      rcases only held captured with ⟨assignment, read, rfl⟩
      rw [read, Option.map_some]
  | none =>
      have unread : ¬(ofText? text).isSome = true := by
        rw [← isSome_attempt_statementPattern_iff, ← whole, ← isSome_capture?_iff, captured]
        exact Bool.false_ne_true
      rw [Option.not_isSome_iff_eq_none.mp unread, Option.map_none]

/-- The name is what the first group of the pattern holds. -/
theorem capture?_name (text : Text) :
    capture? .acrossLines openingPattern targetPattern closingPattern (.start text) =
      (ofText? text).map Prod.fst := by
  apply capture?_eq_map (attempt_statementPattern .acrossLines).symm
  intro name captured
  rcases capture?_eq_some captured with ⟨left, right, after, rfl, opens, target, closes⟩
  rcases spells_of_fits opens target closes with ⟨_, rfl, rest, spells⟩
  rw [List.append_nil]
  exact ⟨_, ofText?_eq_some_iff.mpr spells.assigns, rfl⟩

/-- A greedy gap takes all blanks, if what follows accepts that. -/
theorem attempt_gapPattern (caseless : flags.caseless = true) {gap rest : Text} (isGap : Gap gap)
    (stops : ∀ c ∈ rest.head?, isBlank c = false) (before : Text)
    {follow : Cursor → Option Cursor}
    (accepted : (follow (.between (before ++ gap) rest)).isSome = true) :
    attempt flags gapPattern (.between before (gap ++ rest)) follow =
      follow (.between (before ++ gap) rest) := by
  have single : attempt flags (.oneOf false [.blank false]) = Attempt.one isBlank := by
    funext cursor follow
    rw [attempt]
    simp only [inClass_of_caseless caseless, inClass_blank, Bool.bne_false]
  cases gap with
  | nil => exact absurd rfl isGap.1
  | cons c gap =>
      rcases List.forall_mem_cons.mp isGap.2 with ⟨blank, blankRest⟩
      rw [List.append_cons] at accepted ⊢
      exact attempt_repeated_eq blankRest stops single (List.forall_mem_singleton.mpr blank) before
        accepted

/-- The value begins where the blanks behind the equals sign end, because they are greedy. -/
theorem seam?_gapPattern {gap raw : Text} (isGap : Gap gap)
    (stops : ∀ c ∈ raw.head?, isBlank c = false) (before : Text) :
    seam? .acrossLines gapPattern (.seq valuePattern (.place .lineEnd))
      (.between before (gap ++ raw)) = some (.between (before ++ gap) raw) := by
  have fits : Fits .acrossLines (.seq valuePattern (.place .lineEnd)) (before ++ gap) raw [] :=
    fits_seq_iff.mpr ⟨raw, [], (List.append_nil raw).symm, fits_valuePattern rfl, rfl, rfl⟩
  have taken := (reads_attempt _ _).complete _ _ _ some fits rfl
  rw [List.append_nil] at taken
  rcases Option.isSome_iff_exists.mp taken with ⟨stop, reached⟩
  rw [seam?, attempt_gapPattern rfl isGap stops before]
  · rw [reached]
    rfl
  · rw [Option.isSome_map, taken]

/-- The pattern of a head with the blanks in front of it. -/
def indentedHeadPattern : Expr :=
  .seq openingPattern (.seq targetPattern (.seq gapPattern (.literal '=')))

theorem exists_spells_of_fits {gap rest : Text}
    (fits : Fits .acrossLines indentedHeadPattern before piece after) (isGap : Gap gap) :
    ∃ name, Spells (piece ++ (gap ++ rest)) name rest := by
  have caseless : Flags.acrossLines.caseless = true := rfl
  have wholeText : Flags.acrossLines.multiLine = false := rfl
  simp only [indentedHeadPattern, fits_seq_iff, fits_openingPattern_iff caseless wholeText,
    fits_targetPattern_iff caseless, gapPattern, fits_blanks_iff caseless,
    fits_equals_iff caseless] at fits
  rcases fits with ⟨_, _, rfl, ⟨_, blanks, verb, gap', rfl, blank, spelled, isGap'⟩, name, _, rfl,
    target, gap'', _, rfl, isGap'', rfl⟩
  exact ⟨name, blanks, verb, gap', gap'', gap, by simp, blank, spelled, isGap', target, isGap'',
    isGap⟩

theorem assigns_of_seam? {start : Cursor}
    (opened : seam? .acrossLines (.seq openingPattern (.seq targetPattern equalsPattern))
      (.seq valuePattern (.place .lineEnd)) (.start text) = some start) :
    ∃ name front raw, start = .between front raw ∧ Assigns text name raw := by
  rcases (reads_attempt .acrossLines indentedHeadPattern).sound [] text _ _ opened with
    ⟨front, behind, rfl, fitsHead, goesOn⟩
  rcases (reads_attempt .acrossLines gapPattern).sound _ _ _ _ goesOn with
    ⟨gap, rest, rfl, fitsGap, _⟩
  have isGap : Gap gap := (fits_blanks_iff rfl).mp fitsGap
  have split : gap ++ rest = (gap ++ rest.takeWhile isBlank) ++ rest.dropWhile isBlank := by
    rw [List.append_assoc, List.takeWhile_append_dropWhile]
  have stops : ∀ c ∈ (rest.dropWhile isBlank).head?, isBlank c = false :=
    fun c atFront => eq_false_of_head?_dropWhile atFront
  have ends := seam?_gapPattern (isGap.append_takeWhile rest) stops front
  rw [← split] at ends
  obtain rfl := Option.some.inj (goesOn.symm.trans ends)
  rcases exists_spells_of_fits fitsHead isGap with ⟨name, spells⟩
  exact ⟨name, _, _, rfl, spells.assigns⟩

/-- The value is what the second group of the pattern holds. -/
theorem capture?_value (text : Text) :
    capture? .acrossLines (.seq openingPattern (.seq targetPattern equalsPattern)) valuePattern
      (.place .lineEnd) (.start text) = (ofText? text).map Prod.snd := by
  have whole : attempt .acrossLines (.seq (.seq openingPattern (.seq targetPattern equalsPattern))
      (.seq valuePattern (.place .lineEnd))) = attempt .acrossLines statementPattern := rfl
  apply capture?_eq_map whole
  intro raw captured
  simp only [capture?, Option.bind_eq_bind, Option.bind_eq_some_iff] at captured
  rcases captured with ⟨start, opened, stop, closed, held⟩
  rcases assigns_of_seam? opened with ⟨name, front, behind, rfl, assigns⟩
  rcases seam?_eq_some closed with ⟨part, right, after, rfl, rfl, _, ends⟩
  rcases (fits_lineEnd_iff rfl).mp ends with ⟨rfl, rfl⟩
  rw [Cursor.upTo_between] at held
  obtain rfl := Option.some.inj held
  rw [List.append_nil, List.append_nil] at assigns
  exact ⟨_, ofText?_eq_some_iff.mpr assigns, rfl⟩

/-- An assignment is read as the groups of its pattern hold it. -/
theorem ofText?_eq_captures (text : Text) :
    ofText? text = do
      let name ← capture? .acrossLines openingPattern targetPattern closingPattern (.start text)
      let raw ← capture? .acrossLines (.seq openingPattern (.seq targetPattern equalsPattern))
        valuePattern (.place .lineEnd) (.start text)
      return (name, raw) := by
  rw [capture?_name, capture?_value]
  cases ofText? text <;> rfl

end Assignment

end LoadScript
