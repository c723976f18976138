import LoadScript.Form.Assignment
import LoadScript.Proofs.Remark

/-!
# Heads of assignments

The head of an assignment is a keyword, blanks, a name, blanks and an equals sign.
The relation `Head` says this by the parts of the text, and `head?_eq_some_iff`
shows that the reader of heads finds exactly these.  Keywords and names hold no
blank, so the parts of a head are determined by the text.
-/

namespace LoadScript.Assignment

open Text

/-- A spelling of one of the two keywords. -/
def Verb (verb : Text) : Prop :=
  verb.map fold = ['s', 'e', 't'] ∨ verb.map fold = ['l', 'e', 't']

instance (verb : Text) : Decidable (Verb verb) :=
  inferInstanceAs (Decidable (_ ∨ _))

/-- A run of at least one blank. -/
def Gap (gap : Text) : Prop :=
  gap ≠ [] ∧ ∀ c ∈ gap, isBlank c = true

/-- A name as an assignment reads it: its first character is a letter without
regard to case. -/
def Target : Text → Prop
  | [] => False
  | c :: rest => isLetter (fold c) = true ∧ ∀ d ∈ rest, isNameChar d = true

/-- The text begins with the head of an assignment to `name`, and `rest` follows
the equals sign. -/
def Head (text name rest : Text) : Prop :=
  ∃ verb gap gap', text = verb ++ (gap ++ (name ++ (gap' ++ '=' :: rest))) ∧
    Verb verb ∧ Gap gap ∧ Target name ∧ Gap gap'

/-! ## The characters of the parts -/

theorem Verb.isLetter_fold {verb : Text} (spelled : Verb verb) {c : Char} (member : c ∈ verb) :
    isLetter (fold c) = true := by
  have folded : fold c ∈ verb.map fold := List.mem_map_of_mem member
  have setLetters : ['s', 'e', 't'].all isLetter = true := by decide
  have letLetters : ['l', 'e', 't'].all isLetter = true := by decide
  rcases spelled with spelling | spelling
  · exact List.all_eq_true.mp setLetters _ (spelling ▸ folded)
  · exact List.all_eq_true.mp letLetters _ (spelling ▸ folded)

theorem Verb.ne_nil {verb : Text} (spelled : Verb verb) : verb ≠ [] := by
  rintro rfl
  rcases spelled with folded | folded
  · simp at folded
  · simp at folded

theorem isBlank_of_isLetter_fold {c : Char} (letter : isLetter (fold c) = true) :
    isBlank c = false := by
  by_contra blank
  rw [isLetter_fold_of_isBlank (by simpa using blank)] at letter
  contradiction

theorem isBlank_of_isNameChar {c : Char} (inName : isNameChar c = true) : isBlank c = false := by
  by_contra blank
  rw [isNameChar_of_isBlank (by simpa using blank)] at inName
  contradiction

theorem Verb.isBlank_eq_false {verb : Text} (spelled : Verb verb) {c : Char} (member : c ∈ verb) :
    isBlank c = false :=
  isBlank_of_isLetter_fold (spelled.isLetter_fold member)

theorem Target.isBlank_eq_false {name : Text} (target : Target name) {c : Char}
    (member : c ∈ name) : isBlank c = false := by
  cases name with
  | nil => exact absurd target id
  | cons first rest =>
      rcases List.mem_cons.mp member with rfl | inRest
      · exact isBlank_of_isLetter_fold target.1
      · exact isBlank_of_isNameChar (target.2 c inRest)

theorem Verb.head_append {verb : Text} (spelled : Verb verb) {rest : Text} :
    ∀ c ∈ (verb ++ rest).head?, isBlank c = false := by
  intro c atFront
  rw [List.head?_append_of_ne_nil _ spelled.ne_nil] at atFront
  exact spelled.isBlank_eq_false (List.mem_of_mem_head? atFront)

/-- The keywords of assignments do not begin a remark. -/
theorem Verb.not_remark {verb rest : Text} (spelled : Verb verb) :
    ¬Comment.Remark (verb ++ rest) := by
  rintro ⟨blanks, keyword, tail, split, blank, spelledRemark⟩
  cases verb with
  | nil => exact spelled.ne_nil rfl
  | cons c verb =>
      cases blanks with
      | cons b blanks =>
          rcases List.cons.inj split with ⟨rfl, _⟩
          have shown := spelled.isBlank_eq_false List.mem_cons_self
          rw [blank c List.mem_cons_self] at shown
          contradiction
      | nil =>
          cases keyword with
          | nil => simp at spelledRemark
          | cons letter keyword =>
              rcases List.cons.inj split with ⟨rfl, _⟩
              rw [List.map_cons, List.cons.injEq] at spelledRemark
              rcases spelled with folded | folded
              · simp [spelledRemark.1] at folded
              · simp [spelledRemark.1] at folded

theorem isLetter_fold_of_isLetter {c : Char} (letter : isLetter c = true) :
    isLetter (fold c) = true :=
  of_ascii (motive := fun c => isLetter c = true → isLetter (fold c) = true) (by decide +kernel)
    (toNat_lt_of_isLetter letter) letter

/-- Names are targets. -/
theorem target_of_isName {name : Text} (valid : isName name = true) : Target name := by
  cases name with
  | nil => simp [isName] at valid
  | cons c rest =>
      simp only [isName, Bool.and_eq_true, List.all_eq_true] at valid
      exact ⟨isLetter_fold_of_isLetter valid.1, valid.2⟩

theorem Target.head_append {name : Text} (target : Target name) {rest : Text} :
    ∀ c ∈ (name ++ rest).head?, isBlank c = false := by
  cases name with
  | nil => exact absurd target id
  | cons first name =>
      intro c atFront
      obtain rfl : first = c := by simpa using atFront
      exact isBlank_of_isLetter_fold target.1

theorem gap_space : Gap [' '] :=
  ⟨by simp, List.forall_mem_singleton.mpr rfl⟩

theorem Gap.head_append_isBlank {gap : Text} (blank : Gap gap) {rest : Text} :
    ∀ c ∈ (gap ++ rest).head?, isBlank c = true := by
  intro c atFront
  rw [List.head?_append_of_ne_nil _ blank.1] at atFront
  exact blank.2 c (List.mem_of_mem_head? atFront)

theorem Gap.head_append {gap : Text} (blank : Gap gap) {rest : Text} :
    ∀ c ∈ (gap ++ rest).head?, isNameChar c = false :=
  fun c atFront => isNameChar_of_isBlank (blank.head_append_isBlank c atFront)

/-! ## The readers of the parts -/

theorem afterVerb?_eq_some_iff {text rest : Text} :
    afterVerb? text = some rest ↔ ∃ verb, Verb verb ∧ text = verb ++ rest := by
  have exclusive : ∀ verb, verb.map fold = ['l', 'e', 't'] →
      afterKeyword? ['s', 'e', 't'] (verb ++ rest) = none := by
    intro verb spelled
    cases verb with
    | nil => simp at spelled
    | cons c verb =>
        rw [List.map_cons, List.cons.injEq] at spelled
        rw [List.cons_append, afterKeyword?, spelled.1]
        rfl
  rw [afterVerb?, Option.or_eq_some_iff]
  constructor
  · rintro (found | ⟨_, found⟩)
    · rcases afterKeyword?_eq_some_iff.mp found with ⟨verb, spelled, split⟩
      exact ⟨verb, .inl spelled, split⟩
    · rcases afterKeyword?_eq_some_iff.mp found with ⟨verb, spelled, split⟩
      exact ⟨verb, .inr spelled, split⟩
  · rintro ⟨verb, spelled | spelled, rfl⟩
    · exact .inl (afterKeyword?_eq_some_iff.mpr ⟨verb, spelled, rfl⟩)
    · exact .inr ⟨exclusive verb spelled, afterKeyword?_eq_some_iff.mpr ⟨verb, spelled, rfl⟩⟩

theorem Verb.afterVerb?_append {verb : Text} (spelled : Verb verb) (rest : Text) :
    afterVerb? (verb ++ rest) = some rest :=
  afterVerb?_eq_some_iff.mpr ⟨verb, spelled, rfl⟩

theorem eq_false_of_head?_dropWhile {test : Char → Bool} {text : Text} {c : Char}
    (atFront : c ∈ (text.dropWhile test).head?) : test c = false := by
  have stops := List.head?_dropWhile_not test text
  rw [show (text.dropWhile test).head? = some c from atFront] at stops
  exact stops

theorem afterBlanks?_eq_some_iff {text rest : Text} :
    afterBlanks? text = some rest ↔
      ∃ gap, Gap gap ∧ text = gap ++ rest ∧ ∀ c ∈ rest.head?, isBlank c = false := by
  constructor
  · intro found
    rcases afterBlanks?_eq_some found with ⟨gap, nonempty, blank, split⟩
    refine ⟨gap, ⟨nonempty, blank⟩, split, ?_⟩
    cases text with
    | nil => simp [afterBlanks?] at found
    | cons c tail =>
        rw [afterBlanks?] at found
        split at found
        · obtain rfl := Option.some.inj found
          exact fun c atFront => eq_false_of_head?_dropWhile atFront
        · simp at found
  · rintro ⟨gap, ⟨nonempty, blank⟩, rfl, stops⟩
    cases gap with
    | nil => exact absurd rfl nonempty
    | cons c gap =>
        have blankRest : ∀ d ∈ gap, isBlank d = true := fun d member =>
          blank d (List.mem_cons_of_mem c member)
        rw [List.cons_append, afterBlanks?, if_pos (blank c List.mem_cons_self),
          dropWhile_isBlank_append blankRest stops]

theorem target?_eq_some_iff {text name rest : Text} :
    target? text = some (name, rest) ↔
      Target name ∧ text = name ++ rest ∧ ∀ c ∈ rest.head?, isNameChar c = false := by
  cases text with
  | nil =>
      simp only [target?, reduceCtorEq, false_iff]
      rintro ⟨target, split, _⟩
      rcases List.append_eq_nil_iff.mp split.symm with ⟨rfl, rfl⟩
      exact target
  | cons c tail =>
      constructor
      · intro found
        rw [target?] at found
        split at found
        · rename_i letter
          rcases Prod.mk.inj (Option.some.inj found) with ⟨rfl, rfl⟩
          refine ⟨⟨letter, List.all_eq_true.mp List.all_takeWhile⟩, ?_, ?_⟩
          · rw [List.cons_append, List.takeWhile_append_dropWhile]
          · exact fun d atFront => eq_false_of_head?_dropWhile atFront
        · simp at found
      · rintro ⟨target, split, stops⟩
        cases name with
        | nil => exact absurd target id
        | cons first name =>
            rw [List.cons_append, List.cons.injEq] at split
            rcases split with ⟨rfl, rfl⟩
            rw [target?, if_pos target.1, List.takeWhile_append_of_pos target.2,
              List.dropWhile_append_of_pos target.2]
            cases rest with
            | nil => simp
            | cons d rest => simp [stops d (by simp)]

/-- Heads are read as they are written. -/
theorem head?_eq_some_iff {text name rest : Text} :
    head? text = some (name, rest) ↔ Head text name rest := by
  constructor
  · intro found
    simp only [head?, Option.bind_eq_bind, Option.bind_eq_some_iff, Prod.exists] at found
    obtain ⟨behindVerb, verbRead, behindGap, gapRead, target, behindName, nameRead, last, lastRead,
      equals⟩ := found
    rcases afterVerb?_eq_some_iff.mp verbRead with ⟨verb, spelled, rfl⟩
    rcases afterBlanks?_eq_some_iff.mp gapRead with ⟨gap, blank, rfl, _⟩
    rcases target?_eq_some_iff.mp nameRead with ⟨named, rfl, _⟩
    rcases afterBlanks?_eq_some_iff.mp lastRead with ⟨gap', blank', rfl, _⟩
    split at equals
    · rcases Prod.mk.inj (Option.some.inj equals) with ⟨rfl, rfl⟩
      exact ⟨verb, gap, gap', rfl, spelled, blank, named, blank'⟩
    · simp at equals
  · rintro ⟨verb, gap, gap', rfl, spelled, blank, named, blank'⟩
    have verbRead := spelled.afterVerb?_append (gap ++ (name ++ (gap' ++ '=' :: rest)))
    have gapRead := afterBlanks?_eq_some_iff.mpr
      ⟨gap, blank, rfl (a := gap ++ (name ++ (gap' ++ '=' :: rest))), named.head_append⟩
    have nameRead := target?_eq_some_iff.mpr
      ⟨named, rfl (a := name ++ (gap' ++ '=' :: rest)), blank'.head_append⟩
    have equals : ∀ c ∈ ('=' :: rest).head?, isBlank c = false := by
      intro c atFront
      obtain rfl : '=' = c := by simpa using atFront
      rfl
    have lastRead := afterBlanks?_eq_some_iff.mpr
      ⟨gap', blank', rfl (a := gap' ++ '=' :: rest), equals⟩
    simp [head?, verbRead, gapRead, nameRead, lastRead]

/-! ## Texts that begin with no head -/

theorem head?_eq_none_iff {text : Text} :
    head? text = none ↔ ∀ name rest, ¬Head text name rest := by
  simp only [Option.eq_none_iff_forall_ne_some, Prod.forall, ne_eq, head?_eq_some_iff]

/-- A head begins with a letter. -/
theorem head?_eq_none_of_front {c : Char} {text : Text} (front : isLetter (fold c) = false) :
    head? (c :: text) = none := by
  rw [head?_eq_none_iff]
  rintro name rest ⟨verb, gap, gap', split, spelled, _⟩
  cases verb with
  | nil => exact spelled.ne_nil rfl
  | cons first verb =>
      rcases List.cons.inj split with ⟨rfl, _⟩
      rw [spelled.isLetter_fold List.mem_cons_self] at front
      contradiction

/-- Two texts are cut at their first blanks in one way only. -/
theorem append_inj_of_blank {left right front back : Text}
    (shownLeft : ∀ c ∈ left, isBlank c = false) (shownFront : ∀ c ∈ front, isBlank c = false)
    (blankRight : ∀ c ∈ right.head?, isBlank c = true)
    (blankBack : ∀ c ∈ back.head?, isBlank c = true) (same : left ++ right = front ++ back) :
    left = front ∧ right = back := by
  rcases List.append_eq_append_iff.mp same with ⟨gap, rfl, rfl⟩ | ⟨gap, rfl, rfl⟩
  · cases gap with
    | nil => simp
    | cons c gap =>
        have blank := blankRight c (by simp)
        rw [shownFront c (by simp)] at blank
        contradiction
  · cases gap with
    | nil => simp
    | cons c gap =>
        have blank := blankBack c (by simp)
        rw [shownLeft c (by simp)] at blank
        contradiction

/-- A word in front of blanks and an equals sign is no head, even if it is a keyword. -/
theorem head?_word_gap_equals {word blanks : Text} (shown : ∀ c ∈ word, isBlank c = false)
    (blank : Gap blanks) (rest : Text) : head? (word ++ (blanks ++ '=' :: rest)) = none := by
  rw [head?_eq_none_iff]
  rintro name tail ⟨verb, gap, gap', split, spelled, blank', target, _⟩
  have shownVerb : ∀ c ∈ verb, isBlank c = false := fun c member =>
    spelled.isBlank_eq_false member
  rcases append_inj_of_blank shown shownVerb blank.head_append_isBlank
    blank'.head_append_isBlank split with ⟨_, behind⟩
  -- Behind the blanks, the equals sign would have to be the first letter of a name.
  have behindBlanks := congrArg (List.dropWhile isBlank) behind
  have shownEquals : ∀ c ∈ ('=' :: rest).head?, isBlank c = false := by
    intro c atFront
    obtain rfl := Option.some.inj atFront
    rfl
  rw [dropWhile_isBlank_append blank.2 shownEquals,
    dropWhile_isBlank_append blank'.2 target.head_append] at behindBlanks
  cases name with
  | nil => exact target
  | cons first name =>
      rcases List.cons.inj behindBlanks with ⟨rfl, _⟩
      exact absurd target.1 (by decide)

theorem head?_word_equals {word rest : Text} (shown : ∀ c ∈ word, isBlank c = false) :
    head? (word ++ ' ' :: '=' :: rest) = none :=
  head?_word_gap_equals shown gap_space rest

/-- A character that heads are not made of does not end one. -/
theorem Head.of_append_cons {text tail name rest : Text} {mark : Char}
    (notLetter : isLetter (fold mark) = false) (shown : isBlank mark = false)
    (notInName : isNameChar mark = false) (notEquals : mark ≠ '=')
    (head : Head (text ++ mark :: tail) name rest) : ∃ behind, Head text name behind := by
  rcases head with ⟨verb, gap, gap', split, spelled, blank, target, blank'⟩
  have whole : text ++ mark :: tail = (verb ++ (gap ++ (name ++ (gap' ++ ['='])))) ++ rest := by
    simpa using split
  have absent : mark ∉ verb ++ (gap ++ (name ++ (gap' ++ ['=']))) := by
    simp only [List.mem_append, List.mem_singleton, not_or]
    refine ⟨?_, ?_, ?_, ?_, notEquals⟩
    · intro member
      rw [spelled.isLetter_fold member] at notLetter
      contradiction
    · intro member
      rw [blank.2 mark member] at shown
      contradiction
    · intro member
      cases name with
      | nil => exact target
      | cons first name =>
          rcases List.mem_cons.mp member with rfl | inName
          · rw [target.1] at notLetter
            contradiction
          · rw [target.2 mark inName] at notInName
            contradiction
    · intro member
      rw [blank'.2 mark member] at shown
      contradiction
  rcases List.append_eq_append_iff.mp whole with ⟨gapText, same, ends⟩ | ⟨behind, same, _⟩
  · cases gapText with
    | nil =>
        refine ⟨[], verb, gap, gap', ?_, spelled, blank, target, blank'⟩
        rw [List.append_nil] at same
        exact same.symm
    | cons c gapText =>
        rcases List.cons.inj ends with ⟨rfl, _⟩
        exact absurd (same ▸ by simp) absent
  · exact ⟨behind, verb, gap, gap', by simpa using same, spelled, blank, target, blank'⟩

/-! ## Heads inside a text -/

theorem innerHeads_append_of_shown {shown text : Text} (each : ∀ c ∈ shown, isBlank c = false) :
    innerHeads (shown ++ text) = innerHeads text := by
  induction shown with
  | nil => rfl
  | cons c shown ih =>
      rw [List.cons_append, innerHeads, each c List.mem_cons_self,
        ih fun d member => each d (List.mem_cons_of_mem c member)]
      simp

/-- No head stands in a text behind a blank. -/
theorem innerHeads_eq_zero_iff {text : Text} :
    innerHeads text = 0 ↔
      ∀ before c rest, text = before ++ c :: rest → isBlank c = true →
        ∀ name behind, ¬Head rest name behind := by
  induction text with
  | nil => simp [innerHeads]
  | cons first text ih =>
      rw [innerHeads, Nat.add_eq_zero_iff, ih]
      constructor
      · rintro ⟨atFront, inside⟩ before c rest split blank
        cases before with
        | nil =>
            rcases List.cons.inj split with ⟨rfl, rfl⟩
            apply head?_eq_none_iff.mp
            simpa [blank] using atFront
        | cons b before => exact inside before c rest (List.cons.inj split).2 blank
      · intro none
        constructor
        · by_cases blank : isBlank first = true
          · rw [head?_eq_none_iff.mpr (none [] first text rfl blank)]
            simp
          · simp [blank]
        · intro before c rest split
          exact none (first :: before) c rest (congrArg (first :: ·) split)

/-- A last character that heads are not made of adds no head. -/
theorem innerHeads_append_mark {text : Text} {mark : Char}
    (notLetter : isLetter (fold mark) = false) (shown : isBlank mark = false)
    (notInName : isNameChar mark = false) (notEquals : mark ≠ '=') (none : innerHeads text = 0) :
    innerHeads (text ++ [mark]) = 0 := by
  rw [innerHeads_eq_zero_iff] at none ⊢
  intro before c rest split blank name behind head
  rcases List.append_eq_append_iff.mp split with ⟨gap, rfl, ends⟩ | ⟨gap, rfl, ends⟩
  · have last : c ∈ [mark] := ends ▸ by simp
    rw [List.mem_singleton.mp last, shown] at blank
    contradiction
  · cases gap with
    | nil =>
        rcases List.cons.inj ends with ⟨rfl, _⟩
        rw [shown] at blank
        contradiction
    | cons d gap =>
        rcases List.cons.inj ends with ⟨rfl, rfl⟩
        rcases head.of_append_cons notLetter shown notInName notEquals with ⟨inner, shorter⟩
        exact none before c gap rfl blank name inner shorter

/-- A blank in front of a text adds no head and hides none. -/
theorem headCount_cons_of_isBlank {c : Char} {text : Text} (blank : isBlank c = true) :
    headCount (c :: text) = headCount text := by
  have atFront : head? (c :: text) = none :=
    head?_eq_none_of_front (isLetter_fold_of_isBlank blank)
  simp [headCount, innerHeads, atFront, blank]

theorem headCount_blanks_append {blanks text : Text} (blank : ∀ c ∈ blanks, isBlank c = true) :
    headCount (blanks ++ text) = headCount text := by
  induction blanks with
  | nil => rfl
  | cons c blanks ih =>
      rw [List.cons_append, headCount_cons_of_isBlank (blank c List.mem_cons_self)]
      exact ih fun d member => blank d (List.mem_cons_of_mem c member)

/-- A word behind a blank, with no head at its front, adds none. -/
theorem innerHeads_space_cons {text : Text} (none : head? text = none) :
    innerHeads (' ' :: text) = innerHeads text := by
  simp [innerHeads, none]

theorem head?_assignment {verb name : Text} (spelled : Verb verb) (target : Target name)
    (rest : Text) : head? (verb ++ ' ' :: (name ++ ' ' :: '=' :: rest)) = some (name, rest) :=
  head?_eq_some_iff.mpr ⟨verb, [' '], [' '], rfl, spelled, gap_space, target, gap_space⟩

/-- Behind the keyword of an assignment heads stand in the value only. -/
theorem innerHeads_assignment {verb name value : Text} (shownVerb : ∀ c ∈ verb, isBlank c = false)
    (shownName : ∀ c ∈ name, isBlank c = false) :
    innerHeads (verb ++ ' ' :: (name ++ ' ' :: '=' :: ' ' :: value)) =
      innerHeads (' ' :: value) := by
  have atName : head? (name ++ ' ' :: '=' :: ' ' :: value) = none := head?_word_equals shownName
  have atEquals : head? ('=' :: ' ' :: value) = none := head?_eq_none_of_front (by decide)
  calc
    innerHeads (verb ++ ' ' :: (name ++ ' ' :: '=' :: ' ' :: value))
    _ = innerHeads (name ++ ' ' :: '=' :: ' ' :: value) := by
      rw [innerHeads_append_of_shown shownVerb, innerHeads_space_cons atName]
    _ = innerHeads (['='] ++ ' ' :: value) := by
      rw [innerHeads_append_of_shown shownName, innerHeads_space_cons atEquals]
      rfl
    _ = innerHeads (' ' :: value) :=
      innerHeads_append_of_shown (List.forall_mem_singleton.mpr rfl)

end LoadScript.Assignment
