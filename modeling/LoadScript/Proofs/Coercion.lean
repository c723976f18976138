import LoadScript.Proofs.Literal

/-!
# Coercion

What value a text stands for depends on the text without the blanks around it.  A run of
digits is an integer as long as its value is within the integers.  A run of greater value
and digits around a point are floating-point numbers.  All else is a text, from which
quotation marks are taken off.  Whatever looks like a number can be read as one
(`Numeric.isSome_ofText?`), so no number stays a text.

The main statement, `coerce_classified`, tells each outcome by the shape of the text, and
says what becomes of a text that was stored and is coerced once more.
-/

namespace LoadScript

open Text

/-! ## Trimming -/

theorem trim_append_of_blank {blanks : Text} (blank : ∀ c ∈ blanks, isBlank c = true)
    (text : Text) :
    trim (blanks ++ text) = trim text := by
  rw [trim, strip, List.dropWhile_append_of_pos blank]
  rfl

/-- Trimming takes nothing from the front but the blanks there. -/
theorem trim_isPrefix_dropWhile (text : Text) : trim text <+: text.dropWhile isBlank := by
  rw [trim, strip, ← List.reverse_suffix, List.reverse_reverse]
  exact List.dropWhile_suffix isBlank

theorem trim_trim (text : Text) : trim (trim text) = trim text := by
  apply Literal.trim_eq_self
  · intro c atFront
    rcases trim_isPrefix_dropWhile text with ⟨behind, split⟩
    have behindBlanks : c ∈ (text.dropWhile isBlank).head? := by
      rw [← split, List.head?_append, Option.mem_def.mp atFront]
      rfl
    exact Assignment.eq_false_of_head?_dropWhile behindBlanks
  · intro c atBack
    rw [trim, strip, List.getLast?_reverse] at atBack
    exact Assignment.eq_false_of_head?_dropWhile atBack

/-! ## The shapes of numbers -/

theorem isDigits_iff {text : Text} :
    isDigits text = true ↔ text ≠ [] ∧ ∀ c ∈ text, isDigit c = true := by
  simp [isDigits]

/-- Digits and exactly one point, with at least one digit. -/
def DecimalForm (text : Text) : Prop :=
  (∀ c ∈ text, isDigit c = true ∨ c = '.') ∧ text.count '.' = 1 ∧ ∃ c ∈ text, isDigit c = true

theorem point_not_mem_of_isDigit {text : Text} (digits : ∀ c ∈ text, isDigit c = true) :
    '.' ∉ text :=
  fun member => absurd (digits '.' member) (by decide)

/-- There is one point only between digits. -/
theorem point_unique {whole places whole' places' : Text}
    (digits : isDigits (whole ++ places) = true)
    (same : whole ++ '.' :: places = whole' ++ '.' :: places') :
    whole' = whole ∧ places' = places := by
  have noPoint := point_not_mem_of_isDigit (isDigits_iff.mp digits).2
  rw [List.mem_append, not_or] at noPoint
  rcases (List.append_cons_inj_of_notMem noPoint.1 noPoint.2).mp same with ⟨rfl, _, rfl⟩
  exact ⟨rfl, rfl⟩

/-- The point parts a decimal form into two runs of digits, of which one may be empty. -/
theorem decimalForm_iff {text : Text} :
    DecimalForm text ↔
      ∃ whole places, text = whole ++ '.' :: places ∧ isDigits (whole ++ places) = true := by
  constructor
  · rintro ⟨each, once, c, member, digit⟩
    have point : '.' ∈ text := List.count_pos_iff.mp (by rw [once]; exact Nat.one_pos)
    rcases List.append_of_mem point with ⟨whole, places, rfl⟩
    rw [List.count_append, List.count_cons_self] at once
    have noPoint : '.' ∉ whole ++ places := by
      rw [← List.count_eq_zero, List.count_append]
      omega
    have onlyDigits : ∀ d ∈ whole ++ places, isDigit d = true := by
      intro d inside
      rcases each d (by grind) with isDigit | rfl
      · exact isDigit
      · exact absurd inside noPoint
    have notPoint : c ≠ '.' := by
      rintro rfl
      exact absurd digit (by decide)
    have inDigits : c ∈ whole ++ places := by grind
    exact ⟨whole, places, rfl, isDigits_iff.mpr ⟨List.ne_nil_of_mem inDigits, onlyDigits⟩⟩
  · rintro ⟨whole, places, rfl, digits⟩
    rcases isDigits_iff.mp digits with ⟨nonempty, onlyDigits⟩
    rcases List.exists_mem_of_ne_nil _ nonempty with ⟨c, member⟩
    have noPoint := point_not_mem_of_isDigit onlyDigits
    rw [← List.count_eq_zero, List.count_append] at noPoint
    refine ⟨?_, ?_, c, by grind, onlyDigits c member⟩
    · intro d inside
      by_cases isPoint : d = '.'
      · exact .inr isPoint
      · exact .inl (onlyDigits d (by grind))
    · rw [List.count_append, List.count_cons_self]
      omega

theorem isDecimalForm_iff {text : Text} : isDecimalForm text = true ↔ DecimalForm text := by
  simp [isDecimalForm, DecimalForm, and_assoc]

/-- Digits alone hold no point. -/
theorem DecimalForm.not_isDigits {text : Text} (form : DecimalForm text) :
    isDigits text = false := by
  rcases decimalForm_iff.mp form with ⟨whole, places, rfl, _⟩
  simp [isDigits, show isDigit '.' = false by decide]

/-- The shapes that stand for numbers. -/
def Numeric (text : Text) : Prop :=
  (text ≠ [] ∧ ∀ c ∈ text, isDigit c = true) ∨ DecimalForm text

theorem Numeric.front {text : Text} (numeric : Numeric text) {c : Char} (member : c ∈ text) :
    isDigit c = true ∨ c = '.' := by
  rcases numeric with ⟨_, digits⟩ | ⟨each, _⟩
  · exact .inl (digits c member)
  · exact each c member

/-! ## Reading numbers -/

/-- Characters of a class are taken up to the first other one. -/
theorem span_append {test : Char → Bool} {run rest : Text} (passes : ∀ c ∈ run, test c = true)
    (stops : ∀ c ∈ rest.head?, test c = false) :
    (run ++ rest).takeWhile test = run ∧ (run ++ rest).dropWhile test = rest := by
  rw [List.takeWhile_append_of_pos passes, List.dropWhile_append_of_pos passes]
  cases rest with
  | nil => simp
  | cons c rest => simp [stops c (by simp)]

namespace Decimal

theorem take?_digits {digits rest : Text} (isRun : isDigits digits = true)
    (stops : ∀ c ∈ rest.head?, isDigit c = false ∧ c ≠ '.') :
    take? (digits ++ rest) = some (⟨digitsValue digits, 0⟩, rest) := by
  rcases isDigits_iff.mp isRun with ⟨nonempty, each⟩
  rcases span_append each fun c atFront => (stops c atFront).1 with ⟨taken, dropped⟩
  rw [take?, taken, dropped]
  cases rest with
  | nil => simp [nonempty]
  | cons c rest => simp [nonempty, (stops c (by simp)).2]

theorem take?_point {whole places rest : Text} (digits : isDigits (whole ++ places) = true)
    (stops : ∀ c ∈ rest.head?, isDigit c = false) :
    take? (whole ++ '.' :: (places ++ rest)) =
      some (⟨digitsValue (whole ++ places), -places.length⟩, rest) := by
  rcases isDigits_iff.mp digits with ⟨nonempty, each⟩
  rcases List.forall_mem_append.mp each with ⟨eachWhole, eachPlace⟩
  have pointStops : ∀ c ∈ ('.' :: (places ++ rest)).head?, isDigit c = false := by
    intro c atFront
    obtain rfl := Option.some.inj atFront
    decide
  rcases span_append eachWhole pointStops with ⟨takenWhole, behindWhole⟩
  rcases span_append eachPlace stops with ⟨takenPlaces, behindPlaces⟩
  rw [take?, takenWhole, behindWhole]
  simp [takenPlaces, behindPlaces, nonempty]

theorem ofText?_of_take? {text : Text} {d : Decimal} (taken : take? text = some (d, [])) :
    ofText? text = some d := by
  simp [ofText?, taken, exponentOf?]

theorem ofText?_of_isDigits {text : Text} (digits : isDigits text = true) :
    ofText? text = some ⟨digitsValue text, 0⟩ := by
  have taken : take? (text ++ []) = some (⟨digitsValue text, 0⟩, []) :=
    take?_digits digits (by simp)
  rw [List.append_nil] at taken
  exact ofText?_of_take? taken

theorem ofText?_of_point {whole places : Text} (digits : isDigits (whole ++ places) = true) :
    ofText? (whole ++ '.' :: places) = some ⟨digitsValue (whole ++ places), -places.length⟩ := by
  have taken : take? (whole ++ '.' :: (places ++ [])) =
      some (⟨digitsValue (whole ++ places), -places.length⟩, []) := take?_point digits (by simp)
  rw [List.append_nil] at taken
  exact ofText?_of_take? taken

end Decimal

namespace Binary64

theorem ofDecimal_eq :
    ofDecimal = fun d => (Rank.ofDecimal? d).elim (.infinite false) (.finite false) := by
  -- The two sides are compared as functions, and the rank is generalised, so that nothing is
  -- computed here.
  delta ofDecimal
  funext d
  generalize Rank.ofDecimal? d = rounded
  cases rounded with
  | none => rfl
  | some rank => rfl

/-- A decimal is rounded to its rank, or to the infinity if it has none. -/
theorem ofDecimal_eq_elim (d : Decimal) :
    ofDecimal d = (Rank.ofDecimal? d).elim (.infinite false) (.finite false) :=
  congrFun ofDecimal_eq d

theorem ofDecimal_cases (d : Decimal) :
    (∃ rank, ofDecimal d = .finite false rank) ∨ ofDecimal d = .infinite false := by
  rw [ofDecimal_eq_elim]
  cases Rank.ofDecimal? d with
  | none => exact .inr rfl
  | some rank => exact .inl ⟨rank, rfl⟩

theorem withSign_ofDecimal (d : Decimal) : withSign false (ofDecimal d) = ofDecimal d := by
  rcases ofDecimal_cases d with ⟨rank, rounded⟩ | rounded
  · rw [rounded, withSign]
  · rw [rounded, withSign]

/-- Digits and the point are no signs and begin no word. -/
theorem front_of_isDigit_or_point {c : Char} (front : isDigit c = true ∨ c = '.') :
    c ≠ '-' ∧ c ≠ '+' ∧ c.toLower ≠ 'i' ∧ c.toLower ≠ 'n' := by
  rcases front with digit | rfl
  · exact of_ascii (motive := fun c => isDigit c = true →
      c ≠ '-' ∧ c ≠ '+' ∧ c.toLower ≠ 'i' ∧ c.toLower ≠ 'n') (by decide +kernel)
      (toNat_lt_of_isDigit digit) digit
  · decide

section Front

variable {text : Text} (front : ∀ c ∈ text.head?, isDigit c = true ∨ c = '.')

include front

theorem takeSign_signed (negative : Bool) : takeSign (signed negative text) = (negative, text) := by
  cases negative with
  | true => rfl
  | false =>
      change takeSign text = (false, text)
      unfold takeSign
      split
      · exact absurd rfl (front_of_isDigit_or_point (front '-' rfl)).1
      · exact absurd rfl (front_of_isDigit_or_point (front '+' rfl)).2.1
      · rfl

theorem map_toLower_ne {word : Text} (begins : 'i' ∈ word.head? ∨ 'n' ∈ word.head?) :
    text.map Char.toLower ≠ word := by
  rintro rfl
  rw [List.head?_map] at begins
  rcases begins with isI | isN
  · rcases Option.map_eq_some_iff.mp isI with ⟨c, atFront, lower⟩
    exact (front_of_isDigit_or_point (front c atFront)).2.2.1 lower
  · rcases Option.map_eq_some_iff.mp isN with ⟨c, atFront, lower⟩
    exact (front_of_isDigit_or_point (front c atFront)).2.2.2 lower

/-- A text that begins with a digit or a point is read as a decimal, with or without a sign. -/
theorem ofText?_signed (negative : Bool) :
    ofText? (signed negative text) =
      ((Decimal.ofText? text).map ofDecimal).map (withSign negative) := by
  have notInfinity : ¬(text.map Char.toLower = "inf".toList ∨
      text.map Char.toLower = "infinity".toList) :=
    not_or.mpr ⟨map_toLower_ne front (.inl rfl), map_toLower_ne front (.inl rfl)⟩
  have notNaN : text.map Char.toLower ≠ "nan".toList := map_toLower_ne front (.inr rfl)
  simp only [ofText?, takeSign_signed front, if_neg notInfinity, if_neg notNaN]

theorem ofText?_of_front : ofText? text = (Decimal.ofText? text).map ofDecimal := by
  have read := ofText?_signed front false
  cases decimal : Decimal.ofText? text with
  | none => rwa [decimal] at read
  | some d => rwa [decimal, Option.map_some, Option.map_some, withSign_ofDecimal] at read

end Front

theorem ofText?_of_isDigits {text : Text} (digits : isDigits text = true) :
    ofText? text = some (.ofDecimal ⟨digitsValue text, 0⟩) := by
  have front : ∀ c ∈ text.head?, isDigit c = true ∨ c = '.' := fun c atFront =>
    .inl ((isDigits_iff.mp digits).2 c (List.mem_of_mem_head? atFront))
  rw [ofText?_of_front front, Decimal.ofText?_of_isDigits digits]
  rfl

theorem ofText?_of_point {whole places : Text} (digits : isDigits (whole ++ places) = true) :
    ofText? (whole ++ '.' :: places) =
      some (.ofDecimal ⟨digitsValue (whole ++ places), -places.length⟩) := by
  have form : DecimalForm (whole ++ '.' :: places) :=
    decimalForm_iff.mpr ⟨whole, places, rfl, digits⟩
  rw [ofText?_of_front fun c atFront => form.1 c (List.mem_of_mem_head? atFront),
    Decimal.ofText?_of_point digits]
  rfl

end Binary64

/-- Whatever looks like a number is read as one. -/
theorem Numeric.isSome_ofText? {text : Text} (numeric : Numeric text) :
    (Binary64.ofText? text).isSome = true := by
  rcases numeric with digits | form
  · rw [Binary64.ofText?_of_isDigits (isDigits_iff.mpr digits)]
    rfl
  · rcases decimalForm_iff.mp form with ⟨whole, places, rfl, digits⟩
    rw [Binary64.ofText?_of_point digits]
    rfl

/-! ## Quotation marks -/

/-- The text is `body` between quotation marks.  Either mark opens, the single mark or a colon
closes, and no mark stands in between. -/
def Quotes (text body : Text) : Prop :=
  ∃ opening closing, text = opening :: (body ++ [closing]) ∧
    (opening = '\x27' ∨ opening = '\x22') ∧ (closing = '\x27' ∨ closing = ':') ∧
    '\x27' ∉ body ∧ '\x22' ∉ body

namespace Value

theorem isQuote_iff {c : Char} : isQuote c = true ↔ c = '\x27' ∨ c = '\x22' := by
  simp [isQuote]

theorem any_isQuote_eq_false_iff {text : Text} :
    text.any isQuote = false ↔ '\x27' ∉ text ∧ '\x22' ∉ text := by
  simp only [List.any_eq_false, isQuote_iff, not_or]
  constructor
  · intro each
    exact ⟨fun member => (each _ member).1 rfl, fun member => (each _ member).2 rfl⟩
  · rintro ⟨noSingle, noDouble⟩ c member
    exact ⟨fun same => noSingle (same ▸ member), fun same => noDouble (same ▸ member)⟩

theorem unquoted?_eq_some_iff {text body : Text} :
    unquoted? text = some body ↔ Quotes text body := by
  constructor
  · intro read
    unfold unquoted? at read
    split at read
    case h_1 opening inner rest =>
        dsimp only at read
        split at read
        case isTrue marks =>
            obtain rfl := Option.some.inj read
            simp only [Bool.and_eq_true, Bool.or_eq_true, beq_iff_eq, Bool.not_eq_true',
              isQuote_iff, any_isQuote_eq_false_iff] at marks
            rcases marks with ⟨⟨opens, closes⟩, noMark⟩
            refine ⟨opening, _, ?_, opens, closes, noMark⟩
            rw [List.dropLast_append_getLast]
        case isFalse => simp at read
    case h_2 => simp at read
  · rintro ⟨opening, closing, rfl, opens, closes, noMark⟩
    have opensMark : isQuote opening = true := isQuote_iff.mpr opens
    have closesMark : (closing == '\x27' || closing == ':') = true := by simpa using closes
    have noMarkInside := any_isQuote_eq_false_iff.mpr noMark
    cases body with
    | nil => simp [unquoted?, opensMark, closesMark]
    | cons c body =>
        have regrouped : c :: (body ++ [closing]) = (c :: body) ++ [closing] := rfl
        simp only [List.cons_append, unquoted?]
        simp only [regrouped, List.dropLast_concat, List.getLast_append_singleton, noMarkInside,
          opensMark, closesMark]
        rfl

end Value

/-- A quoted text is no number. -/
theorem Quotes.not_numeric {text body : Text} (quotes : Quotes text body) : ¬Numeric text := by
  rcases quotes with ⟨opening, closing, rfl, opens, _⟩
  intro numeric
  have atFront := numeric.front List.mem_cons_self
  rcases opens with rfl | rfl
  · exact absurd atFront (by decide)
  · exact absurd atFront (by decide)

/-! ## Classification -/

/-- The value that a trimmed text stands for, by the shape of the text. -/
inductive StandsFor (text : Text) : Value → Prop
  /-- A run of digits within the integers. -/
  | integer (digits : isDigits text = true) (within : digitsValue text ≤ maxInteger) :
      StandsFor text (.integer (digitsValue text))
  /-- A run of digits beyond the integers. -/
  | beyond (digits : isDigits text = true) (large : maxInteger < digitsValue text) :
      StandsFor text (.float (.ofDecimal ⟨digitsValue text, 0⟩))
  /-- Digits around a point. -/
  | decimal {whole places : Text} (point : text = whole ++ '.' :: places)
      (digits : isDigits (whole ++ places) = true) :
      StandsFor text (.float (.ofDecimal ⟨digitsValue (whole ++ places), -places.length⟩))
  /-- A text between quotation marks. -/
  | quoted {body : Text} (quotes : Quotes text body) : StandsFor text (.string body)
  /-- Any other text. -/
  | plain (noNumber : ¬Numeric text) (unquoted : ∀ body, ¬Quotes text body) :
      StandsFor text (.string text)

theorem not_numeric_iff {text : Text} :
    ¬Numeric text ↔ isDigits text = false ∧ isDecimalForm text = false := by
  rw [Numeric, ← isDigits_iff, ← isDecimalForm_iff, not_or, Bool.not_eq_true, Bool.not_eq_true]

theorem standsFor_ofTrimmed (text : Text) : StandsFor text (.ofTrimmed text) := by
  rw [Value.ofTrimmed]
  split
  case isTrue digits =>
      dsimp only
      split
      case isTrue within => exact .integer digits within
      case isFalse large =>
          rw [Binary64.ofText?_of_isDigits digits]
          exact .beyond digits (Nat.lt_of_not_le large)
  case isFalse noDigits =>
      cases form : isDecimalForm text with
      | true =>
          rcases decimalForm_iff.mp (isDecimalForm_iff.mp form) with ⟨whole, places, rfl, digits⟩
          rw [if_pos rfl, Binary64.ofText?_of_point digits]
          exact .decimal rfl digits
      | false =>
          rw [if_neg Bool.false_ne_true]
          cases unquoted : Value.unquoted? text with
          | some body => exact .quoted (Value.unquoted?_eq_some_iff.mp unquoted)
          | none =>
              apply StandsFor.plain
              · exact not_numeric_iff.mpr ⟨Bool.eq_false_iff.mpr noDigits, form⟩
              · intro body quotes
                rw [Value.unquoted?_eq_some_iff.mpr quotes] at unquoted
                contradiction

/-- The shapes exclude each other. -/
theorem StandsFor.ofTrimmed_eq {text : Text} {value : Value} (stands : StandsFor text value) :
    .ofTrimmed text = value := by
  cases stands with
  | integer digits within => simp only [Value.ofTrimmed, if_pos digits, if_pos within]
  | beyond digits large =>
      simp only [Value.ofTrimmed, if_pos digits, if_neg (Nat.not_le_of_lt large),
        Binary64.ofText?_of_isDigits digits, Option.map_some, Option.getD_some]
  | decimal point digits =>
      subst point
      have form := decimalForm_iff.mpr ⟨_, _, rfl, digits⟩
      simp [Value.ofTrimmed, form.not_isDigits, isDecimalForm_iff.mpr form,
        Binary64.ofText?_of_point digits]
  | quoted quotes =>
      rcases not_numeric_iff.mp quotes.not_numeric with ⟨noDigits, noForm⟩
      simp [Value.ofTrimmed, noDigits, noForm, Value.unquoted?_eq_some_iff.mpr quotes]
  | plain noNumber unquoted =>
      rcases not_numeric_iff.mp noNumber with ⟨noDigits, noForm⟩
      have none : Value.unquoted? text = none := by
        rw [Option.eq_none_iff_forall_ne_some]
        exact fun body read => unquoted body (Value.unquoted?_eq_some_iff.mp read)
      simp [Value.ofTrimmed, noDigits, noForm, none]

theorem coerce_eq_iff {text : Text} {value : Value} :
    .coerce text = value ↔ StandsFor (trim text) value := by
  constructor
  · rintro rfl
    exact standsFor_ofTrimmed (trim text)
  · exact StandsFor.ofTrimmed_eq

theorem coerce_trim (text : Text) : Value.coerce (trim text) = .coerce text := by
  rw [Value.coerce, trim_trim]
  rfl

/-! ## Each kind of value -/

theorem coerce_eq_integer_iff {text : Text} {n : Int} :
    Value.coerce text = .integer n ↔
      isDigits (trim text) = true ∧ digitsValue (trim text) ≤ maxInteger ∧
        n = digitsValue (trim text) := by
  rw [coerce_eq_iff]
  constructor
  · intro stands
    cases stands with
    | integer digits within => exact ⟨digits, within, rfl⟩
  · rintro ⟨digits, within, rfl⟩
    exact .integer digits within

theorem coerce_eq_float_iff {text : Text} {x : Binary64} :
    Value.coerce text = .float x ↔
      (isDigits (trim text) = true ∧ maxInteger < digitsValue (trim text) ∧
        x = .ofDecimal ⟨digitsValue (trim text), 0⟩) ∨
      ∃ whole places, trim text = whole ++ '.' :: places ∧ isDigits (whole ++ places) = true ∧
        x = .ofDecimal ⟨digitsValue (whole ++ places), -places.length⟩ := by
  rw [coerce_eq_iff]
  constructor
  · intro stands
    cases stands with
    | beyond digits large => exact .inl ⟨digits, large, rfl⟩
    | decimal point digits => exact .inr ⟨_, _, point, digits, rfl⟩
  · rintro (⟨digits, large, rfl⟩ | ⟨whole, places, point, digits, rfl⟩)
    · exact .beyond digits large
    · exact .decimal point digits

theorem coerce_eq_string_iff {text s : Text} :
    Value.coerce text = .string s ↔
      Quotes (trim text) s ∨
        s = trim text ∧ ¬Numeric (trim text) ∧ ∀ body, ¬Quotes (trim text) body := by
  rw [coerce_eq_iff]
  constructor
  · intro stands
    cases stands with
    | quoted quotes => exact .inl quotes
    | plain noNumber unquoted => exact .inr ⟨rfl, noNumber, unquoted⟩
  · rintro (quotes | ⟨rfl, noNumber, unquoted⟩)
    · exact .quoted quotes
    · exact .plain noNumber unquoted

/-- Without quotation marks to take off, a text stands for a number or for itself. -/
theorem coerce_of_noQuote {text : Text} (noSingle : '\x27' ∉ text) (noDouble : '\x22' ∉ text) :
    (∃ n, Value.coerce text = .integer n) ∨ (∃ x, Value.coerce text = .float x) ∨
      Value.coerce text = .string (trim text) := by
  cases coerced : Value.coerce text with
  | integer n => exact .inl ⟨n, rfl⟩
  | float x => exact .inr (.inl ⟨x, rfl⟩)
  | string s =>
      rcases coerce_eq_string_iff.mp coerced with ⟨opening, _, split, opens, _⟩ | ⟨rfl, _⟩
      · have member : opening ∈ text := mem_of_mem_strip (split ▸ List.mem_cons_self)
        rcases opens with rfl | rfl
        · exact absurd member noSingle
        · exact absurd member noDouble
      · exact .inr (.inr rfl)

/-- The value of a text is told by its shape, blanks around it aside: a run of digits within
the integers is an integer, a run beyond them or digits around one point a floating-point
number, and all else a text, without its quotation marks if it has them.  A text that was
stored as it is stands for itself again; one that lost its quotation marks stands for a
number or for itself without the blanks around it. -/
theorem coerce_classified (text : Text) :
    (∀ n, Value.coerce text = .integer n ↔
      (trim text ≠ [] ∧ ∀ c ∈ trim text, isDigit c = true) ∧
        digitsValue (trim text) ≤ 9223372036854775807 ∧ n = digitsValue (trim text)) ∧
    (∀ x, Value.coerce text = .float x ↔
      ((trim text ≠ [] ∧ ∀ c ∈ trim text, isDigit c = true) ∧
        9223372036854775807 < digitsValue (trim text) ∧
        x = .ofDecimal ⟨digitsValue (trim text), 0⟩) ∨
      (DecimalForm (trim text) ∧ ∀ whole places, trim text = whole ++ '.' :: places →
        x = .ofDecimal ⟨digitsValue (whole ++ places), -places.length⟩)) ∧
    (∀ s, Value.coerce text = .string s ↔
      ¬Numeric (trim text) ∧
        (Quotes (trim text) s ∨ s = trim text ∧ ∀ body, ¬Quotes (trim text) body)) ∧
    ∀ s, Value.coerce text = .string s →
      (¬Quotes (trim text) s → Value.coerce s = .string s) ∧
      (Quotes (trim text) s → '\x27' ∉ s ∧ '\x22' ∉ s ∧
        ((∃ n, Value.coerce s = .integer n) ∨ (∃ x, Value.coerce s = .float x) ∨
          Value.coerce s = .string (trim s))) := by
  refine ⟨?integer, ?float, ?string, ?again⟩
  case integer =>
    intro n
    rw [coerce_eq_integer_iff, isDigits_iff]
    rfl
  case float =>
    intro x
    rw [coerce_eq_float_iff, isDigits_iff, decimalForm_iff]
    apply or_congr Iff.rfl
    constructor
    · rintro ⟨whole, places, point, digits, rfl⟩
      refine ⟨⟨whole, places, point, digits⟩, ?_⟩
      intro whole' places' point'
      rcases point_unique digits (point.symm.trans point') with ⟨rfl, rfl⟩
      rfl
    · rintro ⟨⟨whole, places, point, digits⟩, value⟩
      exact ⟨whole, places, point, digits, value whole places point⟩
  case string =>
    intro s
    rw [coerce_eq_string_iff]
    constructor
    · rintro (quotes | ⟨same, noNumber, unquoted⟩)
      · exact ⟨quotes.not_numeric, .inl quotes⟩
      · exact ⟨noNumber, .inr ⟨same, unquoted⟩⟩
    · rintro ⟨noNumber, quotes | ⟨same, unquoted⟩⟩
      · exact .inl quotes
      · exact .inr ⟨same, noNumber, unquoted⟩
  case again =>
    intro s coerced
    rcases coerce_eq_string_iff.mp coerced with quotes | ⟨rfl, _, unquoted⟩
    · have ⟨_, _, _, _, _, noSingle, noDouble⟩ := quotes
      exact ⟨fun unquoted => absurd quotes unquoted,
        fun _ => ⟨noSingle, noDouble, coerce_of_noQuote noSingle noDouble⟩⟩
    · rw [coerce_trim]
      exact ⟨fun _ => coerced, fun quotes => absurd quotes (unquoted _)⟩

end LoadScript
