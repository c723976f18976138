import LoadScript.Command.Setup
import LoadScript.Proofs.SingleAssignment

/-!
# Numbers that are written back

The text of a number is read again where a reference to a variable is filled in.  A decimal
that is written with all its digits around a point has the same value when it is read, and a
floating-point number is written as a decimal that is rounded to it.  Digits alone spell an
integer.  Only the infinity, which digits that are too large are rounded to, has no digits.
The reader of floating-point numbers knows it by its word, and reads every number back from its
text (`Binary64.ofText?_text`).

The main statement, `number_survives_reference`, says that every finite number that scripts or
definitions store is copied unchanged by an assignment that refers to it.
-/

namespace LoadScript

open Text

/-! ## Digits -/

theorem digitsValue_append (left right : Text) :
    digitsValue (left ++ right) = 10 ^ right.length * digitsValue left + digitsValue right := by
  unfold digitsValue
  rw [Nat.ofDigitChars_append, Nat.ofDigitChars_eq_ofDigitChars_zero]

/-- Zeros in front change no value. -/
theorem digitsValue_leftpad (digits : Text) (length : Nat) :
    digitsValue (digits.leftpad length '0') = digitsValue digits := by
  have zeros : digitsValue (List.replicate (length - digits.length) '0') = 0 := by
    rw [digitsValue, Nat.ofDigitChars_replicate_zero, Nat.mul_zero]
  rw [List.leftpad, digitsValue_append, zeros, Nat.mul_zero, Nat.zero_add]

theorem isDigit_of_mem_leftpad {digits : Text} {length : Nat}
    (each : ∀ c ∈ digits, isDigit c = true) {c : Char} (member : c ∈ digits.leftpad length '0') :
    isDigit c = true := by
  rcases List.mem_append.mp member with padding | inDigits
  · rw [List.eq_of_mem_replicate padding]
    decide
  · exact each c inDigits

/-- Digits may be put behind the digits of a number. -/
theorem isDigits_decimalDigits_append (n : Nat) {digits : Text}
    (each : ∀ c ∈ digits, isDigit c = true) : isDigits (decimalDigits n ++ digits) = true := by
  rw [isDigits_iff]
  refine ⟨List.append_ne_nil_of_left_ne_nil (decimalDigits_ne_nil n) digits, ?_⟩
  exact List.forall_mem_append.mpr ⟨fun c => isDigit_of_mem_decimalDigits, each⟩

/-- A number below a power of ten fits into as many places. -/
theorem length_leftpad_decimalDigits {n places : Nat} (small : n < 10 ^ (places + 1)) :
    ((decimalDigits n).leftpad (places + 1) '0').length = places + 1 := by
  have fits : (decimalDigits n).length ≤ places + 1 :=
    (Nat.length_toDigits_le_iff (by decide) (Nat.succ_pos places)).mpr small
  rw [List.length_leftpad, Nat.max_eq_left fits]

/-! ## Decimals -/

/-- A whole number may be written in tenths. -/
theorem Rank.ofDecimal?_tenths (coefficient zeros : Nat) :
    ofDecimal? ⟨10 * (coefficient * Nat.pow 10 zeros), -1⟩ =
      ofDecimal? ⟨coefficient, .ofNat zeros⟩ := by
  have noPlaces : (-Int.ofNat zeros).toNat = 0 := Int.toNat_neg_natCast zeros
  have same := nearest?_mul_left (by decide : 0 < 10) (coefficient * Nat.pow 10 zeros) 1
  simpa [ofDecimal?, Decimal.ratio, noPlaces] using same

namespace Decimal

/-- A decimal in full is digits around a point, and they have its value. -/
theorem exists_plain_eq (d : Decimal) :
    ∃ whole places, d.plain = whole ++ '.' :: places ∧ isDigits (whole ++ places) = true ∧
      Rank.ofDecimal? ⟨digitsValue (whole ++ places), -places.length⟩ = Rank.ofDecimal? d := by
  obtain ⟨coefficient, exponent⟩ := d
  cases exponent with
  | ofNat zeros =>
      refine ⟨decimalDigits (coefficient * Nat.pow 10 zeros), ['0'], rfl, ?_, ?_⟩
      · exact isDigits_decimalDigits_append _ (List.forall_mem_singleton.mpr (by decide))
      · have value : digitsValue (decimalDigits (coefficient * Nat.pow 10 zeros) ++ ['0']) =
            10 * (coefficient * Nat.pow 10 zeros) := by
          rw [digitsValue_append, digitsValue_decimalDigits]
          rfl
        rw [value]
        exact Rank.ofDecimal?_tenths coefficient zeros
  | negSucc places =>
      have small : coefficient % 10 ^ (places + 1) < 10 ^ (places + 1) :=
        Nat.mod_lt _ (Nat.pow_pos (by decide))
      refine ⟨decimalDigits (coefficient / 10 ^ (places + 1)),
        (decimalDigits (coefficient % 10 ^ (places + 1))).leftpad (places + 1) '0', rfl, ?_, ?_⟩
      · apply isDigits_decimalDigits_append
        intro c member
        exact isDigit_of_mem_leftpad (fun d => isDigit_of_mem_decimalDigits) member
      · rw [digitsValue_append, digitsValue_leftpad, digitsValue_decimalDigits,
          digitsValue_decimalDigits, length_leftpad_decimalDigits small, Nat.div_add_mod]
        rfl

theorem numeric_plain (d : Decimal) : Numeric d.plain := by
  rcases d.exists_plain_eq with ⟨whole, places, split, digits, _⟩
  exact .inr (decimalForm_iff.mpr ⟨whole, places, split, digits⟩)

theorem exponentOf?_signed (n : Int) :
    exponentOf? ('e' :: (if n < 0 then '-' else '+') :: decimalDigits n.natAbs) = some n := by
  have digits := Literal.isDigits_decimalDigits n.natAbs
  by_cases negative : n < 0
  · have value : -(digitsValue (decimalDigits n.natAbs) : Int) = n := by
      rw [digitsValue_decimalDigits]
      omega
    rw [if_pos negative]
    exact (if_pos ⟨by decide, digits⟩).trans (congrArg some value)
  · have value : (digitsValue (decimalDigits n.natAbs) : Int) = n := by
      rw [digitsValue_decimalDigits]
      omega
    rw [if_neg negative]
    exact (if_pos ⟨by decide, digits⟩).trans (congrArg some value)

/-- The digits in front of an exponent leave out as many places as the exponent adds. -/
theorem take?_scientific (d : Decimal) :
    take? d.scientific = some (⟨d.coefficient, d.exponent - d.lead⟩,
      'e' :: (if d.lead < 0 then '-' else '+') :: decimalDigits d.lead.natAbs) := by
  have isRun := Literal.isDigits_decimalDigits d.coefficient
  have value := digitsValue_decimalDigits d.coefficient
  have stops : ∀ behind, ∀ c ∈ ('e' :: behind).head?, isDigit c = false ∧ c ≠ '.' := by
    intro behind c atFront
    obtain rfl := Option.some.inj atFront
    decide
  cases digits : decimalDigits d.coefficient with
  | nil => exact absurd digits (decimalDigits_ne_nil d.coefficient)
  | cons first others =>
      rw [digits] at isRun value
      cases others with
      | nil =>
          have places : d.exponent - d.lead = 0 := by simp [lead, digits]
          rw [scientific, digits, places, ← value]
          exact take?_digits isRun (stops _)
      | cons second others =>
          have places : d.exponent - d.lead = -(second :: others).length := by
            simp [lead, digits]
            omega
          have point : isDigits ([first] ++ second :: others) = true := isRun
          rw [scientific, digits, places, ← value]
          exact take?_point point fun c atFront => (stops _ c atFront).1

/-- A decimal that is written with an exponent is read back. -/
theorem ofText?_scientific (d : Decimal) : ofText? d.scientific = some d := by
  simp [ofText?, take?_scientific, exponentOf?_signed]

end Decimal

/-! ## The texts of numbers -/

namespace Numeric

variable {text : Text} (numeric : Numeric text)

include numeric

theorem shown {c : Char} (member : c ∈ text) : isBlank c = false ∧ isLetter (fold c) = false := by
  rcases numeric.front member with digit | rfl
  · exact front_of_isDigit digit
  · decide

theorem trim_eq : trim text = text := by
  apply Literal.trim_eq_self
  · exact fun c atFront => (numeric.shown (List.mem_of_mem_head? atFront)).1
  · exact fun c atBack => (numeric.shown (List.mem_of_mem_getLast? atBack)).1

/-- No head of an assignment stands in a number, not even behind a space. -/
theorem innerHeads_space_cons : Assignment.innerHeads (' ' :: text) = 0 := by
  have atFront : Assignment.head? text = none := by
    cases text with
    | nil => rfl
    | cons c text => exact Assignment.head?_eq_none_of_front (numeric.shown List.mem_cons_self).2
  rw [Assignment.innerHeads_space_cons atFront, ← List.append_nil text,
    Assignment.innerHeads_append_of_shown fun c member => (numeric.shown member).1]
  rfl

end Numeric

/-- A decimal in full is coerced to the number nearest to it. -/
theorem coerce_plain (d : Decimal) : Value.coerce d.plain = .float (.ofDecimal d) := by
  rcases d.exists_plain_eq with ⟨whole, places, split, digits, sameRank⟩
  have same : Binary64.ofDecimal d =
      .ofDecimal ⟨digitsValue (whole ++ places), -places.length⟩ := by
    rw [Binary64.ofDecimal_eq_elim, Binary64.ofDecimal_eq_elim, sameRank]
  rw [coerce_eq_iff, d.numeric_plain.trim_eq, same]
  exact .decimal split digits

namespace Rank

/-- A whole magnitude is the nearest one to its digits. -/
theorem ofDecimal?_of_whole {rank : Rank} (whole : rank.units % unitsPerOne = 0) :
    ofDecimal? ⟨rank.units / unitsPerOne, 0⟩ = some rank := by
  have multiple : unitsPerOne * (rank.units / unitsPerOne) = rank.units :=
    Nat.mul_div_cancel' (Nat.dvd_of_mod_eq_zero whole)
  calc
    ofDecimal? ⟨rank.units / unitsPerOne, 0⟩
    _ = nearest? (rank.units / unitsPerOne) 1 := by
      simp [ofDecimal?, Decimal.ratio]
    _ = nearest? (unitsPerOne * (rank.units / unitsPerOne)) (unitsPerOne * 1) :=
      (nearest?_mul_left unitsPerOne_pos _ _).symm
    _ = some rank := by rw [multiple, Nat.mul_one, nearest?_units]

/-- A magnitude is written as a decimal that is rounded to it. -/
theorem exists_fullText_eq_plain (rank : Rank) :
    ∃ d : Decimal, rank.fullText = d.plain ∧ ofDecimal? d = some rank := by
  rw [fullText]
  split
  case isTrue whole => exact ⟨_, rfl, ofDecimal?_of_whole whole⟩
  case isFalse => exact ⟨_, rfl, ofDecimal?_shortest .up rank⟩

theorem ofText?_signed_fullText (negative : Bool) (rank : Rank) :
    Binary64.ofText? (signed negative rank.fullText) = some (.finite negative rank) := by
  rcases rank.exists_fullText_eq_plain with ⟨d, full, rounds⟩
  rcases d.exists_plain_eq with ⟨whole, places, split, digits, sameRank⟩
  have front : ∀ c ∈ d.plain.head?, isDigit c = true ∨ c = '.' := fun c atFront =>
    d.numeric_plain.front (List.mem_of_mem_head? atFront)
  rw [full, Binary64.ofText?_signed front, split, Decimal.ofText?_of_point digits,
    Option.map_some, Binary64.ofDecimal_eq_elim, sameRank, rounds]
  rfl

theorem coerce_fullText (rank : Rank) :
    Value.coerce rank.fullText = .float (.finite false rank) := by
  rcases rank.exists_fullText_eq_plain with ⟨d, full, rounds⟩
  rw [full, coerce_plain, Binary64.ofDecimal_eq_elim, rounds]
  rfl

end Rank

/-- Every floating-point number is read back from its text. -/
theorem Binary64.ofText?_text (x : Binary64) : ofText? x.text = some x := by
  cases x with
  | finite negative rank => exact Rank.ofText?_signed_fullText negative rank
  | infinite negative => cases negative <;> rfl
  | nan => rfl

namespace Value

/-- An integer or a finite floating-point number. -/
inductive IsFinite : Value → Prop
  /-- An integer. -/
  | integer (n : Int) : IsFinite (.integer n)
  /-- A floating-point number that is finite. -/
  | float (negative : Bool) (rank : Rank) : IsFinite (.float (.finite negative rank))

/-- A number that digits spell without a sign. -/
inductive Spelled : Value → Prop
  /-- An integer, from zero on. -/
  | integer {n : Nat} (within : n ≤ maxInteger) : Spelled (.integer n)
  /-- A finite magnitude. -/
  | float (rank : Rank) : Spelled (.float (.finite false rank))

theorem coerce_eq_float_cases {text : Text} {x : Binary64} (coerced : coerce text = .float x) :
    (∃ rank, x = .finite false rank) ∨ x = .infinite false := by
  rcases coerce_eq_float_iff.mp coerced with ⟨_, _, rfl⟩ | ⟨_, _, _, _, rfl⟩
  · exact Binary64.ofDecimal_cases _
  · exact Binary64.ofDecimal_cases _

theorem spelled_coerce {text : Text} (finite : (coerce text).IsFinite) :
    (coerce text).Spelled := by
  cases coerced : coerce text with
  | integer n =>
      rcases coerce_eq_integer_iff.mp coerced with ⟨_, within, rfl⟩
      exact .integer within
  | float x =>
      rw [coerced] at finite
      rcases coerce_eq_float_cases coerced with ⟨rank, rfl⟩ | rfl
      · exact .float rank
      · nomatch finite
  | string s =>
      rw [coerced] at finite
      nomatch finite

variable {value : Value}

theorem Spelled.coerce_text (spelled : value.Spelled) : coerce value.text = value := by
  cases spelled with
  | @integer n within =>
      have valid : Literal.Valid (.number n) := within
      change coerce (Literal.number n).text = (Literal.number n).value
      exact Literal.coerce_text valid
  | float rank => exact rank.coerce_fullText

theorem Spelled.numeric_text (spelled : value.Spelled) : Numeric value.text := by
  cases spelled with
  | @integer n => exact .inl (isDigits_iff.mp (Literal.isDigits_decimalDigits n))
  | float rank =>
      rcases rank.exists_fullText_eq_plain with ⟨d, full, _⟩
      change Numeric rank.fullText
      rw [full]
      exact d.numeric_plain

end Value

/-! ## Stores of coerced values -/

/-- Every entry is a plain variable, and some text stands for its value. -/
def Store.Coerced (store : Store) : Prop :=
  ∀ name entry, store.find? name = some entry → ∃ text, entry = ⟨.variable, .coerce text⟩

theorem Store.coerced_empty : Store.empty.Coerced := by
  intro name entry found
  simp [find?, empty] at found

theorem Store.Coerced.setAll {store : Store} {writes : List (Text × Value)}
    (coerced : store.Coerced) (each : ∀ write ∈ writes, ∃ text, write.2 = .coerce text) :
    (store.setAll writes).Coerced := by
  induction writes generalizing store with
  | nil => exact coerced
  | cons write writes ih =>
      apply ih
      · intro name entry found
        rcases each write List.mem_cons_self with ⟨text, same⟩
        rw [find?_set, same] at found
        split at found
        · exact ⟨text, (Option.some.inj found).symm⟩
        · exact coerced name entry found
      · exact fun other member => each other (List.mem_cons_of_mem write member)

/-- Definitions give coerced values. -/
theorem Command.exists_coerce_of_readDefinition {definition : Text} {seed : Text × Value}
    (read : readDefinition definition = .ok seed) : ∃ text, seed.2 = .coerce text := by
  rw [readDefinition] at read
  split at read
  case h_1 => contradiction
  case h_2 name value _ =>
      dsimp only at read
      split at read
      case isTrue =>
          obtain rfl := Except.ok.inj read
          exact ⟨value, rfl⟩
      case isFalse => contradiction

/-- The session that some definitions and scripts lead to. -/
def Session.Reached (session : Session) : Prop :=
  ∃ definitions seeds sources, List.map Command.readDefinition definitions = seeds.map .ok ∧
    session = (Session.mk .standard (Store.empty.setAll seeds)).execAll sources

/-- Definitions and scripts store nothing but coerced values. -/
theorem Session.Reached.coerced {session : Session} (reached : session.Reached) :
    session.registry = .standard ∧ session.vars.Coerced := by
  rcases reached with ⟨definitions, seeds, sources, given, rfl⟩
  have seeded : (Store.empty.setAll seeds).Coerced := by
    apply Store.coerced_empty.setAll
    intro seed member
    have read : .ok seed ∈ definitions.map Command.readDefinition :=
      given ▸ List.mem_map_of_mem member
    rcases List.mem_map.mp read with ⟨definition, _, isRead⟩
    exact Command.exists_coerce_of_readDefinition isRead
  rw [session_execAll]
  refine ⟨rfl, seeded.setAll ?_⟩
  rintro ⟨name, value⟩ member
  rcases Run.mem_writesOf_iff.mp member with ⟨_, _, raw, _, rfl⟩
  exact ⟨raw, rfl⟩

/-! ## Copies -/

theorem not_mem_referenceTo {name : Text} (valid : isName name = true) {c : Char}
    (notInName : isNameChar c = false) (noMark : c ∉ ['$', '(', ')']) : c ∉ referenceTo name := by
  have notInside : c ∉ name := by
    intro member
    rw [isNameChar_of_mem_isName valid member] at notInName
    contradiction
  simp only [List.mem_cons, List.not_mem_nil, or_false, not_or] at noMark
  simp [referenceTo, notInside, noMark]

/-- A script that copies a variable is clean already. -/
theorem normal_copy {verb name copy : Text} (spelled : Assignment.Verb verb)
    (valid : isName name = true) (target : Assignment.Target copy) :
    Script.Normal (Assignment.spaced verb copy (referenceTo name) ++ [terminator]) := by
  have absent : ∀ c ∈ ['\r', '\n', '\t', '/'],
      c ∉ Assignment.spaced verb copy (referenceTo name) ++ [terminator] := by
    intro c troublesome
    have plain : ∀ c ∈ ['\r', '\n', '\t', '/'], isLetter (fold c) = false ∧
        isNameChar c = false ∧ c ∉ [' ', '=', terminator] ∧ c ∉ ['$', '(', ')'] := by
      simp only [List.forall_mem_cons, List.not_mem_nil, false_imp_iff, implies_true, and_true]
      decide
    rcases plain c troublesome with ⟨noLetter, notInName, noSeparator, noMark⟩
    simp only [List.mem_cons, List.not_mem_nil, or_false, not_or] at noSeparator
    rw [List.mem_append, Assignment.mem_spaced_iff spelled target noLetter notInName
      noSeparator.1 noSeparator.2.1, List.mem_singleton, not_or]
    exact ⟨not_mem_referenceTo valid notInName noMark, noSeparator.2.2⟩
  apply Script.normal_of_not_mem
  · exact absent '\r' (by decide)
  · exact absent '\n' (by decide)
  · exact absent '\t' (by decide)
  · exact absent '/' (by decide)
  · rw [Assignment.spaced, List.append_assoc]
    exact spelled.not_remark

/-- An assignment that refers to a number copies the number. -/
theorem Session.exec_copy {vars : Store} {verb name copy : Text} {value : Value}
    (spelledVerb : Assignment.Verb verb) (valid : isName name = true)
    (target : Assignment.Target copy) (found : vars.find? name = some ⟨.variable, value⟩)
    (spelled : value.Spelled) :
    ((Session.mk .standard vars).exec
      (Assignment.spaced verb copy (referenceTo name) ++ [terminator])).diagnostics = [] ∧
    ((Session.mk .standard vars).exec
      (Assignment.spaced verb copy (referenceTo name) ++ [terminator])).session =
        ⟨.standard, vars.set copy value⟩ := by
  have filled : expand vars.referenceText? (referenceTo name) = value.text := by
    rw [expand_referenceTo valid, Store.referenceText?, found]
    rfl
  have noHead :
      Assignment.innerHeads (' ' :: expand vars.referenceText? (referenceTo name)) = 0 := by
    rw [filled]
    exact spelled.numeric_text.innerHeads_space_cons
  have absent : terminator ∉ referenceTo name := not_mem_referenceTo valid (by decide) (by decide)
  have executed := exec_assignment spelledVerb target
    (normal_copy spelledVerb valid target) absent noHead
  rwa [filled, spelled.coerce_text] at executed

/-- A finite number survives being written back.  Whatever text a number was coerced from, the
text of the number is coerced to the same number, with the same type; only digits that are too
large for the finite numbers stand for the infinity, whose text stands for itself.  So an
assignment whose value is a reference copies every finite number that definitions or scripts can
store, and reports nothing. -/
theorem number_survives_reference :
    (∀ text, (Value.coerce text).IsFinite →
      Value.coerce (Value.coerce text).text = .coerce text) ∧
    (∀ text x, Value.coerce text = .float x → ¬(Value.float x).IsFinite →
      x = .infinite false ∧ Value.coerce (Value.coerce text).text = .string "inf".toList) ∧
    ∀ session verb name copy value, Session.Reached session →
      session.vars.value? name = some value → value.IsFinite →
      Assignment.Verb verb → isName name = true → Assignment.Target copy →
      (session.exec (Assignment.spaced verb copy (referenceTo name) ++ [';'])).diagnostics = [] ∧
      (session.exec (Assignment.spaced verb copy (referenceTo name) ++ [';'])).session =
        session.set copy value := by
  refine ⟨?number, ?infinity, ?copies⟩
  case number => exact fun text finite => (Value.spelled_coerce finite).coerce_text
  case infinity =>
    intro text x coerced infinite
    rcases Value.coerce_eq_float_cases coerced with ⟨rank, rfl⟩ | rfl
    · exact absurd (.float false rank) infinite
    · rw [coerced]
      exact ⟨rfl, rfl⟩
  case copies =>
    rintro ⟨registry, vars⟩ verb name copy value reached holds finite spelled valid target
    rcases reached.coerced with ⟨standard, coerced⟩
    obtain rfl : registry = .standard := standard
    rcases Option.map_eq_some_iff.mp holds with ⟨entry, found, rfl⟩
    rcases coerced name entry found with ⟨text, rfl⟩
    exact Session.exec_copy spelled valid target found (Value.spelled_coerce finite)

/-- Digits beyond the integers are rounded, and what they are rounded to is written in full. -/
theorem number_survives_reference_beyond_integers :
    Value.coerce (Value.coerce "100000000000000000001".toList).text =
      .coerce "100000000000000000001".toList ∧
    (((Session.mk .standard .empty).execAll ["LET a = 100000000000000000001;".toList]).exec
      "LET b = $(a);".toList).session =
        ((Session.mk .standard .empty).execAll ["LET a = 100000000000000000001;".toList]).set ['b']
          (.float (.finite false ⟨0x4415af1d78b58c40, by decide⟩)) := by
  have coerced : Value.coerce "100000000000000000001".toList =
      .float (.finite false ⟨0x4415af1d78b58c40, by decide⟩) := by
    decide +kernel
  have stored : ((Session.mk .standard .empty).execAll
      ["LET a = 100000000000000000001;".toList]).vars.value? ['a'] =
        some (.float (.finite false ⟨0x4415af1d78b58c40, by decide⟩)) := by
    decide +kernel
  have copied := number_survives_reference.2.2 _ ['L', 'E', 'T'] ['a'] ['b'] _
    ⟨[], [], ["LET a = 100000000000000000001;".toList], rfl, rfl⟩ stored (.float _ _)
    (.inr (by decide)) (by decide) (Assignment.target_of_isName (by decide))
  have finite : (Value.coerce "100000000000000000001".toList).IsFinite := by
    rw [coerced]
    exact .float _ _
  exact ⟨number_survives_reference.1 "100000000000000000001".toList finite, copied.2⟩

/-- The infinity is a number that does not survive. -/
theorem infinity_is_written_back_as_text :
    ¬∀ text, ((∃ n, Value.coerce text = .integer n) ∨ ∃ x, Value.coerce text = .float x) →
      Value.coerce (Value.coerce text).text = .coerce text := by
  intro survives
  have coerced : Value.coerce ('1' :: List.replicate 309 '0') = .float (.infinite false) := by
    decide +kernel
  have again := survives _ (.inr ⟨_, coerced⟩)
  rw [coerced] at again
  exact absurd again (by decide)

end LoadScript
