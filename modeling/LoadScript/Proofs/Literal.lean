import LoadScript.Proofs.Head
import LoadScript.Proofs.Lines
import LoadScript.Proofs.References
import LoadScript.Value.Basic

/-!
# Literals and texts that pass unchanged

A *tame* text holds nothing that cleaning, cutting into statements or filling in
references would act on.  The literals of written assignments, digits and quoted
texts, are tame, hold no head of an assignment, and are coerced to what they stand
for.
-/

namespace LoadScript

open Text Comment Script

/-! ## Tame texts -/

/-- A text that comes through cleaning, cutting and expanding as it is. -/
structure Tame (text : Text) : Prop where
  /-- No statement ends in the text. -/
  noTerminator : ';' ∉ text
  /-- No carriage return stands in the text. -/
  noReturn : '\r' ∉ text
  /-- No line feed and no tab stands in the text. -/
  flat : Flat text
  /-- No reference is opened in the text. -/
  noReference : ¬['$', '('] <:+: text
  /-- No block comment is opened in the text. -/
  noBlock : ¬['/', '*'] <:+: text
  /-- No line comment begins in the text. -/
  unslashed : Unslashed false text

theorem tame_nil : Tame [] where
  noTerminator := by simp
  noReturn := by simp
  flat := by simp [Flat]
  noReference := by simp
  noBlock := by simp
  unslashed := unslashed_nil false

theorem unslashed_of_not_mem {shielded : Bool} {text : Text} (noSlash : '/' ∉ text) :
    Unslashed shielded text := by
  induction text generalizing shielded with
  | nil => exact unslashed_nil shielded
  | cons c rest ih =>
      constructor
      · rintro ⟨_, rfl, _⟩
        exact noSlash List.mem_cons_self
      · exact ih fun member => noSlash (List.mem_cons_of_mem c member)

/-- A test that no troublesome character passes makes a text tame. -/
theorem tame_of_forall (test : Char → Bool) {text : Text} (passes : ∀ c ∈ text, test c = true)
    (rejects : [';', '\r', '\n', '\t', '$', '/'].any test = false) : Tame text := by
  have absent : ∀ c ∈ [';', '\r', '\n', '\t', '$', '/'], c ∉ text := by
    intro c troublesome member
    exact List.any_eq_false.mp rejects c troublesome (passes c member)
  constructor
  case noTerminator => exact absent ';' (by simp)
  case noReturn => exact absent '\r' (by simp)
  case flat => exact flat_iff.mpr ⟨absent '\n' (by simp), absent '\t' (by simp)⟩
  case noReference => exact fun pair => absent '$' (by simp) (pair.subset (by simp))
  case noBlock => exact fun pair => absent '/' (by simp) (pair.subset (by simp))
  case unslashed => exact unslashed_of_not_mem (absent '/' (by simp))

/-- Tame texts may be joined by any character that does nothing itself. -/
theorem Tame.join {left right : Text} {c : Char} (tameLeft : Tame left) (tameRight : Tame right)
    (harmless : c ∉ [';', '\r', '\n', '\t', '$', '(', '/', '*']) : Tame (left ++ c :: right) := by
  simp only [List.mem_cons, List.not_mem_nil, or_false, not_or] at harmless
  rcases harmless with ⟨notEnd, notReturn, notFeed, notTab, notDollar, notParen, notSlash, notStar⟩
  constructor
  case noTerminator => simp [tameLeft.noTerminator, tameRight.noTerminator, Ne.symm notEnd]
  case noReturn => simp [tameLeft.noReturn, tameRight.noReturn, Ne.symm notReturn]
  case flat =>
    intro d member
    rcases List.mem_append.mp member with inLeft | inRight
    · exact tameLeft.flat d inLeft
    · rcases List.mem_cons.mp inRight with rfl | inRight
      · simp [isLayout, notFeed, notTab]
      · exact tameRight.flat d inRight
  case noReference =>
    rw [pair_infix_append_cons_iff notDollar notParen]
    rintro (pair | pair)
    · exact tameLeft.noReference pair
    · exact tameRight.noReference pair
  case noBlock =>
    rw [pair_infix_append_cons_iff notSlash notStar]
    rintro (pair | pair)
    · exact tameLeft.noBlock pair
    · exact tameRight.noBlock pair
  case unslashed =>
    exact (unslashed_append_cons notSlash).mpr ⟨tameLeft.unslashed, tameRight.unslashed.shield _⟩

/-- A text that opens no reference is its own expansion. -/
theorem expand_eq_self {lookup : Text → Option Text} {text : Text}
    (noReference : ¬['$', '('] <:+: text) : expand lookup text = text := by
  apply expand_eq_self_of_forall_none
  rintro name ⟨_, stands⟩
  have opened : ['$', '('] <:+: referenceTo name := (List.prefix_append _ _).isInfix
  exact absurd (opened.trans stands) noReference

/-! ## Literals -/

/-- A value as it is written in a script. -/
inductive Literal where
  /-- A whole number, written in digits. -/
  | number (n : Nat)
  /-- A text, written between single quotation marks. -/
  | quoted (body : Text)

/-- A text that may stand between single quotation marks: it holds no quotation mark
and nothing that a script gives a meaning to. -/
structure QuotableBody (body : Text) : Prop where
  /-- No single quotation mark. -/
  noSingle : '\x27' ∉ body
  /-- No double quotation mark. -/
  noDouble : '\x22' ∉ body
  /-- No terminator. -/
  noTerminator : ';' ∉ body
  /-- No carriage return. -/
  noReturn : '\r' ∉ body
  /-- No line feed. -/
  noFeed : '\n' ∉ body
  /-- No tab. -/
  noTab : '\t' ∉ body
  /-- No opened reference. -/
  noReference : ¬['$', '('] <:+: body
  /-- No opened block comment. -/
  noBlock : ¬['/', '*'] <:+: body
  /-- A double slash stands behind a character of the body that shields it. -/
  shielded : ∀ before, before ++ ['/', '/'] <+: body → ∃ c ∈ before.getLast?, shields c = true
  /-- No head of an assignment stands behind a blank. -/
  noHead : ∀ before c rest, body = before ++ c :: rest → isBlank c = true →
    ∀ name behind, ¬Assignment.Head rest name behind

/-- Every double slash of a text stands behind a character that shields it exactly
when no line comment begins in the text. -/
theorem shielded_iff_unslashed {text : Text} :
    (∀ before, before ++ ['/', '/'] <+: text → ∃ c ∈ before.getLast?, shields c = true) ↔
      Unslashed false text := by
  rw [unslashed_iff]
  apply forall_congr'
  intro before
  simp [SlashesAfter]

theorem quotableBody_iff {body : Text} :
    QuotableBody body ↔
      '\x27' ∉ body ∧ '\x22' ∉ body ∧ ';' ∉ body ∧ '\r' ∉ body ∧ '\n' ∉ body ∧ '\t' ∉ body ∧
        ¬['$', '('] <:+: body ∧ ¬['/', '*'] <:+: body ∧ Unslashed false body ∧
        Assignment.innerHeads body = 0 := by
  rw [← shielded_iff_unslashed, Assignment.innerHeads_eq_zero_iff]
  constructor
  · rintro ⟨noSingle, noDouble, noTerminator, noReturn, noFeed, noTab, noReference, noBlock,
      shielded, noHead⟩
    exact ⟨noSingle, noDouble, noTerminator, noReturn, noFeed, noTab, noReference, noBlock,
      shielded, noHead⟩
  · rintro ⟨noSingle, noDouble, noTerminator, noReturn, noFeed, noTab, noReference, noBlock,
      shielded, noHead⟩
    exact ⟨noSingle, noDouble, noTerminator, noReturn, noFeed, noTab, noReference, noBlock,
      shielded, noHead⟩

instance (body : Text) : Decidable (QuotableBody body) :=
  decidable_of_iff _ quotableBody_iff.symm

namespace Literal

/-- The text of a literal. -/
def text : Literal → Text
  | .number n => decimalDigits n
  | .quoted body => '\x27' :: (body ++ ['\x27'])

/-- The value that a literal stands for. -/
def value : Literal → Value
  | .number n => .integer n
  | .quoted body => .string body

/-- A literal that can be written: a number within the integers, or a text that may
be quoted. -/
def Valid : Literal → Prop
  | .number n => n ≤ maxInteger
  | .quoted body => QuotableBody body

instance : DecidablePred Valid
  | .number n => inferInstanceAs (Decidable (n ≤ maxInteger))
  | .quoted body => inferInstanceAs (Decidable (QuotableBody body))

end Literal

theorem isDigit_of_mem_decimalDigits {n : Nat} {c : Char} (member : c ∈ decimalDigits n) :
    isDigit c = true := by
  have digit := Nat.isDigit_of_mem_toDigits (by decide) (by decide) member
  simpa [isDigit, Char.isDigit, Char.le_def] using digit

theorem decimalDigits_ne_nil (n : Nat) : decimalDigits n ≠ [] :=
  Nat.toDigits_ne_nil

/-- Digits are neither blanks nor letters. -/
theorem front_of_isDigit {c : Char} (digit : isDigit c = true) :
    isBlank c = false ∧ isLetter (fold c) = false :=
  of_ascii (motive := fun c => isDigit c = true → isBlank c = false ∧ isLetter (fold c) = false)
    (by decide +kernel) (toNat_lt_of_isDigit digit) digit

theorem QuotableBody.tame {body : Text} (quotable : QuotableBody body) : Tame body where
  noTerminator := quotable.noTerminator
  noReturn := quotable.noReturn
  flat := flat_iff.mpr ⟨quotable.noFeed, quotable.noTab⟩
  noReference := quotable.noReference
  noBlock := quotable.noBlock
  unslashed := shielded_iff_unslashed.mp quotable.shielded

namespace Literal

theorem tame_text {literal : Literal} (valid : literal.Valid) : Tame literal.text := by
  cases literal with
  | number n => exact tame_of_forall isDigit (fun c => isDigit_of_mem_decimalDigits) (by decide)
  | quoted body =>
      have closed : Tame (body ++ ['\x27']) :=
        (QuotableBody.tame valid).join tame_nil (by decide)
      exact tame_nil.join closed (by decide)

/-- A literal begins with a character that is neither blank nor a letter. -/
theorem text_front (literal : Literal) :
    ∃ c rest, literal.text = c :: rest ∧ isBlank c = false ∧ isLetter (fold c) = false := by
  cases literal with
  | number n =>
      cases digits : decimalDigits n with
      | nil => exact absurd digits (decimalDigits_ne_nil n)
      | cons c rest =>
          have digit : isDigit c = true := isDigit_of_mem_decimalDigits (n := n) (by simp [digits])
          exact ⟨c, rest, digits, front_of_isDigit digit⟩
  | quoted body => exact ⟨'\x27', body ++ ['\x27'], rfl, by decide, by decide⟩

/-- No head of an assignment stands in a literal. -/
theorem innerHeads_text {literal : Literal} (valid : literal.Valid) :
    Assignment.innerHeads literal.text = 0 := by
  cases literal with
  | number n =>
      have shown : ∀ c ∈ decimalDigits n, isBlank c = false := fun c member =>
        (front_of_isDigit (isDigit_of_mem_decimalDigits member)).1
      rw [text, ← List.append_nil (decimalDigits n), Assignment.innerHeads_append_of_shown shown]
      rfl
  | quoted body =>
      have none := Assignment.innerHeads_eq_zero_iff.mpr (QuotableBody.noHead valid)
      have shown : ∀ c ∈ ['\x27'], isBlank c = false := List.forall_mem_singleton.mpr rfl
      rw [text, ← List.singleton_append, Assignment.innerHeads_append_of_shown shown]
      exact Assignment.innerHeads_append_mark (by decide) (by decide) (by decide) (by decide) none

/-! ## Literals are coerced to their values -/

theorem dropWhile_eq_self {test : Char → Bool} {text : Text}
    (front : ∀ c ∈ text.head?, test c = false) : text.dropWhile test = text := by
  cases text with
  | nil => rfl
  | cons c text => simp [front c (by simp)]

/-- A text that neither begins nor ends with a blank is trimmed already. -/
theorem trim_eq_self {text : Text} (front : ∀ c ∈ text.head?, isBlank c = false)
    (back : ∀ c ∈ text.getLast?, isBlank c = false) : trim text = text := by
  rw [trim, strip, dropWhile_eq_self front, dropWhile_eq_self, List.reverse_reverse]
  rwa [List.head?_reverse]

theorem trim_decimalDigits (n : Nat) : trim (decimalDigits n) = decimalDigits n := by
  apply trim_eq_self
  · intro c atFront
    exact (front_of_isDigit (isDigit_of_mem_decimalDigits (List.mem_of_mem_head? atFront))).1
  · intro c atBack
    exact (front_of_isDigit (isDigit_of_mem_decimalDigits (List.mem_of_mem_getLast? atBack))).1

theorem isDigits_decimalDigits (n : Nat) : isDigits (decimalDigits n) = true := by
  simp only [isDigits, Bool.and_eq_true, Bool.not_eq_true', List.isEmpty_eq_false_iff,
    List.all_eq_true]
  exact ⟨decimalDigits_ne_nil n, fun c => isDigit_of_mem_decimalDigits⟩

/-- Quotation marks are taken off a text that holds none. -/
theorem unquoted?_quoted {body : Text} (noSingle : '\x27' ∉ body) (noDouble : '\x22' ∉ body) :
    Value.unquoted? ('\x27' :: (body ++ ['\x27'])) = some body := by
  have noMark : body.any Value.isQuote = false := by
    rw [List.any_eq_false]
    intro c member quote
    simp only [Value.isQuote, Bool.or_eq_true, beq_iff_eq] at quote
    rcases quote with rfl | rfl
    · exact noSingle member
    · exact noDouble member
  cases body with
  | nil => rfl
  | cons c body =>
      have same : c :: (body ++ ['\x27']) = (c :: body) ++ ['\x27'] := rfl
      simp only [List.cons_append, Value.unquoted?]
      simp only [same, List.dropLast_concat, List.getLast_append_singleton, noMark]
      rfl

/-- A written literal is coerced to the value it stands for. -/
theorem coerce_text {literal : Literal} (valid : literal.Valid) :
    Value.coerce literal.text = literal.value := by
  cases literal with
  | number n =>
      rw [Value.coerce, text, trim_decimalDigits, Value.ofTrimmed,
        if_pos (isDigits_decimalDigits n), digitsValue_decimalDigits]
      exact if_pos valid
  | quoted body =>
      have trimmed : trim (text (.quoted body)) = '\x27' :: (body ++ ['\x27']) := by
        apply trim_eq_self
        · intro c atFront
          obtain rfl := Option.some.inj atFront
          rfl
        · intro c atBack
          rw [text, ← List.cons_append, List.getLast?_concat] at atBack
          obtain rfl := Option.some.inj atBack
          rfl
      have notDigits : isDigits ('\x27' :: (body ++ ['\x27'])) = false := rfl
      have notDecimal : isDecimalForm ('\x27' :: (body ++ ['\x27'])) = false := rfl
      rw [Value.coerce, trimmed, Value.ofTrimmed, notDigits, notDecimal,
        unquoted?_quoted (QuotableBody.noSingle valid) (QuotableBody.noDouble valid)]
      rfl

end Literal

end LoadScript
