import LoadScript.Proofs.Head
import LoadScript.Proofs.PatternFits
import Mathlib.Data.Set.Card

/-!
# The search for heads

The heads of a statement are counted as a search for a pattern finds them, from left to right
and without overlap.  Heads never overlap anyway: behind each blank in a head stands another
blank, the name, or the equals sign, and none of these begins a head.  The search therefore
misses no head, and the number it yields is the number of places where a head begins.
-/

namespace LoadScript

open Text Pattern

/-! ## Characters without regard to case -/

namespace Text

theorem toLower_of_le {c : Char} (beyond : 0x80 ≤ c.toNat) : c.toLower = c := by
  apply dif_neg
  rintro ⟨_, upper⟩
  have bound : c.toNat ≤ 'Z'.toNat := upper
  exact absurd (Nat.le_trans beyond bound) (by decide)

theorem toUpper_of_le {c : Char} (beyond : 0x80 ≤ c.toNat) : c.toUpper = c := by
  apply dif_neg
  rintro ⟨_, lower⟩
  have bound : c.toNat ≤ 'z'.toNat := lower
  exact absurd (Nat.le_trans beyond bound) (by decide)

/-- What holds of the ASCII characters, of the two letters that fold to ASCII, and of the
characters without other case holds of every character. -/
theorem fold_cases {motive : Char → Prop} (ascii : ∀ point < 0x80, motive (Char.ofNat point))
    (atLongS : motive longS) (atKelvin : motive kelvinSign)
    (other : ∀ c, 0x80 ≤ c.toNat → fold c = c → caseVariants c = [c, c, c] → motive c)
    (c : Char) : motive c := by
  by_cases isAscii : c.toNat < 0x80
  · exact of_ascii ascii isAscii
  · by_cases isLongS : c = longS
    · exact isLongS ▸ atLongS
    · by_cases isKelvin : c = kelvinSign
      · exact isKelvin ▸ atKelvin
      · have beyond : 0x80 ≤ c.toNat := Nat.le_of_not_lt isAscii
        have same : fold c = c := by
          rw [fold, if_neg isLongS, if_neg isKelvin, toLower_of_le beyond]
        have notS : c ≠ 's' := by
          rintro rfl
          exact isAscii (by decide)
        have notK : c ≠ 'k' := by
          rintro rfl
          exact isAscii (by decide)
        apply other c beyond same
        simp only [caseVariants, same, toUpper_of_le beyond, notS, notK, ↓reduceIte]

end Text

/-- How keywords are searched. -/
def Pattern.Flags.ignoringCase : Flags :=
  { caseless := true }

/-- Only letter case decides which characters count as a given one. -/
theorem Pattern.variants_of_caseless {flags : Flags} (caseless : flags.caseless = true) :
    variants flags = variants .ignoringCase := by
  funext c
  rw [variants, variants, if_pos caseless]
  rfl

theorem Pattern.inClass_of_caseless {flags : Flags} (caseless : flags.caseless = true) :
    inClass flags = inClass .ignoringCase := by
  funext items c
  rw [inClass, inClass, variants_of_caseless caseless]

namespace Assignment

theorem inClass_blank (c : Char) : inClass .ignoringCase [.blank false] c = isBlank c := by
  apply fold_cases (motive := fun c => inClass .ignoringCase [.blank false] c = isBlank c)
  · decide +kernel
  · decide +kernel
  · decide +kernel
  · intro c _ _ variants
    simp [inClass, Pattern.variants, Flags.ignoringCase, variants, ClassItem.holds]

theorem inClass_letter (c : Char) :
    inClass .ignoringCase [.range 'A' 'Z', .range 'a' 'z'] c = isLetter (fold c) := by
  apply fold_cases (motive := fun c =>
    inClass .ignoringCase [.range 'A' 'Z', .range 'a' 'z'] c = isLetter (fold c))
  · decide +kernel
  · decide +kernel
  · decide +kernel
  · intro c _ same variants
    simp [inClass, Pattern.variants, Flags.ignoringCase, variants, ClassItem.holds, same, isLetter]

theorem inClass_nameChar (c : Char) :
    inClass .ignoringCase [.word false, .range '.' '.'] c = isNameChar c := by
  apply fold_cases (motive := fun c =>
    inClass .ignoringCase [.word false, .range '.' '.'] c = isNameChar c)
  · decide +kernel
  · decide +kernel
  · decide +kernel
  · intro c _ _ variants
    have point : (decide ('.' ≤ c) && decide (c ≤ '.')) = (c == '.') := by
      rw [Bool.eq_iff_iff, Bool.and_eq_true, decide_eq_true_iff, decide_eq_true_iff, beq_iff_eq]
      constructor
      · exact fun bounds => Char.le_antisymm bounds.2 bounds.1
      · rintro rfl
        exact ⟨Char.le_refl _, Char.le_refl _⟩
    simp [inClass, Pattern.variants, Flags.ignoringCase, variants, ClassItem.holds, isNameChar,
      point]

/-- The letters of the keywords and the equals sign, with the characters that they are read
from. -/
def keywordLetters : List (Char × Char) :=
  [('S', 's'), ('L', 'l'), ('E', 'e'), ('T', 't'), ('=', '=')]

theorem contains_variants {letter : Char × Char} (listed : letter ∈ keywordLetters) (c : Char) :
    (variants .ignoringCase c).contains letter.1 = (fold c == letter.2) := by
  apply fold_cases (motive := fun c => ∀ letter ∈ keywordLetters,
    (variants .ignoringCase c).contains letter.1 = (fold c == letter.2)) ?_ ?_ ?_ ?_ c letter listed
  · decide +kernel
  · decide +kernel
  · decide +kernel
  · intro c beyond same variants letter listed
    have low : letter.1.toNat < 0x80 ∧ letter.2.toNat < 0x80 := by
      revert letter
      decide
    have first : letter.1 ≠ c := by
      rintro rfl
      omega
    have second : c ≠ letter.2 := by
      rintro rfl
      omega
    simp [Pattern.variants, Flags.ignoringCase, variants, same, first, second]

/-! ## The pattern of heads -/

/-- The pattern of heads: the front of the text or a blank, a keyword, blanks, a name, blanks,
and an equals sign. -/
def headPattern : Expr :=
  .seq (.alt (.place .lineStart) (.oneOf false [.blank false]))
    (.seq (.alt (.seq (.literal 'S') (.seq (.literal 'E') (.literal 'T')))
        (.seq (.literal 'L') (.seq (.literal 'E') (.literal 'T'))))
      (.seq (.repeated (.oneOf false [.blank false]) 1 none true)
        (.seq (.oneOf false [.range 'A' 'Z', .range 'a' 'z'])
          (.seq (.repeated (.oneOf false [.word false, .range '.' '.']) 0 none true)
            (.seq (.repeated (.oneOf false [.blank false]) 1 none true) (.literal '='))))))

theorem ofText_headPattern :
    Pattern.ofText "(?:^|\\s)(?:SET|LET)\\s+[A-Za-z][\\w.]*\\s+=".toList = .ok headPattern :=
  rfl

/-- What stands before a head: the front of the text and nothing else, or one blank. -/
def Lead (before lead : Text) : Prop :=
  (before = [] ∧ lead = []) ∨ ∃ c, lead = [c] ∧ isBlank c = true

/-- The text of a head up to its equals sign. -/
def HeadText (span name : Text) : Prop :=
  ∃ verb gap gap', span = verb ++ (gap ++ (name ++ (gap' ++ ['=']))) ∧
    Verb verb ∧ Gap gap ∧ Target name ∧ Gap gap'

theorem head_iff_headText {text name rest : Text} :
    Head text name rest ↔ ∃ span, HeadText span name ∧ text = span ++ rest := by
  constructor
  · rintro ⟨verb, gap, gap', rfl, parts⟩
    exact ⟨_, ⟨verb, gap, gap', rfl, parts⟩, by simp⟩
  · rintro ⟨_, ⟨verb, gap, gap', rfl, parts⟩, rfl⟩
    exact ⟨verb, gap, gap', by simp, parts⟩

variable {flags : Flags} {before piece after : Text}

theorem fits_lineStart_iff (wholeText : flags.multiLine = false) :
    Fits flags (.place .lineStart) before piece after ↔ before = [] ∧ piece = [] := by
  have atFront : (Cursor.between before after).isAt flags .lineStart = true ↔ before = [] := by
    simp [Cursor.isAt, Cursor.between, wholeText]
  rw [Fits, atFront, and_comm]

section Caseless

variable (caseless : flags.caseless = true)

include caseless

theorem fits_blank_iff :
    Fits flags (.oneOf false [.blank false]) before piece after ↔
      ∃ c, piece = [c] ∧ isBlank c = true := by
  simp [Fits, inClass_of_caseless caseless, inClass_blank]

theorem fits_blanks_iff :
    Fits flags (.repeated (.oneOf false [.blank false]) 1 none true) before piece after ↔
      Gap piece := by
  rw [fits_repeated_iff fun _ _ _ => fits_blank_iff caseless, Gap, Nat.one_le_iff_ne_zero, ne_eq,
    List.length_eq_zero_iff]

theorem fits_initial_iff :
    Fits flags (.oneOf false [.range 'A' 'Z', .range 'a' 'z']) before piece after ↔
      ∃ c, piece = [c] ∧ isLetter (fold c) = true := by
  simp [Fits, inClass_of_caseless caseless, inClass_letter]

theorem fits_nameChars_iff :
    Fits flags (.repeated (.oneOf false [.word false, .range '.' '.']) 0 none true) before
      piece after ↔ ∀ c ∈ piece, isNameChar c = true := by
  have single : ∀ before piece after : Text,
      Fits flags (.oneOf false [.word false, .range '.' '.']) before piece after ↔
        ∃ c, piece = [c] ∧ isNameChar c = true := by
    simp [Fits, inClass_of_caseless caseless, inClass_nameChar]
  rw [fits_repeated_iff single]
  simp

theorem fits_letter_iff (letter : Char × Char) (listed : letter ∈ keywordLetters) :
    Fits flags (.literal letter.1) before piece after ↔
      ∃ c, piece = [c] ∧ fold c = letter.2 := by
  simp only [Fits, variants_of_caseless caseless, contains_variants listed, beq_iff_eq]

theorem fits_keyword_iff (first second third : Char × Char) (listed : first ∈ keywordLetters)
    (listed' : second ∈ keywordLetters) (listed'' : third ∈ keywordLetters) :
    Fits flags (.seq (.literal first.1) (.seq (.literal second.1) (.literal third.1)))
      before piece after ↔ piece.map fold = [first.2, second.2, third.2] := by
  simp only [fits_seq_iff, fits_letter_iff caseless first listed,
    fits_letter_iff caseless second listed', fits_letter_iff caseless third listed'']
  constructor
  · rintro ⟨_, _, rfl, ⟨c, rfl, isFirst⟩, _, _, rfl, ⟨d, rfl, isSecond⟩, e, rfl, isThird⟩
    simp [isFirst, isSecond, isThird]
  · intro spelled
    simp only [List.map_eq_cons_iff, List.map_eq_nil_iff] at spelled
    rcases spelled with ⟨c, _, rfl, isFirst, d, _, rfl, isSecond, e, _, rfl, isThird, rfl⟩
    exact ⟨[c], [d, e], rfl, ⟨c, rfl, isFirst⟩, [d], [e], rfl, ⟨d, rfl, isSecond⟩, e, rfl, isThird⟩

theorem fits_verb_iff :
    Fits flags (.alt (.seq (.literal 'S') (.seq (.literal 'E') (.literal 'T')))
      (.seq (.literal 'L') (.seq (.literal 'E') (.literal 'T')))) before piece after ↔
        Verb piece := by
  apply or_congr
  · exact fits_keyword_iff caseless ('S', 's') ('E', 'e') ('T', 't') (by decide) (by decide)
      (by decide)
  · exact fits_keyword_iff caseless ('L', 'l') ('E', 'e') ('T', 't') (by decide) (by decide)
      (by decide)

theorem fits_equals_iff : Fits flags (.literal '=') before piece after ↔ piece = ['='] := by
  have foldsToEquals : ∀ c, fold c = '=' → c = '=' := by
    apply fold_cases
    · decide +kernel
    · decide
    · decide
    · exact fun c _ same _ folded => same.symm.trans folded
  rw [fits_letter_iff caseless ('=', '=') (by decide)]
  constructor
  · rintro ⟨c, rfl, folded⟩
    rw [foldsToEquals c folded]
  · rintro rfl
    exact ⟨'=', rfl, by decide⟩

end Caseless

theorem fits_lead_iff :
    Fits .ignoringCase (.alt (.place .lineStart) (.oneOf false [.blank false])) before piece after ↔
      Lead before piece := by
  apply or_congr
  · exact fits_lineStart_iff rfl
  · exact fits_blank_iff rfl

/-- The pattern fits what stands before a head together with the head. -/
theorem fits_headPattern_iff :
    Fits .ignoringCase headPattern before piece after ↔
      ∃ lead span name, piece = lead ++ span ∧ Lead before lead ∧ HeadText span name := by
  have caseless : Flags.ignoringCase.caseless = true := rfl
  simp only [headPattern, fits_seq_iff, fits_lead_iff, fits_verb_iff caseless,
    fits_blanks_iff caseless, fits_initial_iff caseless, fits_nameChars_iff caseless,
    fits_equals_iff caseless]
  constructor
  · rintro ⟨lead, _, rfl, leads, verb, _, rfl, spelled, gap, _, rfl, blank, _, _, rfl,
      ⟨first, rfl, isLetter⟩, rest, _, rfl, inName, gap', _, rfl, blank', rfl⟩
    exact ⟨lead, _, first :: rest, rfl, leads, verb, gap, gap', rfl, spelled, blank,
      ⟨isLetter, inName⟩, blank'⟩
  · rintro ⟨lead, _, name, rfl, leads, verb, gap, gap', rfl, spelled, blank, target, blank'⟩
    cases name with
    | nil => exact absurd target id
    | cons first rest =>
        exact ⟨lead, _, rfl, leads, verb, _, rfl, spelled, gap, _, rfl, blank, [first], _, rfl,
          ⟨first, rfl, target.1⟩, rest, _, rfl, target.2, gap', _, rfl, blank', rfl⟩

/-! ## No head begins in a head -/

/-- Behind no blank of the span, with `rest` following the span, stands a head. -/
def Headless (span rest : Text) : Prop :=
  ∀ left c right, span = left ++ c :: right → isBlank c = true → head? (right ++ rest) = none

theorem Headless.append {span span' rest : Text} (first : Headless span (span' ++ rest))
    (second : Headless span' rest) : Headless (span ++ span') rest := by
  intro left c right split blank
  rcases List.append_eq_append_iff.mp split with ⟨inner, rfl, inside⟩ | ⟨inner, rfl, inside⟩
  · exact second inner c right inside blank
  · cases inner with
    | nil => exact second [] c right inside.symm blank
    | cons d inner =>
        rw [List.cons_append, List.cons.injEq] at inside
        rcases inside with ⟨rfl, rfl⟩
        rw [List.append_assoc]
        exact first left c inner rfl blank

theorem headless_of_shown {span rest : Text} (shown : ∀ c ∈ span, isBlank c = false) :
    Headless span rest := by
  rintro left c right rfl blank
  rw [shown c (by simp)] at blank
  contradiction

theorem headless_of_blank {span rest : Text} (blank : ∀ c ∈ span, isBlank c = true)
    (none : head? rest = none) : Headless span rest := by
  rintro left c right rfl _
  cases right with
  | nil => exact none
  | cons d right => exact head?_eq_none_of_front (isLetter_fold_of_isBlank (blank d (by simp)))

/-- No head begins behind a blank of a head. -/
theorem HeadText.headless {span name : Text} (head : HeadText span name) (rest : Text) :
    Headless span rest := by
  rcases head with ⟨verb, gap, gap', rfl, spelled, blank, target, blank'⟩
  have shownName : ∀ c ∈ name, isBlank c = false := fun c => target.isBlank_eq_false
  have atName : head? ((name ++ (gap' ++ ['='])) ++ rest) = none := by
    rw [List.append_assoc, List.append_assoc]
    exact head?_word_gap_equals shownName blank' rest
  have atEquals : head? (['='] ++ rest) = none := head?_eq_none_of_front (by decide)
  apply Headless.append
  · exact headless_of_shown fun c => spelled.isBlank_eq_false
  · apply Headless.append
    · exact headless_of_blank blank.2 atName
    · apply Headless.append
      · exact headless_of_shown shownName
      · apply Headless.append
        · exact headless_of_blank blank'.2 atEquals
        · exact headless_of_shown (List.forall_mem_singleton.mpr rfl)

theorem Headless.innerHeads_append {span rest : Text} (headless : Headless span rest) :
    innerHeads (span ++ rest) = innerHeads rest := by
  induction span with
  | nil => rfl
  | cons c span ih =>
      have behind : Headless span rest := fun left d right split =>
        headless (c :: left) d right (congrArg (c :: ·) split)
      rw [List.cons_append, innerHeads, ih behind]
      by_cases blank : isBlank c = true
      · simp [headless [] c span rfl blank]
      · simp [blank]

/-! ## The number of heads -/

theorem HeadText.head?_append {span name : Text} (head : HeadText span name) (rest : Text) :
    head? (span ++ rest) = some (name, rest) :=
  head?_eq_some_iff.mpr (head_iff_headText.mpr ⟨span, head, rfl⟩)

theorem exists_headText_of_isSome {text : Text} (found : (head? text).isSome = true) :
    ∃ span name rest, HeadText span name ∧ text = span ++ rest := by
  rcases Option.isSome_iff_exists.mp found with ⟨⟨name, rest⟩, read⟩
  rcases head_iff_headText.mp (head?_eq_some_iff.mp read) with ⟨span, head, split⟩
  exact ⟨span, name, rest, head, split⟩

/-- The number of heads behind a place, where the front of the text counts as a blank. -/
def headsBehind (before rest : Text) : Nat :=
  (if before = [] ∧ (head? rest).isSome = true then 1 else 0) + innerHeads rest

theorem headsBehind_of_ne_nil {before : Text} (inside : before ≠ []) (rest : Text) :
    headsBehind before rest = innerHeads rest := by
  simp [headsBehind, inside]

theorem HeadText.headsBehind_eq {before lead span name : Text} (leads : Lead before lead)
    (head : HeadText span name) (after : Text) :
    headsBehind before (lead ++ span ++ after) = 1 + innerHeads after := by
  have behind := (head.headless after).innerHeads_append
  have found := head.head?_append after
  rcases leads with ⟨rfl, rfl⟩ | ⟨c, rfl, blank⟩
  · simp [headsBehind, found, behind]
  · have atBlank : head? (c :: (span ++ after)) = none :=
      head?_eq_none_of_front (isLetter_fold_of_isBlank blank)
    simp [headsBehind, innerHeads, atBlank, blank, found, behind]

/-- A search for the pattern of heads finds as many parts as there are heads. -/
theorem length_findAll_headPattern (text : Text) :
    (findAll .ignoringCase headPattern text).length = headCount text := by
  have whole : headCount text = headsBehind [] text := by
    simp [headCount, headsBehind]
  rw [whole]
  apply length_findAll
  case atEnd =>
    intro before
    have none : head? [] = none := rfl
    simp [headsBehind, innerHeads, none]
  case overFit =>
    intro before piece after fit
    rcases fits_headPattern_iff.mp fit with ⟨lead, span, name, rfl, leads, head⟩
    have nonempty : lead ++ span ≠ [] := by
      rcases head with ⟨verb, gap, gap', rfl, _⟩
      simp
    have inside : before ++ (lead ++ span) ≠ [] := by
      simp only [ne_eq, List.append_eq_nil_iff] at nonempty ⊢
      exact fun both => nonempty both.2
    rw [headsBehind_of_ne_nil inside]
    exact ⟨nonempty, head.headsBehind_eq leads after⟩
  case overChar =>
    intro before c rest unfit
    have notAtFront : ¬(before = [] ∧ (head? (c :: rest)).isSome = true) := by
      rintro ⟨rfl, found⟩
      rcases exists_headText_of_isSome found with ⟨span, name, behind, head, split⟩
      exact unfit span behind split
        (fits_headPattern_iff.mpr ⟨[], span, name, rfl, .inl ⟨rfl, rfl⟩, head⟩)
    have notBehindBlank : ¬((isBlank c && (head? rest).isSome) = true) := by
      intro both
      rcases Bool.and_eq_true_iff.mp both with ⟨blank, found⟩
      rcases exists_headText_of_isSome found with ⟨span, name, behind, head, rfl⟩
      exact unfit (c :: span) behind rfl
        (fits_headPattern_iff.mpr ⟨[c], span, name, rfl, .inr ⟨c, rfl, blank⟩, head⟩)
    have inside : before ++ [c] ≠ [] := by simp
    rw [headsBehind_of_ne_nil inside, headsBehind, if_neg notAtFront, innerHeads,
      if_neg notBehindBlank, Nat.zero_add, Nat.zero_add]

/-! ## The places of heads -/

/-- A head, with the blank before it unless it stands at the front, takes the characters of the
text from `start` up to `stop`. -/
def HeadAt (text : Text) (start stop : Nat) : Prop :=
  ∃ before lead front name rest, text = before ++ (lead ++ front) ∧ Lead before lead ∧
    Head front name rest ∧ before.length = start ∧ stop + rest.length = text.length

/-- Heads do not overlap. -/
theorem HeadAt.disjoint {text : Text} {start stop start' stop' : Nat}
    (first : HeadAt text start stop) (second : HeadAt text start' stop')
    (order : start < start') : stop ≤ start' := by
  rcases first with ⟨before, lead, front, name, rest, rfl, leads, head, rfl, ends⟩
  rcases second with ⟨before', lead', front', name', rest', split, leads', head', rfl, _⟩
  rcases head_iff_headText.mp head with ⟨span, headText, rfl⟩
  -- Only the first head can stand at the front, so a blank leads the second one.
  obtain ⟨c, rfl, blank⟩ : ∃ c, lead' = [c] ∧ isBlank c = true := by
    rcases leads' with ⟨rfl, _⟩ | led
    · simp at order
    · exact led
  have shortLead : lead.length ≤ 1 := by
    rcases leads with ⟨_, rfl⟩ | ⟨d, rfl, _⟩
    · exact Nat.zero_le 1
    · exact Nat.le_refl 1
  by_contra overlap
  -- The blank then lies in the first head, and no head follows it there.
  rw [← List.append_assoc] at split ends
  rw [List.length_append, List.length_append, List.length_append] at ends
  have behindLead : (before ++ lead) <+: before' := by
    apply List.prefix_of_prefix_length_le ⟨_, rfl⟩ ⟨_, split.symm⟩
    rw [List.length_append]
    omega
  rcases behindLead with ⟨left, rfl⟩
  rw [List.append_assoc _ left] at split
  have inHead := List.append_cancel_left split
  rw [List.length_append, List.length_append] at overlap
  have within : left ++ [c] <+: span := by
    have atFront : left ++ [c] <+: span ++ rest := ⟨front', by rw [inHead, List.append_assoc]⟩
    apply List.prefix_of_prefix_length_le atFront (List.prefix_append span rest)
    rw [List.length_append, List.length_singleton]
    omega
  rcases within with ⟨right, rfl⟩
  simp only [List.append_assoc, List.append_cancel_left_eq] at inHead
  have none := headText.headless rest left c right (by simp) blank
  rw [inHead, head?_eq_some_iff.mpr head'] at none
  contradiction

/-- A head behind a blank begins at a place of the text. -/
def InnerHeadAt (text : Text) (start : Nat) : Prop :=
  ∃ c rest, text.drop start = c :: rest ∧ isBlank c = true ∧ (head? rest).isSome = true

theorem innerHeadAt_zero_iff {c : Char} {rest : Text} :
    InnerHeadAt (c :: rest) 0 ↔ (isBlank c && (head? rest).isSome) = true := by
  simp [InnerHeadAt]

theorem innerHeadAt_succ_iff {c : Char} {rest : Text} {start : Nat} :
    InnerHeadAt (c :: rest) (start + 1) ↔ InnerHeadAt rest start :=
  Iff.rfl

/-- The blanks before heads, counted by their places. -/
theorem innerHeads_eq_ncard (text : Text) :
    {start | InnerHeadAt text start}.Finite ∧
      innerHeads text = {start | InnerHeadAt text start}.ncard := by
  induction text with
  | nil => simp [InnerHeadAt, innerHeads]
  | cons c rest ih =>
      rcases ih with ⟨finite, counted⟩
      have shifted : (Nat.succ '' {start | InnerHeadAt rest start}).ncard = innerHeads rest := by
        rw [Set.ncard_image_of_injective _ Nat.succ_injective, counted]
      rw [innerHeads]
      by_cases atFront : (isBlank c && (head? rest).isSome) = true
      · have places : {start | InnerHeadAt (c :: rest) start} =
            insert 0 (Nat.succ '' {start | InnerHeadAt rest start}) := by
          ext start
          cases start with
          | zero => simpa using innerHeadAt_zero_iff.mpr atFront
          | succ start => simp [innerHeadAt_succ_iff]
        rw [places, Set.ncard_insert_of_notMem (by simp) (finite.image _), shifted, if_pos atFront,
          Nat.add_comm]
        exact ⟨(finite.image _).insert 0, rfl⟩
      · have places : {start | InnerHeadAt (c :: rest) start} =
            Nat.succ '' {start | InnerHeadAt rest start} := by
          ext start
          cases start with
          | zero => simpa using fun found => atFront (innerHeadAt_zero_iff.mp found)
          | succ start => simp [innerHeadAt_succ_iff]
        rw [places, shifted, if_neg atFront, Nat.zero_add]
        exact ⟨finite.image _, rfl⟩

/-- A head begins at the front of the text or behind a blank. -/
theorem exists_headAt_iff {text : Text} {start : Nat} :
    (∃ stop, HeadAt text start stop) ↔
      (start = 0 ∧ (head? text).isSome = true) ∨ InnerHeadAt text start := by
  constructor
  · rintro ⟨stop, before, lead, front, name, rest, rfl, leads, head, rfl, _⟩
    have found : (head? front).isSome = true := by rw [head?_eq_some_iff.mpr head]; rfl
    rcases leads with ⟨rfl, rfl⟩ | ⟨c, rfl, blank⟩
    · exact .inl ⟨rfl, found⟩
    · exact .inr ⟨c, front, List.drop_left, blank, found⟩
  · have stops : ∀ before lead front : Text, Lead before lead → (head? front).isSome = true →
        ∃ stop, HeadAt (before ++ (lead ++ front)) before.length stop := by
      intro before lead front leads found
      rcases exists_headText_of_isSome found with ⟨span, name, rest, head, rfl⟩
      refine ⟨before.length + (lead.length + span.length), before, lead, span ++ rest, name, rest,
        rfl, leads, head_iff_headText.mpr ⟨span, head, rfl⟩, rfl, ?_⟩
      simp only [List.length_append]
      omega
    rintro (⟨rfl, found⟩ | ⟨c, rest, split, blank, found⟩)
    · exact stops [] [] text (.inl ⟨rfl, rfl⟩) found
    · have inside : start < text.length := by
        by_contra past
        rw [List.drop_eq_nil_of_le (Nat.le_of_not_lt past)] at split
        contradiction
      have whole : text = text.take start ++ ([c] ++ rest) := by
        rw [List.singleton_append, ← split, List.take_append_drop]
      have led := stops (text.take start) [c] rest (.inr ⟨c, rfl, blank⟩) found
      rwa [← whole, List.length_take, Nat.min_eq_left (Nat.le_of_lt inside)] at led

/-- The heads of a text are as many as the places where one begins. -/
theorem headCount_eq_ncard (text : Text) :
    headCount text = {start | ∃ stop, HeadAt text start stop}.ncard := by
  rcases innerHeads_eq_ncard text with ⟨finite, counted⟩
  simp only [exists_headAt_iff]
  rw [headCount]
  by_cases atFront : (head? text).isSome = true
  · have notInner : 0 ∉ {start | InnerHeadAt text start} := by
      rintro ⟨c, rest, rfl, blank, _⟩
      rw [head?_eq_none_of_front (isLetter_fold_of_isBlank blank)] at atFront
      contradiction
    have places : {start | (start = 0 ∧ (head? text).isSome = true) ∨ InnerHeadAt text start} =
        insert 0 {start | InnerHeadAt text start} := by
      ext start
      simp [atFront]
    rw [places, Set.ncard_insert_of_notMem notInner finite, ← counted, if_pos atFront,
      Nat.add_comm]
  · have places : {start | (start = 0 ∧ (head? text).isSome = true) ∨ InnerHeadAt text start} =
        {start | InnerHeadAt text start} := by
      ext start
      simp [atFront]
    rw [places, ← counted, if_neg atFront, Nat.zero_add]

/-- The place of a head tells where it ends. -/
theorem HeadAt.stop_unique {text : Text} {start stop stop' : Nat} (first : HeadAt text start stop)
    (second : HeadAt text start stop') : stop = stop' := by
  rcases first with ⟨before, lead, front, name, rest, rfl, leads, head, rfl, ends⟩
  rcases second with ⟨before', lead', front', name', rest', split, leads', head', same, ends'⟩
  rcases List.append_inj split same.symm with ⟨rfl, behind⟩
  have notBlank : ∀ c text name rest, isBlank c = true → ¬Head (c :: text) name rest :=
    fun c text name rest blank =>
      head?_eq_none_iff.mp (head?_eq_none_of_front (isLetter_fold_of_isBlank blank)) name rest
  have sameFront : front = front' := by
    rcases leads with ⟨_, rfl⟩ | ⟨c, rfl, blank⟩
    · rcases leads' with ⟨_, rfl⟩ | ⟨d, rfl, blank'⟩
      · exact behind
      · obtain rfl : front = d :: front' := behind
        exact absurd head (notBlank d front' name rest blank')
    · rcases leads' with ⟨_, rfl⟩ | ⟨d, rfl, _⟩
      · obtain rfl : c :: front = front' := behind
        exact absurd head' (notBlank c front name' rest' blank)
      · exact (List.cons.inj behind).2
  rw [sameFront, ← head?_eq_some_iff] at head
  rw [← head?_eq_some_iff] at head'
  obtain rfl := (Prod.mk.inj (Option.some.inj (head.symm.trans head'))).2
  omega

end Assignment

end LoadScript
