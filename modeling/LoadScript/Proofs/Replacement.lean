import LoadScript.Proofs.References

/-!
# Expansion as replacement at places

A reference that leads somewhere stands at certain places of a text, and these places are
fixed by the text alone, before anything is replaced.  No two references overlap, so each
character of the text has its own part in the expansion: the first character of a reference
becomes the text that the name stands for, the other characters of the reference become
nothing, and any other character stays.

The main statement, `expand_simultaneous`, says that the expansion is these parts in their
order.  It leaves no room for reading the inserted texts again.
-/

namespace LoadScript

/-- A reference to `name`, which stands for `value`, begins behind the first `start` characters
of the text. -/
structure ReferenceAt (lookup : Text → Option Text) (text : Text) (start : Nat)
    (name value : Text) : Prop where
  /-- The name is valid. -/
  valid : isName name = true
  /-- The name leads somewhere. -/
  leads : lookup name = some value
  /-- The reference stands there. -/
  stands : '$' :: '(' :: (name ++ [')']) <+: text.drop start

/-- The number of characters of a reference. -/
def referenceLength (name : Text) : Nat :=
  name.length + 3

theorem length_referenceTo (name : Text) : (referenceTo name).length = referenceLength name := by
  simp [referenceTo, referenceLength]

namespace ReferenceAt

variable {lookup : Text → Option Text} {text rest name name' value value' : Text}
  {start start' : Nat} {c : Char}

/-- What stands in front of a text shifts its references. -/
theorem shift_iff (front : Text) :
    ReferenceAt lookup (front ++ rest) (front.length + start) name value ↔
      ReferenceAt lookup rest start name value := by
  have same : (front ++ rest).drop (front.length + start) = rest.drop start := by
    rw [← List.drop_drop, List.drop_left]
  constructor
  · rintro ⟨valid, leads, stands⟩
    exact ⟨valid, leads, same ▸ stands⟩
  · rintro ⟨valid, leads, stands⟩
    exact ⟨valid, leads, same.symm ▸ stands⟩

theorem succ_iff :
    ReferenceAt lookup (c :: rest) (start + 1) name value ↔
      ReferenceAt lookup rest start name value := by
  rw [Nat.add_comm]
  exact shift_iff [c]

/-- One reference at most begins at a place. -/
theorem unique (left : ReferenceAt lookup text start name value)
    (right : ReferenceAt lookup text start name' value') : name = name' ∧ value = value' := by
  rcases left.stands with ⟨behind, split⟩
  rcases openedReference?_of_isPrefix right.valid (split ▸ right.stands) with ⟨rest, found⟩
  have read : openedReference? ((name ++ [')']) ++ behind) = some (name, behind) :=
    openedReference?_eq_some_iff.mpr ⟨left.valid, by simp⟩
  obtain rfl := (Prod.mk.inj (Option.some.inj (read.symm.trans found))).1
  exact ⟨rfl, Option.some.inj (left.leads.symm.trans right.leads)⟩

/-- A reference begins with a dollar sign. -/
theorem getElem?_start (reference : ReferenceAt lookup text start name value) :
    text[start]? = some '$' := by
  rcases reference.stands with ⟨behind, split⟩
  rw [← List.head?_drop, ← split]
  rfl

/-- Behind its first character, a reference holds no dollar sign. -/
theorem getElem?_inside (reference : ReferenceAt lookup text start name value) {i : Nat}
    (behind : start < i) (before : i < start + referenceLength name) : text[i]? ≠ some '$' := by
  rcases reference.stands with ⟨rest, split⟩
  obtain ⟨k, rfl⟩ : ∃ k, i = start + (k + 1) := ⟨i - start - 1, by omega⟩
  have within : k < ('(' :: (name ++ [')'])).length := by
    simp only [referenceLength] at before
    simp only [List.length_cons, List.length_append, List.length_nil]
    omega
  rw [← List.getElem?_drop, ← split, List.cons_append, List.getElem?_cons_succ,
    List.getElem?_append_left within]
  intro dollar
  have member : '$' ∈ '(' :: (name ++ [')']) := List.mem_of_getElem? dollar
  simp [dollar_not_mem_of_isName reference.valid] at member

/-- References do not overlap. -/
theorem disjoint (left : ReferenceAt lookup text start name value)
    (right : ReferenceAt lookup text start' name' value') (before : start < start') :
    start + referenceLength name ≤ start' := by
  by_contra overlap
  exact left.getElem?_inside before (Nat.lt_of_not_le overlap) right.getElem?_start

end ReferenceAt

/-! ## The parts of an expansion -/

/-- Each character of the text has its part: the first one of a reference becomes what the name
stands for, the others of the reference become nothing, and all other characters stay. -/
structure Parts (lookup : Text → Option Text) (text : Text) (parts : List Text) : Prop where
  /-- There is one part for each character. -/
  length : parts.length = text.length
  /-- A reference is replaced where it begins. -/
  replaced : ∀ start name value, ReferenceAt lookup text start name value →
    parts[start]? = some value
  /-- The other characters of a reference are dropped. -/
  dropped : ∀ start name value, ReferenceAt lookup text start name value →
    ∀ i, start < i → i < start + referenceLength name → parts[i]? = some []
  /-- The characters outside all references are copied. -/
  copied : ∀ i c, text[i]? = some c →
    (∀ start name value, ReferenceAt lookup text start name value →
      i < start ∨ start + referenceLength name ≤ i) →
    parts[i]? = some [c]

namespace Parts

variable {lookup : Text → Option Text} {text rest name value : Text} {parts other : List Text}
  {c : Char}

/-- The references of the text determine the parts. -/
theorem unique (left : Parts lookup text parts) (right : Parts lookup text other) :
    parts = other := by
  apply List.ext_getElem?
  intro i
  by_cases inside : ∃ start name value, ReferenceAt lookup text start name value ∧
      start ≤ i ∧ i < start + referenceLength name
  · rcases inside with ⟨start, name, value, reference, first, last⟩
    rcases Nat.eq_or_lt_of_le first with rfl | behind
    · rw [left.replaced _ _ _ reference, right.replaced _ _ _ reference]
    · rw [left.dropped _ _ _ reference i behind last, right.dropped _ _ _ reference i behind last]
  · have outside : ∀ start name value, ReferenceAt lookup text start name value →
        i < start ∨ start + referenceLength name ≤ i := by
      intro start name value reference
      by_contra neither
      exact inside ⟨start, name, value, reference, by omega, by omega⟩
    cases found : text[i]? with
    | some c => rw [left.copied i c found outside, right.copied i c found outside]
    | none =>
        have past : text.length ≤ i := List.getElem?_eq_none_iff.mp found
        rw [List.getElem?_eq_none (left.length ▸ past), List.getElem?_eq_none (right.length ▸ past)]

theorem nil : Parts lookup [] [] where
  length := rfl
  replaced start name value reference := absurd reference.getElem?_start (by simp)
  dropped start name value reference := absurd reference.getElem?_start (by simp)
  copied i c found := by simp at found

/-- A character at which no reference begins stays. -/
theorem cons (plain : ∀ name value, ¬ReferenceAt lookup (c :: rest) 0 name value)
    (behind : Parts lookup rest parts) : Parts lookup (c :: rest) ([c] :: parts) where
  length := congrArg (· + 1) behind.length
  replaced start name value reference := by
    cases start with
    | zero => exact absurd reference (plain name value)
    | succ start => exact behind.replaced _ _ _ (ReferenceAt.succ_iff.mp reference)
  dropped start name value reference i after before := by
    cases start with
    | zero => exact absurd reference (plain name value)
    | succ start =>
        cases i with
        | zero => omega
        | succ i =>
            exact behind.dropped _ _ _ (ReferenceAt.succ_iff.mp reference) i (by omega) (by omega)
  copied i d found outside := by
    cases i with
    | zero =>
        obtain rfl := Option.some.inj found
        rfl
    | succ i =>
        apply behind.copied i d found
        intro start name value reference
        have shifted := outside _ _ _ (ReferenceAt.succ_iff.mpr reference)
        omega

theorem append_of_dollar_not_mem {front : Text} (noDollar : '$' ∉ front)
    (behind : Parts lookup rest parts) :
    Parts lookup (front ++ rest) (front.map (fun c => [c]) ++ parts) := by
  induction front with
  | nil => exact behind
  | cons c front ih =>
      have inRest := ih fun member => noDollar (List.mem_cons_of_mem c member)
      apply inRest.cons
      intro name value reference
      obtain rfl := Option.some.inj reference.getElem?_start
      exact noDollar List.mem_cons_self

/-- A reference that leads somewhere is replaced as a whole. -/
theorem referenceTo_append (valid : isName name = true) (leads : lookup name = some value)
    (behind : Parts lookup rest parts) :
    Parts lookup (referenceTo name ++ rest)
      (value :: List.replicate (name.length + 2) [] ++ parts) := by
  have atFront : ReferenceAt lookup (referenceTo name ++ rest) 0 name value :=
    ⟨valid, leads, List.prefix_append _ _⟩
  have sameLength : (value :: List.replicate (name.length + 2) []).length =
      (referenceTo name).length := by
    simp [referenceTo]
  have partBehind : ∀ k,
      (value :: List.replicate (name.length + 2) [] ++ parts)[referenceLength name + k]? =
        parts[k]? := by
    intro k
    rw [← length_referenceTo, ← sameLength, List.getElem?_append_right (Nat.le_add_right _ k),
      Nat.add_sub_cancel_left]
  -- Every other reference lies behind the first one.
  have places : ∀ start other value', ReferenceAt lookup (referenceTo name ++ rest) start other
      value' → (start = 0 ∧ name = other ∧ value = value') ∨
        ∃ k, start = referenceLength name + k ∧ ReferenceAt lookup rest k other value' := by
    intro start other value' reference
    rcases Nat.eq_zero_or_pos start with rfl | positive
    · exact .inl ⟨rfl, atFront.unique reference⟩
    · right
      have beyond := atFront.disjoint reference positive
      obtain ⟨k, rfl⟩ : ∃ k, start = referenceLength name + k :=
        ⟨start - referenceLength name, by omega⟩
      rw [← length_referenceTo] at reference
      exact ⟨k, rfl, (ReferenceAt.shift_iff _).mp reference⟩
  constructor
  case length => rw [List.length_append, List.length_append, sameLength, behind.length]
  case replaced =>
    intro start other value' reference
    rcases places start other value' reference with ⟨rfl, rfl, rfl⟩ | ⟨k, rfl, inRest⟩
    · rfl
    · rw [partBehind, behind.replaced k other value' inRest]
  case dropped =>
    intro start other value' reference i after before
    rcases places start other value' reference with ⟨rfl, rfl, rfl⟩ | ⟨k, rfl, inRest⟩
    · obtain ⟨j, rfl⟩ : ∃ j, i = j + 1 := ⟨i - 1, by omega⟩
      have within : j < name.length + 2 := by
        simp only [referenceLength] at before
        omega
      rw [List.cons_append, List.getElem?_cons_succ,
        List.getElem?_append_left (by simpa using within), List.getElem?_replicate, if_pos within]
    · obtain ⟨j, rfl⟩ : ∃ j, i = referenceLength name + j := ⟨i - referenceLength name, by omega⟩
      rw [partBehind, behind.dropped k other value' inRest j (by omega) (by omega)]
  case copied =>
    intro i c found outside
    have beyond := outside 0 name value atFront
    obtain ⟨j, rfl⟩ : ∃ j, i = referenceLength name + j := ⟨i - referenceLength name, by omega⟩
    rw [← length_referenceTo, List.getElem?_append_right (Nat.le_add_right _ j),
      Nat.add_sub_cancel_left] at found
    rw [partBehind]
    apply behind.copied j c found
    intro start other value' reference
    rw [← ReferenceAt.shift_iff (referenceTo name), length_referenceTo] at reference
    have shifted := outside _ _ _ reference
    omega

end Parts

/-- The parts of a text, put together, are its expansion. -/
theorem exists_parts_expand (lookup : Text → Option Text) (text : Text) :
    ∃ parts, Parts lookup text parts ∧ expand lookup text = parts.flatten := by
  unfold expand
  fun_induction Template.ofText text with
  | case1 => exact ⟨[], Parts.nil, rfl⟩
  | case2 text name rest found ih =>
      rcases ih with ⟨parts, behind, filled⟩
      rcases openedReference?_eq_some_iff.mp found with ⟨valid, rfl⟩
      have regrouped : '$' :: '(' :: (name ++ ')' :: rest) = referenceTo name ++ rest := by
        simp [referenceTo]
      rw [regrouped]
      cases leads : lookup name with
      | some value =>
          refine ⟨_, behind.referenceTo_append valid leads, ?_⟩
          simpa [Template.fill, Piece.fill, leads] using filled
      | none =>
          have noDollar : '$' ∉ '(' :: (name ++ [')']) := by
            simp [dollar_not_mem_of_isName valid]
          refine ⟨_, (behind.append_of_dollar_not_mem noDollar).cons ?_, ?_⟩
          · intro other value reference
            have stands : referenceTo other <+: '$' :: '(' :: (name ++ ')' :: rest) :=
              regrouped ▸ reference.stands
            rcases openedReference?_of_isPrefix reference.valid stands with ⟨_, found'⟩
            obtain rfl := (Prod.mk.inj (Option.some.inj (found.symm.trans found'))).1
            rw [reference.leads] at leads
            contradiction
          · have copied : (('(' :: (name ++ [')'])).map fun c => [c]).flatten =
                '(' :: (name ++ [')']) := List.flatMap_singleton' _
            rw [List.flatten_cons, List.flatten_append, copied, ← filled]
            simp [Template.fill, Piece.fill, Piece.source, leads]
  | case3 text unread ih =>
      rcases ih with ⟨parts, behind, filled⟩
      refine ⟨['$'] :: ['('] :: parts, (behind.cons ?_).cons ?_, ?_⟩
      · intro name value reference
        exact absurd reference.getElem?_start (by simp)
      · intro name value reference
        rcases openedReference?_of_isPrefix reference.valid reference.stands with ⟨_, found⟩
        rw [unread] at found
        contradiction
      · simpa [Template.fill, Piece.fill] using filled
  | case4 c text plain ih =>
      rcases ih with ⟨parts, behind, filled⟩
      refine ⟨[c] :: parts, behind.cons ?_, ?_⟩
      · intro name value reference
        rcases reference.stands with ⟨rest, split⟩
        rcases List.cons.inj split with ⟨rfl, tail⟩
        exact plain _ rfl tail.symm
      · simpa [Template.fill, Piece.fill] using filled

theorem Parts.expand_eq {lookup : Text → Option Text} {text : Text} {parts : List Text}
    (isParts : Parts lookup text parts) : expand lookup text = parts.flatten := by
  rcases exists_parts_expand lookup text with ⟨other, otherParts, filled⟩
  rw [filled, otherParts.unique isParts]

/-- What stands in front of the first dollar sign is copied. -/
theorem expand_append_of_dollar_not_mem {lookup : Text → Option Text} {front : Text}
    (noDollar : '$' ∉ front) (rest : Text) :
    expand lookup (front ++ rest) = front ++ expand lookup rest := by
  rcases exists_parts_expand lookup rest with ⟨parts, behind, filled⟩
  have copied : (front.map fun c => [c]).flatten = front := List.flatMap_singleton' front
  rw [(behind.append_of_dollar_not_mem noDollar).expand_eq, filled, List.flatten_append, copied]

/-- Expansion replaces all references at once.  The references are those of the text as it was
given: at a place of the text, a valid name that leads somewhere stands between the marks of a
reference.  No two of them overlap, and the expansion is made of one part for each character,
in order: at the beginning of a reference what its name stands for, nothing for the rest of the
reference, and everywhere else the character itself. -/
theorem expand_simultaneous (lookup : Text → Option Text) (text : Text) :
    (∀ start name value start' name' value', ReferenceAt lookup text start name value →
      ReferenceAt lookup text start' name' value' →
      (start = start' ∧ name = name' ∧ value = value') ∨
        start + referenceLength name ≤ start' ∨ start' + referenceLength name' ≤ start) ∧
    ∃ parts, Parts lookup text parts ∧ (∀ other, Parts lookup text other → other = parts) ∧
      expand lookup text = parts.flatten := by
  constructor
  · intro start name value start' name' value' left right
    rcases Nat.lt_trichotomy start start' with before | rfl | behind
    · exact .inr (.inl (left.disjoint right before))
    · exact .inl ⟨rfl, left.unique right⟩
    · exact .inr (.inr (right.disjoint left behind))
  · rcases exists_parts_expand lookup text with ⟨parts, isParts, filled⟩
    exact ⟨parts, isParts, fun other otherParts => otherParts.unique isParts, filled⟩

end LoadScript
