import LoadScript.Comment.Line
import Mathlib.Data.List.Basic

/-!
# Where line comments begin

A line comment begins at a double slash that stands at the front of a text or
behind a character that does not shield it.  A text in which none begins is
*unslashed*; this is stated once by places in the text and once by recursion over
it, and the two agree.

Cutting a line keeps exactly what stands before its first comment.
-/

namespace LoadScript.Text

/-- What holds of some texts and passes on to two texts with a mark between them
holds of all the texts joined by the mark. -/
theorem intercalate_induction {motive : Text → Prop} {mark : Char} (nil : motive [])
    (join : ∀ left right, motive left → motive right → motive (left ++ mark :: right))
    {texts : List Text} (each : ∀ text ∈ texts, motive text) :
    motive (List.intercalate [mark] texts) := by
  induction texts with
  | nil => exact nil
  | cons text texts ih =>
      have rest := ih fun other member => each other (List.mem_cons_of_mem text member)
      cases texts with
      | nil => simpa using each text List.mem_cons_self
      | cons next texts =>
          rw [List.intercalate_cons_cons, List.append_assoc]
          exact join _ _ (each text List.mem_cons_self) rest

end LoadScript.Text

namespace LoadScript.Comment

/-- A line comment of the text begins right behind `before`. -/
def SlashesAfter (before text : Text) : Prop :=
  before ++ ['/', '/'] <+: text ∧ ∀ c ∈ before.getLast?, shields c = false

/-- No line comment begins in the text.  The flag says whether the character
before the text shields its first one. -/
def Unslashed (shielded : Bool) : Text → Prop
  | [] => True
  | c :: rest =>
      ¬(shielded = false ∧ c = '/' ∧ rest.head? = some '/') ∧ Unslashed (shields c) rest

@[simp]
theorem unslashed_nil (shielded : Bool) : Unslashed shielded [] :=
  trivial

theorem unslashed_cons {shielded : Bool} {c : Char} {rest : Text} :
    Unslashed shielded (c :: rest) ↔
      ¬(shielded = false ∧ c = '/' ∧ rest.head? = some '/') ∧ Unslashed (shields c) rest :=
  Iff.rfl

/-- What is unslashed behind a character that shields nothing is unslashed behind
every character. -/
theorem Unslashed.shield {text : Text} (unslashed : Unslashed false text) (shielded : Bool) :
    Unslashed shielded text := by
  cases text with
  | nil => exact unslashed_nil shielded
  | cons c rest =>
      rcases unslashed with ⟨front, behind⟩
      exact ⟨fun opening => front ⟨rfl, opening.2⟩, behind⟩

/-! ## The two descriptions agree -/

/-- Whether the next character is shielded once `before` has been passed. -/
private def shieldedBehind (shielded : Bool) (before : Text) : Bool :=
  before.foldl (fun _ c => shields c) shielded

private theorem shieldedBehind_false_iff (before : Text) :
    shieldedBehind false before = false ↔ ∀ c ∈ before.getLast?, shields c = false := by
  rcases List.eq_nil_or_concat before with rfl | ⟨front, last, rfl⟩
  · simp [shieldedBehind]
  · simp [shieldedBehind]

private theorem slashes_isPrefix_cons_iff {c : Char} {rest : Text} :
    ['/', '/'] <+: c :: rest ↔ c = '/' ∧ rest.head? = some '/' := by
  cases rest with
  | nil => simp
  | cons d rest => simp [eq_comm (a := '/')]

/-- The recursive description, whatever the character before the text. -/
private theorem unslashed_iff_forall (text : Text) (shielded : Bool) :
    Unslashed shielded text ↔
      ∀ before, before ++ ['/', '/'] <+: text → shieldedBehind shielded before ≠ false := by
  induction text generalizing shielded with
  | nil => simp [List.prefix_nil]
  | cons c rest ih =>
      rw [unslashed_cons, ih]
      constructor
      · rintro ⟨front, behind⟩ before opening bare
        cases before with
        | nil => exact front ⟨bare, slashes_isPrefix_cons_iff.mp opening⟩
        | cons b before =>
            rcases List.cons_prefix_cons.mp opening with ⟨rfl, inner⟩
            exact behind before inner bare
      · intro covered
        constructor
        · rintro ⟨bare, opening⟩
          exact covered [] (slashes_isPrefix_cons_iff.mpr opening) bare
        · intro before opening
          exact covered (c :: before) (List.cons_prefix_cons.mpr ⟨rfl, opening⟩)

/-- A text is unslashed exactly when no place in it begins a line comment. -/
theorem unslashed_iff {text : Text} :
    Unslashed false text ↔ ∀ before, ¬SlashesAfter before text := by
  rw [unslashed_iff_forall]
  apply forall_congr'
  intro before
  rw [SlashesAfter, not_and, ← shieldedBehind_false_iff]

/-! ## Joining texts -/

/-- A character other than a slash keeps the comments of the texts around it
apart. -/
theorem unslashed_append_cons {shielded : Bool} {left right : Text} {c : Char}
    (notSlash : c ≠ '/') :
    Unslashed shielded (left ++ c :: right) ↔
      Unslashed shielded left ∧ Unslashed (shields c) right := by
  induction left generalizing shielded with
  | nil => simp [unslashed_cons, notSlash]
  | cons d left ih =>
      have sameHead : (left ++ c :: right).head? = some '/' ↔ left.head? = some '/' := by
        cases left with
        | nil => simp [notSlash]
        | cons e left => simp
      rw [List.cons_append, unslashed_cons, unslashed_cons, ih, sameHead, and_assoc]

/-- Texts joined by a character that neither is a slash nor shields are unslashed
together when each of them is. -/
theorem unslashed_intercalate {mark : Char} (notSlash : mark ≠ '/') (bare : shields mark = false)
    {texts : List Text} (each : ∀ text ∈ texts, Unslashed false text) :
    Unslashed false (List.intercalate [mark] texts) := by
  apply Text.intercalate_induction (unslashed_nil false) ?_ each
  intro left right unslashedLeft unslashedRight
  apply (unslashed_append_cons notSlash).mpr
  rw [bare]
  exact ⟨unslashedLeft, unslashedRight⟩

/-- Replacing characters without touching slashes and shields changes nothing. -/
theorem unslashed_map {replace : Char → Char} (slash : ∀ c, replace c = '/' ↔ c = '/')
    (shield : ∀ c, shields (replace c) = shields c) {shielded : Bool} {text : Text} :
    Unslashed shielded (text.map replace) ↔ Unslashed shielded text := by
  induction text generalizing shielded with
  | nil => simp
  | cons c rest ih =>
      have sameHead : (rest.map replace).head? = some '/' ↔ rest.head? = some '/' := by
        cases rest with
        | nil => simp
        | cons d rest => simp [slash]
      rw [List.map_cons, unslashed_cons, unslashed_cons, ih, sameHead, slash, shield]

/-! ## Cutting a line -/

/-- What a cut keeps is unslashed. -/
theorem unslashed_beforeSlashes (shielded : Bool) (line : Text) :
    Unslashed shielded (beforeSlashes shielded line) := by
  induction line generalizing shielded with
  | nil => simp [beforeSlashes]
  | cons c rest ih =>
      simp only [beforeSlashes]
      split
      · exact unslashed_nil shielded
      · rename_i closed
        refine ⟨?_, ih (shields c)⟩
        rintro ⟨rfl, rfl, next⟩
        -- The rest starts as its own cut does, unless the cut is empty.
        have sameHead : rest.head? = some '/' := by
          have isPrefix := beforeSlashes_isPrefix (shields '/') rest
          cases rest with
          | nil => simp [beforeSlashes] at next
          | cons d rest =>
              cases kept : beforeSlashes (shields '/') (d :: rest) with
              | nil => simp [kept] at next
              | cons e kept' =>
                  rw [kept] at isPrefix next
                  rcases List.cons_prefix_cons.mp isPrefix with ⟨rfl, _⟩
                  simpa using next
        simp [sameHead] at closed

/-- An unslashed line is kept whole. -/
theorem beforeSlashes_of_unslashed {shielded : Bool} {line : Text}
    (unslashed : Unslashed shielded line) : beforeSlashes shielded line = line := by
  induction line generalizing shielded with
  | nil => rfl
  | cons c rest ih =>
      rcases unslashed with ⟨front, behind⟩
      rw [beforeSlashes, ih behind, if_neg]
      simpa [and_assoc] using front

theorem beforeSlashes_eq_self_iff {shielded : Bool} {line : Text} :
    beforeSlashes shielded line = line ↔ Unslashed shielded line := by
  constructor
  · intro whole
    rw [← whole]
    exact unslashed_beforeSlashes shielded line
  · exact beforeSlashes_of_unslashed

instance (shielded : Bool) (line : Text) : Decidable (Unslashed shielded line) :=
  decidable_of_iff _ beforeSlashes_eq_self_iff

/-- A cut stands no later than any place where a comment begins. -/
private theorem length_beforeSlashes_le {shielded : Bool} {before line : Text}
    (opening : before ++ ['/', '/'] <+: line) (bare : shieldedBehind shielded before = false) :
    (beforeSlashes shielded line).length ≤ before.length := by
  induction line generalizing shielded before with
  | nil => simp [beforeSlashes]
  | cons c rest ih =>
      simp only [beforeSlashes]
      split
      · exact Nat.zero_le _
      · rename_i closed
        cases before with
        | nil =>
            rcases slashes_isPrefix_cons_iff.mp opening with ⟨rfl, next⟩
            rw [show shielded = false from bare] at closed
            simp [next] at closed
        | cons b before =>
            rcases List.cons_prefix_cons.mp opening with ⟨rfl, inner⟩
            exact Nat.succ_le_succ (ih inner bare)

/-- A cut that loses something stands where a comment begins. -/
private theorem beforeSlashes_eq_or_isPrefix (shielded : Bool) (line : Text) :
    beforeSlashes shielded line = line ∨
      (beforeSlashes shielded line ++ ['/', '/'] <+: line ∧
        shieldedBehind shielded (beforeSlashes shielded line) = false) := by
  induction line generalizing shielded with
  | nil => exact .inl rfl
  | cons c rest ih =>
      simp only [beforeSlashes]
      split
      · rename_i opening
        simp only [Bool.and_eq_true, Bool.not_eq_true', beq_iff_eq, and_assoc] at opening
        exact .inr ⟨slashes_isPrefix_cons_iff.mpr opening.2, opening.1⟩
      · rcases ih (shields c) with whole | ⟨opening, bare⟩
        · exact .inl (congrArg (c :: ·) whole)
        · exact .inr ⟨List.cons_prefix_cons.mpr ⟨rfl, opening⟩, bare⟩

/-- What is kept of a line: all that stands before its first line comment, or the
whole line if it has none. -/
def LineCut (line kept : Text) : Prop :=
  (SlashesAfter kept line ∧ ∀ before, SlashesAfter before line → kept.length ≤ before.length) ∨
    (kept = line ∧ ∀ before, ¬SlashesAfter before line)

theorem lineCut_cutLine (line : Text) : LineCut line (cutLine line) := by
  rcases beforeSlashes_eq_or_isPrefix false line with whole | ⟨opening, bare⟩
  · exact .inr ⟨whole, unslashed_iff.mp (beforeSlashes_eq_self_iff.mp whole)⟩
  · refine .inl ⟨⟨opening, (shieldedBehind_false_iff _).mp bare⟩, ?_⟩
    rintro before ⟨other, otherBare⟩
    exact length_beforeSlashes_le other ((shieldedBehind_false_iff _).mpr otherBare)

theorem LineCut.unique {line first second : Text} (firstCut : LineCut line first)
    (secondCut : LineCut line second) : first = second := by
  rcases firstCut with ⟨firstOpening, firstLeast⟩ | ⟨rfl, none⟩
  · rcases secondCut with ⟨secondOpening, secondLeast⟩ | ⟨rfl, none⟩
    · have firstPrefix := (List.prefix_append _ _).trans firstOpening.1
      have secondPrefix := (List.prefix_append _ _).trans secondOpening.1
      have sameLength : first.length = second.length :=
        Nat.le_antisymm (firstLeast second secondOpening) (secondLeast first firstOpening)
      have nested := List.prefix_of_prefix_length_le firstPrefix secondPrefix
        (Nat.le_of_eq sameLength)
      exact nested.eq_of_length sameLength
    · exact absurd firstOpening (none first)
  · rcases secondCut with ⟨secondOpening, _⟩ | ⟨rfl, _⟩
    · exact absurd secondOpening (none second)
    · rfl

/-- Cutting a line keeps exactly what stands before its first comment. -/
theorem cutLine_eq_iff {line kept : Text} : cutLine line = kept ↔ LineCut line kept := by
  constructor
  · rintro rfl
    exact lineCut_cutLine line
  · intro cut
    exact (lineCut_cutLine line).unique cut

end LoadScript.Comment
