import LoadScript.Proofs.Passes

/-!
# Lines without block comments

Where no block comment is opened, the first pass treats every line on its own and
puts spaces between the results.  The second pass sees one joined line.  It leaves
this line alone, unless the line is a remark; then it drops everything.

A joined line is a remark although no line of its own was dropped as one when the
first line that is not blank is the bare keyword of remarks and another line follows,
or when a tab, now a space, follows the keyword.  The main statement,
`clean_joined_lines`, shows that lines are cleaned one by one in all other cases, and
in those only.
-/

namespace LoadScript.Text

/-! ## Two characters that stand together -/

theorem pair_infix_cons_iff {first second c : Char} {rest : Text} :
    [first, second] <:+: c :: rest ↔
      (c = first ∧ rest.head? = some second) ∨ [first, second] <:+: rest := by
  rw [List.infix_cons_iff]
  cases rest with
  | nil => simp
  | cons d rest => simp [eq_comm (b := c), eq_comm (b := d)]

/-- A third character keeps the pairs of the texts around it apart. -/
theorem pair_infix_append_cons_iff {first second c : Char} {left right : Text}
    (notFirst : c ≠ first) (notSecond : c ≠ second) :
    [first, second] <:+: left ++ c :: right ↔
      [first, second] <:+: left ∨ [first, second] <:+: right := by
  induction left with
  | nil => simp [pair_infix_cons_iff, notFirst]
  | cons d left ih =>
      have sameHead : (left ++ c :: right).head? = some second ↔ left.head? = some second := by
        cases left with
        | nil => simp [notSecond]
        | cons e left => simp
      rw [List.cons_append, pair_infix_cons_iff, pair_infix_cons_iff, ih, sameHead, or_assoc]

theorem not_pair_infix_intercalate {first second mark : Char} (notFirst : mark ≠ first)
    (notSecond : mark ≠ second) {texts : List Text}
    (each : ∀ text ∈ texts, ¬[first, second] <:+: text) :
    ¬[first, second] <:+: List.intercalate [mark] texts := by
  apply intercalate_induction (by simp) ?_ each
  intro left right absentLeft absentRight
  rw [pair_infix_append_cons_iff notFirst notSecond]
  rintro (present | present)
  · exact absentLeft present
  · exact absentRight present

theorem pair_infix_map_iff {first second : Char} {replace : Char → Char}
    (sameFirst : ∀ c, replace c = first ↔ c = first)
    (sameSecond : ∀ c, replace c = second ↔ c = second) {text : Text} :
    [first, second] <:+: text.map replace ↔ [first, second] <:+: text := by
  induction text with
  | nil => simp
  | cons c rest ih =>
      have sameHead : (rest.map replace).head? = some second ↔ rest.head? = some second := by
        cases rest with
        | nil => simp
        | cons d rest => simp [sameSecond]
      rw [List.map_cons, pair_infix_cons_iff, pair_infix_cons_iff, ih, sameHead, sameFirst]

end LoadScript.Text

namespace LoadScript.Comment

/-- Where no block comment is opened there is none. -/
theorem blockFree_of_not_opened {text : Text} (closed : ¬['/', '*'] <:+: text) :
    BlockFree text := by
  intro before body after block
  apply closed
  exact ⟨before, body ++ '*' :: '/' :: after, by simpa using block.symm⟩

end LoadScript.Comment

namespace LoadScript.Script

open Comment Text

/-! ## The first pass over joined lines -/

theorem foldLineEnds_append {line : Text} (noReturn : '\r' ∉ line) (rest : Text) :
    foldLineEnds (line ++ rest) = line ++ foldLineEnds rest := by
  induction line with
  | nil => rfl
  | cons c line ih =>
      have notReturn : c ≠ '\r' := fun same => noReturn (same ▸ List.mem_cons_self)
      rw [List.cons_append, foldLineEnds.eq_3 c _ (fun _ same => absurd same notReturn) notReturn,
        ih fun member => noReturn (List.mem_cons_of_mem c member)]
      rfl

theorem foldLineEnds_of_not_mem {text : Text} (noReturn : '\r' ∉ text) :
    foldLineEnds text = text := by
  have folded := foldLineEnds_append noReturn []
  rwa [foldLineEnds, List.append_nil] at folded

theorem flatten_intercalate (texts : List Text) :
    flatten (List.intercalate ['\n'] texts) = List.intercalate [' '] (texts.map flatten) := by
  induction texts with
  | nil => rfl
  | cons text texts ih =>
      cases texts with
      | nil => simp
      | cons next texts =>
          rw [List.intercalate_cons_cons, List.map_cons, List.map_cons,
            List.intercalate_cons_cons, ← List.map_cons, ← ih]
          simp [flatten, isLayout]

theorem opened_flatten_iff {text : Text} :
    ['/', '*'] <:+: flatten text ↔ ['/', '*'] <:+: text := by
  apply pair_infix_map_iff
  · intro c
    exact flatten_char_eq_iff (by decide) (by decide)
  · intro c
    exact flatten_char_eq_iff (by decide) (by decide)

/-- What becomes of a line in the first pass. -/
def flatLine (line : Text) : Text :=
  flatten (cleanLine line)

theorem cleanLine_isInfix (line : Text) : cleanLine line <:+: line := by
  unfold cleanLine dropRemark
  split
  · exact List.nil_infix
  · exact (beforeSlashes_isPrefix false line).isInfix

/-- A line as a script is made of them: without line ends, and here also without
an opened block comment. -/
structure PlainLine (line : Text) : Prop where
  /-- No carriage return stands in the line. -/
  noReturn : '\r' ∉ line
  /-- No line feed stands in the line. -/
  noFeed : '\n' ∉ line
  /-- No block comment is opened in the line. -/
  closed : ¬['/', '*'] <:+: line

theorem pass_intercalate {lines : List Text} (plain : ∀ line ∈ lines, PlainLine line) :
    pass (foldLineEnds (List.intercalate ['\n'] lines)) =
      List.intercalate [' '] (lines.map flatLine) := by
  have noReturn : '\r' ∉ List.intercalate ['\n'] lines := by
    apply intercalate_induction (by simp) ?_ fun line member => (plain line member).noReturn
    intro left right absentLeft absentRight
    simp [absentLeft, absentRight]
  have cleaned : cleanLines (List.intercalate ['\n'] lines) =
      List.intercalate ['\n'] (lines.map cleanLine) := by
    cases lines with
    | nil => rfl
    | cons line lines =>
        rw [cleanLines, List.splitOn_intercalate '\n'
          (fun text member => (plain text member).noFeed) (List.cons_ne_nil _ _)]
  have closed : ¬['/', '*'] <:+: List.intercalate ['\n'] (lines.map cleanLine) := by
    apply not_pair_infix_intercalate (by decide) (by decide)
    intro text member opened
    rcases List.mem_map.mp member with ⟨line, present, rfl⟩
    exact (plain line present).closed (opened.trans (cleanLine_isInfix line))
  rw [foldLineEnds_of_not_mem noReturn, pass, cleaned,
    dropBlocks_eq_self_iff.mpr (blockFree_of_not_opened closed), flatten_intercalate,
    List.map_map]
  rfl

/-- Lines are cleaned one by one and joined by spaces, unless the joined line is a
remark. -/
theorem clean_intercalate {lines : List Text} (plain : ∀ line ∈ lines, PlainLine line) :
    clean (List.intercalate ['\n'] lines) =
      if isRemark (List.intercalate [' '] (lines.map flatLine)) then []
      else List.intercalate [' '] (lines.map flatLine) := by
  have first : entering (List.intercalate ['\n'] lines) 0 =
      List.intercalate [' '] (lines.map flatLine) := pass_intercalate plain
  have flat := flat_entering (List.intercalate ['\n'] lines) 0
  have unslashed := unslashed_entering (List.intercalate ['\n'] lines) 0
  have closed : ¬['/', '*'] <:+: List.intercalate [' '] (lines.map flatLine) := by
    apply not_pair_infix_intercalate (by decide) (by decide)
    intro text member
    rcases List.mem_map.mp member with ⟨line, present, rfl⟩
    rw [flatLine, opened_flatten_iff]
    intro opened
    exact (plain line present).closed (opened.trans (cleanLine_isInfix line))
  rw [first] at flat unslashed
  have second := pass_of_unslashed flat unslashed
  rw [dropBlocks_eq_self_iff.mpr (blockFree_of_not_opened closed)] at second
  rw [← settle_entering _ 0, first]
  split
  · rename_i remark
    rw [← settle_pass flat, second, if_pos remark, settle_nil]
  · rename_i keeps
    rw [if_neg keeps] at second
    rw [settle.eq_1, second, if_neg (Nat.lt_irrefl _)]

end LoadScript.Script

namespace LoadScript.Comment

open Text

/-! ## When joined lines are a remark -/

/-- A line with the keyword of remarks and nothing but blanks before it. -/
def BareRemark (line : Text) : Prop :=
  ∃ blanks keyword, line = blanks ++ keyword ∧ (∀ c ∈ blanks, isBlank c = true) ∧
    keyword.map fold = ['r', 'e', 'm']

theorem space_not_mem_of_map_fold {keyword : Text} (spelled : keyword.map fold = ['r', 'e', 'm']) :
    ' ' ∉ keyword := by
  intro member
  have folded : fold ' ' ∈ keyword.map fold := List.mem_map_of_mem member
  rw [spelled] at folded
  exact absurd folded (by decide)

/-- A joined line begins as its first part does if that is not blank, and else as
its second part does. -/
theorem remark_append_space_iff {left right : Text} :
    Remark (left ++ ' ' :: right) ↔
      Remark left ∨ BareRemark left ∨ ((∀ c ∈ left, isBlank c = true) ∧ Remark right) := by
  constructor
  · rintro ⟨blanks, keyword, rest, split, blank, spelled⟩
    have noSpace := space_not_mem_of_map_fold spelled
    -- The space between the parts falls among the blanks or behind the keyword.
    rcases List.append_eq_append_iff.mp split with ⟨gap, rfl, behind⟩ | ⟨gap, rfl, behind⟩
    · cases gap with
      | nil =>
          cases keyword with
          | nil => simp at spelled
          | cons letter keyword =>
              rcases List.cons.inj behind with ⟨rfl, _⟩
              exact absurd List.mem_cons_self noSpace
      | cons c gap =>
          rcases List.cons.inj behind with ⟨rfl, begins⟩
          right
          right
          constructor
          · intro c member
            exact blank c (List.mem_append_left _ member)
          · exact ⟨gap, keyword, rest, begins, fun c member => blank c (by simp [member]), spelled⟩
    · rcases List.append_eq_append_iff.mp behind with ⟨tail, rfl, ends⟩ | ⟨tail, rfl, ends⟩
      · cases tail with
        | nil =>
            rw [List.append_nil]
            exact .inr (.inl ⟨blanks, keyword, rfl, blank, spelled⟩)
        | cons c tail =>
            rcases List.cons.inj ends with ⟨rfl, _⟩
            exact .inl ⟨blanks, keyword, tail, rfl, blank, spelled⟩
      · cases tail with
        | nil =>
            rw [List.append_nil] at spelled
            exact .inr (.inl ⟨blanks, gap, rfl, blank, spelled⟩)
        | cons c tail =>
            rcases List.cons.inj ends with ⟨rfl, _⟩
            exact absurd (by simp) noSpace
  · rintro (⟨blanks, keyword, rest, rfl, blank, spelled⟩ | ⟨blanks, keyword, rfl, blank, spelled⟩ |
      ⟨blankLeft, blanks, keyword, rest, rfl, blank, spelled⟩)
    · exact ⟨blanks, keyword, rest ++ ' ' :: right, by simp, blank, spelled⟩
    · exact ⟨blanks, keyword, right, by simp, blank, spelled⟩
    · refine ⟨left ++ ' ' :: blanks, keyword, rest, by simp, ?_, spelled⟩
      intro c member
      rcases List.mem_append.mp member with inLeft | inRight
      · exact blankLeft c inLeft
      · rcases List.mem_cons.mp inRight with rfl | inBlanks
        · rfl
        · exact blank c inBlanks

/-- The first of some lines that is not blank is a remark, or has the bare keyword
of remarks with a line behind it. -/
def ExposesRemark (lines : List Text) : Prop :=
  ∃ front line back, lines = front ++ line :: back ∧
    (∀ text ∈ front, ∀ c ∈ text, isBlank c = true) ∧
    (Remark line ∨ (BareRemark line ∧ back ≠ []))

theorem exposesRemark_cons_iff {line : Text} {lines : List Text} :
    ExposesRemark (line :: lines) ↔
      Remark line ∨ (BareRemark line ∧ lines ≠ []) ∨
        ((∀ c ∈ line, isBlank c = true) ∧ ExposesRemark lines) := by
  constructor
  · rintro ⟨front, first, back, split, blank, exposed⟩
    cases front with
    | nil =>
        rcases List.cons.inj split with ⟨rfl, rfl⟩
        rcases exposed with remark | bare
        · exact .inl remark
        · exact .inr (.inl bare)
    | cons text front =>
        rcases List.cons.inj split with ⟨rfl, rfl⟩
        right
        right
        refine ⟨blank line List.mem_cons_self, front, first, back, rfl, ?_, exposed⟩
        intro text member
        exact blank text (List.mem_cons_of_mem _ member)
  · rintro (remark | bare | ⟨blankLine, front, first, back, rfl, blank, exposed⟩)
    · exact ⟨[], line, lines, rfl, by simp, .inl remark⟩
    · exact ⟨[], line, lines, rfl, by simp, .inr bare⟩
    · refine ⟨line :: front, first, back, rfl, ?_, exposed⟩
      intro text member
      rcases List.mem_cons.mp member with rfl | inFront
      · exact blankLine
      · exact blank text inFront

/-- Lines joined by spaces are a remark exactly when they expose one. -/
theorem remark_intercalate_iff (lines : List Text) :
    Remark (List.intercalate [' '] lines) ↔ ExposesRemark lines := by
  induction lines with
  | nil => simp [Remark, ExposesRemark]
  | cons line lines ih =>
      rw [exposesRemark_cons_iff]
      cases lines with
      | nil => simp [ExposesRemark]
      | cons next lines =>
          rw [List.intercalate_cons_cons, List.append_assoc, List.singleton_append,
            remark_append_space_iff, ih]
          simp

end LoadScript.Comment

namespace LoadScript.Script

open Comment Text

/-! ## Lines on their own -/

/-- What a line becomes on its own: it is cut at its first line comment, emptied if
a remark is left, and its tabs become spaces. -/
def Treated (line result : Text) : Prop :=
  ∃ kept, LineCut line kept ∧
    ((Remark kept ∧ result = []) ∨
      (¬Remark kept ∧ result = kept.map fun c => if c = '\t' then ' ' else c))

theorem flatten_of_noFeed {text : Text} (noFeed : '\n' ∉ text) :
    flatten text = text.map fun c => if c = '\t' then ' ' else c := by
  apply List.map_congr_left
  intro c member
  have notFeed : c ≠ '\n' := by
    rintro rfl
    exact noFeed member
  simp [isLayout, notFeed]

theorem treated_iff {line result : Text} (noFeed : '\n' ∉ line) :
    Treated line result ↔ result = flatLine line := by
  have noFeedKept : '\n' ∉ cutLine line := by
    intro member
    exact noFeed ((beforeSlashes_isPrefix false line).sublist.mem member)
  have treats : ∀ kept, LineCut line kept ↔ cutLine line = kept := fun _ => cutLine_eq_iff.symm
  simp only [Treated, treats, exists_eq_left', ← isRemark_iff, flatLine, cleanLine, dropRemark]
  by_cases remark : isRemark (cutLine line) = true
  · simp [remark, flatten]
  · simp [remark, flatten_of_noFeed noFeedKept]

/-- Lines without block comments are cleaned one by one and joined by spaces, unless
the joined lines expose a remark, and then nothing is left of them at all. -/
theorem clean_joined_lines {lines results : List Text} (plain : ∀ line ∈ lines, PlainLine line)
    (treated : List.Forall₂ Treated lines results) :
    (¬ExposesRemark results →
      clean (List.intercalate ['\n'] lines) = List.intercalate [' '] results) ∧
    (ExposesRemark results →
      clean (List.intercalate ['\n'] lines) = [] ∧ List.intercalate [' '] results ≠ []) := by
  have sameResults : results = lines.map flatLine := by
    induction treated with
    | nil => rfl
    | @cons line result lines results first _ ih =>
        rw [(treated_iff (plain line List.mem_cons_self).noFeed).mp first,
          ih fun other member => plain other (List.mem_cons_of_mem line member)]
        rfl
  subst sameResults
  rw [clean_intercalate plain, ← remark_intercalate_iff, ← isRemark_iff]
  constructor
  · intro keeps
    rw [if_neg keeps]
  · intro remark
    constructor
    · rw [if_pos remark]
    · intro empty
      rw [empty] at remark
      exact absurd remark (by decide)

/-- A bare keyword of remarks takes the lines behind it along. -/
theorem clean_bare_keyword_line :
    ExposesRemark [['R', 'E', 'M'], ['L', 'E', 'T', ' ', 'a', ' ', '=', ' ', '1', ';']] ∧
      clean (List.intercalate ['\n']
        [['R', 'E', 'M'], ['L', 'E', 'T', ' ', 'a', ' ', '=', ' ', '1', ';']]) = [] := by
  have exposed :
      ExposesRemark [['R', 'E', 'M'], ['L', 'E', 'T', ' ', 'a', ' ', '=', ' ', '1', ';']] :=
    ⟨[], _, _, rfl, by simp, .inr ⟨⟨[], ['R', 'E', 'M'], rfl, by simp, by decide⟩, by simp⟩⟩
  have plain : ∀ line ∈ [['R', 'E', 'M'], ['L', 'E', 'T', ' ', 'a', ' ', '=', ' ', '1', ';']],
      PlainLine line := by
    intro line member
    rcases List.mem_pair.mp member with rfl | rfl
    · exact ⟨by decide, by decide, by decide⟩
    · exact ⟨by decide, by decide, by decide⟩
  have treated : List.Forall₂ Treated
      [['R', 'E', 'M'], ['L', 'E', 'T', ' ', 'a', ' ', '=', ' ', '1', ';']]
      [['R', 'E', 'M'], ['L', 'E', 'T', ' ', 'a', ' ', '=', ' ', '1', ';']] :=
    .cons ((treated_iff (by decide)).mpr (by decide +kernel))
      (.cons ((treated_iff (by decide)).mpr (by decide +kernel)) .nil)
  exact ⟨exposed, ((clean_joined_lines plain treated).2 exposed).1⟩

end LoadScript.Script
