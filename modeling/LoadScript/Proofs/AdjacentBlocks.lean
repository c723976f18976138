import LoadScript.Proofs.NormalForm

/-!
# Block comments that stand together

A single block comment on a line is deleted, and what stands around it is kept.  Where a second
comment follows directly, the slash that closes the first one and the slash that opens the second
one are a double slash behind a star.  The line is cut there before block comments are looked
for, so the first comment stays open and is kept, and all that follows it is lost.

The main statement, `clean_adjacent_blocks`, gives the clean text in both cases.
-/

namespace LoadScript.Comment

open Text

/-- A block comment. -/
def block (body : Text) : Text :=
  '/' :: '*' :: (body ++ ['*', '/'])

/-- Block comments, one directly behind the other. -/
def blocks (bodies : List Text) : Text :=
  bodies.flatMap block

theorem block_append (body rest : Text) :
    block body ++ rest = '/' :: '*' :: (body ++ '*' :: '/' :: rest) := by
  simp [block]

/-- A character other than a slash or a star stands in the bodies of the comments or around
them. -/
theorem not_mem_append_blocks {c : Char} {left right : Text} {bodies : List Text}
    (noSlash : c ≠ '/') (noStar : c ≠ '*') (around : c ∉ left ++ right)
    (inside : ∀ body ∈ bodies, c ∉ body) : c ∉ left ++ (blocks bodies ++ right) := by
  have inBlocks : c ∉ blocks bodies := by
    rw [blocks, List.mem_flatMap]
    rintro ⟨body, listed, member⟩
    simp [block, noSlash, noStar, inside body listed] at member
  simpa [inBlocks] using around

/-! ## Cutting the line -/

/-- Text without slashes is passed over. -/
theorem exists_beforeSlashes_append {left : Text} (noSlash : '/' ∉ left) (shielded : Bool)
    (rest : Text) :
    ∃ shielded', beforeSlashes shielded (left ++ rest) = left ++ beforeSlashes shielded' rest := by
  induction left generalizing shielded with
  | nil => exact ⟨shielded, rfl⟩
  | cons c left ih =>
      have notSlash : c ≠ '/' := fun same => noSlash (same ▸ List.mem_cons_self)
      rcases ih (fun member => noSlash (List.mem_cons_of_mem c member)) (shields c) with
        ⟨shielded', goesOn⟩
      refine ⟨shielded', ?_⟩
      rw [List.cons_append, beforeSlashes, goesOn]
      simp [notSlash]

/-- A line is not cut before the star that closes its first block comment. -/
theorem cutLine_block {left body : Text} (noSlashLeft : '/' ∉ left) (noSlashBody : '/' ∉ body)
    (rest : Text) :
    cutLine (left ++ '/' :: '*' :: (body ++ '*' :: rest)) =
      left ++ '/' :: '*' :: (body ++ '*' :: beforeSlashes false rest) := by
  have noShield : shields '*' = false := by decide
  rcases exists_beforeSlashes_append noSlashLeft false ('/' :: '*' :: (body ++ '*' :: rest)) with
    ⟨_, toOpening⟩
  rcases exists_beforeSlashes_append noSlashBody false ('*' :: rest) with ⟨_, toClosing⟩
  rw [cutLine, toOpening]
  simp [beforeSlashes, noShield, toClosing]

/-- A single slash cuts nothing. -/
theorem beforeSlashes_slash_cons {right : Text} (noSlash : '/' ∉ right) :
    beforeSlashes false ('/' :: right) = '/' :: right := by
  have noSecond : right.head? ≠ some '/' := fun atFront =>
    noSlash (List.mem_of_mem_head? atFront)
  rcases exists_beforeSlashes_append noSlash (shields '/') [] with ⟨_, kept⟩
  rw [List.append_nil] at kept
  simp [beforeSlashes, noSecond, kept]

/-! ## Deleting a single comment -/

/-- A comment takes two slashes. -/
theorem blockFree_of_count_slash_lt {text : Text} (few : text.count '/' < 2) : BlockFree text := by
  intro before body after block
  rw [block] at few
  simp at few
  omega

/-- A body without slashes is not closed early. -/
theorem shortestBody_of_not_mem {body : Text} (noSlash : '/' ∉ body) (after : Text) :
    ShortestBody (body ++ '*' :: '/' :: after) body after := by
  induction body with
  | nil => exact ⟨rfl, fun _ => Nat.zero_le _⟩
  | cons c body ih =>
      have noSlashRest : '/' ∉ body := fun member => noSlash (List.mem_cons_of_mem c member)
      apply ShortestBody.cons ?_ (ih noSlashRest)
      intro tail _ closing
      cases body with
      | nil => simp at closing
      | cons d body =>
          rcases List.cons.inj closing with ⟨rfl, _⟩
          exact noSlashRest List.mem_cons_self

theorem Sweep.append_left {left text swept : Text} (noSlash : '/' ∉ left)
    (sweep : Sweep text swept) : Sweep (left ++ text) (left ++ swept) := by
  induction left with
  | nil => exact sweep
  | cons c left ih =>
      have notSlash : c ≠ '/' := fun same => noSlash (same ▸ List.mem_cons_self)
      exact Sweep.cons (fun _ same => absurd same notSlash)
        (ih fun member => noSlash (List.mem_cons_of_mem c member))

/-- A comment among text without slashes is deleted. -/
theorem dropBlocks_block {left body right : Text} (noSlashLeft : '/' ∉ left)
    (noSlashBody : '/' ∉ body) (noSlashRight : '/' ∉ right) :
    dropBlocks (left ++ '/' :: '*' :: (body ++ '*' :: '/' :: right)) = left ++ right := by
  have free : BlockFree right := by
    apply blockFree_of_count_slash_lt
    rw [List.count_eq_zero.mpr noSlashRight]
    decide
  have opening := (shortestBody_of_not_mem noSlashBody right).firstBlock
  exact sweep_iff.mp ((Sweep.delete opening (.done free)).append_left noSlashLeft)

/-! ## Texts without the keyword of remarks -/

/-- The keyword of remarks stands nowhere in the text, in whatever letter case. -/
def NoRemarkWord (text : Text) : Prop :=
  ¬['r', 'e', 'm'] <:+: text.map fold

instance (text : Text) : Decidable (NoRemarkWord text) :=
  inferInstanceAs (Decidable (¬_))

theorem NoRemarkWord.of_isInfix {part text : Text} (absent : NoRemarkWord text)
    (isPart : part <:+: text) : NoRemarkWord part :=
  fun stands => absent (stands.trans (isPart.map fold))

theorem NoRemarkWord.not_remark {text : Text} (absent : NoRemarkWord text) : ¬Remark text := by
  rintro ⟨blanks, keyword, rest, rfl, _, spelled⟩
  have stands : keyword <:+: blanks ++ (keyword ++ ' ' :: rest) :=
    ⟨blanks, ' ' :: rest, List.append_assoc _ _ _⟩
  exact absent (spelled ▸ stands.map fold)

/-- A remark does not begin across a slash. -/
theorem NoRemarkWord.not_remark_append_slash {left : Text} (absent : NoRemarkWord left)
    (rest : Text) : ¬Remark (left ++ '/' :: rest) := by
  rintro ⟨blanks, keyword, tail, split, blank, spelled⟩
  have noSlash : '/' ∉ blanks ++ keyword ++ [' '] := by
    simp only [List.mem_append, List.mem_singleton, not_or]
    refine ⟨⟨?_, ?_⟩, by decide⟩
    · intro member
      exact absurd (blank '/' member) (by decide)
    · intro member
      have folded : fold '/' ∈ keyword.map fold := List.mem_map_of_mem member
      rw [spelled] at folded
      exact absurd folded (by decide)
  have whole : left ++ '/' :: rest = (blanks ++ keyword ++ [' ']) ++ tail := by
    simpa using split
  -- The slash comes behind the space of the remark, so the remark begins in the first part.
  rcases List.append_eq_append_iff.mp whole with ⟨gap, begins, ends⟩ | ⟨gap, rfl, _⟩
  · cases gap with
    | nil =>
        rw [List.append_nil] at begins
        exact absent.not_remark ⟨blanks, keyword, [], by simpa using begins.symm, blank, spelled⟩
    | cons c gap =>
        rcases List.cons.inj ends with ⟨rfl, _⟩
        exact noSlash (begins ▸ by simp)
  · exact absent.not_remark ⟨blanks, keyword, gap, by simp, blank, spelled⟩

end LoadScript.Comment

namespace LoadScript.Script

open Comment Text

/-! ## Cleaning a single line -/

/-- The first pass over a line that is not a remark once it is cut. -/
theorem pass_of_cutLine {line kept : Text} (noReturn : '\r' ∉ line) (noFeed : '\n' ∉ line)
    (cut : cutLine line = kept) (noRemark : ¬Remark kept) :
    pass (foldLineEnds line) = flatten (dropBlocks kept) := by
  rw [← isRemark_iff] at noRemark
  rw [foldLineEnds_of_not_mem noReturn, pass, cleanLines_of_noFeed noFeed, cleanLine, cut,
    dropRemark, if_neg noRemark]

/-- Cleaning ends with the first pass if that leaves neither a block comment nor a remark. -/
theorem clean_eq_of_pass_eq {source result : Text} (first : pass (foldLineEnds source) = result)
    (free : BlockFree result) (noRemark : ¬Remark result) : clean source = result := by
  have flat : Flat result := first ▸ flat_pass _
  have unslashed : Unslashed false result := first ▸ unslashed_pass _
  rw [← isRemark_iff] at noRemark
  rw [clean, first]
  exact settle_of_pass_eq (pass_eq_self_iff.mpr ⟨flat, unslashed, free, noRemark⟩)

theorem slash_not_mem_flatten {text : Text} (noSlash : '/' ∉ text) : '/' ∉ flatten text := by
  intro member
  rcases List.mem_map.mp member with ⟨c, inText, same⟩
  rw [flatten_char_eq_iff (by decide) (by decide)] at same
  exact noSlash (same ▸ inText)

/-- Flattening an opened comment flattens its body. -/
theorem flatten_opened {left : Text} (flat : Flat left) (body : Text) :
    flatten (left ++ '/' :: '*' :: (body ++ ['*'])) =
      left ++ '/' :: '*' :: (flatten body ++ ['*']) := by
  have marks : flatten ('/' :: '*' :: (body ++ ['*'])) =
      '/' :: '*' :: (flatten body ++ ['*']) := by
    simp [flatten, isLayout]
  calc
    flatten (left ++ '/' :: '*' :: (body ++ ['*']))
    _ = flatten left ++ flatten ('/' :: '*' :: (body ++ ['*'])) := List.map_append
    _ = left ++ '/' :: '*' :: (flatten body ++ ['*']) := by rw [flatten_of_flat flat, marks]

/-! ## One comment, and several -/

section Blocks

variable {left body right : Text} (noSlashLeft : '/' ∉ left) (noSlashBody : '/' ∉ body)

include noSlashLeft noSlashBody

/-- A comment that stands alone is deleted, and nothing else is. -/
theorem clean_single_block (noSlashRight : '/' ∉ right) (flat : Flat (left ++ right))
    (noRemark : NoRemarkWord (left ++ right)) (noReturn : '\r' ∉ left ++ (block body ++ right))
    (noFeed : '\n' ∉ left ++ (block body ++ right)) :
    clean (left ++ (block body ++ right)) = left ++ right := by
  have noRemarkLeft : NoRemarkWord left := noRemark.of_isInfix (List.prefix_append _ _).isInfix
  have uncut : cutLine (left ++ (block body ++ right)) = left ++ (block body ++ right) := by
    rw [block_append, cutLine_block noSlashLeft noSlashBody,
      beforeSlashes_slash_cons noSlashRight]
  have first : pass (foldLineEnds (left ++ (block body ++ right))) = left ++ right := by
    rw [pass_of_cutLine noReturn noFeed uncut (noRemarkLeft.not_remark_append_slash _),
      block_append, dropBlocks_block noSlashLeft noSlashBody noSlashRight, flatten_of_flat flat]
  refine clean_eq_of_pass_eq first (blockFree_of_count_slash_lt ?_) noRemark.not_remark
  simp [List.count_eq_zero.mpr noSlashLeft, List.count_eq_zero.mpr noSlashRight]

/-- An opened comment without another slash is none. -/
theorem blockFree_append_opened : BlockFree (left ++ '/' :: '*' :: (body ++ ['*'])) := by
  apply blockFree_of_count_slash_lt
  simp [List.count_eq_zero.mpr noSlashLeft, List.count_eq_zero.mpr noSlashBody]

/-- A comment with a slash directly behind it stays open, and the rest of its line is lost. -/
theorem clean_block_slash (flat : Flat left) (noRemark : NoRemarkWord left)
    (noReturn : '\r' ∉ left ++ (block body ++ '/' :: right))
    (noFeed : '\n' ∉ left ++ (block body ++ '/' :: right)) :
    clean (left ++ (block body ++ '/' :: right)) =
      left ++ '/' :: '*' :: (flatten body ++ ['*']) := by
  have cut : cutLine (left ++ (block body ++ '/' :: right)) =
      left ++ '/' :: '*' :: (body ++ ['*']) := by
    rw [block_append, cutLine_block noSlashLeft noSlashBody]
    rfl
  have first : pass (foldLineEnds (left ++ (block body ++ '/' :: right))) =
      left ++ '/' :: '*' :: (flatten body ++ ['*']) := by
    rw [pass_of_cutLine noReturn noFeed cut (noRemark.not_remark_append_slash _),
      dropBlocks_eq_self_iff.mpr (blockFree_append_opened noSlashLeft noSlashBody),
      flatten_opened flat]
  exact clean_eq_of_pass_eq first
    (blockFree_append_opened noSlashLeft (slash_not_mem_flatten noSlashBody))
    (noRemark.not_remark_append_slash _)

end Blocks

/-- Block comments, one directly behind the other, between two parts of a line without slashes
and remarks.  A single one is deleted and the two parts are kept; of several ones the first
loses its last slash, and all that follows it is lost with the second part. -/
theorem clean_adjacent_blocks {left right first : Text} {others : List Text}
    (plain : ∀ c ∈ ['/', '\r', '\n', '\t'], c ∉ left ++ right)
    (plainBodies : ∀ body ∈ first :: others, ∀ c ∈ ['/', '\r', '\n'], c ∉ body)
    (noRemark : NoRemarkWord (left ++ right)) :
    (others = [] → clean (left ++ (blocks (first :: others) ++ right)) = left ++ right) ∧
    (others ≠ [] →
      clean (left ++ (blocks (first :: others) ++ right)) =
        left ++ '/' :: '*' :: (flatten first ++ ['*']) ∧
      clean (left ++ (blocks (first :: others) ++ right)) ≠ left ++ right) := by
  have noSlash : '/' ∉ left ∧ '/' ∉ right := by simpa using plain '/' (by simp)
  have noSlashFirst : '/' ∉ first := plainBodies first List.mem_cons_self '/' (by simp)
  have flat : Flat (left ++ right) :=
    flat_iff.mpr ⟨plain '\n' (by simp), plain '\t' (by simp)⟩
  have noReturn := not_mem_append_blocks (by decide) (by decide) (plain '\r' (by simp))
    fun body member => plainBodies body member '\r' (by simp)
  have noFeed := not_mem_append_blocks (by decide) (by decide) (plain '\n' (by simp))
    fun body member => plainBodies body member '\n' (by simp)
  cases others with
  | nil =>
      have single : blocks [first] = block first := List.flatMap_singleton block first
      rw [single] at noReturn noFeed ⊢
      refine ⟨fun _ => ?_, fun several => absurd rfl several⟩
      exact clean_single_block noSlash.1 noSlashFirst noSlash.2 flat noRemark noReturn noFeed
  | cons second others =>
      have several : blocks (first :: second :: others) ++ right =
          block first ++ '/' :: ('*' :: (second ++ '*' :: '/' :: (blocks others ++ right))) := by
        simp [blocks, block]
      rw [several] at noReturn noFeed ⊢
      have opened := clean_block_slash noSlash.1 noSlashFirst
        (fun c member => flat c (List.mem_append_left right member))
        (noRemark.of_isInfix (List.prefix_append _ _).isInfix) noReturn noFeed
      refine ⟨fun alone => absurd alone (List.cons_ne_nil _ _), fun _ => ⟨opened, ?_⟩⟩
      rw [opened]
      intro same
      have slashed : '/' ∈ right := List.append_cancel_left same ▸ List.mem_cons_self
      exact noSlash.2 slashed

/-- Two comments take the statement behind them along. -/
theorem clean_two_adjacent_blocks :
    clean ("LET a = 1;".toList ++ (blocks [['x'], ['y']] ++ "LET b = 2;".toList)) =
        "LET a = 1;".toList ++ ['/', '*', 'x', '*'] ∧
      clean ("LET a = 1;".toList ++ (blocks [['x'], ['y']] ++ "LET b = 2;".toList)) ≠
        "LET a = 1;".toList ++ "LET b = 2;".toList := by
  have plain : ∀ c ∈ ['/', '\r', '\n', '\t'], c ∉ "LET a = 1;".toList ++ "LET b = 2;".toList := by
    simp only [List.forall_mem_cons, List.not_mem_nil, false_imp_iff, implies_true, and_true]
    decide
  have plainBodies : ∀ body ∈ [['x'], ['y']], ∀ c ∈ ['/', '\r', '\n'], c ∉ body := by
    simp
  exact (clean_adjacent_blocks plain plainBodies (by decide +kernel)).2 (by simp)

end LoadScript.Script
