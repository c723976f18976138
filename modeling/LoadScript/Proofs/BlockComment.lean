import LoadScript.Comment.Block
import Mathlib.Logic.Relation

/-!
# Deleting block comments

A *sweep* deletes the block comments of a text from left to right: each time the
comment that begins first, with the shortest body that closes it, and then it goes
on behind that comment.  The relation `Sweep` says this by places in the text; it is
the graph of `dropBlocks`.

A sweep may bring a new comment together, so a text is *uncommented* by sweeps
until no comment is left.
-/

namespace LoadScript.Comment

/-- A block comment with the given body stands in the text between two parts. -/
def BlockAt (text before body after : Text) : Prop :=
  text = before ++ '/' :: '*' :: (body ++ '*' :: '/' :: after)

/-- A text without a complete block comment. -/
def BlockFree (text : Text) : Prop :=
  ∀ before body after, ¬BlockAt text before body after

/-- The block comment that begins first, ended as soon as it can be. -/
structure FirstBlock (text before body after : Text) : Prop where
  /-- The comment stands in the text. -/
  block : BlockAt text before body after
  /-- No comment begins earlier. -/
  leftmost : ∀ {before' body' after'},
    BlockAt text before' body' after' → before.length ≤ before'.length
  /-- The comment has no shorter body. -/
  shortest : ∀ {body' after'}, BlockAt text before body' after' → body.length ≤ body'.length

/-- One deletion of all block comments, from left to right. -/
inductive Sweep : Text → Text → Prop where
  /-- Nothing is left to delete. -/
  | done {text : Text} (free : BlockFree text) : Sweep text text
  /-- The first comment goes, and the text behind it is swept. -/
  | delete {text before body after swept : Text} (first : FirstBlock text before body after)
      (rest : Sweep after swept) : Sweep text (before ++ swept)

/-! ## Sweeps are determined by the text -/

theorem FirstBlock.unique {text before body after before' body' after' : Text}
    (left : FirstBlock text before body after) (right : FirstBlock text before' body' after') :
    before = before' ∧ body = body' ∧ after = after' := by
  have sameStart : before.length = before'.length :=
    Nat.le_antisymm (left.leftmost right.block) (right.leftmost left.block)
  have split := left.block.symm.trans right.block
  rcases List.append_inj split sameStart with ⟨rfl, opened⟩
  have sameBody : body.length = body'.length :=
    Nat.le_antisymm (left.shortest right.block) (right.shortest left.block)
  have closed : body ++ '*' :: '/' :: after = body' ++ '*' :: '/' :: after' := by
    simpa using opened
  rcases List.append_inj closed sameBody with ⟨rfl, closing⟩
  exact ⟨rfl, rfl, by simpa using closing⟩

theorem Sweep.unique {text first second : Text} (left : Sweep text first)
    (right : Sweep text second) : first = second := by
  induction left generalizing second with
  | done free =>
      cases right with
      | done _ => rfl
      | delete found _ => exact absurd found.block (free _ _ _)
  | delete found _ ih =>
      cases right with
      | done free => exact absurd found.block (free _ _ _)
      | delete other rest =>
          rcases found.unique other with ⟨rfl, rfl, rfl⟩
          rw [ih rest]

/-! ## Dropping block comments is a sweep -/

/-- A text closes a comment exactly when a star and a slash stand in it. -/
theorem closes_iff {text : Text} :
    closes text = true ↔ ∃ body after, text = body ++ '*' :: '/' :: after := by
  fun_induction closes text with
  | case1 after => exact ⟨fun _ => ⟨[], after, rfl⟩, fun _ => rfl⟩
  | case2 => simp
  | case3 c rest open' ih =>
      rw [ih]
      constructor
      · rintro ⟨body, after, rfl⟩
        exact ⟨c :: body, after, rfl⟩
      · rintro ⟨body, after, split⟩
        cases body with
        | nil => exact absurd split (by simpa using fun same => open' after same)
        | cons b body => exact ⟨body, after, (List.cons.inj split).2⟩

/-- A text that begins inside a comment leaves it behind the shortest body. -/
structure ShortestBody (text body after : Text) : Prop where
  /-- The comment closes in the text. -/
  closing : text = body ++ '*' :: '/' :: after
  /-- It does not close earlier. -/
  shortest : ∀ {body' after'}, text = body' ++ '*' :: '/' :: after' → body.length ≤ body'.length

theorem ShortestBody.cons {c : Char} {rest body after : Text}
    (goesOn : ∀ tail, c = '*' → rest ≠ '/' :: tail) (inner : ShortestBody rest body after) :
    ShortestBody (c :: rest) (c :: body) after where
  closing := congrArg (c :: ·) inner.closing
  shortest := by
    intro body' after' split
    cases body' with
    | nil =>
        rcases List.cons.inj split with ⟨star, slash⟩
        exact absurd slash (goesOn after' star)
    | cons b body' => exact Nat.succ_le_succ (inner.shortest (List.cons.inj split).2)

theorem ShortestBody.firstBlock {rest body after : Text} (inner : ShortestBody rest body after) :
    FirstBlock ('/' :: '*' :: rest) [] body after where
  block := by rw [BlockAt, inner.closing]; rfl
  leftmost := fun _ => Nat.zero_le _
  shortest := fun other => inner.shortest (by simpa [BlockAt] using other)

/-- A comment behind a character that opens none is a comment of the rest. -/
theorem BlockAt.tail {c : Char} {rest before body after : Text}
    (plain : ∀ tail, c = '/' → rest ≠ '*' :: tail) (block : BlockAt (c :: rest) before body after) :
    ∃ before', before = c :: before' ∧ BlockAt rest before' body after := by
  cases before with
  | nil =>
      rcases List.cons.inj block with ⟨slash, star⟩
      exact absurd star (plain _ slash)
  | cons b before =>
      rcases List.cons.inj block with ⟨rfl, inner⟩
      exact ⟨before, rfl, inner⟩

theorem FirstBlock.cons {c : Char} {rest before body after : Text}
    (plain : ∀ tail, c = '/' → rest ≠ '*' :: tail) (first : FirstBlock rest before body after) :
    FirstBlock (c :: rest) (c :: before) body after where
  block := congrArg (c :: ·) first.block
  leftmost := by
    intro before' body' after' block
    rcases block.tail plain with ⟨_, rfl, inner⟩
    exact Nat.succ_le_succ (first.leftmost inner)
  shortest := by
    intro body' after' block
    rcases block.tail plain with ⟨_, same, inner⟩
    obtain rfl := (List.cons.inj same).2
    exact first.shortest inner

/-- A character that opens no comment does not disturb the comments behind it. -/
theorem Sweep.cons {c : Char} {rest swept : Text} (plain : ∀ tail, c = '/' → rest ≠ '*' :: tail)
    (sweep : Sweep rest swept) : Sweep (c :: rest) (c :: swept) := by
  cases sweep with
  | done free =>
      apply Sweep.done
      intro before body after block
      rcases block.tail plain with ⟨before', _, inner⟩
      exact free before' body after inner
  | delete first behind => exact Sweep.delete (first.cons plain) behind

/-- An opened comment that nothing closes leaves no comment to delete. -/
theorem blockFree_of_not_closes {rest : Text} (unclosed : ¬closes rest = true) :
    BlockFree ('/' :: '*' :: rest) := by
  intro before body after block
  apply unclosed
  rw [closes_iff]
  match before, block with
  | [], block => exact ⟨body, after, by simpa [BlockAt] using block⟩
  | [_], block => simp [BlockAt] at block
  | _ :: _ :: before, block =>
      refine ⟨before ++ '/' :: '*' :: body, after, ?_⟩
      simp only [BlockAt, List.cons_append, List.cons.injEq] at block
      simp [block.2.2]

/-- A sweep that starts outside a comment or inside one. -/
private def SweepFrom : Bool → Text → Text → Prop
  | false, text, swept => Sweep text swept
  | true, text, swept => ∃ body after, ShortestBody text body after ∧ Sweep after swept

/-- Dropping comments sweeps a text, provided that a comment it begins inside of
is closed. -/
private theorem sweepFrom_dropBlocksFrom (inside : Bool) (text : Text)
    (closed : inside = true → closes text = true) :
    SweepFrom inside text (dropBlocksFrom inside text) := by
  fun_induction dropBlocksFrom inside text with
  | case1 inside =>
      cases inside with
      | false => exact Sweep.done fun before body after block => by simp [BlockAt] at block
      | true => simp [closes] at closed
  | case2 rest ih => exact ⟨[], rest, ⟨rfl, fun _ => Nat.zero_le _⟩, ih (by simp)⟩
  | case3 c rest goesOn ih =>
      have closedRest : closes rest = true := by
        have whole := closed rfl
        rwa [closes.eq_3 c rest goesOn] at whole
      rcases ih fun _ => closedRest with ⟨body, after, shortest, sweep⟩
      exact ⟨c :: body, after, shortest.cons goesOn, sweep⟩
  | case4 rest closedRest ih =>
      rcases ih fun _ => closedRest with ⟨body, after, shortest, sweep⟩
      exact Sweep.delete shortest.firstBlock sweep
  | case5 rest unclosed => exact Sweep.done (blockFree_of_not_closes unclosed)
  | case6 c rest plain ih => exact Sweep.cons plain (ih (by simp))

/-- Dropping block comments sweeps the text. -/
theorem sweep_iff {text swept : Text} : Sweep text swept ↔ dropBlocks text = swept := by
  have sweep : Sweep text (dropBlocks text) := sweepFrom_dropBlocksFrom false text (by simp)
  constructor
  · exact sweep.unique
  · rintro rfl
    exact sweep

/-! ## Texts that a sweep leaves alone -/

theorem Sweep.length_le {text swept : Text} (sweep : Sweep text swept) :
    swept.length ≤ text.length := by
  rw [← sweep_iff.mp sweep]
  exact (dropBlocksFrom_sublist false text).length_le

/-- A sweep leaves a text alone exactly when it holds no block comment. -/
theorem dropBlocks_eq_self_iff {text : Text} : dropBlocks text = text ↔ BlockFree text := by
  rw [← sweep_iff]
  constructor
  · intro sweep
    generalize same : text = swept at sweep
    cases sweep with
    | done free => exact free
    | delete first rest =>
        have shorter := rest.length_le
        have split := congrArg List.length first.block
        have whole := congrArg List.length same
        simp only [List.length_append, List.length_cons] at split whole
        omega
  · exact Sweep.done

/-- What is left of a text once sweeps have deleted all its block comments. -/
def Uncommented (text result : Text) : Prop :=
  Relation.ReflTransGen Sweep text result ∧ BlockFree result

/-- Sweeps that start at a text without block comments stay there. -/
theorem BlockFree.eq_of_sweeps {text result : Text} (free : BlockFree text)
    (sweeps : Relation.ReflTransGen Sweep text result) : result = text := by
  induction sweeps with
  | refl => rfl
  | tail _ sweep same =>
      subst same
      exact sweep.unique (Sweep.done free)

/-- A sweep on the way does not change what is left in the end. -/
theorem Uncommented.of_sweep {text swept result : Text} (uncommented : Uncommented text result)
    (sweep : Sweep text swept) : Uncommented swept result := by
  rcases uncommented with ⟨sweeps, free⟩
  rcases sweeps.cases_head with rfl | ⟨next, first, rest⟩
  · obtain rfl := sweep.unique (Sweep.done free)
    exact ⟨.refl, free⟩
  · obtain rfl := sweep.unique first
    exact ⟨rest, free⟩

/-- However often a text is swept, only one text without block comments can be
left. -/
theorem Uncommented.unique {text first second : Text} (left : Uncommented text first)
    (right : Uncommented text second) : first = second := by
  rcases left with ⟨sweeps, free⟩
  induction sweeps using Relation.ReflTransGen.head_induction_on with
  | refl => exact (free.eq_of_sweeps right.1).symm
  | head sweep _ ih => exact ih (right.of_sweep sweep)

end LoadScript.Comment
