import LoadScript.Proofs.BlockComment
import LoadScript.Proofs.LineComment
import LoadScript.Proofs.Remark
import LoadScript.Script
import Mathlib.Logic.Function.Iterate

/-!
# What the repeated passes do

A pass leaves a flat text in which no line comment begins: cutting the lines leaves
none, and neither deleting block comments nor joining the lines brings a bare double
slash together.  From the second pass on a text is thus one line, which is either
dropped whole as a remark or swept of its block comments and nothing else.

The main statement, `clean_eq_nil_or_uncommented`, describes the clean text by this.
-/

namespace LoadScript.Script

open Comment

/-! ## No line comment survives a pass -/

/-- Deleting block comments brings no line comment to light.  Behind a comment the
text goes on after a slash, which shields nothing, so whatever stands before the
comment can only shield more. -/
theorem unslashed_dropBlocksFrom {shielded : Bool} (inside : Bool) {text : Text}
    (unslashed : Unslashed shielded text) :
    Unslashed (!inside && shielded) (dropBlocksFrom inside text) := by
  fun_induction dropBlocksFrom inside text generalizing shielded with
  | case1 => exact unslashed_nil _
  | case2 rest ih => exact ih unslashed.2.2
  | case3 c rest _ ih =>
      have behind := ih unslashed.2
      exact behind
  | case4 rest _ ih => exact (ih unslashed.2.2).shield _
  | case5 rest _ => exact unslashed
  | case6 c rest _ ih =>
      rcases unslashed with ⟨front, behind⟩
      refine ⟨?_, ih behind⟩
      rintro ⟨bare, slash, next⟩
      refine front ⟨bare, slash, ?_⟩
      -- Where a comment is deleted, the rest began with a slash of its own.
      cases rest with
      | nil => simp [dropBlocksFrom] at next
      | cons d rest =>
          by_cases opening : d = '/'
          · rw [opening]
            rfl
          · rw [dropBlocksFrom.eq_5 d rest (fun _ slash => absurd slash opening)] at next
            exact next

theorem unslashed_cleanLine (line : Text) : Unslashed false (cleanLine line) := by
  unfold cleanLine dropRemark
  split
  · exact unslashed_nil false
  · exact unslashed_beforeSlashes false line

theorem unslashed_cleanLines (text : Text) : Unslashed false (cleanLines text) := by
  apply unslashed_intercalate (by decide) (by decide)
  intro line member
  rcases List.mem_map.mp member with ⟨original, _, rfl⟩
  exact unslashed_cleanLine original

/-- Flattening makes and unmakes no characters but spaces and layout. -/
theorem flatten_char_eq_iff {c d : Char} (shown : isLayout d = false) (notSpace : d ≠ ' ') :
    (if isLayout c then ' ' else c) = d ↔ c = d := by
  by_cases layout : isLayout c = true
  · rw [if_pos layout]
    constructor
    · intro space
      exact absurd space.symm notSpace
    · rintro rfl
      rw [layout] at shown
      contradiction
  · rw [if_neg layout]

theorem unslashed_flatten {text : Text} :
    Unslashed false (flatten text) ↔ Unslashed false text := by
  apply unslashed_map
  · intro c
    exact flatten_char_eq_iff (by decide) (by decide)
  · intro c
    by_cases layout : isLayout c = true
    · rw [if_pos layout]
      simp only [isLayout, Bool.or_eq_true, beq_iff_eq] at layout
      rcases layout with rfl | rfl <;> decide
    · rw [if_neg layout]

/-- After a pass no line comment begins in the text, whatever went in. -/
theorem unslashed_pass (text : Text) : Unslashed false (pass text) := by
  rw [pass, unslashed_flatten]
  exact unslashed_dropBlocksFrom false (unslashed_cleanLines text)

theorem flat_pass (text : Text) : Flat (pass text) :=
  flat_flatten _

theorem flat_iff {text : Text} : Flat text ↔ '\n' ∉ text ∧ '\t' ∉ text := by
  constructor
  · intro flat
    constructor
    · intro member
      exact absurd (flat '\n' member) (by decide)
    · intro member
      exact absurd (flat '\t' member) (by decide)
  · rintro ⟨noFeed, noTab⟩ c member
    rw [isLayout, Bool.or_eq_false_iff, beq_eq_false_iff_ne, beq_eq_false_iff_ne]
    exact ⟨ne_of_mem_of_not_mem member noFeed, ne_of_mem_of_not_mem member noTab⟩

/-! ## A pass over a text that a pass has left -/

/-- On a flat and unslashed text a pass is the remark rule and a sweep. -/
theorem pass_of_unslashed {text : Text} (flat : Flat text) (unslashed : Unslashed false text) :
    pass text = if isRemark text then [] else dropBlocks text := by
  have sameText : cutLine text = text := beforeSlashes_of_unslashed unslashed
  rw [pass, cleanLines_of_flat flat, cleanLine, sameText, dropRemark]
  split
  · rfl
  · apply flatten_of_flat
    intro c member
    exact flat c ((dropBlocksFrom_sublist false text).mem member)

/-- A pass does not change where the passes end. -/
theorem settle_pass {text : Text} (flat : Flat text) : settle (pass text) = settle text := by
  by_cases shorter : (pass text).length < text.length
  · rw [settle.eq_1 text, if_pos shorter]
  · rw [pass_eq_self_of_flat flat shorter]

@[simp]
theorem settle_nil : settle [] = [] := by
  unfold settle
  exact if_neg (Nat.not_lt_zero _)

/-! ## The texts that enter the passes -/

/-- The text that enters the pass with number `k`, counted from the pass after the
first one. -/
def entering (source : Text) (k : Nat) : Text :=
  pass^[k] (pass (foldLineEnds source))

theorem entering_succ (source : Text) (k : Nat) :
    entering source (k + 1) = pass (entering source k) :=
  Function.iterate_succ_apply' pass k _

theorem entering_eq_pass (source : Text) (k : Nat) :
    entering source k = pass (pass^[k] (foldLineEnds source)) :=
  (Function.iterate_succ_apply pass k _).symm.trans (Function.iterate_succ_apply' pass k _)

theorem flat_entering (source : Text) (k : Nat) : Flat (entering source k) := by
  rw [entering_eq_pass]
  exact flat_pass _

theorem unslashed_entering (source : Text) (k : Nat) : Unslashed false (entering source k) := by
  rw [entering_eq_pass]
  exact unslashed_pass _

/-- The passes end in the same text wherever they are taken up. -/
theorem settle_entering (source : Text) (k : Nat) : settle (entering source k) = clean source := by
  induction k with
  | zero => rfl
  | succ k ih => rw [entering_succ, settle_pass (flat_entering source k), ih]

/-- Passes end at the first text that a further pass leaves alone. -/
theorem exists_settle_eq_iterate {text : Text} (flat : Flat text) :
    ∃ n, settle text = pass^[n] text ∧ pass (settle text) = settle text ∧
      ∀ k < n, pass^[k + 1] text ≠ pass^[k] text := by
  fun_induction settle text with
  | case1 text shorter ih =>
      rcases ih (flat_pass text) with ⟨n, ends, fixed, moving⟩
      refine ⟨n + 1, ends, fixed, ?_⟩
      intro k bound
      cases k with
      | zero =>
          intro same
          rw [Function.iterate_one, Function.iterate_zero_apply] at same
          rw [same] at shorter
          exact Nat.lt_irrefl _ shorter
      | succ k =>
          rw [Function.iterate_succ_apply, Function.iterate_succ_apply]
          exact moving k (Nat.lt_of_succ_lt_succ bound)
  | case2 text long =>
      refine ⟨0, rfl, pass_eq_self_of_flat flat long, ?_⟩
      intro k bound
      exact absurd bound (Nat.not_lt_zero k)

/-- If a remark enters a pass, nothing is left of the script. -/
theorem clean_eq_nil_of_remark {source : Text} {k : Nat}
    (remark : isRemark (entering source k) = true) : clean source = [] := by
  have dropped : entering source (k + 1) = [] := by
    rw [entering_succ, pass_of_unslashed (flat_entering source k) (unslashed_entering source k),
      if_pos remark]
  rw [← settle_entering source (k + 1), dropped, settle_nil]

/-- Without remarks the passes after the first one only sweep. -/
theorem reflTransGen_sweep_entering {source : Text}
    (noRemark : ∀ k, ¬isRemark (entering source k) = true) (k : Nat) :
    Relation.ReflTransGen Sweep (entering source 0) (entering source k) := by
  induction k with
  | zero => exact .refl
  | succ k ih =>
      refine ih.tail (sweep_iff.mpr ?_)
      rw [entering_succ, pass_of_unslashed (flat_entering source k) (unslashed_entering source k),
        if_neg (noRemark k)]

/-- The clean text of a script is the first text entering a pass that the pass
leaves alone. -/
theorem exists_clean_eq_entering (source : Text) :
    ∃ n, clean source = entering source n ∧ entering source (n + 1) = entering source n ∧
      ∀ k < n, entering source (k + 1) ≠ entering source k := by
  rcases exists_settle_eq_iterate (flat_entering source 0) with ⟨n, ends, fixed, moving⟩
  refine ⟨n, ends, ?_, moving⟩
  rw [entering_succ, show entering source n = settle (entering source 0) from ends.symm, fixed]

/-- The passes after the first one.  No line comment begins in a text that enters
one, and the text is one line; a remark that enters one leaves nothing of the
script; and what is left otherwise is the outcome of the first pass without its
block comments. -/
theorem clean_eq_nil_or_uncommented (source : Text) :
    (∃ n, clean source = entering source n ∧ entering source (n + 1) = entering source n ∧
      ∀ k < n, entering source (k + 1) ≠ entering source k) ∧
    (∀ k, Flat (entering source k) ∧ ∀ before, ¬SlashesAfter before (entering source k)) ∧
    (∀ k, Remark (entering source k) → clean source = []) ∧
    (clean source = [] ∨
      ∀ result, Uncommented (pass (foldLineEnds source)) result ↔ result = clean source) := by
  refine ⟨exists_clean_eq_entering source, ?_, ?_, ?_⟩
  · intro k
    exact ⟨flat_entering source k, unslashed_iff.mp (unslashed_entering source k)⟩
  · intro k remark
    exact clean_eq_nil_of_remark (isRemark_iff.mpr remark)
  · by_cases remarked : ∃ k, isRemark (entering source k) = true
    · rcases remarked with ⟨k, remark⟩
      exact .inl (clean_eq_nil_of_remark remark)
    · have noRemark := not_exists.mp remarked
      rcases exists_clean_eq_entering source with ⟨n, ends, fixed, _⟩
      have free : BlockFree (clean source) := by
        rw [ends, ← dropBlocks_eq_self_iff]
        rwa [entering_succ, pass_of_unslashed (flat_entering source n)
          (unslashed_entering source n), if_neg (noRemark n)] at fixed
      have uncommented : Uncommented (pass (foldLineEnds source)) (clean source) :=
        ⟨ends ▸ reflTransGen_sweep_entering noRemark n, free⟩
      refine .inr fun result => ⟨fun other => other.unique uncommented, ?_⟩
      rintro rfl
      exact uncommented

end LoadScript.Script
