import LoadScript.Proofs.Lines

/-!
# The normal form of a script

A text is *normal* when none of the rules of cleaning applies to it: it is one line
without tabs, no line comment and no block comment stands in it, and it is not a remark.
Among the texts without carriage returns these are exactly the ones that a pass leaves
alone.

The main statement, `clean_is_normal_form`, says that cleaning ends in a normal text, made
from characters of the script in their order, and that it changes all other texts.
-/

namespace LoadScript.Script

open Comment Text

/-- A text to which no rule of cleaning applies. -/
structure Normal (text : Text) : Prop where
  /-- No carriage return stands in the text. -/
  noReturn : '\r' ∉ text
  /-- No line feed stands in the text. -/
  noFeed : '\n' ∉ text
  /-- No tab stands in the text. -/
  noTab : '\t' ∉ text
  /-- No line comment begins in the text. -/
  noLineComment : ∀ before, ¬SlashesAfter before text
  /-- No block comment stands in the text. -/
  noBlockComment : BlockFree text
  /-- The text is not a remark. -/
  noRemark : ¬Remark text

/-! ## Texts that a pass leaves alone -/

/-- A pass leaves a text alone exactly when none of its rules applies. -/
theorem pass_eq_self_iff {text : Text} :
    pass text = text ↔
      Flat text ∧ Unslashed false text ∧ BlockFree text ∧ ¬isRemark text = true := by
  constructor
  · intro fixed
    have flat : Flat text := fixed ▸ flat_pass text
    have unslashed : Unslashed false text := fixed ▸ unslashed_pass text
    rw [pass_of_unslashed flat unslashed] at fixed
    split at fixed
    · rename_i remark
      rw [← fixed] at remark
      exact absurd remark (by decide)
    · rename_i keeps
      exact ⟨flat, unslashed, dropBlocks_eq_self_iff.mp fixed, keeps⟩
  · rintro ⟨flat, unslashed, free, keeps⟩
    rw [pass_of_unslashed flat unslashed, if_neg keeps, dropBlocks_eq_self_iff.mpr free]

theorem normal_iff {text : Text} : Normal text ↔ '\r' ∉ text ∧ pass text = text := by
  rw [pass_eq_self_iff, flat_iff, unslashed_iff, isRemark_iff]
  constructor
  · rintro ⟨noReturn, noFeed, noTab, noLineComment, noBlockComment, noRemark⟩
    exact ⟨noReturn, ⟨noFeed, noTab⟩, noLineComment, noBlockComment, noRemark⟩
  · rintro ⟨noReturn, ⟨noFeed, noTab⟩, noLineComment, noBlockComment, noRemark⟩
    exact ⟨noReturn, noFeed, noTab, noLineComment, noBlockComment, noRemark⟩

/-- Without layout and slashes there is nothing to clean but remarks. -/
theorem normal_of_not_mem {text : Text} (noReturn : '\r' ∉ text) (noFeed : '\n' ∉ text)
    (noTab : '\t' ∉ text) (noSlash : '/' ∉ text) (noRemark : ¬Remark text) :
    Normal text where
  noReturn := noReturn
  noFeed := noFeed
  noTab := noTab
  noLineComment before slashes := noSlash (slashes.1.subset (by simp))
  noBlockComment before body after block := by
    rw [block] at noSlash
    simp at noSlash
  noRemark := noRemark

theorem settle_of_pass_eq {text : Text} (fixed : pass text = text) : settle text = text := by
  rw [settle, if_neg]
  rw [fixed]
  exact Nat.lt_irrefl _

/-- Cleaning leaves normal texts alone. -/
theorem clean_of_normal {text : Text} (normal : Normal text) : clean text = text := by
  rcases normal_iff.mp normal with ⟨noReturn, fixed⟩
  rw [clean, foldLineEnds_of_not_mem noReturn, fixed, settle_of_pass_eq fixed]

/-! ## What is kept of a script -/

/-- Texts from which characters were deleted may be joined. -/
theorem intercalate_map_sublist {shorten : Text → Text}
    (shortens : ∀ text, (shorten text).Sublist text) (mark : Text) (texts : List Text) :
    (List.intercalate mark (texts.map shorten)).Sublist (List.intercalate mark texts) := by
  induction texts with
  | nil => exact List.Sublist.refl _
  | cons text texts ih =>
      cases texts with
      | nil => simpa using shortens text
      | cons next texts =>
          rw [List.map_cons, List.map_cons, List.intercalate_cons_cons,
            List.intercalate_cons_cons, ← List.map_cons]
          exact ((shortens text).append (List.Sublist.refl mark)).append ih

theorem cleanLines_sublist (text : Text) : (cleanLines text).Sublist text := by
  have kept := intercalate_map_sublist (fun line => (cleanLine_isInfix line).sublist) ['\n']
    (text.splitOn '\n')
  rwa [List.intercalate_splitOn] at kept

/-- A pass deletes characters and puts spaces in place of layout, nothing else. -/
theorem pass_sublist (text : Text) : (pass text).Sublist (flatten text) :=
  ((dropBlocksFrom_sublist false _).trans (cleanLines_sublist text)).map _

theorem settle_sublist {text : Text} (flat : Flat text) : (settle text).Sublist text := by
  fun_induction settle text with
  | case1 text _ ih => exact (ih (flat_pass text)).trans (pass_sublist_of_flat flat)
  | case2 text _ => exact List.Sublist.refl text

theorem clean_sublist (source : Text) :
    (clean source).Sublist (flatten (foldLineEnds source)) :=
  (settle_sublist (flat_pass _)).trans (pass_sublist _)

theorem return_not_mem_foldLineEnds (text : Text) : '\r' ∉ foldLineEnds text := by
  fun_induction foldLineEnds text with
  | case1 rest ih => simpa using ih
  | case2 rest _ ih => simpa using ih
  | case3 c rest _ notReturn ih =>
      intro member
      rcases List.mem_cons.mp member with rfl | inRest
      · exact notReturn rfl
      · exact ih inRest
  | case4 => simp

theorem return_not_mem_clean (source : Text) : '\r' ∉ clean source := by
  intro member
  have inFlattened := (clean_sublist source).mem member
  rcases List.mem_map.mp inFlattened with ⟨c, inFolded, same⟩
  rw [flatten_char_eq_iff (by decide) (by decide)] at same
  exact return_not_mem_foldLineEnds source (same ▸ inFolded)

theorem normal_clean (source : Text) : Normal (clean source) :=
  normal_iff.mpr ⟨return_not_mem_clean source, pass_settle (flat_pass _)⟩

/-- Cleaning ends in a normal text.  It invents and reorders nothing: what is left are
characters of the script in their order, with line ends made alike and spaces for line breaks
and tabs.  Exactly the normal texts are left alone, so cleaning twice is cleaning once. -/
theorem clean_is_normal_form (source : Text) :
    Normal (clean source) ∧
    (clean source).Sublist
      ((foldLineEnds source).map fun c => if c = '\n' ∨ c = '\t' then ' ' else c) ∧
    (clean source = source ↔ Normal source) ∧
    clean (clean source) = clean source := by
  refine ⟨normal_clean source, ?_, ?_, clean_of_normal (normal_clean source)⟩
  · have kept := clean_sublist source
    simpa [flatten, isLayout] using kept
  · constructor
    · intro unchanged
      rw [← unchanged]
      exact normal_clean source
    · exact clean_of_normal

end LoadScript.Script
