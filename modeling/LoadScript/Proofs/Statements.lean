import LoadScript.Statement
import Mathlib.Data.List.DropRight

/-!
# The statements of a text

Statements are made of the characters of their text, without its terminators.  Behind a
terminator a text is cut as if it began there, so the statements of two texts, the first of
which ends a statement, are those of the first followed by those of the second under higher
numbers.

The main statement, `listOf_exact`, says by what the statements of a text are determined: put
together again they give the text, up to its last terminator.
-/

namespace LoadScript

/-! ## Parts between marks -/

/-- The parts between marks hold characters of the text, and no mark. -/
theorem Text.mem_of_mem_splitOn {mark c : Char} {text piece : Text}
    (member : piece ∈ text.splitOn mark) (inside : c ∈ piece) : c ∈ text ∧ c ≠ mark := by
  induction text generalizing piece with
  | nil =>
      rw [List.splitOn_nil, List.mem_singleton] at member
      simp [member] at inside
  | cons first rest ih =>
      rw [List.splitOn_cons_eq_if_modifyHead] at member
      split at member
      · rcases List.mem_cons.mp member with rfl | inRest
        · simp at inside
        · rcases ih inRest inside with ⟨inText, notMark⟩
          exact ⟨List.mem_cons_of_mem first inText, notMark⟩
      · rename_i notMark
        cases cut : rest.splitOn mark with
        | nil => exact absurd cut (List.splitOn_ne_nil mark rest)
        | cons head pieces =>
            rw [cut] at ih member
            rcases List.mem_cons.mp member with rfl | inPieces
            · rcases List.mem_cons.mp inside with rfl | inHead
              · exact ⟨List.mem_cons_self, by simpa using notMark⟩
              · rcases ih List.mem_cons_self inHead with ⟨inText, notMark⟩
                exact ⟨List.mem_cons_of_mem first inText, notMark⟩
            · rcases ih (List.mem_cons_of_mem head inPieces) inside with ⟨inText, notMark⟩
              exact ⟨List.mem_cons_of_mem first inText, notMark⟩

theorem Text.length_splitOn (mark : Char) (text : Text) :
    (text.splitOn mark).length = text.count mark + 1 := by
  induction text with
  | nil => rfl
  | cons c rest ih =>
      rw [List.splitOn_cons_eq_if_modifyHead, List.count_cons]
      split
      · rw [List.length_cons, ih]
      · rw [List.length_modifyHead, ih, Nat.add_zero]

theorem Text.intercalate_cons {mark : Text} (first : Text) (texts : List Text) :
    List.intercalate mark (first :: texts) = first ++ texts.flatMap (mark ++ ·) := by
  induction texts generalizing first with
  | nil => simp
  | cons next texts ih =>
      rw [List.intercalate_cons_cons, ih]
      simp

theorem Text.intercalate_concat {mark : Char} (texts : List Text) (last : Text) :
    List.intercalate [mark] (texts ++ [last]) = texts.flatMap (· ++ [mark]) ++ last := by
  induction texts with
  | nil => simp
  | cons text texts ih =>
      rw [List.cons_append, List.intercalate_cons_of_ne_nil (by simp), ih]
      simp

/-- Behind parts that end with a mark, what follows the last mark is what was put there. -/
theorem Text.rtakeWhile_flatMap_append {mark : Char} (texts : List Text) {last : Text}
    (noMark : mark ∉ last) :
    (texts.flatMap (· ++ [mark]) ++ last).rtakeWhile (· != mark) = last := by
  have unmarked : ∀ c ∈ last.reverse, (c != mark) = true := by
    intro c member
    simpa using ne_of_mem_of_not_mem (List.mem_reverse.mp member) noMark
  rw [List.rtakeWhile, List.reverse_append, List.takeWhile_append_of_pos unmarked]
  rcases texts.eq_nil_or_concat with rfl | ⟨front, text, rfl⟩
  · simp
  · simp

namespace Statement

/-- A statement holds characters of the text, and no terminator. -/
theorem mem_of_mem_listOf {text : Text} {statement : Statement} {c : Char}
    (member : statement ∈ listOf text) (inside : c ∈ statement.text) :
    c ∈ text ∧ c ≠ terminator := by
  rw [listOf, List.mem_mapIdx] at member
  rcases member with ⟨place, bound, rfl⟩
  exact Text.mem_of_mem_splitOn (List.dropLast_subset _ (List.getElem_mem bound)) inside

/-- The statement under a number that is higher by `count`. -/
def shift (count : Nat) (statement : Statement) : Statement :=
  { statement with index := statement.index + count }

@[simp]
theorem shift_zero (statement : Statement) : statement.shift 0 = statement :=
  rfl

/-- Numbering texts from a higher number on shifts the statements. -/
theorem mapIdx_shift (count : Nat) (texts : List Text) :
    texts.mapIdx (fun place text => Statement.mk (place + count) text) =
      (texts.mapIdx Statement.mk).map (shift count) := by
  apply List.ext_getElem?
  intro place
  simp only [List.getElem?_map, List.getElem?_mapIdx, Option.map_map]
  rfl

theorem listOf_append_terminator (before : Text) :
    listOf (before ++ [terminator]) = (before.splitOn terminator).mapIdx Statement.mk := by
  rw [listOf, List.splitOn_append_cons_self, List.splitOn_nil, List.dropLast_concat]

/-- Behind a terminator the statements are those of what follows it. -/
theorem listOf_append_cons (before behind : Text) :
    listOf (before ++ terminator :: behind) =
      listOf (before ++ [terminator]) ++
        (listOf behind).map (shift (listOf (before ++ [terminator])).length) := by
  rw [listOf_append_terminator, List.length_mapIdx, listOf, List.splitOn_append_cons_self,
    List.dropLast_append_of_ne_nil (List.splitOn_ne_nil terminator behind), List.mapIdx_append,
    mapIdx_shift]
  rfl

/-- A text that is empty or ends a statement leaves the statements of the next one as they
are, but for their numbers. -/
theorem listOf_append {before : Text} (ended : before = [] ∨ before.getLast? = some terminator)
    (behind : Text) :
    listOf (before ++ behind) =
      listOf before ++ (listOf behind).map (shift (listOf before).length) := by
  rcases ended with rfl | ended
  · have unshifted : (listOf behind).map (shift 0) = listOf behind := List.map_id _
    exact unshifted.symm
  · rcases List.getLast?_eq_some_iff.mp ended with ⟨front, rfl⟩
    rw [List.append_assoc, List.singleton_append, listOf_append_cons]

/-! ## The exact cut -/

/-- Texts that are joined by terminators are the statements again, without the last
one. -/
theorem listOf_intercalate (texts : List Text) {last : Text}
    (noTerminator : ∀ text ∈ texts ++ [last], terminator ∉ text) :
    listOf (List.intercalate [terminator] (texts ++ [last])) = texts.mapIdx Statement.mk := by
  rw [listOf, List.splitOn_intercalate terminator noTerminator (by simp), List.dropLast_concat]

/-- Some statements as the exact cut of a text. -/
structure Cut (text : Text) (statements : List Statement) : Prop where
  /-- There is one statement for each terminator. -/
  count : statements.length = text.count terminator
  /-- Statements are numbered by their places. -/
  numbered : ∀ (place : Nat) (statement : Statement),
    statements[place]? = some statement → statement.index = place
  /-- No terminator stands inside a statement. -/
  whole : ∀ statement ∈ statements, terminator ∉ statement.text
  /-- The statements, each with its terminator, and what follows the last terminator give the
  text. -/
  rejoined : statements.flatMap (fun statement => statement.text ++ [terminator]) ++
    text.rtakeWhile (· != terminator) = text

/-- Statements that are numbered by their places are known from their texts. -/
theorem mapIdx_map_text {statements : List Statement}
    (numbered : ∀ (place : Nat) (statement : Statement),
      statements[place]? = some statement → statement.index = place) :
    (statements.map Statement.text).mapIdx Statement.mk = statements := by
  apply List.ext_getElem?
  intro place
  rw [List.getElem?_mapIdx, List.getElem?_map]
  cases found : statements[place]? with
  | none => rfl
  | some statement =>
      obtain rfl := numbered place statement found
      rfl

theorem map_text_listOf (text : Text) :
    (listOf text).map Statement.text = (text.splitOn terminator).dropLast := by
  apply List.ext_getElem?
  intro place
  rw [listOf, List.getElem?_map, List.getElem?_mapIdx, Option.map_map]
  exact Option.map_id_apply

theorem Cut.eq_listOf {text : Text} {statements : List Statement} (cut : Cut text statements) :
    statements = listOf text := by
  have joined : List.intercalate [terminator] (statements.map Statement.text ++
      [text.rtakeWhile (· != terminator)]) = text := by
    rw [Text.intercalate_concat, List.flatMap_map, cut.rejoined]
  have noTerminator : ∀ piece ∈ statements.map Statement.text ++
      [text.rtakeWhile (· != terminator)], terminator ∉ piece := by
    intro piece member
    rcases List.mem_append.mp member with inStatements | atEnd
    · rcases List.mem_map.mp inStatements with ⟨statement, present, rfl⟩
      exact cut.whole statement present
    · intro inside
      rw [List.mem_singleton.mp atEnd] at inside
      simpa using List.mem_rtakeWhile_imp inside
  rw [← joined, listOf_intercalate _ noTerminator, mapIdx_map_text cut.numbered]

theorem cut_listOf (text : Text) : Cut text (listOf text) where
  count := by
    rw [listOf, List.length_mapIdx, List.length_dropLast, Text.length_splitOn, Nat.add_sub_cancel]
  numbered _ _ found := index_of_getElem? found
  whole _ member inside := (mem_of_mem_listOf member inside).2 rfl
  rejoined := by
    have nonempty := List.splitOn_ne_nil terminator text
    have joined : (text.splitOn terminator).dropLast.flatMap (· ++ [terminator]) ++
        (text.splitOn terminator).getLast nonempty = text := by
      rw [← Text.intercalate_concat, List.dropLast_concat_getLast, List.intercalate_splitOn]
    have noTerminator : terminator ∉ (text.splitOn terminator).getLast nonempty :=
      fun inside => (Text.mem_of_mem_splitOn (List.getLast_mem nonempty) inside).2 rfl
    have behind := Text.rtakeWhile_flatMap_append (text.splitOn terminator).dropLast noTerminator
    rw [joined] at behind
    rw [behind, ← List.flatMap_map Statement.text (· ++ [terminator]), map_text_listOf, joined]

/-- The statements of a text are its exact cut, and nothing else is.  A text behind a terminator
adds its own statements under higher numbers. -/
theorem listOf_exact :
    (∀ text statements, Cut text statements ↔ statements = listOf text) ∧
    ∀ before behind : Text,
      listOf (before ++ [terminator] ++ behind) =
        listOf (before ++ [terminator]) ++
          (listOf behind).map (shift (listOf (before ++ [terminator])).length) := by
  refine ⟨?_, ?_⟩
  · intro text statements
    constructor
    · exact Cut.eq_listOf
    · rintro rfl
      exact cut_listOf text
  · intro before behind
    rw [List.append_assoc, List.singleton_append, listOf_append_cons]

end Statement

end LoadScript
