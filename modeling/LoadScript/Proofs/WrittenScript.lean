import LoadScript.Proofs.Literal
import LoadScript.Proofs.Statements
import LoadScript.Proofs.Stepping
import LoadScript.Session

/-!
# Scripts written from assignments

Assignments are written down one to a line.  Every line comes through cleaning,
cutting and expanding as it was written, is claimed and executed by the form of
assignments, and writes its value.  The main statement, `exec_script`, says that
running a written script makes exactly the written assignments.
-/

namespace LoadScript

open Text Comment Script

/-- An assignment as it is written. -/
structure WrittenAssignment where
  /-- The keyword, in the letter case chosen. -/
  keyword : Text
  /-- The name of the variable. -/
  name : Text
  /-- The value. -/
  literal : Literal

namespace WrittenAssignment

/-- An assignment that may be written. -/
structure Valid (written : WrittenAssignment) : Prop where
  /-- The keyword is one of the two. -/
  verb : Assignment.Verb written.keyword
  /-- The name is a variable name. -/
  named : isName written.name = true
  /-- The literal can be written. -/
  literal : written.literal.Valid

theorem valid_iff {written : WrittenAssignment} :
    written.Valid ↔ Assignment.Verb written.keyword ∧ isName written.name = true ∧
      written.literal.Valid :=
  ⟨fun ⟨verb, named, literal⟩ => ⟨verb, named, literal⟩,
    fun ⟨verb, named, literal⟩ => ⟨verb, named, literal⟩⟩

instance : DecidablePred Valid :=
  fun _ => decidable_of_iff _ valid_iff.symm

/-- The statement of an assignment, without its terminator. -/
def statement (written : WrittenAssignment) : Text :=
  written.keyword ++ ' ' :: (written.name ++ ' ' :: '=' :: ' ' :: written.literal.text)

/-- The line of an assignment. -/
def line (written : WrittenAssignment) : Text :=
  written.statement ++ [terminator]

/-- The variables after an assignment. -/
def write (vars : Store) (written : WrittenAssignment) : Store :=
  vars.set written.name written.literal.value

/-! ## One statement -/

variable {written : WrittenAssignment}

theorem Valid.keyword_shown (valid : written.Valid) :
    ∀ c ∈ written.keyword, isBlank c = false :=
  fun _ member => valid.verb.isBlank_eq_false member

theorem Valid.name_shown (valid : written.Valid) : ∀ c ∈ written.name, isBlank c = false :=
  fun _ member => (Assignment.target_of_isName valid.named).isBlank_eq_false member

theorem Valid.tame_statement (valid : written.Valid) : Tame written.statement := by
  have keyword : Tame written.keyword :=
    tame_of_forall (fun c => isLetter (fold c)) (fun c => valid.verb.isLetter_fold) (by decide)
  have name : Tame written.name :=
    tame_of_forall isNameChar (fun c => isNameChar_of_mem_isName valid.named) (by decide)
  have value : Tame ('=' :: ' ' :: written.literal.text) :=
    tame_nil.join (tame_nil.join (Literal.tame_text valid.literal) (by decide)) (by decide)
  exact keyword.join (name.join value (by decide)) (by decide)

theorem Valid.head?_statement (valid : written.Valid) :
    Assignment.head? written.statement = some (written.name, ' ' :: written.literal.text) :=
  Assignment.head?_assignment valid.verb (Assignment.target_of_isName valid.named) _

/-- No head stands behind the keyword of a written statement. -/
theorem Valid.innerHeads_statement (valid : written.Valid) :
    Assignment.innerHeads written.statement = 0 := by
  rcases Literal.text_front written.literal with ⟨c, rest, split, _, front⟩
  have atValue : Assignment.head? written.literal.text = none := by
    rw [split]
    exact Assignment.head?_eq_none_of_front front
  rw [statement, Assignment.innerHeads_assignment valid.keyword_shown valid.name_shown,
    Assignment.innerHeads_space_cons atValue]
  exact Literal.innerHeads_text valid.literal

theorem Valid.headCount_statement (valid : written.Valid) :
    Assignment.headCount written.statement = 1 := by
  rw [Assignment.headCount, valid.head?_statement, valid.innerHeads_statement]
  rfl

/-! ## A statement behind blanks is executed -/

section Blanks

variable {blanks : Text} (blank : ∀ c ∈ blanks, isBlank c = true) (valid : written.Valid)

include blank valid

theorem dropWhile_blanks_statement :
    (blanks ++ written.statement).dropWhile isBlank = written.statement :=
  dropWhile_isBlank_append blank valid.verb.head_append

theorem claims_blanks_statement : Assignment.claims (blanks ++ written.statement) = true := by
  have verbRead : Assignment.afterVerb? written.statement =
      some (' ' :: (written.name ++ ' ' :: '=' :: ' ' :: written.literal.text)) :=
    valid.verb.afterVerb?_append _
  rw [Assignment.claims, dropWhile_blanks_statement blank valid, verbRead]
  have spaceEnds : isWord ' ' = false := by decide
  simp only [spaceEnds, Bool.not_false]

theorem ofText?_blanks_statement :
    Assignment.ofText? (blanks ++ written.statement) =
      some (written.name, written.literal.text) := by
  have valueRead : afterBlanks? (' ' :: written.literal.text) = some written.literal.text := by
    rcases Literal.text_front written.literal with ⟨c, rest, split, shown, _⟩
    rw [Assignment.afterBlanks?_eq_some_iff, split]
    exact ⟨[' '], Assignment.gap_space, rfl, by simpa using shown⟩
  simp [Assignment.ofText?, dropWhile_blanks_statement blank valid, valid.head?_statement,
    valueRead]

theorem noReference_blanks_statement : ¬['$', '('] <:+: blanks ++ written.statement := by
  induction blanks with
  | nil => exact valid.tame_statement.noReference
  | cons c blanks ih =>
      rw [List.cons_append, pair_infix_cons_iff]
      rintro (⟨rfl, _⟩ | pair)
      · exact absurd (blank '$' List.mem_cons_self) (by decide)
      · exact ih (fun d member => blank d (List.mem_cons_of_mem c member)) pair

/-- The form of assignments alone claims a written statement, and writes its value. -/
theorem dispatch_blanks_statement (state : State) :
    Registry.standard.dispatch (blanks ++ written.statement) state =
      (.executed Assignment.form.name, ⟨write state.vars written, state.next + 1⟩) := by
  have alone : Registry.standard.claimants (blanks ++ written.statement) = [Assignment.form] :=
    List.filter_cons_of_pos (claims_blanks_statement blank valid)
  have executes : Assignment.form.execute (blanks ++ written.statement) state =
      (.executed, ⟨write state.vars written, state.next + 1⟩) := by
    change Assignment.execute _ _ = _
    rw [Assignment.execute, Assignment.headCount_blanks_append blank, valid.headCount_statement,
      ofText?_blanks_statement blank valid]
    simp only [Literal.coerce_text valid.literal]
    rfl
  simp only [Registry.dispatch, alone, executes]

end Blanks

/-! ## The lines of a script -/

theorem Valid.not_isRemark_statement (valid : written.Valid) (rest : Text) :
    ¬isRemark (written.statement ++ rest) = true := by
  rw [isRemark_iff, statement, List.append_assoc]
  exact valid.verb.not_remark

theorem Valid.plainLine_line (valid : written.Valid) : PlainLine written.line where
  noReturn := by simp [line, terminator, valid.tame_statement.noReturn]
  noFeed := by
    have noFeed : '\n' ∉ written.statement := fun member =>
      absurd (valid.tame_statement.flat '\n' member) (by decide)
    simp [line, terminator, noFeed]
  closed := by
    rw [line, pair_infix_append_cons_iff (by decide) (by decide)]
    rintro (opened | opened)
    · exact valid.tame_statement.noBlock opened
    · simp at opened

/-- A written line comes through the first pass as it is. -/
theorem Valid.flatLine_line (valid : written.Valid) : flatLine written.line = written.line := by
  have unslashed : Unslashed false written.line :=
    (unslashed_append_cons (by decide)).mpr ⟨valid.tame_statement.unslashed, unslashed_nil _⟩
  have uncut : cutLine written.line = written.line := beforeSlashes_of_unslashed unslashed
  have flat : Flat written.line := by
    intro c member
    rcases List.mem_append.mp member with inStatement | isTerminator
    · exact valid.tame_statement.flat c inStatement
    · obtain rfl := List.mem_singleton.mp isTerminator
      rfl
  have noRemark : ¬isRemark written.line = true := valid.not_isRemark_statement [terminator]
  rw [flatLine, cleanLine, uncut, dropRemark, if_neg noRemark, flatten_of_flat flat]

/-- The script of some assignments, one to a line.  Any number of line breaks may
follow the last line. -/
def script (breaks : Nat) (assignments : List WrittenAssignment) : Text :=
  List.intercalate ['\n'] (assignments.map line ++ List.replicate breaks [])

/-- The statements of a script, as they are cut: each but the first has the space in
front that its line break became. -/
def pieces : List WrittenAssignment → List Text
  | [] => []
  | first :: rest => first.statement :: rest.map fun written => ' ' :: written.statement

section Script

variable {assignments : List WrittenAssignment}
  (valid : ∀ written ∈ assignments, written.Valid) (breaks : Nat)

include valid

theorem plain_and_flat_lines : ∀ text ∈ assignments.map line ++ List.replicate breaks [],
    PlainLine text ∧ flatLine text = text := by
  intro text member
  rcases List.mem_append.mp member with isLine | isEmpty
  · rcases List.mem_map.mp isLine with ⟨written, present, rfl⟩
    exact ⟨(valid written present).plainLine_line, (valid written present).flatLine_line⟩
  · obtain rfl := List.eq_of_mem_replicate isEmpty
    exact ⟨⟨by simp, by simp, by simp⟩, rfl⟩

/-- Line breaks become spaces, and nothing else is changed, unless what is left is a
remark. -/
theorem clean_script :
    clean (script breaks assignments) =
      if isRemark (List.intercalate [' '] (assignments.map line ++ List.replicate breaks []))
      then []
      else List.intercalate [' '] (assignments.map line ++ List.replicate breaks []) := by
  have plainAndFlat := plain_and_flat_lines valid breaks
  have same : (assignments.map line ++ List.replicate breaks []).map flatLine =
      assignments.map line ++ List.replicate breaks [] :=
    (List.map_congr_left fun text member => (plainAndFlat text member).2).trans (List.map_id _)
  rw [script, clean_intercalate fun text member => (plainAndFlat text member).1, same]

theorem pieces_noTerminator : ∀ piece ∈ pieces assignments, terminator ∉ piece := by
  cases assignments with
  | nil => simp [pieces]
  | cons first rest =>
      intro piece member
      rcases List.mem_cons.mp member with rfl | inRest
      · exact (valid first List.mem_cons_self).tame_statement.noTerminator
      · rcases List.mem_map.mp inRest with ⟨written, present, rfl⟩
        have validWritten := valid written (List.mem_cons_of_mem first present)
        simpa [terminator] using validWritten.tame_statement.noTerminator

/-- A script is cut into the written statements. -/
theorem listOf_clean_script :
    Statement.listOf (clean (script breaks assignments)) =
      (pieces assignments).mapIdx Statement.mk := by
  rw [clean_script valid]
  cases assignments with
  | nil =>
      have noTerminator : terminator ∉ List.intercalate [' '] (List.replicate breaks []) := by
        apply intercalate_induction (motive := fun text => terminator ∉ text) (by simp)
        · intro left right absentLeft absentRight
          simpa [terminator] using ⟨absentLeft, absentRight⟩
        · intro text member
          obtain rfl := List.eq_of_mem_replicate member
          simp
      rw [List.map_nil, List.nil_append]
      split
      · rfl
      · have none := Statement.listOf_intercalate [] (List.forall_mem_singleton.mpr noTerminator)
        simpa [pieces] using none
  | cons first rest =>
      have cut : List.intercalate [' '] ((first :: rest).map line ++ List.replicate breaks []) =
          List.intercalate [terminator]
            (pieces (first :: rest) ++ [List.replicate breaks ' ']) := by
        rw [List.map_cons, List.cons_append, intercalate_cons, intercalate_concat, pieces]
        simp [line, List.flatMap_map, List.flatMap_replicate]
      have noRemark : ¬isRemark (List.intercalate [' ']
          ((first :: rest).map line ++ List.replicate breaks [])) = true := by
        rw [List.map_cons, List.cons_append, intercalate_cons, line, List.append_assoc]
        exact (valid first List.mem_cons_self).not_isRemark_statement _
      have noTerminator : ∀ piece ∈ pieces (first :: rest) ++ [List.replicate breaks ' '],
          terminator ∉ piece := by
        intro piece member
        rcases List.mem_append.mp member with isPiece | isLast
        · exact pieces_noTerminator valid piece isPiece
        · obtain rfl := List.mem_singleton.mp isLast
          intro inSpaces
          exact absurd (List.eq_of_mem_replicate inSpaces) (by decide)
      rw [if_neg noRemark, cut, Statement.listOf_intercalate _ noTerminator]

end Script

theorem getElem?_pieces {assignments : List WrittenAssignment} {k : Nat}
    (found : assignments[k]? = some written) :
    ∃ blanks, (∀ c ∈ blanks, isBlank c = true) ∧
      (pieces assignments)[k]? = some (blanks ++ written.statement) := by
  cases assignments with
  | nil => simp at found
  | cons first rest =>
      cases k with
      | zero =>
          obtain rfl : first = written := by simpa using found
          exact ⟨[], by simp, rfl⟩
      | succ k =>
          have behind : rest[k]? = some written := by simpa using found
          exact ⟨[' '], List.forall_mem_singleton.mpr rfl, by simp [pieces, behind]⟩

@[simp]
theorem length_pieces (assignments : List WrittenAssignment) :
    (pieces assignments).length = assignments.length := by
  cases assignments with
  | nil => rfl
  | cons first rest => simp [pieces]

/-! ## Runs of written statements -/

/-- The step over a written statement makes its assignment. -/
theorem step_eq_executed {run : Run} {blanks : Text} (standard : run.registry = .standard)
    (blank : ∀ c ∈ blanks, isBlank c = true) (valid : written.Valid)
    (found : run.statements[run.state.next]? =
      some ⟨run.state.next, blanks ++ written.statement⟩) :
    run.step = (.executed run.state.next Assignment.form.name,
      run.goTo (write run.state.vars written) (run.state.next + 1)) := by
  have shown : ¬Statement.isBlank ⟨run.state.next, blanks ++ written.statement⟩ = true := by
    rw [Run.isBlank_iff]
    intro allBlank
    rcases List.exists_mem_of_ne_nil _ valid.verb.ne_nil with ⟨c, inKeyword⟩
    have isBlank := allBlank c (by simp [statement, inKeyword])
    rw [valid.keyword_shown c inKeyword] at isBlank
    contradiction
  have unchanged : Run.expanded run.state.vars ⟨run.state.next, blanks ++ written.statement⟩ =
      blanks ++ written.statement :=
    expand_eq_self (noReference_blanks_statement blank valid)
  simp only [Run.step, found, if_neg shown, unchanged, standard,
    dispatch_blanks_statement blank valid]

/-- A run at the first of the statements of some assignments. -/
structure Carries (run : Run) (assignments : List WrittenAssignment) : Prop where
  /-- The forms are those built in. -/
  standard : run.registry = .standard
  /-- No statement has been handled. -/
  fresh : run.state.next = 0
  /-- The assignments may be written. -/
  valid : ∀ written ∈ assignments, written.Valid
  /-- There are no further statements. -/
  length : run.statements.length = assignments.length
  /-- Each assignment has its statement, behind blanks if any. -/
  placed : ∀ (k : Nat) (written : WrittenAssignment), assignments[k]? = some written →
    ∃ blanks, (∀ c ∈ blanks, isBlank c = true) ∧
      run.statements[k]? = some ⟨k, blanks ++ written.statement⟩

theorem carries_start {assignments : List WrittenAssignment}
    (valid : ∀ written ∈ assignments, written.Valid) (vars : Store) (breaks : Nat) :
    Carries (.start .standard vars (script breaks assignments)) assignments where
  standard := rfl
  fresh := rfl
  valid := valid
  length := by
    rw [Run.start, listOf_clean_script valid, List.length_mapIdx, length_pieces]
  placed := by
    intro k written found
    rcases getElem?_pieces found with ⟨blanks, blank, piece⟩
    refine ⟨blanks, blank, ?_⟩
    rw [Run.start, listOf_clean_script valid, List.getElem?_mapIdx, piece]
    rfl

namespace Carries

variable {run : Run} {assignments : List WrittenAssignment} (carries : Carries run assignments)

include carries

theorem step_after {k : Nat} (found : assignments[k]? = some written) :
    (run.after k).step = (.executed k Assignment.form.name,
      (run.after k).goTo (write (run.after k).state.vars written) (k + 1)) := by
  have bound := (List.getElem?_eq_some_iff.mp found).1
  have next : (run.after k).state.next = k := by
    rw [Run.next_after carries.fresh, carries.length]
    exact Nat.min_eq_left (Nat.le_of_lt bound)
  have standard : (run.after k).registry = .standard := by
    rw [Run.registry_after, carries.standard]
  rcases carries.placed k written found with ⟨blanks, blank, placed⟩
  have atNext : (run.after k).statements[(run.after k).state.next]? =
      some ⟨(run.after k).state.next, blanks ++ written.statement⟩ := by
    rw [next, Run.statements_after, placed]
  have handled := step_eq_executed standard blank
    (carries.valid written (List.mem_of_getElem? found)) atNext
  rwa [next] at handled

/-- After some steps as many assignments have been made. -/
theorem vars_after {k : Nat} (bound : k ≤ assignments.length) :
    (run.after k).state.vars = (assignments.take k).foldl write run.state.vars := by
  induction k with
  | zero => rfl
  | succ k ih =>
      have found := List.getElem?_eq_getElem bound
      rw [Run.after_succ, carries.step_after found, List.take_succ_eq_append_getElem bound,
        List.foldl_append, ← ih (Nat.le_of_lt bound)]
      rfl

theorem steps_finish :
    run.finish.1.map Run.Visit.step =
      (List.range assignments.length).map fun k => .executed k Assignment.form.name := by
  rw [Run.visits_finish carries.fresh, carries.length, ← List.range_eq_range', List.map_map]
  apply List.map_congr_left
  intro k member
  have found := List.getElem?_eq_getElem (List.mem_range.mp member)
  simp only [Function.comp_apply, Run.visit, carries.step_after found]

theorem diagnosticsOf_finish : Run.diagnosticsOf run.finish.1 = [] := by
  rw [Run.diagnosticsOf_eq, carries.steps_finish, List.filterMap_eq_nil_iff]
  intro step member
  rcases List.mem_map.mp member with ⟨k, _, rfl⟩
  rfl

theorem summaryOf_finish :
    run.summaryOf run.finish.1 = ⟨assignments.length, assignments.length, 0, 0⟩ := by
  rw [Run.summaryOf, carries.steps_finish, carries.length]
  simp [Summary.ofSteps, List.countP_map, List.filterMap_map, Function.comp_def,
    Step.isExecuted, Step.isSkipped, Step.diagnostic?]

theorem vars_finish :
    run.finish.2.state.vars = assignments.foldl write run.state.vars := by
  rw [Run.final_finish carries.fresh, carries.length, carries.vars_after (Nat.le_refl _),
    List.take_length]

end Carries

/-- Running a written script makes the written assignments, in order, whatever the
variables before: nothing is reported, and every assignment is one executed
statement. -/
theorem exec_script {assignments : List WrittenAssignment}
    (valid : ∀ written ∈ assignments, written.Valid) (vars : Store) (breaks : Nat) :
    ((Session.mk .standard vars).exec (script breaks assignments)).diagnostics = [] ∧
    ((Session.mk .standard vars).exec (script breaks assignments)).visits.map Run.Visit.step =
      (List.range assignments.length).map (fun k => .executed k Assignment.form.name) ∧
    ((Session.mk .standard vars).exec (script breaks assignments)).summary =
      ⟨assignments.length, assignments.length, 0, 0⟩ ∧
    ((Session.mk .standard vars).exec (script breaks assignments)).session =
      ⟨.standard, assignments.foldl write vars⟩ := by
  have carries := carries_start valid vars breaks
  refine ⟨carries.diagnosticsOf_finish, carries.steps_finish, carries.summaryOf_finish, ?_⟩
  exact congrArg (Session.mk .standard) carries.vars_finish

/-- Double slashes behind a colon and a keyword without a head are kept in a text. -/
theorem exec_script_number_and_text :
    ((Session.mk .standard .empty).exec (script 1
      [⟨['S', 'e', 'T'], ['a', '.', 'b'], .number 42⟩,
        ⟨['L', 'E', 'T'], ['a'], .quoted ['x', ':', '/', '/', 'y', ' ', 's', 'e', 't']⟩])).session =
      ⟨.standard, (Store.empty.set ['a', '.', 'b'] (.integer 42)).set ['a']
        (.string ['x', ':', '/', '/', 'y', ' ', 's', 'e', 't'])⟩ :=
  (exec_script (by decide +kernel) .empty 1).2.2.2

end WrittenAssignment

end LoadScript
