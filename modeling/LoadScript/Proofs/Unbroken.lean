import LoadScript.Proofs.AssignedNames
import LoadScript.Proofs.NormalForm
import LoadScript.Proofs.Statements
import LoadScript.Proofs.WrittenScript
import LoadScript.Store.Table

/-!
# Texts that break no line

A text is *unbroken* when no line feed, carriage return, tab or terminator stands in it.
Cleaning and cutting a script leaves unbroken statements.  From then on texts are only taken
apart and put together: a reference brings in the text of a value, an assignment stores a
part of the expanded statement, a diagnostic repeats the statement.  A store without broken
texts therefore stays so.

The main statement, `execAll_unbroken`, says this of every number of scripts that share one
store, and that each entry of such a store fills one line of the table.
-/

namespace LoadScript

open Text

namespace Text

/-- The characters that break or bend a line, or end a statement. -/
def breaks : List Char :=
  ['\n', '\r', '\t', terminator]

/-- A text in which none of these characters stands. -/
def Unbroken (text : Text) : Prop :=
  ∀ c ∈ text, c ∉ breaks

theorem all_not_contains_breaks_iff {text : Text} :
    (text.all fun c => !breaks.contains c) = true ↔ Unbroken text := by
  simp [Unbroken]

instance : DecidablePred Unbroken := fun _ =>
  decidable_of_decidable_of_iff all_not_contains_breaks_iff

@[simp]
theorem unbroken_cons_iff {c : Char} {text : Text} :
    Unbroken (c :: text) ↔ c ∉ breaks ∧ Unbroken text :=
  List.forall_mem_cons

@[simp]
theorem unbroken_append_iff {left right : Text} :
    Unbroken (left ++ right) ↔ Unbroken left ∧ Unbroken right :=
  List.forall_mem_append

theorem Unbroken.of_subset {text part : Text} (unbroken : Unbroken text)
    (inside : ∀ c ∈ part, c ∈ text) : Unbroken part :=
  fun c member => unbroken c (inside c member)

theorem Unbroken.trim {text : Text} (unbroken : Unbroken text) : Unbroken (Text.trim text) :=
  fun c member => unbroken c (mem_of_mem_strip member)

/-- A test that no breaking character passes makes a text unbroken. -/
theorem unbroken_of_forall (test : Char → Bool) {text : Text}
    (passes : ∀ c ∈ text, test c = true) (rejects : breaks.any test = false) :
    Unbroken text := by
  intro c member breaking
  exact List.any_eq_false.mp rejects c breaking (passes c member)

end Text

/-! ## Values -/

theorem unbroken_of_isDigit {text : Text} (digits : ∀ c ∈ text, isDigit c = true) :
    Unbroken text :=
  unbroken_of_forall isDigit digits (by decide)

theorem unbroken_decimalDigits (n : Nat) : Unbroken (decimalDigits n) :=
  unbroken_of_isDigit fun _ => isDigit_of_mem_decimalDigits

theorem unbroken_leftpad {text : Text} (length : Nat) (unbroken : Unbroken text) :
    Unbroken (text.leftpad length '0') := by
  rw [List.leftpad, unbroken_append_iff]
  refine ⟨?_, unbroken⟩
  intro c member
  rw [List.eq_of_mem_replicate member]
  decide

theorem Decimal.unbroken_plain (d : Decimal) : Unbroken d.plain := by
  unfold Decimal.plain
  split
  · rw [unbroken_append_iff]
    exact ⟨unbroken_decimalDigits _, by decide⟩
  · rw [unbroken_append_iff, unbroken_cons_iff]
    exact ⟨unbroken_decimalDigits _, by decide, unbroken_leftpad _ (unbroken_decimalDigits _)⟩

theorem unbroken_signed (negative : Bool) {text : Text} (unbroken : Unbroken text) :
    Unbroken (signed negative text) := by
  unfold signed
  split
  · exact unbroken_cons_iff.mpr ⟨by decide, unbroken⟩
  · exact unbroken

theorem Rank.unbroken_fullText (rank : Rank) : Unbroken rank.fullText := by
  unfold Rank.fullText
  split
  · exact Decimal.unbroken_plain _
  · exact Decimal.unbroken_plain _

theorem Binary64.unbroken_text (x : Binary64) : Unbroken x.text := by
  cases x with
  | finite negative rank => exact unbroken_signed negative (Rank.unbroken_fullText rank)
  | infinite negative => exact unbroken_signed negative (by decide)
  | nan => exact (by decide : Unbroken "NaN".toList)

theorem unbroken_integerText (n : Int) : Unbroken (integerText n) := by
  cases n with
  | ofNat n => exact unbroken_decimalDigits n
  | negSucc n => exact unbroken_cons_iff.mpr ⟨by decide, unbroken_decimalDigits (n + 1)⟩

namespace Value

/-- A value that is no broken text. -/
def Unbroken : Value → Prop
  | .string s => Text.Unbroken s
  | _ => True

instance : DecidablePred Unbroken
  | .integer _ => .isTrue trivial
  | .float _ => .isTrue trivial
  | .string s => inferInstanceAs (Decidable (Text.Unbroken s))

/-- Numbers are always shown on one line. -/
theorem Unbroken.text {value : Value} (unbroken : value.Unbroken) :
    Text.Unbroken value.text := by
  cases value with
  | integer n => exact unbroken_integerText n
  | float x => exact x.unbroken_text
  | string s => exact unbroken

theorem Unbroken.tableText {value : Value} (unbroken : value.Unbroken) :
    Text.Unbroken value.tableText := by
  cases value with
  | integer n => exact unbroken_integerText n
  | float x => exact x.unbroken_text
  | string s =>
      rw [Value.tableText, unbroken_cons_iff, unbroken_append_iff]
      exact ⟨by decide, unbroken, by decide⟩

theorem mem_of_unquoted? {text body : Text} (found : unquoted? text = some body) {c : Char}
    (member : c ∈ body) : c ∈ text := by
  unfold unquoted? at found
  split at found
  · rename_i opening inner rest
    simp only at found
    split at found
    · obtain rfl := Option.some.inj found
      exact List.mem_cons_of_mem opening (List.dropLast_subset _ member)
    · contradiction
  · contradiction

/-- A text that is coerced to a text is cut down and not added to. -/
theorem mem_of_coerce_eq_string {raw s : Text} (coerced : coerce raw = .string s) {c : Char}
    (member : c ∈ s) : c ∈ raw := by
  suffices inTrimmed : c ∈ trim raw from mem_of_mem_strip inTrimmed
  unfold coerce ofTrimmed at coerced
  split at coerced
  · simp only at coerced
    split at coerced
    · contradiction
    · cases read : Binary64.ofText? (trim raw) with
      | none =>
          rw [read] at coerced
          obtain rfl := Value.string.inj coerced
          exact member
      | some x =>
          rw [read] at coerced
          contradiction
  · split at coerced
    · contradiction
    · obtain rfl := Value.string.inj coerced
      cases found : unquoted? (trim raw) with
      | none => rwa [found] at member
      | some body =>
          rw [found] at member
          exact mem_of_unquoted? found member

theorem unbroken_coerce {raw : Text} (unbroken : Text.Unbroken raw) :
    (coerce raw).Unbroken := by
  cases coerced : coerce raw with
  | integer n => trivial
  | float x => trivial
  | string s => exact unbroken.of_subset fun _ => mem_of_coerce_eq_string coerced

end Value

/-! ## Expanded statements -/

/-- Filling in references adds nothing but the texts that are looked up. -/
theorem mem_expand {lookup : Text → Option Text} {text : Text} {c : Char}
    (member : c ∈ expand lookup text) :
    c ∈ text ∨ ∃ name found, lookup name = some found ∧ c ∈ found := by
  rcases List.mem_flatMap.mp member with ⟨piece, inTemplate, inFilled⟩
  have fromSource : c ∈ piece.source → c ∈ text := by
    intro inSource
    rw [← Template.source_ofText text]
    exact List.mem_flatMap.mpr ⟨piece, inTemplate, inSource⟩
  cases piece with
  | plain d => exact .inl (fromSource inFilled)
  | reference name =>
      cases found : lookup name with
      | none =>
          rw [Piece.fill, found] at inFilled
          exact .inl (fromSource inFilled)
      | some value =>
          rw [Piece.fill, found] at inFilled
          exact .inr ⟨name, value, found, inFilled⟩

/-- The statements of a clean script are unbroken. -/
theorem Statement.unbroken_of_mem {source : Text} {statement : Statement}
    (member : statement ∈ listOf (Script.clean source)) : Unbroken statement.text := by
  intro c inside breaking
  rcases mem_of_mem_listOf member inside with ⟨inClean, notTerminator⟩
  have normal := Script.normal_clean source
  simp only [breaks, List.mem_cons, List.not_mem_nil, or_false] at breaking
  rcases breaking with rfl | rfl | rfl | rfl
  · exact normal.noFeed inClean
  · exact normal.noReturn inClean
  · exact normal.noTab inClean
  · exact notTerminator rfl

/-! ## Stores -/

namespace Store

/-- A store without broken texts, neither in its names nor in its values. -/
def Unbroken (store : Store) : Prop :=
  ∀ row ∈ store.entries, Text.Unbroken row.1 ∧ row.2.value.Unbroken

instance : DecidablePred Unbroken := fun store =>
  inferInstanceAs (Decidable (∀ row ∈ store.entries, Text.Unbroken row.1 ∧ row.2.value.Unbroken))

theorem Unbroken.set {store : Store} (unbroken : store.Unbroken) {name : Text} {value : Value}
    (unbrokenName : Text.Unbroken name) (unbrokenValue : value.Unbroken) :
    (store.set name value).Unbroken := by
  intro row member
  rcases mem_placeEntry member with rfl | old
  · exact ⟨unbrokenName, unbrokenValue⟩
  · exact unbroken row old

theorem Unbroken.referenceText? {store : Store} (unbroken : store.Unbroken) {name found : Text}
    (looked : store.referenceText? name = some found) : Text.Unbroken found := by
  rcases Option.bind_eq_some_iff.mp looked with ⟨entry, present, shown⟩
  have member : (name, entry) ∈ store.entries := mem_entries_iff.mpr present
  unfold Entry.referenceText? at shown
  split at shown
  · obtain rfl := Option.some.inj shown
    exact (unbroken _ member).2.text
  · contradiction

/-- The table has one line per entry, which shows its name and its value, in order of the
names. -/
structure Tabular (store : Store) : Prop where
  /-- The entries stand in order of their names. -/
  ordered : (store.entries.map Prod.fst).Pairwise (· < ·)
  /-- Every entry has its line, and nothing follows the last line end. -/
  lines : Text.lines store.table =
    (store.entries.map fun (name, entry) => name ++ " = ".toList ++ entry.value.tableText) ++ [[]]
  /-- There are as many line ends as entries. -/
  count : (Text.lines store.table).length = store.size + 1

theorem Unbroken.tableLine {store : Store} (unbroken : store.Unbroken) {name : Text}
    {entry : Entry} (member : (name, entry) ∈ store.entries) :
    Text.Unbroken (Store.tableLine name entry) := by
  rcases unbroken _ member with ⟨unbrokenName, unbrokenValue⟩
  rw [Store.tableLine, unbroken_append_iff, unbroken_append_iff]
  exact ⟨⟨unbrokenName, by decide⟩, unbrokenValue.tableText⟩

/-- Without broken texts no entry can break its line of the table. -/
theorem Unbroken.tabular {store : Store} (unbroken : store.Unbroken) : store.Tabular := by
  have joined : store.table = List.intercalate ['\n']
      ((store.entries.map fun (name, entry) => Store.tableLine name entry) ++ [[]]) := by
    rw [Text.intercalate_concat, List.append_nil, List.flatMap_map]
    rfl
  have cut : Text.lines store.table =
      (store.entries.map fun (name, entry) => Store.tableLine name entry) ++ [[]] := by
    rw [Text.lines, joined]
    apply List.splitOn_intercalate _ _ (by simp)
    intro line member
    rcases List.mem_append.mp member with inTable | atEnd
    · rcases List.mem_map.mp inTable with ⟨⟨name, entry⟩, present, rfl⟩
      exact fun feed => unbroken.tableLine present '\n' feed (by decide)
    · simp [List.mem_singleton.mp atEnd]
  refine ⟨List.pairwise_map.mpr store.ordered, cut, ?_⟩
  rw [cut, List.length_append, List.length_map]
  rfl

end Store

/-! ## Reports -/

/-- The reasons that the built-in forms give are unbroken. -/
theorem Assignment.unbroken_reason {text : Text} {state state' : State} {fault : Fault}
    {reason : Text} (refused : execute text state = (.refused fault reason, state')) :
    Unbroken reason := by
  unfold execute at refused
  split at refused
  · rcases Prod.mk.inj refused with ⟨outcome, _⟩
    obtain ⟨_, rfl⟩ := Outcome.refused.inj outcome
    rw [unbroken_append_iff]
    exact ⟨unbroken_decimalDigits _, by decide⟩
  · split at refused
    · rcases Prod.mk.inj refused with ⟨outcome, _⟩
      obtain ⟨_, rfl⟩ := Outcome.refused.inj outcome
      decide
    · simp at refused

theorem Registry.unbroken_reason {text : Text} {state state' : State} {fault : Fault}
    {reason : Text}
    (refused : Registry.standard.dispatch text state = (.refused fault reason, state')) :
    Unbroken reason := by
  by_cases claimed : Assignment.claims text = true
  · have alone : Registry.standard.claimants text = [Assignment.form] :=
      List.filter_cons_of_pos claimed
    rw [dispatch, alone] at refused
    simp only at refused
    split at refused
    · simp at refused
    · rename_i executed
      rcases Prod.mk.inj refused with ⟨outcome, _⟩
      obtain ⟨_, rfl⟩ := Dispatch.refused.inj outcome
      exact Assignment.unbroken_reason executed
  · have unclaimed : Registry.standard.claimants text = [] := List.filter_cons_of_neg claimed
    rw [dispatch, unclaimed] at refused
    rcases Prod.mk.inj refused with ⟨outcome, _⟩
    obtain ⟨_, rfl⟩ := Dispatch.refused.inj outcome
    decide

theorem Fault.unbroken_text (fault : Fault) : Unbroken fault.text := by
  cases fault with
  | unmatched => exact (by decide : Unbroken "unmatched statement".toList)
  | ambiguous => exact (by decide : Unbroken "ambiguous statement".toList)

/-- A diagnostic without broken texts. -/
structure Diagnostic.Unbroken (diagnostic : Diagnostic) : Prop where
  /-- The statement as written. -/
  text : Text.Unbroken diagnostic.text
  /-- The statement with its references filled in. -/
  expanded : Text.Unbroken diagnostic.expanded
  /-- The reason. -/
  reason : Text.Unbroken diagnostic.reason

/-- Such a diagnostic is told on one line. -/
theorem Diagnostic.Unbroken.message {diagnostic : Diagnostic} (unbroken : diagnostic.Unbroken) :
    Text.Unbroken diagnostic.message := by
  unfold Diagnostic.message
  iterate 8 rw [unbroken_append_iff]
  exact ⟨⟨⟨⟨⟨⟨⟨⟨by decide, unbroken_decimalDigits _⟩, by decide⟩, Fault.unbroken_text _⟩,
    by decide⟩, unbroken.reason⟩, by decide⟩, unbroken.text.trim⟩, by decide⟩

/-! ## Runs -/

namespace Run

/-- A run under the built-in forms without broken texts, neither in its statements nor in its
variables. -/
structure Unbroken (run : Run) : Prop where
  /-- The forms are those built in. -/
  standard : run.registry = .standard
  /-- The statements. -/
  statements : ∀ statement ∈ run.statements, Text.Unbroken statement.text
  /-- The names and values. -/
  vars : run.state.vars.Unbroken

theorem unbroken_start {vars : Store} (unbroken : vars.Unbroken) (source : Text) :
    (start .standard vars source).Unbroken :=
  ⟨rfl, fun _ => Statement.unbroken_of_mem, unbroken⟩

namespace Unbroken

variable {run : Run} (unbroken : run.Unbroken)

include unbroken

theorem expanded {statement : Statement} (member : statement ∈ run.statements) :
    Text.Unbroken (Run.expanded run.state.vars statement) := by
  intro c inside
  rcases mem_expand inside with written | ⟨name, found, looked, inFound⟩
  · exact unbroken.statements statement member c written
  · exact unbroken.vars.referenceText? looked c inFound

/-- A step stores only what stands in the expanded statement. -/
theorem step : run.step.2.Unbroken := by
  have standard : Visit.Standard ⟨run, run.step.1⟩ := ⟨unbroken.standard, rfl⟩
  refine ⟨?_, ?_, ?_⟩
  · rw [registry_step, unbroken.standard]
  · rw [statements_step]
    exact unbroken.statements
  · rcases standard.cases with ⟨_, unchanged⟩ | ⟨name, raw, assigns, written⟩
    · rw [show run.step.2.state.vars = run.state.vars from unchanged]
      exact unbroken.vars
    · rw [show run.step.2.state.vars = run.state.vars.set name (.coerce raw) from written]
      rcases assigns with ⟨_, text, offered, assigns⟩
      rcases Option.map_eq_some_iff.mp offered with ⟨statement, found, rfl⟩
      -- The name and the text of the value are parts of the expanded statement.
      have whole := unbroken.expanded (List.mem_of_getElem? found)
      rcases assigns with ⟨blanks, front, gap, split, _, ⟨verb, gap', gap'', rfl, _⟩, _⟩
      rw [split] at whole
      simp only [unbroken_append_iff, unbroken_cons_iff] at whole
      exact unbroken.vars.set whole.2.2.2.1 (Value.unbroken_coerce whole.2.2.2.2.2.2.2)

theorem diagnostic {diagnostic : Diagnostic}
    (reported : run.step.1.diagnostic? = some diagnostic) : diagnostic.Unbroken := by
  cases found : run.statements[run.state.next]? with
  | none =>
      rw [step_of_getElem?_eq_none found] at reported
      contradiction
  | some statement =>
      have member := List.mem_of_getElem? found
      by_cases blank : statement.isBlank = true
      · rw [step_of_isBlank found blank] at reported
        contradiction
      · rw [step_of_not_isBlank found blank, unbroken.standard] at reported
        cases dispatched : Registry.standard.dispatch (Run.expanded run.state.vars statement)
            run.state with
        | mk dispatch state =>
            rw [dispatched] at reported
            cases dispatch with
            | executed form => contradiction
            | refused fault reason =>
                obtain rfl := Option.some.inj reported
                exact ⟨unbroken.statements statement member, unbroken.expanded member,
                  Registry.unbroken_reason dispatched⟩

theorem after (k : Nat) : (run.after k).Unbroken := by
  induction k with
  | zero => exact unbroken
  | succ k ih =>
      rw [after_succ]
      exact ih.step

end Unbroken

end Run

/-! ## Scripts -/

namespace Session

open Run

theorem unbroken_of_mem_visits {vars : Store} (unbroken : vars.Unbroken) {source : Text}
    {visit : Visit} (member : visit ∈ ((Session.mk .standard vars).exec source).visits) :
    visit.before.Unbroken := by
  have taken : visit ∈ (take _ (Run.start .standard vars source)).1 := member
  rw [visits_take] at taken
  rcases List.mem_map.mp taken with ⟨k, _, rfl⟩
  exact (unbroken_start unbroken source).after k

theorem unbroken_exec {vars : Store} (unbroken : vars.Unbroken) (source : Text) :
    ((Session.mk .standard vars).exec source).session.vars.Unbroken :=
  ((unbroken_start unbroken source).after _).vars

theorem unbroken_of_mem_visitsAll {vars : Store} (unbroken : vars.Unbroken)
    {sources : List Text} {visit : Visit}
    (member : visit ∈ (Session.mk .standard vars).visitsAll sources) :
    visit.before.Unbroken := by
  induction sources generalizing vars with
  | nil => simp [visitsAll] at member
  | cons source sources ih =>
      rw [visitsAll] at member
      rcases List.mem_append.mp member with inFirst | inRest
      · exact unbroken_of_mem_visits unbroken inFirst
      · exact ih (unbroken_exec unbroken source) inRest

theorem unbroken_execAll {vars : Store} (unbroken : vars.Unbroken) (sources : List Text) :
    ((Session.mk .standard vars).execAll sources).vars.Unbroken := by
  induction sources generalizing vars with
  | nil => exact unbroken
  | cons source sources ih => exact ih (unbroken_exec unbroken source)

/-- From a store without broken texts, scripts come only to such stores, before and after
every step.  Their diagnostics are told on one line and repeat unbroken texts.  The table at
the end has one line per entry, in order of the names. -/
theorem execAll_unbroken {vars : Store} (unbroken : vars.Unbroken) (sources : List Text) :
    (∀ k, ((Session.mk .standard vars).execAll (sources.take k)).vars.Unbroken) ∧
    (∀ visit ∈ (Session.mk .standard vars).visitsAll sources,
      visit.before.state.vars.Unbroken ∧ visit.varsAfter.Unbroken) ∧
    (∀ diagnostic ∈ diagnosticsOf ((Session.mk .standard vars).visitsAll sources),
      Text.Unbroken diagnostic.text ∧ Text.Unbroken diagnostic.expanded ∧
        Text.Unbroken diagnostic.message) ∧
    ((Session.mk .standard vars).execAll sources).vars.Tabular := by
  refine ⟨fun k => unbroken_execAll unbroken _, ?_, ?_, (unbroken_execAll unbroken _).tabular⟩
  · intro visit member
    have before := unbroken_of_mem_visitsAll unbroken member
    exact ⟨before.vars, before.step.vars⟩
  · intro diagnostic member
    rcases List.mem_filterMap.mp member with ⟨visit, present, reported⟩
    rw [(standard_of_mem_visitsAll present).taken] at reported
    have told := (unbroken_of_mem_visitsAll unbroken present).diagnostic reported
    exact ⟨told.text, told.expanded, told.message⟩

/-- Tabs and line breaks of a script end up in no entry, also where one script builds on the
texts that another one stored. -/
theorem execAll_unbroken_tabs_and_line_breaks :
    ((Store.empty.set ['p'] (.string "a b".toList)).defineSubroutine ['s'] "LET x = 1".toList
      ).Unbroken ∧
    ((Session.mk .standard
      ((Store.empty.set ['p'] (.string "a b".toList)).defineSubroutine ['s'] "LET x = 1".toList)
      ).execAll ["SET\tq =\r\n '$(p)\t;';".toList, "LET r = [$(q)]\n;LET $(s);".toList]
      ).vars.Tabular := by
  have unbroken : ((Store.empty.set ['p'] (.string "a b".toList)).defineSubroutine ['s']
      "LET x = 1".toList).Unbroken := by decide
  exact ⟨unbroken, (execAll_unbroken unbroken _).2.2.2⟩

end Session

end LoadScript
