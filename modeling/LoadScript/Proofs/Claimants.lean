import LoadScript.Form.Assignment
import LoadScript.Proofs.Stepping

/-!
# What a run takes from its registry

A registry acts on a statement only through the forms that claim it.  A single claimant
executes the statement; without a claimant, or with several, no form is asked to execute
anything.  Registries whose claimants are the same for every text, in whatever order, thus
answer alike, except that the reason given for a rivalry names the rivals in order.

The main statement, `runs_decided_by_claimants`, carries this through whole runs of arbitrary
forms.
-/

namespace LoadScript

/-- What became of a text, the reason of a refusal aside. -/
def Dispatch.withoutReason : Dispatch → Dispatch
  | .executed form => .executed form
  | .refused fault _ => .refused fault []

/-- A step, the reason of its diagnostic aside. -/
def Step.withoutReason : Step → Step
  | .diagnosed diagnostic => .diagnosed { diagnostic with reason := [] }
  | step => step

theorem Step.withoutReason_ofDispatch (index : Nat) (statement : Statement) (text : Text)
    (dispatch : Dispatch) :
    (ofDispatch index statement text dispatch).withoutReason =
      ofDispatch index statement text dispatch.withoutReason := by
  cases dispatch <;> rfl

namespace Registry

/-- Every text is claimed by the same forms of both registries, in whatever order. -/
def SameClaimants (left right : Registry) : Prop :=
  ∀ text, (left.claimants text).Perm (right.claimants text)

/-- The order in which forms are registered does not matter to who claims what. -/
theorem SameClaimants.of_perm {left right : Registry} (reordered : left.Perm right) :
    SameClaimants left right :=
  fun text => reordered.filter (Form.claims · text)

/-- Forms that claim no text are no claimants. -/
theorem SameClaimants.of_idle (front back : Registry) {idle : Registry}
    (unclaiming : ∀ form ∈ idle, ∀ text, form.claims text = false) :
    SameClaimants (front ++ idle ++ back) (front ++ back) := by
  intro text
  have none : idle.filter (Form.claims · text) = [] := by
    rw [List.filter_eq_nil_iff]
    intro form member
    simp [unclaiming form member text]
  rw [claimants, claimants, List.filter_append, List.filter_append, List.filter_append, none,
    List.append_nil]

/-! ## Offers with and without a single claimant -/

/-- The registry with other ways to execute what its forms claim. -/
def executing (instead : Form → Text → State → Outcome × State) (registry : Registry) :
    Registry :=
  registry.map fun form => { form with execute := instead form }

theorem claimants_executing (instead : Form → Text → State → Outcome × State)
    (registry : Registry) (text : Text) :
    (registry.executing instead).claimants text =
      executing instead (registry.claimants text) := by
  rw [claimants, executing, List.filter_map]
  rfl

theorem names_executing (instead : Form → Text → State → Outcome × State)
    (registry : Registry) :
    (registry.executing instead).map Form.name = registry.map Form.name :=
  List.map_map

/-- A rivalry is told by the names of the rivals. -/
theorem rivalry_congr {first first' : Form} {others others' : List Form}
    (name : first'.name = first.name) (names : others'.map Form.name = others.map Form.name) :
    rivalry first' others' = rivalry first others := by
  unfold rivalry
  rw [name, names]

section Undecided

variable {registry : Registry} {text : Text} (state : State)

theorem dispatch_of_claimants_eq_nil (claimed : registry.claimants text = []) :
    registry.dispatch text state =
      (.refused .unmatched "no statement form recognises this text".toList, state) := by
  rw [dispatch, claimed]

theorem dispatch_of_claimants_eq_cons_cons {first second : Form} {others : List Form}
    (claimed : registry.claimants text = first :: second :: others) :
    registry.dispatch text state =
      (.refused .ambiguous (rivalry first (second :: others)), state) := by
  rw [dispatch, claimed]

theorem claimants_cases (undecided : (registry.claimants text).length ≠ 1) :
    registry.claimants text = [] ∨
      ∃ first second others, registry.claimants text = first :: second :: others := by
  cases claimed : registry.claimants text with
  | nil => exact .inl rfl
  | cons first others =>
      cases others with
      | nil => exact absurd (congrArg List.length claimed) undecided
      | cons second others => exact .inr ⟨first, second, others, rfl⟩

/-- Without a claimant, or with several, a text is refused and the state is left alone. -/
theorem dispatch_of_length_ne_one (undecided : (registry.claimants text).length ≠ 1) :
    ∃ fault reason, registry.dispatch text state = (.refused fault reason, state) := by
  rcases claimants_cases undecided with claimed | ⟨first, second, others, claimed⟩
  · exact ⟨_, _, dispatch_of_claimants_eq_nil state claimed⟩
  · exact ⟨_, _, dispatch_of_claimants_eq_cons_cons state claimed⟩

/-- Without a claimant, or with several, it does not matter what the forms would do. -/
theorem dispatch_executing (undecided : (registry.claimants text).length ≠ 1)
    (instead : Form → Text → State → Outcome × State) :
    (registry.executing instead).dispatch text state = registry.dispatch text state := by
  have claimed' := claimants_executing instead registry text
  rcases claimants_cases undecided with claimed | ⟨first, second, others, claimed⟩
  · rw [claimed] at claimed'
    rw [dispatch_of_claimants_eq_nil state claimed, dispatch_of_claimants_eq_nil state claimed']
  · rw [claimed] at claimed'
    rw [dispatch_of_claimants_eq_cons_cons state claimed,
      dispatch_of_claimants_eq_cons_cons state claimed']
    exact congrArg (fun reason => (Dispatch.refused .ambiguous reason, state))
      (rivalry_congr rfl (names_executing instead (second :: others)))

/-- With at least two claimants a text is ambiguous. -/
theorem dispatch_of_two_le (rivals : 2 ≤ (registry.claimants text).length) :
    ∃ reason, registry.dispatch text state = (.refused .ambiguous reason, state) := by
  rcases claimants_cases (Nat.ne_of_gt rivals) with claimed | ⟨first, second, others, claimed⟩
  · simp [claimed] at rivals
  · exact ⟨_, dispatch_of_claimants_eq_cons_cons state claimed⟩

end Undecided

namespace SameClaimants

variable {left right : Registry} (same : SameClaimants left right)

include same

/-- Where at most one form claims a text, the registries answer alike. -/
theorem dispatch_eq {text : Text} (few : (left.claimants text).length < 2) (state : State) :
    right.dispatch text state = left.dispatch text state := by
  have equal : right.claimants text = left.claimants text := by
    cases claimed : left.claimants text with
    | nil => exact List.nil_perm.mp (claimed ▸ same text)
    | cons first others =>
        cases others with
        | nil => exact List.perm_singleton.mp (claimed ▸ same text).symm
        | cons second others =>
            rw [claimed, List.length_cons, List.length_cons] at few
            omega
  rw [dispatch, dispatch, equal]

/-- The registries treat every text alike, but for the reason of a rivalry. -/
theorem dispatch (text : Text) (state : State) :
    (right.dispatch text state).1.withoutReason = (left.dispatch text state).1.withoutReason ∧
      (right.dispatch text state).2 = (left.dispatch text state).2 := by
  by_cases few : (left.claimants text).length < 2
  · rw [same.dispatch_eq few]
    exact ⟨rfl, rfl⟩
  · have rivals : 2 ≤ (left.claimants text).length := Nat.le_of_not_lt few
    have rivals' : 2 ≤ (right.claimants text).length := (same text).length_eq ▸ rivals
    rcases dispatch_of_two_le state rivals with ⟨reason, refused⟩
    rcases dispatch_of_two_le state rivals' with ⟨reason', refused'⟩
    rw [refused, refused']
    exact ⟨rfl, rfl⟩

end SameClaimants

end Registry

namespace Run

/-! ## Two runs side by side -/

/-- Two runs in the same state, over the same statements, under registries with the same
claimants. -/
structure Parallel (left right : Run) : Prop where
  /-- The registries have the same claimants. -/
  claimants : Registry.SameClaimants left.registry right.registry
  /-- The statements are the same. -/
  statements : right.statements = left.statements
  /-- The variables and the number of the next statement are the same. -/
  state : right.state = left.state

namespace Parallel

variable {left right : Run} (parallel : Parallel left right)

include parallel

theorem found {statement : Statement}
    (found : left.statements[left.state.next]? = some statement) :
    right.statements[right.state.next]? = some statement := by
  rw [parallel.statements, parallel.state, found]

/-- The runs take the same step, but for the reason of a rivalry, and stay side by side. -/
theorem step :
    right.step.1.withoutReason = left.step.1.withoutReason ∧ Parallel left.step.2 right.step.2 := by
  suffices taken : right.step.1.withoutReason = left.step.1.withoutReason ∧
      right.step.2.state = left.step.2.state by
    refine ⟨taken.1, ?_, ?_, taken.2⟩
    · rw [registry_step, registry_step]
      exact parallel.claimants
    · rw [statements_step, statements_step]
      exact parallel.statements
  cases found : left.statements[left.state.next]? with
  | none =>
      have halted : left.isHalted = true := by simpa [isHalted] using found
      have halted' : right.isHalted = true := by
        rwa [isHalted, parallel.statements, parallel.state]
      rw [step_of_isHalted halted, step_of_isHalted halted']
      exact ⟨rfl, parallel.state⟩
  | some statement =>
      have found' := parallel.found found
      by_cases blank : statement.isBlank = true
      · rw [step_of_isBlank found blank, step_of_isBlank found' blank, parallel.state]
        exact ⟨rfl, rfl⟩
      · rw [step_of_not_isBlank found blank, step_of_not_isBlank found' blank, parallel.state,
          Step.withoutReason_ofDispatch, Step.withoutReason_ofDispatch]
        rcases parallel.claimants.dispatch (expanded left.state.vars statement) left.state with
          ⟨answer, state⟩
        rw [answer]
        exact ⟨rfl, congrArg (fun after => State.mk after.vars (left.state.next + 1)) state⟩

/-- Where at most one form claims a statement, the reason is the same, too. -/
theorem step_eq {statement : Statement}
    (found : left.statements[left.state.next]? = some statement)
    (few : (left.registry.claimants (expanded left.state.vars statement)).length < 2) :
    right.step.1 = left.step.1 := by
  have found' := parallel.found found
  by_cases blank : statement.isBlank = true
  · rw [step_of_isBlank found blank, step_of_isBlank found' blank, parallel.state]
  · rw [step_of_not_isBlank found blank, step_of_not_isBlank found' blank, parallel.state,
      parallel.claimants.dispatch_eq few]

theorem after (k : Nat) : Parallel (left.after k) (right.after k) := by
  induction k with
  | zero => exact parallel
  | succ k ih =>
      rw [after_succ, after_succ]
      exact ih.step.2

end Parallel

/-! ## Statements that no form executes -/

/-- The step of the run changes no variable and is the same whatever the forms would do: none
of them is asked to execute anything. -/
structure Unexecuted (run : Run) : Prop where
  /-- The variables stay as they are. -/
  vars : run.step.2.state.vars = run.state.vars
  /-- The outcome does not depend on what the forms execute. -/
  outcome : ∀ instead,
    ({ run with registry := run.registry.executing instead } : Run).step.1 = run.step.1
  /-- Nor do the variables and the number of the next statement. -/
  state : ∀ instead,
    ({ run with registry := run.registry.executing instead } : Run).step.2.state =
      run.step.2.state

theorem unexecuted_of_length_ne_one {run : Run} {statement : Statement}
    (found : run.statements[run.state.next]? = some statement)
    (undecided : (run.registry.claimants (expanded run.state.vars statement)).length ≠ 1) :
    Unexecuted run := by
  have found' : ∀ instead, ({ run with registry := run.registry.executing instead } :
      Run).statements[run.state.next]? = some statement := fun _ => found
  by_cases blank : statement.isBlank = true
  · constructor
    case vars => rw [step_of_isBlank found blank]; rfl
    case outcome =>
      intro instead
      rw [step_of_isBlank found blank, step_of_isBlank (found' instead) blank]
    case state =>
      intro instead
      rw [step_of_isBlank found blank, step_of_isBlank (found' instead) blank]
      rfl
  · rcases Registry.dispatch_of_length_ne_one run.state undecided with ⟨fault, reason, refused⟩
    have unasked := Registry.dispatch_executing run.state undecided
    constructor
    case vars =>
      rw [step_of_not_isBlank found blank, refused]
      rfl
    case outcome =>
      intro instead
      rw [step_of_not_isBlank found blank, step_of_not_isBlank (found' instead) blank, unasked]
    case state =>
      intro instead
      rw [step_of_not_isBlank found blank, step_of_not_isBlank (found' instead) blank, unasked]
      rfl

/-- Two runs agree step by step, but for the reason of a rivalry. -/
structure Agree (left right : Run) : Prop where
  /-- Before and after every step, the variables and the next statement are the same. -/
  state : ∀ k, (right.after k).state = (left.after k).state
  /-- Every step has the same outcome, the reason of a diagnostic aside. -/
  steps : ∀ k, (right.after k).step.1.withoutReason = (left.after k).step.1.withoutReason
  /-- The reason is the same as well unless two forms claim the statement. -/
  reasons : ∀ k statement, left.statements[(left.after k).state.next]? = some statement →
    (left.registry.claimants (expanded (left.after k).state.vars statement)).length < 2 →
    (right.after k).step.1 = (left.after k).step.1

theorem Parallel.agree {left right : Run} (parallel : Parallel left right) :
    Agree left right where
  state k := (parallel.after k).state
  steps k := (parallel.after k).step.1
  reasons k statement found few := by
    apply (parallel.after k).step_eq
    · rw [statements_after]
      exact found
    · rw [registry_after]
      exact few

/-- A run depends on its registry only through who claims what: neither the order of the
forms nor a form without claims matters, and a statement without a single claimant leaves
every form unasked and every variable alone. -/
theorem runs_decided_by_claimants :
    (∀ left right : Registry, left.Perm right → Registry.SameClaimants left right) ∧
      (∀ front idle back : Registry, (∀ form ∈ idle, ∀ text, form.claims text = false) →
        Registry.SameClaimants (front ++ idle ++ back) (front ++ back)) ∧
      (∀ left right : Registry, Registry.SameClaimants left right → ∀ vars source,
        Agree (start left vars source) (start right vars source)) ∧
      (∀ (registry : Registry) vars source k statement,
        (Statement.listOf (Script.clean source))[k]? = some statement →
        (registry.claimants
          (expanded ((start registry vars source).after k).state.vars statement)).length ≠ 1 →
        Unexecuted ((start registry vars source).after k)) := by
  refine ⟨fun _ _ => .of_perm, fun front _ back => .of_idle front back, ?_, ?_⟩
  · intro left right same vars source
    exact Parallel.agree ⟨same, rfl, rfl⟩
  · intro registry vars source k statement found undecided
    have fresh : (start registry vars source).state.next = 0 := rfl
    rcases found_after fresh found with ⟨_, atNext⟩
    apply unexecuted_of_length_ne_one atNext
    rw [registry_after]
    exact undecided

/-- A form of whatever ends in an exclamation mark.  It writes a variable and sends the run
back to its beginning. -/
def exclamation : Form where
  name := "exclamation".toList
  claims text := text.getLast? == some '!'
  execute text state := (.executed, ⟨state.vars.set "said".toList (.string text), 0⟩)

/-- A form of nothing. -/
def silence : Form := { exclamation with claims := fun _ => false }

/-- Of the four statements, the first is an assignment, the second is claimed twice, the
third by none, and the last is an exclamation. -/
theorem runs_decided_by_claimants_exclamations :
    let source := "LET v = 1; LET w = 2!; hello; hello $(v)!;".toList
    let left := start [exclamation, silence, Assignment.form] .empty source
    let middle := start [exclamation, Assignment.form] .empty source
    let right := start [Assignment.form, exclamation] .empty source
    Agree left middle ∧ Agree middle right ∧
      (middle.finish.1.map fun visit => visit.step.isExecuted) = [true, false, false, true] ∧
      diagnosticsOf middle.finish.1 ≠ diagnosticsOf right.finish.1 ∧
      Unexecuted (middle.after 1) ∧ Unexecuted (middle.after 2) := by
  obtain ⟨reordered, unclaiming, agree, unexecuted⟩ := runs_decided_by_claimants
  refine ⟨?_, ?_, by decide +kernel, by decide +kernel, ?_, ?_⟩
  · apply agree
    apply unclaiming [exclamation] [silence] [Assignment.form]
    intro form member text
    rw [List.mem_singleton.mp member]
    rfl
  · exact agree _ _ (reordered _ _ (.swap _ _ [])) _ _
  · exact unexecuted _ _ _ 1 ⟨1, " LET w = 2!".toList⟩ (by decide +kernel) (by decide +kernel)
  · exact unexecuted _ _ _ 2 ⟨2, " hello".toList⟩ (by decide +kernel) (by decide +kernel)

end Run

end LoadScript
