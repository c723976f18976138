import LoadScript.Diagnostic
import LoadScript.Store.Basic

/-!
# Statement forms

A statement form is a kind of statement that the interpreter knows: it claims
texts by their first word and executes those it claims.  A registry is a row of
forms.  A statement is executed only when exactly one form of the registry claims
it; a statement with several claimants is reported instead of going to the first.
-/

namespace LoadScript

/-- What a form reads and changes: the variables and the number of the next
statement. -/
structure State where
  /-- The variables. -/
  vars : Store
  /-- The number of the next statement. -/
  next : Nat := 0

/-- The state after a statement that is done. -/
def State.advance (state : State) : State :=
  { state with next := state.next + 1 }

/-- What a form makes of a text. -/
inductive Outcome where
  /-- The text was executed. -/
  | executed
  /-- The text was refused, for a reason given in words. -/
  | refused (fault : Fault) (reason : Text)
deriving DecidableEq

/-- A kind of statement. -/
structure Form where
  /-- The name of the form, as it stands in messages. -/
  name : Text
  /-- Whether a text is introduced by the form's keyword. -/
  claims : Text → Bool
  /-- Recognises the whole shape of a text and executes it. -/
  execute : Text → State → Outcome × State

/-- The forms that an interpreter knows. -/
abbrev Registry := List Form

/-- What became of a text that was offered to a registry. -/
inductive Dispatch where
  /-- A form executed it. -/
  | executed (form : Text)
  /-- It was not executed. -/
  | refused (fault : Fault) (reason : Text)
deriving DecidableEq

namespace Registry

/-- The forms that claim a text, in order. -/
def claimants (registry : Registry) (text : Text) : List Form :=
  registry.filter (Form.claims · text)

/-- The reason given when several forms claim one text. -/
def rivalry (first : Form) (others : List Form) : Text :=
  "claimed by ".toList ++ first.name ++ " and ".toList ++
    List.intercalate ", ".toList (others.map Form.name)

/-- Offers a text to the forms. -/
def dispatch (registry : Registry) (text : Text) (state : State) : Dispatch × State :=
  match registry.claimants text with
  | [] => (.refused .unmatched "no statement form recognises this text".toList, state)
  | [form] =>
      match form.execute text state with
      | (.executed, state) => (.executed form.name, state)
      | (.refused fault reason, state) => (.refused fault reason, state)
  | first :: others => (.refused .ambiguous (rivalry first others), state)

end Registry

end LoadScript
