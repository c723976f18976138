import LoadScript.Number.Decimal
import LoadScript.Text.Blank

/-!
# Diagnostics

A statement that could not be executed is reported and the run goes on.
-/

namespace LoadScript

open Text

/-- Why a statement was not executed. -/
inductive Fault where
  /-- No form recognises the statement, or the one that claims it finds it
  malformed. -/
  | unmatched
  /-- More than one form claims the statement, or one form finds more than one
  candidate in it. -/
  | ambiguous
deriving DecidableEq

/-- The words for a fault. -/
def Fault.text : Fault → Text
  | .unmatched => "unmatched statement".toList
  | .ambiguous => "ambiguous statement".toList

/-- A statement that was not executed. -/
structure Diagnostic where
  /-- The number of the statement. -/
  index : Nat
  /-- The statement as written. -/
  text : Text
  /-- The statement with its references filled in. -/
  expanded : Text
  /-- Why it was not executed. -/
  fault : Fault
  /-- The reason in words. -/
  reason : Text
deriving DecidableEq

/-- A diagnostic on one line. -/
def Diagnostic.message (diagnostic : Diagnostic) : Text :=
  "statement ".toList ++ decimalDigits diagnostic.index ++ ": ".toList ++
    diagnostic.fault.text ++ ": ".toList ++ diagnostic.reason ++ ": \x60".toList ++
    trim diagnostic.text ++ ['\x60']

end LoadScript
