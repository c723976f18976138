import LoadScript.Text.Basic

/-!
# Classes of characters given by ranges

A class of characters is listed as inclusive ranges of code points in
increasing order.  Membership walks the list and stops at the first range that
begins beyond the character.
-/

namespace LoadScript.Text

/-- Inclusive ranges of code points, in increasing order. -/
abbrev Ranges := List (Nat × Nat)

namespace Ranges

/-- Whether a code point lies in one of the ranges. -/
def holds : Ranges → Nat → Bool
  | [], _ => false
  | (first, last) :: rest, point =>
      if point < first then false
      else if point ≤ last then true
      else holds rest point

end Ranges

end LoadScript.Text
