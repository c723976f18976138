import LoadScript.Number.Rounding

/-!
# Shortest decimals

A magnitude is written with as few digits as tell it apart from all others: the
first of the grids with 1, 2, … 17 digits that has a point which is rounded to
the magnitude.  On each grid only the two neighbours of the magnitude are
looked at.  Of two points that both serve the nearer one is taken, and a rule
given by the caller decides between equally near ones.

The main statement says that the chosen decimal is rounded to the magnitude it
was chosen for.
-/

namespace LoadScript

/-- How to choose between two decimals that are equally near. -/
inductive TieRule where
  /-- The larger one. -/
  | up
  /-- The one whose last digit is even. -/
  | toEven
deriving DecidableEq

namespace Rank

/-- All decimal digits of a magnitude: a unit is a power of one half, and so a
power of five over a power of ten. -/
def expansion (rank : Rank) : Decimal :=
  ⟨rank.units * Nat.pow 5 unitPlaces, -unitPlaces⟩

/-- The exponent of the first decimal digit of a magnitude. -/
def decimalLead (rank : Rank) : Int :=
  if unitsPerOne ≤ rank.units then
    (decimalDigits (rank.units / unitsPerOne)).length - 1
  else
    -((decimalDigits ((unitsPerOne - 1) / rank.units)).length : Int)

/-- The decimal with a given last place that is closest below a magnitude, and
the comparison of its doubled error with that place. -/
def below (rank : Rank) (place : Int) : Nat × Ordering :=
  let num := rank.units * Nat.pow 10 (-place).toNat
  let den := unitsPerOne * Nat.pow 10 place.toNat
  (num / den, compare (2 * (num % den)) den)

/-- The two neighbours of a magnitude on the grid of decimals with a given last
place, the better one first. -/
def neighbours (tie : TieRule) (rank : Rank) (place : Int) : List Decimal :=
  let (floor, side) := rank.below place
  let lower : Decimal := ⟨floor, place⟩
  let upper : Decimal := ⟨floor + 1, place⟩
  let upperFirst : Bool :=
    match side with
    | .lt => false
    | .gt => true
    | .eq => tie == .up || floor % 2 == 1
  if upperFirst then [upper, lower] else [lower, upper]

/-- The better one of the neighbours of a magnitude on a grid that are rounded to
the magnitude. -/
def onGrid? (tie : TieRule) (rank : Rank) (place : Int) : Option Decimal :=
  (rank.neighbours tie place).find? fun d => ofDecimal? d == some rank

/-- The shortest decimal that is rounded to a magnitude. -/
def shortest (tie : TieRule) (rank : Rank) : Decimal :=
  let places := (List.range 17).map fun n => rank.decimalLead - Int.ofNat n
  ((places.findSome? (onGrid? tie rank)).getD rank.expansion).reduced

/-- All decimal digits of a magnitude are rounded to it. -/
theorem ofDecimal?_expansion (rank : Rank) : ofDecimal? rank.expansion = some rank := by
  have tens : Nat.pow 10 unitPlaces = Nat.pow 5 unitPlaces * unitsPerOne := by
    unfold unitsPerOne
    simp only [Nat.pow_eq]
    rw [← Nat.mul_pow]
  have num : (-(unitPlaces : Int)).toNat = 0 := by omega
  have den : (-(-(unitPlaces : Int))).toNat = unitPlaces := by omega
  have fives : 0 < Nat.pow 5 unitPlaces := natPow_pos (by decide) unitPlaces
  simp only [ofDecimal?, expansion, Decimal.ratio, num, den, tens]
  rw [show Nat.pow 10 0 = 1 from rfl, Nat.mul_one, Nat.mul_comm, nearest?_mul_left fives,
    nearest?_units]

/-- Moving trailing zeros into the exponent changes no rounding. -/
theorem ofDecimal?_reduced (d : Decimal) : ofDecimal? d.reduced = ofDecimal? d := by
  fun_induction Decimal.reduced d with
  | case1 d trailing ih =>
      rw [ih]
      obtain ⟨coefficient, exponent⟩ := d
      simp only at trailing
      have factor : coefficient = 10 * (coefficient / 10) := by omega
      simp only [ofDecimal?, Decimal.ratio, Nat.pow_eq]
      cases exponent with
      | ofNat zeros =>
          have up : (Int.ofNat zeros + 1).toNat = zeros + 1 := rfl
          have down : (-(Int.ofNat zeros + 1)).toNat = (-Int.ofNat zeros).toNat := by omega
          rw [up, down, show (Int.ofNat zeros).toNat = zeros from rfl, Nat.pow_succ',
            ← Nat.mul_assoc, Nat.mul_comm (coefficient / 10), ← factor]
      | negSucc places =>
          have up : (Int.negSucc places + 1).toNat = (Int.negSucc places).toNat := by omega
          have down : (-Int.negSucc places).toNat = (-(Int.negSucc places + 1)).toNat + 1 := by
            omega
          rw [up, down, Nat.pow_succ', ← nearest?_mul_left (by decide : 0 < 10),
            ← Nat.mul_assoc, ← factor]
  | case2 => rfl

/-- The point chosen on a grid is rounded to the magnitude. -/
theorem ofDecimal?_onGrid? {tie : TieRule} {rank : Rank} {place : Int} {d : Decimal}
    (chosen : onGrid? tie rank place = some d) : ofDecimal? d = some rank := by
  unfold onGrid? at chosen
  have reads := List.find?_some chosen
  simpa only [beq_iff_eq] using reads

/-- The shortest decimal of a magnitude is rounded to that magnitude. -/
theorem ofDecimal?_shortest (tie : TieRule) (rank : Rank) :
    ofDecimal? (rank.shortest tie) = some rank := by
  simp only [shortest, ofDecimal?_reduced]
  cases found : ((List.range 17).map fun n => rank.decimalLead - Int.ofNat n).findSome?
      (onGrid? tie rank) with
  | none => exact ofDecimal?_expansion rank
  | some d =>
      obtain ⟨place, _, chosen⟩ := List.exists_of_findSome?_eq_some found
      exact ofDecimal?_onGrid? chosen

end Rank

end LoadScript
