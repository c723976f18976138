import LoadScript.Number.Binary64
import LoadScript.Number.Decimal

/-!
# Rounding to binary floating point

Quotients of whole numbers are rounded to the nearest magnitude of the 64-bit
binary format; a quotient halfway between two magnitudes goes to the one of even
rank.  The rounding is stated once, in exact arithmetic, and every number read
from a text goes through it.

The main lemma says that a magnitude is rounded to itself.
-/

namespace LoadScript

/-- A quotient rounded to the nearest whole number, a half going to the even
neighbour. -/
def roundHalfEven (num den : Nat) : Nat :=
  let whole := num / den
  let twice := 2 * (num % den)
  if twice < den ∨ (twice = den ∧ whole % 2 = 0) then whole else whole + 1

/-- A multiple of the denominator is rounded to its factor. -/
theorem roundHalfEven_mul_right (n den : Nat) (positive : 0 < den) :
    roundHalfEven (n * den) den = n := by
  simp [roundHalfEven, positive]

/-- Rounding a quotient depends on its value only. -/
theorem roundHalfEven_mul_left {factor : Nat} (positive : 0 < factor) (num den : Nat) :
    roundHalfEven (factor * num) (factor * den) = roundHalfEven num den := by
  have less : 2 * (factor * (num % den)) < factor * den ↔ 2 * (num % den) < den := by
    rw [Nat.mul_left_comm, Nat.mul_lt_mul_left positive]
  have same : 2 * (factor * (num % den)) = factor * den ↔ 2 * (num % den) = den := by
    rw [Nat.mul_left_comm]
    exact Nat.mul_right_inj (Nat.ne_of_gt positive)
  simp only [roundHalfEven, Nat.mul_div_mul_left _ _ positive, Nat.mul_mod_mul_left, less, same]

namespace Rank

/-- The rank of the magnitude nearest to a quotient.  There is none when the
quotient is so large that the nearest place in the row lies beyond its end. -/
def nearest? (num den : Nat) : Option Rank :=
  let units := num * unitsPerOne
  let scale := Nat.log2 (units / den) - 52
  let place := scale * scaleSpan + roundHalfEven units (den * Nat.pow 2 scale)
  if inRange : place < rankCount then some ⟨place, inRange⟩ else none

/-- The magnitude nearest to a decimal. -/
def ofDecimal? (d : Decimal) : Option Rank :=
  nearest? d.ratio.1 d.ratio.2

/-- The nearest magnitude depends on the value of a quotient only. -/
theorem nearest?_mul_left {factor : Nat} (positive : 0 < factor) (num den : Nat) :
    nearest? (factor * num) (factor * den) = nearest? num den := by
  simp only [nearest?, Nat.mul_assoc, Nat.mul_div_mul_left _ _ positive,
    roundHalfEven_mul_left positive]

/-- A magnitude has the scale that rounding picks for it. -/
theorem log2_units_sub (rank : Rank) : Nat.log2 rank.units - 52 = rank.scale := by
  have span : scaleSpan = 2 ^ 52 := by decide
  unfold units scale significand
  rw [span, Nat.pow_eq]
  split
  case isTrue small =>
      have noScale : rank.val / 2 ^ 52 - 1 = 0 := by omega
      rw [noScale]
      by_cases zero : rank.val = 0
      · simp [zero]
      · have bound : Nat.log2 rank.val < 52 := (Nat.log2_lt zero).2 small
        simp
        omega
  case isFalse large =>
      generalize rank.val / 2 ^ 52 - 1 = scale
      have low : 2 ^ 52 * 2 ^ scale ≤ (2 ^ 52 + rank.val % 2 ^ 52) * 2 ^ scale :=
        Nat.mul_le_mul_right _ (by omega)
      have high : (2 ^ 52 + rank.val % 2 ^ 52) * 2 ^ scale < 2 ^ 53 * 2 ^ scale :=
        Nat.mul_lt_mul_of_pos_right (by omega) (Nat.two_pow_pos scale)
      rw [← Nat.pow_add] at low high
      have nonzero : (2 ^ 52 + rank.val % 2 ^ 52) * 2 ^ scale ≠ 0 :=
        Nat.ne_of_gt (Nat.lt_of_lt_of_le (Nat.two_pow_pos _) low)
      have below : Nat.log2 ((2 ^ 52 + rank.val % 2 ^ 52) * 2 ^ scale) < 53 + scale :=
        (Nat.log2_lt nonzero).2 high
      have above : 52 + scale ≤ Nat.log2 ((2 ^ 52 + rank.val % 2 ^ 52) * 2 ^ scale) :=
        (Nat.le_log2 nonzero).2 low
      omega

/-- A magnitude is rounded to itself. -/
theorem nearest?_units (rank : Rank) : nearest? rank.units unitsPerOne = some rank := by
  have regrouped : rank.units * unitsPerOne
      = rank.significand * (unitsPerOne * Nat.pow 2 rank.scale) := by
    unfold units
    rw [Nat.mul_assoc, Nat.mul_comm (Nat.pow 2 rank.scale)]
  have rounded : roundHalfEven (rank.units * unitsPerOne) (unitsPerOne * Nat.pow 2 rank.scale)
      = rank.significand := by
    rw [regrouped]
    exact roundHalfEven_mul_right _ _
      (Nat.mul_pos unitsPerOne_pos (natPow_pos Nat.two_pos rank.scale))
  have place := scale_mul_add_significand rank
  simp only [nearest?, Nat.mul_div_cancel _ unitsPerOne_pos, log2_units_sub, rounded, place,
    Fin.is_lt, ↓reduceDIte, Fin.eta]

end Rank

namespace Binary64

/-- The number nearest to a decimal; beyond the largest magnitude that is the
positive infinity. -/
def ofDecimal (d : Decimal) : Binary64 :=
  match Rank.ofDecimal? d with
  | some rank => .finite false rank
  | none => .infinite false

end Binary64

end LoadScript
