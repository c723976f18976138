/-!
# Binary floating-point numbers

A finite number of the 64-bit binary format is a sign and a *rank*: the finite
magnitudes in increasing order are numbered from zero, and the rank is the place
of a magnitude in that row.  Every magnitude is a whole number of *units* of
`2 ^ -1074`, the smallest positive one.

The rank is also the bit pattern of the magnitude, so reading and writing bit
patterns needs no arithmetic beyond the sign.
-/

namespace LoadScript

/-- The number of magnitudes that share one scale, two to the power of 52. -/
def scaleSpan : Nat := 0x10000000000000

/-- The number of finite magnitudes. -/
def rankCount : Nat := 2047 * scaleSpan

/-- The weight of the sign in a bit pattern, two to the power of 63. -/
def signWeight : Nat := 0x8000000000000000

/-- The place of a finite magnitude among all of them, in increasing order. -/
abbrev Rank := Fin rankCount

/-- A number of the 64-bit binary format. -/
inductive Binary64 where
  /-- A finite number; zero has both signs. -/
  | finite (negative : Bool) (rank : Rank)
  /-- One of the two infinities. -/
  | infinite (negative : Bool)
  /-- The result of an undefined operation; its payload is not kept. -/
  | nan
deriving DecidableEq

namespace Rank

/-- The power of two by which the significand of a magnitude is scaled. -/
def scale (rank : Rank) : Nat :=
  rank.val / scaleSpan - 1

/-- The whole number that a magnitude scales; it has at most 53 binary digits. -/
def significand (rank : Rank) : Nat :=
  if rank.val < scaleSpan then rank.val else scaleSpan + rank.val % scaleSpan

/-- The magnitude as a whole number of units of `2 ^ -1074`. -/
def units (rank : Rank) : Nat :=
  rank.significand * Nat.pow 2 rank.scale

/-- Scale and significand give the rank back. -/
theorem scale_mul_add_significand (rank : Rank) :
    rank.scale * scaleSpan + rank.significand = rank.val := by
  unfold scale significand scaleSpan
  split <;> omega

end Rank

/-- The number of binary places of a unit. -/
def unitPlaces : Nat := 1074

/-- The number of units in one. -/
def unitsPerOne : Nat := Nat.pow 2 unitPlaces

/-- Powers of positive numbers are positive. -/
theorem natPow_pos {base : Nat} (positive : 0 < base) (exponent : Nat) :
    0 < Nat.pow base exponent :=
  Nat.pow_pos positive

/-- There is at least one unit in one. -/
theorem unitsPerOne_pos : 0 < unitsPerOne := by
  unfold unitsPerOne
  generalize unitPlaces = places
  exact natPow_pos Nat.two_pos places

namespace Binary64

/-- The number with a given bit pattern of 64 bits. -/
def ofBits (bits : Nat) : Binary64 :=
  let negative := bits / signWeight % 2 == 1
  let magnitude := bits % signWeight
  if inRange : magnitude < rankCount then .finite negative ⟨magnitude, inRange⟩
  else if magnitude = rankCount then .infinite negative
  else .nan

/-- The bit pattern of a number, except that undefined results have none. -/
def bits? : Binary64 → Option Nat
  | .finite negative rank => some (negative.toNat * signWeight + rank.val)
  | .infinite negative => some (negative.toNat * signWeight + rankCount)
  | .nan => none

/-- The sign and the magnitude of a bit pattern put together from them. -/
private theorem sign_and_magnitude (negative : Bool) (magnitude : Nat)
    (small : magnitude < signWeight) :
    ((negative.toNat * signWeight + magnitude) / signWeight % 2 == 1) = negative ∧
      (negative.toNat * signWeight + magnitude) % signWeight = magnitude := by
  have positive : 0 < signWeight := by decide
  rw [Nat.mul_comm, Nat.mul_add_mod, Nat.mod_eq_of_lt small,
    Nat.mul_add_div positive, Nat.div_eq_of_lt small]
  cases negative <;> simp

/-- A bit pattern names the number it was taken from. -/
theorem ofBits_of_bits? {x : Binary64} {bits : Nat} (written : x.bits? = some bits) :
    ofBits bits = x := by
  have bound : rankCount < signWeight := by decide
  cases x with
  | finite negative rank =>
      obtain ⟨sign, magnitude⟩ :=
        sign_and_magnitude negative rank.val (Nat.lt_trans rank.isLt bound)
      simp only [bits?, Option.some.injEq] at written
      subst written
      simp only [ofBits, sign, magnitude, rank.isLt, ↓reduceDIte]
  | infinite negative =>
      obtain ⟨sign, magnitude⟩ := sign_and_magnitude negative rankCount bound
      simp only [bits?, Option.some.injEq] at written
      subst written
      simp only [ofBits, sign, magnitude, Nat.lt_irrefl, ↓reduceDIte, ↓reduceIte]
  | nan => simp [bits?] at written

end Binary64

end LoadScript
