import CsvQuery.Binary64.Basic

/-!
# The nearest rank

A decimal is read by finding the rank whose magnitude is nearest to it, and of
two that are equally near the even one.  The decimal is an exact fraction of
units, and the rounding is exact arithmetic on it: the size of the whole part
gives the block of ranks, the block gives the step, and the quotient by the step
is rounded once.  A quotient that is rounded up to the end of its block is the
first rank of the next one, so no case is needed for the carry.
-/

namespace CsvQuery.Binary64

set_option autoImplicit false

/-- The natural number nearest to a fraction; a half goes to the even neighbour. -/
def roundHalfEven (num den : Nat) : Nat :=
  let quotient := num / den
  let remainder := num % den
  if 2 * remainder < den then quotient
  else if den < 2 * remainder then quotient + 1
  else quotient + quotient % 2

/-- The rank nearest to a fraction of units; what is too large is infinite. -/
def nearestRank (num den : Nat) : Nat :=
  let block := (num / den).log2 - blockBits
  min infinityRank (block * blockSize + roundHalfEven num (den * Nat.pow 2 block))

/-- The nearest rank is the rank of a magnitude. -/
theorem nearestRank_le (num den : Nat) : nearestRank num den ≤ infinityRank :=
  Nat.min_le_left _ _

/-- The rank nearest to `significand * 10 ^ exponent`.  Exponents so large or so
small that the answer is infinity or zero whatever the digits are answered
without forming the power. -/
def decimalRank (significand : Nat) (exponent : Int) : Nat :=
  if significand = 0 then 0
  else if 400 < exponent then infinityRank
  else if exponent < -(400 + significand.log2 : Int) then 0
  else if 0 ≤ exponent then
    nearestRank (significand * Nat.pow 10 exponent.toNat * oneInUnits) 1
  else nearestRank (significand * oneInUnits) (Nat.pow 10 (-exponent).toNat)

/-- A decimal is read as the rank of a magnitude. -/
theorem decimalRank_le (significand : Nat) (exponent : Int) :
    decimalRank significand exponent ≤ infinityRank := by
  unfold decimalRank
  split
  · exact Nat.zero_le _
  · split
    · exact Nat.le_refl _
    · split
      · exact Nat.zero_le _
      · split <;> exact nearestRank_le _ _

/-- The number nearest to a decimal with a sign. -/
def ofDecimal (negative : Bool) (significand : Nat) (exponent : Int) : Binary64 :=
  .signed negative (decimalRank significand exponent) (decimalRank_le _ _)

/-- The number nearest to a whole number. -/
def ofInt (n : Int) : Binary64 :=
  .signed (n < 0) (nearestRank (n.natAbs * oneInUnits) 1) (nearestRank_le _ _)

end CsvQuery.Binary64
