import CsvQuery.Proofs.Binary64.Rounding

/-!
# Decimals and their ranks

A decimal is read by its value alone: whatever its significand and exponent are, its rank is
nearest to one fraction of units (`decimalRank_eq`).  The exponents that are answered without
forming a power are no exception, because such a decimal is above every finite magnitude or
below half a unit.  So zeros may be moved between the significand and the exponent
(`decimalRank_mul_pow`), and of two decimals the one with the larger significand and exponent
has no smaller rank (`decimalRank_le_decimalRank`).

The decimal of all digits of a magnitude has the rank of the magnitude
(`decimalRank_exact`).
-/

set_option autoImplicit false

namespace CsvQuery.Binary64

/-! ## The fraction of a decimal -/

/-- The numerator of a decimal in units. -/
def unitsOf (significand : Nat) (exponent : Int) : Nat :=
  significand * 10 ^ exponent.toNat * oneInUnits

/-- The denominator of a decimal. -/
def denominatorOf (exponent : Int) : Nat := 10 ^ (-exponent).toNat

theorem denominatorOf_pos (exponent : Int) : 0 < denominatorOf exponent :=
  Nat.pow_pos (by decide)

theorem oneInUnits_eq : oneInUnits = 2 ^ unitExponent := by
  unfold oneInUnits
  generalize unitExponent = n
  rfl

theorem oneInUnits_pos : 0 < oneInUnits := by
  rw [oneInUnits_eq]
  exact Nat.two_pow_pos _

/-! ## Exponents that are answered at once -/

/-- The value behind the last finite magnitude is `2 ^ 1024`. -/
theorem units_infinityRank : units infinityRank = 2 ^ 1024 * oneInUnits := by
  decide +kernel

theorem nearestRank_of_large {significand : Nat} {exponent : Int} (nonzero : significand ≠ 0)
    (large : 400 < exponent) :
    nearestRank (unitsOf significand exponent) (denominatorOf exponent) = infinityRank := by
  refine Nat.le_antisymm (nearestRank_le _ _) ?_
  have one : denominatorOf exponent = 1 := by
    have whole : (-exponent).toNat = 0 := by omega
    rw [denominatorOf, whole, Nat.pow_zero]
  have power : 2 ^ 1024 ≤ significand * 10 ^ exponent.toNat :=
    calc 2 ^ 1024 ≤ 10 ^ 401 := by decide +kernel
      _ ≤ 10 ^ exponent.toNat := Nat.pow_le_pow_right (by decide) (by omega)
      _ ≤ significand * 10 ^ exponent.toNat :=
        Nat.le_mul_of_pos_left _ (Nat.pos_of_ne_zero nonzero)
  calc infinityRank = nearestRank (units infinityRank * 1) 1 :=
        (nearestRank_units (Nat.le_refl _) (by decide)).symm
    _ ≤ nearestRank (unitsOf significand exponent) (denominatorOf exponent) := by
      refine nearestRank_mono (by decide) (denominatorOf_pos exponent) ?_
      rw [one, Nat.mul_one, Nat.mul_one, Nat.mul_one, units_infinityRank, unitsOf]
      exact Nat.mul_le_mul_right _ power

theorem nearestRank_of_small {significand : Nat} {exponent : Int}
    (small : exponent < -(400 + significand.log2 : Int)) :
    nearestRank (unitsOf significand exponent) (denominatorOf exponent) = 0 := by
  have whole : exponent.toNat = 0 := by omega
  have digits : 401 + significand.log2 ≤ (-exponent).toNat := by omega
  have unit : unitExponent = 1074 := rfl
  refine nearestRank_eq_zero ?_
  rw [unitsOf, whole, Nat.pow_zero, Nat.mul_one, denominatorOf]
  calc 2 * (significand * oneInUnits)
      < 2 * (2 ^ (significand.log2 + 1) * oneInUnits) := by
        refine Nat.mul_lt_mul_of_pos_left ?_ (by decide)
        exact Nat.mul_lt_mul_of_pos_right Nat.lt_log2_self oneInUnits_pos
    _ = 2 ^ (1 + (significand.log2 + 1 + unitExponent)) := by
        rw [oneInUnits_eq, Nat.pow_add 2 1, Nat.pow_add 2 _ unitExponent, Nat.pow_one]
    _ ≤ 2 ^ (3 * (401 + significand.log2)) := Nat.pow_le_pow_right (by decide) (by omega)
    _ = 8 ^ (401 + significand.log2) := by rw [Nat.pow_mul]
    _ ≤ 10 ^ (401 + significand.log2) := Nat.pow_le_pow_left (by decide) _
    _ ≤ 10 ^ (-exponent).toNat := Nat.pow_le_pow_right (by decide) digits

/-- **A decimal has the rank that is nearest to its fraction.** -/
theorem decimalRank_eq (significand : Nat) (exponent : Int) :
    decimalRank significand exponent =
      nearestRank (unitsOf significand exponent) (denominatorOf exponent) := by
  unfold decimalRank
  split
  next zero =>
    have noUnits : unitsOf significand exponent = 0 := by
      rw [zero, unitsOf, Nat.zero_mul, Nat.zero_mul]
    rw [noUnits, nearestRank_eq_zero (denominatorOf_pos exponent)]
  next nonzero =>
    split
    next large => exact (nearestRank_of_large nonzero large).symm
    next =>
      split
      next small => exact (nearestRank_of_small small).symm
      next =>
        split
        next nonnegative =>
          have whole : (-exponent).toNat = 0 := by omega
          rw [denominatorOf, whole]
          rfl
        next negative =>
          have whole : exponent.toNat = 0 := by omega
          rw [unitsOf, whole, Nat.pow_zero, Nat.mul_one]
          rfl

/-! ## The order of decimals -/

theorem decimalRank_zero (exponent : Int) : decimalRank 0 exponent = 0 := rfl

/-- **A decimal with a larger significand has no smaller rank.** -/
theorem decimalRank_mono {significand significand' : Nat} (le : significand ≤ significand')
    (exponent : Int) : decimalRank significand exponent ≤ decimalRank significand' exponent := by
  rw [decimalRank_eq, decimalRank_eq]
  refine nearestRank_mono (denominatorOf_pos _) (denominatorOf_pos _) ?_
  exact Nat.mul_le_mul_right _ (Nat.mul_le_mul_right _ (Nat.mul_le_mul_right _ le))

/-- **Zeros behind a significand may be taken from the exponent.** -/
theorem decimalRank_mul_pow (significand zeros : Nat) (exponent : Int) :
    decimalRank (significand * 10 ^ zeros) exponent =
      decimalRank significand (exponent + zeros) := by
  have exponents : zeros + exponent.toNat + (-(exponent + zeros)).toNat =
      (exponent + zeros).toNat + (-exponent).toNat := by omega
  rw [decimalRank_eq, decimalRank_eq]
  refine nearestRank_congr (denominatorOf_pos _) (denominatorOf_pos _) ?_
  unfold unitsOf denominatorOf
  generalize oneInUnits = unit
  calc significand * 10 ^ zeros * 10 ^ exponent.toNat * unit * 10 ^ (-(exponent + zeros)).toNat
      = significand * unit *
        10 ^ (zeros + exponent.toNat + (-(exponent + zeros)).toNat) := by ring
    _ = significand * unit * 10 ^ ((exponent + zeros).toNat + (-exponent).toNat) := by
        rw [exponents]
    _ = significand * 10 ^ (exponent + zeros).toNat * unit * 10 ^ (-exponent).toNat := by ring

/-- **Of two decimals the one with larger significand and exponent has no smaller rank.** -/
theorem decimalRank_le_decimalRank {significand significand' : Nat} {exponent exponent' : Int}
    (le : significand ≤ significand') (exponentLe : exponent ≤ exponent') :
    decimalRank significand exponent ≤ decimalRank significand' exponent' := by
  have sum : exponent + ((exponent' - exponent).toNat : Int) = exponent' := by omega
  calc decimalRank significand exponent
      ≤ decimalRank (significand' * 10 ^ (exponent' - exponent).toNat) exponent := by
        refine decimalRank_mono ?_ exponent
        exact le.trans (Nat.le_mul_of_pos_right _ (Nat.pow_pos (by decide)))
    _ = decimalRank significand' exponent' := by rw [decimalRank_mul_pow, sum]

/-- A decimal lies between the neighbours that are left when digits at its end are dropped. -/
theorem decimalRank_div_le_and_le (significand zeros : Nat) (exponent : Int) :
    decimalRank (significand / 10 ^ zeros) (exponent + zeros) ≤ decimalRank significand exponent ∧
      decimalRank significand exponent ≤ decimalRank (significand / 10 ^ zeros + 1) (exponent + zeros) := by
  have positive : 0 < 10 ^ zeros := Nat.pow_pos (by decide)
  rw [← decimalRank_mul_pow, ← decimalRank_mul_pow]
  exact ⟨decimalRank_mono (Nat.div_mul_le_self _ _) exponent,
    decimalRank_mono (Nat.lt_mul_of_div_lt (Nat.lt_succ_self _) positive).le exponent⟩

/-! ## The decimal of a magnitude -/

theorem pow_five_mul_two_pow (n : Nat) : Nat.pow 5 n * 2 ^ n = 10 ^ n := (Nat.mul_pow 5 2 n).symm

/-- **All digits of a magnitude have its rank.** -/
theorem decimalRank_exact {rank exact : Nat} (isRank : rank ≤ infinityRank)
    (isExact : exact = units rank * Nat.pow 5 unitExponent) :
    decimalRank exact (-unitExponent) = rank := by
  have places : (-(-unitExponent : Int)).toNat = unitExponent := by omega
  have power : Nat.pow 5 unitExponent * oneInUnits = denominatorOf (-unitExponent) := by
    rw [oneInUnits_eq, denominatorOf, places, pow_five_mul_two_pow]
  have digits : unitsOf exact (-unitExponent) = units rank * denominatorOf (-unitExponent) := by
    have whole : (-(unitExponent : Int)).toNat = 0 := by omega
    rw [isExact, unitsOf, whole, Nat.pow_zero, Nat.mul_one, Nat.mul_assoc, power]
  rw [decimalRank_eq, digits]
  exact nearestRank_units isRank (denominatorOf_pos _)

end CsvQuery.Binary64
