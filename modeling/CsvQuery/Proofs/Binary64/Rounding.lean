import CsvQuery.Binary64.Nearest
import Mathlib.Algebra.Order.Ring.Nat
import Mathlib.Data.Nat.Log
import Mathlib.Tactic.Ring

/-!
# Rounding to a rank

Rounding keeps the order: a larger fraction of units has no smaller nearest rank
(`nearestRank_mono`).  Inside one block of ranks this is the order of the quotients by its
step, and between two blocks it is the order of the blocks, since a quotient fills its block
from the first rank to the end and no further.

The magnitude of a rank is nearest to that rank, however its fraction is written
(`nearestRank_units`).
-/

set_option autoImplicit false

namespace CsvQuery.Binary64

/-! ## Halves to even -/

theorem roundHalfEven_eq_or (num den : Nat) :
    roundHalfEven num den = num / den ∨ roundHalfEven num den = num / den + 1 := by
  unfold roundHalfEven
  simp only
  split
  · exact .inl rfl
  · split
    · exact .inr rfl
    · omega

theorem le_roundHalfEven (num den : Nat) : num / den ≤ roundHalfEven num den := by
  rcases roundHalfEven_eq_or num den with same | next <;> omega

theorem roundHalfEven_le (num den : Nat) : roundHalfEven num den ≤ num / den + 1 := by
  rcases roundHalfEven_eq_or num den with same | next <;> omega

theorem roundHalfEven_mul_right {den : Nat} (positive : 0 < den) (n : Nat) :
    roundHalfEven (n * den) den = n := by
  simp [roundHalfEven, Nat.mul_div_cancel n positive, positive]

/-- Rounding a small fraction gives zero. -/
theorem roundHalfEven_eq_zero {num den : Nat} (small : 2 * num < den) :
    roundHalfEven num den = 0 := by
  have lessThanOne : num < den := by omega
  simp [roundHalfEven, Nat.div_eq_of_lt lessThanOne, Nat.mod_eq_of_lt lessThanOne, small]

theorem div_le_div_of_mul_le {num den num' den' : Nat} (positive : 0 < den)
    (positive' : 0 < den') (le : num * den' ≤ num' * den) : num / den ≤ num' / den' := by
  rw [Nat.le_div_iff_mul_le positive']
  refine Nat.le_of_mul_le_mul_right ?_ positive
  calc num / den * den' * den = num / den * den * den' := Nat.mul_right_comm _ _ _
    _ ≤ num * den' := Nat.mul_le_mul_right den' (Nat.div_mul_le_self num den)
    _ ≤ num' * den := le

/-- Two fractions with the same whole part are ordered as their remainders are. -/
theorem mod_mul_le_mod_mul {num den num' den' : Nat} (same : num / den = num' / den')
    (le : num * den' ≤ num' * den) : num % den * den' ≤ num' % den' * den := by
  have split := congrArg (· * den') (Nat.div_add_mod num den)
  have split' := congrArg (· * den) (Nat.div_add_mod num' den')
  simp only [Nat.add_mul] at split split'
  have sameWhole : den * (num / den) * den' = den' * (num' / den') * den := by
    rw [same]
    ring
  omega

theorem roundHalfEven_mono {num den num' den' : Nat} (positive : 0 < den)
    (positive' : 0 < den') (le : num * den' ≤ num' * den) :
    roundHalfEven num den ≤ roundHalfEven num' den' := by
  rcases Nat.lt_or_eq_of_le (div_le_div_of_mul_le positive positive' le) with less | same
  · calc roundHalfEven num den ≤ num / den + 1 := roundHalfEven_le num den
      _ ≤ num' / den' := less
      _ ≤ roundHalfEven num' den' := le_roundHalfEven num' den'
  · have remainders := mod_mul_le_mod_mul same le
    have notBelow : den ≤ 2 * (num % den) → den' ≤ 2 * (num' % den') := by
      intro atLeastHalf
      refine Nat.le_of_mul_le_mul_right ?_ positive
      calc den' * den = den * den' := Nat.mul_comm _ _
        _ ≤ 2 * (num % den) * den' := Nat.mul_le_mul_right den' atLeastHalf
        _ = 2 * (num % den * den') := Nat.mul_assoc _ _ _
        _ ≤ 2 * (num' % den' * den) := Nat.mul_le_mul_left 2 remainders
        _ = 2 * (num' % den') * den := (Nat.mul_assoc _ _ _).symm
    have above : den < 2 * (num % den) → den' < 2 * (num' % den') := by
      intro moreThanHalf
      refine Nat.lt_of_mul_lt_mul_right (a := den) ?_
      calc den' * den = den * den' := Nat.mul_comm _ _
        _ < 2 * (num % den) * den' := Nat.mul_lt_mul_of_pos_right moreThanHalf positive'
        _ = 2 * (num % den * den') := Nat.mul_assoc _ _ _
        _ ≤ 2 * (num' % den' * den) := Nat.mul_le_mul_left 2 remainders
        _ = 2 * (num' % den') * den := (Nat.mul_assoc _ _ _).symm
    unfold roundHalfEven
    simp only [same]
    split_ifs <;> omega

/-! ## Blocks of ranks -/

theorem blockSize_eq : blockSize = 2 ^ 52 := rfl

/-- The block that a whole number of units lies in, counted from the first whose step is
doubled. -/
def blockOf (whole : Nat) : Nat := whole.log2 - blockBits

theorem nearestRank_eq (num den : Nat) :
    nearestRank num den = min infinityRank
      (blockOf (num / den) * blockSize + roundHalfEven num (den * 2 ^ blockOf (num / den))) := rfl

theorem blockOf_mono {whole whole' : Nat} (le : whole ≤ whole') :
    blockOf whole ≤ blockOf whole' := by
  have logs : whole.log2 ≤ whole'.log2 := by
    rw [Nat.log2_eq_log_two, Nat.log2_eq_log_two]
    exact Nat.log_mono_right le
  exact Nat.sub_le_sub_right logs blockBits

/-- A whole number of units is at most as many steps as end its block. -/
theorem div_two_pow_blockOf_lt (whole : Nat) : whole / 2 ^ blockOf whole < 2 * blockSize := by
  rw [Nat.div_lt_iff_lt_mul (Nat.two_pow_pos _), blockSize_eq, ← Nat.pow_succ', ← Nat.pow_add]
  refine Nat.lt_of_lt_of_le Nat.lt_log2_self (Nat.pow_le_pow_right (by decide) ?_)
  rw [blockOf, blockBits]
  omega

/-- Behind the first block, a whole number of units is at least as many steps as the step
itself has units. -/
theorem blockSize_le_div_two_pow {whole : Nat} (behind : 0 < blockOf whole) :
    blockSize ≤ whole / 2 ^ blockOf whole := by
  have positive : whole ≠ 0 := by
    rintro rfl
    simp [blockOf] at behind
  rw [Nat.le_div_iff_mul_le (Nat.two_pow_pos _), blockSize_eq, ← Nat.pow_add]
  refine Nat.le_trans (Nat.pow_le_pow_right (by decide) ?_) (Nat.log2_self_le positive)
  rw [blockOf, blockBits] at behind ⊢
  omega

/-! ## The order of the ranks -/

/-- **A larger fraction has no smaller nearest rank.** -/
theorem nearestRank_mono {num den num' den' : Nat} (positive : 0 < den) (positive' : 0 < den')
    (le : num * den' ≤ num' * den) : nearestRank num den ≤ nearestRank num' den' := by
  have wholes := div_le_div_of_mul_le positive positive' le
  rw [nearestRank_eq, nearestRank_eq]
  refine min_le_min_left _ ?_
  generalize block : blockOf (num / den) = b
  generalize block' : blockOf (num' / den') = b'
  have step : 0 < 2 ^ b := Nat.two_pow_pos b
  have step' : 0 < 2 ^ b' := Nat.two_pow_pos b'
  rcases Nat.lt_or_eq_of_le (blockOf_mono wholes) with less | same
  · -- The lower fraction ends its block at the latest, where the upper one begins its own.
    rw [block, block'] at less
    have ends : roundHalfEven num (den * 2 ^ b) ≤ 2 * blockSize := by
      refine (roundHalfEven_le _ _).trans ?_
      rw [← Nat.div_div_eq_div_mul, ← block]
      exact div_two_pow_blockOf_lt _
    have begins : blockSize ≤ roundHalfEven num' (den' * 2 ^ b') := by
      refine Nat.le_trans ?_ (le_roundHalfEven _ _)
      rw [← Nat.div_div_eq_div_mul, ← block']
      exact blockSize_le_div_two_pow (by omega)
    rw [blockSize_eq] at ends begins ⊢
    omega
  · rw [block, block'] at same
    subst same
    refine Nat.add_le_add_left (roundHalfEven_mono (Nat.mul_pos positive step)
      (Nat.mul_pos positive' step) ?_) _
    calc num * (den' * 2 ^ b) = num * den' * 2 ^ b := (Nat.mul_assoc _ _ _).symm
      _ ≤ num' * den * 2 ^ b := Nat.mul_le_mul_right _ le
      _ = num' * (den * 2 ^ b) := Nat.mul_assoc _ _ _

theorem nearestRank_congr {num den num' den' : Nat} (positive : 0 < den) (positive' : 0 < den')
    (same : num * den' = num' * den) : nearestRank num den = nearestRank num' den' :=
  Nat.le_antisymm (nearestRank_mono positive positive' same.le)
    (nearestRank_mono positive' positive same.ge)

theorem nearestRank_eq_zero {num den : Nat} (small : 2 * num < den) : nearestRank num den = 0 := by
  have lessThanOne : num < den := by omega
  rw [nearestRank_eq, Nat.div_eq_of_lt lessThanOne]
  simp [blockOf, roundHalfEven_eq_zero small]

/-! ## The magnitudes of the ranks -/

/-- Up to the end of the second block the ranks count the units. -/
theorem units_of_lt {rank : Nat} (low : rank < 2 * blockSize) : units rank = rank := by
  rw [units]
  split
  next => rfl
  next notFirst =>
    have block : rank / blockSize = 1 := by
      rw [blockSize_eq] at low notFirst ⊢
      omega
    have whole := Nat.div_add_mod rank blockSize
    rw [block, Nat.mul_one] at whole
    rw [block, whole]
    exact Nat.mul_one rank

theorem units_of_le {rank : Nat} (high : 2 * blockSize ≤ rank) :
    units rank = (blockSize + rank % blockSize) * 2 ^ (rank / blockSize - 1) := by
  have notFirst : ¬ rank < blockSize := by
    rw [blockSize_eq] at high ⊢
    omega
  rw [units, if_neg notFirst]
  rfl

theorem blockOf_of_lt {whole : Nat} (low : whole < 2 * blockSize) : blockOf whole = 0 := by
  by_cases zero : whole = 0
  · rw [zero]
    rfl
  · have bits : whole.log2 < 53 := (Nat.log2_lt zero).2 low
    rw [blockOf, blockBits]
    omega

theorem blockOf_mul_two_pow {quotient : Nat} (low : blockSize ≤ quotient)
    (high : quotient < 2 * blockSize) (block : Nat) :
    blockOf (quotient * 2 ^ block) = block := by
  have bits : (quotient * 2 ^ block).log2 = 52 + block := by
    have positive : 0 < quotient := Nat.lt_of_lt_of_le (by decide) low
    rw [Nat.log2_eq_iff (Nat.mul_pos positive (Nat.two_pow_pos block)).ne']
    constructor
    · rw [Nat.pow_add]
      exact Nat.mul_le_mul_right _ low
    · rw [Nat.add_right_comm, Nat.pow_add]
      exact Nat.mul_lt_mul_of_pos_right high (Nat.two_pow_pos block)
  rw [blockOf, bits, blockBits]
  omega

/-- **The magnitude of a rank is nearest to it.** -/
theorem nearestRank_units {rank den : Nat} (isRank : rank ≤ infinityRank) (positive : 0 < den) :
    nearestRank (units rank * den) den = rank := by
  rw [nearestRank_eq, Nat.mul_div_cancel _ positive]
  refine (congrArg (min infinityRank) ?_).trans (Nat.min_eq_right isRank)
  by_cases low : rank < 2 * blockSize
  · rw [units_of_lt low, blockOf_of_lt low, Nat.zero_mul, Nat.zero_add, Nat.pow_zero, Nat.mul_one]
    exact roundHalfEven_mul_right positive rank
  · have high : 2 * blockSize ≤ rank := Nat.le_of_not_lt low
    have inBlock : rank % blockSize < blockSize := Nat.mod_lt _ (by decide)
    generalize block : rank / blockSize - 1 = b
    have magnitude : units rank = (blockSize + rank % blockSize) * 2 ^ b := by
      rw [units_of_le high, block]
    have isBlock : blockOf (units rank) = b := by
      rw [magnitude]
      exact blockOf_mul_two_pow (Nat.le_add_right _ _) (by omega) b
    have steps : units rank * den = (blockSize + rank % blockSize) * (den * 2 ^ b) := by
      rw [magnitude]
      ring
    rw [isBlock, steps, roundHalfEven_mul_right (Nat.mul_pos positive (Nat.two_pow_pos b))]
    rw [blockSize_eq] at high inBlock block ⊢
    omega

end CsvQuery.Binary64
