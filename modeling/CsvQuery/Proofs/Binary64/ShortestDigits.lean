import CsvQuery.Binary64.Shortest
import CsvQuery.Text.Numeral
import CsvQuery.Proofs.Binary64.Decimals
import CsvQuery.Proofs.Lists.Trailing

/-!
# The shortest digits read back

What the search for the shortest decimal of a rank ends with reads back as the rank: each
step checks it, and dropping no digit at all reads back because the decimal is exact
(`decimalRank_shortest`).

A rank has one digit in its shortest decimal exactly when some decimal of one digit reads
back as it (`length_digits_shortest_eq_one_iff`).  The search finds one, because the exact
decimal lies between two neighbours of one digit, every other decimal of one digit lies
beyond a neighbour, and the decimals that read back as a rank have no gaps.
-/

set_option autoImplicit false

namespace CsvQuery.Binary64

open CsvQuery.Text

/-! ## The search -/

theorem of_readsBack?_eq_some {tie : Tie} {rank below : Nat} {exponent : Int}
    {remainder step significand : Nat}
    (found : readsBack? tie rank below exponent remainder step = some significand) :
    decimalRank significand exponent = rank ∧
      (significand = below ∨ significand = below + 1) := by
  unfold readsBack? at found
  simp only [Bool.and_eq_true, beq_iff_eq] at found
  have parity : below % 2 = 0 ∨ below % 2 = 1 := Nat.mod_two_eq_zero_or_one below
  grind

theorem readsBack?_ne_none {tie : Tie} {rank below : Nat} {exponent : Int} {remainder step : Nat}
    (reads : decimalRank below exponent = rank ∨ decimalRank (below + 1) exponent = rank) :
    readsBack? tie rank below exponent remainder step ≠ none := by
  unfold readsBack?
  simp only [Bool.and_eq_true, beq_iff_eq]
  grind

/-- **The search ends with a decimal that reads back.** -/
theorem decimalRank_of_shorten_eq {tie : Tie} {rank exact most significand dropped : Nat}
    (isExact : decimalRank exact (-unitExponent) = rank)
    (found : shorten tie rank exact most = (significand, dropped)) :
    decimalRank significand (dropped - unitExponent) = rank := by
  induction most with
  | zero =>
      rw [shorten] at found
      cases found
      simpa using isExact
  | succ places ih =>
      rw [shorten] at found
      split at found
      next isFound =>
        cases found
        exact (of_readsBack?_eq_some isFound).1
      next => exact ih found

/-! ## The digits of the shortest decimal -/

/-- The digits of a decimal as a whole number. -/
def Decimal.significand (decimal : Decimal) : Nat := digitsValue decimal.digits

/-- The exponent of a decimal whose digits are a whole number. -/
def Decimal.exponent (decimal : Decimal) : Int := decimal.point - decimal.digits.length

/-- The decimal of a significand that leaves out the given number of digits, without the
zeros at its end. -/
def Decimal.ofShortened (significand dropped : Nat) : Decimal :=
  let digits := Nat.toDigits 10 significand
  { digits := (digits.reverse.dropWhile (· == '0')).reverse
    point := digits.length + dropped - unitExponent }

-- Between the function and its body no rank is given, so the check of this equation never
-- looks into the power in it.
theorem shortest_eq :
    @shortest = fun tie rank =>
      let (significand, dropped) := shorten tie rank (units rank * Nat.pow 5 unitExponent)
        ((Nat.toDigits 10 (units rank * Nat.pow 5 unitExponent)).length - 1)
      let digits := Nat.toDigits 10 significand
      if rank = 0 then { digits := ['0'], point := 1 }
      else { digits := (digits.reverse.dropWhile (· == '0')).reverse
             point := digits.length + dropped - unitExponent } := rfl

/-- The shortest decimal is what the search ends with, started from the decimal of all
digits. -/
theorem shortest_of_shorten_eq {tie : Tie} {rank exact significand dropped : Nat}
    (isExact : exact = units rank * Nat.pow 5 unitExponent)
    (found : shorten tie rank exact ((Nat.toDigits 10 exact).length - 1) = (significand, dropped)) :
    shortest tie rank =
      if rank = 0 then { digits := ['0'], point := 1 }
      else Decimal.ofShortened significand dropped := by
  rw [shortest_eq]
  beta_reduce
  rw [← isExact, found]
  rfl

theorem exists_shorten_eq (tie : Tie) (rank : Nat) :
    ∃ exact significand dropped, exact = units rank * Nat.pow 5 unitExponent ∧
      shorten tie rank exact ((Nat.toDigits 10 exact).length - 1) = (significand, dropped) := by
  obtain ⟨exact, isExact⟩ : ∃ exact, exact = units rank * Nat.pow 5 unitExponent := ⟨_, rfl⟩
  cases found : shorten tie rank exact ((Nat.toDigits 10 exact).length - 1) with
  | mk significand dropped => exact ⟨exact, significand, dropped, isExact, found⟩

theorem shortest_zero (tie : Tie) : shortest tie 0 = { digits := ['0'], point := 1 } := by
  obtain ⟨exact, significand, dropped, isExact, found⟩ := exists_shorten_eq tie 0
  rw [shortest_of_shorten_eq isExact found, if_pos rfl]

/-- Only zeros at the end of a significand are left out of its digits. -/
theorem exists_toDigits_eq (significand dropped : Nat) :
    ∃ zeros, Nat.toDigits 10 significand =
        (Decimal.ofShortened significand dropped).digits ++ List.replicate zeros '0' ∧
      (Decimal.ofShortened significand dropped).exponent = dropped - unitExponent + zeros := by
  have only : ∀ c : Char, (c == '0') = true → c = '0' := fun _ => eq_of_beq
  obtain ⟨zeros, split⟩ := exists_eq_dropped_append only (Nat.toDigits 10 significand)
  have lengths := congrArg List.length split
  rw [List.length_append, List.length_replicate] at lengths
  refine ⟨zeros, split, ?_⟩
  simp only [Decimal.exponent, Decimal.ofShortened]
  omega

theorem digitsValue_append_zeros (digits : List Char) (zeros : Nat) :
    digitsValue (digits ++ List.replicate zeros '0') = digitsValue digits * 10 ^ zeros := by
  rw [digitsValue, Nat.ofDigitChars_append, Nat.ofDigitChars_replicate_zero, Nat.mul_comm]
  rfl

/-- The zeros that are left out stand in the exponent. -/
theorem decimalRank_ofShortened (significand dropped : Nat) :
    decimalRank (Decimal.ofShortened significand dropped).significand
        (Decimal.ofShortened significand dropped).exponent =
      decimalRank significand (dropped - unitExponent) := by
  obtain ⟨zeros, split, exponent⟩ := exists_toDigits_eq significand dropped
  have value :
      significand = (Decimal.ofShortened significand dropped).significand * 10 ^ zeros := by
    rw [Decimal.significand, ← digitsValue_append_zeros, ← split, digitsValue,
      Nat.ofDigitChars_ten_toDigits]
  rw [exponent, ← decimalRank_mul_pow, ← value]

/-- **The shortest decimal of a rank reads back as the rank.** -/
theorem decimalRank_shortest {rank : Nat} (isRank : rank ≤ infinityRank) (tie : Tie) :
    decimalRank (shortest tie rank).significand (shortest tie rank).exponent = rank := by
  by_cases zero : rank = 0
  · rw [zero, shortest_zero]
    rfl
  · obtain ⟨exact, significand, dropped, isExact, found⟩ := exists_shorten_eq tie rank
    rw [shortest_of_shorten_eq isExact found, if_neg zero, decimalRank_ofShortened]
    exact decimalRank_of_shorten_eq (decimalRank_exact isRank isExact) found

theorem isDigit_of_mem_shortest {tie : Tie} {rank : Nat} :
    ∀ c ∈ (shortest tie rank).digits, c.isDigit = true := by
  obtain ⟨exact, significand, dropped, isExact, found⟩ := exists_shorten_eq tie rank
  rw [shortest_of_shorten_eq isExact found]
  split
  next => decide
  next =>
    obtain ⟨zeros, split, -⟩ := exists_toDigits_eq significand dropped
    intro c isIn
    have inDigits : c ∈ Nat.toDigits 10 significand := by
      rw [split]
      exact List.mem_append_left _ isIn
    exact Nat.isDigit_of_mem_toDigits (by decide) (by decide) inDigits

theorem digits_shortest_ne_nil {rank : Nat} (isRank : rank ≤ infinityRank) (tie : Tie) :
    (shortest tie rank).digits ≠ [] := by
  intro empty
  have reads := decimalRank_shortest isRank tie
  have noValue : (shortest tie rank).significand = 0 := by
    rw [Decimal.significand, empty]
    rfl
  rw [noValue, decimalRank_zero] at reads
  rw [← reads, shortest_zero] at empty
  cases empty

/-! ## Decimals of one digit -/

/-- A decimal of one digit does not lie between two neighbours. -/
theorem decimalRank_digit_outside {digit below : Nat} (isDigit : digit ≤ 9) (positive : 1 ≤ below)
    (exponent place : Int) :
    decimalRank digit exponent ≤ decimalRank below place ∨
      decimalRank (below + 1) place ≤ decimalRank digit exponent := by
  rcases Int.lt_or_le exponent place with less | le
  · left
    have sum : exponent + ((place - exponent).toNat : Int) = place := by omega
    have ten : 10 ≤ 10 ^ (place - exponent).toNat := Nat.le_self_pow (by omega) 10
    calc decimalRank digit exponent
        ≤ decimalRank (below * 10 ^ (place - exponent).toNat) exponent := by
          refine decimalRank_mono ?_ exponent
          calc digit ≤ 1 * 10 := by omega
            _ ≤ below * 10 ^ (place - exponent).toNat := Nat.mul_le_mul positive ten
      _ = decimalRank below place := by rw [decimalRank_mul_pow, sum]
  · have sum : place + ((exponent - place).toNat : Int) = exponent := by omega
    have moved : decimalRank digit exponent =
        decimalRank (digit * 10 ^ (exponent - place).toNat) place := by
      rw [decimalRank_mul_pow, sum]
    rw [moved]
    rcases Nat.lt_or_ge below (digit * 10 ^ (exponent - place).toNat) with less | notLess
    · exact .inr (decimalRank_mono less place)
    · exact .inl (decimalRank_mono notLess place)

/-- With all but its first digit dropped, a decimal is a digit. -/
theorem div_pow_length_mem {exact places : Nat}
    (length : (Nat.toDigits 10 exact).length = places + 2) :
    1 ≤ exact / 10 ^ (places + 1) ∧ exact / 10 ^ (places + 1) ≤ 9 := by
  have long : ¬ exact < 10 ^ (places + 1) := fun less => by
    have short := (Nat.length_toDigits_le_iff (by decide) (Nat.succ_pos places)).2 less
    omega
  have short : exact < 10 ^ (places + 2) :=
    (Nat.length_toDigits_le_iff (by decide) (Nat.succ_pos _)).1 length.le
  have less : exact / 10 ^ (places + 1) < 10 := Nat.div_lt_of_lt_mul (by rwa [← Nat.pow_succ])
  exact ⟨Nat.div_pos (Nat.le_of_not_lt long) (Nat.pow_pos (by decide)), Nat.le_of_lt_succ less⟩

/-- If some decimal of one digit reads back, so does one of the first two decimals of the
search, which are neighbours of one digit or the power of ten behind them. -/
theorem le_ten_of_shorten_eq {tie : Tie} {rank exact digit significand dropped : Nat}
    {exponent : Int} (isExact : decimalRank exact (-unitExponent) = rank) (isDigit : digit ≤ 9)
    (reads : decimalRank digit exponent = rank)
    (found : shorten tie rank exact ((Nat.toDigits 10 exact).length - 1) = (significand, dropped)) :
    significand ≤ 10 := by
  cases places : (Nat.toDigits 10 exact).length - 1 with
  | zero =>
      rw [places, shorten] at found
      cases found
      have short : exact < 10 ^ 1 :=
        (Nat.length_toDigits_le_iff (by decide) (by decide)).1 (by omega)
      exact short.le
  | succ most =>
      have length : (Nat.toDigits 10 exact).length = most + 2 := by omega
      obtain ⟨positive, small⟩ := div_pow_length_mem length
      have between := decimalRank_div_le_and_le exact (most + 1) (-unitExponent)
      have outside := decimalRank_digit_outside isDigit positive exponent
        (-unitExponent + (most + 1 : Nat))
      rw [isExact] at between
      rw [reads] at outside
      have neighbour : decimalRank (exact / 10 ^ (most + 1)) ((most + 1 : Int) - unitExponent) = rank ∨
          decimalRank (exact / 10 ^ (most + 1) + 1) ((most + 1 : Int) - unitExponent) = rank := by
        have same : (most + 1 : Int) - unitExponent = -unitExponent + (most + 1 : Nat) := by omega
        rw [same]
        omega
      rw [places, shorten] at found
      split at found
      next isFound =>
        cases found
        have nearest := (of_readsBack?_eq_some isFound).2
        simp only [Nat.pow_eq] at nearest
        omega
      next notFound => exact absurd notFound (readsBack?_ne_none neighbour)

theorem length_digits_ofShortened {significand : Nat} (nonzero : significand ≠ 0)
    (le : significand ≤ 10) (dropped : Nat) :
    (Decimal.ofShortened significand dropped).digits.length = 1 := by
  have single : ∀ n ≤ 10, n ≠ 0 →
      ((Nat.toDigits 10 n).reverse.dropWhile (· == '0')).reverse.length = 1 := by decide
  exact single significand le nonzero

theorem digitsValue_singleton_le {c : Char} (isDigit : c.isDigit = true) : digitsValue [c] ≤ 9 := by
  have code : 48 ≤ c.toNat ∧ c.toNat ≤ 57 := Char.isDigit_iff_toNat.1 isDigit
  have zero : '0'.toNat = 48 := rfl
  rw [digitsValue, Nat.ofDigitChars_cons, Nat.ofDigitChars_nil, zero]
  omega

theorem exists_digit_shortest_eq {tie : Tie} {rank : Nat}
    (one : (shortest tie rank).digits.length = 1) :
    ∃ c : Char, c.isDigit = true ∧ (shortest tie rank).digits = [c] := by
  obtain ⟨c, single⟩ := List.length_eq_one_iff.1 one
  have isIn : c ∈ (shortest tie rank).digits := by
    rw [single]
    exact List.mem_singleton_self c
  exact ⟨c, isDigit_of_mem_shortest c isIn, single⟩

theorem significand_shortest_le {tie : Tie} {rank : Nat}
    (one : (shortest tie rank).digits.length = 1) : (shortest tie rank).significand ≤ 9 := by
  obtain ⟨c, isDigit, single⟩ := exists_digit_shortest_eq one
  rw [Decimal.significand, single]
  exact digitsValue_singleton_le isDigit

/-- **The shortest decimal has one digit exactly when a decimal of one digit reads back.** -/
theorem length_digits_shortest_eq_one_iff {rank : Nat} (isRank : rank ≤ infinityRank)
    (nonzero : rank ≠ 0) (tie : Tie) :
    (shortest tie rank).digits.length = 1 ↔
      ∃ digit ≤ 9, ∃ exponent, decimalRank digit exponent = rank := by
  constructor
  · intro one
    exact ⟨_, significand_shortest_le one, _, decimalRank_shortest isRank tie⟩
  · rintro ⟨digit, small, exponent, reads⟩
    obtain ⟨exact, significand, dropped, isExact, found⟩ := exists_shorten_eq tie rank
    have exactReads := decimalRank_exact isRank isExact
    have significandNonzero : significand ≠ 0 := by
      rintro rfl
      exact nonzero (decimalRank_of_shorten_eq exactReads found).symm
    rw [shortest_of_shorten_eq isExact found, if_neg nonzero]
    exact length_digits_ofShortened significandNonzero
      (le_ten_of_shorten_eq exactReads small reads found) dropped

end CsvQuery.Binary64
