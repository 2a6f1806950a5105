import CsvQuery.Proofs.Scalar.Numeral
import CsvQuery.Scalar.Integer
import Mathlib.Algebra.Order.Ring.Int

/-!
# Integers read digit by digit

An integer of 64 bits is read without leaving 64 bits: every digit multiplies and adds, and
the reader stops where a step does not fit.  It stops nowhere else.  The magnitudes on the
way only grow, so every step fits if the last one does, and the steps of a number with a
minus sign go down to the least integer, whose magnitude is no integer
(`foldlM_pushDigit?_eq_some_iff`).  So a text is read as an integer exactly when it is a
numeral of it (`readInt64?_eq_some_iff`), however many zeros it has in front, and a numeral
is refused exactly when 64 bits do not hold its number.
-/

set_option autoImplicit false

namespace CsvQuery

open CsvQuery.Text

/-! ## The numbers that 64 bits hold -/

theorem fitsInt64_toInt (value : Int64) : Scalar.FitsInt64 value.toInt :=
  ⟨value.minValue_le_toInt, value.toInt_le⟩

theorem toInt_ofInt_of_fits {n : Int} (fits : Scalar.FitsInt64 n) : (Int64.ofInt n).toInt = n :=
  Int64.toInt_ofInt_of_le fits.1 (Int.lt_of_le_of_lt fits.2 (by decide))

namespace Scalar

theorem fitsInt64_iff {n : Int} : FitsInt64 n ↔ -2 ^ 63 ≤ n ∧ n ≤ 2 ^ 63 - 1 := by
  rw [FitsInt64, Int64.toInt_minValue, Int64.toInt_maxValue]

theorem toInt64?_eq_some_iff {n : Int} {value : Int64} :
    toInt64? n = some value ↔ value.toInt = n := by
  rw [toInt64?, Option.ite_none_right_eq_some]
  constructor
  · rintro ⟨fits, ⟨⟩⟩
    exact toInt_ofInt_of_fits fits
  · rintro rfl
    exact ⟨fitsInt64_toInt value, congrArg some (Int64.ofInt_toInt value)⟩

/-- The numbers of one sign that fit are those up to some magnitude. -/
theorem FitsInt64.withSign_of_le {negative : Bool} {magnitude larger : Nat}
    (fits : FitsInt64 (withSign negative larger)) (isLess : magnitude ≤ larger) :
    FitsInt64 (withSign negative magnitude) := by
  rw [fitsInt64_iff] at *
  cases negative <;> simp only [withSign, Bool.false_eq_true, if_true, if_false] at * <;> omega

/-! ## One digit -/

theorem withSign_zero (negative : Bool) : withSign negative 0 = 0 := by
  cases negative <;> rfl

theorem withSign_pushDigit (negative : Bool) (magnitude digit : Nat) :
    10 * withSign negative magnitude + withSign negative digit =
      withSign negative (10 * magnitude + digit) := by
  cases negative <;> simp only [withSign, Bool.false_eq_true, if_true, if_false] <;> omega

/-- **A digit is taken exactly when 64 bits hold the longer number.**  The tenfold on the way
is no larger than that number. -/
theorem pushDigit?_eq_some_iff {negative : Bool} {value longer : Int64} {magnitude : Nat}
    (isMagnitude : value.toInt = withSign negative magnitude) {c : Char} :
    pushDigit? negative value c = some longer ↔
      c.isDigit = true ∧
        longer.toInt = withSign negative (10 * magnitude + (c.toNat - '0'.toNat)) := by
  rw [pushDigit?, Option.ite_none_right_eq_some, Option.bind_eq_some_iff, isMagnitude]
  refine and_congr_right fun isDigit => ?_
  constructor
  · rintro ⟨tenfold, isTenfold, isLonger⟩
    rw [toInt64?_eq_some_iff] at isTenfold isLonger
    rw [isLonger, isTenfold, withSign_pushDigit]
  · intro isLonger
    -- The tenfold lies between zero and the longer number, on whichever side of zero that is.
    have longerFits := fitsInt64_toInt longer
    rw [isLonger] at longerFits
    have isTenfold := withSign_pushDigit negative magnitude 0
    rw [withSign_zero, Int.add_zero, Nat.add_zero] at isTenfold
    have tenfoldFits := longerFits.withSign_of_le (Nat.le_add_right (10 * magnitude) _)
    rw [← isTenfold] at tenfoldFits
    have tenfoldInt := toInt_ofInt_of_fits tenfoldFits
    refine ⟨_, toInt64?_eq_some_iff.2 tenfoldInt, ?_⟩
    rw [toInt64?_eq_some_iff, tenfoldInt, withSign_pushDigit, isLonger]

/-! ## All digits -/

theorem le_ofDigitChars (digits : List Char) (magnitude : Nat) :
    magnitude ≤ Nat.ofDigitChars 10 digits magnitude := by
  rw [Nat.ofDigitChars_eq_ofDigitChars_zero]
  exact Nat.le_add_right_of_le (Nat.le_mul_of_pos_left _ (Nat.pow_pos (by decide)))

/-- **Digits are taken exactly when 64 bits hold the number at their end.** -/
theorem foldlM_pushDigit?_eq_some_iff {negative : Bool} {digits : List Char} {value last : Int64}
    {magnitude : Nat} (isMagnitude : value.toInt = withSign negative magnitude) :
    digits.foldlM (pushDigit? negative) value = some last ↔
      (∀ c ∈ digits, c.isDigit = true) ∧
        last.toInt = withSign negative (Nat.ofDigitChars 10 digits magnitude) := by
  induction digits generalizing value magnitude with
  | nil =>
      rw [List.foldlM_nil, Nat.ofDigitChars_nil, ← isMagnitude, Int64.toInt_inj, eq_comm (a := last)]
      simp
  | cons c rest ih =>
      rw [List.foldlM_cons, Option.bind_eq_bind, Option.bind_eq_some_iff, Nat.ofDigitChars_cons,
        List.forall_mem_cons, and_assoc]
      constructor
      · rintro ⟨longer, isPushed, isLast⟩
        obtain ⟨isDigit, isLonger⟩ := (pushDigit?_eq_some_iff isMagnitude).1 isPushed
        exact ⟨isDigit, (ih isLonger).1 isLast⟩
      · rintro ⟨isDigit, allDigits, isLast⟩
        -- The number with one more digit fits because the last one does and is no nearer to zero.
        have lastFits := fitsInt64_toInt last
        rw [isLast] at lastFits
        have isLonger := toInt_ofInt_of_fits (lastFits.withSign_of_le (le_ofDigitChars rest _))
        exact ⟨_, (pushDigit?_eq_some_iff isMagnitude).2 ⟨isDigit, isLonger⟩,
          (ih isLonger).2 ⟨allDigits, isLast⟩⟩

/-- **A text is read as an integer exactly when it is a numeral of it.** -/
theorem readInt64?_eq_some_iff {text : List Char} {value : Int64} :
    readInt64? text = some value ↔ Numeral text value.toInt := by
  have isZero : (0 : Int64).toInt = withSign (splitSign text).1 0 := by
    rw [withSign_zero]
    rfl
  rw [← readWhole?_eq_some_iff, readWhole?_eq_some_iff_of_splitSign rfl, readInt64?]
  simp only
  rw [Option.ite_none_left_eq_some, List.isEmpty_iff, foldlM_pushDigit?_eq_some_iff isZero]
  rfl

/-- **Refusing a step refuses what 64 bits do not hold.**  Reading with every step inside 64
bits is reading the whole number and keeping it if it fits. -/
theorem readInt64?_eq (text : List Char) : readInt64? text = (readWhole? text).bind toInt64? := by
  ext value
  simp only [readInt64?_eq_some_iff, Option.bind_eq_some_iff, readWhole?_eq_some_iff,
    toInt64?_eq_some_iff, exists_eq_right']

end Scalar

end CsvQuery
