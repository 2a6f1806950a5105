import CsvQuery.Text.Numeral

/-!
# Integers of 64 bits in decimal

The digits of an integer are taken from the left.  A digit makes the integer ten times as
large and is then added to it, or taken away from it behind a minus sign, and 64 bits must
hold the integer after either step.  Behind a minus sign the integer grows downward from
the start, because the least integer has no positive counterpart.
-/

namespace CsvQuery.Scalar

open CsvQuery.Text

set_option autoImplicit false

/-- Whether 64 bits hold a whole number. -/
def FitsInt64 (n : Int) : Prop := Int64.minValue.toInt ≤ n ∧ n ≤ Int64.maxValue.toInt

instance (n : Int) : Decidable (FitsInt64 n) := inferInstanceAs (Decidable (_ ∧ _))

/-- A whole number as an integer, if 64 bits hold it. -/
def toInt64? (n : Int) : Option Int64 := if FitsInt64 n then some (Int64.ofInt n) else none

/-- An integer with one more digit behind it, if 64 bits hold it. -/
def pushDigit? (negative : Bool) (value : Int64) (c : Char) : Option Int64 :=
  if c.isDigit then
    (toInt64? (10 * value.toInt)).bind fun tenfold =>
      toInt64? (tenfold.toInt + withSign negative (c.toNat - '0'.toNat))
  else none

/-- The integer a text denotes: an optional sign and one or more digits. -/
def readInt64? (text : List Char) : Option Int64 :=
  let (negative, digits) := splitSign text
  if digits.isEmpty then none else digits.foldlM (pushDigit? negative) 0

end CsvQuery.Scalar
