import CsvQuery.Binary64.Shortest
import CsvQuery.Text.Numeral

/-!
# Writing numbers

The digits of a number are laid out either around a point or with an exponent.
Which decimals get an exponent, what a whole number shows after its digits and
how the exponent is signed belong to the output a number is written for, so they
are one record, `Layout`, with a value for each kind of output.
-/

namespace CsvQuery.Binary64

open CsvQuery.Text

set_option autoImplicit false

/-- How the digits of a finite number are written. -/
structure Layout where
  /-- Which of two equally near shortest decimals is written. -/
  tie : Tie
  /-- Whether a decimal with its point at the given place is written with an
  exponent. -/
  exponential : Int → Bool
  /-- What follows the digits of a whole number. -/
  wholeMark : List Char
  /-- What stands before an exponent that is not negative. -/
  exponentSign : List Char

/-- A decimal written around its point. -/
def Layout.plain (layout : Layout) (decimal : Decimal) : List Char :=
  if decimal.point ≤ 0 then
    '0' :: '.' :: List.replicate (-decimal.point).toNat '0' ++ decimal.digits
  else
    let before := decimal.point.toNat
    if decimal.digits.length ≤ before then
      decimal.digits ++ List.replicate (before - decimal.digits.length) '0' ++ layout.wholeMark
    else decimal.digits.take before ++ '.' :: decimal.digits.drop before

/-- A decimal written with an exponent: one digit, the others behind a point, and
the power of ten. -/
def Layout.scientific (layout : Layout) (decimal : Decimal) : List Char :=
  let fraction := decimal.digits.drop 1
  let exponent := decimal.point - 1
  decimal.digits.take 1 ++ (if fraction.isEmpty then [] else '.' :: fraction)
    ++ 'e' :: (if exponent < 0 then [] else layout.exponentSign) ++ writeWhole exponent

/-- A finite number, by sign and rank. -/
def Layout.finite (layout : Layout) (negative : Bool) (rank : Nat) : List Char :=
  let decimal := shortest layout.tie rank
  let body :=
    if layout.exponential decimal.point then layout.scientific decimal
    else layout.plain decimal
  if negative then '-' :: body else body

/-- Any value.  What is not a number shows no sign. -/
def Layout.write (layout : Layout) : Binary64 → List Char
  | .nan => ['N', 'a', 'N']
  | .signed negative rank _ =>
      if rank = infinityRank then
        if negative then ['-', 'i', 'n', 'f'] else ['i', 'n', 'f']
      else layout.finite negative rank

end CsvQuery.Binary64
