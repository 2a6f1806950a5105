import CsvQuery.Binary64.Nearest

/-!
# The shortest digits of a number

A finite number is printed with the fewest digits from which it can be read back,
and among those with the digits nearest to it.  The exact value of a number is a
finite decimal, since a unit is `5 ^ 1074 / 10 ^ 1074`.  That decimal is shortened
as far as possible: with all but its first digits dropped, either the digits that
are left or the next larger ones may still be nearest to the same rank.  Dropping
nothing always reads back, so the search ends.
-/

namespace CsvQuery.Binary64

set_option autoImplicit false

/-- Which of two equally near decimals is taken. -/
inductive Tie where
  /-- The larger one. -/
  | up
  /-- The one with an even last digit. -/
  | even
  deriving DecidableEq

/-- A positive decimal: its digits, the first of which is not zero, and the place
of the point, counted in digits from the front.  It may lie outside the digits. -/
structure Decimal where
  /-- The digits. -/
  digits : List Char
  /-- How many digits stand before the point. -/
  point : Int
  deriving DecidableEq

/-- Of the decimals `below` and `below + 1`, at the given exponent, the one to
stand for the rank: one that reads back, and the nearer if both do.  `remainder`
is how far the exact value lies above the first, where a step is `step`. -/
def readsBack? (tie : Tie) (rank below : Nat) (exponent : Int) (remainder step : Nat) :
    Option Nat :=
  let lower := decimalRank below exponent == rank
  let upper := decimalRank (below + 1) exponent == rank
  if lower && upper then
    if 2 * remainder < step then some below
    else if step < 2 * remainder then some (below + 1)
    else match tie with
      | .up => some (below + 1)
      | .even => some (below + below % 2)
  else if lower then some below
  else if upper then some (below + 1)
  else none

/-- The shortest significand that reads back, and how many digits of the exact
significand it leaves out, when at most the given number may be left out. -/
def shorten (tie : Tie) (rank exact : Nat) : Nat → Nat × Nat
  | 0 => (exact, 0)
  | dropped + 1 =>
      let step := Nat.pow 10 (dropped + 1)
      let exponent : Int := (dropped + 1 : Int) - unitExponent
      match readsBack? tie rank (exact / step) exponent (exact % step) step with
      | some significand => (significand, dropped + 1)
      | none => shorten tie rank exact dropped

/-- The decimal of the fewest digits that reads back as a finite rank.  Zero has
the single digit zero. -/
def shortest (tie : Tie) (rank : Nat) : Decimal :=
  let exact := units rank * Nat.pow 5 unitExponent
  let (significand, dropped) :=
    shorten tie rank exact ((Nat.toDigits 10 exact).length - 1)
  let digits := Nat.toDigits 10 significand
  if rank = 0 then { digits := ['0'], point := 1 }
  else
    { digits := (digits.reverse.dropWhile (· == '0')).reverse
      point := digits.length + dropped - unitExponent }

end CsvQuery.Binary64
