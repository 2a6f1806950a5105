/-!
# Binary64 numbers by rank

The program reads numbers, compares them and prints them, and never calculates
with them.  So a number of the 64-bit binary format is kept as a sign and the
*rank* of its magnitude: its place in the increasing list of the magnitudes the
format can represent, with zero at place 0 and infinity last.  The order of the
numbers is then the order of the signed ranks.

All finite magnitudes are multiples of one unit, `2 ^ (-1074)`.  Up to rank
`2 ^ 53` every multiple is represented; from there on each further block of
`2 ^ 52` ranks doubles the step between neighbours.  `units` counts the units of
a rank, so that rounding and printing are arithmetic of natural numbers.
-/

namespace CsvQuery.Binary64

set_option autoImplicit false

/-- The binary logarithm of the length of a block of ranks. -/
def blockBits : Nat := 52

/-- How many ranks there are between one doubling of the step and the next. -/
def blockSize : Nat := Nat.pow 2 blockBits

/-- The rank of infinity: the number of finite magnitudes. -/
def infinityRank : Nat := 2047 * blockSize

/-- The binary exponent of the unit, with its sign changed. -/
def unitExponent : Nat := 1074

/-- The number 1 in units. -/
def oneInUnits : Nat := Nat.pow 2 unitExponent

/-- The magnitude of a finite rank as a multiple of `2 ^ (-1074)`. -/
def units (rank : Nat) : Nat :=
  if rank < blockSize then rank
  else (blockSize + rank % blockSize) * Nat.pow 2 (rank / blockSize - 1)

end CsvQuery.Binary64

namespace CsvQuery

set_option autoImplicit false

/-- A number of the 64-bit binary format.  Zero has two signs. -/
inductive Binary64 where
  /-- The value that is not a number. -/
  | nan
  /-- A zero, a finite number or an infinity, by sign and rank. -/
  | signed (negative : Bool) (rank : Nat) (rank_le : rank ≤ Binary64.infinityRank)
  deriving DecidableEq

namespace Binary64

/-- Whether a value is not a number. -/
def isNan : Binary64 → Bool
  | .nan => true
  | .signed .. => false

/-- Whether a value is zero or another finite number. -/
def isFinite : Binary64 → Bool
  | .nan => false
  | .signed _ rank _ => rank < infinityRank

/-- The place of a number on the line of all numbers; both zeros are at 0. -/
def place (negative : Bool) (rank : Nat) : Int := if negative then -(rank : Int) else rank

/-- How two values are ordered.  A value that is not a number has no order, and
the two zeros are equal. -/
def compare? : Binary64 → Binary64 → Option Ordering
  | .signed n r _, .signed n' r' _ => some (compare (place n r) (place n' r'))
  | _, _ => none

/-- The infinity of a sign. -/
def infinity (negative : Bool) : Binary64 := .signed negative infinityRank (Nat.le_refl _)

end Binary64

end CsvQuery
