import CsvQuery.Binary64.Nearest
import CsvQuery.Text.Numeral

/-!
# Reading numbers from text

A number is an optional sign followed by one of the names `inf`, `infinity` and
`nan` in any letter case, or by a decimal: digits with at most one point among or
around them, at least one digit in all, and after them optionally the letter `e`
in either case with a signed whole exponent.  Nothing may surround the number.
-/

namespace CsvQuery.Binary64

open CsvQuery.Text

set_option autoImplicit false

/-- The exponent a text denotes: none written is zero, and a written one is the
letter `e` and a whole number. -/
def readExponent? : List Char → Option Int
  | [] => some 0
  | c :: rest => if c == 'e' || c == 'E' then readWhole? rest else none

/-- The part of an unsigned decimal after its point, and what follows it. -/
def splitFraction : List Char → List Char × List Char
  | '.' :: rest => (rest.takeWhile Char.isDigit, rest.dropWhile Char.isDigit)
  | rest => ([], rest)

/-- The significand and the exponent of an unsigned decimal. -/
def readDecimal? (text : List Char) : Option (Nat × Int) :=
  let whole := text.takeWhile Char.isDigit
  let (fraction, rest) := splitFraction (text.dropWhile Char.isDigit)
  if whole.isEmpty && fraction.isEmpty then none
  else (readExponent? rest).map fun exponent =>
    (digitsValue (whole ++ fraction), exponent - fraction.length)

/-- The number a text denotes. -/
def read? (text : List Char) : Option Binary64 :=
  let (negative, unsigned) := splitSign text
  let name := unsigned.map Char.toLower
  if name == ['n', 'a', 'n'] then some .nan
  else if name == ['i', 'n', 'f'] || name == ['i', 'n', 'f', 'i', 'n', 'i', 't', 'y'] then
    some (infinity negative)
  else (readDecimal? unsigned).map fun (significand, exponent) =>
    ofDecimal negative significand exponent

end CsvQuery.Binary64
