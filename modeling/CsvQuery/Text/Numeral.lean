/-!
# Whole numbers in decimal

A whole number is written as ASCII digits with at most one sign in front.  The
value of the digits is core's `Nat.ofDigitChars`, and the digits of a value are
core's `Nat.toDigits`; the two are inverse to each other, so a number that is
written and read again is unchanged.
-/

namespace CsvQuery.Text

set_option autoImplicit false

/-- Whether a text begins with a minus sign, and the text after its sign. -/
def splitSign : List Char → Bool × List Char
  | '-' :: rest => (true, rest)
  | '+' :: rest => (false, rest)
  | rest => (false, rest)

/-- The value of a run of ASCII digits. -/
def digitsValue (digits : List Char) : Nat := Nat.ofDigitChars 10 digits 0

/-- A natural number with a sign in front of it. -/
def withSign (negative : Bool) (magnitude : Nat) : Int :=
  if negative then -(magnitude : Int) else magnitude

/-- The whole number a text denotes: an optional sign and one or more digits. -/
def readWhole? (text : List Char) : Option Int :=
  let (negative, digits) := splitSign text
  if digits.isEmpty || !digits.all Char.isDigit then none
  else some (withSign negative (digitsValue digits))

/-- Whether a text is one or more digits with at most one sign in front of them. -/
def isWholeNumber (text : List Char) : Bool :=
  let digits := (splitSign text).2
  !digits.isEmpty && digits.all Char.isDigit

/-- A whole number in decimal, without leading zeros and without a plus sign. -/
def writeWhole (n : Int) : List Char :=
  if n < 0 then '-' :: Nat.toDigits 10 n.natAbs else Nat.toDigits 10 n.natAbs

end CsvQuery.Text
