import CsvQuery.Binary64.Layout
import CsvQuery.Binary64.Reader
import CsvQuery.Text.Blank

/-!
# Scalars

Cells are kept as the text they were loaded with.  A scalar is what such a text,
or a value in a condition, stands for while it is compared or counted: nothing, a
64-bit integer, a binary64 number or a text.  A scalar of any kind but the first
may have a reading as a number.
-/

namespace CsvQuery

set_option autoImplicit false

/-- A typed value. -/
inductive Scalar where
  /-- No value: an absent or blank cell. -/
  | null
  /-- A whole number of 64 bits. -/
  | integer (value : Int64)
  /-- A binary64 number. -/
  | float (value : Binary64)
  /-- A text that is not read as a number. -/
  | text (content : String)
  deriving DecidableEq

/-- The refusal to read a value as a number. -/
structure NotNumeric where
  /-- The value, as it would be written in a query. -/
  literal : String
  deriving DecidableEq

/-- The sentence that reports the refusal. -/
def NotNumeric.message (refusal : NotNumeric) : String :=
  "value " ++ refusal.literal ++ " is not numeric"

namespace Scalar

open CsvQuery.Text

/-- Whether a scalar is no value. -/
def isNull : Scalar → Bool
  | .null => true
  | _ => false

/-- Whether a scalar is an integer or a binary64 number. -/
def isNumeric : Scalar → Bool
  | .integer _ | .float _ => true
  | _ => false

/-- Whether a scalar is a text. -/
def isText : Scalar → Bool
  | .text _ => true
  | _ => false

/-! ## Writing scalars -/

/-- Numbers in a query keep their point when they are whole, and get an exponent
from `1e16` upward and below `1e-4`. -/
def queryLayout : Binary64.Layout where
  tie := .up
  exponential := fun point => point < -3 || 16 < point
  wholeMark := ['.', '0']
  exponentSign := []

/-- Numbers on display never get an exponent, and a whole number no point. -/
def displayLayout : Binary64.Layout where
  tie := .up
  exponential := fun _ => false
  wholeMark := []
  exponentSign := []

/-- A scalar as it would be written in a query.  Quotes inside a text stay as they
are. -/
def literal : Scalar → String
  | .null => "NULL"
  | .integer value => String.ofList (writeWhole value.toInt)
  | .float value => String.ofList (queryLayout.write value)
  | .text content => "'" ++ content ++ "'"

/-- A scalar as it is shown to a reader. -/
def display : Scalar → String
  | .null => "NULL"
  | .integer value => String.ofList (writeWhole value.toInt)
  | .float value => String.ofList (displayLayout.write value)
  | .text content => content

/-! ## Scalars as numbers -/

/-- The number a scalar stands for.  A text stands for a number when it reads as
one without the blanks around it, which includes whole numbers and numbers with
an exponent. -/
def toNumber? : Scalar → Option Binary64
  | .null => none
  | .integer value => some (Binary64.ofInt value.toInt)
  | .float value => some value
  | .text content => Binary64.read? (trim content.toList)

/-- The number a scalar stands for, or the refusal that names it. -/
def toNumber (scalar : Scalar) : Except NotNumeric Binary64 :=
  match scalar.toNumber? with
  | some number => .ok number
  | none => .error { literal := scalar.literal }

end Scalar

end CsvQuery
