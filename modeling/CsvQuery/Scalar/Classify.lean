import CsvQuery.Scalar.Basic
import CsvQuery.Scalar.Integer

/-!
# Classifying cells

A cell is classified by the form of its text alone.  Text with a decimal point is
a number if it reads as one.  Text without a point is an integer if it reads as one.
What is refused there is still a binary64 number if it is digits with at most one
sign, since then only its size was refused; so `1e3` is a text.  Everything else
is a text, kept without the blanks around it, and nothing but blanks is no value.
-/

namespace CsvQuery.Scalar

open CsvQuery.Text

set_option autoImplicit false

/-- The numeric scalar a text denotes, if it has the form of a number. -/
def ofNumeral? (text : List Char) : Option Scalar :=
  if '.' ∈ text then (Binary64.read? text).map .float
  else match readInt64? text with
    | some value => some (.integer value)
    | none => if isWholeNumber text then (Binary64.read? text).map .float else none

/-- The scalar of a text that is not blank: a number or the text itself. -/
def ofText (text : List Char) : Scalar :=
  (ofNumeral? text).getD (.text (String.ofList text))

/-- The scalar of a cell, which may be absent. -/
def classify : Option String → Scalar
  | none => .null
  | some cell =>
      let text := trim cell.toList
      if text.isEmpty then .null else ofText text

end CsvQuery.Scalar
