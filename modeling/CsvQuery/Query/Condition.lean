import CsvQuery.Query.Basic
import CsvQuery.Scalar.Classify
import CsvQuery.Text.Search

/-!
# Conditions

A condition is a column, an operator and a value.  The operators are tried in
their scan order, each at its first occurrence in the whole text, and the first
one that occurs cuts the text into column and value.  The value is a text if it is
between quotes, otherwise a number if it has the form of one, and otherwise the
text as it stands.
-/

namespace CsvQuery

open CsvQuery.Text

set_option autoImplicit false

/-- A text without the blanks around it and without one semicolon at its end. -/
def withoutTerminator (text : List Char) : List Char :=
  let trimmed := trim text
  trim (if trimmed.getLast? = some ';' then trimmed.dropLast else trimmed)

/-- Whether a text starts and ends with the given character; it may be the same
occurrence. -/
def isQuotedBy (quote : Char) (text : List Char) : Bool :=
  text.head? == some quote && text.getLast? == some quote

/-- The scalar a value denotes.  A quotation mark that stands alone is the empty
text. -/
def parseLiteral (text : List Char) : Scalar :=
  if isQuotedBy '\'' text || isQuotedBy '"' text then
    .text (String.ofList text.tail.dropLast)
  else Scalar.ofText text

/-- The first operator in scan order that occurs in a text, with the text before
it and the text after it. -/
def findOperator? (text : List Char) : Option (Operator × List Char × List Char) :=
  Operator.scanOrder.findSome? fun operator =>
    (splitAtSymbol? operator.symbol text).map fun parts => (operator, parts)

/-- The condition a text denotes. -/
def Condition.parse (text : List Char) : Except ParseError Condition :=
  match findOperator? (withoutTerminator text) with
  | some (operator, before, after) =>
    .ok { column := String.ofList (trim before), operator, value := parseLiteral (trim after) }
  | none => .error .missingOperator

end CsvQuery
