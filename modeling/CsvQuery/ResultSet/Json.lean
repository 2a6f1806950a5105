import CsvQuery.ResultSet.Basic

/-!
# Result sets as JSON

A result set is written as a JSON object with the members `columns` and `rows`.
Arrays that are not empty are spread over several lines, one element to a line,
indented by two spaces for each level.  Scalars keep their kind: no value is
`null`, a text is a JSON string and a number a JSON number, except that JSON has
no numbers for what is not finite, so those are `null` too.
-/

namespace CsvQuery.Json

open CsvQuery.Text

set_option autoImplicit false

/-- The text of one character of a string.  The quotation mark, the backslash and
the control characters are escaped; everything else stands for itself. -/
def escape (c : Char) : List Char :=
  if c == '"' then ['\\', '"']
  else if c == '\\' then ['\\', '\\']
  else if c == '\x08' then ['\\', 'b']
  else if c == '\t' then ['\\', 't']
  else if c == '\n' then ['\\', 'n']
  else if c == '\x0c' then ['\\', 'f']
  else if c == '\r' then ['\\', 'r']
  else if c.toNat < 0x20 then
    ['\\', 'u', '0', '0', Nat.digitChar (c.toNat / 16), Nat.digitChar (c.toNat % 16)]
  else [c]

/-- A JSON string. -/
def string (content : List Char) : List Char := '"' :: content.flatMap escape ++ ['"']

/-- Numbers in JSON keep their point when they are whole, and get a signed
exponent from `1e16` upward and below `1e-5`.  Of two equally near shortest
decimals the even one is written. -/
def numberLayout : Binary64.Layout where
  tie := .even
  exponential := fun point => point < -4 || 16 < point
  wholeMark := ['.', '0']
  exponentSign := ['+']

/-- The JSON text of no value. -/
def null : List Char := ['n', 'u', 'l', 'l']

/-- The JSON value of a scalar. -/
def scalar : Scalar → List Char
  | .null => null
  | .integer value => writeWhole value.toInt
  | .float value => if value.isFinite then numberLayout.write value else null
  | .text content => string content.toList

/-- The start of a line at a level of indentation. -/
def newLine (level : Nat) : List Char := '\n' :: List.replicate (2 * level) ' '

/-- The elements of an array that follow its first one. -/
def elements (level : Nat) (items : List (List Char)) : List Char :=
  items.flatMap fun item => ',' :: newLine (level + 1) ++ item

/-- An array at a level of indentation, of elements that are already written. -/
def array (level : Nat) : List (List Char) → List Char
  | [] => ['[', ']']
  | item :: items =>
      '[' :: newLine (level + 1) ++ item ++ elements level items ++ newLine level ++ [']']

/-- The row of a result set, as an element of the array of its rows. -/
def row (values : List Scalar) : List Char := array 2 (values.map scalar)

/-- A result set. -/
def resultSet (result : ResultSet) : List Char :=
  '{' :: newLine 1 ++ string "columns".toList ++ ':' :: ' ' ::
    array 1 (result.columns.map fun name => string name.toList) ++ ',' ::
    newLine 1 ++ string "rows".toList ++ ':' :: ' ' :: array 1 (result.rows.map row) ++
    newLine 0 ++ ['}']

end CsvQuery.Json
