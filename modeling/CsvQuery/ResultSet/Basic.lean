import CsvQuery.Scalar.Basic

/-!
# Result sets

What a query gives back: the names of its columns and its rows of scalars.
-/

namespace CsvQuery

set_option autoImplicit false

/-- The answer to a query. -/
structure ResultSet where
  /-- The names of the columns, from left to right. -/
  columns : List String
  /-- The rows, from top to bottom. -/
  rows : List (List Scalar)
  deriving DecidableEq

namespace ResultSet

/-- The number of rows. -/
def rowCount (result : ResultSet) : Nat := result.rows.length

/-- Whether there is no row. -/
def isEmpty (result : ResultSet) : Bool := result.rows.isEmpty

end ResultSet

end CsvQuery
