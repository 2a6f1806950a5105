import CsvQuery.ResultSet.Box
import CsvQuery.ResultSet.Json

/-!
# Output formats
-/

namespace CsvQuery

set_option autoImplicit false

/-- How result sets are shown. -/
inductive Format where
  /-- As a box of aligned columns. -/
  | table
  /-- As an indented JSON object. -/
  | json
  deriving DecidableEq

/-- The format of a name. -/
def Format.ofName? (name : String) : Option Format :=
  if name = "table" then some .table
  else if name = "json" then some .json
  else none

/-- A result set in a format, unless it has a column that is too wide for it. -/
def ResultSet.render? (result : ResultSet) : Format → Option String
  | .table => (Box.resultSet? result).map String.ofList
  | .json => some (String.ofList (Json.resultSet result))

end CsvQuery
