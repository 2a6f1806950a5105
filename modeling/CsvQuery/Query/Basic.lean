import CsvQuery.Operator
import CsvQuery.Scalar.Basic

/-!
# Queries

A query asks one table for some of its columns, or for a count, and may keep only
the rows that satisfy one condition.  The items of a column list are kept as they
were written; whether the table has such columns is found out when the query is
evaluated.
-/

namespace CsvQuery

set_option autoImplicit false

/-- What is counted. -/
inductive CountTarget where
  /-- Every row. -/
  | rows
  /-- The rows with a value in a column. -/
  | column (name : String)
  deriving DecidableEq

/-- What a query asks for. -/
inductive Selection where
  /-- All columns. -/
  | wildcard
  /-- The named columns, in the order given. -/
  | columns (items : List String)
  /-- A count. -/
  | count (target : CountTarget)
  deriving DecidableEq

/-- A condition on one column. -/
structure Condition where
  /-- The column whose cells are compared. -/
  column : String
  /-- The operator. -/
  operator : Operator
  /-- The value the cells are compared with. -/
  value : Scalar
  deriving DecidableEq

/-- A query. -/
structure Query where
  /-- What is asked for. -/
  selection : Selection
  /-- The name of the table. -/
  source : String
  /-- The condition on the rows, if there is one. -/
  condition : Option Condition
  deriving DecidableEq

/-- Why a text is not a query. -/
inductive ParseError where
  /-- The text is blank. -/
  | empty
  /-- No table is named after `FROM`. -/
  | missingFrom
  /-- The text does not start with a select list. -/
  | malformedSelect
  /-- The condition has no operator. -/
  | missingOperator
  deriving DecidableEq

/-- The sentence that reports an error. -/
def ParseError.message : ParseError → String
  | .empty => "Empty query"
  | .missingFrom => "Missing FROM clause"
  | .malformedSelect => "Malformed SELECT clause"
  | .missingOperator => "Unsupported or missing operator in WHERE clause"

end CsvQuery
