import CsvQuery.Comparison
import CsvQuery.Query.Basic
import CsvQuery.StorageError

/-!
# Errors of running a query
-/

namespace CsvQuery

set_option autoImplicit false

/-- Why a query has no answer. -/
inductive QueryError where
  /-- The text is not a query. -/
  | parse (error : ParseError)
  /-- The table cannot be had. -/
  | storage (error : StorageError)
  /-- A table does not have the column that is asked for or compared. -/
  | columnNotFound (column table : String)
  /-- A table does not have the column that is counted. -/
  | countColumnNotFound (column table : String)
  /-- An item of a select list is a call. -/
  | unsupportedFunction (item : String)
  /-- A text and a number were to be ordered. -/
  | typeMismatch (mismatch : TypeMismatch)
  /-- No operator has the symbol. -/
  | unsupportedOperator (symbol : String)
  deriving DecidableEq

/-- The sentence that reports an error. -/
def QueryError.message : QueryError → String
  | .parse error => s!"Parse error: {error.message}"
  | .storage error => error.message
  | .columnNotFound column table => s!"Column '{column}' not found in table '{table}'"
  | .countColumnNotFound column table =>
      s!"Column '{column}' not found for COUNT() in table '{table}'"
  | .unsupportedFunction item => s!"Unsupported function in SELECT: {item}"
  | .typeMismatch mismatch => mismatch.message
  | .unsupportedOperator symbol => s!"Unsupported operator: {symbol}"

/-- The sentences that report what caused an error, the nearest cause first. -/
def QueryError.causes : QueryError → List String
  | .parse error => [error.message]
  | .storage error => error.causes
  | _ => []

/-- The operator with a given symbol, or the refusal of the symbol. -/
def Operator.parse (symbol : String) : Except QueryError Operator :=
  match Operator.ofSymbol? symbol.toList with
  | some operator => .ok operator
  | none => .error (.unsupportedOperator symbol)

end CsvQuery
