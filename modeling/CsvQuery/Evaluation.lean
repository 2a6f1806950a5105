import CsvQuery.Event
import CsvQuery.QueryError
import CsvQuery.ResultSet.Basic
import CsvQuery.Scalar.Classify
import CsvQuery.Table

/-!
# Evaluating queries

A query is evaluated on a table in two steps.  The condition chooses rows, looking
at cells only through `Scalar.classify`; then either the chosen rows are counted or
their cells are taken, as the text they are stored as.  Rows keep their order.  The
condition is evaluated before the select list is looked at, so its errors come
first, and that rows were chosen is an event whatever becomes of the select list.
-/

namespace CsvQuery

set_option autoImplicit false

/-- The scalar of a row's cell in a column. -/
def Row.scalar (row : Row) (column : String) : Scalar := Scalar.classify (row.get? column)

/-- Whether a row satisfies a condition. -/
def Condition.check (condition : Condition) (row : Row) : Except TypeMismatch Bool :=
  holds (row.scalar condition.column) condition.operator condition.value

/-- The rows that satisfy a condition, or the first error in row order. -/
def Condition.filter (condition : Condition) : List Row → Except TypeMismatch (List Row)
  | [] => .ok []
  | row :: rest =>
      match condition.check row with
      | .error mismatch => .error mismatch
      | .ok kept =>
        (condition.filter rest).map fun others => if kept then row :: others else others

namespace Table

/-- The rows of a table that a condition chooses; without a condition, all. -/
def chosenRows (table : Table) : Option Condition → Except QueryError (List Row)
  | none => .ok table.rows
  | some condition =>
      if table.hasColumn condition.column then
        (condition.filter table.rows).mapError .typeMismatch
      else .error (.columnNotFound condition.column table.name)

/-- How many of some rows of a table a count counts. -/
def countOf (table : Table) (rows : List Row) : CountTarget → Except QueryError Nat
  | .rows => .ok rows.length
  | .column name =>
      if table.hasColumn name then
        .ok (rows.filter fun row => !(row.scalar name).isNull).length
      else .error (.countColumnNotFound name table.name)

/-- The error of an item of a select list: it is a call, or no column. -/
def itemError? (table : Table) (item : String) : Option QueryError :=
  if '(' ∈ item.toList ∧ ')' ∈ item.toList then some (.unsupportedFunction item)
  else if table.hasColumn item then none
  else some (.columnNotFound item table.name)

/-- The values of a row in some columns: the stored texts, and no value where the
row has no cell. -/
def project (columns : List String) (row : Row) : List Scalar :=
  columns.map fun column =>
    match row.get? column with
    | some cell => .text cell
    | none => .null

/-- The result of taking some columns of some rows. -/
def projection (columns : List String) (rows : List Row) : ResultSet where
  columns := columns
  rows := rows.map (project columns)

/-- The result of a count. -/
def countResult (count : Nat) : ResultSet where
  columns := ["count"]
  rows := [[.integer (Int64.ofNat count)]]

/-- The result of a selection on some rows of a table. -/
def select (table : Table) (rows : List Row) : Selection → Except QueryError ResultSet
  | .count target => (table.countOf rows target).map countResult
  | .wildcard => .ok (projection table.columns rows)
  | .columns items =>
      match items.findSome? table.itemError? with
      | some error => .error error
      | none => .ok (projection items rows)

/-- The answer of a table to a query.  The name of the table is not looked at. -/
def evaluate (table : Table) (query : Query) : Except QueryError ResultSet :=
  match table.chosenRows query.condition with
  | .error error => .error error
  | .ok rows => table.select rows query.selection

/-- The events of answering a query. -/
def evaluateEvents (table : Table) (query : Query) : List Event :=
  match table.chosenRows query.condition with
  | .error _ => []
  | .ok rows => [.filtered table.name table.rowCount rows.length]

end Table

end CsvQuery
