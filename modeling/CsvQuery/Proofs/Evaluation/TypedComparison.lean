import CsvQuery.Catalog
import CsvQuery.Proofs.Evaluation.Answer
import CsvQuery.Proofs.Query.UnquotedValue

/-!
# Running a typed comparison

`SELECT * FROM source WHERE column operator value` is run on the table of that name.
When the condition has an answer for every row, the statement has an answer, and it shows
the rows with the answer yes, from top to bottom (`Catalog.execute_comparisonText`).
-/

set_option autoImplicit false

namespace CsvQuery

open CsvQuery.Text

/-- **A wildcard query whose condition has an answer for every row shows the rows with the
answer yes.** -/
theorem Table.evaluate_satisfying {table : Table} (source : String) {condition : Condition}
    (isColumn : condition.column ∈ table.columns) {keeps : Row → Bool}
    (answers : ∀ row ∈ table.rows, condition.check row = .ok (keeps row)) :
    ∃ result, table.evaluate (Query.satisfying source condition) = .ok result ∧
      result.ShowsRows table table.columns (table.rows.findIdxs keeps) := by
  have chosen : table.chosenRows (some condition) = .ok (table.rows.filter keeps) := by
    rw [Table.chosenRows_of_check isColumn fun row isRow => ⟨keeps row, answers row isRow⟩]
    congr 1
    apply List.filter_congr
    intro row isRow
    simp [Condition.satisfies_of_check (answers row isRow)]
  refine ⟨Table.projection table.columns (table.rows.filter keeps), ?_, ?_⟩
  · rw [Table.evaluate, Query.satisfying, chosen]
    rfl
  · exact ResultSet.showsRows_projection (forall₂_findIdxs_filter keeps table.rows) table.columns

theorem Catalog.execute_eq_evaluate {catalog : Catalog} {table : Table} {sql : String}
    {query : Query} (isRead : Query.parse sql = .ok query)
    (found : catalog.find? query.source = some table)
    {result : ResultSet} (answered : table.evaluate query = .ok result) :
    catalog.execute sql = .ok result := by
  rw [Catalog.execute, isRead]
  simp only [Catalog.answer, Catalog.get, found, answered]

/-- **A typed comparison with an answer for every row shows the rows with the answer yes.** -/
theorem Catalog.execute_comparisonText {catalog : Catalog} {name column value : String}
    {table : Table} {operator : Operator} (found : catalog.find? name = some table)
    (isSource : IsSourceName name) (isColumn : column ∈ table.columns)
    (trimmed : trim column.toList = column.toList)
    (columnClear : ∀ c ∈ ['=', '<', '>'], c ∉ column.toList)
    (valueClear : ∀ c ∈ ['=', '<', '>'], c ∉ value.toList) {literal : Scalar}
    (isLiteral : parseLiteral (withoutTerminator (withoutTerminator value.toList)) = literal)
    {keeps : Row → Bool}
    (answers : ∀ row ∈ table.rows, holds (row.scalar column) operator literal = .ok (keeps row)) :
    ∃ result,
      catalog.execute (Query.comparisonText name column (String.ofList operator.symbol) value) =
        .ok result ∧
      result.ShowsRows table table.columns (table.rows.findIdxs keeps) := by
  let condition : Condition := { column, operator, value := literal }
  have isRead : Query.parse
      (Query.comparisonText name column (String.ofList operator.symbol) value) =
        .ok (Query.satisfying name condition) := by
    rw [Query.parse_comparisonText_symbol isSource trimmed (noOperator_of_not_mem columnClear)
      (noOperator_of_not_mem valueClear), isLiteral]
  obtain ⟨result, answered, shows⟩ := Table.evaluate_satisfying name
    (show condition.column ∈ table.columns from isColumn) answers
  exact ⟨result, Catalog.execute_eq_evaluate isRead found answered, shows⟩

end CsvQuery
