import CsvQuery.Proofs.Evaluation.Failing

/-!
# Counts and the rows they count

A count and a plain selection under one condition are answered from the same rows, and the
condition is asked before either of them is looked at.  So they fail together, and where
they do not, the count can be read off what the plain selection shows: the count of rows
is the number of rows shown, and the count of a column is the number of texts with more than
blanks that are shown in that column (`Table.count_agrees`).
-/

set_option autoImplicit false

namespace CsvQuery

open CsvQuery.Text

/-! ## What is counted of a result -/

/-- A shown value is a text in which more is written than blanks. -/
def Scalar.isWritten : Scalar → Bool
  | .text content => content.toList.any fun c => !isBlank c
  | _ => false

/-- How many rows of a result show something written at a place. -/
def ResultSet.writtenAt (place : Nat) (result : ResultSet) : Nat :=
  result.rows.countP fun values => values[place]?.any Scalar.isWritten

/-- A count stands to a plain selection as it should: both fail with one error, or the
count is the size of what is shown. -/
inductive CountAgrees (size : ResultSet → Nat) :
    (plain counted : Except QueryError ResultSet) → Prop where
  | failed (error : QueryError) : CountAgrees size (.error error) (.error error)
  | answered {shown counted : ResultSet} (isCount : counted.IsCount (size shown)) :
      CountAgrees size (.ok shown) (.ok counted)

/-- **The value that is shown of a row is written exactly when the row is counted.** -/
theorem Table.any_isWritten_project {columns : List String} {place : Nat} {column : String}
    (isColumn : columns[place]? = some column) (row : Row) :
    (Table.project columns row)[place]?.any Scalar.isWritten = row.hasValue column := by
  rw [Table.project, List.getElem?_map, isColumn, Option.map_some, Option.any_some, Row.hasValue]
  cases row.get? column with
  | none => rfl
  | some cell => rfl

theorem Table.writtenAt_projection {columns : List String} {place : Nat} {column : String}
    (isColumn : columns[place]? = some column) (rows : List Row) :
    (Table.projection columns rows).writtenAt place = rows.countP (·.hasValue column) := by
  rw [ResultSet.writtenAt, Table.projection, List.countP_map]
  exact congrArg (rows.countP ·) (funext (Table.any_isWritten_project isColumn))

/-! ## One condition, two selections -/

/-- A count that the table offers fails as the plain selection does and is otherwise taken
from the rows that are shown there. -/
theorem Table.countAgrees_of_offers {table : Table} {query : Query} {target : CountTarget}
    {size : ResultSet → Nat} (offers : table.Offers (.count target))
    (isCount : ∀ rows, (table.shown rows (.count target)).IsCount
      (size (Table.projection table.columns rows))) :
    CountAgrees size (table.evaluate { query with selection := .wildcard })
      (table.evaluate { query with selection := .count target }) := by
  rcases table.answers_or_refusesCondition query.condition with answers | ⟨error, refuses⟩
  · have plain := @Table.evaluate_of_answers table { query with selection := .wildcard } answers
      trivial
    have counted := @Table.evaluate_of_answers table { query with selection := .count target }
      answers offers
    rw [plain, counted]
    exact .answered (isCount _)
  · have plain := @Table.evaluate_of_refusesQuery table { query with selection := .wildcard } error
      (.condition refuses)
    have counted := @Table.evaluate_of_refusesQuery table
      { query with selection := .count target } error (.condition refuses)
    rw [plain, counted]
    exact .failed error

/-- **A count agrees with what a plain selection shows under the same condition.**  The
count of rows is the number of rows shown, and the count of a column is the number of rows
that show something written at the place of the column. -/
theorem Table.count_agrees (table : Table) (query : Query) :
    CountAgrees ResultSet.rowCount (table.evaluate { query with selection := .wildcard })
        (table.evaluate { query with selection := .count .rows }) ∧
      ∀ (place : Nat) (column : String), table.columns[place]? = some column →
        CountAgrees (ResultSet.writtenAt place)
          (table.evaluate { query with selection := .wildcard })
          (table.evaluate { query with selection := .count (.column column) }) := by
  constructor
  · refine Table.countAgrees_of_offers trivial fun rows => ?_
    have sameNumber : (Table.projection table.columns rows).rowCount = rows.length :=
      List.length_map _
    rw [sameNumber]
    exact ResultSet.isCount_countResult rows.length
  · intro place column isColumn
    refine Table.countAgrees_of_offers (List.mem_of_getElem? isColumn) fun rows => ?_
    rw [Table.writtenAt_projection isColumn]
    exact ResultSet.isCount_countResult _

/-- Of five rows one is not kept, one has no cell and one has a blank one. -/
theorem Table.count_agrees_blank_cells :
    ∃ (table : Table) (query failing : Query) (shown : ResultSet),
      table.columns[1]? = some "n" ∧
        query.condition = some { column := "k", operator := .ne, value := .integer 5 } ∧
        table.evaluate { query with selection := .wildcard } = .ok shown ∧
        shown.rows = [[.text "1", .text " 7"], [.text "2", .text " "], [.text "3", .null],
          [.null, .text "x"]] ∧
        CountAgrees (ResultSet.writtenAt 1) (.ok shown)
          (table.evaluate { query with selection := .count (.column "n") }) ∧
        shown.writtenAt 1 = 2 ∧
        failing.condition = some { column := "n", operator := .lt, value := .integer 5 } ∧
        CountAgrees (ResultSet.writtenAt 1)
          (.error (.typeMismatch { left := .text "x", operator := .lt, right := .integer 5 }))
          (table.evaluate { failing with selection := .count (.column "n") }) := by
  let table : Table :=
    { name := "t"
      columns := ["k", "n"]
      rows := [⟨[("k", "1"), ("n", " 7")]⟩, ⟨[("k", "2"), ("n", " ")]⟩, ⟨[("k", "3")]⟩,
        ⟨[("k", "5"), ("n", "9")]⟩, ⟨[("n", "x")]⟩]
      columns_nodup := by decide
      rows_declared := by decide }
  let query : Query :=
    { selection := .wildcard
      source := "t"
      condition := some { column := "k", operator := .ne, value := .integer 5 } }
  let failing : Query :=
    { query with condition := some { column := "n", operator := .lt, value := .integer 5 } }
  let shown : ResultSet :=
    { columns := ["k", "n"]
      rows := [[.text "1", .text " 7"], [.text "2", .text " "], [.text "3", .null],
        [.null, .text "x"]] }
  have answered : table.evaluate { query with selection := .wildcard } = .ok shown := by
    decide +kernel
  have failed : table.evaluate { failing with selection := .wildcard } =
      .error (.typeMismatch { left := .text "x", operator := .lt, right := .integer 5 }) := by
    decide +kernel
  have agrees := (Table.count_agrees table query).2 1 "n" rfl
  have failsAlike := (Table.count_agrees table failing).2 1 "n" rfl
  rw [answered] at agrees
  rw [failed] at failsAlike
  exact ⟨table, query, failing, shown, rfl, rfl, answered, rfl, agrees, by decide, rfl, failsAlike⟩

end CsvQuery
