import CsvQuery.Proofs.Evaluation.Answer
import CsvQuery.Proofs.Lists.FirstIn

/-!
# When a query fails

A query can fail at its condition and at its selection, and the condition comes first.
The condition fails if its column is none of the table's.  If the column is there, it
fails at the first row whose cell cannot be ordered against the value: one of the two is
a number, and the other is a text that is not read as one.  A selection fails at a count
of a column that is not there, or at the first item that is a call or no column.

The selection is looked at after the condition has been asked for every row, and not at
all at the rows: it fails in the same way when no row is left
(`Table.select_of_refusesSelection`).  So a query fails either as its condition does, or, if
every row has an answer, as its selection does (`Table.evaluate_eq_error_iff`).
-/

set_option autoImplicit false

namespace CsvQuery

open CsvQuery.Text

/-! ## Values without an order -/

/-- A cell and a value that have no order: one is a number, and the other is a text.  A
cell that reads as a number is compared as one with a number. -/
inductive Scalar.Clash : Scalar → Scalar → Prop where
  | textCell {content : String} {value : Scalar}
      (noNumber : Binary64.read? (trim content.toList) = none) (isNumber : value.isNumeric = true) :
      Clash (.text content) value
  | textValue {cell : Scalar} {content : String} (isNumber : cell.isNumeric = true) :
      Clash cell (.text content)

theorem standingOf_ne_mixed {left right : Scalar} (leftNumber : left.isNumeric = true)
    (rightNumber : right.isNumeric = true) : standingOf left right ≠ .mixed := by
  cases left with
  | null => cases leftNumber
  | text => cases leftNumber
  | integer a =>
      cases right with
      | null => cases rightNumber
      | text => cases rightNumber
      | integer b => simp [standingOf]
      | float b =>
          simp only [standingOf, Scalar.toNumber?]
          split <;> simp
  | float a =>
      cases right with
      | null => cases rightNumber
      | text => cases rightNumber
      | integer b | float b =>
          simp only [standingOf, Scalar.toNumber?]
          split <;> simp

/-- A text is compared with a number as the number it reads as, if it does. -/
theorem coerce_text {content : String} {value : Scalar} (isNumber : value.isNumeric = true) :
    coerce (.text content) value =
      match Binary64.read? (trim content.toList) with
      | some number => .float number
      | none => .text content := by
  cases value <;> cases isNumber <;> rfl

theorem isNumeric_coerce {left right : Scalar} (leftNumber : left.isNumeric = true) :
    (coerce left right).isNumeric = true := by
  cases left <;> cases leftNumber <;> cases right <;> rfl

theorem standing_ne_mixed_of_isNumeric {left right : Scalar} (leftNumber : left.isNumeric = true)
    (rightNumber : right.isNumeric = true) : standing left right ≠ .mixed :=
  standingOf_ne_mixed (isNumeric_coerce leftNumber) rightNumber

/-- **Two values have no order because of their kinds exactly when one is a number and
the other is a text that is not read as one.** -/
theorem standing_eq_mixed_iff {cell value : Scalar} :
    standing cell value = .mixed ↔ cell.Clash value := by
  constructor
  · intro mixed
    by_cases isNumber : value.isNumeric = true
    · cases cell with
      | null => cases value <;> cases isNumber <;> cases mixed
      | integer => exact absurd mixed (standing_ne_mixed_of_isNumeric rfl isNumber)
      | float => exact absurd mixed (standing_ne_mixed_of_isNumeric rfl isNumber)
      | text content =>
          rw [standing, coerce_text isNumber] at mixed
          cases isRead : Binary64.read? (trim content.toList) with
          | none => exact .textCell isRead isNumber
          | some number =>
              rw [isRead] at mixed
              exact absurd mixed (standingOf_ne_mixed rfl isNumber)
    · cases value with
      | null => cases cell <;> cases mixed
      | integer => exact absurd rfl isNumber
      | float => exact absurd rfl isNumber
      | text content =>
          cases cell with
          | null => cases mixed
          | text => cases mixed
          | integer => exact .textValue rfl
          | float => exact .textValue rfl
  · rintro (⟨noNumber, isNumber⟩ | isNumber)
    · rw [standing, coerce_text isNumber, noNumber]
      cases value <;> cases isNumber <;> rfl
    · cases cell <;> cases isNumber <;> rfl

/-- What is no value is in no kind of its own and has an answer with every value. -/
theorem Scalar.not_clash_of_isNull {cell value : Scalar}
    (oneNull : cell.isNull = true ∨ value.isNull = true) : ¬ cell.Clash value := by
  rintro (⟨-, isNumber⟩ | isNumber)
  · cases value <;> cases isNumber <;> simp [isNull] at oneNull
  · cases cell <;> cases isNumber <;> simp [isNull] at oneNull

instance (cell value : Scalar) : Decidable (cell.Clash value) :=
  decidable_of_iff _ standing_eq_mixed_iff

theorem holds_eq_error_iff {left right : Scalar} {operator : Operator} {mismatch : TypeMismatch} :
    holds left operator right = .error mismatch ↔
      (operator.isOrdering = true ∧ left.Clash right) ∧ mismatch = { left, operator, right } := by
  rw [← standing_eq_mixed_iff, holds]
  cases standing left right with
  | bothNull => simp [Standing.answer?]
  | unequal => simp [Standing.answer?]
  | ordered => simp [Standing.answer?]
  | mixed =>
      rw [Standing.answer?]
      by_cases asksOrder : operator.isOrdering = true
      · simp [asksOrder, eq_comm]
      · simp [asksOrder]

/-! ## Conditions that fail -/

/-- The condition has no answer for a row: its operator asks for an order, and the
classified cell and the value have none. -/
def Condition.Refuses (condition : Condition) (row : Row) : Prop :=
  condition.operator.isOrdering = true ∧ (row.scalar condition.column).Clash condition.value

instance (condition : Condition) (row : Row) : Decidable (condition.Refuses row) :=
  inferInstanceAs (Decidable (_ ∧ _))

/-- What is reported of a row that a condition has no answer for. -/
def Condition.mismatch (condition : Condition) (row : Row) : TypeMismatch where
  left := row.scalar condition.column
  operator := condition.operator
  right := condition.value

theorem Condition.check_eq_error_iff {condition : Condition} {row : Row}
    {mismatch : TypeMismatch} :
    condition.check row = .error mismatch ↔
      condition.Refuses row ∧ mismatch = condition.mismatch row :=
  holds_eq_error_iff

theorem Condition.exists_check_iff {condition : Condition} {row : Row} :
    (∃ answer, condition.check row = .ok answer) ↔ ¬ condition.Refuses row := by
  cases checked : condition.check row with
  | error mismatch => simp [(Condition.check_eq_error_iff.1 checked).1]
  | ok answer =>
      have answers : ¬ condition.Refuses row := by
        intro refuses
        rw [Condition.check_eq_error_iff.2 ⟨refuses, rfl⟩] at checked
        cases checked
      simp [answers]

/-- Every row has an answer if it has no value in the column or the condition has none. -/
theorem Condition.not_refuses_of_noValue {condition : Condition} {row : Row}
    (noValue : condition.value = .null ∨ row.hasValue condition.column = false) :
    ¬ condition.Refuses row := by
  rintro ⟨-, clash⟩
  refine Scalar.not_clash_of_isNull ?_ clash
  rcases noValue with isNull | noCell
  · exact .inr (by rw [isNull]; rfl)
  · exact .inl (by rw [Row.isNull_scalar, noCell]; rfl)

/-- **A filter fails at the first row that the condition has no answer for.** -/
theorem Condition.filter_eq_error_iff {condition : Condition} {rows : List Row}
    {mismatch : TypeMismatch} :
    condition.filter rows = .error mismatch ↔
      ∃ row, FirstIn condition.Refuses rows row ∧ mismatch = condition.mismatch row := by
  induction rows with
  | nil => simp [Condition.filter, FirstIn]
  | cons row rest ih =>
      simp only [firstIn_cons_iff]
      rw [Condition.filter]
      cases checked : condition.check row with
      | error reported =>
          obtain ⟨refuses, rfl⟩ := Condition.check_eq_error_iff.1 checked
          simp [refuses, eq_comm]
      | ok answer =>
          have answers := Condition.exists_check_iff.1 ⟨answer, checked⟩
          simp only [answers, false_and, not_false_eq_true, true_and, false_or, ← ih]
          cases condition.filter rest <;> simp [Except.map]

/-! ## Rows that are chosen -/

/-- A condition has an answer for every row of a table: there is no condition, or its
column is in the table and it refuses no row. -/
def Table.Answers (table : Table) : Option Condition → Prop
  | none => True
  | some condition =>
      condition.column ∈ table.columns ∧ ∀ row ∈ table.rows, ¬ condition.Refuses row

/-- The error of a condition on a table. -/
inductive Table.RefusesCondition (table : Table) : Option Condition → QueryError → Prop where
  /-- The column of the condition is not in the table. -/
  | column {condition : Condition} (undeclared : condition.column ∉ table.columns) :
      RefusesCondition table (some condition) (.columnNotFound condition.column table.name)
  /-- The first row that the condition has no answer for. -/
  | order {condition : Condition} {row : Row} (declared : condition.column ∈ table.columns)
      (isFirst : FirstIn condition.Refuses table.rows row) :
      RefusesCondition table (some condition) (.typeMismatch (condition.mismatch row))

theorem Table.hasColumn_iff {table : Table} {name : String} :
    table.hasColumn name = true ↔ name ∈ table.columns := by
  simp [Table.hasColumn]

/-- **A condition that refuses no row chooses the rows that satisfy it.** -/
theorem Table.chosenRows_of_answers {table : Table} {condition : Option Condition}
    (answers : table.Answers condition) :
    table.chosenRows condition = .ok (table.rows.filter fun row => row.Satisfies condition) := by
  cases condition with
  | none =>
      have keepsAll : table.rows.filter (fun row => row.Satisfies none) = table.rows :=
        List.filter_eq_self.2 fun row _ => decide_eq_true trivial
      exact congrArg Except.ok keepsAll.symm
  | some condition =>
      obtain ⟨declared, refusesNone⟩ := answers
      exact Table.chosenRows_of_check declared fun row isRow =>
        Condition.exists_check_iff.2 (refusesNone row isRow)

theorem Table.chosenRows_of_refusesCondition {table : Table} {condition : Option Condition}
    {error : QueryError} (refuses : table.RefusesCondition condition error) :
    table.chosenRows condition = .error error := by
  rcases refuses with undeclared | ⟨declared, isFirst⟩
  · rw [Table.chosenRows, if_neg (by rwa [Table.hasColumn_iff])]
  · rw [Table.chosenRows, if_pos (Table.hasColumn_iff.2 declared),
      Condition.filter_eq_error_iff.2 ⟨_, isFirst, rfl⟩]
    rfl

/-- A condition either has an answer for every row or an error. -/
theorem Table.answers_or_refusesCondition (table : Table) (condition : Option Condition) :
    table.Answers condition ∨ ∃ error, table.RefusesCondition condition error := by
  cases condition with
  | none => exact .inl trivial
  | some condition =>
      by_cases declared : condition.column ∈ table.columns
      · by_cases refusesNone : ∀ row ∈ table.rows, ¬ condition.Refuses row
        · exact .inl ⟨declared, refusesNone⟩
        · push Not at refusesNone
          obtain ⟨row, isFirst⟩ := exists_firstIn_iff.2 refusesNone
          exact .inr ⟨_, .order declared isFirst⟩
      · exact .inr ⟨_, .column declared⟩

/-! ## Selections that fail -/

/-- An item that is no column to take: it is a call, or the table has no such column. -/
def Table.RefusesItem (table : Table) (item : String) : Prop :=
  ('(' ∈ item.toList ∧ ')' ∈ item.toList) ∨ item ∉ table.columns

instance (table : Table) (item : String) : Decidable (table.RefusesItem item) :=
  inferInstanceAs (Decidable (_ ∨ _))

/-- A table has what a selection asks for. -/
def Table.Offers (table : Table) : Selection → Prop
  | .wildcard => True
  | .columns items => ∀ item ∈ items, ¬ table.RefusesItem item
  | .count .rows => True
  | .count (.column name) => name ∈ table.columns

instance (table : Table) : (selection : Selection) → Decidable (table.Offers selection)
  | .wildcard => .isTrue trivial
  | .columns items => inferInstanceAs (Decidable (∀ item ∈ items, ¬ table.RefusesItem item))
  | .count .rows => .isTrue trivial
  | .count (.column name) => inferInstanceAs (Decidable (name ∈ table.columns))

/-- The error of a selection on a table. -/
inductive Table.RefusesSelection (table : Table) : Selection → QueryError → Prop where
  /-- The column that is counted is not in the table. -/
  | count {name : String} (undeclared : name ∉ table.columns) :
      RefusesSelection table (.count (.column name)) (.countColumnNotFound name table.name)
  /-- The first item that is refused is a call, whether there is such a column or not. -/
  | call {items : List String} {item : String} (isFirst : FirstIn table.RefusesItem items item)
      (isCall : '(' ∈ item.toList ∧ ')' ∈ item.toList) :
      RefusesSelection table (.columns items) (.unsupportedFunction item)
  /-- The first item that is refused is no call and not in the table. -/
  | column {items : List String} {item : String} (isFirst : FirstIn table.RefusesItem items item)
      (noCall : ¬ ('(' ∈ item.toList ∧ ')' ∈ item.toList)) :
      RefusesSelection table (.columns items) (.columnNotFound item table.name)

theorem Table.itemError?_eq_none_iff {table : Table} {item : String} :
    table.itemError? item = none ↔ ¬ table.RefusesItem item := by
  rw [Table.itemError?, Table.RefusesItem, ← Table.hasColumn_iff]
  split
  next isCall => simp [isCall]
  next noCall => split <;> simp_all

theorem Table.findSome?_itemError?_of_firstIn {table : Table} {items : List String} {item : String}
    {error : QueryError} (isFirst : FirstIn table.RefusesItem items item)
    (isError : table.itemError? item = some error) :
    items.findSome? table.itemError? = some error := by
  obtain ⟨front, back, split, -, before⟩ := isFirst
  refine List.findSome?_eq_some_iff.2 ⟨front, item, back, split, isError, fun other isOther => ?_⟩
  exact Table.itemError?_eq_none_iff.2 (before other isOther)

/-- What a selection shows of some rows of a table that has what it asks for. -/
def Table.shown (table : Table) (rows : List Row) : Selection → ResultSet
  | .wildcard => Table.projection table.columns rows
  | .columns items => Table.projection items rows
  | .count .rows => Table.countResult rows.length
  | .count (.column name) => Table.countResult (rows.countP (·.hasValue name))

theorem Table.select_of_offers {table : Table} {selection : Selection}
    (offers : table.Offers selection) (rows : List Row) :
    table.select rows selection = .ok (table.shown rows selection) := by
  match selection with
  | .wildcard => rfl
  | .count .rows => rfl
  | .count (.column name) =>
      have isColumn : table.hasColumn name = true := Table.hasColumn_iff.2 offers
      rw [Table.select, Table.countOf, if_pos isColumn, Table.shown, List.countP_eq_length_filter]
      simp only [Row.isNull_scalar, Bool.not_not]
      rfl
  | .columns items =>
      have noError : items.findSome? table.itemError? = none := by
        rw [List.findSome?_eq_none_iff]
        exact fun item isItem => Table.itemError?_eq_none_iff.2 (offers item isItem)
      rw [Table.select, noError, Table.shown]

/-- **A selection fails in the same way whatever rows are left.** -/
theorem Table.select_of_refusesSelection {table : Table} {selection : Selection}
    {error : QueryError} (refuses : table.RefusesSelection selection error) (rows : List Row) :
    table.select rows selection = .error error := by
  cases refuses with
  | count undeclared =>
      rw [Table.select, Table.countOf, if_neg (by rwa [Table.hasColumn_iff])]
      rfl
  | call isFirst isCall =>
      rw [Table.select, Table.findSome?_itemError?_of_firstIn isFirst (if_pos isCall)]
  | @column items item isFirst noCall =>
      have undeclared : ¬ table.hasColumn item = true := by
        rw [Table.hasColumn_iff]
        exact isFirst.property.resolve_left noCall
      have isError : table.itemError? item = some (.columnNotFound item table.name) := by
        rw [Table.itemError?, if_neg noCall, if_neg undeclared]
      rw [Table.select, Table.findSome?_itemError?_of_firstIn isFirst isError]

/-- A table either has what a selection asks for or has an error for it. -/
theorem Table.offers_or_refusesSelection (table : Table) (selection : Selection) :
    table.Offers selection ∨ ∃ error, table.RefusesSelection selection error := by
  match selection with
  | .wildcard => exact .inl trivial
  | .count .rows => exact .inl trivial
  | .count (.column name) =>
      by_cases declared : name ∈ table.columns
      · exact .inl declared
      · exact .inr ⟨_, .count declared⟩
  | .columns items =>
      by_cases refusesNone : ∀ item ∈ items, ¬ table.RefusesItem item
      · exact .inl refusesNone
      · push Not at refusesNone
        obtain ⟨item, isFirst⟩ := exists_firstIn_iff.2 refusesNone
        by_cases isCall : '(' ∈ item.toList ∧ ')' ∈ item.toList
        · exact .inr ⟨_, .call isFirst isCall⟩
        · exact .inr ⟨_, .column isFirst isCall⟩

/-! ## Queries that fail -/

/-- The error of a query on a table: that of its condition, or, if every row has an
answer, that of its selection. -/
inductive Table.RefusesQuery (table : Table) (query : Query) : QueryError → Prop where
  | condition {error : QueryError} (refuses : table.RefusesCondition query.condition error) :
      RefusesQuery table query error
  | selection {error : QueryError} (answers : table.Answers query.condition)
      (refuses : table.RefusesSelection query.selection error) : RefusesQuery table query error

theorem Table.evaluate_of_refusesQuery {table : Table} {query : Query} {error : QueryError}
    (refuses : table.RefusesQuery query error) : table.evaluate query = .error error := by
  rw [Table.evaluate]
  cases refuses with
  | condition refuses => rw [Table.chosenRows_of_refusesCondition refuses]
  | selection answers refuses =>
      rw [Table.chosenRows_of_answers answers]
      exact Table.select_of_refusesSelection refuses _

/-- **A query that nothing is refused of is answered from the rows that satisfy its
condition.** -/
theorem Table.evaluate_of_answers {table : Table} {query : Query}
    (answers : table.Answers query.condition) (offers : table.Offers query.selection) :
    table.evaluate query =
      .ok (table.shown (table.rows.filter fun row => row.Satisfies query.condition)
        query.selection) := by
  rw [Table.evaluate, Table.chosenRows_of_answers answers]
  exact Table.select_of_offers offers _

theorem Table.answered_or_refused (table : Table) (query : Query) :
    (table.Answers query.condition ∧ table.Offers query.selection) ∨
      ∃ error, table.RefusesQuery query error := by
  rcases table.answers_or_refusesCondition query.condition with answers | ⟨error, refuses⟩
  · rcases table.offers_or_refusesSelection query.selection with offers | ⟨error, refuses⟩
    · exact .inl ⟨answers, offers⟩
    · exact .inr ⟨error, .selection answers refuses⟩
  · exact .inr ⟨error, .condition refuses⟩

/-- **A query fails exactly with the first of its errors.** -/
theorem Table.evaluate_eq_error_iff {table : Table} {query : Query} {error : QueryError} :
    table.evaluate query = .error error ↔ table.RefusesQuery query error := by
  constructor
  · intro failed
    rcases table.answered_or_refused query with ⟨answers, offers⟩ | ⟨other, refuses⟩
    · rw [Table.evaluate_of_answers answers offers] at failed
      cases failed
    · rw [Table.evaluate_of_refusesQuery refuses] at failed
      cases failed
      exact refuses
  · exact Table.evaluate_of_refusesQuery

/-- **A query is answered exactly when nothing of it is refused.** -/
theorem Table.evaluate_eq_ok_iff {table : Table} {query : Query} {result : ResultSet} :
    table.evaluate query = .ok result ↔
      (table.Answers query.condition ∧ table.Offers query.selection) ∧
        result = table.shown (table.rows.filter fun row => row.Satisfies query.condition)
          query.selection := by
  constructor
  · intro answered
    rcases table.answered_or_refused query with ⟨answers, offers⟩ | ⟨error, refuses⟩
    · rw [Table.evaluate_of_answers answers offers] at answered
      cases answered
      exact ⟨⟨answers, offers⟩, rfl⟩
    · rw [Table.evaluate_of_refusesQuery refuses] at answered
      cases answered
  · rintro ⟨⟨answers, offers⟩, rfl⟩
    exact Table.evaluate_of_answers answers offers

theorem Table.exists_evaluate_iff {table : Table} {query : Query} :
    (∃ result, table.evaluate query = .ok result) ↔
      table.Answers query.condition ∧ table.Offers query.selection := by
  simp only [Table.evaluate_eq_ok_iff, exists_and_left, exists_eq, and_true]

/-- **When and how a query fails.**  It fails exactly with the first of its errors and is
answered exactly when it has none.  A missing value is never an error, and what cannot be
ordered is reported by the literals of the cell and of the value. -/
theorem Table.evaluate_outcome (table : Table) (query : Query) :
    (∀ error, table.evaluate query = .error error ↔ table.RefusesQuery query error) ∧
      ((∃ result, table.evaluate query = .ok result) ↔
        table.Answers query.condition ∧ table.Offers query.selection) ∧
      ∀ (condition : Condition) (row : Row),
        (condition.value = .null ∨ row.hasValue condition.column = false →
          ¬ condition.Refuses row) ∧
        (QueryError.typeMismatch (condition.mismatch row)).message =
          "Type error comparing " ++ (row.scalar condition.column).literal ++ " "
            ++ String.ofList condition.operator.symbol ++ " " ++ condition.value.literal :=
  ⟨fun _ => Table.evaluate_eq_error_iff, Table.exists_evaluate_iff,
    fun _ _ => ⟨Condition.not_refuses_of_noValue, rfl⟩⟩

theorem Table.evaluate_outcome_competing_errors :
    ∃ (table : Table) (ordered unmatched : Query),
      table.columns = ["n", "f(x)"] ∧
        table.rows.map (·.get? "n") = [some "7", none, some " abc ", some "x"] ∧
        ordered.condition = some { column := "n", operator := .gt, value := .integer 5 } ∧
        ordered.selection = .columns ["zz", "g(x)"] ∧
        table.evaluate ordered =
          .error (.typeMismatch { left := .text "abc", operator := .gt, right := .integer 5 }) ∧
        unmatched.condition = some { column := "n", operator := .eq, value := .integer 9 } ∧
        unmatched.selection = .columns ["n", "f(x)", "zz"] ∧
        table.evaluate unmatched = .error (.unsupportedFunction "f(x)") := by
  let row : Row := ⟨[("n", " abc "), ("f(x)", "1")]⟩
  let table : Table :=
    { name := "t"
      columns := ["n", "f(x)"]
      rows := [⟨[("n", "7")]⟩, ⟨[]⟩, row, ⟨[("n", "x")]⟩]
      columns_nodup := by decide
      rows_declared := by decide }
  let condition : Condition := { column := "n", operator := .gt, value := .integer 5 }
  let ordered : Query :=
    { selection := .columns ["zz", "g(x)"], source := "t", condition := some condition }
  let unmatched : Query :=
    { selection := .columns ["n", "f(x)", "zz"]
      source := "t"
      condition := some { column := "n", operator := .eq, value := .integer 9 } }
  have isFirst : FirstIn condition.Refuses table.rows row :=
    ⟨[⟨[("n", "7")]⟩, ⟨[]⟩], [⟨[("n", "x")]⟩], rfl, by decide +kernel, by decide +kernel⟩
  have reported : condition.mismatch row =
      { left := .text "abc", operator := .gt, right := .integer 5 } := by decide +kernel
  have isCall : FirstIn table.RefusesItem ["n", "f(x)", "zz"] "f(x)" :=
    ⟨["n"], ["zz"], rfl, by decide, by decide⟩
  refine ⟨table, ordered, unmatched, rfl, by decide, rfl, rfl, ?_, rfl, rfl, ?_⟩
  · rw [← reported]
    exact ((Table.evaluate_outcome table ordered).1 _).2 (.condition (.order (by decide) isFirst))
  · exact ((Table.evaluate_outcome table unmatched).1 _).2
      (.selection ⟨by decide, by decide +kernel⟩ (.call isCall (by decide)))

end CsvQuery
