import CsvQuery.Proofs.Evaluation.Failing

/-!
# Answers and the list of rows

A condition is asked of one row at a time, and what is shown or counted of a row does not
depend on the rows around it.  So a query on two lists of rows, one above the other, is
the query on each of them: it fails as it does on the upper rows, if it does, or else as
on the lower ones, and otherwise the two answers are put together
(`Table.JoinsAnswers`).  The order of the rows decides which of two errors is reported
and in which order rows are shown, but not whether there is an answer, which rows are
shown or how many are counted.
-/

set_option autoImplicit false

namespace CsvQuery

/-! ## Tables with one header -/

/-- Two tables have the same name and the same columns. -/
structure Table.SameHeader (table other : Table) : Prop where
  name_eq : other.name = table.name
  columns_eq : other.columns = table.columns

/-- A table with the rows of another one below its own. -/
def Table.append (first second : Table) (same : first.SameHeader second) : Table where
  name := first.name
  columns := first.columns
  rows := first.rows ++ second.rows
  columns_nodup := first.columns_nodup
  rows_declared := by
    intro row isRow
    rcases List.mem_append.1 isRow with isUpper | isLower
    · exact first.rows_declared row isUpper
    · rw [← same.columns_eq]
      exact second.rows_declared row isLower

/-- Two tables with one header have what the same selections ask for. -/
theorem Table.SameHeader.offers_iff {table other : Table} (same : table.SameHeader other)
    {selection : Selection} : other.Offers selection ↔ table.Offers selection := by
  match selection with
  | .wildcard => exact Iff.rfl
  | .columns items => simp only [Table.Offers, Table.RefusesItem, same.columns_eq]
  | .count .rows => exact Iff.rfl
  | .count (.column name) => simp only [Table.Offers, same.columns_eq]

/-- What two tables with one header show of the same rows is the same. -/
theorem Table.SameHeader.shown_eq {table other : Table} (same : table.SameHeader other)
    (rows : List Row) (selection : Selection) :
    other.shown rows selection = table.shown rows selection := by
  match selection with
  | .wildcard => rw [Table.shown, Table.shown, same.columns_eq]
  | .columns _ => rfl
  | .count .rows => rfl
  | .count (.column _) => rfl

/-! ## Errors above and below -/

section Append

variable {first second : Table} (same : first.SameHeader second)
variable {condition : Option Condition}

theorem Table.answers_append_iff :
    (first.append second same).Answers condition ↔
      first.Answers condition ∧ second.Answers condition := by
  cases condition with
  | none => simp [Table.Answers]
  | some condition =>
      simp only [Table.Answers, Table.append, same.columns_eq, List.forall_mem_append]
      tauto

/-- An error of the upper rows is the error of all rows. -/
theorem Table.RefusesCondition.append_right {error : QueryError}
    (refuses : first.RefusesCondition condition error) :
    (first.append second same).RefusesCondition condition error := by
  rcases refuses with undeclared | ⟨declared, isFirst⟩
  · exact .column undeclared
  · exact .order declared (isFirst.append_right second.rows)

/-- An error of the lower rows is the error of all rows, if the upper ones have none. -/
theorem Table.RefusesCondition.append_left {error : QueryError}
    (answers : first.Answers condition) (refuses : second.RefusesCondition condition error) :
    (first.append second same).RefusesCondition condition error := by
  rcases refuses with undeclared | ⟨declared, isFirst⟩
  · exact absurd answers.1 (by rwa [← same.columns_eq])
  · exact .order answers.1 (isFirst.append_left answers.2)

end Append

/-- Where a table has what the selection asks for, a query fails exactly as its condition
does. -/
theorem Table.evaluate_eq_error_iff_of_offers {table : Table} {query : Query} {error : QueryError}
    (offers : table.Offers query.selection) :
    table.evaluate query = .error error ↔ table.RefusesCondition query.condition error := by
  rw [Table.evaluate_eq_error_iff]
  constructor
  · rintro (refuses | ⟨-, refuses⟩)
    · exact refuses
    · have answered := Table.select_of_offers offers []
      rw [Table.select_of_refusesSelection refuses] at answered
      cases answered
  · exact .condition

/-! ## Answers put together -/

/-- A result is put together from the answers of two tables: a count is the sum of the two
counts, and any other result has the rows of the one above the rows of the other. -/
def Table.JoinsAnswers (first second : Table) (above below whole : ResultSet) : Selection → Prop
  | .count _ => ∃ m n, m ≤ first.rowCount ∧ n ≤ second.rowCount ∧
      above.IsCount m ∧ below.IsCount n ∧ whole.IsCount (m + n)
  | _ => above.columns = whole.columns ∧ below.columns = whole.columns ∧
      whole.rows = above.rows ++ below.rows

/-- What is shown of some rows above others is put together from what is shown of each. -/
theorem Table.joinsAnswers_shown {first second : Table} {upper lower : List Row}
    (upperFew : upper.length ≤ first.rowCount) (lowerFew : lower.length ≤ second.rowCount)
    (selection : Selection) :
    first.JoinsAnswers second (first.shown upper selection) (first.shown lower selection)
      (first.shown (upper ++ lower) selection) selection := by
  match selection with
  | .wildcard => exact ⟨rfl, rfl, List.map_append⟩
  | .columns items => exact ⟨rfl, rfl, List.map_append⟩
  | .count .rows =>
      refine ⟨_, _, upperFew, lowerFew, ResultSet.isCount_countResult _,
        ResultSet.isCount_countResult _, ?_⟩
      rw [← List.length_append]
      exact ResultSet.isCount_countResult _
  | .count (.column name) =>
      refine ⟨_, _, List.countP_le_length.trans upperFew, List.countP_le_length.trans lowerFew,
        ResultSet.isCount_countResult _, ResultSet.isCount_countResult _, ?_⟩
      rw [← List.countP_append]
      exact ResultSet.isCount_countResult _

/-! ## Rows in another order -/

/-- Two results have the same columns and, in some order, the same rows. -/
structure ResultSet.SameRows (result other : ResultSet) : Prop where
  columns_eq : result.columns = other.columns
  rows_perm : result.rows.Perm other.rows

theorem Table.sameRows_shown (table : Table) {rows reordered : List Row}
    (perm : rows.Perm reordered) (selection : Selection) :
    (table.shown rows selection).SameRows (table.shown reordered selection) := by
  match selection with
  | .wildcard => exact ⟨rfl, perm.map _⟩
  | .columns _ => exact ⟨rfl, perm.map _⟩
  | .count .rows => rw [Table.shown, Table.shown, perm.length_eq]; exact ⟨rfl, .refl _⟩
  | .count (.column _) => rw [Table.shown, Table.shown, perm.countP_eq]; exact ⟨rfl, .refl _⟩

theorem Table.exists_isCount_shown (table : Table) (rows : List Row) (target : CountTarget) :
    ∃ count, (table.shown rows (.count target)).IsCount count := by
  cases target with
  | rows => exact ⟨_, ResultSet.isCount_countResult _⟩
  | column name => exact ⟨_, ResultSet.isCount_countResult _⟩

/-- A count with the same rows is the same result. -/
theorem ResultSet.SameRows.eq_of_count {result other : ResultSet} (same : result.SameRows other)
    {count : Nat} (isCount : result.IsCount count) : result = other := by
  obtain ⟨number, rfl, -⟩ := isCount
  obtain ⟨columns, rows⟩ := other
  obtain ⟨rfl, rowsPerm⟩ := same
  cases List.singleton_perm.1 rowsPerm
  rfl

/-- Whether a condition has an answer for every row does not depend on their order. -/
theorem Table.answers_iff_of_perm {table other : Table} (same : table.SameHeader other)
    (perm : table.rows.Perm other.rows) {condition : Option Condition} :
    other.Answers condition ↔ table.Answers condition := by
  cases condition with
  | none => exact Iff.rfl
  | some condition => simp only [Table.Answers, same.columns_eq, perm.mem_iff]

/-! ## Queries on lists of rows -/

section Query

variable {query : Query}

theorem Table.evaluate_append_of_answered {first second : Table} (same : first.SameHeader second)
    {above below : ResultSet} (upper : first.evaluate query = .ok above)
    (lower : second.evaluate query = .ok below) :
    ∃ whole, (first.append second same).evaluate query = .ok whole ∧
      first.JoinsAnswers second above below whole query.selection := by
  obtain ⟨⟨upperAnswers, offers⟩, rfl⟩ := Table.evaluate_eq_ok_iff.1 upper
  obtain ⟨⟨lowerAnswers, -⟩, rfl⟩ := Table.evaluate_eq_ok_iff.1 lower
  refine ⟨_, Table.evaluate_of_answers
    ((Table.answers_append_iff same).2 ⟨upperAnswers, lowerAnswers⟩) offers, ?_⟩
  have sameShown : ∀ rows, (first.append second same).shown rows query.selection =
      first.shown rows query.selection :=
    fun rows => Table.SameHeader.shown_eq ⟨rfl, rfl⟩ rows query.selection
  rw [sameShown, same.shown_eq, Table.append, List.filter_append]
  exact Table.joinsAnswers_shown (List.length_filter_le _ _) (List.length_filter_le _ _) _

theorem Table.exists_evaluate_iff_of_perm {table other : Table} (same : table.SameHeader other)
    (perm : table.rows.Perm other.rows) :
    (∃ result, table.evaluate query = .ok result) ↔
      ∃ result, other.evaluate query = .ok result := by
  rw [Table.exists_evaluate_iff, Table.exists_evaluate_iff, same.offers_iff,
    Table.answers_iff_of_perm same perm]

theorem Table.sameRows_evaluate_of_perm {table other : Table} (same : table.SameHeader other)
    (perm : table.rows.Perm other.rows) {result reordered : ResultSet}
    (answered : table.evaluate query = .ok result)
    (otherAnswered : other.evaluate query = .ok reordered) : result.SameRows reordered := by
  obtain ⟨-, rfl⟩ := Table.evaluate_eq_ok_iff.1 answered
  obtain ⟨-, rfl⟩ := Table.evaluate_eq_ok_iff.1 otherAnswered
  rw [same.shown_eq]
  exact table.sameRows_shown (perm.filter _) query.selection

end Query

/-- **Evaluation puts the answers for two lists of rows together, and the order of the rows
only orders what is shown.** -/
theorem Table.evaluate_append_and_perm (query : Query) :
    (∀ (first second : Table) (same : first.SameHeader second), first.Offers query.selection →
      (∀ error, first.evaluate query = .error error →
        (first.append second same).evaluate query = .error error) ∧
      (∀ above error, first.evaluate query = .ok above → second.evaluate query = .error error →
        (first.append second same).evaluate query = .error error) ∧
      ∀ above below, first.evaluate query = .ok above → second.evaluate query = .ok below →
        ∃ whole, (first.append second same).evaluate query = .ok whole ∧
          first.JoinsAnswers second above below whole query.selection) ∧
    ∀ table other : Table, table.SameHeader other → table.rows.Perm other.rows →
      ((∃ result, table.evaluate query = .ok result) ↔
        ∃ result, other.evaluate query = .ok result) ∧
      ∀ result reordered, table.evaluate query = .ok result →
        other.evaluate query = .ok reordered →
          result.SameRows reordered ∧
            ∀ target, query.selection = .count target → result = reordered := by
  constructor
  · intro first second same offers
    have wholeOffers : (first.append second same).Offers query.selection :=
      (Table.SameHeader.offers_iff ⟨rfl, rfl⟩).2 offers
    refine ⟨fun error failed => ?_, fun above error answered failed => ?_, fun above below => ?_⟩
    · rw [Table.evaluate_eq_error_iff_of_offers offers] at failed
      exact (Table.evaluate_eq_error_iff_of_offers wholeOffers).2 (failed.append_right same)
    · obtain ⟨⟨answers, -⟩, -⟩ := Table.evaluate_eq_ok_iff.1 answered
      rw [Table.evaluate_eq_error_iff_of_offers (same.offers_iff.2 offers)] at failed
      exact (Table.evaluate_eq_error_iff_of_offers wholeOffers).2 (failed.append_left same answers)
    · exact Table.evaluate_append_of_answered same
  · intro table other same perm
    refine ⟨Table.exists_evaluate_iff_of_perm same perm, fun result reordered answered again => ?_⟩
    have sameRows := Table.sameRows_evaluate_of_perm same perm answered again
    refine ⟨sameRows, fun target isCount => ?_⟩
    obtain ⟨-, isShown⟩ := Table.evaluate_eq_ok_iff.1 answered
    rw [isCount] at isShown
    obtain ⟨count, counted⟩ := table.exists_isCount_shown _ target
    exact sameRows.eq_of_count (isShown ▸ counted)

theorem Table.evaluate_append_and_perm_failing_below :
    ∃ (first second reversed : Table) (same : first.SameHeader second)
      (ordered counted : Query),
      first.rows.map (·.get? "n") = [some "7", some " "] ∧
        second.rows.map (·.get? "n") = [none, some "x", some " 9"] ∧
        reversed.rows = second.rows.reverse ∧
        ordered.condition = some { column := "n", operator := .gt, value := .integer 5 } ∧
        ordered.selection = .columns ["n", "n"] ∧
        (∃ above, first.evaluate ordered = .ok above) ∧
        (first.append second same).evaluate ordered =
          .error (.typeMismatch { left := .text "x", operator := .gt, right := .integer 5 }) ∧
        counted.condition = some { column := "n", operator := .ne, value := .integer 9 } ∧
        counted.selection = .count (.column "n") ∧
        (∃ above below whole, first.evaluate counted = .ok above ∧
          second.evaluate counted = .ok below ∧
          (first.append second same).evaluate counted = .ok whole ∧
          first.JoinsAnswers second above below whole counted.selection) ∧
        reversed.evaluate counted = second.evaluate counted := by
  let table : (rows : List Row) → (∀ row ∈ rows, ∀ column ∈ row.columns, column ∈ ["n"]) → Table :=
    fun rows declared => ⟨"t", ["n"], rows, by decide, declared⟩
  let lower : List Row := [⟨[]⟩, ⟨[("n", "x")]⟩, ⟨[("n", " 9")]⟩]
  let first := table [⟨[("n", "7")]⟩, ⟨[("n", " ")]⟩] (by decide)
  let second := table lower (by decide)
  let reversed := table lower.reverse (by decide)
  have same : first.SameHeader second := ⟨rfl, rfl⟩
  let ordered : Query :=
    { selection := .columns ["n", "n"]
      source := "t"
      condition := some { column := "n", operator := .gt, value := .integer 5 } }
  let counted : Query :=
    { selection := .count (.column "n")
      source := "t"
      condition := some { column := "n", operator := .ne, value := .integer 9 } }
  have aboveOrdered : first.evaluate ordered =
      .ok { columns := ["n", "n"], rows := [[.text "7", .text "7"]] } := by decide +kernel
  have belowOrdered : second.evaluate ordered =
      .error (.typeMismatch { left := .text "x", operator := .gt, right := .integer 5 }) := by
    decide +kernel
  have aboveCounted : first.evaluate counted =
      .ok { columns := ["count"], rows := [[.integer 1]] } := by decide +kernel
  have belowCounted : second.evaluate counted =
      .ok { columns := ["count"], rows := [[.integer 1]] } := by decide +kernel
  obtain ⟨-, failsBelow, -⟩ :=
    (Table.evaluate_append_and_perm ordered).1 first second same (by decide)
  obtain ⟨-, -, joins⟩ := (Table.evaluate_append_and_perm counted).1 first second same (by decide)
  obtain ⟨whole, answered, joined⟩ := joins _ _ aboveCounted belowCounted
  obtain ⟨sameSuccess, sameAnswer⟩ := (Table.evaluate_append_and_perm counted).2 second reversed
    ⟨rfl, rfl⟩ (List.reverse_perm lower).symm
  obtain ⟨result, reversedCounted⟩ := sameSuccess.1 ⟨_, belowCounted⟩
  refine ⟨first, second, reversed, same, ordered, counted, by decide, by decide, rfl, rfl, rfl,
    ⟨_, aboveOrdered⟩, failsBelow _ _ aboveOrdered belowOrdered, rfl, rfl,
    ⟨_, _, whole, aboveCounted, belowCounted, answered, joined⟩, ?_⟩
  rw [reversedCounted, belowCounted,
    (sameAnswer _ _ belowCounted reversedCounted).2 (.column "n") rfl]

end CsvQuery
