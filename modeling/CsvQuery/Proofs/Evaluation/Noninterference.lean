import CsvQuery.Proofs.Evaluation.RowLists

/-!
# What a query sees of a table

A query looks at the cells of two columns only through their classification: the column of
its condition and the column it counts.  Of the other cells it sees those in the columns that
it shows, and only in the rows that it keeps.  So two tables whose classified cells agree row
by row in those two columns answer a query alike (`Table.AnswersAlike`): both fail with one
error, or both keep the rows at the same places and count the same, and they show the same
where the kept rows store the same.

Cells that are spelled differently, but stand for the same, are classified alike
(`Respelled.classify_eq`).  So it does not matter to a condition, to a count or to an error
whether a cell is absent or blank, which blanks stand around it and how its number is
written (`Table.answersAlike_of_sameScalars`).
-/

set_option autoImplicit false

namespace CsvQuery

open CsvQuery.Text

/-! ## Cells that stand for the same -/

/-- A cell that is absent or blank. -/
def IsNoValue (cell : Option String) : Prop := ∀ text ∈ cell, Blanks text.toList

/-- Two cells stand for the same: neither has a value, or they differ in the blanks around
them, or they are numerals of one number. -/
inductive Respelled : Option String → Option String → Prop where
  | noValue {cell other : Option String} (isNoValue : IsNoValue cell)
      (otherIsNoValue : IsNoValue other) : Respelled cell other
  | spaced {cell other : String} (sameText : trim cell.toList = trim other.toList) :
      Respelled (some cell) (some other)
  | numeral {cell other : String} {n : Int} (isNumeral : Numeral (trim cell.toList) n)
      (otherIsNumeral : Numeral (trim other.toList) n) : Respelled (some cell) (some other)

theorem IsNoValue.classify_eq {cell : Option String} (isNoValue : IsNoValue cell) :
    Scalar.classify cell = .null := by
  cases cell with
  | none => rfl
  | some text =>
      rw [Scalar.classify, trim_blanks (isNoValue text rfl)]
      rfl

theorem Scalar.classify_numeral {cell : String} {n : Int}
    (isNumeral : Numeral (trim cell.toList) n) :
    Scalar.classify (some cell) = Scalar.ofWhole n := by
  rw [Scalar.classify_of_trim_ne_nil isNumeral.nonempty, Scalar.ofText_numeral isNumeral]

/-- **Cells that stand for the same are classified alike.** -/
theorem Respelled.classify_eq {cell other : Option String} (respelled : Respelled cell other) :
    Scalar.classify cell = Scalar.classify other := by
  cases respelled with
  | noValue isNoValue otherIsNoValue => rw [isNoValue.classify_eq, otherIsNoValue.classify_eq]
  | spaced sameText => rw [Scalar.classify, Scalar.classify, sameText]
  | numeral isNumeral otherIsNumeral =>
      rw [Scalar.classify_numeral isNumeral, Scalar.classify_numeral otherIsNumeral]

/-! ## What a query looks at -/

/-- The columns in which a query classifies cells: that of its condition and the one it
counts. -/
def Query.classified (query : Query) : List String :=
  (query.condition.map Condition.column).toList ++
    match query.selection with
    | .count (.column name) => [name]
    | _ => []

/-- Two rows have the same scalars in some columns. -/
def Row.SameScalars (columns : List String) (row other : Row) : Prop :=
  ∀ column ∈ columns, row.scalar column = other.scalar column

/-- Two rows store the same cells in some columns. -/
def Row.SameCells (columns : List String) (row other : Row) : Prop :=
  ∀ column ∈ columns, row.get? column = other.get? column

theorem Query.mem_classified_of_condition {query : Query} {condition : Condition}
    (isCondition : query.condition = some condition) : condition.column ∈ query.classified := by
  simp [Query.classified, isCondition]

theorem Query.mem_classified_of_count {query : Query} {name : String}
    (isCount : query.selection = .count (.column name)) : name ∈ query.classified := by
  simp [Query.classified, isCount]

/-- Two tables answer a query alike: it fails on both with one error, or it keeps the rows
at the same places of both.  Then its count is the same, and its result is the same if the
kept rows store the same in the columns that are shown. -/
inductive Table.AnswersAlike (table other : Table) (query : Query) : Prop where
  | failed (error : QueryError) (fails : table.evaluate query = .error error)
      (otherFails : other.evaluate query = .error error)
  | answered (places : List Nat) (result otherResult : ResultSet)
      (answers : table.evaluate query = .ok result)
      (otherAnswers : other.evaluate query = .ok otherResult)
      (keeps : table.KeptPlaces query.condition places)
      (otherKeeps : other.KeptPlaces query.condition places)
      (isAnswer : table.IsAnswer places result query.selection)
      (otherIsAnswer : other.IsAnswer places otherResult query.selection)
      (sameCount : ∀ target, query.selection = .count target → result = otherResult)
      (sameShown : (∀ place ∈ places, ∀ row ∈ table.rows[place]?, ∀ otherRow ∈ other.rows[place]?,
        row.SameCells result.columns otherRow) → result = otherResult)

/-! ## Lists that agree element by element -/

theorem forall_mem_of_forall₂ {α : Type} {related : α → α → Prop} {property : α → Prop}
    (sameProperty : ∀ a b, related a b → (property a ↔ property b)) {list other : List α}
    (agree : List.Forall₂ related list other) (all : ∀ element ∈ list, property element) :
    ∀ element ∈ other, property element := by
  induction agree with
  | nil => simp
  | cons here _ ih =>
      obtain ⟨first, rest⟩ := List.forall_mem_cons.1 all
      exact List.forall_mem_cons.2 ⟨(sameProperty _ _ here).1 first, ih rest⟩

theorem findIdxs_eq_of_forall₂ {α : Type} {related : α → α → Prop} {test : α → Bool}
    (sameTest : ∀ a b, related a b → test a = test b) {list other : List α}
    (agree : List.Forall₂ related list other) : list.findIdxs test = other.findIdxs test := by
  have sameTests : list.map test = other.map test := by
    rw [← List.forall₂_eq_eq_eq, List.forall₂_map_left_iff, List.forall₂_map_right_iff]
    exact agree.imp sameTest
  have tests := congrArg (List.findIdxs id) sameTests
  rwa [List.findIdxs_map, List.findIdxs_map] at tests

theorem filter_of_forall₂ {α : Type} {related : α → α → Prop} {test : α → Bool}
    (sameTest : ∀ a b, related a b → test a = test b) {list other : List α}
    (agree : List.Forall₂ related list other) :
    List.Forall₂ related (list.filter test) (other.filter test) := by
  have relates : ∀ a b, related a b → (test a = true ↔ test b = true) :=
    fun a b isRelated => by rw [sameTest a b isRelated]
  exact List.rel_filter relates agree

theorem Table.StandAt.forall₂ {table other : Table} {related : Row → Row → Prop}
    {places : List Nat} {rows otherRows : List Row} (stand : table.StandAt places rows)
    (otherStand : other.StandAt places otherRows)
    (agree : ∀ place ∈ places, ∀ row ∈ table.rows[place]?, ∀ otherRow ∈ other.rows[place]?,
      related row otherRow) :
    List.Forall₂ related rows otherRows := by
  induction stand generalizing otherRows with
  | nil =>
      cases otherStand
      exact .nil
  | cons isHere _ ih =>
      cases otherStand with
      | cons otherHere otherRest =>
          obtain ⟨agreeHere, agreeRest⟩ := List.forall_mem_cons.1 agree
          exact .cons (agreeHere _ isHere _ otherHere) (ih otherRest agreeRest)

/-! ## Conditions and selections on tables with one header -/

theorem Condition.refuses_iff_of_scalar_eq {condition : Condition} {row other : Row}
    (sameScalar : row.scalar condition.column = other.scalar condition.column) :
    condition.Refuses row ↔ condition.Refuses other := by
  rw [Condition.Refuses, Condition.Refuses, sameScalar]

theorem Table.SameHeader.refusesSelection {table other : Table} (same : table.SameHeader other)
    {selection : Selection} {error : QueryError}
    (refuses : table.RefusesSelection selection error) :
    other.RefusesSelection selection error := by
  have sameRefusal : table.RefusesItem = other.RefusesItem := by
    funext item
    rw [Table.RefusesItem, Table.RefusesItem, same.columns_eq]
  rcases refuses with undeclared | ⟨isFirst, isCall⟩ | ⟨isFirst, noCall⟩
  · rw [← same.name_eq]
    exact .count (same.columns_eq ▸ undeclared)
  · exact .call (sameRefusal ▸ isFirst) isCall
  · rw [← same.name_eq]
    exact .column (sameRefusal ▸ isFirst) noCall

theorem Row.satisfies_iff_of_sameScalars {query : Query} {row other : Row}
    (sameScalars : row.SameScalars query.classified other) :
    row.Satisfies query.condition ↔ other.Satisfies query.condition := by
  cases isCondition : query.condition with
  | none => exact Iff.rfl
  | some condition =>
      have sameScalar := sameScalars _ (Query.mem_classified_of_condition isCondition)
      rw [Row.scalar, Row.scalar] at sameScalar
      rw [Row.Satisfies, Row.Satisfies, sameScalar]

theorem Row.hasValue_eq_of_scalar_eq {row other : Row} {column : String}
    (sameScalar : row.scalar column = other.scalar column) :
    row.hasValue column = other.hasValue column := by
  have sameNull := congrArg Scalar.isNull sameScalar
  rwa [Row.isNull_scalar, Row.isNull_scalar, Bool.not_inj_iff] at sameNull

/-- A count is the same of rows with the same scalars. -/
theorem Table.shown_count_eq {table : Table} {query : Query} {target : CountTarget}
    (isCount : query.selection = .count target) {rows otherRows : List Row}
    (agree : List.Forall₂ (Row.SameScalars query.classified) rows otherRows) :
    table.shown rows query.selection = table.shown otherRows query.selection := by
  rw [isCount]
  cases target with
  | rows => rw [Table.shown, Table.shown, agree.length_eq]
  | column name =>
      have sameValue : ∀ row otherRow : Row, row.SameScalars query.classified otherRow →
          row.hasValue name = otherRow.hasValue name := fun _ _ sameScalars =>
        Row.hasValue_eq_of_scalar_eq (sameScalars name (Query.mem_classified_of_count isCount))
      rw [Table.shown, Table.shown, List.countP_eq_length_filter, List.countP_eq_length_filter,
        (filter_of_forall₂ sameValue agree).length_eq]

/-- What is shown of rows is the same of rows that store the same in the columns shown. -/
theorem Table.projection_eq {columns : List String} {rows otherRows : List Row}
    (agree : List.Forall₂ (Row.SameCells columns) rows otherRows) :
    Table.projection columns rows = Table.projection columns otherRows := by
  have sameValues : rows.map (Table.project columns) = otherRows.map (Table.project columns) := by
    rw [← List.forall₂_eq_eq_eq, List.forall₂_map_left_iff, List.forall₂_map_right_iff]
    refine agree.imp fun row otherRow sameCells => ?_
    exact List.map_congr_left fun column isIn => by rw [sameCells column isIn]
  rw [Table.projection, Table.projection, sameValues]

/-- What a selection other than a count shows is told by the cells in the columns shown. -/
theorem Table.shown_eq_of_sameCells {table : Table} {selection : Selection}
    (noCount : ∀ target, selection ≠ .count target) {rows otherRows : List Row}
    (agree : List.Forall₂ (Row.SameCells (table.shown rows selection).columns) rows otherRows) :
    table.shown rows selection = table.shown otherRows selection := by
  cases selection with
  | wildcard => exact Table.projection_eq agree
  | columns items => exact Table.projection_eq agree
  | count target => exact absurd rfl (noCount target)

section SameScalars

variable {table other : Table} {query : Query} (same : table.SameHeader other)
variable (agree : List.Forall₂ (Row.SameScalars query.classified) table.rows other.rows)
include agree

/-! ### The rows that are kept -/

theorem Table.exists_keptPlaces_of_sameScalars :
    ∃ places, table.KeptPlaces query.condition places ∧ other.KeptPlaces query.condition places ∧
      table.StandAt places (table.rows.filter fun row => row.Satisfies query.condition) ∧
      other.StandAt places (other.rows.filter fun row => row.Satisfies query.condition) := by
  let test : Row → Bool := fun row => row.Satisfies query.condition
  have samePlaces : table.rows.findIdxs test = other.rows.findIdxs test :=
    findIdxs_eq_of_forall₂
      (fun _ _ sameScalars => decide_eq_decide.2 (Row.satisfies_iff_of_sameScalars sameScalars))
      agree
  refine ⟨table.rows.findIdxs test, table.keptPlaces_findIdxs query.condition, ?_,
    forall₂_findIdxs_filter test table.rows, ?_⟩
  · exact samePlaces ▸ other.keptPlaces_findIdxs query.condition
  · exact samePlaces ▸ forall₂_findIdxs_filter test other.rows

theorem Table.forall₂_kept_of_sameScalars :
    List.Forall₂ (Row.SameScalars query.classified)
      (table.rows.filter fun row => row.Satisfies query.condition)
      (other.rows.filter fun row => row.Satisfies query.condition) :=
  filter_of_forall₂
    (fun _ _ sameScalars => decide_eq_decide.2 (Row.satisfies_iff_of_sameScalars sameScalars)) agree

/-! ### Errors -/

include same

theorem Table.answers_of_sameScalars (answers : table.Answers query.condition) :
    other.Answers query.condition := by
  cases isCondition : query.condition with
  | none => trivial
  | some condition =>
      rw [isCondition] at answers
      obtain ⟨declared, refusesNone⟩ := answers
      refine ⟨same.columns_eq ▸ declared, forall_mem_of_forall₂ (fun _ _ sameScalars => ?_) agree
        refusesNone⟩
      exact not_congr (Condition.refuses_iff_of_scalar_eq
        (sameScalars _ (Query.mem_classified_of_condition isCondition)))

theorem Table.refusesCondition_of_sameScalars {error : QueryError}
    (refuses : table.RefusesCondition query.condition error) :
    other.RefusesCondition query.condition error := by
  cases isCondition : query.condition with
  | none =>
      rw [isCondition] at refuses
      cases refuses
  | some condition =>
      have inClassified := Query.mem_classified_of_condition isCondition
      rw [isCondition] at refuses
      rcases refuses with undeclared | ⟨declared, isFirst⟩
      · rw [← same.name_eq]
        exact .column (same.columns_eq ▸ undeclared)
      · obtain ⟨otherRow, otherFirst, sameScalars⟩ := isFirst.exists_of_forall₂
          (fun _ _ sameScalars =>
            Condition.refuses_iff_of_scalar_eq (sameScalars _ inClassified)) agree
        rw [Condition.mismatch, sameScalars _ inClassified]
        exact .order (same.columns_eq ▸ declared) otherFirst

theorem Table.refusesQuery_of_sameScalars {error : QueryError}
    (refuses : table.RefusesQuery query error) : other.RefusesQuery query error := by
  cases refuses with
  | condition refuses => exact .condition (Table.refusesCondition_of_sameScalars same agree refuses)
  | selection answers refuses =>
      exact .selection (Table.answers_of_sameScalars same agree answers)
        (same.refusesSelection refuses)

theorem Table.answersAlike_of_answered (answers : table.Answers query.condition)
    (offers : table.Offers query.selection) : table.AnswersAlike other query := by
  obtain ⟨places, keeps, otherKeeps, stand, otherStand⟩ :=
    Table.exists_keptPlaces_of_sameScalars agree
  have otherOffers := same.offers_iff.2 offers
  have sameTable := same.shown_eq (other.rows.filter fun row => row.Satisfies query.condition)
    query.selection
  have sameCount : ∀ target, query.selection = .count target →
      table.shown (table.rows.filter fun row => row.Satisfies query.condition) query.selection =
        other.shown (other.rows.filter fun row => row.Satisfies query.condition)
          query.selection := by
    intro target isCount
    rw [sameTable, Table.shown_count_eq isCount (Table.forall₂_kept_of_sameScalars agree)]
  refine .answered places _ _ (Table.evaluate_of_answers answers offers)
    (Table.evaluate_of_answers (Table.answers_of_sameScalars same agree answers) otherOffers)
    keeps otherKeeps (Table.isAnswer_of_select stand (Table.select_of_offers offers _))
    (Table.isAnswer_of_select otherStand (Table.select_of_offers otherOffers _)) sameCount ?_
  intro sameCells
  by_cases isCount : ∃ target, query.selection = .count target
  · obtain ⟨target, isCount⟩ := isCount
    exact sameCount target isCount
  · rw [sameTable]
    exact Table.shown_eq_of_sameCells (not_exists.1 isCount) (stand.forall₂ otherStand sameCells)

end SameScalars

/-- **Tables whose classified cells agree row by row answer a query alike.**  It is enough
that the cells in the column of the condition and in the counted column stand for the
same: absent or blank, with other blanks around them or another numeral of a number. -/
theorem Table.answersAlike_of_sameScalars {table other : Table} (same : table.SameHeader other)
    (query : Query) :
    (List.Forall₂ (Row.SameScalars query.classified) table.rows other.rows →
        table.AnswersAlike other query) ∧
      (List.Forall₂ (fun row otherRow => ∀ column ∈ query.classified,
          Respelled (row.get? column) (otherRow.get? column)) table.rows other.rows →
        table.AnswersAlike other query) := by
  have alike : List.Forall₂ (Row.SameScalars query.classified) table.rows other.rows →
      table.AnswersAlike other query := by
    intro agree
    rcases table.answered_or_refused query with ⟨answers, offers⟩ | ⟨error, refuses⟩
    · exact Table.answersAlike_of_answered same agree answers offers
    · exact .failed error (Table.evaluate_of_refusesQuery refuses)
        (Table.evaluate_of_refusesQuery (Table.refusesQuery_of_sameScalars same agree refuses))
  refine ⟨alike, fun respelled => alike (respelled.imp fun row otherRow sameCells => ?_)⟩
  exact fun column isIn => (sameCells column isIn).classify_eq

/-- Cells of the counted column are spelled in other ways, and so are those of the
condition, whose refusal shows the classified text. -/
theorem Table.answersAlike_of_sameScalars_respelled :
    ∃ (table other : Table) (counted ordered : Query),
      table.rows.map (·.get? "k") = [some "7", some " x", none] ∧
        other.rows.map (·.get? "k") = [some "+007", some "x ", some "  "] ∧
        counted.classified = ["k", "n"] ∧ table.AnswersAlike other counted ∧
        table.evaluate counted = .ok { columns := ["count"], rows := [[.integer 1]] } ∧
        ordered.selection = .wildcard ∧ table.AnswersAlike other ordered ∧
        other.evaluate ordered =
          .error (.typeMismatch { left := .text "x", operator := .lt, right := .integer 5 }) := by
  let table : Table :=
    { name := "t"
      columns := ["k", "n"]
      rows := [⟨[("k", "7"), ("n", " ")]⟩, ⟨[("k", " x"), ("n", "3")]⟩, ⟨[("n", "+4")]⟩]
      columns_nodup := by decide
      rows_declared := by decide }
  let other : Table :=
    { name := "t"
      columns := ["k", "n"]
      rows := [⟨[("k", "+007")]⟩, ⟨[("k", "x "), ("n", "3")]⟩, ⟨[("k", "  "), ("n", "04\t")]⟩]
      columns_nodup := by decide
      rows_declared := by decide }
  let counted : Query :=
    { selection := .count (.column "n")
      source := "t"
      condition := some { column := "k", operator := .ne, value := .text "x" } }
  let ordered : Query :=
    { selection := .wildcard
      source := "t"
      condition := some { column := "k", operator := .lt, value := .integer 5 } }
  have same : table.SameHeader other := ⟨rfl, rfl⟩
  have numeral : ∀ (cell : String) (n : Int), readWhole? (trim cell.toList) = some n →
      Numeral (trim cell.toList) n := fun _ _ => readWhole?_eq_some_iff.1
  have respelled : List.Forall₂ (fun row otherRow => ∀ column ∈ counted.classified,
      Respelled (row.get? column) (otherRow.get? column)) table.rows other.rows := by
    refine .cons ?_ (.cons ?_ (.cons ?_ .nil))
    · refine List.forall_mem_cons.2 ⟨?_, List.forall_mem_singleton.2 ?_⟩
      · exact .numeral (numeral "7" 7 (by decide)) (numeral "+007" 7 (by decide))
      · exact .noValue (by rintro text ⟨⟩; exact trim_eq_nil_iff.1 (by decide)) (by rintro text ⟨⟩)
    · refine List.forall_mem_cons.2 ⟨?_, List.forall_mem_singleton.2 ?_⟩
      · exact .spaced (by decide)
      · exact .spaced rfl
    · refine List.forall_mem_cons.2 ⟨?_, List.forall_mem_singleton.2 ?_⟩
      · exact .noValue (by rintro text ⟨⟩) (by rintro text ⟨⟩; exact trim_eq_nil_iff.1 (by decide))
      · exact .numeral (numeral "+4" 4 (by decide)) (numeral "04\t" 4 (by decide))
  have agree : List.Forall₂ (Row.SameScalars ordered.classified) table.rows other.rows := by
    refine .cons ?_ (.cons ?_ (.cons ?_ .nil))
    all_goals
      refine List.forall_mem_singleton.2 ?_
      decide +kernel
  exact ⟨table, other, counted, ordered, by decide, by decide, rfl,
    (Table.answersAlike_of_sameScalars same counted).2 respelled, by decide +kernel, rfl,
    (Table.answersAlike_of_sameScalars same ordered).1 agree, by decide +kernel⟩

end CsvQuery
