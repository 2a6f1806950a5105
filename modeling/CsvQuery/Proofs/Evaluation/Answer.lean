import CsvQuery.Proofs.Evaluation.Filtering
import CsvQuery.Proofs.Scalar.Classification
import CsvQuery.Proofs.Table.Forming
import CsvQuery.Proofs.Text.Trimming

/-!
# Answers select and project

A query sees a table twice.  Its condition sees classified cells and decides which
rows are kept; what is shown of the kept rows is the stored text itself.  So an
answer is described by the places of the kept rows: a count counts them, and any
other selection shows, place by place, the cells in the columns of the result
(`Table.isAnswer_of_evaluate`).  Under a wildcard the result shows every column, and
then nothing that a kept row stores is lost (`ResultSet.DeterminesCells`).
-/

set_option autoImplicit false

namespace CsvQuery

open CsvQuery.Text

/-! ## What an answer shows -/

/-- A value shows a cell: a text is the stored text, and there is no value exactly
where there is no cell. -/
structure Scalar.Shows (value : Scalar) (cell : Option String) : Prop where
  text_iff : ∀ stored, value = .text stored ↔ cell = some stored
  null_iff : value = .null ↔ cell = none

/-- A result has the given columns, and for every place one row that shows the cells
of the row there. -/
structure ResultSet.ShowsRows (result : ResultSet) (table : Table) (columns : List String)
    (places : List Nat) : Prop where
  columns_eq : result.columns = columns
  rows : List.Forall₂
    (fun place values => ∃ row, table.rows[place]? = some row ∧
      List.Forall₂ (fun column value => Scalar.Shows value (row.get? column)) columns values)
    places result.rows

/-- The cells of the rows at some places can be read off a result: they are the texts
under the names of its columns. -/
def ResultSet.DeterminesCells (result : ResultSet) (table : Table) (places : List Nat) : Prop :=
  List.Forall₂
    (fun place values => ∃ row, table.rows[place]? = some row ∧
      ∀ column stored, row.get? column = some stored ↔
        (column, Scalar.text stored) ∈ result.columns.zip values)
    places result.rows

/-- A result whose only value is a count.  A count that 64 bits hold is shown as it
is. -/
def ResultSet.IsCount (result : ResultSet) (count : Nat) : Prop :=
  ∃ number : Int64, result = { columns := ["count"], rows := [[.integer number]] } ∧
    number = Int64.ofNat count ∧ (Scalar.FitsInt64 count → number.toInt = count)

/-- Whether a row has a cell in a column with more than blanks in it. -/
def Row.hasValue (row : Row) (column : String) : Bool :=
  (row.get? column).any fun cell => cell.toList.any fun c => !isBlank c

/-- How many of the rows at some places a count counts. -/
def Table.countAt (table : Table) (places : List Nat) : CountTarget → Nat
  | .rows => places.length
  | .column name => places.countP fun place => table.rows[place]?.any (·.hasValue name)

/-- A result answers a selection on the rows at some places. -/
def Table.IsAnswer (table : Table) (places : List Nat) (result : ResultSet) : Selection → Prop
  | .count target => result.IsCount (table.countAt places target)
  | .wildcard => result.ShowsRows table table.columns places ∧ result.DeterminesCells table places
  | .columns items => result.ShowsRows table items places

/-! ## Cells with a value -/

/-- **A cell is classified as no value exactly when it has nothing but blanks.** -/
theorem Row.isNull_scalar (row : Row) (column : String) :
    (row.scalar column).isNull = !row.hasValue column := by
  rw [Row.scalar, Row.hasValue]
  cases row.get? column with
  | none => rfl
  | some cell =>
      rw [Scalar.classify, Option.any_some]
      by_cases blank : trim cell.toList = []
      · have allBlank : (cell.toList.any fun c => !isBlank c) = false := by
          rw [List.any_eq_false]
          intro c isIn
          simp [trim_eq_nil_iff.1 blank c isIn]
        simp [blank, allBlank, Scalar.isNull]
      · have someValue : (cell.toList.any fun c => !isBlank c) = true := by
          rw [trim_eq_nil_iff, Blanks] at blank
          push Not at blank
          obtain ⟨c, isIn, notBlank⟩ := blank
          exact List.any_eq_true.2 ⟨c, isIn, by simpa using notBlank⟩
        simp [blank, someValue, Scalar.isNull_ofText]

/-! ## Kept rows -/

/-- The rows of a table at some places. -/
def Table.StandAt (table : Table) (places : List Nat) (rows : List Row) : Prop :=
  List.Forall₂ (fun place row => table.rows[place]? = some row) places rows

theorem ResultSet.isCount_countResult (count : Nat) : (Table.countResult count).IsCount count := by
  refine ⟨_, rfl, rfl, ?_⟩
  intro fits
  apply Int64.toInt_ofNat_of_lt
  have largest : Int64.maxValue.toInt = 2 ^ 63 - 1 := by decide
  have bounded := fits.2
  omega

theorem Table.mem_zip_project_iff {columns : List String} {row : Row} {column stored : String} :
    (column, Scalar.text stored) ∈ columns.zip (Table.project columns row) ↔
      column ∈ columns ∧ row.get? column = some stored := by
  have paired : ∀ value : String → Scalar,
      columns.zip (columns.map value) = columns.map fun name => (name, value name) := by
    intro value
    simpa using List.zip_map' (f := id) (g := value) (l := columns)
  rw [Table.project, paired, List.mem_map]
  constructor
  · rintro ⟨name, isIn, same⟩
    obtain ⟨rfl, sameValue⟩ := Prod.mk.inj same
    refine ⟨isIn, ?_⟩
    cases found : row.get? name with
    | none => simp [found] at sameValue
    | some cell => simpa [found] using sameValue
  · rintro ⟨isIn, found⟩
    exact ⟨column, isIn, by simp [found]⟩

section Standing

variable {table : Table} {places : List Nat} {rows : List Row}
variable (stand : table.StandAt places rows)
include stand

/-! ### Counts -/

theorem Table.countOf_eq_ok {target : CountTarget} {count : Nat}
    (counted : table.countOf rows target = .ok count) : count = table.countAt places target := by
  cases target with
  | rows =>
      cases counted
      exact stand.length_eq.symm
  | column name =>
      rw [Table.countOf] at counted
      split at counted
      · cases counted
        have sameValue : ∀ (place : Nat) (row : Row), table.rows[place]? = some row →
            (table.rows[place]?.any (·.hasValue name) = true ↔
              (!(row.scalar name).isNull) = true) := by
          intro place row isHere
          rw [isHere, Option.any_some, Row.isNull_scalar, Bool.not_not]
        rw [Table.countAt, List.countP_eq_length_filter]
        exact (List.rel_filter sameValue stand).length_eq.symm
      · cases counted

/-! ### Projections -/

theorem ResultSet.showsRows_projection (columns : List String) :
    (Table.projection columns rows).ShowsRows table columns places where
  columns_eq := rfl
  rows := by
    rw [Table.projection, List.forall₂_map_right_iff]
    refine stand.imp fun place row isHere => ⟨row, isHere, ?_⟩
    rw [Table.project, List.forall₂_map_right_iff, List.forall₂_same]
    intro column _
    cases row.get? column <;> constructor <;> simp

theorem ResultSet.determinesCells_projection :
    (Table.projection table.columns rows).DeterminesCells table places := by
  rw [DeterminesCells, Table.projection, List.forall₂_map_right_iff]
  refine stand.imp fun place row isHere => ⟨row, isHere, fun column stored => ?_⟩
  rw [Table.mem_zip_project_iff]
  constructor
  · intro found
    have inRow := Row.isSome_get?_iff.1 (Option.isSome_of_mem found)
    exact ⟨table.rows_declared row (List.mem_of_getElem? isHere) column inRow, found⟩
  · exact And.right

/-! ### Selections -/

theorem Table.isAnswer_of_select {selection : Selection} {result : ResultSet}
    (answered : table.select rows selection = .ok result) :
    table.IsAnswer places result selection := by
  cases selection with
  | wildcard =>
      cases answered
      exact ⟨ResultSet.showsRows_projection stand _, ResultSet.determinesCells_projection stand⟩
  | columns items =>
      rw [Table.select] at answered
      split at answered
      · cases answered
      · cases answered
        exact ResultSet.showsRows_projection stand items
  | count target =>
      rw [Table.select] at answered
      cases counted : table.countOf rows target with
      | error error =>
          rw [counted] at answered
          cases answered
      | ok count =>
          rw [counted] at answered
          cases answered
          rw [Table.IsAnswer, ← Table.countOf_eq_ok stand counted]
          exact ResultSet.isCount_countResult count

end Standing

/-- **An answer selects the rows that satisfy the condition and shows or counts what
they store.** -/
theorem Table.isAnswer_of_evaluate {table : Table} {query : Query} {result : ResultSet}
    (answered : table.evaluate query = .ok result) :
    ∃ places, table.KeptPlaces query.condition places ∧
      table.IsAnswer places result query.selection := by
  refine ⟨_, table.keptPlaces_findIdxs query.condition, ?_⟩
  rw [Table.evaluate] at answered
  cases isChosen : table.chosenRows query.condition with
  | error error =>
      rw [isChosen] at answered
      cases answered
  | ok rows =>
      rw [isChosen] at answered
      have stand : table.StandAt _ rows :=
        Table.chosenRows_eq_ok isChosen ▸ forall₂_findIdxs_filter _ table.rows
      exact Table.isAnswer_of_select stand answered

theorem Table.isAnswer_of_evaluate_wildcard_ne :
    ∃ (table : Table) (query : Query) (result : ResultSet),
      query.selection = .wildcard ∧
        query.condition = some { column := "age", operator := .ne, value := .integer 30 } ∧
        result.rows = [[.text "Bo", .text ""], [.text "Cy", .null], [.text "Di", .text " 22.5 "]] ∧
        table.evaluate query = .ok result ∧
        ∃ places, table.KeptPlaces query.condition places ∧
          table.IsAnswer places result query.selection := by
  let table : Table :=
    { name := "t"
      columns := ["name", "age"]
      rows := [⟨[("name", "Al"), ("age", "30")]⟩, ⟨[("name", "Bo"), ("age", "")]⟩,
        ⟨[("name", "Cy")]⟩, ⟨[("name", "Di"), ("age", " 22.5 ")]⟩]
      columns_nodup := by decide
      rows_declared := by decide }
  let query : Query :=
    { selection := .wildcard
      source := "t"
      condition := some { column := "age", operator := .ne, value := .integer 30 } }
  let result : ResultSet :=
    { columns := ["name", "age"]
      rows := [[.text "Bo", .text ""], [.text "Cy", .null], [.text "Di", .text " 22.5 "]] }
  have answered : table.evaluate query = .ok result := by decide +kernel
  exact ⟨table, query, result, rfl, rfl, rfl, answered, Table.isAnswer_of_evaluate answered⟩

end CsvQuery
