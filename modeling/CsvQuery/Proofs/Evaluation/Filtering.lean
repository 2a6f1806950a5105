import CsvQuery.Evaluation
import Mathlib.Data.List.Forall2

/-!
# The rows a condition keeps

Filtering stops at the first row for which the condition has no answer.  When it
does not stop, the condition has an answer for every row, and the rows that are
left are the ones whose classified cell satisfies it, in their order
(`Condition.filter_eq_ok_iff`).

Rows of a table may be equal, so the kept rows are also told by their places: the
increasing list of the places at which a kept row stands (`Table.KeptPlaces`).
-/

set_option autoImplicit false

namespace CsvQuery

/-- A row is kept if there is no condition or the row's classified cell satisfies
it. -/
def Row.Satisfies (row : Row) : Option Condition → Prop
  | none => True
  | some condition =>
      holds (Scalar.classify (row.get? condition.column)) condition.operator condition.value =
        .ok true

instance (row : Row) : (condition : Option Condition) → Decidable (row.Satisfies condition)
  | none => .isTrue trivial
  | some _ => inferInstanceAs (Decidable (_ = _))

/-! ## Filtering -/

theorem Condition.satisfies_of_check {condition : Condition} {row : Row} {answer : Bool}
    (checked : condition.check row = .ok answer) :
    row.Satisfies (some condition) ↔ answer = true := by
  have unfolded : row.Satisfies (some condition) ↔ condition.check row = .ok true := Iff.rfl
  rw [unfolded, checked, Except.ok.injEq]

theorem Condition.filter_cons_eq_ok_iff {condition : Condition} {row : Row} {rest kept : List Row} :
    condition.filter (row :: rest) = .ok kept ↔
      ∃ answer others, condition.check row = .ok answer ∧ condition.filter rest = .ok others ∧
        kept = if answer then row :: others else others := by
  rw [Condition.filter]
  cases condition.check row with
  | error mismatch => simp
  | ok answer =>
      cases condition.filter rest with
      | error mismatch => simp [Except.map]
      | ok others => simp [Except.map, eq_comm]

/-- **A filter that answers has an answer for every row and keeps the rows that
satisfy the condition.** -/
theorem Condition.filter_eq_ok_iff {condition : Condition} {rows kept : List Row} :
    condition.filter rows = .ok kept ↔
      (∀ row ∈ rows, ∃ answer, condition.check row = .ok answer) ∧
        kept = rows.filter fun row => row.Satisfies (some condition) := by
  induction rows generalizing kept with
  | nil => simp [Condition.filter, eq_comm]
  | cons row rest ih =>
      rw [Condition.filter_cons_eq_ok_iff, List.forall_mem_cons]
      constructor
      · rintro ⟨answer, others, checked, filtered, rfl⟩
        obtain ⟨all, rfl⟩ := ih.1 filtered
        refine ⟨⟨⟨answer, checked⟩, all⟩, ?_⟩
        simp [List.filter_cons, Condition.satisfies_of_check checked]
      · rintro ⟨⟨⟨answer, checked⟩, all⟩, rfl⟩
        refine ⟨answer, _, checked, ih.2 ⟨all, rfl⟩, ?_⟩
        simp [List.filter_cons, Condition.satisfies_of_check checked]

/-- Rows that are chosen are the ones that satisfy the condition. -/
theorem Table.chosenRows_eq_ok {table : Table} {condition : Option Condition}
    {chosen : List Row} (isChosen : table.chosenRows condition = .ok chosen) :
    chosen = table.rows.filter fun row => row.Satisfies condition := by
  cases condition with
  | none =>
      cases isChosen
      exact (List.filter_eq_self.2 fun row _ => decide_eq_true trivial).symm
  | some condition =>
      rw [Table.chosenRows] at isChosen
      split at isChosen
      · cases filtered : condition.filter table.rows with
        | error mismatch =>
            rw [filtered] at isChosen
            cases isChosen
        | ok kept =>
            rw [filtered] at isChosen
            cases isChosen
            exact (Condition.filter_eq_ok_iff.1 filtered).2
      · cases isChosen

/-- On a column of the table, a condition with an answer for every row chooses the
rows that satisfy it. -/
theorem Table.chosenRows_of_check {table : Table} {condition : Condition}
    (isColumn : condition.column ∈ table.columns)
    (answers : ∀ row ∈ table.rows, ∃ answer, condition.check row = .ok answer) :
    table.chosenRows (some condition) =
      .ok (table.rows.filter fun row => row.Satisfies (some condition)) := by
  have has : table.hasColumn condition.column = true := by simpa [Table.hasColumn] using isColumn
  rw [Table.chosenRows, if_pos has, Condition.filter_eq_ok_iff.2 ⟨answers, rfl⟩]
  rfl

/-! ## The places of the kept rows -/

/-- The places of the rows that a condition keeps, from top to bottom. -/
structure Table.KeptPlaces (table : Table) (condition : Option Condition) (places : List Nat) :
    Prop where
  increasing : places.Pairwise (· < ·)
  mem_iff : ∀ place, place ∈ places ↔
    ∃ row, table.rows[place]? = some row ∧ row.Satisfies condition

theorem Table.keptPlaces_findIdxs (table : Table) (condition : Option Condition) :
    table.KeptPlaces condition (table.rows.findIdxs fun row => row.Satisfies condition) where
  increasing := List.pairwise_findIdxs
  mem_iff := by
    intro place
    simp [List.getElem?_eq_some_iff]

/-- The elements of a list that pass a test stand at the places where it is passed. -/
theorem forall₂_findIdxs_filter {α : Type} (test : α → Bool) (list : List α) :
    List.Forall₂ (fun place element => list[place]? = some element) (list.findIdxs test)
      (list.filter test) := by
  have sameLength : (list.findIdxs test).length = (list.filter test).length := by
    rw [List.length_findIdxs, List.countP_eq_length_filter]
  refine List.forall₂_iff_get.2 ⟨sameLength, ?_⟩
  intro index _ inFilter
  simp only [List.get_eq_getElem]
  rw [List.getElem_filter_eq_getElem_getElem_findIdxs inFilter, List.getElem?_eq_getElem]

end CsvQuery
