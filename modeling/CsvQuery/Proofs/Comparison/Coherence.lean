import CsvQuery.Comparison
import CsvQuery.Proofs.Evaluation.Filtering

/-!
# The six operators agree

Every operator is answered from the standing of the two values, so the operators
cannot contradict each other.  A standing is one of four: both values are missing,
they differ without an order, they are ordered, or they are a text and a number.
Only for the last one do the ordering operators have no answer, and there `=` has
the answer no.

Which standing two values have is found on the left value as it is compared, that
is, read as a number where the right value is one.  A missing value and a value
that is not a number leave nothing but difference (`standingOf_of_isNull_ne`,
`standingOf_nan_left`, `standingOf_nan_right`), and all other values that have an
order at all are ordered (`exists_standingOf_eq_ordered`).
-/

set_option autoImplicit false

namespace CsvQuery

/-! ## What agreement means -/

/-- Every ordering operator has an answer. -/
def OrderAnswered (left right : Scalar) : Prop :=
  ∀ operator : Operator, operator.isOrdering = true →
    ∃ answer, holds left operator right = .ok answer

/-- Every ordering operator is refused with an error that names it and both
values. -/
def OrderRefused (left right : Scalar) : Prop :=
  ∀ operator : Operator, operator.isOrdering = true →
    holds left operator right = .error { left, operator, right }

/-- One operator is satisfied and the other five are not. -/
def OnlySatisfied (left right : Scalar) (only : Operator) : Prop :=
  ∀ operator : Operator, holds left operator right = .ok (operator == only)

/-- One of the two values that are compared is not a number. -/
def ComparesNan (left right : Scalar) : Prop :=
  coerce left right = .float .nan ∨ right = .float .nan

/-- Exactly one of `<`, `=` and `>` holds, and `<=` and `>=` add equality to `<`
and `>`. -/
def Trichotomous (left right : Scalar) : Prop :=
  ∃ less equal greater : Bool,
    holds left .lt right = .ok less ∧ holds left .eq right = .ok equal ∧
      holds left .gt right = .ok greater ∧ [less, equal, greater].count true = 1 ∧
      holds left .le right = .ok (less || equal) ∧ holds left .ge right = .ok (greater || equal)

/-- The six operators agree about two values. -/
structure Coherent (left right : Scalar) : Prop where
  negation : ∃ equal, holds left .eq right = .ok equal ∧ holds left .ne right = .ok !equal
  order : OrderAnswered left right ∨ OrderRefused left right ∧ holds left .eq right = .ok false
  bothNull : left.isNull = true → right.isNull = true → OnlySatisfied left right .eq
  unequal : OrderAnswered left right → left.isNull ≠ right.isNull ∨ ComparesNan left right →
    OnlySatisfied left right .ne
  ordered : OrderAnswered left right → left.isNull = false → right.isNull = false →
    ¬ ComparesNan left right → Trichotomous left right

/-! ## Standings -/

theorem isNull_coerce (left right : Scalar) : (coerce left right).isNull = left.isNull := by
  unfold coerce
  split
  · rfl
  · split
    · split
      next number isRead =>
        cases left with
        | null => cases isRead
        | integer => rfl
        | float => rfl
        | text => rfl
      next => rfl
    · rfl

theorem standingOf_of_isNull_ne {left right : Scalar} (oneNull : left.isNull ≠ right.isNull) :
    standingOf left right = .unequal := by
  cases left <;> cases right <;> first | rfl | exact absurd rfl oneNull

theorem standingOf_nan_left (right : Scalar) :
    standingOf (.float .nan) right = .unequal ∨ standingOf (.float .nan) right = .mixed := by
  cases right with
  | null => exact .inl rfl
  | integer value => exact .inl rfl
  | float value => exact .inl rfl
  | text content => exact .inr rfl

theorem standingOf_nan_right (left : Scalar) :
    standingOf left (.float .nan) = .unequal ∨ standingOf left (.float .nan) = .mixed := by
  cases left with
  | null => exact .inl rfl
  | integer value => exact .inl rfl
  | float value => cases value <;> exact .inl rfl
  | text content => exact .inr rfl

/-- **Values are ordered if none is missing, both are numbers where they are
numeric, and they are not a text and a number.** -/
theorem exists_standingOf_eq_ordered {left right : Scalar} (leftNull : left.isNull = false)
    (rightNull : right.isNull = false) (leftNumber : left ≠ .float .nan)
    (rightNumber : right ≠ .float .nan) (comparable : standingOf left right ≠ .mixed) :
    ∃ ordering, standingOf left right = .ordered ordering := by
  cases left with
  | null => cases leftNull
  | integer a =>
      cases right with
      | null => cases rightNull
      | integer b => exact ⟨_, rfl⟩
      | float b =>
          cases b with
          | nan => exact absurd rfl rightNumber
          | signed => exact ⟨_, rfl⟩
      | text b => exact absurd rfl comparable
  | float a =>
      cases a with
      | nan => exact absurd rfl leftNumber
      | signed =>
          cases right with
          | null => cases rightNull
          | integer b => exact ⟨_, rfl⟩
          | float b =>
              cases b with
              | nan => exact absurd rfl rightNumber
              | signed => exact ⟨_, rfl⟩
          | text b => exact absurd rfl comparable
  | text a =>
      cases right with
      | null => cases rightNull
      | integer b => exact absurd rfl comparable
      | float b => exact absurd rfl comparable
      | text b => exact ⟨_, rfl⟩

/-! ## Answers -/

section Answers

variable {left right : Scalar}

theorem onlySatisfied_eq (stands : standing left right = .bothNull) :
    OnlySatisfied left right .eq := by
  intro operator
  rw [holds, stands]
  rfl

theorem onlySatisfied_ne (stands : standing left right = .unequal) :
    OnlySatisfied left right .ne := by
  intro operator
  rw [holds, stands]
  rfl

theorem holds_ordered {ordering : Ordering} (stands : standing left right = .ordered ordering)
    (operator : Operator) : holds left operator right = .ok (operator.accepts ordering) := by
  rw [holds, stands]
  rfl

theorem orderRefused (stands : standing left right = .mixed) : OrderRefused left right := by
  intro operator isOrdering
  rw [holds, stands, Standing.answer?, if_pos isOrdering]

theorem standing_ne_mixed (answered : OrderAnswered left right) :
    standing left right ≠ .mixed := by
  intro stands
  obtain ⟨answer, isAnswer⟩ := answered .lt rfl
  rw [orderRefused stands .lt rfl] at isAnswer
  cases isAnswer

theorem trichotomous {ordering : Ordering} (stands : standing left right = .ordered ordering) :
    Trichotomous left right := by
  have answers := holds_ordered stands
  refine ⟨_, _, _, answers .lt, answers .eq, answers .gt, ?_⟩
  cases ordering <;> exact ⟨rfl, answers .le, answers .ge⟩

theorem holds_negation (left right : Scalar) :
    ∃ equal, holds left .eq right = .ok equal ∧ holds left .ne right = .ok !equal := by
  cases stands : standing left right with
  | bothNull => exact ⟨true, onlySatisfied_eq stands .eq, onlySatisfied_eq stands .ne⟩
  | unequal => exact ⟨false, onlySatisfied_ne stands .eq, onlySatisfied_ne stands .ne⟩
  | ordered ordering => exact ⟨_, holds_ordered stands .eq, holds_ordered stands .ne⟩
  | mixed =>
      refine ⟨false, ?_, ?_⟩ <;> rw [holds, stands] <;> rfl

theorem orderAnswered_or_refused (left right : Scalar) :
    OrderAnswered left right ∨ OrderRefused left right ∧ holds left .eq right = .ok false := by
  cases stands : standing left right with
  | bothNull => exact .inl fun operator _ => ⟨_, onlySatisfied_eq stands operator⟩
  | unequal => exact .inl fun operator _ => ⟨_, onlySatisfied_ne stands operator⟩
  | ordered ordering => exact .inl fun operator _ => ⟨_, holds_ordered stands operator⟩
  | mixed =>
      refine .inr ⟨orderRefused stands, ?_⟩
      rw [holds, stands]
      rfl

theorem coherent (left right : Scalar) : Coherent left right where
  negation := holds_negation left right
  order := orderAnswered_or_refused left right
  bothNull := by
    intro leftNull rightNull
    cases left <;> cases leftNull
    cases right <;> cases rightNull
    exact onlySatisfied_eq rfl
  unequal := by
    intro answered oneNullOrNan
    apply onlySatisfied_ne
    have comparable := standing_ne_mixed answered
    rw [standing] at comparable ⊢
    rcases oneNullOrNan with oneNull | leftNan | rfl
    · rw [← isNull_coerce left right] at oneNull
      exact standingOf_of_isNull_ne oneNull
    · rw [leftNan] at comparable ⊢
      exact (standingOf_nan_left right).resolve_right comparable
    · exact (standingOf_nan_right _).resolve_right comparable
  ordered := by
    intro answered leftNull rightNull noNan
    obtain ⟨leftNumber, rightNumber⟩ := not_or.1 noNan
    rw [← isNull_coerce left right] at leftNull
    obtain ⟨ordering, stands⟩ := exists_standingOf_eq_ordered leftNull rightNull leftNumber
      rightNumber (standing_ne_mixed answered)
    exact trichotomous stands

end Answers

/-! ## Equal and different rows -/

theorem Condition.check_negation (row : Row) (column : String) (value : Scalar) :
    ∃ equal, Condition.check { column, operator := .eq, value } row = .ok equal ∧
      Condition.check { column, operator := .ne, value } row = .ok !equal :=
  holds_negation (row.scalar column) value

theorem Row.satisfies_ne_iff (row : Row) (column : String) (value : Scalar) :
    row.Satisfies (some { column, operator := .ne, value }) ↔
      ¬ row.Satisfies (some { column, operator := .eq, value }) := by
  obtain ⟨equal, isEqual, isDifferent⟩ := Condition.check_negation row column value
  rw [Condition.satisfies_of_check isDifferent, Condition.satisfies_of_check isEqual]
  cases equal <;> simp

/-- **The six operators agree about any two values, and so `=` and `!=` divide the
rows of a table between them.** -/
theorem comparisons_coherent :
    (∀ left right, Coherent left right) ∧
      ∀ (table : Table) (column : String) (value : Scalar), column ∈ table.columns →
        ∃ equal : Row → Bool,
          table.chosenRows (some { column, operator := .eq, value }) =
              .ok (table.rows.filter equal) ∧
            table.chosenRows (some { column, operator := .ne, value }) =
              .ok (table.rows.filter fun row => !equal row) := by
  refine ⟨coherent, ?_⟩
  intro table column value isColumn
  refine ⟨fun row => row.Satisfies (some { column, operator := .eq, value }), ?_, ?_⟩
  · apply Table.chosenRows_of_check isColumn
    intro row _
    obtain ⟨equal, isEqual, -⟩ := Condition.check_negation row column value
    exact ⟨equal, isEqual⟩
  · have answers : ∀ row ∈ table.rows,
        ∃ answer, Condition.check { column, operator := .ne, value } row = .ok answer := by
      intro row _
      obtain ⟨equal, -, isDifferent⟩ := Condition.check_negation row column value
      exact ⟨!equal, isDifferent⟩
    rw [Table.chosenRows_of_check isColumn answers]
    congr 2
    funext row
    simp [Row.satisfies_ne_iff]

theorem comparisons_coherent_text_nan :
    OrderAnswered (.text " NaN ") (.integer 5) ∧ ComparesNan (.text " NaN ") (.integer 5) ∧
      OnlySatisfied (.text " NaN ") (.integer 5) .ne ∧
      ∃ table : Table, "n" ∈ table.columns ∧
        table.rows.map (·.get? "n") = [some "5.0", none, some "x", some " 5"] ∧
        ∃ equal : Row → Bool,
          table.chosenRows (some { column := "n", operator := .eq, value := .integer 5 }) =
              .ok (table.rows.filter equal) ∧
            table.chosenRows (some { column := "n", operator := .ne, value := .integer 5 }) =
              .ok (table.rows.filter fun row => !equal row) := by
  have answered : OrderAnswered (.text " NaN ") (.integer 5) := by
    intro operator _
    exact ⟨operator == .ne, rfl⟩
  have isNan : ComparesNan (.text " NaN ") (.integer 5) := .inl rfl
  let table : Table :=
    { name := "t"
      columns := ["n"]
      rows := [⟨[("n", "5.0")]⟩, ⟨[]⟩, ⟨[("n", "x")]⟩, ⟨[("n", " 5")]⟩]
      columns_nodup := by decide
      rows_declared := by decide }
  refine ⟨answered, isNan, ?_, table, by decide, by decide, ?_⟩
  · exact (comparisons_coherent.1 _ _).unequal answered (.inr isNan)
  · exact comparisons_coherent.2 table "n" (.integer 5) (by decide)

end CsvQuery
