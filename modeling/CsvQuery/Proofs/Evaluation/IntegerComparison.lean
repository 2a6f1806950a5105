import CsvQuery.Proofs.Comparison.Coherence
import CsvQuery.Proofs.Evaluation.TypedComparison
import CsvQuery.Proofs.Scalar.WholeNumber

/-!
# Comparing whole numbers

In a column of whole numbers a typed comparison with a whole number is exact: a numeral
is read as the integer it stands for, in a cell as in the statement, and two integers are
compared as they are.  So the statement shows the rows whose number stands in the
relation to the given one, at the ends of the range and between neighbours that no
binary64 number tells apart as well.  A row without a number is kept by `!=` only
(`Catalog.execute_integer_comparison`).
-/

set_option autoImplicit false

namespace CsvQuery

open CsvQuery.Text

namespace Operator

/-- The relation of whole numbers that an operator stands for. -/
def Relates : Operator → Int → Int → Prop
  | .eq, a, b => a = b
  | .ne, a, b => a ≠ b
  | .gt, a, b => a > b
  | .lt, a, b => a < b
  | .ge, a, b => a ≥ b
  | .le, a, b => a ≤ b

instance (a b : Int) : (operator : Operator) → Decidable (operator.Relates a b)
  | .eq => inferInstanceAs (Decidable (a = b))
  | .ne => inferInstanceAs (Decidable (a ≠ b))
  | .gt => inferInstanceAs (Decidable (a > b))
  | .lt => inferInstanceAs (Decidable (a < b))
  | .ge => inferInstanceAs (Decidable (a ≥ b))
  | .le => inferInstanceAs (Decidable (a ≤ b))

/-- Whether an operator keeps a row for its number, if it has one. -/
def Keeps (operator : Operator) (n : Int) : Option Int → Prop
  | some m => operator.Relates m n
  | none => operator = .ne

instance (operator : Operator) (n : Int) : (value : Option Int) → Decidable (operator.Keeps n value)
  | some m => inferInstanceAs (Decidable (operator.Relates m n))
  | none => inferInstanceAs (Decidable (operator = .ne))

theorem accepts_compare_iff (operator : Operator) (a b : Int) :
    operator.accepts (compare a b) = true ↔ operator.Relates a b := by
  cases operator <;> simp [accepts, Relates, Int.compare_eq_lt, Int.compare_eq_gt]

end Operator

/-- **Two integers are compared as the whole numbers they are.** -/
theorem holds_integer (a b : Int64) (operator : Operator) :
    holds (.integer a) operator (.integer b) = .ok (decide (operator.Relates a.toInt b.toInt)) := by
  have stands : standing (.integer a) (.integer b) = .ordered (compare a.toInt b.toInt) := rfl
  rw [holds_ordered stands, Except.ok.injEq, Bool.eq_iff_iff, decide_eq_true_iff,
    Operator.accepts_compare_iff]

theorem holds_null_integer (b : Int64) (operator : Operator) :
    holds .null operator (.integer b) = .ok (decide (operator = .ne)) := by
  have stands : standing .null (.integer b) = .unequal := rfl
  rw [onlySatisfied_ne stands operator]
  cases operator <;> rfl

theorem WholeCell.holds_classify {cell : Option String} {value : Option Int}
    (isWhole : WholeCell cell value) {n : Int} (fits : Scalar.FitsInt64 n) (operator : Operator) :
    holds (Scalar.classify cell) operator (.integer (Int64.ofInt n)) =
      .ok (decide (operator.Keeps n value)) := by
  rw [isWhole.classify]
  cases isWhole with
  | absent => exact holds_null_integer _ operator
  | blank => exact holds_null_integer _ operator
  | numeral _ cellFits =>
      rw [Option.elim_some, holds_integer, toInt_ofInt_of_fits cellFits, toInt_ofInt_of_fits fits]
      rfl

/-- **A comparison with a whole number is exact in a column of whole numbers.** -/
theorem Catalog.execute_integer_comparison {catalog : Catalog} {name column : String}
    {table : Table} (found : catalog.find? name = some table) (isSource : IsSourceName name)
    (isColumn : column ∈ table.columns) (trimmed : trim column.toList = column.toList)
    (columnClear : ∀ c ∈ ['=', '<', '>'], c ∉ column.toList) {value : Row → Option Int}
    (whole : ∀ row ∈ table.rows, WholeCell (row.get? column) (value row)) (operator : Operator)
    {numeral : String} {n : Int} (isNumeral : Numeral numeral.toList n)
    (fits : Scalar.FitsInt64 n) :
    ∃ result,
      catalog.execute (Query.comparisonText name column (String.ofList operator.symbol) numeral) =
        .ok result ∧
      result.ShowsRows table table.columns
        (table.rows.findIdxs fun row => operator.Keeps n (value row)) := by
  have unterminated : withoutTerminator numeral.toList = numeral.toList :=
    withoutTerminator_eq_self isNumeral.startsClear isNumeral.endsFirmly.atEnd
  have isLiteral : parseLiteral (withoutTerminator (withoutTerminator numeral.toList)) =
      .integer (Int64.ofInt n) := by
    rw [unterminated, unterminated, parseLiteral_numeral isNumeral fits]
  have numeralClear : ∀ c ∈ ['=', '<', '>'], c ∉ numeral.toList := by
    intro c isMark
    simp only [List.mem_cons, List.not_mem_nil, or_false] at isMark
    rcases isMark with rfl | rfl | rfl
    all_goals exact isNumeral.not_mem (by decide) (by decide) (by decide)
  exact Catalog.execute_comparisonText found isSource isColumn trimmed columnClear numeralClear
    isLiteral fun row isRow => (whole row isRow).holds_classify fits operator

theorem Catalog.execute_integer_comparison_neighbours :
    ∃ (catalog : Catalog) (table : Table) (value : Row → Option Int),
      catalog.find? "t" = some table ∧ IsSourceName "t" ∧ "n" ∈ table.columns ∧
        trim "n".toList = "n".toList ∧ (∀ c ∈ ['=', '<', '>'], c ∉ "n".toList) ∧
        table.rows.map (·.get? "n") = [some "9223372036854775807", some " +0042 ", some "  ",
          some "9007199254740993", none, some "-9223372036854775808", some "9007199254740992"] ∧
        (∀ row ∈ table.rows, WholeCell (row.get? "n") (value row)) ∧
        Numeral "9007199254740992".toList 9007199254740992 ∧
        Scalar.FitsInt64 9007199254740992 ∧
        ∃ result,
          catalog.execute (Query.comparisonText "t" "n" (String.ofList Operator.gt.symbol)
            "9007199254740992") = .ok result ∧
          result.ShowsRows table ["n"] [0, 3] := by
  let table : Table :=
    { name := "t"
      columns := ["n"]
      rows := [⟨[("n", "9223372036854775807")]⟩, ⟨[("n", " +0042 ")]⟩, ⟨[("n", "  ")]⟩,
        ⟨[("n", "9007199254740993")]⟩, ⟨[]⟩, ⟨[("n", "-9223372036854775808")]⟩,
        ⟨[("n", "9007199254740992")]⟩]
      columns_nodup := by decide
      rows_declared := by decide }
  let value : Row → Option Int := fun row =>
    (row.get? "n").bind fun cell => readWhole? (trim cell.toList)
  have found : (Catalog.empty.insert table).find? "t" = some table := rfl
  have isNumeral : ∀ {text : List Char} {n : Int}, readWhole? text = some n → Numeral text n :=
    readWhole?_eq_some_iff.1
  have whole : ∀ row ∈ table.rows, WholeCell (row.get? "n") (value row) := by
    simp only [table, List.forall_mem_cons, List.not_mem_nil, false_implies, implies_true, and_true]
    refine ⟨.numeral (isNumeral (by decide +kernel)) (by decide),
      .numeral (isNumeral (by decide +kernel)) (by decide), .blank (by unfold Blanks; decide),
      .numeral (isNumeral (by decide +kernel)) (by decide), .absent,
      .numeral (isNumeral (by decide +kernel)) (by decide),
      .numeral (isNumeral (by decide +kernel)) (by decide)⟩
  have literal : Numeral "9007199254740992".toList 9007199254740992 :=
    isNumeral (by decide +kernel)
  refine ⟨_, table, value, found, by decide, by decide, by decide, by decide, by decide, whole,
    literal, by decide, ?_⟩
  exact Catalog.execute_integer_comparison found (by decide) (by decide) (by decide) (by decide)
    whole .gt literal (by decide)

end CsvQuery
