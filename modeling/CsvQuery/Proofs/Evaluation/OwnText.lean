import CsvQuery.Proofs.Comparison.Coherence
import CsvQuery.Proofs.Evaluation.TypedComparison
import CsvQuery.Proofs.Scalar.Classification

/-!
# Finding a cell by its own text

The text of a cell, typed behind `=`, finds the cell.  The value of the condition and the
cell go through the same classification, whatever they turn out to be, so it is enough
that a value equals itself.  Only the value that is not a number does not, and no text is
classified as that: its name has no point in it, and a text without a point is read as a
whole number or not at all (`Scalar.ofText_ne_nan`).
-/

set_option autoImplicit false

namespace CsvQuery

open CsvQuery.Text

/-! ## Equality with itself -/

theorem Binary64.compare?_self {value : Binary64} (isNumber : value ≠ .nan) :
    value.compare? value = some .eq := by
  cases value with
  | nan => exact absurd rfl isNumber
  | signed negative rank => exact congrArg some (Int.compare_eq_eq.2 rfl)

theorem standing_self {value : Scalar} (isNumber : value ≠ .float .nan) :
    standing value value = .bothNull ∨ standing value value = .ordered .eq := by
  cases value with
  | null => exact .inl rfl
  | integer n => exact .inr (congrArg Standing.ordered (Int.compare_eq_eq.2 rfl))
  | text content => exact .inr (congrArg Standing.ordered Std.ReflCmp.compare_self)
  | float number =>
      have isOrdered : number.compare? number = some .eq :=
        Binary64.compare?_self fun isNan => isNumber (congrArg Scalar.float isNan)
      have asItIs : coerce (.float number) (.float number) = .float number := rfl
      refine .inr ?_
      simp only [standing, asItIs, standingOf, Scalar.toNumber?, isOrdered]

/-- **Every value equals itself, unless it is not a number.** -/
theorem holds_eq_self {value : Scalar} (isNumber : value ≠ .float .nan) :
    holds value .eq value = .ok true := by
  rcases standing_self isNumber with bothNull | ordered
  · exact onlySatisfied_eq bothNull .eq
  · exact holds_ordered ordered .eq

/-! ## A cell and its text -/

/-- **A cell is found by its own text.** -/
theorem Catalog.execute_own_text {catalog : Catalog} {name column : String} {table : Table}
    (found : catalog.find? name = some table) (isSource : IsSourceName name)
    (isColumn : column ∈ table.columns) (trimmed : trim column.toList = column.toList)
    (columnClear : ∀ c ∈ ['=', '<', '>'], c ∉ column.toList) {place : Nat} {row : Row}
    {cell : String} (isRow : table.rows[place]? = some row) (isCell : row.get? column = some cell)
    (someText : trim cell.toList ≠ [])
    (textClear : ∀ c ∈ ['=', '<', '>'], c ∉ trim cell.toList)
    (noSemicolon : (trim cell.toList).getLast? ≠ some ';')
    (unquoted : Unquoted (trim cell.toList)) :
    ∃ result places,
      catalog.execute
        (Query.comparisonText name column "=" (String.ofList (trim cell.toList))) = .ok result ∧
      result.ShowsRows table table.columns places ∧ places.Pairwise (· < ·) ∧ place ∈ places := by
  let text := trim cell.toList
  have unterminated : withoutTerminator text = text := by
    refine withoutTerminator_eq_self (startsClear_trim _) fun c isLast => ⟨endsClear_trim _ c isLast, ?_⟩
    rintro rfl
    exact noSemicolon isLast
  have isLiteral : parseLiteral (withoutTerminator (withoutTerminator
      (String.ofList text).toList)) = Scalar.ofText text := by
    rw [String.toList_ofList, unterminated, unterminated, parseLiteral_unquoted unquoted]
  let keeps : Row → Bool := fun other =>
    decide (holds (other.scalar column) .eq (Scalar.ofText text) = .ok true)
  have answers : ∀ other ∈ table.rows,
      holds (other.scalar column) .eq (Scalar.ofText text) = .ok (keeps other) := by
    intro other _
    obtain ⟨equal, isEqual, -⟩ := holds_negation (other.scalar column) (Scalar.ofText text)
    simp [keeps, isEqual]
  have kept : keeps row = true := by
    have sameScalar : row.scalar column = Scalar.ofText text := by
      rw [Row.scalar, isCell, Scalar.classify_of_trim_ne_nil someText]
    simp [keeps, sameScalar, holds_eq_self (Scalar.ofText_ne_nan text)]
  have clear : ∀ c ∈ ['=', '<', '>'], c ∉ (String.ofList text).toList := by
    rw [String.toList_ofList]
    exact textClear
  obtain ⟨result, answered, shows⟩ :=
    Catalog.execute_comparisonText found isSource isColumn trimmed columnClear clear isLiteral answers
  refine ⟨result, table.rows.findIdxs keeps, answered, shows, List.pairwise_findIdxs, ?_⟩
  obtain ⟨inTable, sameRow⟩ := List.getElem?_eq_some_iff.1 isRow
  rw [List.mem_findIdxs_iff_pos_getElem inTable, sameRow]
  exact kept

theorem Catalog.execute_own_text_oversized_number :
    ∃ (catalog : Catalog) (table : Table),
      catalog.find? "t" = some table ∧ IsSourceName "t" ∧ "n!" ∈ table.columns ∧
        trim "n!".toList = "n!".toList ∧ (∀ c ∈ ['=', '<', '>'], c ∉ "n!".toList) ∧
        table.rows[1]? = some ⟨[("n!", " +99999999999999999999\t")]⟩ ∧
        trim " +99999999999999999999\t".toList = "+99999999999999999999".toList ∧
        (∀ c ∈ ['=', '<', '>'], c ∉ "+99999999999999999999".toList) ∧
        "+99999999999999999999".toList.getLast? ≠ some ';' ∧
        Unquoted "+99999999999999999999".toList ∧
        ∃ result places,
          catalog.execute
            (Query.comparisonText "t" "n!" "=" (String.ofList "+99999999999999999999".toList)) =
              .ok result ∧
          result.ShowsRows table ["n!"] places ∧ places.Pairwise (· < ·) ∧ 1 ∈ places := by
  let table : Table :=
    { name := "t"
      columns := ["n!"]
      rows := [⟨[("n!", "it's")]⟩, ⟨[("n!", " +99999999999999999999\t")]⟩, ⟨[]⟩]
      columns_nodup := by decide
      rows_declared := by decide }
  have found : (Catalog.empty.insert table).find? "t" = some table := rfl
  have shown : trim " +99999999999999999999\t".toList = "+99999999999999999999".toList := by
    decide +kernel
  have textClear : ∀ c ∈ ['=', '<', '>'], c ∉ "+99999999999999999999".toList := by decide
  have noSemicolon : "+99999999999999999999".toList.getLast? ≠ some ';' := by decide
  have unquoted : Unquoted "+99999999999999999999".toList := by
    unfold Unquoted
    decide
  have isColumn : "n!" ∈ table.columns := by decide
  have trimmed : trim "n!".toList = "n!".toList := by decide
  have columnClear : ∀ c ∈ ['=', '<', '>'], c ∉ "n!".toList := by decide
  have isRow : table.rows[1]? = some ⟨[("n!", " +99999999999999999999\t")]⟩ := rfl
  refine ⟨_, table, found, by decide, isColumn, trimmed, columnClear, isRow, shown, textClear,
    noSemicolon, unquoted, ?_⟩
  rw [← shown] at textClear noSemicolon unquoted ⊢
  exact Catalog.execute_own_text found (by decide) isColumn trimmed columnClear isRow rfl
    (by rw [shown]; decide) textClear noSemicolon unquoted

end CsvQuery
