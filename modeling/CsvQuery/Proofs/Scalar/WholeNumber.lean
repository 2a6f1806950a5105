import CsvQuery.Proofs.Binary64.Grammar
import CsvQuery.Proofs.Scalar.Integer

/-!
# Whole numbers as values

A text without a point is tried as an integer first, and what is refused there is read once
more as a number if it is digits with at most one sign.  The two tries leave no gap and do
not overlap: an integer is refused for its form or for its size, and what is refused for its
size is always a number.  So a text without a point has a value exactly when it is a whole
number, and the value is the integer if 64 bits hold it and the nearest number if they do not
(`Scalar.ofNumeral?_eq`).

The value of a condition is read as the text of a cell is, unless it is between quotes
(`parseLiteral_unquoted`).  So where 64 bits hold the number, a numeral is that integer both
as the value of a condition and as a cell (`parseLiteral_numeral`, `WholeCell.classify`).
Nothing is rounded on the way.
-/

set_option autoImplicit false

namespace CsvQuery

open CsvQuery.Text

theorem Text.isWholeNumber_eq (text : List Char) :
    isWholeNumber text = (readWhole? text).isSome := by
  simp only [isWholeNumber, readWhole?]
  cases (splitSign text).2.isEmpty <;> cases (splitSign text).2.all Char.isDigit <;> rfl

namespace Scalar

/-- The scalar of a whole number. -/
def ofWhole (n : Int) : Scalar :=
  if FitsInt64 n then .integer (Int64.ofInt n) else .float (Binary64.ofInt n)

/-- A whole number that 64 bits do not hold is read as the number nearest to it. -/
theorem read?_of_not_fits {text : List Char} {n : Int} (isNumeral : Numeral text n)
    (tooLarge : ¬ FitsInt64 n) : Binary64.read? text = some (Binary64.ofInt n) := by
  refine Binary64.read?_eq_some_iff.2 (Binary64.numberText_of_numeral isNumeral ?_)
  rintro rfl
  exact tooLarge (by decide)

/-- **A text without a point has the value of a whole number or none.** -/
theorem ofNumeral?_eq (text : List Char) :
    ofNumeral? text =
      if '.' ∈ text then (Binary64.read? text).map .float else (readWhole? text).map ofWhole := by
  rw [ofNumeral?, readInt64?_eq, isWholeNumber_eq]
  refine if_congr Iff.rfl rfl ?_
  cases isRead : readWhole? text with
  | none => rfl
  | some n =>
      rw [Option.bind_some, Option.map_some, toInt64?, ofWhole]
      by_cases fits : FitsInt64 n
      · rw [if_pos fits, if_pos fits]
      · rw [if_neg fits, if_neg fits, read?_of_not_fits (readWhole?_eq_some_iff.1 isRead) fits]
        rfl

/-- A numeral is the scalar of its whole number. -/
theorem ofText_numeral {text : List Char} {n : Int} (isNumeral : Numeral text n) :
    ofText text = ofWhole n := by
  rw [ofText, ofNumeral?_eq, if_neg isNumeral.point_not_mem, readWhole?_eq_some_iff.2 isNumeral,
    Option.map_some, Option.getD_some]

end Scalar

theorem Numeral.ofText_eq {text : List Char} {n : Int} (isNumeral : Numeral text n)
    (fits : Scalar.FitsInt64 n) : Scalar.ofText text = .integer (Int64.ofInt n) := by
  rw [Scalar.ofText_numeral isNumeral, Scalar.ofWhole, if_pos fits]

/-! ## Values that are not between quotes -/

/-- A text that does not both start and end with the same quotation mark. -/
def Unquoted (text : List Char) : Prop :=
  ∀ quote ∈ ['\'', '"'], ¬ (text.head? = some quote ∧ text.getLast? = some quote)

theorem parseLiteral_unquoted {text : List Char} (unquoted : Unquoted text) :
    parseLiteral text = Scalar.ofText text := by
  have notQuoted : ∀ quote ∈ ['\'', '"'], isQuotedBy quote text = false := by
    intro quote isQuote
    have notBoth := unquoted quote isQuote
    rwa [← beq_iff_eq, ← beq_iff_eq (b := some quote), ← Bool.and_eq_true, Bool.not_eq_true]
      at notBoth
  rw [parseLiteral, notQuoted '\'' (by decide), notQuoted '"' (by decide)]
  rfl

theorem unquoted_of_head? {text : List Char}
    (notFirst : ∀ quote ∈ ['\'', '"'], text.head? ≠ some quote) : Unquoted text :=
  fun quote isQuote ends => notFirst quote isQuote ends.1

theorem Numeral.unquoted {text : List Char} {n : Int} (isNumeral : Numeral text n) :
    Unquoted text := by
  have noPart : ∀ quote ∈ ['\'', '"'], quote.isDigit = false ∧ quote ≠ '+' ∧ quote ≠ '-' := by
    decide
  refine unquoted_of_head? fun quote isQuote isFirst => ?_
  obtain ⟨notDigit, notPlus, notMinus⟩ := noPart quote isQuote
  exact isNumeral.not_mem notDigit notPlus notMinus (List.mem_of_mem_head? isFirst)

theorem parseLiteral_numeral {text : List Char} {n : Int} (isNumeral : Numeral text n)
    (fits : Scalar.FitsInt64 n) : parseLiteral text = .integer (Int64.ofInt n) := by
  rw [parseLiteral_unquoted isNumeral.unquoted, isNumeral.ofText_eq fits]

/-! ## Cells -/

theorem Scalar.classify_of_trim_ne_nil {cell : String} (someText : trim cell.toList ≠ []) :
    Scalar.classify (some cell) = Scalar.ofText (trim cell.toList) := by
  rw [Scalar.classify, List.isEmpty_eq_false_iff.2 someText]
  rfl

/-- What a cell of a column of whole numbers stands for: nothing if it is absent or
blank, and otherwise the number of its numeral, which 64 bits hold. -/
inductive WholeCell : Option String → Option Int → Prop where
  | absent : WholeCell none none
  | blank {cell : String} (blanks : Blanks cell.toList) : WholeCell (some cell) none
  | numeral {cell : String} {n : Int} (isNumeral : Numeral (trim cell.toList) n)
      (fits : Scalar.FitsInt64 n) : WholeCell (some cell) (some n)

/-- **A cell of whole numbers is classified as the number it stands for.** -/
theorem WholeCell.classify {cell : Option String} {value : Option Int}
    (isWhole : WholeCell cell value) :
    Scalar.classify cell = value.elim .null fun n => .integer (Int64.ofInt n) := by
  cases isWhole with
  | absent => rfl
  | blank blanks =>
      rw [Scalar.classify, trim_eq_nil_iff.2 blanks]
      rfl
  | numeral isNumeral fits =>
      rw [Scalar.classify_of_trim_ne_nil isNumeral.nonempty, isNumeral.ofText_eq fits,
        Option.elim_some]

end CsvQuery
