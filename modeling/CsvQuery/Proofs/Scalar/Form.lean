import CsvQuery.Proofs.Scalar.Classification

/-!
# Values by the form of their text

A cell is read by the form of its text without the blanks around it, and each kind of value
is told by that form alone, in both directions (`Scalar.ReadByForm`).  Nothing but blanks is
no value.  A numeral is an integer within the bounds of 64 bits and a number of the format
outside them.  Any other number of the format has a point in it, and any other text stands
for itself, be it a sign alone, digits that are not decimal digits of ASCII, a number with an
exponent and no point, or a text with two points.

The value of a condition is read the same way unless it is between quotes.
-/

set_option autoImplicit false

namespace CsvQuery

open CsvQuery.Text Binary64

namespace Scalar

/-- What a value is, told by the form of the text it is read from. -/
structure ReadByForm (text : List Char) (value : Scalar) : Prop where
  /-- Only the empty text is no value. -/
  null_iff : value = .null ↔ text = []
  /-- A numeral within the bounds is the integer of its number, and nothing else is one. -/
  integer_iff : ∀ n : Int, (∃ whole : Int64, value = .integer whole ∧ whole.toInt = n) ↔
    Numeral text n ∧ -2 ^ 63 ≤ n ∧ n ≤ 2 ^ 63 - 1
  /-- A number with a point and a numeral outside the bounds are numbers of the format. -/
  isFloat_iff : (∃ number, value = .float number) ↔
    ('.' ∈ text ∧ ∃ number, NumberText text number) ∨
      ∃ n, Numeral text n ∧ ¬ (-2 ^ 63 ≤ n ∧ n ≤ 2 ^ 63 - 1)
  /-- The number is the one that the text is. -/
  numberText : ∀ number, value = .float number → NumberText text number
  /-- Every other text stands for itself. -/
  text_iff : ∀ content, value = .text content ↔ content = String.ofList text ∧ text ≠ [] ∧
    (∀ n, ¬ Numeral text n) ∧ ('.' ∈ text → ∀ number, ¬ NumberText text number)

/-! ## Numbers -/

theorem numericForm_integer_iff {text : List Char} {n : Int} :
    (∃ whole : Int64, NumericForm text (.integer whole) ∧ whole.toInt = n) ↔
      Numeral text n ∧ FitsInt64 n := by
  constructor
  · rintro ⟨whole, ⟨isNumeral, fits⟩, rfl⟩
    rw [toInt_ofInt_of_fits fits]
    exact ⟨isNumeral, fits⟩
  · rintro ⟨isNumeral, fits⟩
    exact ⟨_, .integer isNumeral fits, toInt_ofInt_of_fits fits⟩

theorem numericForm_float_iff {text : List Char} :
    (∃ number, NumericForm text (.float number)) ↔
      ('.' ∈ text ∧ ∃ number, NumberText text number) ∨ ∃ n, Numeral text n ∧ ¬ FitsInt64 n := by
  constructor
  · rintro ⟨number, isForm⟩
    cases isForm with
    | large isNumeral tooLarge => exact .inr ⟨_, isNumeral, tooLarge⟩
    | pointed point isNumber => exact .inl ⟨point, number, isNumber⟩
  · rintro (⟨point, number, isNumber⟩ | ⟨n, isNumeral, tooLarge⟩)
    · exact ⟨number, .pointed point isNumber⟩
    · exact ⟨_, .large isNumeral tooLarge⟩

theorem NumericForm.numberText {text : List Char} {number : Binary64}
    (isForm : NumericForm text (.float number)) : NumberText text number := by
  cases isForm with
  | large isNumeral tooLarge => exact read?_eq_some_iff.1 (read?_of_not_fits isNumeral tooLarge)
  | pointed _ isNumber => exact isNumber

theorem forall_not_numericForm_iff {text : List Char} :
    (∀ value, ¬ NumericForm text value) ↔
      (∀ n, ¬ Numeral text n) ∧ ('.' ∈ text → ∀ number, ¬ NumberText text number) := by
  constructor
  · intro noForm
    refine ⟨fun n isNumeral => ?_, fun point number isNumber => noForm _ (.pointed point isNumber)⟩
    by_cases fits : FitsInt64 n
    · exact noForm _ (.integer isNumeral fits)
    · exact noForm _ (.large isNumeral fits)
  · rintro ⟨noNumeral, noNumber⟩ value isForm
    cases isForm with
    | integer isNumeral => exact noNumeral _ isNumeral
    | large isNumeral => exact noNumeral _ isNumeral
    | pointed point isNumber => exact noNumber point _ isNumber

/-! ## Texts -/

theorem ofText_eq_iff {text : List Char} {value : Scalar} (notText : value.isText = false) :
    ofText text = value ↔ NumericForm text value := by
  rw [ofText, ← ofNumeral?_eq_some_iff]
  cases ofNumeral? text with
  | some number => exact Option.some_inj.symm
  | none =>
      refine iff_of_false ?_ (Option.some_ne_none value).symm
      rintro rfl
      cases notText

theorem ofText_eq_text_iff {text : List Char} {content : String} :
    ofText text = .text content ↔
      content = String.ofList text ∧ ∀ value, ¬ NumericForm text value := by
  rcases ofText_cases text with ⟨value, isForm, same⟩ | ⟨noForm, same⟩
  · rw [same]
    refine iff_of_false ?_ fun isText => isText.2 value isForm
    rintro rfl
    cases isForm
  · rw [same, Scalar.text.injEq, eq_comm, and_iff_left noForm]

/-- **The value of a text is told by the form of the text.** -/
theorem readByForm_ofText {text : List Char} (nonempty : text ≠ []) :
    ReadByForm text (ofText text) where
  null_iff := by
    refine iff_of_false (fun isNull => ?_) nonempty
    have notNull := isNull_ofText text
    rw [isNull] at notNull
    cases notNull
  integer_iff n := by
    rw [← fitsInt64_iff, ← numericForm_integer_iff]
    exact exists_congr fun whole => and_congr_left' (ofText_eq_iff rfl)
  isFloat_iff := by
    simp only [← fitsInt64_iff, ← numericForm_float_iff]
    exact exists_congr fun number => ofText_eq_iff rfl
  numberText number isFloat := ((ofText_eq_iff rfl).1 isFloat).numberText
  text_iff content := by
    rw [ofText_eq_text_iff, forall_not_numericForm_iff, and_iff_right nonempty]

/-- The empty text is no value, and no other form is that of the empty text. -/
theorem readByForm_null : ReadByForm [] .null where
  null_iff := by simp
  integer_iff n := by
    refine iff_of_false ?_ fun isNumeral => isNumeral.1.nonempty rfl
    rintro ⟨whole, ⟨⟩, -⟩
  isFloat_iff := by
    refine iff_of_false ?_ ?_
    · rintro ⟨number, ⟨⟩⟩
    · rintro (⟨⟨⟩, -⟩ | ⟨n, isNumeral, -⟩)
      exact isNumeral.nonempty rfl
  numberText := by rintro number ⟨⟩
  text_iff content := by simp

/-! ## Cells and values of conditions -/

theorem readByForm_classify (cell : String) :
    ReadByForm (trim cell.toList) (classify (some cell)) := by
  by_cases empty : trim cell.toList = []
  · rw [classify, empty]
    exact readByForm_null
  · rw [classify_of_trim_ne_nil empty]
    exact readByForm_ofText empty

/-- A sign alone, an exponent without a point, two points and a digit outside ASCII. -/
example : ["-", "1e3", "1.2.3", "٣"].map (fun cell => classify (some cell)) =
    [.text "-", .text "1e3", .text "1.2.3", .text "٣"] := by
  decide +kernel

end Scalar

/-- **Cells and values of conditions are read by one grammar.**  What a cell is follows from
the form of its text without the blanks around it, and a value that is not between quotes is
what a cell with its text would be. -/
theorem readByForm_classify_and_parseLiteral_eq :
    (∀ cell : String, Scalar.ReadByForm (trim cell.toList) (Scalar.classify (some cell))) ∧
      ∀ text : List Char, text ≠ [] → trim text = text → Unquoted text →
        parseLiteral text = Scalar.classify (some (String.ofList text)) := by
  refine ⟨Scalar.readByForm_classify, fun text nonempty trimmed unquoted => ?_⟩
  have sameText : trim (String.ofList text).toList = text := by
    rw [String.toList_ofList, trimmed]
  rw [parseLiteral_unquoted unquoted, Scalar.classify_of_trim_ne_nil (by rwa [sameText]), sameText]

/-- The least integer is one, with zeros in front of it too, and the whole number below it is
a number of the format. -/
theorem readByForm_classify_and_parseLiteral_eq_below_least :
    (∃ least : Int64, Scalar.classify (some " -009223372036854775808 ") = .integer least ∧
        least.toInt = -2 ^ 63) ∧
      (∃ number, Scalar.classify (some "-9223372036854775809") = .float number) ∧
        "-9223372036854775809".toList ≠ [] ∧
          trim "-9223372036854775809".toList = "-9223372036854775809".toList ∧
            Unquoted "-9223372036854775809".toList ∧
              parseLiteral "-9223372036854775809".toList =
                Scalar.classify (some (String.ofList "-9223372036854775809".toList)) := by
  obtain ⟨ofCell, ofLiteral⟩ := readByForm_classify_and_parseLiteral_eq
  have least : Numeral (trim " -009223372036854775808 ".toList) (-2 ^ 63) :=
    readWhole?_eq_some_iff.1 (by decide +kernel)
  have below : Numeral (trim "-9223372036854775809".toList) (-2 ^ 63 - 1) :=
    readWhole?_eq_some_iff.1 (by decide +kernel)
  have nonempty : "-9223372036854775809".toList ≠ [] := by decide
  have trimmed : trim "-9223372036854775809".toList = "-9223372036854775809".toList := by
    decide +kernel
  have unquoted : Unquoted "-9223372036854775809".toList :=
    unquoted_of_head? (by decide)
  refine ⟨((ofCell _).integer_iff _).2 ⟨least, by decide, by decide⟩,
    (ofCell _).isFloat_iff.2 (.inr ⟨_, below, by decide⟩), nonempty, trimmed, unquoted,
    ofLiteral _ nonempty trimmed unquoted⟩

end CsvQuery
