import CsvQuery.Proofs.Scalar.WholeNumber

/-!
# What texts are classified as

A text has the form of a number if it is a numeral, which is an integer or too large to be
one, or a number with a point in it.  These are the texts that are read as numbers
(`Scalar.ofNumeral?_eq_some_iff`), and any other text stands for itself.  So what is read of a
text is never no value.  It is never the value that is not a number either: the name of that
value has no point in it, and is no numeral (`Scalar.ofText_ne_nan`).
-/

set_option autoImplicit false

namespace CsvQuery

open CsvQuery.Text

/-! ## The characters of a number -/

namespace Binary64

/-- A decimal has digits, signs, a point and the mark of an exponent in it. -/
theorem DecimalText.isDigit_or_mark {text : List Char} {significand : Nat} {exponent : Int}
    (isDecimal : DecimalText text significand exponent) :
    ∀ c ∈ text, c.isDigit = true ∨ c ∈ ['.', 'e', 'E', '+', '-'] := by
  have ofExponent : ∀ {tail : List Char} {n : Int}, ExponentText tail n →
      ∀ c ∈ tail, c.isDigit = true ∨ c ∈ ['.', 'e', 'E', '+', '-'] := by
    rintro _ _ (_ | ⟨isMark, isNumeral⟩) c isIn
    · cases isIn
    · rcases List.mem_cons.1 isIn with rfl | isIn
      · rcases isMark with rfl | rfl <;> decide
      · rcases isNumeral.isDigit_or_sign c isIn with isDigit | rfl | rfl
        · exact .inl isDigit
        · decide
        · decide
  intro c isIn
  cases isDecimal with
  | whole _ allDigits isExponent =>
      rcases List.mem_append.1 isIn with isIn | isIn
      · exact .inl (allDigits c isIn)
      · exact ofExponent isExponent c isIn
  | point _ wholeDigits fractionDigits isExponent =>
      rcases List.mem_append.1 isIn with isIn | isIn
      · exact .inl (wholeDigits c isIn)
      · rcases List.mem_cons.1 isIn with rfl | isIn
        · decide
        · rcases List.mem_append.1 isIn with isIn | isIn
          · exact .inl (fractionDigits c isIn)
          · exact ofExponent isExponent c isIn

/-- A text with a point in it is not the name of what is not a number. -/
theorem UnsignedText.ne_nan {negative : Bool} {text : List Char} {number : Binary64}
    (isNumber : UnsignedText negative text number) (point : '.' ∈ text) : number ≠ .nan := by
  rintro rfl
  cases isNumber with
  | nan isName =>
      have inName : '.' ∈ text.map Char.toLower := List.mem_map.2 ⟨'.', point, rfl⟩
      rw [isName] at inName
      exact absurd inName (by decide)

theorem UnsignedText.semicolon_not_mem {negative : Bool} {text : List Char} {number : Binary64}
    (isNumber : UnsignedText negative text number) : ';' ∉ text := by
  intro isIn
  have inName : ';' ∈ text.map Char.toLower := List.mem_map.2 ⟨';', isIn, rfl⟩
  cases isNumber with
  | nan isName =>
      rw [isName] at inName
      exact absurd inName (by decide)
  | infinity isName =>
      rcases isName with isName | isName
      all_goals
        rw [isName] at inName
        exact absurd inName (by decide)
  | decimal isDecimal => exact absurd (isDecimal.isDigit_or_mark ';' isIn) (by decide)

namespace NumberText

variable {text : List Char} {number : Binary64} (isNumber : NumberText text number)
include isNumber

theorem ne_nan (point : '.' ∈ text) : number ≠ .nan := by
  cases isNumber with
  | unsigned isNumber => exact isNumber.ne_nan point
  | plus isNumber => exact isNumber.ne_nan ((List.mem_cons.1 point).resolve_left (by decide))
  | minus isNumber => exact isNumber.ne_nan ((List.mem_cons.1 point).resolve_left (by decide))

/-- A number has no semicolon in it. -/
theorem semicolon_not_mem : ';' ∉ text := by
  intro isIn
  cases isNumber with
  | unsigned isNumber => exact isNumber.semicolon_not_mem isIn
  | plus isNumber =>
      exact isNumber.semicolon_not_mem ((List.mem_cons.1 isIn).resolve_left (by decide))
  | minus isNumber =>
      exact isNumber.semicolon_not_mem ((List.mem_cons.1 isIn).resolve_left (by decide))

end NumberText

end Binary64

namespace Scalar

/-! ## The forms of numbers -/

/-- The number a text has the form of. -/
inductive NumericForm (text : List Char) : Scalar → Prop where
  | integer {n : Int} (isNumeral : Numeral text n) (fits : FitsInt64 n) :
      NumericForm text (.integer (Int64.ofInt n))
  | large {n : Int} (isNumeral : Numeral text n) (tooLarge : ¬ FitsInt64 n) :
      NumericForm text (.float (Binary64.ofInt n))
  | pointed {number : Binary64} (point : '.' ∈ text)
      (isNumber : Binary64.NumberText text number) : NumericForm text (.float number)

/-- **What is read as a number is what has the form of it.** -/
theorem ofNumeral?_eq_some_iff {text : List Char} {value : Scalar} :
    ofNumeral? text = some value ↔ NumericForm text value := by
  rw [ofNumeral?_eq]
  constructor
  · intro isRead
    split at isRead
    next point =>
      obtain ⟨number, isNumber, rfl⟩ := Option.map_eq_some_iff.1 isRead
      exact .pointed point (Binary64.read?_eq_some_iff.1 isNumber)
    next =>
      obtain ⟨n, isWhole, rfl⟩ := Option.map_eq_some_iff.1 isRead
      have isNumeral := readWhole?_eq_some_iff.1 isWhole
      rw [ofWhole]
      split
      next fits => exact .integer isNumeral fits
      next tooLarge => exact .large isNumeral tooLarge
  · intro isForm
    cases isForm with
    | integer isNumeral fits =>
        rw [if_neg isNumeral.point_not_mem, readWhole?_eq_some_iff.2 isNumeral, Option.map_some,
          ofWhole, if_pos fits]
    | large isNumeral tooLarge =>
        rw [if_neg isNumeral.point_not_mem, readWhole?_eq_some_iff.2 isNumeral, Option.map_some,
          ofWhole, if_neg tooLarge]
    | pointed point isNumber =>
        rw [if_pos point, Binary64.read?_eq_some_iff.2 isNumber, Option.map_some]

/-- **A text has the value of its form, or stands for itself.** -/
theorem ofText_cases (text : List Char) :
    (∃ value, NumericForm text value ∧ ofText text = value) ∨
      (∀ value, ¬ NumericForm text value) ∧ ofText text = .text (String.ofList text) := by
  rw [ofText]
  cases isRead : ofNumeral? text with
  | some value => exact .inl ⟨value, ofNumeral?_eq_some_iff.1 isRead, rfl⟩
  | none =>
      refine .inr ⟨fun value isForm => ?_, rfl⟩
      rw [← ofNumeral?_eq_some_iff, isRead] at isForm
      cases isForm

theorem isNull_ofText (text : List Char) : (ofText text).isNull = false := by
  rcases ofText_cases text with ⟨value, isForm, same⟩ | ⟨-, isText⟩
  · rw [same]
    cases isForm <;> rfl
  · rw [isText]
    rfl

theorem ofText_ne_nan (text : List Char) : ofText text ≠ .float .nan := by
  rcases ofText_cases text with ⟨value, isForm, same⟩ | ⟨-, isText⟩
  · rw [same]
    cases isForm with
    | integer => simp
    | large => simp [Binary64.ofInt]
    | pointed point isNumber => simpa using isNumber.ne_nan point
  · simp [isText]

/-- A text with a semicolon in it is not in the form of a number. -/
theorem ofText_of_semicolon_mem {text : List Char} (isIn : ';' ∈ text) :
    ofText text = .text (String.ofList text) := by
  rcases ofText_cases text with ⟨value, isForm, -⟩ | ⟨-, isText⟩
  · have notNumeral : ∀ n, ¬ Numeral text n := fun n isNumeral =>
      isNumeral.not_mem (by decide) (by decide) (by decide) isIn
    cases isForm with
    | integer isNumeral => exact absurd isNumeral (notNumeral _)
    | large isNumeral => exact absurd isNumeral (notNumeral _)
    | pointed _ isNumber => exact absurd isIn isNumber.semicolon_not_mem
  · exact isText

end Scalar

end CsvQuery
