import CsvQuery.Proofs.Scalar.Classification
import CsvQuery.Proofs.Text.LetterCase

/-!
# Values and the case of letters

A number is read without looking at the case of its letters, be it the `e` in front of an
exponent or a name such as `inf` (`Binary64.read?_lowered`).  So the case of a text
remains in a value exactly when the value is a text (`parseLiteral_lowered`).
-/

set_option autoImplicit false

namespace CsvQuery

open CsvQuery.Text

/-! ## Digits and signs -/

theorem caseBlind_isDigit : CaseBlind Char.isDigit := caseBlind_of_capitals (by decide)

theorem lowered_digits {digits : List Char} (allDigits : ∀ c ∈ digits, c.isDigit = true) :
    lowered digits = digits :=
  (List.map_congr_left fun c isIn => toLower_of_isDigit (allDigits c isIn)).trans (List.map_id _)

theorem takeWhile_isDigit_lowered (text : List Char) :
    (lowered text).takeWhile Char.isDigit = text.takeWhile Char.isDigit := by
  rw [takeWhile_lowered caseBlind_isDigit, lowered_digits fun c isIn => List.mem_takeWhile_imp isIn]

theorem splitSign_lowered (text : List Char) :
    splitSign (lowered text) = ((splitSign text).1, lowered (splitSign text).2) := by
  fun_cases splitSign text with
  | case1 digits => rfl
  | case2 digits => rfl
  | case3 text notMinus notPlus =>
      rw [splitSign.eq_3]
      · intro rest same
        obtain ⟨behind, rfl, -⟩ := (lowered_eq_cons_iff (by decide)).1 same
        exact notMinus behind rfl
      · intro rest same
        obtain ⟨behind, rfl, -⟩ := (lowered_eq_cons_iff (by decide)).1 same
        exact notPlus behind rfl

theorem readWhole?_lowered (text : List Char) : readWhole? (lowered text) = readWhole? text := by
  have sameDigits : ∀ digits : List Char,
      (lowered digits).all Char.isDigit = digits.all Char.isDigit := by
    intro digits
    rw [lowered, List.all_map, caseBlind_isDigit.comp_eq]
  simp only [readWhole?, splitSign_lowered, isEmpty_lowered, sameDigits]
  split
  · rfl
  next accepted =>
    have allDigits : ∀ c ∈ (splitSign text).2, c.isDigit = true := by
      simpa using (not_or.1 (mt Bool.or_eq_true_iff.2 accepted)).2
    rw [lowered_digits allDigits]

/-! ## Numbers -/

namespace Binary64

theorem readExponent?_lowered (text : List Char) :
    readExponent? (lowered text) = readExponent? text := by
  have blind : CaseBlind fun c => c == 'e' || c == 'E' := caseBlind_of_capitals (by decide)
  cases text with
  | nil => rfl
  | cons c rest =>
      have sameMark : (c.toLower == 'e' || c.toLower == 'E') = (c == 'e' || c == 'E') := blind c
      rw [lowered_cons, readExponent?, readExponent?, sameMark, readWhole?_lowered]

theorem splitFraction_lowered (text : List Char) :
    splitFraction (lowered text) = ((splitFraction text).1, lowered (splitFraction text).2) := by
  fun_cases splitFraction text with
  | case1 rest =>
      have sameDigits := takeWhile_isDigit_lowered rest
      have sameRest := dropWhile_lowered caseBlind_isDigit rest
      exact Prod.ext sameDigits sameRest
  | case2 text noPoint =>
      rw [splitFraction.eq_2]
      · intro rest same
        obtain ⟨behind, rfl, -⟩ := (lowered_eq_cons_iff (by decide)).1 same
        exact noPoint behind rfl

theorem readDecimal?_lowered (text : List Char) :
    readDecimal? (lowered text) = readDecimal? text := by
  simp only [readDecimal?, takeWhile_isDigit_lowered, dropWhile_lowered caseBlind_isDigit,
    splitFraction_lowered, readExponent?_lowered]

/-- **A number is read without looking at the case of letters.** -/
theorem read?_lowered (text : List Char) : read? (lowered text) = read? text := by
  have sameName : ∀ name : List Char, (lowered name).map Char.toLower = name.map Char.toLower := by
    have blind : CaseBlind Char.toLower := caseBlind_of_capitals (by decide)
    intro name
    rw [lowered, List.map_map, blind.comp_eq]
  simp only [read?, splitSign_lowered, sameName, readDecimal?_lowered]

end Binary64

/-! ## Values -/

/-- A scalar with its text in lower case, if it is one. -/
def Scalar.lowered : Scalar → Scalar
  | .text content => .text content.toLower
  | value => value

/-- Two values that were read of texts are equal, except that the letters of a text may
differ in case.  Neither is no value, and neither is the value that is not a number. -/
inductive Scalar.SameLetters : Scalar → Scalar → Prop where
  | integer (value : Int64) : SameLetters (.integer value) (.integer value)
  | float {value : Binary64} (isNumber : value ≠ .nan) : SameLetters (.float value) (.float value)
  | text {first second : String} (same : Text.SameLetters first second) :
      SameLetters (.text first) (.text second)

namespace Scalar

theorem ofNumeral?_lowered (text : List Char) :
    ofNumeral? (Text.lowered text) = ofNumeral? text := by
  have samePoint : '.' ∈ Text.lowered text ↔ '.' ∈ text := mem_lowered_iff (by decide)
  simp only [ofNumeral?_eq, samePoint, Binary64.read?_lowered, readWhole?_lowered]

theorem ofText_lowered (text : List Char) :
    ofText (Text.lowered text) = (ofText text).lowered := by
  rw [ofText, ofText, ofNumeral?_lowered]
  cases isNumeral : ofNumeral? text with
  | none => exact congrArg Scalar.text (toLower_ofList text).symm
  | some value =>
      cases ofNumeral?_eq_some_iff.1 isNumeral <;> rfl

theorem sameLetters_of_lowered {first second : Scalar} (same : first.lowered = second.lowered)
    (someValue : first.isNull = false) (isNumber : first ≠ .float .nan) :
    first.SameLetters second := by
  cases first with
  | null => cases someValue
  | integer value =>
      cases second with
      | integer other =>
          cases same
          exact .integer value
      | null | float | text => cases same
  | float value =>
      cases second with
      | float other =>
          cases same
          exact .float fun isNan => isNumber (congrArg Scalar.float isNan)
      | null | integer | text => cases same
  | text content =>
      cases second with
      | text other => exact .text (sameLetters_iff.2 (Scalar.text.inj same))
      | null | integer | float => cases same

end Scalar

/-! ## Literals -/

theorem isQuotedBy_lowered {quote : Char} (noLetter : quote.isAlpha = false) (text : List Char) :
    isQuotedBy quote (lowered text) = isQuotedBy quote text := by
  rw [isQuotedBy, isQuotedBy, Bool.eq_iff_iff]
  simp only [Bool.and_eq_true, beq_iff_eq, head?_lowered, getLast?_lowered,
    map_toLower_eq_some_iff noLetter]

/-- **The case of letters is kept in a value exactly when the value is a text.** -/
theorem parseLiteral_lowered (text : List Char) :
    parseLiteral (lowered text) = (parseLiteral text).lowered := by
  have single : isQuotedBy '\'' (lowered text) = isQuotedBy '\'' text :=
    isQuotedBy_lowered (by decide) text
  have double : isQuotedBy '"' (lowered text) = isQuotedBy '"' text :=
    isQuotedBy_lowered (by decide) text
  rw [parseLiteral, parseLiteral, single, double, tail_lowered, dropLast_lowered]
  split
  · exact congrArg Scalar.text (toLower_ofList _).symm
  · exact Scalar.ofText_lowered text

theorem isNull_parseLiteral (text : List Char) : (parseLiteral text).isNull = false := by
  rw [parseLiteral]
  split
  · rfl
  · exact Scalar.isNull_ofText text

theorem parseLiteral_ne_null (text : List Char) : parseLiteral text ≠ .null := by
  intro isNull
  have someValue := isNull_parseLiteral text
  rw [isNull] at someValue
  cases someValue

theorem parseLiteral_ne_nan (text : List Char) : parseLiteral text ≠ .float .nan := by
  rw [parseLiteral]
  split
  · simp
  · exact Scalar.ofText_ne_nan text

end CsvQuery
