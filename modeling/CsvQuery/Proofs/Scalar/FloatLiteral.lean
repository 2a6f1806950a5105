import CsvQuery.Proofs.Binary64.PointNumeral
import CsvQuery.Proofs.Scalar.Literal

/-!
# Literals of numbers

The literal of a finite number is its shortest decimal, and it is read as the same number
when there is a point in it.  There is one around the point, and there is one with an
exponent if the decimal has more than one digit.  So the literal fails to be read as its
number in one case: a single digit at a power of ten from `10 ^ 16` upward or below `10 ^ -4`
(`Binary64.DigitPower`), such as `1e16`.  That literal has no point in it, and what has no
point is a number only if it is digits and a sign, so it is read as a text.
-/

set_option autoImplicit false

namespace CsvQuery

open CsvQuery.Text Binary64

/-! ## Single digits with an exponent -/

/-- A number other than zero that is nearest to a single digit at a power of ten from `10 ^ 16`
upward or below `10 ^ -4`. -/
inductive Binary64.DigitPower : Binary64 → Prop where
  | ofDecimal {negative : Bool} {digit : Nat} {exponent : Int} (isDigit : digit ≤ 9)
      (far : exponent < -4 ∨ 16 ≤ exponent) (nonzero : decimalRank digit exponent ≠ 0) :
      DigitPower (ofDecimal negative digit exponent)

theorem digitPower_iff {negative : Bool} {rank : Nat} (isRank : rank ≤ infinityRank) :
    (Binary64.signed negative rank isRank).DigitPower ↔
      rank ≠ 0 ∧ ∃ digit ≤ 9, ∃ exponent : Int, (exponent < -4 ∨ 16 ≤ exponent) ∧
        decimalRank digit exponent = rank := by
  constructor
  · rintro ⟨isDigit, far, nonzero⟩
    exact ⟨nonzero, _, isDigit, _, far, rfl⟩
  · rintro ⟨nonzero, digit, isDigit, exponent, far, rfl⟩
    exact .ofDecimal isDigit far nonzero

/-- Single digits that are far from the point do not meet those that are near it. -/
theorem far_of_decimalRank_eq {digit digit' : Nat} {exponent exponent' : Int} (isDigit : digit ≤ 9)
    (isDigit' : digit' ≤ 9) (nonzero : decimalRank digit exponent ≠ 0)
    (same : decimalRank digit' exponent' = decimalRank digit exponent)
    (far : exponent < -4 ∨ 16 ≤ exponent) : exponent' < -4 ∨ 16 ≤ exponent' := by
  have positive : 1 ≤ digit := Nat.pos_of_ne_zero fun zero => nonzero (by rw [zero]; rfl)
  have positive' : 1 ≤ digit' := by
    refine Nat.pos_of_ne_zero fun zero => nonzero ?_
    rw [← same, zero]
    rfl
  by_contra near
  rcases far with small | large
  · have less : decimalRank digit exponent < decimalRank digit' exponent' :=
      calc decimalRank digit exponent ≤ decimalRank 9 (-5) :=
            decimalRank_le_decimalRank isDigit (by omega)
        _ < decimalRank 1 (-4) := by decide +kernel
        _ ≤ decimalRank digit' exponent' := decimalRank_le_decimalRank positive' (by omega)
    exact less.ne' same
  · have less : decimalRank digit' exponent' < decimalRank digit exponent :=
      calc decimalRank digit' exponent' ≤ decimalRank 9 15 :=
            decimalRank_le_decimalRank isDigit' (by omega)
        _ < decimalRank 1 16 := by decide +kernel
        _ ≤ decimalRank digit exponent := decimalRank_le_decimalRank positive (by omega)
    exact less.ne same

/-- **A number is written as one digit and an exponent exactly when it is a single digit far
from the point.** -/
theorem isBare_iff_digitPower {negative : Bool} {rank : Nat} (isRank : rank ≤ infinityRank)
    (tie : Tie) :
    ((shortest tie rank).digits.length = 1 ∧
        Scalar.queryLayout.exponential (shortest tie rank).point = true) ↔
      (Binary64.signed negative rank isRank).DigitPower := by
  rw [digitPower_iff]
  by_cases zero : rank = 0
  · subst zero
    rw [shortest_zero]
    simp [Scalar.queryLayout]
  · have exponential : ∀ point, Scalar.queryLayout.exponential point = true ↔
        point - 1 < -4 ∨ 16 ≤ point - 1 := by
      intro point
      simp only [Scalar.queryLayout, Bool.or_eq_true, decide_eq_true_eq]
      omega
    have reads := decimalRank_shortest isRank tie
    rw [exponential]
    constructor
    · rintro ⟨one, far⟩
      rw [Decimal.exponent, one] at reads
      exact ⟨zero, _, significand_shortest_le one, _, far, reads⟩
    · rintro ⟨nonzero, digit, isDigit, exponent, far, same⟩
      have one := (length_digits_shortest_eq_one_iff isRank zero tie).2
        ⟨digit, isDigit, exponent, same⟩
      rw [Decimal.exponent, one] at reads
      exact ⟨one, far_of_decimalRank_eq isDigit (significand_shortest_le one) (by rwa [same])
        (reads.trans same.symm) far⟩

/-! ## Reading a number with a sign -/

/-- A text with a minus sign in front of it, or without one. -/
def withMinus (negative : Bool) (body : List Char) : List Char :=
  if negative then '-' :: body else body

theorem splitSign_withMinus {body : List Char} (startsWithDigit : ∀ c ∈ body.head?, c.isDigit = true)
    (negative : Bool) : splitSign (withMinus negative body) = (negative, body) := by
  cases negative with
  | true => rfl
  | false => exact splitSign_eq_of_isDigit_head? startsWithDigit

theorem mem_withMinus_iff {body : List Char} {c : Char} (notMinus : c ≠ '-') (negative : Bool) :
    c ∈ withMinus negative body ↔ c ∈ body := by
  cases negative <;> simp [withMinus, notMinus]

/-- A number with or without a sign is not between quotes. -/
theorem parseLiteral_withMinus {body : List Char} (nonempty : body ≠ [])
    (startsWithDigit : ∀ c ∈ body.head?, c.isDigit = true) (negative : Bool) :
    parseLiteral (withMinus negative body) = Scalar.ofText (withMinus negative body) := by
  obtain ⟨first, rest, rfl⟩ := List.exists_cons_of_ne_nil nonempty
  have isDigit := startsWithDigit first rfl
  have noPart : ∀ quote ∈ ['\'', '"'], quote.isDigit = false ∧ quote ≠ '-' := by decide
  refine parseLiteral_unquoted (unquoted_of_head? fun quote isQuote isFirst => ?_)
  obtain ⟨notDigit, notMinus⟩ := noPart quote isQuote
  cases negative with
  | true => exact notMinus (Option.some.inj isFirst).symm
  | false =>
      rw [Option.some.inj isFirst, notDigit] at isDigit
      cases isDigit

/-- **A number with a point is read as the number of its sign and rank.** -/
theorem parseLiteral_pointNumeral {body : List Char} {rank : Nat}
    (isNumeral : PointNumeral body rank) (isRank : rank ≤ infinityRank) (negative : Bool) :
    parseLiteral (withMinus negative body) = .float (.signed negative rank isRank) := by
  have point := (mem_withMinus_iff (by decide) negative).2 isNumeral.point_mem
  have nonempty : body ≠ [] := List.ne_nil_of_mem isNumeral.point_mem
  have isRead := isNumeral.read?_eq isRank (splitSign_withMinus isNumeral.isDigit_head? negative)
  rw [parseLiteral_withMinus nonempty isNumeral.isDigit_head?, Scalar.ofText, Scalar.ofNumeral?,
    if_pos point, isRead]
  rfl

/-- **A digit with an exponent and no point is read as a text.** -/
theorem parseLiteral_digit_exponent {c : Char} (isDigit : c.isDigit = true) (exponent : Int)
    (negative : Bool) :
    parseLiteral (withMinus negative (c :: 'e' :: writeWhole exponent)) =
      .text (String.ofList (withMinus negative (c :: 'e' :: writeWhole exponent))) := by
  have mark : 'e' ∈ withMinus negative (c :: 'e' :: writeWhole exponent) :=
    (mem_withMinus_iff (by decide) negative).2 (List.mem_cons_of_mem _ (List.mem_cons_self ..))
  have noPoint : '.' ∉ withMinus negative (c :: 'e' :: writeWhole exponent) := by
    rw [mem_withMinus_iff (by decide)]
    have inExponent : '.' ∉ writeWhole exponent := (numeral_writeWhole exponent).point_not_mem
    have different : '.' ≠ c := by
      rintro rfl
      exact absurd isDigit (by decide)
    simp [different, inExponent]
  have notWhole : readWhole? (withMinus negative (c :: 'e' :: writeWhole exponent)) = none := by
    rw [Option.eq_none_iff_forall_ne_some]
    exact fun n isRead =>
      (readWhole?_eq_some_iff.1 isRead).not_mem (by decide) (by decide) (by decide) mark
  rw [parseLiteral_withMinus (List.cons_ne_nil _ _) (by rintro _ ⟨⟩; exact isDigit), Scalar.ofText,
    Scalar.ofNumeral?_eq, if_neg noPoint, notWhole]
  rfl

/-! ## The literal of a number -/

theorem literal_float_toList {rank : Nat} {isRank : rank ≤ infinityRank} (negative : Bool)
    (finite : rank ≠ infinityRank) :
    (Scalar.float (.signed negative rank isRank)).literal.toList =
      withMinus negative
        (if Scalar.queryLayout.exponential (shortest .up rank).point then
          Scalar.queryLayout.scientific (shortest .up rank)
        else Scalar.queryLayout.plain (shortest .up rank)) := by
  rw [Scalar.literal, String.toList_ofList, Layout.write, if_neg finite]
  rfl

/-- **A digit with an exponent has no point in its literal, which is read as a text.** -/
theorem parseLiteral_literal_of_digitPower {number : Binary64} (finite : number.isFinite = true)
    (isPower : number.DigitPower) :
    parseLiteral (Scalar.float number).literal.toList = .text (Scalar.float number).literal := by
  cases number with
  | nan => cases finite
  | signed negative rank isRank =>
      have below : rank < infinityRank := of_decide_eq_true finite
      obtain ⟨one, exponential⟩ := (isBare_iff_digitPower isRank .up).2 isPower
      obtain ⟨c, isDigit, single⟩ := exists_digit_shortest_eq one
      have written : (Scalar.float (.signed negative rank isRank)).literal.toList =
          withMinus negative (c :: 'e' :: writeWhole ((shortest .up rank).point - 1)) := by
        rw [literal_float_toList negative below.ne, if_pos exponential, Layout.scientific, single]
        simp [Scalar.queryLayout]
      rw [written, parseLiteral_digit_exponent isDigit, ← written, String.ofList_toList]

/-- **Every other finite number has a point in its literal, which is read as the number.** -/
theorem parseLiteral_literal_of_not_digitPower {number : Binary64}
    (finite : number.isFinite = true) (notPower : ¬ number.DigitPower) :
    parseLiteral (Scalar.float number).literal.toList = .float number := by
  cases number with
  | nan => cases finite
  | signed negative rank isRank =>
      have below : rank < infinityRank := of_decide_eq_true finite
      have isProper := isProper_shortest isRank .up
      have reads : (shortest .up rank).rank = rank := decimalRank_shortest isRank .up
      have notBare := mt (isBare_iff_digitPower isRank .up).1 notPower
      have isNumeral : PointNumeral
          (if Scalar.queryLayout.exponential (shortest .up rank).point then
            Scalar.queryLayout.scientific (shortest .up rank)
          else Scalar.queryLayout.plain (shortest .up rank))
          (shortest .up rank).rank := by
        split
        next exponential =>
          exact pointNumeral_scientific isProper rfl fun one => notBare ⟨one, exponential⟩
        next => exact pointNumeral_plain isProper rfl
      rw [reads] at isNumeral
      rw [literal_float_toList negative below.ne, parseLiteral_pointNumeral isNumeral isRank]

/-! ## The literal of a value -/

/-- The values with a literal to be read again: integers, finite numbers and texts. -/
inductive Scalar.Written : Scalar → Prop where
  | integer (value : Int64) : Written (.integer value)
  | float {value : Binary64} (finite : value.isFinite = true) : Written (.float value)
  | text (content : String) : Written (.text content)

/-- A number whose literal is one digit with an exponent. -/
def Scalar.IsDigitPower (value : Scalar) : Prop :=
  ∃ number : Binary64, value = .float number ∧ number.DigitPower

theorem Scalar.IntegerOrText.not_isDigitPower {value : Scalar} (kind : value.IntegerOrText) :
    ¬ value.IsDigitPower := by
  rintro ⟨number, rfl, -⟩
  rcases kind with ⟨n, same⟩ | ⟨content, same⟩
  · cases same
  · cases same

/-- **A literal is read as its value, except for a single digit with an exponent.**  The
literal of an integer, a finite number or a text is read as the value it is the literal of,
unless the value is a digit at a power of ten from `10 ^ 16` upward or below `10 ^ -4`; then
it is read as the text it is. -/
theorem parseLiteral_literal_iff {value : Scalar} (written : value.Written) :
    (parseLiteral value.literal.toList = value ↔ ¬ value.IsDigitPower) ∧
      (value.IsDigitPower → parseLiteral value.literal.toList = .text value.literal) := by
  have ofPlain : value.IntegerOrText →
      (parseLiteral value.literal.toList = value ↔ ¬ value.IsDigitPower) ∧
        (value.IsDigitPower → parseLiteral value.literal.toList = .text value.literal) :=
    fun kind => ⟨iff_of_true (parseLiteral_literal kind) kind.not_isDigitPower,
      fun isPower => absurd isPower kind.not_isDigitPower⟩
  cases written with
  | integer n => exact ofPlain (.inl ⟨n, rfl⟩)
  | text content => exact ofPlain (.inr ⟨content, rfl⟩)
  | @float number finite =>
      have onlyNumber : (Scalar.float number).IsDigitPower → number.DigitPower := by
        rintro ⟨_, same, isPower⟩
        cases same
        exact isPower
      refine ⟨⟨fun isRead isPower => ?_, fun notPower => ?_⟩, fun isPower => ?_⟩
      · rw [parseLiteral_literal_of_digitPower finite (onlyNumber isPower)] at isRead
        cases isRead
      · exact parseLiteral_literal_of_not_digitPower finite fun isPower =>
          notPower ⟨number, rfl, isPower⟩
      · exact parseLiteral_literal_of_digitPower finite (onlyNumber isPower)

/-- The largest finite number has many digits, and the least number above zero has one. -/
theorem parseLiteral_literal_iff_largest_and_least :
    ((Scalar.float (ofDecimal false 17976931348623157 292)).Written ∧
        parseLiteral (Scalar.float (ofDecimal false 17976931348623157 292)).literal.toList =
          .float (ofDecimal false 17976931348623157 292)) ∧
      (Scalar.float (ofDecimal true 5 (-324))).Written ∧
        (Scalar.float (ofDecimal true 5 (-324))).literal = "-5e-324" ∧
          parseLiteral "-5e-324".toList = .text "-5e-324" := by
  have largest : Scalar.Written (.float (ofDecimal false 17976931348623157 292)) :=
    .float (by decide +kernel)
  have notPower : ¬ (Scalar.float (ofDecimal false 17976931348623157 292)).IsDigitPower := by
    rintro ⟨_, ⟨⟩, isPower⟩
    exact absurd ((isBare_iff_digitPower (decimalRank_le _ _) .up).2 isPower).1 (by decide +kernel)
  have least : Scalar.Written (.float (ofDecimal true 5 (-324))) := .float (by decide +kernel)
  have isPower : (Scalar.float (ofDecimal true 5 (-324))).IsDigitPower :=
    ⟨_, rfl, .ofDecimal (by decide) (by decide) (by decide +kernel)⟩
  have literal : (Scalar.float (ofDecimal true 5 (-324))).literal = "-5e-324" := by decide +kernel
  refine ⟨⟨largest, (parseLiteral_literal_iff largest).1.2 notPower⟩, least, literal, ?_⟩
  rw [← literal]
  exact (parseLiteral_literal_iff least).2 isPower

/-- The literal of `10 ^ 16` is not read as a number. -/
theorem parseLiteral_literal_ten_pow_sixteen :
    (Scalar.float (ofDecimal false 1 16)).Written ∧
      (Scalar.float (ofDecimal false 1 16)).literal = "1e16" ∧
        parseLiteral (Scalar.float (ofDecimal false 1 16)).literal.toList = .text "1e16" ∧
          ¬ ∀ value : Scalar, value.Written → parseLiteral value.literal.toList = value := by
  have written : Scalar.Written (.float (ofDecimal false 1 16)) := .float (by decide +kernel)
  have isText : parseLiteral (Scalar.float (ofDecimal false 1 16)).literal.toList = .text "1e16" := by
    decide +kernel
  refine ⟨written, by decide +kernel, isText, fun everyRead => ?_⟩
  have isFloat := everyRead _ written
  rw [isText] at isFloat
  cases isFloat

end CsvQuery
