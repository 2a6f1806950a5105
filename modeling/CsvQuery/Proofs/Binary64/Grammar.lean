import CsvQuery.Binary64.Reader
import CsvQuery.Proofs.Scalar.Numeral

/-!
# The texts that are numbers

The grammar of numbers is given here beside their reader.  A number has a sign or none, and
behind it a name, in any case of its letters, or a decimal: digits with at most one point
among or around them, and then no exponent or one.  The reader takes the longest runs of
digits, and the grammar leaves it no other choice, because neither a point nor an exponent
starts with a digit.  So what is read is exactly what the grammar derives, with the same
value (`readDecimal?_eq_some_iff`, `read?_eq_some_iff`).

A numeral is one of these texts, and the number nearest to it is the number nearest to the
whole number it stands for (`numberText_of_numeral`).
-/

set_option autoImplicit false

namespace CsvQuery.Binary64

open CsvQuery.Text

/-! ## The grammar -/

/-- The exponent at the end of a decimal: none, or the letter `e` in either case and a
numeral. -/
inductive ExponentText : List Char → Int → Prop where
  | absent : ExponentText [] 0
  | marked {mark : Char} {numeral : List Char} {n : Int} (isMark : mark = 'e' ∨ mark = 'E')
      (isNumeral : Numeral numeral n) : ExponentText (mark :: numeral) n

/-- A decimal without a sign, its digits as a whole number and the power of ten they are
multiplied by.  There may be no digit in front of the point or none behind it, but not
both. -/
inductive DecimalText : List Char → Nat → Int → Prop where
  | whole {digits tail : List Char} {exponent : Int} (nonempty : digits ≠ [])
      (allDigits : ∀ c ∈ digits, c.isDigit = true) (isExponent : ExponentText tail exponent) :
      DecimalText (digits ++ tail) (digitsValue digits) exponent
  | point {whole fraction tail : List Char} {exponent : Int} (nonempty : whole ++ fraction ≠ [])
      (wholeDigits : ∀ c ∈ whole, c.isDigit = true)
      (fractionDigits : ∀ c ∈ fraction, c.isDigit = true)
      (isExponent : ExponentText tail exponent) :
      DecimalText (whole ++ '.' :: (fraction ++ tail)) (digitsValue (whole ++ fraction))
        (exponent - fraction.length)

/-- What stands behind the sign of a number. -/
inductive UnsignedText (negative : Bool) : List Char → Binary64 → Prop where
  | nan {name : List Char} (isName : name.map Char.toLower = ['n', 'a', 'n']) :
      UnsignedText negative name .nan
  | infinity {name : List Char}
      (isName : name.map Char.toLower = ['i', 'n', 'f'] ∨
        name.map Char.toLower = ['i', 'n', 'f', 'i', 'n', 'i', 't', 'y']) :
      UnsignedText negative name (infinity negative)
  | decimal {text : List Char} {significand : Nat} {exponent : Int}
      (isDecimal : DecimalText text significand exponent) :
      UnsignedText negative text (ofDecimal negative significand exponent)

/-- A text that is a number, and the number of the format that it is read as. -/
inductive NumberText : List Char → Binary64 → Prop where
  | unsigned {text : List Char} {number : Binary64} (isNumber : UnsignedText false text number) :
      NumberText text number
  | plus {text : List Char} {number : Binary64} (isNumber : UnsignedText false text number) :
      NumberText ('+' :: text) number
  | minus {text : List Char} {number : Binary64} (isNumber : UnsignedText true text number) :
      NumberText ('-' :: text) number

/-! ## Reading a decimal -/

theorem readExponent?_eq_some_iff {tail : List Char} {exponent : Int} :
    readExponent? tail = some exponent ↔ ExponentText tail exponent := by
  constructor
  · intro isRead
    cases tail with
    | nil =>
        cases isRead
        exact .absent
    | cons mark numeral =>
        rw [readExponent?, Option.ite_none_right_eq_some, readWhole?_eq_some_iff] at isRead
        exact .marked (by simpa using isRead.1) isRead.2
  · rintro (_ | ⟨rfl | rfl, isNumeral⟩)
    · rfl
    · exact readWhole?_eq_some_iff.2 isNumeral
    · exact readWhole?_eq_some_iff.2 isNumeral

theorem takeWhile_isDigit_append {digits rest : List Char}
    (allDigits : ∀ c ∈ digits, c.isDigit = true) (stops : ∀ c ∈ rest.head?, c.isDigit = false) :
    (digits ++ rest).takeWhile Char.isDigit = digits ∧
      (digits ++ rest).dropWhile Char.isDigit = rest := by
  rw [List.takeWhile_append_of_pos allDigits, List.dropWhile_append_of_pos allDigits]
  cases rest with
  | nil => simp
  | cons c rest =>
      have stop : c.isDigit = false := stops c rfl
      simp [stop]

/-- Digits end in front of an exponent. -/
theorem ExponentText.isDigit_head? {tail : List Char} {exponent : Int}
    (isExponent : ExponentText tail exponent) : ∀ c ∈ tail.head?, c.isDigit = false := by
  rcases isExponent with _ | ⟨rfl | rfl, -⟩
  · simp
  · rintro _ ⟨⟩
    decide
  · rintro _ ⟨⟩
    decide

/-- There is no point in front of an exponent. -/
theorem ExponentText.splitFraction_eq {tail : List Char} {exponent : Int}
    (isExponent : ExponentText tail exponent) : splitFraction tail = ([], tail) := by
  rcases isExponent with _ | ⟨rfl | rfl, -⟩ <;> rfl

theorem splitFraction_cases (text : List Char) :
    (∃ rest, text = '.' :: rest ∧
        splitFraction text = (rest.takeWhile Char.isDigit, rest.dropWhile Char.isDigit)) ∨
      splitFraction text = ([], text) := by
  fun_cases splitFraction text with
  | case1 rest => exact .inl ⟨rest, rfl, rfl⟩
  | case2 => exact .inr rfl

theorem decimalText_of_readDecimal? {text : List Char} {significand : Nat} {exponent : Int}
    (isRead : readDecimal? text = some (significand, exponent)) :
    DecimalText text significand exponent := by
  have digitsTaken : ∀ text : List Char, ∀ c ∈ text.takeWhile Char.isDigit, c.isDigit = true :=
    fun _ _ isIn => List.mem_takeWhile_imp isIn
  have whole : text.takeWhile Char.isDigit ++ text.dropWhile Char.isDigit = text :=
    List.takeWhile_append_dropWhile
  rw [readDecimal?] at isRead
  -- Behind the first digits there is a point, or the exponent at once.
  rcases splitFraction_cases (text.dropWhile Char.isDigit) with ⟨rest, isPoint, cut⟩ | cut
  all_goals
    simp only [cut, Option.ite_none_left_eq_some, Option.map_eq_some_iff, Prod.mk.injEq,
      readExponent?_eq_some_iff] at isRead
    obtain ⟨someDigit, exponent, isExponent, rfl, rfl⟩ := isRead
  · have isDecimal := DecimalText.point (by simpa using someDigit) (digitsTaken text)
      (digitsTaken rest) isExponent
    rwa [List.takeWhile_append_dropWhile, ← isPoint, whole] at isDecimal
  · have isDecimal := DecimalText.whole (by simpa using someDigit) (digitsTaken text) isExponent
    rw [whole] at isDecimal
    simpa using isDecimal

/-- **What is read as a decimal is what the grammar derives.** -/
theorem readDecimal?_eq_some_iff {text : List Char} {significand : Nat} {exponent : Int} :
    readDecimal? text = some (significand, exponent) ↔ DecimalText text significand exponent := by
  refine ⟨decimalText_of_readDecimal?, fun isDecimal => ?_⟩
  cases isDecimal with
  | @whole digits tail _ nonempty allDigits isExponent =>
      obtain ⟨taken, dropped⟩ := takeWhile_isDigit_append allDigits isExponent.isDigit_head?
      rw [readDecimal?, taken, dropped, isExponent.splitFraction_eq]
      simp [nonempty, readExponent?_eq_some_iff.2 isExponent]
  | @point whole fraction tail _ nonempty wholeDigits fractionDigits isExponent =>
      have stops : ∀ c ∈ ('.' :: (fraction ++ tail)).head?, c.isDigit = false := by
        rintro _ ⟨⟩
        decide
      obtain ⟨wholeTaken, wholeDropped⟩ := takeWhile_isDigit_append wholeDigits stops
      obtain ⟨fractionTaken, fractionDropped⟩ :=
        takeWhile_isDigit_append fractionDigits isExponent.isDigit_head?
      have someDigit : (whole.isEmpty && fraction.isEmpty) = false := by
        simpa using nonempty
      rw [readDecimal?, wholeTaken, wholeDropped, splitFraction, fractionTaken, fractionDropped]
      simp [someDigit, readExponent?_eq_some_iff.2 isExponent]

/-! ## Reading a number -/

/-- A decimal starts with a digit or with its point. -/
theorem DecimalText.exists_head? {text : List Char} {significand : Nat} {exponent : Int}
    (isDecimal : DecimalText text significand exponent) :
    ∃ c, text.head? = some c ∧ (c.isDigit = true ∨ c = '.') := by
  cases isDecimal with
  | whole nonempty allDigits =>
      obtain ⟨first, others, rfl⟩ := List.exists_cons_of_ne_nil nonempty
      exact ⟨first, rfl, .inl (allDigits first (List.mem_cons_self ..))⟩
  | @point whole fraction tail _ nonempty wholeDigits =>
      cases whole with
      | nil => exact ⟨'.', rfl, .inr rfl⟩
      | cons first others => exact ⟨first, rfl, .inl (wholeDigits first (List.mem_cons_self ..))⟩

/-- A decimal is no name: a name starts with a letter. -/
theorem DecimalText.map_toLower_ne {text : List Char} {significand : Nat} {exponent : Int}
    (isDecimal : DecimalText text significand exponent) {first : Char}
    (notDigit : first.isDigit = false) (notPoint : first ≠ '.') (others : List Char) :
    text.map Char.toLower ≠ first :: others := by
  intro isName
  obtain ⟨c, isFirst, shape⟩ := isDecimal.exists_head?
  have lowered : c.toLower = first := by
    have heads := congrArg List.head? isName
    rw [List.head?_map, isFirst] at heads
    exact Option.some.inj heads
  rcases shape with isDigit | rfl
  · rw [toLower_of_isDigit isDigit] at lowered
    rw [lowered, notDigit] at isDigit
    cases isDigit
  · exact notPoint lowered.symm

/-- There is only one sign in front of a number. -/
theorem UnsignedText.noSign {negative : Bool} {text : List Char} {number : Binary64}
    (isNumber : UnsignedText negative text number) : ∀ c ∈ text.head?, c ≠ '-' ∧ c ≠ '+' := by
  intro c isFirst
  have lowered : (text.map Char.toLower).head? = some c.toLower := by
    rw [List.head?_map, Option.mem_def.1 isFirst, Option.map_some]
  cases isNumber with
  | nan isName =>
      rw [isName] at lowered
      constructor <;> rintro rfl <;> exact absurd lowered (by decide)
  | infinity isName =>
      rcases isName with isName | isName
      all_goals
        rw [isName] at lowered
        constructor <;> rintro rfl <;> exact absurd lowered (by decide)
  | decimal isDecimal =>
      obtain ⟨first, isHead, shape⟩ := isDecimal.exists_head?
      cases isFirst.symm.trans isHead
      constructor <;> rintro rfl <;> exact absurd shape (by decide)

theorem read?_eq_some_iff_of_splitSign {text unsigned : List Char} {negative : Bool}
    (sign : splitSign text = (negative, unsigned)) {number : Binary64} :
    read? text = some number ↔ UnsignedText negative unsigned number := by
  rw [read?, sign]
  simp only
  constructor
  · intro isRead
    split at isRead
    next isName =>
      cases isRead
      exact .nan (eq_of_beq isName)
    next =>
      split at isRead
      next isName =>
        cases isRead
        exact .infinity (by simpa using isName)
      next =>
        obtain ⟨⟨significand, exponent⟩, isDecimal, rfl⟩ := Option.map_eq_some_iff.1 isRead
        exact .decimal (readDecimal?_eq_some_iff.1 isDecimal)
  · intro isNumber
    cases isNumber with
    | nan isName =>
        rw [isName]
        rfl
    | infinity isName =>
        rcases isName with isName | isName
        all_goals
          rw [isName]
          rfl
    | decimal isDecimal =>
        have noName : ∀ {first : Char} (others : List Char), first.isDigit = false → first ≠ '.' →
            (unsigned.map Char.toLower == first :: others) = false :=
          fun others notDigit notPoint =>
            beq_eq_false_iff_ne.2 (isDecimal.map_toLower_ne notDigit notPoint others)
        simp [noName, readDecimal?_eq_some_iff.2 isDecimal]

/-- **What is read as a number is what the grammar derives.** -/
theorem read?_eq_some_iff {text : List Char} {number : Binary64} :
    read? text = some number ↔ NumberText text number := by
  constructor
  · intro isRead
    rcases splitSign_cases text with ⟨unsigned, rfl, sign⟩ | ⟨unsigned, rfl, sign⟩ | sign
    all_goals
      have isNumber := (read?_eq_some_iff_of_splitSign sign).1 isRead
    · exact .minus isNumber
    · exact .plus isNumber
    · exact .unsigned isNumber
  · intro isNumber
    cases isNumber with
    | unsigned isNumber =>
        exact (read?_eq_some_iff_of_splitSign (splitSign_eq_self isNumber.noSign)).2 isNumber
    | plus isNumber => exact (read?_eq_some_iff_of_splitSign rfl).2 isNumber
    | minus isNumber => exact (read?_eq_some_iff_of_splitSign rfl).2 isNumber

/-! ## Numerals as numbers -/

theorem decimalRank_zero_exponent (significand : Nat) :
    decimalRank significand 0 = nearestRank (significand * oneInUnits) 1 := by
  by_cases zero : significand = 0
  · subst zero
    decide +kernel
  · rw [decimalRank, if_neg zero, if_neg (by decide), if_neg (by omega), if_pos (Int.le_refl 0)]
    simp

/-- A decimal without an exponent is nearest to its whole number.  Only a zero has a sign that
the whole number does not keep. -/
theorem ofDecimal_zero_exponent {significand : Nat} (nonzero : significand ≠ 0) (negative : Bool) :
    ofDecimal negative significand 0 = ofInt (withSign negative significand) := by
  have isNegative : decide (withSign negative significand < 0) = negative := by
    cases negative <;> simp only [withSign, Bool.false_eq_true, if_true, if_false, decide_eq_true_eq,
      decide_eq_false_iff_not] <;> omega
  have magnitude : (withSign negative significand).natAbs = significand := by
    cases negative <;> simp [withSign]
  simp only [ofDecimal, ofInt, isNegative, magnitude, decimalRank_zero_exponent]

theorem unsignedText_digits {digits : List Char} (nonempty : digits ≠ [])
    (allDigits : ∀ c ∈ digits, c.isDigit = true) (nonzero : digitsValue digits ≠ 0)
    (negative : Bool) :
    UnsignedText negative digits (ofInt (withSign negative (digitsValue digits))) := by
  have isDecimal := DecimalText.whole nonempty allDigits .absent
  rw [List.append_nil] at isDecimal
  rw [← ofDecimal_zero_exponent nonzero]
  exact .decimal isDecimal

/-- **A numeral of a number other than zero is the number nearest to it.** -/
theorem numberText_of_numeral {text : List Char} {n : Int} (isNumeral : Numeral text n)
    (nonzero : n ≠ 0) : NumberText text (ofInt n) := by
  cases isNumeral with
  | unsigned nonempty allDigits =>
      exact .unsigned (unsignedText_digits nonempty allDigits (by omega) false)
  | plus nonempty allDigits =>
      exact .plus (unsignedText_digits nonempty allDigits (by omega) false)
  | minus nonempty allDigits =>
      exact .minus (unsignedText_digits nonempty allDigits (by omega) true)

end CsvQuery.Binary64
