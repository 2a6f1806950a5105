import CsvQuery.Binary64.Layout
import CsvQuery.Proofs.Binary64.ShortestDigits
import CsvQuery.Proofs.Scalar.Classification

/-!
# Numbers written with a point

An unsigned number with a point in it has digits in front of the point and behind it, and
then no exponent or one (`PointNumeral`).  Such a text is read as the rank of its decimal,
with a sign in front of it or without one (`PointNumeral.read?_eq`).

A layout that marks whole numbers by a point writes the shortest decimal of a rank in this
form, whichever side of the digits the point is on (`pointNumeral_plain`), and so it does with
an exponent if there is a second digit to stand behind the point
(`pointNumeral_scientific`).
-/

set_option autoImplicit false

namespace CsvQuery.Binary64

open CsvQuery.Text

/-- An unsigned number with a point in it, and the rank of its decimal. -/
inductive PointNumeral (text : List Char) (rank : Nat) : Prop where
  | mk (whole fraction rest : List Char) (exponent : Int) (nonempty : whole ≠ [])
      (wholeDigits : ∀ c ∈ whole, c.isDigit = true)
      (fractionDigits : ∀ c ∈ fraction, c.isDigit = true)
      (isExponent : readExponent? rest = some exponent)
      (written : text = whole ++ '.' :: (fraction ++ rest))
      (reads : decimalRank (digitsValue (whole ++ fraction)) (exponent - fraction.length) = rank)

/-! ## Reading -/

namespace PointNumeral

variable {text : List Char} {rank : Nat} (isNumeral : PointNumeral text rank)
include isNumeral

theorem point_mem : '.' ∈ text := by
  cases isNumeral with
  | mk _ _ _ _ _ _ _ _ written =>
      rw [written]
      exact List.mem_append_right _ (List.mem_cons_self ..)

/-- The first character is a digit. -/
theorem isDigit_head? : ∀ c ∈ text.head?, c.isDigit = true := by
  cases isNumeral with
  | mk whole fraction rest exponent nonempty wholeDigits _ _ written =>
      obtain ⟨first, others, rfl⟩ := List.exists_cons_of_ne_nil nonempty
      rw [written]
      rintro _ ⟨⟩
      exact wholeDigits first (List.mem_cons_self ..)

theorem exists_decimalText :
    ∃ significand exponent, DecimalText text significand exponent ∧
      decimalRank significand exponent = rank := by
  cases isNumeral with
  | mk whole fraction rest exponent nonempty wholeDigits fractionDigits isExponent written reads =>
      rw [written]
      have someDigit := List.append_ne_nil_of_left_ne_nil nonempty fraction
      exact ⟨_, _, .point someDigit wholeDigits fractionDigits
        (readExponent?_eq_some_iff.1 isExponent), reads⟩

/-- **A number with a point is read with its sign and its rank.** -/
theorem read?_eq (isRank : rank ≤ infinityRank) {signed : List Char} {negative : Bool}
    (sign : splitSign signed = (negative, text)) :
    read? signed = some (.signed negative rank isRank) := by
  obtain ⟨significand, exponent, isDecimal, rfl⟩ := isNumeral.exists_decimalText
  exact (read?_eq_some_iff_of_splitSign sign).2 (.decimal isDecimal)

end PointNumeral

/-! ## Writing -/

theorem digitsValue_zeros_append (zeros : Nat) (digits : List Char) :
    digitsValue (List.replicate zeros '0' ++ digits) = digitsValue digits := by
  rw [digitsValue, Nat.ofDigitChars_append, Nat.ofDigitChars_replicate_zero, Nat.mul_zero]
  rfl

theorem isDigit_of_mem_zeros {zeros : Nat} : ∀ c ∈ List.replicate zeros '0', c.isDigit = true := by
  intro c isIn
  rw [List.eq_of_mem_replicate isIn]
  decide

theorem isDigit_of_mem_append {front back : List Char} (inFront : ∀ c ∈ front, c.isDigit = true)
    (inBack : ∀ c ∈ back, c.isDigit = true) : ∀ c ∈ front ++ back, c.isDigit = true :=
  fun c isIn => (List.mem_append.1 isIn).elim (inFront c) (inBack c)

/-- A decimal whose digits are digits, at least one. -/
structure Decimal.IsProper (decimal : Decimal) : Prop where
  nonempty : decimal.digits ≠ []
  allDigits : ∀ c ∈ decimal.digits, c.isDigit = true

theorem isProper_shortest {rank : Nat} (isRank : rank ≤ infinityRank) (tie : Tie) :
    (shortest tie rank).IsProper where
  nonempty := digits_shortest_ne_nil isRank tie
  allDigits := isDigit_of_mem_shortest

/-- The rank a decimal reads back as. -/
def Decimal.rank (decimal : Decimal) : Nat := decimalRank decimal.significand decimal.exponent

variable {layout : Layout} {decimal : Decimal} (isProper : decimal.IsProper)
include isProper

theorem pointNumeral_of_point_le_zero (pointFirst : decimal.point ≤ 0) :
    PointNumeral ('0' :: '.' :: List.replicate (-decimal.point).toNat '0' ++ decimal.digits)
      decimal.rank := by
  let zeros := List.replicate (-decimal.point).toNat '0'
  have value : digitsValue (['0'] ++ (zeros ++ decimal.digits)) = decimal.significand := by
    rw [← List.append_assoc, ← List.replicate_one, ← List.replicate_add]
    exact digitsValue_zeros_append _ _
  have place : (0 : Int) - (zeros ++ decimal.digits).length = decimal.exponent := by
    rw [List.length_append, List.length_replicate, Decimal.exponent]
    omega
  refine .mk ['0'] (zeros ++ decimal.digits) [] 0 (by decide) (by decide)
    (isDigit_of_mem_append isDigit_of_mem_zeros isProper.allDigits) rfl ?_ ?_
  · rw [List.append_nil]
    rfl
  · rw [value, place, Decimal.rank]

theorem pointNumeral_of_length_le_point (whole : decimal.digits.length ≤ decimal.point.toNat) :
    PointNumeral
      (decimal.digits ++ List.replicate (decimal.point.toNat - decimal.digits.length) '0' ++
        ['.', '0'])
      decimal.rank := by
  have lengthPos := List.length_pos_iff.2 isProper.nonempty
  let zeros := decimal.point.toNat - decimal.digits.length
  have value : digitsValue (decimal.digits ++ List.replicate zeros '0' ++ ['0']) =
      decimal.significand * 10 ^ (zeros + 1) := by
    rw [List.append_assoc, ← List.replicate_one, ← List.replicate_add]
    exact digitsValue_append_zeros _ _
  have place : (0 : Int) - (['0'] : List Char).length + (zeros + 1 : Nat) = decimal.exponent := by
    rw [List.length_singleton, Decimal.exponent]
    omega
  refine .mk (decimal.digits ++ List.replicate zeros '0') ['0'] [] 0
    (List.append_ne_nil_of_left_ne_nil isProper.nonempty _)
    (isDigit_of_mem_append isProper.allDigits isDigit_of_mem_zeros) (by decide) rfl rfl ?_
  rw [value, decimalRank_mul_pow, place, Decimal.rank]

theorem pointNumeral_of_cut {place : Nat} {rest : List Char} {exponent : Int} (positive : 0 < place)
    (isExponent : readExponent? rest = some exponent)
    (places : exponent - (decimal.digits.drop place).length = decimal.exponent) :
    PointNumeral (decimal.digits.take place ++ '.' :: (decimal.digits.drop place ++ rest))
      decimal.rank := by
  refine .mk (decimal.digits.take place) (decimal.digits.drop place) rest exponent ?_
    (fun c isIn => isProper.allDigits c (List.mem_of_mem_take isIn))
    (fun c isIn => isProper.allDigits c (List.mem_of_mem_drop isIn)) isExponent rfl ?_
  · have lengthPos := List.length_pos_iff.2 isProper.nonempty
    rw [← List.length_pos_iff, List.length_take]
    exact lt_min positive lengthPos
  · rw [List.take_append_drop, places, Decimal.rank, Decimal.significand]

/-- **Around its point a decimal is written as a number with a point.** -/
theorem pointNumeral_plain (isMarked : layout.wholeMark = ['.', '0']) :
    PointNumeral (layout.plain decimal) decimal.rank := by
  rw [Layout.plain]
  split
  next pointFirst => exact pointNumeral_of_point_le_zero isProper pointFirst
  next inside =>
    simp only
    split
    next whole =>
      rw [isMarked]
      exact pointNumeral_of_length_le_point isProper whole
    next notWhole =>
      have places : (0 : Int) - (decimal.digits.drop decimal.point.toNat).length =
          decimal.exponent := by
        rw [List.length_drop, Decimal.exponent]
        omega
      have cut := pointNumeral_of_cut isProper (by omega : 0 < decimal.point.toNat)
        (rfl : readExponent? [] = some 0) places
      rwa [List.append_nil] at cut

/-- **With an exponent a decimal of more than one digit is written with a point.** -/
theorem pointNumeral_scientific (noSign : layout.exponentSign = [])
    (more : decimal.digits.length ≠ 1) :
    PointNumeral (layout.scientific decimal) decimal.rank := by
  have lengthPos := List.length_pos_iff.2 isProper.nonempty
  have fractionNonempty : (decimal.digits.drop 1).isEmpty = false := by
    rw [List.isEmpty_eq_false_iff, ← List.length_pos_iff, List.length_drop]
    omega
  have places : decimal.point - 1 - (decimal.digits.drop 1).length = decimal.exponent := by
    rw [List.length_drop, Decimal.exponent]
    omega
  have isExponent : readExponent? ('e' :: writeWhole (decimal.point - 1)) =
      some (decimal.point - 1) := readWhole?_writeWhole _
  have cut := pointNumeral_of_cut isProper Nat.one_pos isExponent places
  have written : layout.scientific decimal =
      decimal.digits.take 1 ++ '.' :: (decimal.digits.drop 1 ++ 'e' :: writeWhole (decimal.point - 1)) := by
    simp only [Layout.scientific, fractionNonempty, noSign, Bool.false_eq_true, if_false, ite_self,
      List.append_assoc, List.cons_append, List.nil_append]
  rwa [written]

end CsvQuery.Binary64
