import CsvQuery.Proofs.Query.Terminator
import CsvQuery.Proofs.Text.WholeWord

/-!
# Numerals

A numeral is a run of decimal digits with a sign in front of it or none, and leading
zeros do not count.  These are exactly the texts that are read as whole numbers
(`readWhole?_eq_some_iff`).
-/

set_option autoImplicit false

namespace CsvQuery

open CsvQuery.Text

/-- The whole number that a text in decimal digits stands for. -/
inductive Numeral : List Char → Int → Prop where
  | unsigned {digits : List Char} (nonempty : digits ≠ [])
      (allDigits : ∀ c ∈ digits, c.isDigit = true) : Numeral digits (digitsValue digits)
  | plus {digits : List Char} (nonempty : digits ≠ [])
      (allDigits : ∀ c ∈ digits, c.isDigit = true) : Numeral ('+' :: digits) (digitsValue digits)
  | minus {digits : List Char} (nonempty : digits ≠ [])
      (allDigits : ∀ c ∈ digits, c.isDigit = true) :
      Numeral ('-' :: digits) (-(digitsValue digits : Int))

/-! ## Reading a numeral -/

theorem splitSign_cases (text : List Char) :
    (∃ digits, text = '-' :: digits ∧ splitSign text = (true, digits)) ∨
      (∃ digits, text = '+' :: digits ∧ splitSign text = (false, digits)) ∨
        splitSign text = (false, text) := by
  fun_cases splitSign text with
  | case1 digits => exact .inl ⟨digits, rfl, rfl⟩
  | case2 digits => exact .inr (.inl ⟨digits, rfl, rfl⟩)
  | case3 => exact .inr (.inr rfl)

/-- A text that starts with no sign has none. -/
theorem splitSign_eq_self {text : List Char} (noSign : ∀ c ∈ text.head?, c ≠ '-' ∧ c ≠ '+') :
    splitSign text = (false, text) := by
  rcases splitSign_cases text with ⟨rest, rfl, -⟩ | ⟨rest, rfl, -⟩ | sign
  · exact absurd rfl (noSign '-' rfl).1
  · exact absurd rfl (noSign '+' rfl).2
  · exact sign

theorem splitSign_eq_of_isDigit_head? {text : List Char}
    (startsWithDigit : ∀ c ∈ text.head?, c.isDigit = true) : splitSign text = (false, text) := by
  refine splitSign_eq_self fun c isFirst => ?_
  have isDigit := startsWithDigit c isFirst
  constructor
  · rintro rfl
    cases isDigit
  · rintro rfl
    cases isDigit

theorem splitSign_digits {digits : List Char} (allDigits : ∀ c ∈ digits, c.isDigit = true) :
    splitSign digits = (false, digits) :=
  splitSign_eq_of_isDigit_head? fun c isFirst => allDigits c (List.mem_of_mem_head? isFirst)

theorem readWhole?_eq_some_iff_of_splitSign {text digits : List Char} {negative : Bool}
    (sign : splitSign text = (negative, digits)) {n : Int} :
    readWhole? text = some n ↔
      digits ≠ [] ∧ (∀ c ∈ digits, c.isDigit = true) ∧ n = withSign negative (digitsValue digits) := by
  have accepted : (digits.isEmpty || !digits.all Char.isDigit) = false ↔
      digits ≠ [] ∧ ∀ c ∈ digits, c.isDigit = true := by
    simp
  simp only [readWhole?, sign]
  rw [Option.ite_none_left_eq_some, Bool.not_eq_true, accepted, Option.some.injEq, and_assoc,
    eq_comm (a := n)]

/-- **A text is read as a whole number exactly when it is a numeral of it.** -/
theorem readWhole?_eq_some_iff {text : List Char} {n : Int} :
    readWhole? text = some n ↔ Numeral text n := by
  constructor
  · intro isRead
    rcases splitSign_cases text with ⟨digits, rfl, sign⟩ | ⟨digits, rfl, sign⟩ | sign
    all_goals
      obtain ⟨nonempty, allDigits, rfl⟩ := (readWhole?_eq_some_iff_of_splitSign sign).1 isRead
    · exact .minus nonempty allDigits
    · exact .plus nonempty allDigits
    · exact .unsigned nonempty allDigits
  · intro isNumeral
    cases isNumeral with
    | unsigned nonempty allDigits =>
        exact (readWhole?_eq_some_iff_of_splitSign (splitSign_digits allDigits)).2
          ⟨nonempty, allDigits, rfl⟩
    | plus nonempty allDigits =>
        exact (readWhole?_eq_some_iff_of_splitSign rfl).2 ⟨nonempty, allDigits, rfl⟩
    | minus nonempty allDigits =>
        exact (readWhole?_eq_some_iff_of_splitSign rfl).2 ⟨nonempty, allDigits, rfl⟩

theorem isDigit_of_mem_toDigits {n : Nat} {c : Char} (isIn : c ∈ Nat.toDigits 10 n) :
    c.isDigit = true :=
  Nat.isDigit_of_mem_toDigits (by decide) (by decide) isIn

/-- **A number is written as a numeral of it.** -/
theorem numeral_writeWhole (n : Int) : Numeral (writeWhole n) n := by
  have signed := @Numeral.minus (Nat.toDigits 10 n.natAbs) Nat.toDigits_ne_nil
    fun c isIn => isDigit_of_mem_toDigits isIn
  have unsigned := @Numeral.unsigned (Nat.toDigits 10 n.natAbs) Nat.toDigits_ne_nil
    fun c isIn => isDigit_of_mem_toDigits isIn
  have value : digitsValue (Nat.toDigits 10 n.natAbs) = n.natAbs :=
    Nat.ofDigitChars_ten_toDigits
  rw [value] at signed unsigned
  rw [writeWhole]
  split
  next negative =>
    have minus : -(n.natAbs : Int) = n := by omega
    rwa [minus] at signed
  next nonnegative =>
    have plus : (n.natAbs : Int) = n := by omega
    rwa [plus] at unsigned

/-- Reading the numeral of a number gives the number. -/
theorem readWhole?_writeWhole (n : Int) : readWhole? (writeWhole n) = some n :=
  readWhole?_eq_some_iff.2 (numeral_writeWhole n)

/-! ## The characters of a numeral -/

theorem isBlank_eq_false_of_isDigit {c : Char} (isDigit : c.isDigit = true) :
    isBlank c = false := by
  rw [← Bool.not_eq_true]
  intro blank
  obtain ⟨blanks, blanksIn, low, high⟩ := (inRanges_iff blankRanges c).1 blank
  simp only [blankRanges, List.mem_cons, Prod.ext_iff, List.not_mem_nil, or_false] at blanksIn
  have code : 48 ≤ c.toNat ∧ c.toNat ≤ 57 := Char.isDigit_iff_toNat.1 isDigit
  omega

theorem toLower_of_isDigit {c : Char} (isDigit : c.isDigit = true) : c.toLower = c := by
  have digits : ∀ n ∈ List.range' 48 10, (Char.ofNat n).toLower = Char.ofNat n := by decide
  obtain ⟨low, high⟩ : 48 ≤ c.toNat ∧ c.toNat ≤ 57 := Char.isDigit_iff_toNat.1 isDigit
  have same := digits c.toNat (List.mem_range'_1.2 (by omega))
  rwa [Char.ofNat_toNat] at same

namespace Numeral

variable {text : List Char} {n : Int} (isNumeral : Numeral text n)
include isNumeral

theorem nonempty : text ≠ [] := by
  cases isNumeral with
  | unsigned nonempty => exact nonempty
  | plus => exact List.cons_ne_nil _ _
  | minus => exact List.cons_ne_nil _ _

theorem isDigit_or_sign : ∀ c ∈ text, c.isDigit = true ∨ c = '+' ∨ c = '-' := by
  cases isNumeral with
  | unsigned _ allDigits => exact fun c isIn => .inl (allDigits c isIn)
  | plus _ allDigits =>
      intro c isIn
      rcases List.mem_cons.1 isIn with isSign | inDigits
      · exact .inr (.inl isSign)
      · exact .inl (allDigits c inDigits)
  | minus _ allDigits =>
      intro c isIn
      rcases List.mem_cons.1 isIn with isSign | inDigits
      · exact .inr (.inr isSign)
      · exact .inl (allDigits c inDigits)

theorem not_mem {c : Char} (notDigit : c.isDigit = false) (notPlus : c ≠ '+') (notMinus : c ≠ '-') :
    c ∉ text := by
  intro isIn
  rcases isNumeral.isDigit_or_sign c isIn with isDigit | isPlus | isMinus
  · rw [notDigit] at isDigit
    cases isDigit
  · exact notPlus isPlus
  · exact notMinus isMinus

theorem point_not_mem : '.' ∉ text :=
  isNumeral.not_mem (by decide) (by decide) (by decide)

theorem isBlank_eq_false : ∀ c ∈ text, isBlank c = false := by
  intro c isIn
  rcases isNumeral.isDigit_or_sign c isIn with isDigit | rfl | rfl
  · exact isBlank_eq_false_of_isDigit isDigit
  · decide
  · decide

theorem startsClear : StartsClear text :=
  fun c isFirst => isNumeral.isBlank_eq_false c (List.mem_of_mem_head? isFirst)

theorem endsFirmly : EndsFirmly text := by
  refine ⟨isNumeral.nonempty, fun c isLast => ?_⟩
  have isIn := List.mem_of_mem_getLast? isLast
  refine ⟨isNumeral.isBlank_eq_false c isIn, ?_⟩
  rintro rfl
  exact isNumeral.not_mem (by decide) (by decide) (by decide) isIn

end Numeral

end CsvQuery
