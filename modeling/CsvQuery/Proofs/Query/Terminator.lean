import CsvQuery.Query.Condition
import CsvQuery.Proofs.Text.Trimming

/-!
# The semicolon at the end

Cutting the terminator off a text looks at the end of the text only.  So a text that
ends with something else keeps all of it (`withoutTerminator_eq_self`), and a value
behind such a text and a space is cut as it would be alone
(`withoutTerminator_append`).  A statement is cut once as a whole and its filter once
more, so two cuts are made at the end of a value.
-/

set_option autoImplicit false

namespace CsvQuery

open CsvQuery.Text

/-- A text that ends with a character that is neither a blank nor a semicolon. -/
structure EndsFirmly (text : List Char) : Prop where
  nonempty : text ≠ []
  atEnd : ∀ c ∈ text.getLast?, isBlank c = false ∧ c ≠ ';'

namespace EndsFirmly

theorem endsClear {text : List Char} (firm : EndsFirmly text) : EndsClear text :=
  fun c isLast => (firm.atEnd c isLast).1

theorem append {text : List Char} (firm : EndsFirmly text) (front : List Char) :
    EndsFirmly (front ++ text) where
  nonempty := List.append_ne_nil_of_right_ne_nil front firm.nonempty
  atEnd := by
    rw [List.getLast?_append_of_ne_nil front firm.nonempty]
    exact firm.atEnd

end EndsFirmly

/-! ## One cut -/

/-- A text without a semicolon at its end. -/
def withoutSemicolon (text : List Char) : List Char :=
  if text.getLast? = some ';' then text.dropLast else text

theorem withoutTerminator_eq (text : List Char) :
    withoutTerminator text = trim (withoutSemicolon (trim text)) := rfl

theorem withoutSemicolon_eq_self {text : List Char} (other : text.getLast? ≠ some ';') :
    withoutSemicolon text = text := if_neg other

theorem withoutSemicolon_append {text : List Char} (nonempty : text ≠ []) (front : List Char) :
    withoutSemicolon (front ++ text) = front ++ withoutSemicolon text := by
  rw [withoutSemicolon, withoutSemicolon, List.getLast?_append_of_ne_nil front nonempty,
    List.dropLast_append_of_ne_nil nonempty]
  split <;> rfl

theorem isPrefix_withoutSemicolon (text : List Char) : withoutSemicolon text <+: text := by
  rw [withoutSemicolon]
  split
  · exact List.dropLast_prefix text
  · exact List.prefix_rfl

theorem withoutTerminator_trim (text : List Char) :
    withoutTerminator (trim text) = withoutTerminator text := by
  rw [withoutTerminator_eq, trim_trim, withoutTerminator_eq]

theorem withoutTerminator_of_trim_eq {first second : List Char} (same : trim first = trim second) :
    withoutTerminator first = withoutTerminator second := by
  rw [withoutTerminator_eq, same, withoutTerminator_eq]

/-- A text between characters that are neither blanks nor, at its end, a semicolon
loses nothing to the terminator. -/
theorem withoutTerminator_eq_self {text : List Char} (startsClear : StartsClear text)
    (atEnd : ∀ c ∈ text.getLast?, isBlank c = false ∧ c ≠ ';') :
    withoutTerminator text = text := by
  have trimmed : trim text = text := trim_eq_self startsClear fun c isLast => (atEnd c isLast).1
  have noSemicolon : text.getLast? ≠ some ';' := fun isLast => (atEnd ';' isLast).2 rfl
  rw [withoutTerminator_eq, trimmed, withoutSemicolon_eq_self noSemicolon, trimmed]

/-- A terminator behind a trimmed text is what is cut away. -/
theorem withoutTerminator_append_semicolon (text : List Char) :
    withoutTerminator (text ++ [';']) = trim text := by
  have semicolonEndsClear : EndsClear [';'] := by
    intro c isLast
    cases isLast
    decide
  by_cases blank : trimStart text = []
  · have textBlanks : Blanks text := by
      obtain ⟨gap, blanks, split⟩ := exists_blanks_trimStart text
      rwa [split, blank, List.append_nil]
    rw [withoutTerminator_of_trim_eq (trim_blanks_append textBlanks [';']), trim_blanks textBlanks]
    rfl
  · have trimmed : trim (text ++ [';']) = trimStart text ++ [';'] := by
      rw [← trim_trimStart_append]
      exact trim_eq_self ((startsClear_trimStart text).append blank _)
        (semicolonEndsClear.append (List.cons_ne_nil _ _) _)
    have alone : withoutSemicolon [';'] = [] := rfl
    rw [withoutTerminator_eq, trimmed, withoutSemicolon_append (List.cons_ne_nil _ _), alone,
      trim_trimStart_append, List.append_nil]

/-! ## A value behind a text -/

theorem EndsFirmly.trimStart {text : List Char} (firm : EndsFirmly text) :
    EndsFirmly (trimStart text) := by
  obtain ⟨gap, blanks, split⟩ := exists_blanks_trimStart text
  have nonempty : Text.trimStart text ≠ [] := fun empty =>
    firm.endsClear.not_blanks firm.nonempty (trimStart_eq_nil_iff.1 empty)
  refine ⟨nonempty, fun c isLast => firm.atEnd c ?_⟩
  rwa [split, List.getLast?_append_of_ne_nil gap nonempty]

/-- A value without its terminator.  The blanks in front of it are kept, because they
are not at the front of a text that the value stands behind. -/
def unterminated (value : List Char) : List Char :=
  value.takeWhile isBlank ++ withoutSemicolon (trim value)

/-- A value is blanks, its trimmed form and blanks. -/
theorem exists_eq_takeWhile_append_trim (value : List Char) :
    ∃ behind, Blanks behind ∧ value = value.takeWhile isBlank ++ (trim value ++ behind) := by
  obtain ⟨behind, blanks, split⟩ := exists_trimEnd_blanks (trimStart value)
  refine ⟨behind, blanks, ?_⟩
  conv_lhs => rw [← List.takeWhile_append_dropWhile (p := isBlank) (l := value)]
  exact congrArg (value.takeWhile isBlank ++ ·) split

theorem blanks_takeWhile (value : List Char) : Blanks (value.takeWhile isBlank) :=
  fun _ isIn => List.mem_takeWhile_imp isIn

theorem isPrefix_unterminated (value : List Char) : unterminated value <+: value := by
  obtain ⟨behind, -, split⟩ := exists_eq_takeWhile_append_trim value
  conv_rhs => rw [split]
  apply (List.prefix_append_right_inj _).2
  exact (isPrefix_withoutSemicolon _).trans (List.prefix_append _ _)

theorem trim_unterminated (value : List Char) :
    trim (unterminated value) = withoutTerminator value := by
  rw [unterminated, trim_blanks_append (blanks_takeWhile value), withoutTerminator_eq]

/-- **What a cut leaves of a value does not depend on the text in front of it.** -/
theorem withoutTerminator_append {front : List Char} (firm : EndsFirmly front)
    (value : List Char) :
    withoutTerminator (front ++ ' ' :: value) = trim (front ++ ' ' :: unterminated value) := by
  let kept := trimStart front ++ ' ' :: value.takeWhile isBlank
  obtain ⟨behind, blanks, split⟩ := exists_eq_takeWhile_append_trim value
  have startsClear : StartsClear kept :=
    (startsClear_trimStart front).append firm.trimStart.nonempty _
  have trimmed : trim (front ++ ' ' :: value) = trim (kept ++ trim value) := by
    have parts : trimStart front ++ ' ' :: value = kept ++ trim value ++ behind := by
      conv_lhs => rw [split]
      simp [kept]
    rw [← trim_trimStart_append, parts, trim_append_blanks blanks]
  have cut : withoutTerminator (kept ++ trim value) =
      trim (kept ++ withoutSemicolon (trim value)) := by
    by_cases blank : trim value = []
    · -- Nothing but blanks stands behind the front, which keeps its last character.
      have gap : Blanks (' ' :: value.takeWhile isBlank) :=
        blanks_space.append (blanks_takeWhile value)
      have nothing : withoutSemicolon [] = [] := rfl
      rw [blank, nothing, List.append_nil,
        withoutTerminator_of_trim_eq (trim_append_blanks gap (trimStart front)),
        withoutTerminator_eq_self (startsClear_trimStart front) firm.trimStart.atEnd,
        trim_append_blanks gap,
        trim_eq_self (startsClear_trimStart front) firm.trimStart.endsClear]
    · have whole : trim (kept ++ trim value) = kept ++ trim value :=
        trim_eq_self (startsClear.append (by simp [kept]) _) ((endsClear_trim value).append blank _)
      rw [withoutTerminator_eq, whole, withoutSemicolon_append blank]
  have sameKept : kept ++ withoutSemicolon (trim value) =
      trimStart front ++ ' ' :: unterminated value := by
    simp [kept, unterminated]
  rw [withoutTerminator_of_trim_eq trimmed, cut, sameKept, trim_trimStart_append]

/-- Two cuts at the end of a value, behind a text or alone. -/
theorem withoutTerminator_twice_append {front : List Char} (firm : front ≠ [] → EndsFirmly front)
    (value : List Char) :
    withoutTerminator (withoutTerminator (front ++ ' ' :: value)) =
      trim (front ++ ' ' :: unterminated (unterminated value)) := by
  by_cases empty : front = []
  · have alone : withoutTerminator (' ' :: value) = trim (unterminated value) := by
      rw [trim_unterminated, withoutTerminator_of_trim_eq (trim_space_cons value)]
    rw [empty, List.nil_append, alone, withoutTerminator_trim, ← trim_unterminated,
      List.nil_append, trim_space_cons]
  · rw [withoutTerminator_append (firm empty), withoutTerminator_trim,
      withoutTerminator_append (firm empty)]

end CsvQuery
