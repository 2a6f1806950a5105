import CsvQuery.Proofs.Scalar.WholeNumber

/-!
# Literals

A literal is the form in which a query writes a value.  The literal of an integer
is its decimal numeral, and that of a text is the text between single quotes,
whatever characters the text has.  Reading such a literal gives back the value
(`parseLiteral_literal_integer`, `parseLiteral_literal_text`).
-/

set_option autoImplicit false

namespace CsvQuery

open CsvQuery.Text

/-! ## Reading a literal -/

theorem parseLiteral_literal_integer (value : Int64) :
    parseLiteral (Scalar.integer value).literal.toList = .integer value := by
  rw [Scalar.literal, String.toList_ofList,
    parseLiteral_numeral (numeral_writeWhole value.toInt) (fitsInt64_toInt value), Int64.ofInt_toInt]

theorem literal_text_toList (content : String) :
    (Scalar.text content).literal.toList = '\'' :: (content.toList ++ ['\'']) := by
  simp [Scalar.literal]

theorem parseLiteral_literal_text (content : String) :
    parseLiteral (Scalar.text content).literal.toList = .text content := by
  have quoted : isQuotedBy '\'' ('\'' :: (content.toList ++ ['\''])) = true := by
    simp [isQuotedBy, List.getLast?_cons]
  rw [literal_text_toList, parseLiteral, quoted]
  simp

/-- A value that is an integer or a text. -/
def Scalar.IntegerOrText (value : Scalar) : Prop :=
  (∃ n, value = .integer n) ∨ ∃ content, value = .text content

/-- **Reading the literal of an integer or a text gives the value.** -/
theorem parseLiteral_literal {value : Scalar} (kind : value.IntegerOrText) :
    parseLiteral value.literal.toList = value := by
  rcases kind with ⟨n, rfl⟩ | ⟨content, rfl⟩
  · exact parseLiteral_literal_integer n
  · exact parseLiteral_literal_text content

/-! ## The ends of a literal -/

theorem literal_ne_nil {value : Scalar} (kind : value.IntegerOrText) :
    value.literal.toList ≠ [] := by
  rcases kind with ⟨n, rfl⟩ | ⟨content, rfl⟩
  · simpa [Scalar.literal] using (numeral_writeWhole n.toInt).nonempty
  · simp [literal_text_toList]

theorem startsClear_literal {value : Scalar} (kind : value.IntegerOrText) :
    StartsClear value.literal.toList := by
  rcases kind with ⟨n, rfl⟩ | ⟨content, rfl⟩
  · rw [Scalar.literal, String.toList_ofList]
    exact (numeral_writeWhole n.toInt).startsClear
  · rw [literal_text_toList]
    intro c isFirst
    cases isFirst
    decide

/-- Neither a blank nor a semicolon stands at the end of a literal. -/
theorem getLast?_literal {value : Scalar} (kind : value.IntegerOrText) :
    ∀ c ∈ value.literal.toList.getLast?, isBlank c = false ∧ c ≠ ';' := by
  rcases kind with ⟨n, rfl⟩ | ⟨content, rfl⟩
  · rw [Scalar.literal, String.toList_ofList]
    exact (numeral_writeWhole n.toInt).endsFirmly.atEnd
  · rw [literal_text_toList]
    intro c isLast
    rw [← List.cons_append, List.getLast?_concat] at isLast
    cases isLast
    decide

end CsvQuery
