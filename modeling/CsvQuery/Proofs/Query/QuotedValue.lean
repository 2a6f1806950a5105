import CsvQuery.Proofs.Query.WrittenQuery

/-!
# Operators inside a quoted value

The scan for operators does not know of quotes: it looks at the whole condition
for one operator after the other.  So a condition with a quoted value is read at
the first operator in scan order that is the written one or occurs between the
quotes, and it is read as it was written exactly when no operator that is scanned
before the written one occurs between the quotes (`Query.parse_comparing`).
-/

set_option autoImplicit false

namespace CsvQuery

open CsvQuery.Text

/-- The operator at which the scan stops, if a condition is written with `operator`
in front of a quoted text and no operator occurs in its column. -/
structure Operator.StopsScan (operator : Operator) (content : List Char) (stop : Operator) :
    Prop where
  occurs : stop = operator ∨ stop.symbol <:+: content
  first : ∀ earlier ∈ stop.scannedBefore, earlier ≠ operator ∧ ¬ earlier.symbol <:+: content

/-- All columns of a table, for the rows whose cell compares with a text. -/
def Query.comparing (column : String) (operator : Operator) (content : String) : Query where
  selection := .wildcard
  source := "t"
  condition := some { column, operator, value := .text content }

/-! ## The operator that is read -/

theorem Operator.scannedBefore_trichotomy (first second : Operator) :
    first = second ∨ first ∈ second.scannedBefore ∨ second ∈ first.scannedBefore := by
  cases first <;> cases second <;> decide

/-- An operator that occurs in a text makes the scan stop somewhere. -/
theorem exists_findOperator?_of_infix {operator : Operator} {text : List Char}
    (occurs : operator.symbol <:+: text) :
    ∃ stop before after, findOperator? text = some (stop, before, after) := by
  have stops : findOperator? text ≠ none :=
    fun through => findOperator?_eq_none_iff.1 through operator occurs
  obtain ⟨⟨stop, before, after⟩, found⟩ := Option.ne_none_iff_exists'.1 stops
  exact ⟨stop, before, after, found⟩

theorem Operator.stopsScan_of_first {operator stop : Operator} {content : List Char}
    (occurs : stop.symbol <:+: operator.symbol ∨ stop.symbol <:+: content)
    (first : ∀ earlier ∈ stop.scannedBefore,
      ¬ (earlier.symbol <:+: operator.symbol ∨ earlier.symbol <:+: content)) :
    operator.StopsScan content stop := by
  have notEarlier : operator ∉ stop.scannedBefore := fun isEarlier =>
    first operator isEarlier (.inl List.infix_rfl)
  refine ⟨?_, fun earlier isEarlier => ⟨?_, fun inContent => ?_⟩⟩
  · rcases occurs with inSymbol | inContent
    · rcases Operator.scannedBefore_trichotomy stop operator with same | isEarlier | isEarlier
      · exact .inl same
      · exact absurd inSymbol (Operator.not_infix_symbol_of_scannedBefore isEarlier)
      · exact absurd isEarlier notEarlier
    · exact .inr inContent
  · rintro rfl
    exact notEarlier isEarlier
  · exact first earlier isEarlier (.inr inContent)

theorem Operator.stopsScan_self_iff {operator : Operator} {content : List Char} :
    operator.StopsScan content operator ↔
      ∀ earlier ∈ operator.scannedBefore, ¬ earlier.symbol <:+: content := by
  constructor
  · intro stops earlier isEarlier
    exact (stops.first earlier isEarlier).2
  · intro clear
    refine ⟨.inl rfl, fun earlier isEarlier => ⟨?_, clear earlier isEarlier⟩⟩
    rintro rfl
    exact Operator.not_infix_symbol_of_scannedBefore isEarlier List.infix_rfl

/-! ## Reading a comparison with a quoted text -/

theorem Query.headWritable_comparing (column : String) (operator : Operator) (content : String) :
    (Query.comparing column operator content).HeadWritable where
  sourceNonempty := by simp [Query.comparing]
  sourceChars := by simp only [Query.comparing]; decide
  sourceNoWhere := (splitAtWord?_eq_none_iff isKeyword_where "t".toList).1 (by decide)
  selection := trivial

section Comparing

variable {column : String} (trimmed : trim column.toList = column.toList)
variable (noOperator : ∀ c ∈ ['=', '<', '>'], c ∉ column.toList)
variable (operator : Operator) (content : String)
include noOperator

theorem infix_clause_comparing_iff (other : Operator) :
    other.symbol <:+: Condition.clause { column, operator, value := .text content } ↔
      other.symbol <:+: operator.symbol ∨ other.symbol <:+: content.toList := by
  have inLiteral := infix_literal_iff (.inr ⟨content, rfl⟩) other
  rw [infix_clause_iff, inLiteral]
  simp [other.not_infix_of_clear noOperator]

include trimmed

/-- The condition is read at the operator where the scan stops. -/
theorem Condition.exists_parse_comparing :
    ∃ read, Condition.parse (Condition.clause { column, operator, value := .text content }) =
        .ok read ∧ operator.StopsScan content.toList read.operator := by
  let condition : Condition := { column, operator, value := .text content }
  have kind : condition.value.IntegerOrText := .inr ⟨content, rfl⟩
  have inClause := infix_clause_comparing_iff noOperator operator content
  obtain ⟨stop, before, after, found⟩ :=
    exists_findOperator?_of_infix ((inClause operator).2 (.inl List.infix_rfl))
  obtain ⟨cut, first⟩ := findOperator?_eq_some_iff.1 found
  have stops : operator.StopsScan content.toList stop := by
    refine Operator.stopsScan_of_first ((inClause stop).1 ?_) fun earlier isEarlier => ?_
    · exact ⟨before, after, (eq_append_of_splitAtSymbol? cut).symm⟩
    · rw [← inClause]
      exact first earlier isEarlier
  have sameClause : withoutTerminator condition.clause = condition.clause :=
    withoutTerminator_clause trimmed kind
  refine ⟨⟨String.ofList (trim before), stop, parseLiteral (trim after)⟩, ?_, stops⟩
  rw [Condition.parse, sameClause, found]

/-- **A comparison with a quoted text is read at the operator where the scan
stops, and as it was written exactly when that is the written operator.** -/
theorem Query.parse_comparing :
    ∃ read, Query.parse (String.ofList (Query.comparing column operator content).written) =
        .ok { selection := .wildcard, source := "t", condition := some read } ∧
      operator.StopsScan content.toList read.operator ∧
      (read = { column, operator, value := .text content } ↔
        ∀ earlier ∈ operator.scannedBefore, ¬ earlier.symbol <:+: content.toList) := by
  let condition : Condition := { column, operator, value := .text content }
  have kind : condition.value.IntegerOrText := .inr ⟨content, rfl⟩
  obtain ⟨read, isRead, stops⟩ :=
    Condition.exists_parse_comparing trimmed noOperator operator content
  refine ⟨read, ?_, stops, ?_, ?_⟩
  · rw [Query.parse_written_condition (Query.headWritable_comparing column operator content) rfl
      trimmed kind, isRead]
    rfl
  · rintro rfl
    exact Operator.stopsScan_self_iff.1 stops
  · intro clear
    have scannable : condition.Scannable :=
      { ownSymbol := operator.not_infix_of_clear noOperator
        earlierInColumn := fun earlier _ => earlier.not_infix_of_clear noOperator
        earlierInText := by
          rintro _ ⟨⟩
          exact clear }
    have asWritten : Condition.parse condition.clause = .ok condition :=
      Condition.parse_clause trimmed kind scannable
    exact Except.ok.inj (isRead.symm.trans asWritten)

end Comparing

theorem Query.parse_comparing_keywords_between_quotes :
    trim "expr".toList = "expr".toList ∧ (∀ c ∈ ['=', '<', '>'], c ∉ "expr".toList) ∧
      Query.parse
          (String.ofList (Query.comparing "expr" .eq "x = 'y' < z; WHERE a FROM b;").written) =
        .ok (Query.comparing "expr" .eq "x = 'y' < z; WHERE a FROM b;") := by
  have trimmed : trim "expr".toList = "expr".toList := by decide
  have noOperator : ∀ c ∈ ['=', '<', '>'], c ∉ "expr".toList := by decide
  refine ⟨trimmed, noOperator, ?_⟩
  obtain ⟨read, isRead, -, asWritten⟩ :=
    Query.parse_comparing trimmed noOperator .eq "x = 'y' < z; WHERE a FROM b;"
  rw [isRead, asWritten.2 (by decide)]
  rfl

/-- Quotes do not hide a `>=` from the scan: it goes before the `=` in front of
them. -/
theorem Query.parse_operator_between_quotes :
    ¬ ∀ (column : String) (operator : Operator) (content : String),
      trim column.toList = column.toList → (∀ c ∈ ['=', '<', '>'], c ∉ column.toList) →
        Query.parse (String.ofList (Query.comparing column operator content).written) =
          .ok (Query.comparing column operator content) := by
  intro hidden
  have trimmed : trim "expr".toList = "expr".toList := by decide
  have asWritten := hidden "expr" .eq "a>=b" trimmed (by decide)
  have isRead : Condition.parse
      (Condition.clause { column := "expr", operator := .eq, value := .text "a>=b" }) =
        .ok { column := "expr = 'a", operator := .ge, value := .text "b'" } := rfl
  rw [Query.parse_written_condition (Query.headWritable_comparing "expr" .eq "a>=b") rfl trimmed
    (.inr ⟨_, rfl⟩), isRead] at asWritten
  have sameQuery := Except.ok.inj asWritten
  simp [Query.comparing] at sameQuery

end CsvQuery
