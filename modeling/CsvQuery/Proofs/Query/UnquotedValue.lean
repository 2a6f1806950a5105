import CsvQuery.Proofs.Query.WrittenQuery
import CsvQuery.Proofs.Scalar.Classification

/-!
# Comparisons with an unquoted value

`SELECT * FROM source WHERE column marks value` is typed with spaces between its
parts, and neither the column nor the value has an operator in it.  Then the scan
for operators sees nothing but the marks: what it finds in the whole condition is
what it finds in them, with the column in front and the value behind
(`findOperator?_between`).  So the marks alone decide how the statement is read
(`Query.parse_comparisonText`), and it is read as it is meant when the marks are the
symbol of an operator (`Query.parse_comparisonText_symbol`).

The value loses up to two semicolons: one to the statement and one to its filter.  So a
value that stands in front of the terminator of its statement is read as it is written
exactly when it does not end with a semicolon of its own
(`Query.parse_comparisonText_terminated`).
-/

set_option autoImplicit false

namespace CsvQuery

open CsvQuery.Text

/-! ## The scan between texts without an operator -/

/-- If every operator is found in one text where it is found in another, so is the
operator of the condition. -/
theorem findOperator?_eq_map {text other : List Char}
    (place : List Char × List Char → List Char × List Char)
    (each : ∀ operator : Operator,
      splitAtSymbol? operator.symbol text = (splitAtSymbol? operator.symbol other).map place) :
    findOperator? text = (findOperator? other).map fun found => (found.1, place found.2) := by
  rw [findOperator?, findOperator?, List.map_findSome?]
  congr 1
  funext operator
  rw [each operator, Function.comp_apply, Option.map_map, Option.map_map]
  rfl

/-- **Between texts without an operator the scan finds what it finds alone.** -/
theorem findOperator?_between {column value : List Char} (columnClear : NoOperator column)
    (valueClear : NoOperator value) (marks : List Char) :
    findOperator? (column ++ ' ' :: (marks ++ ' ' :: value)) =
      (findOperator? marks).map fun found =>
        (found.1, column ++ ' ' :: found.2.1, found.2.2 ++ ' ' :: value) := by
  refine findOperator?_eq_map
    (fun parts => (column ++ ' ' :: parts.1, parts.2 ++ ' ' :: value)) fun operator => ?_
  have nonempty := operator.symbol_ne_nil
  rw [splitAtSymbol?_append_cons nonempty operator.space_not_mem_symbol,
    splitAtSymbol?_append_cons nonempty operator.space_not_mem_symbol,
    (splitAtSymbol?_eq_none_iff nonempty column).2 (columnClear operator),
    (splitAtSymbol?_eq_none_iff nonempty value).2 (valueClear operator)]
  simp [Function.comp_def]

/-- Blanks around a text do not change what the scan finds. -/
theorem findOperator?_append_blanks {front behind : List Char} (frontBlanks : Blanks front)
    (behindBlanks : Blanks behind) (text : List Char) :
    findOperator? (front ++ text ++ behind) =
      (findOperator? text).map fun found =>
        (found.1, front ++ found.2.1, found.2.2 ++ behind) := by
  have apart : ∀ operator : Operator, ∀ c ∈ operator.symbol, isBlank c = false := by
    intro operator
    cases operator <;> decide
  have notInSymbol : ∀ operator : Operator, ∀ c, isBlank c = true → c ∉ operator.symbol := by
    intro operator c blank isIn
    rw [apart operator c isIn] at blank
    cases blank
  refine findOperator?_eq_map
    (fun parts => (front ++ parts.1, parts.2 ++ behind)) fun operator => ?_
  have nonempty := operator.symbol_ne_nil
  rw [splitAtSymbol?_append_right nonempty fun c isIn =>
      notInSymbol operator c (behindBlanks c isIn),
    splitAtSymbol?_append_left nonempty fun c isIn => notInSymbol operator c (frontBlanks c isIn),
    Option.map_map]
  rfl

/-- A condition is read in any text that its own is trimmed from. -/
theorem Condition.parse_of_trim {clause text : List Char}
    (same : withoutTerminator clause = trim text) :
    Condition.parse clause =
      match findOperator? text with
      | some (operator, before, after) =>
        .ok { column := String.ofList (trim before), operator, value := parseLiteral (trim after) }
      | none => .error .missingOperator := by
  obtain ⟨front, behind, frontBlanks, behindBlanks, split⟩ := exists_blanks_trim text
  have found := findOperator?_append_blanks frontBlanks behindBlanks (trim text)
  rw [← split] at found
  rw [Condition.parse, same, found]
  cases findOperator? (trim text) with
  | none => rfl
  | some parts =>
      simp only [Option.map_some, trim_blanks_append frontBlanks, trim_append_blanks behindBlanks]

/-! ## Typed comparisons -/

/-- A statement for the rows whose cell in a column compares with a value. -/
def Query.comparisonText (source column marks value : String) : String :=
  "SELECT * FROM " ++ source ++ " WHERE " ++ column ++ " " ++ marks ++ " " ++ value

/-- All columns of a table, for the rows that satisfy a condition. -/
def Query.satisfying (source : String) (condition : Condition) : Query where
  selection := .wildcard
  source
  condition := some condition

/-- A table that can be named in a statement with a filter. -/
structure IsSourceName (source : String) : Prop where
  nonempty : source ≠ ""
  chars : ∀ c ∈ source.toList, isBlank c = false ∧ c ≠ ';'
  noWhere : ¬ HasWord whereKeyword source.toList

theorem isSourceName_iff (source : String) : IsSourceName source ↔
    source ≠ "" ∧ (∀ c ∈ source.toList, isBlank c = false ∧ c ≠ ';') ∧
      splitAtWord? whereKeyword none source.toList = none := by
  rw [splitAtWord?_eq_none_iff isKeyword_where]
  exact ⟨fun ⟨nonempty, chars, noWhere⟩ => ⟨nonempty, chars, noWhere⟩,
    fun ⟨nonempty, chars, noWhere⟩ => ⟨nonempty, chars, noWhere⟩⟩

instance (source : String) : Decidable (IsSourceName source) :=
  decidable_of_iff' _ (isSourceName_iff source)

theorem IsSourceName.headWritable {source : String} (isSource : IsSourceName source) :
    Query.HeadWritable { selection := .wildcard, source, condition := none } where
  sourceNonempty := isSource.nonempty
  sourceChars := isSource.chars
  sourceNoWhere := isSource.noWhere
  selection := trivial

theorem toList_comparisonText (source column marks value : String) :
    (Query.comparisonText source column marks value).toList =
      Query.writtenHead { selection := .wildcard, source, condition := none } ++
        ' ' :: (whereKeyword ++
          ' ' :: (column.toList ++ ' ' :: (marks.toList ++ ' ' :: value.toList))) := by
  have opening : "SELECT * FROM ".toList =
      selectKeyword ++ ' ' :: (['*'] ++ ' ' :: (fromKeyword ++ [' '])) := by decide
  have filter : " WHERE ".toList = ' ' :: (whereKeyword ++ [' ']) := by decide
  have space : " ".toList = [' '] := by decide
  unfold Query.comparisonText
  simp only [String.toList_append, opening, filter, space, Query.writtenHead, Selection.written,
    List.append_assoc, List.cons_append, List.nil_append]

section Comparison

variable {source column marks value : String}
variable (columnClear : NoOperator column.toList) (valueClear : NoOperator value.toList)
variable (firm : EndsFirmly marks.toList)
include columnClear valueClear firm

/-- The filter of a typed comparison is read at its marks. -/
theorem parseFilter_comparison {filter : List Char}
    (same : trim filter = trim (column.toList ++
      ' ' :: (marks.toList ++ ' ' :: unterminated value.toList))) :
    parseFilter (some (trim filter)) =
      match findOperator? marks.toList with
      | some (operator, before, after) =>
        .ok (some {
          column := String.ofList (trim (column.toList ++ ' ' :: before))
          operator
          value := parseLiteral (trim (after ++
            ' ' :: unterminated (unterminated value.toList))) })
      | none => .error .missingOperator := by
  let clause := column.toList ++
    ' ' :: (marks.toList ++ ' ' :: unterminated (unterminated value.toList))
  have front : EndsFirmly (column.toList ++ ' ' :: marks.toList) := by
    simpa using firm.append (column.toList ++ [' '])
  have cut : withoutTerminator (trim filter) = trim clause := by
    have cutBehind := withoutTerminator_append front (unterminated value.toList)
    rw [List.append_assoc, List.append_assoc, List.cons_append, List.cons_append] at cutBehind
    rw [same, withoutTerminator_trim, cutBehind]
  have someClause : (withoutTerminator (trim filter)).isEmpty = false := by
    rw [cut, List.isEmpty_eq_false_iff, ne_eq, trim_eq_nil_iff]
    intro blanks
    apply firm.endsClear.not_blanks firm.nonempty
    exact fun c isIn => blanks c (by simp [clause, isIn])
  have restClear : NoOperator (unterminated (unterminated value.toList)) :=
    valueClear.of_isPrefix ((isPrefix_unterminated _).trans (isPrefix_unterminated _))
  rw [parseFilter, someClause, Condition.parse_of_trim cut,
    findOperator?_between columnClear restClear]
  cases findOperator? marks.toList <;> rfl

/-- **How a typed comparison is read is decided by its marks.** -/
theorem Query.parse_comparisonText (isSource : IsSourceName source) :
    Query.parse (comparisonText source column marks value) =
      match findOperator? marks.toList with
      | some (operator, before, after) =>
        .ok (satisfying source {
          column := String.ofList (trim (column.toList ++ ' ' :: before))
          operator
          value := parseLiteral (trim (after ++
            ' ' :: unterminated (unterminated value.toList))) })
      | none => .error .missingOperator := by
  let head := Query.writtenHead { selection := .wildcard, source, condition := none }
  let shown := head ++ ' ' :: (whereKeyword ++ ' ' :: (column.toList ++ ' ' :: marks.toList))
  have shownFirm : EndsFirmly shown := by
    simpa [shown] using
      firm.append (head ++ ' ' :: (whereKeyword ++ ' ' :: (column.toList ++ [' '])))
  have shownClear : StartsClear shown := startsClear_selectKeyword_append _
  have text : (comparisonText source column marks value).toList = shown ++ ' ' :: value.toList := by
    rw [toList_comparisonText]
    simp [shown, head]
  let filter := ' ' :: (column.toList ++
    ' ' :: (marks.toList ++ trimEnd (' ' :: unterminated value.toList)))
  have same : trim filter = trim (column.toList ++
      ' ' :: (marks.toList ++ ' ' :: unterminated value.toList)) := by
    have behind := trim_append_trimEnd (column.toList ++ ' ' :: marks.toList)
      (' ' :: unterminated value.toList)
    rw [List.append_assoc, List.append_assoc, List.cons_append, List.cons_append] at behind
    rw [trim_space_cons, behind]
  have statement : withoutTerminator (comparisonText source column marks value).toList =
      head ++ ' ' :: (whereKeyword ++ filter) := by
    rw [text, withoutTerminator_append shownFirm,
      trim_append shownFirm.nonempty shownClear shownFirm.endsClear]
    simp [shown, filter]
  have someText : (trim (comparisonText source column marks value).toList).isEmpty = false := by
    rw [text, trim_append shownFirm.nonempty shownClear shownFirm.endsClear]
    simp [shown]
  rw [Query.parse, someText, statement, Clauses.ofStatement_written isSource.headWritable,
    Clauses.parse_written isSource.headWritable,
    parseFilter_comparison columnClear valueClear firm same]
  cases findOperator? marks.toList <;> rfl

end Comparison

/-! ## The symbol of an operator -/

theorem Operator.endsFirmly_symbol (operator : Operator) : EndsFirmly operator.symbol := by
  refine ⟨operator.symbol_ne_nil, ?_⟩
  cases operator <;> intro c isLast <;> cases isLast <;> decide

theorem findOperator?_symbol (operator : Operator) :
    findOperator? operator.symbol = some (operator, [], []) := by
  cases operator <;> rfl

/-- **A typed comparison with the symbol of an operator is read as it is meant.** -/
theorem Query.parse_comparisonText_symbol {source column value : String} {operator : Operator}
    (isSource : IsSourceName source) (trimmed : trim column.toList = column.toList)
    (columnClear : NoOperator column.toList) (valueClear : NoOperator value.toList) :
    Query.parse (comparisonText source column (String.ofList operator.symbol) value) =
      .ok (satisfying source {
        column
        operator
        value := parseLiteral (withoutTerminator (withoutTerminator value.toList)) }) := by
  have marks : (String.ofList operator.symbol).toList = operator.symbol := String.toList_ofList
  have firm : EndsFirmly (String.ofList operator.symbol).toList :=
    marks.symm ▸ operator.endsFirmly_symbol
  have sameColumn : String.ofList (trim (column.toList ++ [' '])) = column := by
    rw [trim_append_blanks blanks_space, trimmed, String.ofList_toList]
  have sameValue : trim (' ' :: unterminated (unterminated value.toList)) =
      withoutTerminator (withoutTerminator value.toList) := by
    rw [trim_space_cons, trim_unterminated, ← trim_unterminated value.toList,
      withoutTerminator_trim]
  rw [parse_comparisonText columnClear valueClear firm isSource, marks, findOperator?_symbol]
  simp only [List.nil_append, sameColumn, sameValue]

/-! ## A statement with its terminator -/

/-- A comparison in front of its terminator: what the statement leaves of the value, its
filter cuts once more. -/
theorem Query.parse_comparisonText_semicolon {source column value gap behind : String}
    {operator : Operator} (isSource : IsSourceName source)
    (trimmed : trim column.toList = column.toList)
    (columnClear : ∀ c ∈ ['=', '<', '>'], c ∉ column.toList)
    (valueTrimmed : trim value.toList = value.toList)
    (valueClear : ∀ c ∈ ['=', '<', '>'], c ∉ value.toList)
    (gapBlanks : Blanks gap.toList) (behindBlanks : Blanks behind.toList) :
    Query.parse (comparisonText source column (String.ofList operator.symbol)
        (value ++ gap ++ ";" ++ behind)) =
      .ok (satisfying source {
        column
        operator
        value := parseLiteral (withoutTerminator value.toList) }) := by
  have text : (value ++ gap ++ ";" ++ behind).toList =
      value.toList ++ gap.toList ++ [';'] ++ behind.toList := by
    simp only [String.toList_append]
    rfl
  have notBlank : ∀ c ∈ ['=', '<', '>'], isBlank c = false := by decide
  have clear : ∀ c ∈ ['=', '<', '>'], c ∉ (value ++ gap ++ ";" ++ behind).toList := by
    intro c isOne isIn
    have blankOrSemicolon : isBlank c = true ∨ c = ';' := by
      rw [text] at isIn
      simp only [List.mem_append, List.mem_singleton] at isIn
      rcases isIn with ((inValue | inGap) | isSemicolon) | inBehind
      · exact absurd inValue (valueClear c isOne)
      · exact .inl (gapBlanks c inGap)
      · exact .inr isSemicolon
      · exact .inl (behindBlanks c inBehind)
    rcases blankOrSemicolon with blank | rfl
    · rw [notBlank c isOne] at blank
      cases blank
    · exact absurd isOne (by decide)
  have firstCut : withoutTerminator (value ++ gap ++ ";" ++ behind).toList = value.toList := by
    rw [text, withoutTerminator_of_trim_eq (trim_append_blanks behindBlanks _),
      withoutTerminator_append_semicolon, trim_append_blanks gapBlanks, valueTrimmed]
  rw [parse_comparisonText_symbol isSource trimmed (noOperator_of_not_mem columnClear)
    (noOperator_of_not_mem clear), firstCut]

/-- A text that is read as a value is not longer than what it is read of. -/
theorem length_le_of_parseLiteral {text : List Char} {content : String}
    (isText : parseLiteral text = .text content) : content.toList.length ≤ text.length := by
  rw [parseLiteral] at isText
  split at isText
  · cases isText
    rw [String.toList_ofList, List.length_dropLast, List.length_tail]
    omega
  · rcases Scalar.ofText_cases text with ⟨value, isForm, same⟩ | ⟨-, same⟩
    · rw [same] at isText
      subst isText
      cases isForm
    · rw [same] at isText
      cases isText
      rw [String.toList_ofList]

theorem parseLiteral_append_semicolon (text : List Char) :
    parseLiteral (text ++ [';']) = .text (String.ofList (text ++ [';'])) := by
  have unquoted : Unquoted (text ++ [';']) := by
    rintro quote isQuote ⟨-, isLast⟩
    rw [List.getLast?_concat] at isLast
    cases isLast
    exact absurd isQuote (by decide)
  rw [parseLiteral_unquoted unquoted]
  exact Scalar.ofText_of_semicolon_mem (by simp)

/-- A value with a semicolon at its end is another one than the value in front of the
semicolon. -/
theorem parseLiteral_trim_ne_append_semicolon (text : List Char) :
    parseLiteral (trim text) ≠ parseLiteral (text ++ [';']) := by
  intro same
  rw [parseLiteral_append_semicolon] at same
  have notLonger := length_le_of_parseLiteral same
  have trimNotLonger := (isInfix_trim text).length_le
  rw [String.toList_ofList, List.length_append, List.length_singleton] at notLonger
  omega

/-- **In front of its terminator a value is read as it is written, unless it ends with a
semicolon of its own.**  Then that semicolon and the blanks in front of it are cut too, and
another value is read. -/
theorem Query.parse_comparisonText_terminated {source column value gap behind : String}
    {operator : Operator} (isSource : IsSourceName source)
    (trimmed : trim column.toList = column.toList)
    (columnClear : ∀ c ∈ ['=', '<', '>'], c ∉ column.toList)
    (valueTrimmed : trim value.toList = value.toList)
    (valueClear : ∀ c ∈ ['=', '<', '>'], c ∉ value.toList)
    (gapBlanks : Blanks gap.toList) (behindBlanks : Blanks behind.toList) :
    (value.toList.getLast? ≠ some ';' →
      Query.parse (comparisonText source column (String.ofList operator.symbol)
          (value ++ gap ++ ";" ++ behind)) =
        .ok (satisfying source { column, operator, value := parseLiteral value.toList })) ∧
    ∀ shorter : List Char, value.toList = shorter ++ [';'] →
      Query.parse (comparisonText source column (String.ofList operator.symbol)
          (value ++ gap ++ ";" ++ behind)) =
        .ok (satisfying source { column, operator, value := parseLiteral (trim shorter) }) ∧
      parseLiteral (trim shorter) ≠ parseLiteral value.toList := by
  rw [parse_comparisonText_semicolon isSource trimmed columnClear valueTrimmed valueClear
    gapBlanks behindBlanks]
  refine ⟨fun noSemicolon => ?_, fun shorter ends => ?_⟩
  · rw [withoutTerminator_eq, valueTrimmed, withoutSemicolon_eq_self noSemicolon, valueTrimmed]
  · rw [ends, withoutTerminator_append_semicolon]
    exact ⟨rfl, parseLiteral_trim_ne_append_semicolon shorter⟩

theorem Query.parse_comparisonText_terminated_number_and_semicolon :
    IsSourceName "t" ∧ trim "a".toList = "a".toList ∧
      (∀ c ∈ ['=', '<', '>'], c ∉ "a".toList) ∧ trim "1 ;".toList = "1 ;".toList ∧
      (∀ c ∈ ['=', '<', '>'], c ∉ "1 ;".toList) ∧ Blanks " ".toList ∧ Blanks "\n".toList ∧
      Query.parse (comparisonText "t" "a" (String.ofList Operator.ge.symbol)
          ("1 ;" ++ " " ++ ";" ++ "\n")) =
        .ok (satisfying "t" { column := "a", operator := .ge, value := .integer 1 }) ∧
      parseLiteral "1 ;".toList = .text "1 ;" := by
  have isSource : IsSourceName "t" := by decide
  have trimmed : trim "a".toList = "a".toList := by decide
  have columnClear : ∀ c ∈ ['=', '<', '>'], c ∉ "a".toList := by decide
  have valueTrimmed : trim "1 ;".toList = "1 ;".toList := by decide
  have valueClear : ∀ c ∈ ['=', '<', '>'], c ∉ "1 ;".toList := by decide
  have gapBlanks : Blanks " ".toList := by
    unfold Blanks
    decide
  have behindBlanks : Blanks "\n".toList := by
    unfold Blanks
    decide
  refine ⟨isSource, trimmed, columnClear, valueTrimmed, valueClear, gapBlanks, behindBlanks, ?_,
    rfl⟩
  exact ((Query.parse_comparisonText_terminated isSource trimmed columnClear valueTrimmed
    valueClear gapBlanks behindBlanks).2 ['1', ' '] rfl).1

/-- Of two semicolons behind a value neither belongs to it. -/
theorem Query.parse_two_semicolons :
    ¬ ∀ (column value gap behind : String) (operator : Operator),
      trim column.toList = column.toList → (∀ c ∈ ['=', '<', '>'], c ∉ column.toList) →
      value ≠ "" → trim value.toList = value.toList →
      (∀ c ∈ ['=', '<', '>'], c ∉ value.toList) → Blanks gap.toList → Blanks behind.toList →
        Query.parse (comparisonText "t" column (String.ofList operator.symbol)
            (value ++ gap ++ ";" ++ behind)) =
          .ok (satisfying "t" { column, operator, value := parseLiteral value.toList }) := by
  intro kept
  have noBlanks : Blanks "".toList := by simp [Blanks]
  have trimmed : trim "a".toList = "a".toList := by decide
  have valueTrimmed : trim "x;".toList = "x;".toList := by decide
  have asWritten := kept "a" "x;" "" "" .eq trimmed (by decide) (by decide) valueTrimmed (by decide)
    noBlanks noBlanks
  have cut : withoutTerminator "x;".toList = ['x'] := by decide
  rw [Query.parse_comparisonText_semicolon (by decide) trimmed (by decide) valueTrimmed (by decide)
    noBlanks noBlanks, cut] at asWritten
  have sameQuery := Except.ok.inj asWritten
  simp only [Query.satisfying, Query.mk.injEq, Option.some.injEq, Condition.mk.injEq, true_and]
    at sameQuery
  exact absurd sameQuery (by decide)

end CsvQuery
