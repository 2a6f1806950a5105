import CsvQuery.Proofs.Query.Filter
import CsvQuery.Proofs.Query.WrittenSelection

/-!
# Reading undoes writing

A query is written with single spaces between its parts: `SELECT`, the select
list, `FROM`, the table and, if there is a condition, `WHERE` and the condition.
A written head divides into its parts where they were written
(`Clauses.ofStatement_written`, `Clauses.parse_written`), and so every query whose
names can stand in their places is the reading of what is written for it
(`Query.parse_written_of_writable`).
-/

set_option autoImplicit false

namespace CsvQuery

open CsvQuery.Text

/-- A query as it is written in front of its filter. -/
def Query.writtenHead (query : Query) : List Char :=
  selectKeyword ++ ' ' :: (query.selection.written ++
    ' ' :: (fromKeyword ++ ' ' :: query.source.toList))

/-- A query as it is written. -/
def Query.written (query : Query) : List Char :=
  match query.condition with
  | none => query.writtenHead
  | some condition => query.writtenHead ++ ' ' :: (whereKeyword ++ ' ' :: condition.written)

/-- A condition that is read back: its column is trimmed, its value is an integer
or a text, and the scan for operators stops where it should. -/
structure Condition.Writable (condition : Condition) : Prop where
  trimmed : trim condition.column.toList = condition.column.toList
  kind : condition.value.IntegerOrText
  scannable : condition.Scannable

/-- A query whose table and select list are read back. -/
structure Query.HeadWritable (query : Query) : Prop where
  sourceNonempty : query.source ≠ ""
  sourceChars : ∀ c ∈ query.source.toList, isBlank c = false ∧ c ≠ ';'
  sourceNoWhere : ¬ HasWord whereKeyword query.source.toList
  selection : query.selection.Writable

/-- A query that is read back. -/
structure Query.Writable (query : Query) : Prop extends Query.HeadWritable query where
  condition : ∀ condition, query.condition = some condition → condition.Writable

namespace Selection.Writable

variable {selection : Selection} (writable : selection.Writable)
include writable

theorem not_hasWord {keyword : List Char} (isKeyword : IsKeyword keyword)
    (notCount : splitAtWord? keyword none countKeyword = none)
    (clear : ∀ name, WritableName name → ¬ HasWord keyword name) :
    ¬ HasWord keyword selection.written := by
  refine Selection.not_hasWord_written isKeyword
    ((splitAtWord?_eq_none_iff isKeyword countKeyword).1 notCount) ?_ ?_
  · rintro items rfl item isIn
    exact clear item.toList (WritableItems.names writable item isIn)
  · rintro name rfl
    exact clear name.toList writable.1

theorem noFrom : ¬ HasWord fromKeyword selection.written :=
  writable.not_hasWord isKeyword_from rfl fun _ isName => isName.noFrom

theorem noWhere : ¬ HasWord whereKeyword selection.written :=
  writable.not_hasWord isKeyword_where rfl fun _ isName => isName.noWhere

end Selection.Writable

/-! ## A written head -/

section Head

variable {query : Query} (writable : query.HeadWritable)

theorem startsClear_selectKeyword_append (rest : List Char) :
    StartsClear (selectKeyword ++ rest) :=
  (spells_self selectKeyword).startsClear isKeyword_select rest

theorem startsClear_written (query : Query) : StartsClear query.written := by
  rw [Query.written]
  split
  · exact startsClear_selectKeyword_append _
  · rw [Query.writtenHead, List.append_assoc]
    exact startsClear_selectKeyword_append _

theorem Query.parse_eq_of_startsClear {text : List Char} (nonempty : text ≠ [])
    (startsClear : StartsClear text)
    (atEnd : ∀ c ∈ text.getLast?, isBlank c = false ∧ c ≠ ';') :
    Query.parse (String.ofList text) = (Clauses.ofStatement text).parse := by
  have trimmed : trim text = text := trim_eq_self startsClear fun c isLast => (atEnd c isLast).1
  have someText : text.isEmpty = false := by simpa using nonempty
  rw [Query.parse, String.toList_ofList, trimmed, someText,
    withoutTerminator_eq_self startsClear atEnd]
  rfl

theorem Query.exists_writtenHead_eq_append_source (query : Query) :
    ∃ front, query.writtenHead = front ++ query.source.toList :=
  ⟨selectKeyword ++ ' ' :: (query.selection.written ++ ' ' :: (fromKeyword ++ [' '])),
    by simp [Query.writtenHead]⟩

include writable

theorem source_toList_ne_nil : query.source.toList ≠ [] := by
  simpa using writable.sourceNonempty

theorem getLast?_writtenHead :
    ∀ c ∈ query.writtenHead.getLast?, isBlank c = false ∧ c ≠ ';' := by
  obtain ⟨front, split⟩ := query.exists_writtenHead_eq_append_source
  intro c isLast
  rw [split, List.getLast?_append_of_ne_nil front (source_toList_ne_nil writable)] at isLast
  exact writable.sourceChars c (List.mem_of_mem_getLast? isLast)

theorem trim_writtenHead : trim query.writtenHead = query.writtenHead :=
  trim_eq_self (startsClear_selectKeyword_append _)
    fun c isLast => (getLast?_writtenHead writable c isLast).1

theorem not_hasWord_where_writtenHead : ¬ HasWord whereKeyword query.writtenHead := by
  have noSelect : ¬ HasWord whereKeyword selectKeyword :=
    (splitAtWord?_eq_none_iff isKeyword_where selectKeyword).1 rfl
  have noFrom : ¬ HasWord whereKeyword fromKeyword :=
    (splitAtWord?_eq_none_iff isKeyword_where fromKeyword).1 rfl
  have space : isWordChar ' ' = false := by decide
  have divides := fun front rest => hasWord_append_cons_iff isKeyword_where space front rest
  rw [Query.writtenHead, divides, divides, divides]
  simp only [not_or]
  exact ⟨noSelect, writable.selection.noWhere, noFrom, writable.sourceNoWhere⟩

/-- The table is read where it is written. -/
theorem sourceName?_writtenHead :
    sourceName? none query.writtenHead = some query.source.toList := by
  have noFrom : ¬ HasWord fromKeyword (selectKeyword ++ ' ' :: query.selection.written) := by
    rw [hasWord_append_cons_iff isKeyword_from (by decide), not_or]
    exact ⟨(splitAtWord?_eq_none_iff isKeyword_from selectKeyword).1 rfl,
      writable.selection.noFrom⟩
  have here : wordAt? fromKeyword none (fromKeyword ++ ' ' :: query.source.toList) =
      some (' ' :: query.source.toList) :=
    (spells_self fromKeyword).wordAt? (by simp [NoWordChar]; decide)
  have space : isWordChar ' ' = false := by decide
  have found := splitAtWord?_first isKeyword_from space noFrom here
  have split : query.writtenHead = (selectKeyword ++ ' ' :: query.selection.written) ++
      ' ' :: (fromKeyword ++ ' ' :: query.source.toList) := by
    simp [Query.writtenHead]
  rw [split]
  refine sourceName?_of_splitAtWord? found (nameAfterBlanks?_eq_some_iff.2 ?_)
  refine ⟨[' '], query.source.toList, [], by simp, blanks_space, rfl, by simp,
    source_toList_ne_nil writable, fun c isIn => ?_, by simp⟩
  simp [isNameChar, writable.sourceChars c isIn]

/-- The select list is read where it is written. -/
theorem selectText?_writtenHead :
    selectText? query.writtenHead = some query.selection.written := by
  obtain ⟨startsClear, endsClear⟩ :=
    (trim_eq_self_iff _).1 (Selection.trim_written writable.selection)
  have nonempty := Selection.written_ne_nil writable.selection
  have starts : startsFrom (' ' :: (fromKeyword ++ ' ' :: query.source.toList)) = true :=
    startsFrom_iff.2 ⟨[' '], fromKeyword, ' ' :: query.source.toList, by simp, blanks_space,
      spells_self fromKeyword, by simp [NoWordChar]; decide, rfl⟩
  have list : upToFrom? (query.selection.written ++
      ' ' :: (fromKeyword ++ ' ' :: query.source.toList)) = some query.selection.written :=
    upToFrom?_eq_some_iff.2 ⟨_, rfl,
      endsAtFrom_of_clear nonempty endsClear writable.selection.noFrom starts⟩
  have afterSelect : trimStart (' ' :: (query.selection.written ++
      ' ' :: (fromKeyword ++ ' ' :: query.source.toList))) =
        query.selection.written ++ ' ' :: (fromKeyword ++ ' ' :: query.source.toList) := by
    rw [← List.singleton_append, trimStart_blanks_append blanks_space,
      trimStart_eq_self (startsClear.append nonempty _)]
  have isSelect : wordAt? selectKeyword none (trimStart query.writtenHead) =
      some (' ' :: (query.selection.written ++
        ' ' :: (fromKeyword ++ ' ' :: query.source.toList))) := by
    rw [Query.writtenHead, trimStart_eq_self (startsClear_selectKeyword_append _)]
    exact (spells_self selectKeyword).wordAt? (by simp [NoWordChar]; decide)
  have startsBlank : (' ' :: (query.selection.written ++
      ' ' :: (fromKeyword ++ ' ' :: query.source.toList))).head?.any isBlank = true :=
    startsBlank_append (List.cons_ne_nil _ _) blanks_space _
  simp only [selectText?, isSelect, if_pos startsBlank, afterSelect, list]

/-- **A written head is read as its query, and the filter by itself.** -/
theorem Clauses.parse_written (filter : Option (List Char)) :
    Clauses.parse { head := query.writtenHead, filter } =
      (parseFilter filter).map fun condition => { query with condition } := by
  rw [Clauses.parse]
  simp only [sourceName?_writtenHead writable, selectText?_writtenHead writable,
    Selection.trim_written writable.selection, Selection.parse_written writable.selection,
    String.ofList_toList]
  cases parseFilter filter <;> rfl

/-- **A statement divides behind a written head.** -/
theorem Clauses.ofStatement_written (filter : List Char) :
    Clauses.ofStatement (query.writtenHead ++ ' ' :: (whereKeyword ++ ' ' :: filter)) =
      { head := query.writtenHead, filter := some (trim (' ' :: filter)) } :=
  Clauses.ofStatement_where (trim_writtenHead writable) (not_hasWord_where_writtenHead writable)
    (by simp [NoWordChar]; decide)

theorem Clauses.ofStatement_writtenHead :
    Clauses.ofStatement query.writtenHead = { head := query.writtenHead, filter := none } :=
  Clauses.ofStatement_of_noWhere (not_hasWord_where_writtenHead writable)

/-! ## A written statement -/

theorem writtenHead_ne_nil : query.writtenHead ≠ [] := by
  obtain ⟨front, split⟩ := query.exists_writtenHead_eq_append_source
  rw [split]
  exact List.append_ne_nil_of_right_ne_nil front (source_toList_ne_nil writable)

/-- A written statement without a condition is read as its head. -/
theorem Query.parse_writtenHead :
    Query.parse (String.ofList query.writtenHead) = .ok { query with condition := none } := by
  rw [Query.parse_eq_of_startsClear (writtenHead_ne_nil writable)
    (startsClear_selectKeyword_append _) (getLast?_writtenHead writable),
    Clauses.ofStatement_writtenHead writable, Clauses.parse_written writable]
  rfl

/-- A written statement is read as its head with the condition that its filter is
read as, whether or not that is the written one. -/
theorem Query.parse_written_condition {condition : Condition}
    (filtered : query.condition = some condition)
    (trimmed : trim condition.column.toList = condition.column.toList)
    (kind : condition.value.IntegerOrText) :
    Query.parse (String.ofList query.written) =
      (Condition.parse condition.clause).map fun read => { query with condition := some read } := by
  have written : query.written =
      query.writtenHead ++ ' ' :: (whereKeyword ++ ' ' :: condition.written) := by
    rw [Query.written, filtered]
  have atEnd : ∀ c ∈ query.written.getLast?, isBlank c = false ∧ c ≠ ';' := by
    obtain ⟨front, split⟩ := exists_written_eq_append_literal condition
    have ending : query.written =
        (query.writtenHead ++ ' ' :: (whereKeyword ++ ' ' :: front)) ++
          condition.value.literal.toList := by
      rw [written, split]
      simp
    rw [ending, List.getLast?_append_of_ne_nil _ (literal_ne_nil kind)]
    exact getLast?_literal kind
  rw [Query.parse_eq_of_startsClear (by rw [written]; simp) (startsClear_written query) atEnd,
    written, Clauses.ofStatement_written writable, Clauses.parse_written writable,
    parseFilter_written trimmed kind]
  cases Condition.parse condition.clause <;> rfl

end Head

/-- **A written query is read back.** -/
theorem Query.parse_written_of_writable {query : Query} (writable : query.Writable) :
    Query.parse (String.ofList query.written) = .ok query := by
  rcases query with ⟨selection, source, _ | condition⟩
  · exact Query.parse_writtenHead writable.toHeadWritable
  · obtain ⟨trimmed, kind, scannable⟩ := writable.condition condition rfl
    rw [Query.parse_written_condition writable.toHeadWritable rfl trimmed kind,
      Condition.parse_clause trimmed kind scannable]
    rfl

theorem Query.parse_written_nested_items :
    ∃ query : Query, query.Writable ∧
      query.written =
        "SELECT valid_from, max(a, b) FROM from WHERE Where <= 'x <= y = z;'".toList ∧
      Query.parse (String.ofList query.written) = .ok query := by
  let query : Query :=
    { selection := .columns ["valid_from", "max(a, b)"]
      source := "from"
      condition := some { column := "Where", operator := .le, value := .text "x <= y = z;" } }
  have isName : ∀ name ∈ ["valid_from", "max(a, b)"], WritableName name.toList := by
    intro name isIn
    refine ⟨?_, (splitAtWord?_eq_none_iff isKeyword_from _).1 ?_,
      (splitAtWord?_eq_none_iff isKeyword_where _).1 ?_⟩ <;>
    · revert name
      decide
  have items : WritableItems ["valid_from", "max(a, b)"] := by
    refine ⟨isName, ?_, by decide, ⟨"max(a, b)", rfl, by decide⟩, by decide, ?_⟩
    · intro item isIn
      rcases List.mem_pair.1 isIn with rfl | rfl
      · exact flat_of_comma_not_mem (by decide) 0
      · simp [flat_cons_iff, flat_nil, openAfter]
    · intro item single
      simp at single
  have condition : ∀ condition, query.condition = some condition → condition.Writable := by
    rintro condition ⟨⟩
    refine ⟨by decide, .inr ⟨_, rfl⟩, by decide, by decide, ?_⟩
    rintro content ⟨⟩
    decide
  have writable : query.Writable :=
    { sourceNonempty := by decide
      sourceChars := by decide
      sourceNoWhere := (splitAtWord?_eq_none_iff isKeyword_where _).1 (by decide)
      selection := items
      condition }
  exact ⟨query, writable, by decide, Query.parse_written_of_writable writable⟩

end CsvQuery
