import CsvQuery.Proofs.Query.BehindHead
import CsvQuery.Proofs.Query.UnquotedValue
import CsvQuery.Proofs.Scalar.LetterCase

/-!
# What every query satisfies

Many queries can be built that no statement is read as.  One that is read has parts in a
form that is due to how each is found: the table is a run of name characters in a head
without `WHERE`, the items of a list are trimmed pieces between the outer commas, and the
column of a condition stands in front of the first operator that is scanned.  The rest
relies on this: a name is compared with the columns as it is, a sole item is no count, and
the value of a condition is there and is equal to itself (`Query.normal_of_parse`).
-/

set_option autoImplicit false

namespace CsvQuery

open CsvQuery.Text

/-- Items as they are read from a list. -/
structure NormalItems (items : List String) : Prop where
  /-- No item has blanks around it. -/
  trimmed : ∀ item ∈ items, trim item.toList = item.toList
  /-- No item has a comma outside parentheses. -/
  flat : ∀ item ∈ items, Flat 0 item.toList
  /-- There is an item, and the last one is not empty. -/
  lastNonempty : ∃ last, items.getLast? = some last ∧ last ≠ ""
  /-- A sole item is not a count. -/
  notCount : ∀ item, items = [item] → ¬ IsCount item.toList

/-- A selection as it is read. -/
def Selection.Normal : Selection → Prop
  | .wildcard => True
  | .columns items => NormalItems items
  | .count .rows => True
  | .count (.column name) => trim name.toList = name.toList ∧ name ≠ "*"

/-- A condition as it is read. -/
structure Condition.Normal (condition : Condition) : Prop where
  /-- The column has no blanks around it. -/
  trimmed : trim condition.column.toList = condition.column.toList
  /-- The operator does not occur in the column. -/
  notInColumn : ¬ condition.operator.symbol <:+: condition.column.toList
  /-- No operator that is scanned earlier does. -/
  earlierNotInColumn : ∀ earlier ∈ condition.operator.scannedBefore,
    ¬ earlier.symbol <:+: condition.column.toList
  /-- There is a value. -/
  notNull : condition.value ≠ .null
  /-- The value is equal to itself. -/
  notNan : condition.value ≠ .float .nan

/-- A query as it is read. -/
structure Query.Normal (query : Query) : Prop where
  /-- The table has a name without blanks, semicolons and `WHERE`. -/
  source : IsSourceName query.source
  selection : query.selection.Normal
  condition : ∀ condition ∈ query.condition, condition.Normal

/-! ## The table -/

/-- A name that is read in a head has a character, and none that ends it. -/
theorem chars_of_sourceName? {head name : List Char}
    (found : sourceName? none head = some name) :
    name ≠ [] ∧ ∀ c ∈ name, isBlank c = false ∧ c ≠ ';' := by
  obtain ⟨behind, front, gap, -, -, -, -, isName⟩ := exists_behindSource found
  refine ⟨isName.nonempty, fun c isIn => ?_⟩
  simpa [isNameChar] using isName.chars c isIn

/-- A word in the name of a table is a word of the head. -/
theorem hasWord_of_sourceName? {keyword head name : List Char}
    (found : sourceName? none head = some name) (has : HasWord keyword name) :
    HasWord keyword head := by
  obtain ⟨behind, front, gap, -, ⟨⟨word, -, split⟩, -, -⟩, nonempty, blanks, isName⟩ :=
    exists_behindSource found
  have inHead : head = front ++ word ++ gap ++ name ++ behind := by simp [split]
  rw [inHead]
  refine has.append (fun c isLast => ?_) fun c isFirst => ?_
  · rw [List.getLast?_append_of_ne_nil _ nonempty] at isLast
    exact isWordChar_eq_false_of_isBlank (blanks c (List.mem_of_mem_getLast? isLast))
  · exact isWordChar_eq_false_of_not_name (isName.maximal c isFirst)

theorem isSourceName_of_sourceName? {head : List Char} {source : String}
    (found : sourceName? none head = some source.toList)
    (noWhere : ¬ HasWord whereKeyword head) : IsSourceName source := by
  obtain ⟨nonempty, chars⟩ := chars_of_sourceName? found
  exact ⟨by simpa using nonempty, chars, fun has => noWhere (hasWord_of_sourceName? found has)⟩

/-! ## The selection -/

theorem CountTarget.normal_ofArgument (argument : List Char) :
    (Selection.count (CountTarget.ofArgument argument)).Normal := by
  rw [CountTarget.ofArgument]
  split
  next => trivial
  next notStar =>
    refine ⟨?_, fun same => notStar ?_⟩
    · rw [String.toList_ofList, trim_trim]
    · rw [← String.toList_ofList (l := trim argument), same]
      decide

theorem normalItems_selectItems {text : List Char} (nonempty : selectItems text ≠ [])
    (notCount : ∀ item, selectItems text = [item] → ¬ IsCount item) :
    NormalItems ((selectItems text).map String.ofList) := by
  have pieces : ∀ item ∈ selectItems text, ∃ piece ∈ splitTopLevel 0 text, trim piece = item :=
    fun item isIn => List.mem_map.1 ((isPrefix_dropTrailingEmpty _).subset isIn)
  refine ⟨?_, ?_, ?_, ?_⟩
  · refine List.forall_mem_map.2 fun item isIn => ?_
    obtain ⟨piece, -, rfl⟩ := pieces item isIn
    rw [String.toList_ofList, trim_trim]
  · refine List.forall_mem_map.2 fun item isIn => ?_
    obtain ⟨piece, isPiece, rfl⟩ := pieces item isIn
    rw [String.toList_ofList]
    exact (flat_of_mem_splitTopLevel isPiece).trim
  · have isLast := List.getLast?_eq_getLast_of_ne_nil nonempty
    refine ⟨String.ofList ((selectItems text).getLast nonempty), ?_, ?_⟩
    · rw [List.getLast?_map, isLast, Option.map_some]
    · simpa using getLast?_dropTrailingEmpty_ne_nil _ isLast
  · intro item isSole
    obtain ⟨chars, isItem, rfl⟩ := List.map_eq_singleton_iff.1 isSole
    rw [String.toList_ofList]
    exact notCount chars isItem

theorem Selection.normal_ofItems {text : List Char} (nonempty : selectItems text ≠ []) :
    (Selection.ofItems (selectItems text)).Normal := by
  by_cases isSole : ∃ item argument, selectItems text = [item] ∧ countArgument? item = some argument
  · obtain ⟨item, argument, isItem, isCount⟩ := isSole
    simp only [Selection.ofItems, isItem, isCount]
    exact CountTarget.normal_ofArgument argument
  · have notCount : ∀ item, selectItems text = [item] → countArgument? item = none :=
      fun item isItem => Option.eq_none_iff_forall_ne_some.2 fun argument isCount =>
        isSole ⟨item, argument, isItem, isCount⟩
    rw [Selection.ofItems_eq_columns notCount]
    refine normalItems_selectItems nonempty fun item isItem isCount => ?_
    rw [isCount_iff, notCount item isItem] at isCount
    cases isCount

theorem Selection.isNormal_of_parse {text : List Char} {selection : Selection}
    (isRead : Selection.parse text = .ok selection) : selection.Normal := by
  rw [Selection.parse] at isRead
  split at isRead
  · cases isRead
    trivial
  · split at isRead
    · cases isRead
    next someItem =>
      cases isRead
      exact Selection.normal_ofItems (by simpa using someItem)

/-! ## The condition -/

theorem Condition.isNormal_of_parse {text : List Char} {condition : Condition}
    (isRead : Condition.parse text = .ok condition) : condition.Normal := by
  rw [Condition.parse] at isRead
  split at isRead
  next operator before after found =>
    cases isRead
    obtain ⟨cut, noneEarlier⟩ := findOperator?_eq_some_iff.1 found
    have columnInText : before <:+: withoutTerminator text :=
      ⟨[], operator.symbol ++ after, by rw [eq_append_of_splitAtSymbol? cut]; simp⟩
    refine {
      trimmed := ?_
      notInColumn := fun occurs => ?_
      earlierNotInColumn := fun earlier isEarlier occurs => ?_
      notNull := parseLiteral_ne_null (trim after)
      notNan := parseLiteral_ne_nan (trim after) }
    · rw [String.toList_ofList, trim_trim]
    · rw [String.toList_ofList] at occurs
      exact not_infix_of_splitAtSymbol? operator.symbol_ne_nil cut
        (occurs.trans (isInfix_trim before))
    · rw [String.toList_ofList] at occurs
      exact noneEarlier earlier isEarlier (occurs.trans ((isInfix_trim before).trans columnInText))
  next => cases isRead

/-! ## The query -/

/-- **Every query that is read is in normal form.** -/
theorem Query.normal_of_parse {sql : String} {query : Query}
    (isRead : Query.parse sql = .ok query) : query.Normal := by
  obtain ⟨isSource, ⟨list, -, isSelection⟩, -⟩ :=
    Clauses.parse_eq_ok_iff.1 (Query.clauses_of_parse isRead)
  have trimmed : trim (withoutTerminator sql.toList) = withoutTerminator sql.toList := by
    rw [withoutTerminator_eq, trim_trim]
  exact {
    source := isSourceName_of_sourceName? isSource (Clauses.divided_ofStatement trimmed).noWhere
    selection := Selection.isNormal_of_parse isSelection
    condition := fun condition isCondition => by
      obtain ⟨text, parsed⟩ := Query.exists_parse_condition isRead condition isCondition
      exact Condition.isNormal_of_parse parsed }

/-- The column has an operator that is scanned later, and the list has an empty item inside
and a count that is not alone. -/
theorem Query.normal_of_parse_later_operator_in_column :
    ∃ query,
      Query.parse "SELECT count(a), f(x,y) , ,b,, FROM my.table WHERE a < b = '';" = .ok query ∧
      query.selection = .columns ["count(a)", "f(x,y)", "", "b"] ∧ query.source = "my.table" ∧
      query.condition = some { column := "a < b", operator := .eq, value := .text "" } ∧
      query.Normal := by
  let query : Query :=
    { selection := .columns ["count(a)", "f(x,y)", "", "b"]
      source := "my.table"
      condition := some { column := "a < b", operator := .eq, value := .text "" } }
  have isRead :
      Query.parse "SELECT count(a), f(x,y) , ,b,, FROM my.table WHERE a < b = '';" = .ok query := by
    decide +kernel
  exact ⟨query, isRead, rfl, rfl, rfl, Query.normal_of_parse isRead⟩

end CsvQuery
