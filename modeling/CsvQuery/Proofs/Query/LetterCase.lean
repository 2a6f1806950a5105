import CsvQuery.Proofs.Query.Clauses
import CsvQuery.Proofs.Scalar.LetterCase

/-!
# Statements and the case of letters

Every step of reading a statement finds the same places whatever the case of letters is:
where the keywords stand, where a list is cut, which operator occurs, how long a name is.
So a statement in lower case is read as the query in lower case (`Query.parse_toLower`).
Two statements of the same letters then have the same defect, or they are the same query
but for the case of its names and of its text (`Query.parse_sameLetters`).
-/

set_option autoImplicit false

namespace CsvQuery

open CsvQuery.Text

theorem caseBlindKeyword_select : CaseBlindKeyword selectKeyword :=
  caseBlindKeyword_of_capitals (by decide)

theorem caseBlindKeyword_from : CaseBlindKeyword fromKeyword :=
  caseBlindKeyword_of_capitals (by decide)

theorem caseBlindKeyword_where : CaseBlindKeyword whereKeyword :=
  caseBlindKeyword_of_capitals (by decide)

theorem caseBlindKeyword_count : CaseBlindKeyword countKeyword :=
  caseBlindKeyword_of_capitals (by decide)

/-! ## Queries in lower case -/

/-- What is counted, with its name in lower case. -/
def CountTarget.lowered : CountTarget → CountTarget
  | .rows => .rows
  | .column name => .column name.toLower

/-- A selection with its names in lower case. -/
def Selection.lowered : Selection → Selection
  | .wildcard => .wildcard
  | .columns items => .columns (items.map String.toLower)
  | .count target => .count target.lowered

/-- A condition with its column and its text in lower case. -/
def Condition.lowered (condition : Condition) : Condition :=
  { column := condition.column.toLower
    operator := condition.operator
    value := condition.value.lowered }

/-- A query with its names and its text in lower case. -/
def Query.lowered (query : Query) : Query :=
  { selection := query.selection.lowered
    source := query.source.toLower
    condition := query.condition.map Condition.lowered }

/-- The clauses of a statement in lower case. -/
def Clauses.lowered (clauses : Clauses) : Clauses :=
  { head := Text.lowered clauses.head, filter := clauses.filter.map Text.lowered }

/-! ## Select lists -/

theorem openAfter_toLower (depth : Nat) (c : Char) :
    openAfter depth c.toLower = openAfter depth c := by
  have opening : c.toLower = '(' ↔ c = '(' := toLower_eq_iff (by decide)
  have closing : c.toLower = ')' ↔ c = ')' := toLower_eq_iff (by decide)
  simp only [openAfter, opening, closing]

theorem splitTopLevel_lowered (depth : Nat) (text : List Char) :
    splitTopLevel depth (lowered text) = (splitTopLevel depth text).map lowered := by
  induction text generalizing depth with
  | nil => rfl
  | cons c rest ih =>
      have comma : c.toLower = ',' ↔ c = ',' := toLower_eq_iff (by decide)
      rw [lowered_cons, splitTopLevel, splitTopLevel]
      simp only [comma, openAfter_toLower, ih]
      split
      · rfl
      · cases splitTopLevel (openAfter depth c) rest <;> rfl

theorem dropTrailingEmpty_lowered (items : List (List Char)) :
    dropTrailingEmpty (items.map lowered) = (dropTrailingEmpty items).map lowered := by
  have sameEmpty : List.isEmpty ∘ lowered = List.isEmpty := funext isEmpty_lowered
  rw [dropTrailingEmpty, dropTrailingEmpty, ← List.map_reverse, List.dropWhile_map, sameEmpty,
    ← List.map_reverse]

theorem selectItems_lowered (text : List Char) :
    selectItems (lowered text) = (selectItems text).map lowered := by
  have sameTrim : trim ∘ lowered = lowered ∘ trim := funext trim_lowered
  rw [selectItems, selectItems, splitTopLevel_lowered, List.map_map, sameTrim, ← List.map_map,
    dropTrailingEmpty_lowered]

theorem countArgument?_lowered (item : List Char) :
    countArgument? (lowered item) = (countArgument? item).map lowered := by
  rw [countArgument?, countArgument?, strip?_lowered caseBlindKeyword_count]
  cases strip? matchesLetter countKeyword item with
  | none => rfl
  | some rest =>
      simp only [Option.map_some, trimStart_lowered]
      cases trimStart rest with
      | nil => rfl
      | cons c argument =>
          -- no other character has the lower case of a parenthesis
          by_cases isOpening : c = '('
          · subst isOpening
            have sameEnd : (lowered argument).getLast? = some ')' ↔
                argument.getLast? = some ')' := by
              rw [getLast?_lowered, map_toLower_eq_some_iff (by decide)]
            simp only [lowered_cons, Char.reduceToLower, sameEnd, dropLast_lowered]
            split <;> rfl
          · have notOpening : c.toLower ≠ '(' := mt (toLower_eq_iff (by decide)).1 isOpening
            simp [lowered_cons, isOpening, notOpening]

theorem eq_star_lowered_iff {text : List Char} : lowered text = ['*'] ↔ text = ['*'] := by
  rw [lowered_eq_cons_iff (by decide)]
  constructor
  · rintro ⟨behind, rfl, isEnd⟩
    rw [lowered_eq_nil_iff.1 isEnd]
  · rintro rfl
    exact ⟨[], rfl, rfl⟩

theorem CountTarget.ofArgument_lowered (argument : List Char) :
    CountTarget.ofArgument (Text.lowered argument) =
      (CountTarget.ofArgument argument).lowered := by
  rw [CountTarget.ofArgument, CountTarget.ofArgument, trim_lowered]
  simp only [eq_star_lowered_iff, ← toLower_ofList]
  split <;> rfl

theorem Selection.ofItems_lowered (items : List (List Char)) :
    Selection.ofItems (items.map Text.lowered) = (Selection.ofItems items).lowered := by
  have sameNames : (items.map Text.lowered).map String.ofList =
      (items.map String.ofList).map String.toLower := by
    rw [List.map_map, List.map_map]
    exact List.map_congr_left fun item _ => (toLower_ofList item).symm
  match items with
  | [] => rfl
  | [item] =>
      rw [List.map_singleton, Selection.ofItems, Selection.ofItems, countArgument?_lowered]
      cases countArgument? item with
      | none => exact congrArg Selection.columns sameNames
      | some argument => exact congrArg Selection.count (CountTarget.ofArgument_lowered argument)
  | _ :: _ :: _ => exact congrArg Selection.columns sameNames

theorem Selection.parse_lowered (text : List Char) :
    Selection.parse (Text.lowered text) = (Selection.parse text).map Selection.lowered := by
  rw [Selection.parse, Selection.parse]
  simp only [eq_star_lowered_iff, selectItems_lowered, List.isEmpty_map, Selection.ofItems_lowered]
  split
  · rfl
  · split <;> rfl

/-! ## Conditions -/

theorem withoutTerminator_lowered (text : List Char) :
    withoutTerminator (lowered text) = lowered (withoutTerminator text) := by
  have sameEnd : (lowered (trim text)).getLast? = some ';' ↔ (trim text).getLast? = some ';' := by
    rw [getLast?_lowered, map_toLower_eq_some_iff (by decide)]
  simp only [withoutTerminator, trim_lowered, sameEnd]
  split
  · rw [dropLast_lowered, trim_lowered]
  · rw [trim_lowered]

theorem symbol_no_letters (operator : Operator) : ∀ s ∈ operator.symbol, s.isAlpha = false := by
  cases operator <;> decide

theorem findOperator?_lowered (text : List Char) :
    findOperator? (lowered text) =
      (findOperator? text).map (Prod.map id (Prod.map lowered lowered)) := by
  rw [findOperator?, findOperator?, List.map_findSome?]
  refine congrArg (List.findSome? · Operator.scanOrder) (funext fun operator => ?_)
  rw [splitAtSymbol?_lowered (symbol_no_letters operator), Option.map_map, Function.comp_apply,
    Option.map_map]
  rfl

theorem Condition.parse_lowered (text : List Char) :
    Condition.parse (Text.lowered text) = (Condition.parse text).map Condition.lowered := by
  rw [Condition.parse, Condition.parse, withoutTerminator_lowered, findOperator?_lowered]
  cases findOperator? (withoutTerminator text) with
  | none => rfl
  | some found =>
      obtain ⟨operator, before, after⟩ := found
      simp only [Option.map_some, Prod.map_apply, id_eq, trim_lowered, parseLiteral_lowered,
        ← toLower_ofList]
      rfl

theorem parseFilter_lowered (filter : Option (List Char)) :
    parseFilter (filter.map lowered) = (parseFilter filter).map (Option.map Condition.lowered) := by
  cases filter with
  | none => rfl
  | some text =>
      rw [Option.map_some, parseFilter, parseFilter, withoutTerminator_lowered, isEmpty_lowered,
        Condition.parse_lowered]
      split
      · rfl
      · cases Condition.parse text <;> rfl

/-! ## Clauses -/

theorem Clauses.ofStatement_lowered (statement : List Char) :
    Clauses.ofStatement (Text.lowered statement) = (Clauses.ofStatement statement).lowered := by
  have sameSplit := splitAtWord?_lowered caseBlindKeyword_where none statement
  rw [Option.map_none] at sameSplit
  rw [Clauses.ofStatement, Clauses.ofStatement, sameSplit]
  cases splitAtWord? whereKeyword none statement with
  | none => rfl
  | some parts =>
      simp only [Option.map_some, Prod.map, trim_lowered]
      rfl

theorem caseBlind_isNameChar : CaseBlind isNameChar := caseBlind_of_capitals (by decide)

theorem nameAfterBlanks?_lowered (text : List Char) :
    nameAfterBlanks? (lowered text) = (nameAfterBlanks? text).map lowered := by
  simp only [nameAfterBlanks?, any_head?_lowered caseBlind_isBlank, trimStart_lowered,
    takeWhile_lowered caseBlind_isNameChar, isEmpty_lowered]
  split
  · split <;> rfl
  · rfl

theorem sourceName?_lowered (before : Option Char) (text : List Char) :
    sourceName? (before.map Char.toLower) (lowered text) =
      (sourceName? before text).map lowered := by
  induction text generalizing before with
  | nil => rfl
  | cons c rest ih =>
      have sameName : ∀ found : Option (List Char),
          (found.map lowered).bind nameAfterBlanks? =
            (found.bind nameAfterBlanks?).map lowered := by
        intro found
        cases found with
        | none => rfl
        | some after => exact nameAfterBlanks?_lowered after
      rw [lowered_cons, sourceName?, sourceName?, ← lowered_cons,
        wordAt?_lowered caseBlindKeyword_from before, sameName]
      cases (wordAt? fromKeyword before (c :: rest)).bind nameAfterBlanks? with
      | some name => rfl
      | none => exact ih (some c)

theorem startsFrom_lowered (text : List Char) : startsFrom (lowered text) = startsFrom text := by
  rw [startsFrom, startsFrom, any_head?_lowered caseBlind_isBlank, trimStart_lowered,
    wordAt?_none_lowered caseBlindKeyword_from, Option.isSome_map]

theorem upToFrom?_lowered (text : List Char) :
    upToFrom? (lowered text) = (upToFrom? text).map lowered := by
  induction text with
  | nil => rfl
  | cons c rest ih =>
      rw [lowered_cons, upToFrom?, upToFrom?, startsFrom_lowered, ih]
      split
      · rfl
      · cases upToFrom? rest <;> rfl

theorem selectText?_lowered (head : List Char) :
    selectText? (lowered head) = (selectText? head).map lowered := by
  rw [selectText?, selectText?, trimStart_lowered, wordAt?_none_lowered caseBlindKeyword_select]
  cases wordAt? selectKeyword none (trimStart head) with
  | none => rfl
  | some rest =>
      simp only [Option.map_some, any_head?_lowered caseBlind_isBlank, trimStart_lowered,
        upToFrom?_lowered]
      split <;> rfl

theorem Clauses.parse_lowered (clauses : Clauses) :
    clauses.lowered.parse = clauses.parse.map Query.lowered := by
  have sameSource := sourceName?_lowered none clauses.head
  rw [Option.map_none] at sameSource
  rw [Clauses.parse, Clauses.parse, Clauses.lowered]
  simp only [sameSource, selectText?_lowered, parseFilter_lowered]
  cases sourceName? none clauses.head with
  | none => rfl
  | some source =>
      cases selectText? clauses.head with
      | none => rfl
      | some list =>
          simp only [Option.map_some, trim_lowered, Selection.parse_lowered]
          cases Selection.parse (trim list) with
          | error => rfl
          | ok selection =>
              cases parseFilter clauses.filter with
              | error => rfl
              | ok condition =>
                  have sameSource := toLower_ofList source
                  simp only [Query.lowered, sameSource, Except.map, bind, Except.bind, pure,
                    Except.pure]

/-- **A statement in lower case is read as the query in lower case.** -/
theorem Query.parse_toLower (sql : String) :
    Query.parse sql.toLower = (Query.parse sql).map Query.lowered := by
  rw [Query.parse, Query.parse, toList_toLower, trim_lowered, isEmpty_lowered,
    withoutTerminator_lowered, Clauses.ofStatement_lowered, Clauses.parse_lowered]
  split <;> rfl

/-! ## Queries of the same letters -/

/-- Two selections of one kind whose names are the same but for the case of letters. -/
inductive Selection.SameLetters : Selection → Selection → Prop where
  | wildcard : SameLetters .wildcard .wildcard
  | columns {items others : List String} (same : List.Forall₂ Text.SameLetters items others) :
      SameLetters (.columns items) (.columns others)
  | countRows : SameLetters (.count .rows) (.count .rows)
  | countColumn {name other : String} (same : Text.SameLetters name other) :
      SameLetters (.count (.column name)) (.count (.column other))

/-- Two conditions with one operator whose columns and values are the same but for the case
of letters. -/
structure Condition.SameLetters (first second : Condition) : Prop where
  column : Text.SameLetters first.column second.column
  operator : first.operator = second.operator
  value : first.value.SameLetters second.value

/-- Two queries that are the same but for the case of letters in their names and texts. -/
structure Query.SameLetters (first second : Query) : Prop where
  selection : first.selection.SameLetters second.selection
  source : Text.SameLetters first.source second.source
  condition : Option.Rel Condition.SameLetters first.condition second.condition

theorem Selection.sameLetters_of_lowered {first second : Selection}
    (same : first.lowered = second.lowered) : first.SameLetters second := by
  match first, second, same with
  | .wildcard, .wildcard, _ => exact .wildcard
  | .columns _, .columns _, same =>
      exact .columns (forall₂_sameLetters (Selection.columns.inj same))
  | .count .rows, .count .rows, _ => exact .countRows
  | .count (.column _), .count (.column _), same =>
      exact .countColumn (sameLetters_iff.2 (CountTarget.column.inj (Selection.count.inj same)))

theorem Condition.sameLetters_of_lowered {first second : Condition}
    (same : first.lowered = second.lowered) (isRead : ∃ text, first.value = parseLiteral text) :
    first.SameLetters second := by
  obtain ⟨text, isLiteral⟩ := isRead
  obtain ⟨sameColumn, sameOperator, sameValue⟩ := Condition.mk.inj same
  refine ⟨sameLetters_iff.2 sameColumn, sameOperator, ?_⟩
  refine Scalar.sameLetters_of_lowered sameValue ?_ ?_
  · rw [isLiteral, isNull_parseLiteral]
  · rw [isLiteral]
    exact parseLiteral_ne_nan text

theorem Query.sameLetters_of_lowered {first second : Query} (same : first.lowered = second.lowered)
    (isRead : ∀ condition ∈ first.condition, ∃ text, condition.value = parseLiteral text) :
    first.SameLetters second := by
  obtain ⟨sameSelection, sameSource, sameCondition⟩ := Query.mk.inj same
  refine ⟨Selection.sameLetters_of_lowered sameSelection, sameLetters_iff.2 sameSource, ?_⟩
  match ofFirst : first.condition, ofSecond : second.condition with
  | none, none => exact .none
  | some condition, some other =>
      rw [ofFirst, ofSecond] at sameCondition
      exact .some (Condition.sameLetters_of_lowered (Option.some.inj sameCondition)
        (isRead condition ofFirst))
  | none, some _ =>
      rw [ofFirst, ofSecond] at sameCondition
      cases sameCondition
  | some _, none =>
      rw [ofFirst, ofSecond] at sameCondition
      cases sameCondition

/-! ## Reading the same letters -/

theorem Condition.value_of_parse {text : List Char} {condition : Condition}
    (isRead : Condition.parse text = .ok condition) :
    ∃ value, condition.value = parseLiteral value := by
  rw [Condition.parse] at isRead
  split at isRead
  next operator before after found =>
    cases isRead
    exact ⟨trim after, rfl⟩
  next => cases isRead

theorem Query.value_of_parse {sql : String} {query : Query}
    (isRead : Query.parse sql = .ok query) :
    ∀ condition ∈ query.condition, ∃ text, condition.value = parseLiteral text := by
  intro condition isCondition
  obtain ⟨text, parsed⟩ := Query.exists_parse_condition isRead condition isCondition
  exact Condition.value_of_parse parsed

/-- Two outcomes that a map makes equal are the same error or two successes. -/
theorem map_eq_map_cases {ε α β : Type} {f : α → β} {first second : Except ε α}
    (same : first.map f = second.map f) :
    (∃ error, first = .error error ∧ second = .error error) ∨
      ∃ a b, first = .ok a ∧ second = .ok b ∧ f a = f b := by
  match first, second, same with
  | .error error, .error _, same =>
      cases same
      exact .inl ⟨error, rfl, rfl⟩
  | .ok a, .ok b, same => exact .inr ⟨a, b, rfl, rfl, Except.ok.inj same⟩

/-- **The case of letters matters only inside names and texts.** -/
theorem Query.parse_sameLetters {first second : String} (same : Text.SameLetters first second) :
    (∃ error, Query.parse first = .error error ∧ Query.parse second = .error error) ∨
      ∃ query other, Query.parse first = .ok query ∧ Query.parse second = .ok other ∧
        query.SameLetters other := by
  have sameLowered : (Query.parse first).map Query.lowered =
      (Query.parse second).map Query.lowered := by
    rw [← Query.parse_toLower, ← Query.parse_toLower, sameLetters_iff.1 same]
  rcases map_eq_map_cases sameLowered with
    sameError | ⟨query, other, firstRead, secondRead, sameQuery⟩
  · exact .inl sameError
  · exact .inr ⟨query, other, firstRead, secondRead,
      Query.sameLetters_of_lowered sameQuery (Query.value_of_parse firstRead)⟩

theorem Query.parse_sameLetters_exponent :
    Text.SameLetters "sElEcT Count( Qty ) fRoM Sales WHERE Net >= 1.5E3;"
        "SELECT COUNT( qTY ) FROM sALES where nET >= 1.5e3;" ∧
      ∃ query other,
        Query.parse "sElEcT Count( Qty ) fRoM Sales WHERE Net >= 1.5E3;" = .ok query ∧
          Query.parse "SELECT COUNT( qTY ) FROM sALES where nET >= 1.5e3;" = .ok other ∧
          query.SameLetters other ∧ query.selection = .count (.column "Qty") ∧
          query.source = "Sales" := by
  have same : Text.SameLetters "sElEcT Count( Qty ) fRoM Sales WHERE Net >= 1.5E3;"
      "SELECT COUNT( qTY ) FROM sALES where nET >= 1.5e3;" := by
    rw [sameLetters_iff, ← String.toList_inj, toList_toLower, toList_toLower]
    decide +kernel
  have divided : Clauses.ofStatement
      (withoutTerminator "sElEcT Count( Qty ) fRoM Sales WHERE Net >= 1.5E3;".toList) =
        { head := "sElEcT Count( Qty ) fRoM Sales".toList
          filter := some "Net >= 1.5E3".toList } := by
    decide +kernel
  have found : findOperator? (withoutTerminator "Net >= 1.5E3".toList) =
      some (.ge, "Net ".toList, " 1.5E3".toList) := by
    decide +kernel
  have filterRead : parseFilter (some "Net >= 1.5E3".toList) =
      .ok (some { column := String.ofList (trim "Net ".toList), operator := .ge,
                  value := parseLiteral (trim " 1.5E3".toList) }) := by
    rw [parseFilter, if_neg (by decide), Condition.parse, found]
    rfl
  have firstRead : Query.parse "sElEcT Count( Qty ) fRoM Sales WHERE Net >= 1.5E3;" =
      .ok { selection := .count (.column "Qty"), source := "Sales"
            condition := some { column := String.ofList (trim "Net ".toList), operator := .ge,
                                value := parseLiteral (trim " 1.5E3".toList) } } := by
    rw [Query.parse, if_neg (by decide), divided, Clauses.parse_eq_ok_iff]
    exact ⟨by decide +kernel, ⟨"Count( Qty )".toList, by decide +kernel, by decide +kernel⟩,
      filterRead⟩
  rcases Query.parse_sameLetters same with ⟨error, refused, -⟩ |
      ⟨query, other, queryRead, otherRead, sameQuery⟩
  · rw [firstRead] at refused
    cases refused
  · refine ⟨same, query, other, queryRead, otherRead, sameQuery, ?_⟩
    rw [firstRead] at queryRead
    cases queryRead
    exact ⟨rfl, rfl⟩

end CsvQuery
