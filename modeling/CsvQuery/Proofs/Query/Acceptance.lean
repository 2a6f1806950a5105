import CsvQuery.Proofs.Query.BehindHead
import CsvQuery.Proofs.Query.Filter
import CsvQuery.Proofs.Query.TopLevel

/-!
# Which statements are queries

A statement can have four defects: it is blank, it names no table, it has no select list,
or its filter has no operator.  Each is described here on the text alone, without the
searches that find it: a keyword stands at a place, blanks follow, and a list is the
shortest text that blanks and `FROM` stand behind.  The first defect in this order is the
error that is reported, whatever else is wrong, and a statement without one is a query
(`Query.parse_outcome`).
-/

set_option autoImplicit false

namespace CsvQuery

open CsvQuery.Text

/-! ## The division at `WHERE` -/

/-- A statement divides at its first `WHERE` into a head, without the blanks around it, and
the filter behind the word.  Without a `WHERE` it is all head. -/
inductive DividesAtWhere (statement : List Char) : List Char → Option (List Char) → Prop where
  | noWhere (clear : ¬ HasWord whereKeyword statement) : DividesAtWhere statement statement none
  | atWhere {front filter : List Char} (stands : StandsIn whereKeyword none statement front filter)
      (isFirst : ∀ other otherFilter, StandsIn whereKeyword none statement other otherFilter →
        front.length ≤ other.length) :
      DividesAtWhere statement (trim front) (some filter)

theorem dividesAtWhere_of_splitAtWord? {statement front filter : List Char}
    (found : splitAtWord? whereKeyword none statement = some (front, filter)) :
    DividesAtWhere statement (trim front) (some filter) := by
  refine .atWhere (standsIn_of_splitAtWord? found) fun other otherFilter stands => ?_
  obtain ⟨first, firstAfter, firstFound, earlier⟩ := stands.exists_splitAtWord? isKeyword_where
  rw [found] at firstFound
  cases firstFound
  exact earlier

theorem exists_dividesAtWhere (statement : List Char) :
    ∃ head filter, DividesAtWhere statement head filter := by
  cases found : splitAtWord? whereKeyword none statement with
  | none => exact ⟨_, _, .noWhere ((splitAtWord?_eq_none_iff isKeyword_where statement).1 found)⟩
  | some => exact ⟨_, _, dividesAtWhere_of_splitAtWord? found⟩

/-- **A statement is read by its division at `WHERE`.** -/
theorem DividesAtWhere.ofStatement_eq {statement head : List Char} {filter : Option (List Char)}
    (divides : DividesAtWhere statement head filter) :
    Clauses.ofStatement statement = { head, filter := filter.map trim } := by
  cases divides with
  | noWhere clear => exact Clauses.ofStatement_of_noWhere clear
  | @atWhere front filter stands isFirst =>
      obtain ⟨first, firstAfter, found, earlier⟩ := stands.exists_splitAtWord? isKeyword_where
      have firstStands := standsIn_of_splitAtWord? found
      obtain ⟨rfl, rfl⟩ := firstStands.eq_of_length_eq stands
        (Nat.le_antisymm earlier (isFirst _ _ firstStands))
      rw [Clauses.ofStatement, found]
      rfl

theorem DividesAtWhere.startsClear {statement head : List Char} {filter : Option (List Char)}
    (divides : DividesAtWhere statement head filter) (trimmed : trim statement = statement) :
    StartsClear head := by
  have divided := Clauses.divided_ofStatement trimmed
  rw [divides.ofStatement_eq] at divided
  exact ((trim_eq_self_iff head).1 divided.headTrimmed).1

/-! ## Naming a table -/

/-- A head names a table: somewhere in it stands `FROM` with blanks behind it and, behind
them, a character that is no semicolon. -/
def NamesTable (head : List Char) : Prop :=
  ∃ front gap c rest, StandsIn fromKeyword none head front (gap ++ c :: rest) ∧
    gap ≠ [] ∧ Blanks gap ∧ isBlank c = false ∧ c ≠ ';'

theorem isNameChar_iff {c : Char} : isNameChar c = true ↔ isBlank c = false ∧ c ≠ ';' := by
  simp [isNameChar]

theorem exists_nameAfterBlanks?_iff {text : List Char} :
    (∃ name, nameAfterBlanks? text = some name) ↔
      ∃ gap c rest, text = gap ++ c :: rest ∧ gap ≠ [] ∧ Blanks gap ∧ isNameChar c = true := by
  simp only [nameAfterBlanks?_eq_some_iff]
  constructor
  · rintro ⟨name, gap, behind, rest, nonempty, blanks, rfl, isName⟩
    obtain ⟨rfl, someName, chars, -⟩ := isName
    cases name with
    | nil => exact absurd rfl someName
    | cons c name =>
        exact ⟨gap, c, name ++ rest, rfl, nonempty, blanks, chars c (List.mem_cons_self ..)⟩
  · rintro ⟨gap, c, rest, rfl, nonempty, blanks, isChar⟩
    have someName : (c :: rest).takeWhile isNameChar ≠ [] := by
      rw [List.takeWhile_cons_of_pos isChar]
      exact List.cons_ne_nil _ _
    exact ⟨_, gap, c :: rest, _, nonempty, blanks, rfl, nameAt_takeWhile someName⟩

theorem exists_sourceName?_iff {before : Option Char} {text : List Char} :
    (∃ name, sourceName? before text = some name) ↔
      ∃ front name, NamedFrom before text front name := by
  induction text generalizing before with
  | nil => simp [sourceName?, not_namedFrom_nil]
  | cons c rest ih =>
      rw [sourceName?]
      split
      next name here =>
        have named := namedFrom_nil_front_iff.2 here
        exact ⟨fun _ => ⟨[], name, named⟩, fun _ => ⟨name, rfl⟩⟩
      next notHere =>
        rw [ih]
        constructor
        · rintro ⟨front, name, named⟩
          exact ⟨c :: front, name, namedFrom_cons_iff.2 named⟩
        · rintro ⟨front, name, named⟩
          obtain ⟨restFront, -, inRest⟩ := named.exists_cons notHere
          exact ⟨restFront, name, inRest⟩

/-- **A table is read in a head exactly when the head names one.** -/
theorem exists_sourceName?_iff_namesTable {head : List Char} :
    (∃ name, sourceName? none head = some name) ↔ NamesTable head := by
  rw [exists_sourceName?_iff]
  constructor
  · rintro ⟨front, name, after, stands, named⟩
    obtain ⟨gap, c, rest, rfl, nonempty, blanks, isChar⟩ :=
      exists_nameAfterBlanks?_iff.1 ⟨name, named⟩
    exact ⟨front, gap, c, rest, stands, nonempty, blanks, isNameChar_iff.1 isChar⟩
  · rintro ⟨front, gap, c, rest, stands, nonempty, blanks, isChar⟩
    obtain ⟨name, named⟩ := exists_nameAfterBlanks?_iff.2
      ⟨gap, c, rest, rfl, nonempty, blanks, isNameChar_iff.2 isChar⟩
    exact ⟨front, name, _, stands, named⟩

/-! ## Having a select list -/

/-- A text starts with blanks and, behind them, `FROM` as a whole word. -/
def StartsWithFrom (text : List Char) : Prop :=
  ∃ gap word after, gap ≠ [] ∧ Blanks gap ∧ Spells fromKeyword word ∧ NoWordChar after.head? ∧
    text = gap ++ (word ++ after)

/-- The shortest text with a character that a longer one starts with and that blanks and
`FROM` stand behind there. -/
structure ShortestList (text list : List Char) : Prop where
  nonempty : list ≠ []
  ends : ∃ rest, text = list ++ rest ∧ StartsWithFrom rest
  shortest : ∀ other rest, other ≠ [] → text = other ++ rest → StartsWithFrom rest →
    list.length ≤ other.length

theorem upToFrom?_eq_some_iff_shortestList {text list : List Char} :
    upToFrom? text = some list ↔ ShortestList text list := by
  rw [upToFrom?_eq_some_iff]
  constructor
  · rintro ⟨rest, rfl, ends⟩
    refine ⟨ends.nonempty, ⟨rest, rfl, startsFrom_iff.1 ends.startsFrom⟩, ?_⟩
    intro other otherRest nonempty split starts
    obtain ⟨more, rfl, -⟩ := ends.exists_append split.symm nonempty (startsFrom_iff.2 starts)
    simp
  · rintro ⟨nonempty, ⟨rest, rfl, starts⟩, shortest⟩
    refine ⟨rest, rfl, nonempty, startsFrom_iff.2 starts, ?_⟩
    rintro front behind rfl frontNonempty behindNonempty
    rw [← Bool.not_eq_true, startsFrom_iff]
    intro early
    have notLonger := shortest front (behind ++ rest) frontNonempty (by simp) early
    have longer := List.length_pos_of_ne_nil behindNonempty
    rw [List.length_append] at notLonger
    omega

/-- A head starts with `SELECT`, blanks and a list that ends at the first `FROM` behind its
first character. -/
def SelectsList (head list : List Char) : Prop :=
  ∃ word gap text, Spells selectKeyword word ∧ gap ≠ [] ∧ Blanks gap ∧ StartsClear text ∧
    head = word ++ (gap ++ text) ∧ ShortestList text list

/-- A head starts with `SELECT` and a list in which more is written than commas. -/
def HasSelectList (head : List Char) : Prop :=
  ∃ list, SelectsList head list ∧ ∃ c ∈ list, c ≠ ',' ∧ isBlank c = false

theorem selectText?_eq_some_iff_selectsList {head list : List Char}
    (startsClear : StartsClear head) :
    selectText? head = some list ↔ SelectsList head list := by
  rw [selectText?_eq_some_iff, trimStart_eq_self startsClear]
  simp only [wordAt?_eq_some_iff, upToFrom?_eq_some_iff_shortestList]
  constructor
  · rintro ⟨after, ⟨⟨word, spells, split⟩, -, -⟩, startsBlank, isList⟩
    obtain ⟨gap, nonempty, blanks, behind⟩ := exists_gap_of_startsBlank startsBlank
    refine ⟨word, gap, trimStart after, spells, nonempty, blanks, startsClear_trimStart after, ?_,
      isList⟩
    rw [split, ← behind, List.nil_append]
  · rintro ⟨word, gap, text, spells, nonempty, blanks, textClear, rfl, isList⟩
    refine ⟨gap ++ text, ⟨⟨word, spells, by simp⟩, by simp [NoWordChar],
      noWordChar_head?_append nonempty blanks text⟩, startsBlank_append nonempty blanks text, ?_⟩
    rwa [trimStart_blanks_append blanks, trimStart_eq_self textClear]

/-- The pieces of a list have nothing but blanks in them exactly when the list has nothing
but commas and blanks. -/
theorem blanks_splitTopLevel_iff {text : List Char} :
    (∀ piece ∈ splitTopLevel 0 text, Blanks piece) ↔ ∀ c ∈ text, c = ',' ∨ isBlank c = true := by
  induction text with
  | nil => simp [splitTopLevel, Blanks]
  | cons c rest ih =>
      rw [splitTopLevel, List.forall_mem_cons]
      by_cases isComma : c = ','
      · rw [if_pos ⟨isComma, rfl⟩, List.forall_mem_cons, ih]
        simp [isComma, Blanks]
      · rw [if_neg fun both => isComma both.1]
        by_cases blank : isBlank c = true
        · rw [openAfter_of_isBlank blank]
          cases pieces : splitTopLevel 0 rest with
          | nil => exact absurd pieces (splitTopLevel_ne_nil 0 rest)
          | cons first others =>
              rw [pieces] at ih
              simpa [Blanks, blank] using ih
        · cases pieces : splitTopLevel (openAfter 0 c) rest with
          | nil => exact absurd pieces (splitTopLevel_ne_nil _ rest)
          | cons first others => simp [Blanks, isComma, blank]

theorem dropTrailingEmpty_eq_nil_iff {items : List (List Char)} :
    dropTrailingEmpty items = [] ↔ ∀ item ∈ items, item = [] := by
  simp [dropTrailingEmpty]

theorem selectItems_eq_nil_iff {text : List Char} :
    selectItems text = [] ↔ ∀ c ∈ text, c = ',' ∨ isBlank c = true := by
  rw [← blanks_splitTopLevel_iff, selectItems, dropTrailingEmpty_eq_nil_iff, List.forall_mem_map]
  simp only [trim_eq_nil_iff]

theorem Selection.parse_eq_malformedSelect {text : List Char}
    (nothing : ∀ c ∈ text, c = ',' ∨ isBlank c = true) :
    Selection.parse text = .error .malformedSelect := by
  have notStar : text ≠ ['*'] := by
    rintro rfl
    exact absurd (nothing '*' (by simp)) (by decide)
  rw [Selection.parse, if_neg notStar, selectItems_eq_nil_iff.2 nothing]
  rfl

theorem Selection.exists_parse {text : List Char}
    (something : ∃ c ∈ text, c ≠ ',' ∧ isBlank c = false) :
    ∃ selection, Selection.parse text = .ok selection := by
  have someItems : (selectItems text).isEmpty = false := by
    rw [List.isEmpty_eq_false_iff, ne_eq, selectItems_eq_nil_iff]
    push Not
    simpa using something
  rw [Selection.parse, someItems]
  split
  · exact ⟨_, rfl⟩
  · exact ⟨_, rfl⟩

/-! ## Filters without an operator -/

/-- Nothing is written in a filter: it is blank but for one semicolon at most. -/
def NothingWritten (filter : List Char) : Prop :=
  Blanks filter ∨ ∃ front behind, Blanks front ∧ Blanks behind ∧ filter = front ++ ';' :: behind

/-- Something is written in a filter, and none of the characters of the operators is. -/
def LacksOperator (filter : Option (List Char)) : Prop :=
  ∃ text, filter = some text ∧ ¬ NothingWritten text ∧ ∀ c ∈ ['=', '<', '>'], c ∉ text

theorem mem_trim_iff {c : Char} (notBlank : isBlank c = false) {text : List Char} :
    c ∈ trim text ↔ c ∈ text := by
  obtain ⟨front, behind, frontBlanks, behindBlanks, split⟩ := exists_blanks_trim text
  have outside : ∀ gap, Blanks gap → c ∉ gap := by
    intro gap blanks isIn
    rw [blanks c isIn] at notBlank
    cases notBlank
  conv_rhs => rw [split]
  simp [outside front frontBlanks, outside behind behindBlanks]

theorem mem_withoutSemicolon_iff {c : Char} (notSemicolon : c ≠ ';') {text : List Char} :
    c ∈ withoutSemicolon text ↔ c ∈ text := by
  rw [withoutSemicolon]
  split
  next isLast =>
    obtain ⟨front, rfl⟩ := List.getLast?_eq_some_iff.1 isLast
    simp [notSemicolon]
  next => exact Iff.rfl

/-- Nothing is left of a filter exactly when nothing is written in it. -/
theorem withoutTerminator_eq_nil_iff {text : List Char} :
    withoutTerminator text = [] ↔ NothingWritten text := by
  constructor
  · intro nothingLeft
    rw [withoutTerminator_eq, trim_eq_nil_iff] at nothingLeft
    obtain ⟨front, behind, frontBlanks, behindBlanks, split⟩ := exists_blanks_trim text
    by_cases isLast : (trim text).getLast? = some ';'
    · obtain ⟨inner, trimmed⟩ := List.getLast?_eq_some_iff.1 isLast
      rw [withoutSemicolon, if_pos isLast, trimmed, List.dropLast_concat] at nothingLeft
      refine .inr ⟨front ++ inner, behind, frontBlanks.append nothingLeft, behindBlanks, ?_⟩
      rw [split, trimmed]
      simp
    · rw [withoutSemicolon_eq_self isLast] at nothingLeft
      rw [split]
      exact .inl ((frontBlanks.append nothingLeft).append behindBlanks)
  · rintro (blanks | ⟨front, behind, frontBlanks, behindBlanks, rfl⟩)
    · rw [withoutTerminator_eq, trim_blanks blanks]
      rfl
    · have cut := trim_append_blanks behindBlanks (front ++ [';'])
      rw [List.append_assoc, List.singleton_append] at cut
      rw [withoutTerminator_of_trim_eq cut, withoutTerminator_append_semicolon,
        trim_blanks frontBlanks]

/-- Operators are told by their characters: a text without these has no operator. -/
theorem noOperator_iff {text : List Char} : NoOperator text ↔ ∀ c ∈ ['=', '<', '>'], c ∉ text := by
  constructor
  · intro noneOccurs c isOne isIn
    have alone : [c] <:+: text := by
      obtain ⟨front, behind, split⟩ := List.append_of_mem isIn
      exact ⟨front, behind, by simp [split]⟩
    simp only [List.mem_cons, List.not_mem_nil, or_false] at isOne
    rcases isOne with rfl | rfl | rfl
    · exact noneOccurs .eq alone
    · exact noneOccurs .lt alone
    · exact noneOccurs .gt alone
  · exact noOperator_of_not_mem

theorem Condition.parse_eq_error_iff {text : List Char} {error : ParseError} :
    Condition.parse text = .error error ↔
      error = .missingOperator ∧ ∀ c ∈ ['=', '<', '>'], c ∉ text := by
  have sameMarks : (∀ c ∈ ['=', '<', '>'], c ∉ withoutTerminator text) ↔
      ∀ c ∈ ['=', '<', '>'], c ∉ text := by
    have apart : ∀ c ∈ ['=', '<', '>'], isBlank c = false ∧ c ≠ ';' := by decide
    refine forall₂_congr fun c isOne => not_congr ?_
    obtain ⟨notBlank, notSemicolon⟩ := apart c isOne
    rw [withoutTerminator_eq, mem_trim_iff notBlank, mem_withoutSemicolon_iff notSemicolon,
      mem_trim_iff notBlank]
  rw [← sameMarks, ← noOperator_iff, ← findOperator?_eq_none_iff, Condition.parse]
  cases findOperator? (withoutTerminator text) with
  | none => simp [eq_comm]
  | some found => simp

/-- **A filter is refused exactly when it lacks an operator.** -/
theorem parseFilter_eq_error_iff {filter : Option (List Char)} {error : ParseError} :
    parseFilter (filter.map trim) = .error error ↔
      error = .missingOperator ∧ LacksOperator filter := by
  cases filter with
  | none => simp [parseFilter, LacksOperator]
  | some text =>
      have sameParse : Condition.parse (trim text) = Condition.parse text := by
        rw [Condition.parse, withoutTerminator_trim, Condition.parse]
      have isNothing : (withoutTerminator (trim text)).isEmpty = true ↔ NothingWritten text := by
        rw [withoutTerminator_trim, List.isEmpty_iff, withoutTerminator_eq_nil_iff]
      have sameError : (Condition.parse text).map some = .error error ↔
          Condition.parse text = .error error := by
        cases Condition.parse text <;> simp [Except.map]
      rw [Option.map_some, parseFilter, sameParse]
      by_cases nothing : NothingWritten text
      · simp [isNothing.2 nothing, nothing, LacksOperator]
      · rw [if_neg (isNothing.not.2 nothing), sameError, Condition.parse_eq_error_iff]
        simp [nothing, LacksOperator]

theorem exists_parseFilter {filter : Option (List Char)} (complete : ¬ LacksOperator filter) :
    ∃ condition, parseFilter (filter.map trim) = .ok condition := by
  cases parsed : parseFilter (filter.map trim) with
  | ok condition => exact ⟨condition, rfl⟩
  | error error => exact absurd (parseFilter_eq_error_iff.1 parsed).2 complete

/-! ## The first defect -/

section Outcome

variable {sql : String} {head : List Char} {filter : Option (List Char)}
variable (written : ¬ Blanks sql.toList)
variable (divides : DividesAtWhere (withoutTerminator sql.toList) head filter)

theorem Query.parse_of_blanks (blanks : Blanks sql.toList) : Query.parse sql = .error .empty := by
  rw [Query.parse, trim_blanks blanks]
  rfl

include written divides

theorem Query.parse_of_divides :
    Query.parse sql = Clauses.parse { head, filter := filter.map trim } := by
  have someText : (trim sql.toList).isEmpty = false := by
    rwa [List.isEmpty_eq_false_iff, ne_eq, trim_eq_nil_iff]
  rw [Query.parse, someText, divides.ofStatement_eq]
  rfl

theorem Query.parse_of_not_namesTable (noTable : ¬ NamesTable head) :
    Query.parse sql = .error .missingFrom := by
  have noSource : sourceName? none head = none := by
    rw [← exists_sourceName?_iff_namesTable] at noTable
    exact Option.eq_none_iff_forall_ne_some.2 fun name found => noTable ⟨name, found⟩
  rw [Query.parse_of_divides written divides, Clauses.parse, noSource]

theorem Query.parse_of_not_hasSelectList (names : NamesTable head) (noList : ¬ HasSelectList head) :
    Query.parse sql = .error .malformedSelect := by
  obtain ⟨source, isSource⟩ := exists_sourceName?_iff_namesTable.2 names
  have startsClear := divides.startsClear (trim_trim _)
  rw [Query.parse_of_divides written divides, Clauses.parse, isSource]
  cases found : selectText? head with
  | none => rfl
  | some list =>
      have nothing : ∀ c ∈ trim list, c = ',' ∨ isBlank c = true := by
        have isList := (selectText?_eq_some_iff_selectsList startsClear).1 found
        intro c isIn
        by_contra something
        obtain ⟨notComma, notBlank⟩ := not_or.1 something
        rw [Bool.not_eq_true] at notBlank
        exact noList ⟨list, isList, c, (mem_trim_iff notBlank).1 isIn, notComma, notBlank⟩
      simp only [Selection.parse_eq_malformedSelect nothing]
      rfl

/-- Behind a table and a select list only the filter decides. -/
theorem Query.parse_of_hasSelectList (names : NamesTable head) (hasList : HasSelectList head) :
    (∀ error, parseFilter (filter.map trim) = .error error → Query.parse sql = .error error) ∧
      ∀ condition, parseFilter (filter.map trim) = .ok condition →
        ∃ query, Query.parse sql = .ok query := by
  obtain ⟨source, isSource⟩ := exists_sourceName?_iff_namesTable.2 names
  obtain ⟨list, isList, c, isIn, notComma, notBlank⟩ := hasList
  have startsClear := divides.startsClear (trim_trim _)
  have something : ∃ c ∈ trim list, c ≠ ',' ∧ isBlank c = false :=
    ⟨c, (mem_trim_iff notBlank).2 isIn, notComma, notBlank⟩
  obtain ⟨selection, isSelection⟩ := Selection.exists_parse something
  rw [Query.parse_of_divides written divides, Clauses.parse, isSource,
    (selectText?_eq_some_iff_selectsList startsClear).2 isList]
  constructor
  · intro error refused
    simp only [isSelection, refused]
    rfl
  · intro condition accepted
    simp only [isSelection, accepted]
    exact ⟨_, rfl⟩

end Outcome

/-- **Which outcome a text has.**  Every statement divides at its first `WHERE`, and its
first defect is the error that is reported; without a defect it is a query. -/
theorem Query.parse_outcome (sql : String) :
    (∃ head filter, DividesAtWhere (withoutTerminator sql.toList) head filter) ∧
      ∀ head filter, DividesAtWhere (withoutTerminator sql.toList) head filter →
        (Query.parse sql = .error .empty ↔ Blanks sql.toList) ∧
        (Query.parse sql = .error .missingFrom ↔ ¬ Blanks sql.toList ∧ ¬ NamesTable head) ∧
        (Query.parse sql = .error .malformedSelect ↔
          ¬ Blanks sql.toList ∧ NamesTable head ∧ ¬ HasSelectList head) ∧
        (Query.parse sql = .error .missingOperator ↔
          ¬ Blanks sql.toList ∧ NamesTable head ∧ HasSelectList head ∧ LacksOperator filter) ∧
        ((∃ query, Query.parse sql = .ok query) ↔
          ¬ Blanks sql.toList ∧ NamesTable head ∧ HasSelectList head ∧ ¬ LacksOperator filter) := by
  refine ⟨exists_dividesAtWhere _, fun head filter divides => ?_⟩
  by_cases blanks : Blanks sql.toList
  · simp [Query.parse_of_blanks blanks, blanks]
  by_cases names : NamesTable head
  swap
  · simp [Query.parse_of_not_namesTable blanks divides names, blanks, names]
  by_cases hasList : HasSelectList head
  swap
  · simp [Query.parse_of_not_hasSelectList blanks divides names hasList, blanks, names, hasList]
  obtain ⟨refused, accepted⟩ := Query.parse_of_hasSelectList blanks divides names hasList
  by_cases lacks : LacksOperator filter
  · have isRefused := refused _ (parseFilter_eq_error_iff.2 ⟨rfl, lacks⟩)
    simp [isRefused, blanks, names, hasList, lacks]
  · obtain ⟨condition, isAccepted⟩ := exists_parseFilter lacks
    obtain ⟨query, isQuery⟩ := accepted condition isAccepted
    simp [isQuery, blanks, names, hasList, lacks]

theorem Query.parse_outcome_comma_without_operator :
    DividesAtWhere (withoutTerminator " SELECT , FROM t WHERE a LIKE 3;".toList)
        "SELECT , FROM t".toList (some " a LIKE 3".toList) ∧
      LacksOperator (some " a LIKE 3".toList) ∧
      Query.parse " SELECT , FROM t WHERE a LIKE 3;" = .error .malformedSelect := by
  have divides : DividesAtWhere (withoutTerminator " SELECT , FROM t WHERE a LIKE 3;".toList)
      "SELECT , FROM t".toList (some " a LIKE 3".toList) := by
    have found : splitAtWord? whereKeyword none
        (withoutTerminator " SELECT , FROM t WHERE a LIKE 3;".toList) =
          some ("SELECT , FROM t ".toList, " a LIKE 3".toList) := by decide +kernel
    have trimmed : trim "SELECT , FROM t ".toList = "SELECT , FROM t".toList := by decide +kernel
    exact trimmed ▸ dividesAtWhere_of_splitAtWord? found
  have notBlank : ¬ Blanks " SELECT , FROM t WHERE a LIKE 3;".toList :=
    fun blanks => absurd (blanks 'S' (by decide)) (by decide)
  have names : NamesTable "SELECT , FROM t".toList :=
    exists_sourceName?_iff_namesTable.1 ⟨['t'], by decide +kernel⟩
  have noList : ¬ HasSelectList "SELECT , FROM t".toList := by
    rintro ⟨list, isList, c, isIn, notComma, -⟩
    have found : selectText? "SELECT , FROM t".toList = some [','] := by decide +kernel
    rw [← selectText?_eq_some_iff_selectsList (divides.startsClear (trim_trim _)), found] at isList
    cases isList
    exact notComma (List.mem_singleton.1 isIn)
  have lacks : LacksOperator (some " a LIKE 3".toList) := by
    refine ⟨_, rfl, ?_, by decide⟩
    rw [← withoutTerminator_eq_nil_iff]
    decide +kernel
  obtain ⟨-, outcome⟩ := Query.parse_outcome " SELECT , FROM t WHERE a LIKE 3;"
  obtain ⟨-, -, malformed, -⟩ := outcome _ _ divides
  exact ⟨divides, lacks, malformed.2 ⟨notBlank, names, noList⟩⟩

end CsvQuery
