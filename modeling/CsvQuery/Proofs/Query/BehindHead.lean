import CsvQuery.Proofs.Query.Clauses
import CsvQuery.Proofs.Query.Terminator

/-!
# What stands behind the table

A statement is `SELECT`, a list, `FROM` and a table, and a filter may follow.  The two
searches of a head stop at what they look for: the select list at its `FROM`, the table
at the end of its name.  Nothing reads on from there.  So a text that is put behind the
head of an accepted statement changes nothing: the statement is still accepted, it is
the same query, and the text stands behind the name of the table
(`Query.parse_insertBehindHead`).  A limit, a second table and a second statement behind
a semicolon are such texts.
-/

set_option autoImplicit false

namespace CsvQuery

open CsvQuery.Text

/-! ## Searches in a head with a text behind it -/

/-- What cannot stand in the name of a table belongs to no word. -/
theorem isWordChar_eq_false_of_not_name {c : Char} (apart : isNameChar c = false) :
    isWordChar c = false := by
  have isEnd : isBlank c = true ∨ c = ';' := by simpa [isNameChar, imp_iff_not_or] using apart
  rcases isEnd with blank | rfl
  · exact isWordChar_eq_false_of_isBlank blank
  · decide

section Behind

variable {c : Char} (apart : isNameChar c = false) (more : List Char)
include apart

theorem takeWhile_isNameChar_append_cons (text : List Char) :
    (text ++ c :: more).takeWhile isNameChar = text.takeWhile isNameChar := by
  induction text with
  | nil => exact List.takeWhile_cons_of_neg (by simp [apart])
  | cons d text ih =>
      rw [List.cons_append, List.takeWhile_cons, List.takeWhile_cons, ih]

omit apart in
theorem head?_and_trimStart_append_cons {text : List Char} (someText : ¬ Blanks text) :
    (text ++ c :: more).head? = text.head? ∧
      trimStart (text ++ c :: more) = trimStart text ++ c :: more := by
  have nonempty : text ≠ [] := by
    rintro rfl
    exact someText fun d isIn => by cases isIn
  exact ⟨List.head?_append_of_ne_nil _ nonempty,
    trimStart_append (fun empty => someText (trimStart_eq_nil_iff.1 empty)) _⟩

theorem nameAfterBlanks?_append_cons {text : List Char} (someText : ¬ Blanks text) :
    nameAfterBlanks? (text ++ c :: more) = nameAfterBlanks? text := by
  obtain ⟨sameHead, trimmed⟩ := head?_and_trimStart_append_cons more someText
  rw [nameAfterBlanks?, nameAfterBlanks?, sameHead, trimmed,
    takeWhile_isNameChar_append_cons apart]

theorem startsFrom_append_cons {text : List Char} (someText : ¬ Blanks text) :
    startsFrom (text ++ c :: more) = startsFrom text := by
  obtain ⟨sameHead, trimmed⟩ := head?_and_trimStart_append_cons more someText
  rw [startsFrom, startsFrom, sameHead, trimmed,
    wordAt?_append_separator isKeyword_from (isWordChar_eq_false_of_not_name apart),
    Option.isSome_map]

/-- A select list ends at the same `FROM`. -/
theorem EndsAtFrom.append_cons {list rest : List Char} (ends : EndsAtFrom list rest) :
    EndsAtFrom list (rest ++ c :: more) := by
  have someRest : ¬ Blanks rest := by
    intro blanks
    have starts := ends.startsFrom
    rw [CsvQuery.startsFrom, trimStart_eq_nil_iff.2 blanks, wordAt?_nil isKeyword_from] at starts
    simp at starts
  refine ⟨ends.nonempty, ?_, ?_⟩
  · rw [startsFrom_append_cons apart more someRest]
    exact ends.startsFrom
  · intro front behind split frontNonempty behindNonempty
    have someText : ¬ Blanks (behind ++ rest) := fun blanks =>
      someRest fun d isIn => blanks d (List.mem_append_right behind isIn)
    rw [← List.append_assoc, startsFrom_append_cons apart more someText]
    exact ends.shortest front behind split frontNonempty behindNonempty

omit apart in
theorem selectText?_eq_some_iff {head list : List Char} :
    selectText? head = some list ↔
      ∃ after, wordAt? selectKeyword none (trimStart head) = some after ∧
        after.head?.any isBlank = true ∧ upToFrom? (trimStart after) = some list := by
  rw [selectText?]
  cases wordAt? selectKeyword none (trimStart head) <;> simp

/-- The select list of a head does not change. -/
theorem selectText?_append_cons {head list : List Char} (found : selectText? head = some list) :
    selectText? (head ++ c :: more) = some list := by
  obtain ⟨after, isSelect, startsBlank, isList⟩ := selectText?_eq_some_iff.1 found
  obtain ⟨rest, split, ends⟩ := upToFrom?_eq_some_iff.1 isList
  have someHead : trimStart head ≠ [] := by
    intro empty
    rw [empty, wordAt?_nil isKeyword_select] at isSelect
    cases isSelect
  have someAfter : ¬ Blanks after := by
    intro blanks
    rw [trimStart_eq_nil_iff.2 blanks] at split
    exact List.append_ne_nil_of_left_ne_nil ends.nonempty rest split.symm
  obtain ⟨sameHead, trimmed⟩ := head?_and_trimStart_append_cons more someAfter
  refine selectText?_eq_some_iff.2 ⟨after ++ c :: more, ?_, ?_, ?_⟩
  · rw [trimStart_append someHead, wordAt?_append_separator isKeyword_select
      (isWordChar_eq_false_of_not_name apart), isSelect]
    rfl
  · rwa [sameHead]
  · rw [trimmed, upToFrom?_eq_some_iff]
    exact ⟨rest ++ c :: more, by rw [split, List.append_assoc], ends.append_cons apart more⟩

end Behind

/-! ## The text behind the name of the table -/

/-- The text of a head behind the name of the table that is read in it. -/
def BehindSource (head source behind : List Char) : Prop :=
  ∃ front gap, FirstNamedFrom none head front source ∧
    StandsIn fromKeyword none head front (gap ++ (source ++ behind)) ∧
    gap ≠ [] ∧ Blanks gap ∧ NameAt (source ++ behind) source behind

theorem exists_behindSource {head source : List Char}
    (found : sourceName? none head = some source) : ∃ behind, BehindSource head source behind := by
  obtain ⟨front, isFirst⟩ := sourceName?_eq_some_iff.1 found
  obtain ⟨after, stands, named⟩ := isFirst.named
  obtain ⟨gap, text, behind, nonempty, blanks, rfl, isName⟩ := nameAfterBlanks?_eq_some_iff.1 named
  rw [isName.split] at stands isName
  exact ⟨behind, front, gap, isFirst, stands, nonempty, blanks, isName⟩

theorem BehindSource.isSuffix {head source behind : List Char}
    (stands : BehindSource head source behind) : source ++ behind <:+ head := by
  obtain ⟨front, gap, -, ⟨⟨word, -, split⟩, -, -⟩, -⟩ := stands
  exact ⟨front ++ word ++ gap, by simp [split]⟩

/-- Of two words of one length in a text, the one that starts earlier ends earlier. -/
theorem exists_between_ends {text front word after other otherWord otherAfter : List Char}
    (split : text = front ++ word ++ after)
    (otherSplit : text = other ++ otherWord ++ otherAfter)
    (sameLength : otherWord.length = word.length) (earlier : other.length < front.length) :
    ∃ between, between ≠ [] ∧ front ++ word = other ++ otherWord ++ between ∧
      otherAfter = between ++ after := by
  rw [split] at otherSplit
  rcases List.append_eq_append_iff.1 otherSplit with ⟨between, longer, -⟩ | ⟨between, shorter, rest⟩
  · have lengths := congrArg List.length longer
    simp only [List.length_append] at lengths
    omega
  · refine ⟨between, ?_, shorter, rest⟩
    rintro rfl
    have lengths := congrArg List.length shorter
    simp only [List.length_append, List.length_nil] at lengths
    omega

/-- A `FROM` with a name that stands in front of one in a head is in the head, whatever
is put behind the head. -/
theorem NamedFrom.of_append_cons {head front name : List Char}
    (named : NamedFrom none head front name) {c : Char} (apart : isNameChar c = false)
    {more other otherName : List Char}
    (isOther : NamedFrom none (head ++ c :: more) other otherName)
    (earlier : other.length < front.length) : NamedFrom none head other otherName := by
  obtain ⟨after, ⟨⟨word, spells, split⟩, -, -⟩, -⟩ := named
  obtain ⟨otherAfter, ⟨⟨otherWord, otherSpells, otherSplit⟩, fresh, endsWord⟩, isName⟩ := isOther
  have longSplit : head ++ c :: more = front ++ word ++ (after ++ c :: more) := by
    rw [split, List.append_assoc]
  obtain ⟨between, nonempty, ends, sameAfter⟩ := exists_between_ends longSplit otherSplit
    (otherSpells.length_eq.symm.trans spells.length_eq) earlier
  have headSplit : head = other ++ otherWord ++ (between ++ after) := by
    rw [split, ends, List.append_assoc]
  -- Behind the earlier `FROM` stands the end of the later one, which is no blank.
  have someText : ¬ Blanks (between ++ after) := by
    have betweenEndsClear : EndsClear between := by
      intro d isLast
      refine spells.isBlank_eq_false isKeyword_from d (List.mem_of_mem_getLast? ?_)
      rwa [← List.getLast?_append_of_ne_nil front (spells.ne_nil isKeyword_from), ends,
        List.getLast?_append_of_ne_nil _ nonempty]
    intro blanks
    exact betweenEndsClear.not_blanks nonempty fun d isIn => blanks d (List.mem_append_left _ isIn)
  rw [← List.append_assoc] at sameAfter
  rw [sameAfter, nameAfterBlanks?_append_cons apart more someText] at isName
  refine ⟨between ++ after, ⟨⟨otherWord, otherSpells, headSplit⟩, fresh, fun d isFirst => ?_⟩, isName⟩
  exact endsWord d (sameAfter ▸ List.mem_head?_append_of_mem_head? isFirst)

/-- **The table stays where it is, and what is put behind the head stands behind it.** -/
theorem BehindSource.append_cons {head source behind : List Char}
    (stands : BehindSource head source behind) {c : Char} (apart : isNameChar c = false)
    (more : List Char) : BehindSource (head ++ c :: more) source (behind ++ c :: more) := by
  obtain ⟨front, gap, ⟨named, first⟩, ⟨⟨word, spells, split⟩, fresh, endsWord⟩, nonempty, blanks,
    isName⟩ := stands
  have isNameHere : NameAt (source ++ (behind ++ c :: more)) source (behind ++ c :: more) := by
    refine ⟨rfl, isName.nonempty, isName.chars, fun d isFirst => ?_⟩
    rw [List.head?_append, Option.mem_def, Option.or_eq_some_iff] at isFirst
    rcases isFirst with inBehind | ⟨-, isMore⟩
    · exact isName.maximal d inBehind
    · cases isMore
      exact apart
  have standsHere : StandsIn fromKeyword none (head ++ c :: more) front
      (gap ++ (source ++ (behind ++ c :: more))) := by
    refine ⟨⟨word, spells, by simp [split]⟩, fresh, ?_⟩
    exact noWordChar_head?_append nonempty blanks _
  have namedHere : NamedFrom none (head ++ c :: more) front source :=
    ⟨_, standsHere, nameAfterBlanks?_eq_some_iff.2
      ⟨gap, _, _, nonempty, blanks, rfl, isNameHere⟩⟩
  refine ⟨front, gap, ⟨namedHere, fun other otherName isOther => ?_⟩, standsHere, nonempty, blanks,
    isNameHere⟩
  by_contra notBehind
  have earlier : other.length < front.length := by omega
  exact notBehind (first other otherName (named.of_append_cons apart isOther earlier))

theorem BehindSource.sourceName? {head source behind : List Char}
    (stands : BehindSource head source behind) : sourceName? none head = some source := by
  obtain ⟨front, -, isFirst, -⟩ := stands
  exact sourceName?_eq_some_iff.2 ⟨front, isFirst⟩

/-! ## Clauses as they are divided -/

/-- What holds of the clauses of every statement. -/
structure Clauses.Divided (clauses : Clauses) : Prop where
  headTrimmed : trim clauses.head = clauses.head
  noWhere : ¬ HasWord whereKeyword clauses.head
  filterTrimmed : ∀ filter ∈ clauses.filter, trim filter = filter

theorem Clauses.divided_ofStatement {statement : List Char} (trimmed : trim statement = statement) :
    (Clauses.ofStatement statement).Divided := by
  rw [Clauses.ofStatement]
  cases found : splitAtWord? whereKeyword none statement with
  | none =>
      exact {
        headTrimmed := trimmed
        noWhere := (splitAtWord?_eq_none_iff isKeyword_where statement).1 found
        filterTrimmed := fun filter isFilter => by cases isFilter }
  | some parts =>
      obtain ⟨front, after⟩ := parts
      refine {
        headTrimmed := trim_trim front
        noWhere := fun has => not_hasWord_of_splitAtWord? isKeyword_where found (hasWord_of_trim has)
        filterTrimmed := ?_ }
      rintro filter ⟨⟩
      exact trim_trim after

/-- The text of clauses: the head, and `WHERE` with the filter if there is one. -/
def Clauses.written (clauses : Clauses) : List Char :=
  clauses.head ++ clauses.filter.elim [] fun filter => ' ' :: (whereKeyword ++ ' ' :: filter)

/-- **Clauses are read back from their text.** -/
theorem Clauses.ofStatement_trim_written {clauses : Clauses} (divided : clauses.Divided)
    (nonempty : clauses.head ≠ []) :
    Clauses.ofStatement (trim clauses.written) = clauses := by
  obtain ⟨head, filter⟩ := clauses
  obtain ⟨headTrimmed, noWhere, filterTrimmed⟩ := divided
  obtain ⟨startsClear, -⟩ := (trim_eq_self_iff head).1 headTrimmed
  cases filter with
  | none =>
      rw [Clauses.written, Option.elim_none, List.append_nil, headTrimmed]
      exact Clauses.ofStatement_of_noWhere noWhere
  | some filter =>
      let front := head ++ ' ' :: whereKeyword
      have whereEndsClear : EndsClear whereKeyword := by
        intro c isLast
        cases isLast
        decide
      have frontEndsClear : EndsClear front := by
        have ends := whereEndsClear.append isKeyword_where.nonempty (head ++ [' '])
        rwa [List.append_assoc] at ends
      have shown : head ++ ' ' :: (whereKeyword ++ ' ' :: filter) = front ++ ' ' :: filter := by
        simp [front]
      have endsWord : NoWordChar (trimEnd (' ' :: filter)).head? := by
        obtain ⟨gap, -, split⟩ := exists_trimEnd_blanks (' ' :: filter)
        intro c isFirst
        have isSpace : c ∈ (' ' :: filter).head? := by
          rw [split]
          exact List.mem_head?_append_of_mem_head? isFirst
        cases isSpace
        decide
      have sameFilter : trim (trimEnd (' ' :: filter)) = filter := by
        have cut := trim_append_trimEnd [] (' ' :: filter)
        rw [List.nil_append, List.nil_append] at cut
        rw [cut, trim_space_cons, filterTrimmed filter rfl]
      rw [Clauses.written, Option.elim_some, shown,
        trim_append (by simp) (startsClear.append nonempty _) frontEndsClear,
        List.append_assoc, List.cons_append,
        Clauses.ofStatement_where headTrimmed noWhere endsWord, sameFilter]

/-- A statement that is written from clauses and ended with a semicolon is read as them. -/
theorem Clauses.parse_written_semicolon {clauses : Clauses} (divided : clauses.Divided)
    (nonempty : clauses.head ≠ []) :
    headText (String.ofList (clauses.written ++ [';'])) = clauses.head ∧
      Query.parse (String.ofList (clauses.written ++ [';'])) = clauses.parse := by
  have text : (String.ofList (clauses.written ++ [';'])).toList = clauses.written ++ [';'] :=
    String.toList_ofList
  have someText : (trim (clauses.written ++ [';'])).isEmpty = false := by
    rw [List.isEmpty_eq_false_iff, ne_eq, trim_eq_nil_iff]
    intro blanks
    exact absurd (blanks ';' (by simp)) (by decide)
  constructor
  · rw [headText, text, withoutTerminator_append_semicolon,
      Clauses.ofStatement_trim_written divided nonempty]
  · rw [Query.parse, text, someText, withoutTerminator_append_semicolon,
      Clauses.ofStatement_trim_written divided nonempty]
    rfl

/-! ## A text behind the head of a statement -/

/-- A text that can be put behind the name of a table: it starts with a blank or a
semicolon, does not end with a blank and has no `WHERE` in it. -/
structure IsTail (more : List Char) : Prop where
  nonempty : more ≠ []
  apart : ∀ c ∈ more.head?, isNameChar c = false
  endsClear : EndsClear more
  noWhere : ¬ HasWord whereKeyword more

theorem IsTail.exists_cons {more : List Char} (isTail : IsTail more) :
    ∃ c rest, more = c :: rest ∧ isNameChar c = false := by
  cases more with
  | nil => exact absurd rfl isTail.nonempty
  | cons c rest => exact ⟨c, rest, rfl, isTail.apart c rfl⟩

theorem BehindSource.append_tail {head source behind : List Char}
    (stands : BehindSource head source behind) {more : List Char} (isTail : IsTail more) :
    BehindSource (head ++ more) source (behind ++ more) := by
  obtain ⟨c, rest, rfl, apart⟩ := isTail.exists_cons
  exact stands.append_cons apart rest

/-- Clauses with a text put behind the head. -/
def Clauses.insertBehind (clauses : Clauses) (more : List Char) : Clauses :=
  { clauses with head := clauses.head ++ more }

section Insert

variable {clauses : Clauses} {more : List Char} (isTail : IsTail more)
include isTail

theorem Clauses.Divided.insertBehind (divided : clauses.Divided) (nonempty : clauses.head ≠ []) :
    (clauses.insertBehind more).Divided := by
  obtain ⟨headTrimmed, noWhere, filterTrimmed⟩ := divided
  obtain ⟨startsClear, -⟩ := (trim_eq_self_iff _).1 headTrimmed
  refine ⟨?_, ?_, filterTrimmed⟩
  · exact trim_eq_self (startsClear.append nonempty _)
      (isTail.endsClear.append isTail.nonempty _)
  · have tailNoWhere := isTail.noWhere
    obtain ⟨c, rest, rfl, apart⟩ := isTail.exists_cons
    have isSeparator := isWordChar_eq_false_of_not_name apart
    rw [hasWord_cons_iff isKeyword_where isSeparator] at tailNoWhere
    rw [Clauses.insertBehind, hasWord_append_cons_iff isKeyword_where isSeparator, not_or]
    exact ⟨noWhere, tailNoWhere⟩

/-- **Clauses are the same query with a text behind their head.** -/
theorem Clauses.parse_insertBehind {query : Query} (isRead : clauses.parse = .ok query) :
    (clauses.insertBehind more).parse = .ok query := by
  obtain ⟨source, ⟨list, isList, selection⟩, condition⟩ := Clauses.parse_eq_ok_iff.1 isRead
  obtain ⟨behind, stands⟩ := exists_behindSource source
  refine Clauses.parse_eq_ok_iff.2 ⟨(stands.append_tail isTail).sourceName?, ?_, condition⟩
  obtain ⟨c, rest, rfl, apart⟩ := isTail.exists_cons
  exact ⟨list, selectText?_append_cons apart rest isList, selection⟩

end Insert

/-- A statement with a text put behind its head, written with a semicolon at the end. -/
def insertBehindHead (sql : String) (more : List Char) : String :=
  let clauses := Clauses.ofStatement (withoutTerminator sql.toList)
  String.ofList ((clauses.insertBehind more).written ++ [';'])

/-- **Whatever stands behind the table of an accepted statement is not read.** -/
theorem Query.parse_insertBehindHead {sql : String} {query : Query}
    (isRead : Query.parse sql = .ok query) :
    ∃ behind, BehindSource (headText sql) query.source.toList behind ∧
      ∀ more, IsTail more →
        Query.parse (insertBehindHead sql more) = .ok query ∧
          BehindSource (headText (insertBehindHead sql more)) query.source.toList
            (behind ++ more) := by
  have clausesRead := Query.clauses_of_parse isRead
  obtain ⟨source, -⟩ := Clauses.parse_eq_ok_iff.1 clausesRead
  obtain ⟨behind, stands⟩ := exists_behindSource source
  have nonempty : headText sql ≠ [] := by
    intro empty
    rw [headText] at empty
    rw [empty] at source
    cases source
  have divided := Clauses.divided_ofStatement (trim_trim _ : trim (withoutTerminator sql.toList) = _)
  refine ⟨behind, stands, fun more isTail => ?_⟩
  obtain ⟨sameHead, sameParse⟩ := Clauses.parse_written_semicolon
    (divided.insertBehind isTail nonempty) (List.append_ne_nil_of_left_ne_nil nonempty more)
  constructor
  · exact sameParse.trans (Clauses.parse_insertBehind isTail clausesRead)
  · exact sameHead.symm ▸ stands.append_tail isTail

theorem Query.parse_insertBehindHead_limit_and_statement :
    Query.parse "SELECT a FROM t WHERE b = 1" =
        .ok { selection := .columns ["a"], source := "t"
              condition := some { column := "b", operator := .eq, value := .integer 1 } } ∧
      IsTail " LIMIT 5; SELECT c FROM u".toList ∧
      Query.parse (insertBehindHead "SELECT a FROM t WHERE b = 1"
          " LIMIT 5; SELECT c FROM u".toList) =
        .ok { selection := .columns ["a"], source := "t"
              condition := some { column := "b", operator := .eq, value := .integer 1 } } := by
  have isRead : Query.parse "SELECT a FROM t WHERE b = 1" =
      .ok { selection := .columns ["a"], source := "t"
            condition := some { column := "b", operator := .eq, value := .integer 1 } } := by
    rw [Query.parse, if_neg (by decide), Clauses.parse_eq_ok_iff]
    exact ⟨by decide +kernel, ⟨['a'], by decide +kernel, rfl⟩, rfl⟩
  have isTail : IsTail " LIMIT 5; SELECT c FROM u".toList := {
    nonempty := by decide
    apart := fun c isFirst => by cases isFirst; decide
    endsClear := fun c isLast => by cases isLast; decide
    noWhere := (splitAtWord?_eq_none_iff isKeyword_where _).1 (by decide +kernel) }
  obtain ⟨behind, -, ignored⟩ := Query.parse_insertBehindHead isRead
  exact ⟨isRead, isTail, (ignored _ isTail).1⟩

/-- A statement with something behind its table can be accepted. -/
theorem Query.parse_limit_behind_source :
    ¬ ∀ (sql : String) (query : Query) (behind : List Char), Query.parse sql = .ok query →
      BehindSource (headText sql) query.source.toList behind → behind = [] := by
  intro nothingBehind
  have isRead : Query.parse "SELECT * FROM t LIMIT 5" =
      .ok { selection := .wildcard, source := "t", condition := none } := by
    rw [Query.parse, if_neg (by decide), Clauses.parse_eq_ok_iff]
    exact ⟨by decide +kernel, ⟨['*'], by decide +kernel, rfl⟩, rfl⟩
  obtain ⟨source, -⟩ := Clauses.parse_eq_ok_iff.1 (Query.clauses_of_parse isRead)
  obtain ⟨behind, stands⟩ := exists_behindSource source
  have endsWithSource := stands.isSuffix
  rw [nothingBehind _ _ _ isRead stands] at endsWithSource
  exact absurd endsWithSource (by decide +kernel)

end CsvQuery
