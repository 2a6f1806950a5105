import CsvQuery.Query.Statement
import CsvQuery.Proofs.Text.Trimming
import CsvQuery.Proofs.Text.WholeWord

/-!
# The two searches for `FROM`

A head is searched for `FROM` twice.  The table is the name behind the first
`FROM` that has a name behind it (`sourceName?_eq_some_iff`); such a name is a
longest run of name characters behind blanks (`nameAfterBlanks?_eq_some_iff`).  The
select list is the shortest text that has a character and is followed by blanks and
`FROM` (`upToFrom?_eq_some_iff`).
-/

set_option autoImplicit false

namespace CsvQuery

open CsvQuery.Text

theorem isKeyword_select : IsKeyword selectKeyword := ⟨by decide, by decide⟩

theorem isKeyword_from : IsKeyword fromKeyword := ⟨by decide, by decide⟩

theorem isKeyword_where : IsKeyword whereKeyword := ⟨by decide, by decide⟩

/-! ## Names behind blanks -/

/-- A name that fills the front of a text as far as name characters go. -/
structure NameAt (text name rest : List Char) : Prop where
  split : text = name ++ rest
  nonempty : name ≠ []
  chars : ∀ c ∈ name, isNameChar c = true
  maximal : ∀ c ∈ rest.head?, isNameChar c = false

theorem NameAt.startsClear {text name rest : List Char} (isName : NameAt text name rest) :
    StartsClear text := by
  obtain ⟨rfl, nonempty, chars, -⟩ := isName
  cases name with
  | nil => exact absurd rfl nonempty
  | cons c name =>
      intro d isFirst
      cases isFirst
      have isChar := chars c (List.mem_cons_self ..)
      simp only [isNameChar, Bool.and_eq_true, Bool.not_eq_true'] at isChar
      exact isChar.1

theorem NameAt.takeWhile_eq {text name rest : List Char} (isName : NameAt text name rest) :
    text.takeWhile isNameChar = name := by
  obtain ⟨rfl, -, chars, maximal⟩ := isName
  rw [List.takeWhile_append_of_pos chars]
  cases rest with
  | nil => simp
  | cons c rest => simp [maximal c rfl]

theorem nameAt_takeWhile {text : List Char} (nonempty : text.takeWhile isNameChar ≠ []) :
    NameAt text (text.takeWhile isNameChar) (text.dropWhile isNameChar) where
  split := List.takeWhile_append_dropWhile.symm
  nonempty := nonempty
  chars := fun _ isIn => List.mem_takeWhile_imp isIn
  maximal := by
    intro c isFirst
    have stopped := List.head?_dropWhile_not isNameChar text
    rw [isFirst] at stopped
    simpa using stopped

/-- **A name behind blanks.** -/
theorem nameAfterBlanks?_eq_some_iff {text name : List Char} :
    nameAfterBlanks? text = some name ↔
      ∃ gap behind rest, gap ≠ [] ∧ Blanks gap ∧ text = gap ++ behind ∧
        NameAt behind name rest := by
  rw [nameAfterBlanks?]
  constructor
  · intro found
    split at found
    next startsBlank =>
      obtain ⟨gap, nonempty, blanks, split⟩ := exists_gap_of_startsBlank startsBlank
      simp only [Option.ite_none_left_eq_some, Option.some.injEq, List.isEmpty_iff] at found
      obtain ⟨someName, rfl⟩ := found
      exact ⟨gap, trimStart text, _, nonempty, blanks, split, nameAt_takeWhile someName⟩
    next => cases found
  · rintro ⟨gap, behind, rest, nonempty, blanks, rfl, isName⟩
    rw [if_pos (startsBlank_append nonempty blanks behind), trimStart_blanks_append blanks,
      trimStart_eq_self isName.startsClear, isName.takeWhile_eq]
    simp [isName.nonempty]

/-! ## The first `FROM` with a name -/

/-- A `FROM` behind `front` with a name behind it. -/
def NamedFrom (before : Option Char) (text front name : List Char) : Prop :=
  ∃ after, StandsIn fromKeyword before text front after ∧ nameAfterBlanks? after = some name

/-- A `FROM` with a name behind it that no other one stands in front of. -/
structure FirstNamedFrom (before : Option Char) (text front name : List Char) : Prop where
  named : NamedFrom before text front name
  first : ∀ other otherName, NamedFrom before text other otherName → front.length ≤ other.length

theorem namedFrom_nil_front_iff {before : Option Char} {text name : List Char} :
    NamedFrom before text [] name ↔
      (wordAt? fromKeyword before text).bind nameAfterBlanks? = some name := by
  simp only [NamedFrom, ← wordAt?_eq_some_iff, Option.bind_eq_some_iff]

theorem namedFrom_cons_iff {before : Option Char} {c : Char} {text front name : List Char} :
    NamedFrom before (c :: text) (c :: front) name ↔ NamedFrom (some c) text front name := by
  simp only [NamedFrom, StandsIn.cons]

theorem not_namedFrom_nil {before : Option Char} {front name : List Char} :
    ¬ NamedFrom before [] front name := by
  rintro ⟨after, ⟨⟨word, spells, split⟩, -, -⟩, -⟩
  simp only [List.append_assoc, List.nil_eq, List.append_eq_nil_iff] at split
  exact spells.ne_nil isKeyword_from split.2.1

theorem NamedFrom.exists_cons {before : Option Char} {c : Char} {text front name : List Char}
    (named : NamedFrom before (c :: text) front name)
    (notHere : (wordAt? fromKeyword before (c :: text)).bind nameAfterBlanks? = none) :
    ∃ rest, front = c :: rest ∧ NamedFrom (some c) text rest name := by
  cases front with
  | nil =>
      rw [namedFrom_nil_front_iff, notHere] at named
      cases named
  | cons d front =>
      obtain ⟨after, ⟨⟨word, spells, split⟩, startsWord, endsWord⟩, isName⟩ := named
      obtain ⟨rfl, -⟩ := List.cons.inj split
      exact ⟨front, rfl, namedFrom_cons_iff.1
        ⟨after, ⟨⟨word, spells, split⟩, startsWord, endsWord⟩, isName⟩⟩

/-- **The table is the name behind the first `FROM` that has one.** -/
theorem sourceName?_eq_some_iff {before : Option Char} {text name : List Char} :
    sourceName? before text = some name ↔ ∃ front, FirstNamedFrom before text front name := by
  induction text generalizing before with
  | nil =>
      constructor
      · intro found
        cases found
      · rintro ⟨front, isFirst⟩
        exact absurd isFirst.named not_namedFrom_nil
  | cons c rest ih =>
      rw [sourceName?]
      split
      next found here =>
        have named := namedFrom_nil_front_iff.2 here
        constructor
        · rintro ⟨⟩
          exact ⟨[], named, fun _ _ _ => Nat.zero_le _⟩
        · rintro ⟨front, isFirst⟩
          have notBehind := isFirst.first [] _ named
          have atFront : front = [] := List.length_eq_zero_iff.1 (Nat.le_zero.1 notBehind)
          rw [← here, ← namedFrom_nil_front_iff, ← atFront]
          exact isFirst.named
      next notHere =>
        rw [ih]
        constructor
        · rintro ⟨front, named, first⟩
          refine ⟨c :: front, namedFrom_cons_iff.2 named, fun other otherName isOther => ?_⟩
          obtain ⟨otherRest, rfl, inRest⟩ := isOther.exists_cons notHere
          simpa using first otherRest otherName inRest
        · rintro ⟨front, named, first⟩
          obtain ⟨frontRest, rfl, inRest⟩ := named.exists_cons notHere
          refine ⟨frontRest, inRest, fun other otherName isOther => ?_⟩
          simpa using first (c :: other) otherName (namedFrom_cons_iff.2 isOther)

theorem sourceName?_of_splitAtWord? {before : Option Char} {text front after name : List Char}
    (found : splitAtWord? fromKeyword before text = some (front, after))
    (named : nameAfterBlanks? after = some name) : sourceName? before text = some name := by
  refine sourceName?_eq_some_iff.2 ⟨front, ⟨after, standsIn_of_splitAtWord? found, named⟩, ?_⟩
  rintro other otherName ⟨otherAfter, stands, -⟩
  obtain ⟨first, firstAfter, firstFound, earlier⟩ := stands.exists_splitAtWord? isKeyword_from
  rw [found] at firstFound
  cases firstFound
  exact earlier

/-! ## The end of the select list -/

/-- Blanks and then the word `FROM`. -/
theorem startsFrom_iff {text : List Char} :
    startsFrom text = true ↔
      ∃ gap word after, gap ≠ [] ∧ Blanks gap ∧ Spells fromKeyword word ∧
        NoWordChar after.head? ∧ text = gap ++ (word ++ after) := by
  rw [startsFrom, Bool.and_eq_true]
  constructor
  · rintro ⟨startsBlank, isFrom⟩
    obtain ⟨gap, nonempty, blanks, split⟩ := exists_gap_of_startsBlank startsBlank
    obtain ⟨after, found⟩ := Option.isSome_iff_exists.1 isFrom
    obtain ⟨⟨word, spells, behind⟩, -, endsWord⟩ := wordAt?_eq_some_iff.1 found
    rw [List.nil_append] at behind
    exact ⟨gap, word, after, nonempty, blanks, spells, endsWord, by rw [← behind, ← split]⟩
  · rintro ⟨gap, word, after, nonempty, blanks, spells, endsWord, rfl⟩
    refine ⟨startsBlank_append nonempty blanks _, ?_⟩
    rw [trimStart_blanks_append blanks, trimStart_eq_self (spells.startsClear isKeyword_from after),
      spells.wordAt? endsWord]
    rfl

/-- A text with a character that blanks and `FROM` stand behind, and behind no
shorter part of it with a character. -/
structure EndsAtFrom (list rest : List Char) : Prop where
  nonempty : list ≠ []
  startsFrom : startsFrom rest = true
  shortest : ∀ front behind, list = front ++ behind → front ≠ [] → behind ≠ [] →
    CsvQuery.startsFrom (behind ++ rest) = false

theorem endsAtFrom_singleton {c : Char} {rest : List Char} (starts : startsFrom rest = true) :
    EndsAtFrom [c] rest := by
  refine ⟨List.cons_ne_nil _ _, starts, fun front behind split frontNonempty behindNonempty => ?_⟩
  rcases List.append_eq_singleton_iff.1 split.symm with ⟨empty, -⟩ | ⟨-, empty⟩
  · exact absurd empty frontNonempty
  · exact absurd empty behindNonempty

theorem endsAtFrom_cons_iff {c : Char} {list rest : List Char} (nonempty : list ≠ []) :
    EndsAtFrom (c :: list) rest ↔
      startsFrom (list ++ rest) = false ∧ EndsAtFrom list rest := by
  constructor
  · intro ends
    refine ⟨ends.shortest [c] list rfl (by simp) nonempty, nonempty, ends.startsFrom, ?_⟩
    intro front behind split _ behindNonempty
    exact ends.shortest (c :: front) behind (by rw [split]; rfl) (by simp) behindNonempty
  · rintro ⟨notHere, ends⟩
    refine ⟨List.cons_ne_nil _ _, ends.startsFrom, ?_⟩
    intro front behind split frontNonempty behindNonempty
    cases front with
    | nil => exact absurd rfl frontNonempty
    | cons d front =>
        rw [List.cons_append] at split
        obtain ⟨-, listSplit⟩ := List.cons.inj split
        by_cases atFirst : front = []
        · rw [atFirst, List.nil_append] at listSplit
          rwa [← listSplit]
        · exact ends.shortest front behind listSplit atFirst behindNonempty

/-- **The select list is the shortest text with a character that blanks and `FROM`
stand behind.** -/
theorem upToFrom?_eq_some_iff {text list : List Char} :
    upToFrom? text = some list ↔ ∃ rest, text = list ++ rest ∧ EndsAtFrom list rest := by
  induction text generalizing list with
  | nil =>
      constructor
      · intro found
        cases found
      · rintro ⟨rest, split, ends⟩
        exact absurd (List.append_eq_nil_iff.1 split.symm).1 ends.nonempty
  | cons c text ih =>
      rw [upToFrom?]
      constructor
      · intro found
        split at found
        next here =>
          cases found
          exact ⟨text, rfl, endsAtFrom_singleton here⟩
        next notHere =>
          obtain ⟨restList, restFound, rfl⟩ := Option.map_eq_some_iff.1 found
          obtain ⟨rest, rfl, ends⟩ := ih.1 restFound
          exact ⟨rest, rfl, (endsAtFrom_cons_iff ends.nonempty).2 ⟨by simpa using notHere, ends⟩⟩
      · rintro ⟨rest, split, ends⟩
        cases list with
        | nil => exact absurd rfl ends.nonempty
        | cons d list =>
            rw [List.cons_append] at split
            obtain ⟨rfl, rfl⟩ := List.cons.inj split
            by_cases atFirst : list = []
            · rw [atFirst, List.nil_append, if_pos ends.startsFrom]
            · obtain ⟨notHere, restEnds⟩ := (endsAtFrom_cons_iff atFirst).1 ends
              rw [if_neg (by simp [notHere]), ih.2 ⟨rest, rfl, restEnds⟩]
              rfl

/-- Of two texts that `FROM` stands behind, the one that ends at the first `FROM` is
the shorter one. -/
theorem EndsAtFrom.exists_append {list rest text behind : List Char} (ends : EndsAtFrom list rest)
    (split : text ++ behind = list ++ rest) (nonempty : text ≠ [])
    (starts : CsvQuery.startsFrom behind = true) :
    ∃ more, text = list ++ more ∧ rest = more ++ behind := by
  rcases List.append_eq_append_iff.1 split with ⟨more, listSplit, behindSplit⟩ | longer
  · by_cases same : more = []
    · subst same
      exact ⟨[], by simpa using listSplit.symm, by simpa using behindSplit.symm⟩
    · have notHere := ends.shortest text more listSplit nonempty same
      rw [← behindSplit, starts] at notHere
      cases notHere
  · exact longer

/-- A text without `FROM` that does not end with a blank ends at a `FROM` behind
it. -/
theorem endsAtFrom_of_clear {list rest : List Char} (nonempty : list ≠ [])
    (endsClear : EndsClear list) (clear : ¬ HasWord fromKeyword list)
    (starts : startsFrom (' ' :: rest) = true) : EndsAtFrom list (' ' :: rest) := by
  refine ⟨nonempty, starts, ?_⟩
  rintro front behind rfl - behindNonempty
  rw [← Bool.not_eq_true]
  intro early
  rw [startsFrom, Bool.and_eq_true] at early
  obtain ⟨startsBlank, isFrom⟩ := early
  have behindStartsBlank : behind.head?.any isBlank = true := by
    cases behind with
    | nil => exact absurd rfl behindNonempty
    | cons c behind => exact startsBlank
  obtain ⟨gap, gapNonempty, blanks, split⟩ := exists_gap_of_startsBlank behindStartsBlank
  have behindEndsClear : EndsClear behind := by
    intro c isLast
    apply endsClear c
    rw [List.getLast?_append_of_ne_nil _ behindNonempty]
    exact isLast
  have inner : trimStart behind ≠ [] := fun empty =>
    behindEndsClear.not_blanks behindNonempty (trimStart_eq_nil_iff.1 empty)
  rw [split, List.append_assoc, trimStart_blanks_append blanks,
    trimStart_eq_self ((startsClear_trimStart behind).append inner _),
    wordAt?_append_separator isKeyword_from (by decide), Option.isSome_map] at isFrom
  obtain ⟨after, here⟩ := Option.isSome_iff_exists.1 isFrom
  refine clear ?_
  rw [split, ← List.append_assoc]
  refine hasWord_append_of_wordAt? ?_ here
  intro c isLast
  rw [List.getLast?_append_of_ne_nil front gapNonempty] at isLast
  exact isWordChar_eq_false_of_isBlank (blanks c (List.mem_of_mem_getLast? isLast))

/-! ## Dividing a statement -/

/-- **A statement divides behind a head without `WHERE`.** -/
theorem Clauses.ofStatement_where {head behind : List Char} (trimmed : trim head = head)
    (clear : ¬ HasWord whereKeyword head) (endsWord : NoWordChar behind.head?) :
    Clauses.ofStatement (head ++ ' ' :: (whereKeyword ++ behind)) =
      { head, filter := some (trim behind) } := by
  rw [Clauses.ofStatement, splitAtWord?_first isKeyword_where (by decide) clear
    ((spells_self whereKeyword).wordAt? endsWord)]
  simp only [trim_append_blanks blanks_space, trimmed]

theorem Clauses.ofStatement_of_noWhere {statement : List Char}
    (clear : ¬ HasWord whereKeyword statement) :
    Clauses.ofStatement statement = { head := statement, filter := none } := by
  rw [Clauses.ofStatement, (splitAtWord?_eq_none_iff isKeyword_where _).2 clear]

/-! ## Reading the clauses -/

/-- **What is read of clauses that are a query.** -/
theorem Clauses.parse_eq_ok_iff {clauses : Clauses} {query : Query} :
    clauses.parse = .ok query ↔
      sourceName? none clauses.head = some query.source.toList ∧
        (∃ list, selectText? clauses.head = some list ∧
          Selection.parse (trim list) = .ok query.selection) ∧
        parseFilter clauses.filter = .ok query.condition := by
  obtain ⟨selection, source, condition⟩ := query
  rw [Clauses.parse]
  cases sourceName? none clauses.head with
  | none => simp
  | some name =>
      cases selectText? clauses.head with
      | none => simp
      | some list =>
          cases parsed : Selection.parse (trim list) with
          | error => simp [parsed, bind, Except.bind]
          | ok asked =>
              cases parseFilter clauses.filter with
              | error => simp [parsed, bind, Except.bind]
              | ok filtered =>
                  have sameName : String.ofList name = source ↔ name = source.toList :=
                    ⟨fun same => by rw [← same, String.toList_ofList],
                      fun same => by rw [same, String.ofList_toList]⟩
                  simp [parsed, bind, Except.bind, pure, Except.pure, sameName, and_left_comm]

/-- The text of a statement in front of its filter. -/
def headText (sql : String) : List Char := (Clauses.ofStatement (withoutTerminator sql.toList)).head

theorem Query.clauses_of_parse {sql : String} {query : Query}
    (isRead : Query.parse sql = .ok query) :
    (Clauses.ofStatement (withoutTerminator sql.toList)).parse = .ok query := by
  rw [Query.parse] at isRead
  split at isRead
  · cases isRead
  · exact isRead

/-- The condition of a query is read from a text of its own. -/
theorem Query.exists_parse_condition {sql : String} {query : Query}
    (isRead : Query.parse sql = .ok query) :
    ∀ condition ∈ query.condition, ∃ text, Condition.parse text = .ok condition := by
  intro condition isCondition
  obtain ⟨-, -, filterRead⟩ := Clauses.parse_eq_ok_iff.1 (Query.clauses_of_parse isRead)
  rw [Option.mem_def.1 isCondition] at filterRead
  cases filter : (Clauses.ofStatement (withoutTerminator sql.toList)).filter with
  | none =>
      rw [filter] at filterRead
      cases filterRead
  | some text =>
      rw [filter, parseFilter] at filterRead
      split at filterRead
      · cases filterRead
      · cases parsed : Condition.parse text with
        | error error =>
            rw [parsed] at filterRead
            cases filterRead
        | ok read =>
            rw [parsed] at filterRead
            cases filterRead
            exact ⟨text, parsed⟩

end CsvQuery
