import CsvQuery.Proofs.Query.Clauses
import CsvQuery.Proofs.Query.NameLetters

/-!
# One `FROM` for the list and the table

The select list ends at a `FROM` behind blanks, the table is the name behind the
first `FROM` that has one, and these need not be the same `FROM`.  A head shares
its `FROM` with a query when it can be cut at one `FROM` into a list that is read
as the selection and the name of the table.

Only one cut can be read as the selection: a list that goes on over another `FROM`
has more letters F in its names (`HeadDivision.exists_isFirst`).  So the `FROM` is
shared exactly when the first `FROM` with a name, wherever it stands, has the same
name behind it as the one that ends the list (`Query.sharedFrom_iff`).
-/

set_option autoImplicit false

namespace CsvQuery

open CsvQuery.Text

/-- A head cut into `SELECT`, a list, a `FROM` and the name behind it. -/
structure HeadDivision (head : List Char) where
  select : List Char
  beforeList : List Char
  list : List Char
  beforeFrom : List Char
  fromWord : List Char
  beforeName : List Char
  name : List Char
  rest : List Char
  split : head =
    select ++ (beforeList ++ (list ++ (beforeFrom ++ (fromWord ++ (beforeName ++ (name ++ rest))))))
  isSelect : Spells selectKeyword select
  isFrom : Spells fromKeyword fromWord
  listGap : beforeList ≠ [] ∧ Blanks beforeList
  fromGap : beforeFrom ≠ [] ∧ Blanks beforeFrom
  nameGap : beforeName ≠ [] ∧ Blanks beforeName
  isName : NameAt (name ++ rest) name rest

/-- A head that can be cut at one `FROM` into the list and the table of a query. -/
def SharedFrom (head : List Char) (query : Query) : Prop :=
  ∃ division : HeadDivision head,
    Selection.parse (trim division.list) = .ok query.selection ∧
      query.source = String.ofList division.name

/-! ## Lists that go on over a `FROM` -/

theorem nameLetters_f : NameLetters (matchesLetter 'F') where
  blank := by
    intro c blank
    rw [← Bool.not_eq_true]
    intro isF
    have isWord := isWordChar_of_matchesLetter (isKeyword_from.letters 'F' (by decide)) isF
    rw [isBlank_eq_false_of_isWordChar isWord] at blank
    cases blank
  mark := by decide
  count := by
    intro letter letterIn c isMatch
    have plain : ∀ letter ∈ countKeyword, letter ≠ 'S' ∧ letter ≠ 'K' := by decide
    have apart : ∀ letter ∈ countKeyword, ∀ c ∈ [letter, letter.toLower],
        matchesLetter 'F' c = false := by decide
    refine apart letter letterIn c ?_
    simpa [matchesLetter, plain letter letterIn] using isMatch

/-- Blanks that `FROM` stands behind, if there is no letter F in them. -/
theorem blanks_of_startsFrom {text rest : List Char} (starts : startsFrom (text ++ rest) = true)
    (noLetter : text.countP (matchesLetter 'F') = 0) : Blanks text := by
  obtain ⟨gap, word, after, -, blanks, spells, -, split⟩ := startsFrom_iff.1 starts
  rcases List.append_eq_append_iff.1 split with ⟨more, gapSplit, -⟩ | ⟨more, textSplit, moreSplit⟩
  · intro c isIn
    exact blanks c (by simp [gapSplit, isIn])
  · cases more with
    | nil => rwa [textSplit, List.append_nil]
    | cons c more =>
        obtain ⟨letterF, others, isF, -, rfl⟩ := List.forall₂_cons_left_iff.1 spells
        obtain ⟨rfl, -⟩ := List.cons.inj moreSplit
        rw [textSplit, List.countP_append, List.countP_cons_of_pos isF] at noLetter
        omega

namespace HeadDivision

variable {head : List Char} (division : HeadDivision head)

/-- The text behind the list. -/
def behindList : List Char :=
  division.beforeFrom ++ (division.fromWord ++
    (division.beforeName ++ (division.name ++ division.rest)))

/-- The `FROM` of a division is the first one behind the start of the list that can
end the list. -/
structure IsFirst : Prop where
  startsClear : StartsClear division.list
  ends : EndsAtFrom division.list division.behindList

theorem wordAt?_behindList :
    wordAt? fromKeyword none (trimStart division.behindList) =
      some (division.beforeName ++ (division.name ++ division.rest)) := by
  obtain ⟨nonempty, blanks⟩ := division.nameGap
  rw [behindList, trimStart_blanks_append division.fromGap.2,
    trimStart_eq_self (division.isFrom.startsClear isKeyword_from _)]
  exact division.isFrom.wordAt? (noWordChar_head?_append nonempty blanks _)

theorem startsFrom_behindList : startsFrom division.behindList = true := by
  obtain ⟨nonempty, blanks⟩ := division.fromGap
  have startsBlank : division.behindList.head?.any isBlank = true :=
    startsBlank_append nonempty blanks _
  rw [startsFrom, startsBlank, division.wordAt?_behindList]
  rfl

/-- The name of a division is the name behind its `FROM`. -/
theorem nameAfterBlanks?_behindList :
    (wordAt? fromKeyword none (trimStart division.behindList)).bind nameAfterBlanks? =
      some division.name := by
  obtain ⟨nonempty, blanks⟩ := division.nameGap
  rw [division.wordAt?_behindList, Option.bind_some]
  exact nameAfterBlanks?_eq_some_iff.2 ⟨_, _, _, nonempty, blanks, rfl, division.isName⟩

theorem wordAt?_select :
    wordAt? selectKeyword none (trimStart head) =
      some (division.beforeList ++ (division.list ++ division.behindList)) := by
  obtain ⟨nonempty, blanks⟩ := division.listGap
  have startsClear : StartsClear head := by
    rw [division.split]
    exact division.isSelect.startsClear isKeyword_select _
  have found := division.isSelect.wordAt?
    (noWordChar_head?_append nonempty blanks (division.list ++ division.behindList))
  rw [behindList, ← division.split, ← behindList] at found
  rw [trimStart_eq_self startsClear, found]

theorem selectText?_eq :
    selectText? head = upToFrom? (trimStart (division.list ++ division.behindList)) := by
  obtain ⟨nonempty, blanks⟩ := division.listGap
  simp only [selectText?, division.wordAt?_select, if_pos (startsBlank_append nonempty blanks _),
    trimStart_blanks_append blanks]

theorem IsFirst.selectText? {division : HeadDivision head} (isFirst : division.IsFirst) :
    CsvQuery.selectText? head = some division.list := by
  have clear := isFirst.startsClear.append isFirst.ends.nonempty division.behindList
  rw [division.selectText?_eq, trimStart_eq_self clear]
  exact upToFrom?_eq_some_iff.2 ⟨_, rfl, isFirst.ends⟩

/-- A division with fewer blanks around its list. -/
def shorten {lead list behind : List Char} (listSplit : division.list = lead ++ (list ++ behind))
    (leadBlanks : Blanks lead) (behindBlanks : Blanks behind) : HeadDivision head :=
  { division with
    beforeList := division.beforeList ++ lead
    list
    beforeFrom := behind ++ division.beforeFrom
    split := by
      refine division.split.trans ?_
      rw [listSplit]
      simp
    listGap := ⟨List.append_ne_nil_of_left_ne_nil division.listGap.1 lead,
      division.listGap.2.append leadBlanks⟩
    fromGap := ⟨List.append_ne_nil_of_right_ne_nil behind division.fromGap.1,
      behindBlanks.append division.fromGap.2⟩ }

section SameSelection

variable {list : List Char} {selection : Selection}
variable (found : CsvQuery.selectText? head = some list)
variable (sameRead : Selection.parse (trim division.list) = .ok selection)
include found sameRead

/-- The list that is read is the front of the list of every division with something
in its list. -/
theorem exists_list_append :
    ∃ behind, trimStart division.list = list ++ behind ∧
      EndsAtFrom list (behind ++ division.behindList) := by
  have nonempty : trimStart division.list ≠ [] := by
    intro empty
    rw [trim, empty] at sameRead
    cases sameRead
  rw [division.selectText?_eq, trimStart_append nonempty] at found
  obtain ⟨rest, split, ends⟩ := upToFrom?_eq_some_iff.1 found
  obtain ⟨behind, listSplit, rfl⟩ :=
    ends.exists_append split nonempty division.startsFrom_behindList
  exact ⟨behind, listSplit, ends⟩

/-- A division whose list is read as the selection is the first one, up to the
blanks around its list. -/
theorem exists_isFirst (isRead : Selection.parse (trim list) = .ok selection) :
    ∃ first : HeadDivision head, first.IsFirst ∧ first.list = list ∧
      first.name = division.name := by
  obtain ⟨behind, listSplit, ends⟩ := division.exists_list_append found sameRead
  obtain ⟨lead, leadBlanks, leadSplit⟩ := exists_blanks_trimStart division.list
  have noLetter : behind.countP (matchesLetter 'F') = 0 := by
    have letters := Selection.countLetters_of_parse nameLetters_f isRead
    rw [Selection.countLetters_of_parse nameLetters_f sameRead, countP_trim nameLetters_f,
      countP_trim nameLetters_f, ← countP_trimStart nameLetters_f division.list, listSplit,
      List.countP_append] at letters
    omega
  have behindBlanks : Blanks behind := blanks_of_startsFrom ends.startsFrom noLetter
  rw [listSplit] at leadSplit
  have startsClear : StartsClear list := by
    intro c isFirst
    refine startsClear_trimStart division.list c ?_
    rw [listSplit]
    exact List.mem_head?_append_of_mem_head? isFirst
  let first := division.shorten leadSplit leadBlanks behindBlanks
  have sameBehind : first.behindList = behind ++ division.behindList := List.append_assoc _ _ _
  exact ⟨first, ⟨startsClear, sameBehind ▸ ends⟩, rfl, rfl⟩

end SameSelection

end HeadDivision

/-- **A query shares one `FROM` with its head exactly when the first `FROM` with a
name has the name behind it that stands behind the first `FROM` that can end the
list.** -/
theorem Query.sharedFrom_iff {sql : String} {query : Query} (isRead : Query.parse sql = .ok query) :
    SharedFrom (headText sql) query ↔
      ∃ first : HeadDivision (headText sql), first.IsFirst ∧
        ∃ front, FirstNamedFrom none (headText sql) front first.name := by
  obtain ⟨source, ⟨list, found, listRead⟩, -⟩ :=
    Clauses.parse_eq_ok_iff.1 (Query.clauses_of_parse isRead)
  constructor
  · rintro ⟨division, sameRead, sameSource⟩
    obtain ⟨first, isFirst, -, sameName⟩ := division.exists_isFirst found sameRead listRead
    refine ⟨first, isFirst, sourceName?_eq_some_iff.1 ?_⟩
    rw [sameName]
    refine Eq.trans source ?_
    rw [sameSource, String.toList_ofList]
  · rintro ⟨first, isFirst, named⟩
    have sameList := isFirst.selectText?.symm.trans found
    have sameSource := (sourceName?_eq_some_iff.2 named).symm.trans source
    refine ⟨first, ?_, ?_⟩
    · rw [Option.some.inj sameList, listRead]
    · rw [Option.some.inj sameSource, String.ofList_toList]

theorem Query.sharedFrom_iff_from_in_list :
    Query.parse "SELECT a-from, b FROM t" =
        .ok { selection := .columns ["a-from", "b"], source := "t", condition := none } ∧
      SharedFrom (headText "SELECT a-from, b FROM t")
        { selection := .columns ["a-from", "b"], source := "t", condition := none } := by
  have isRead : Query.parse "SELECT a-from, b FROM t" =
      .ok { selection := .columns ["a-from", "b"], source := "t", condition := none } := by
    rw [Query.parse, if_neg (by decide), Clauses.parse_eq_ok_iff]
    exact ⟨by decide +kernel, ⟨"a-from, b".toList, by decide +kernel, rfl⟩, rfl⟩
  let first : HeadDivision (headText "SELECT a-from, b FROM t") :=
    { select := "SELECT".toList
      beforeList := [' ']
      list := "a-from, b".toList
      beforeFrom := [' ']
      fromWord := "FROM".toList
      beforeName := [' ']
      name := ['t']
      rest := []
      split := by decide +kernel
      isSelect := spells_self selectKeyword
      isFrom := spells_self fromKeyword
      listGap := ⟨by decide, blanks_space⟩
      fromGap := ⟨by decide, blanks_space⟩
      nameGap := ⟨by decide, blanks_space⟩
      isName := ⟨rfl, by decide, by decide, by simp⟩ }
  have isFirst : first.IsFirst := by
    have found : upToFrom? (first.list ++ first.behindList) = some first.list := by decide +kernel
    obtain ⟨rest, split, ends⟩ := upToFrom?_eq_some_iff.1 found
    rw [← List.append_cancel_left split] at ends
    exact ⟨fun c isIn => by cases isIn; decide, ends⟩
  have named : sourceName? none (headText "SELECT a-from, b FROM t") = some first.name := by
    decide +kernel
  exact ⟨isRead, (Query.sharedFrom_iff isRead).2
    ⟨first, isFirst, sourceName?_eq_some_iff.1 named⟩⟩

/-- A list can have a `FROM` in it that has a name behind it. -/
theorem Query.not_sharedFrom_name_in_list :
    ¬ ∀ (sql : String) (query : Query), Query.parse sql = .ok query →
      SharedFrom (headText sql) query := by
  intro shared
  have isRead : Query.parse "SELECT valid-from date FROM t" =
      .ok { selection := .columns ["valid-from date"], source := "date", condition := none } := by
    rw [Query.parse, if_neg (by decide), Clauses.parse_eq_ok_iff]
    exact ⟨by decide +kernel, ⟨"valid-from date".toList, by decide +kernel, rfl⟩, rfl⟩
  obtain ⟨division, sameRead, sameSource⟩ := shared _ _ isRead
  have found : selectText? (headText "SELECT valid-from date FROM t") =
      some "valid-from date".toList := by decide +kernel
  obtain ⟨first, isFirst, sameList, sameName⟩ := division.exists_isFirst found sameRead rfl
  have behindSelect : wordAt? selectKeyword none
      (trimStart (headText "SELECT valid-from date FROM t")) =
        some " valid-from date FROM t".toList := by decide +kernel
  rw [first.wordAt?_select, Option.some.injEq, sameList] at behindSelect
  have startsClear : StartsClear ("valid-from date".toList ++ first.behindList) := by
    intro c isIn
    cases isIn
    decide
  have behindText := congrArg trimStart behindSelect
  rw [trimStart_blanks_append first.listGap.2, trimStart_eq_self startsClear] at behindText
  have behindList : first.behindList = " FROM t".toList :=
    List.append_cancel_left (behindText.trans (by decide +kernel))
  have name := first.nameAfterBlanks?_behindList
  rw [behindList, sameName] at name
  have isT : division.name = ['t'] := Option.some.inj (name.symm.trans (by decide +kernel))
  rw [isT] at sameSource
  exact absurd sameSource (by decide)

end CsvQuery
