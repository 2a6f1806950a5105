import CsvQuery.Proofs.Query.Clauses
import CsvQuery.Proofs.Query.TopLevel

/-!
# Written select lists

A selection is written as a star, as a count with its argument between parentheses
or as its items with a comma and a space between them.  A selection that can be
written so is read back (`Selection.parse_written`), and the written list is a
trimmed text without the keywords that end it.

What an item must not do is read differently in its place: have a comma outside
parentheses or leave one open, stand alone as a star or a count, or be the empty
end of the list.
-/

set_option autoImplicit false

namespace CsvQuery

open CsvQuery.Text

/-! ## What can be written -/

/-- A selection as it is written between `SELECT` and `FROM`. -/
def Selection.written : Selection → List Char
  | .wildcard => ['*']
  | .columns items => [',', ' '].intercalate (items.map String.toList)
  | .count .rows => countKeyword ++ ['(', '*', ')']
  | .count (.column name) => countKeyword ++ '(' :: (name.toList ++ [')'])

/-- A name that is trimmed and contains neither of the keywords behind a select
list. -/
structure WritableName (name : List Char) : Prop where
  trimmed : trim name = name
  noFrom : ¬ HasWord fromKeyword name
  noWhere : ¬ HasWord whereKeyword name

/-- An item that is the word `COUNT`, blanks and a text between parentheses. -/
def IsCount (item : List Char) : Prop :=
  ∃ word gap inner, Spells countKeyword word ∧ Blanks gap ∧
    item = word ++ gap ++ '(' :: (inner ++ [')'])

/-- Items that are read back from their list. -/
structure WritableItems (items : List String) : Prop where
  names : ∀ item ∈ items, WritableName item.toList
  flat : ∀ item ∈ items, Flat 0 item.toList
  closed : ∀ item ∈ items, depthAfter 0 item.toList = 0
  lastNonempty : ∃ last, items.getLast? = some last ∧ last ≠ ""
  notStar : items ≠ ["*"]
  notCount : ∀ item, items = [item] → ¬ IsCount item.toList

/-- A selection that is read back from its list. -/
def Selection.Writable : Selection → Prop
  | .wildcard => True
  | .columns items => WritableItems items
  | .count .rows => True
  | .count (.column name) => WritableName name.toList ∧ ',' ∉ name.toList ∧ name ≠ "*"

theorem isCount_iff (item : List Char) :
    IsCount item ↔ (countArgument? item).isSome = true := by
  rw [Option.isSome_iff_exists]
  constructor
  · rintro ⟨word, gap, inner, spells, blanks, split⟩
    exact ⟨inner, countArgument?_eq_some_iff.2 ⟨word, gap, spells, blanks, split⟩⟩
  · rintro ⟨inner, found⟩
    obtain ⟨word, gap, spells, blanks, split⟩ := countArgument?_eq_some_iff.1 found
    exact ⟨word, gap, inner, spells, blanks, split⟩

/-! ## Items and their list -/

/-- A comma and a space between items are a comma between items that start with a
space. -/
theorem intercalate_comma_space (first : List Char) (rest : List (List Char)) :
    [',', ' '].intercalate (first :: rest) =
      [','].intercalate (first :: rest.map (' ' :: ·)) := by
  induction rest generalizing first with
  | nil => rfl
  | cons second rest ih =>
      rw [List.map_cons, List.intercalate_cons_cons, List.intercalate_cons_cons, ih,
        List.intercalate_cons_cons_left]
      simp

theorem flat_space_cons_iff (text : List Char) : Flat 0 (' ' :: text) ↔ Flat 0 text := by
  rw [flat_cons_iff]
  simp [openAfter]

/-- **The items of a written list are the items it was written from.** -/
theorem selectItems_intercalate {items : List (List Char)}
    (trimmed : ∀ item ∈ items, trim item = item) (flat : ∀ item ∈ items, Flat 0 item)
    (closed : ∀ item ∈ items, depthAfter 0 item = 0)
    (lastNonempty : ∀ item ∈ items.getLast?, item ≠ []) (nonempty : items ≠ []) :
    selectItems ([',', ' '].intercalate items) = items := by
  cases items with
  | nil => exact absurd rfl nonempty
  | cons first rest =>
      have pieces : splitTopLevel 0 ([','].intercalate (first :: rest.map (' ' :: ·))) =
          first :: rest.map (' ' :: ·) := by
        refine splitTopLevel_intercalate (List.cons_ne_nil _ _) ?_ fun piece isIn => ?_
        · intro piece isIn
          rcases List.mem_cons.1 isIn with rfl | inRest
          · exact flat piece (List.mem_cons_self ..)
          · obtain ⟨item, itemIn, rfl⟩ := List.mem_map.1 inRest
            exact (flat_space_cons_iff item).2 (flat item (List.mem_cons_of_mem _ itemIn))
        · rcases List.mem_cons.1 (List.dropLast_subset _ isIn) with rfl | inRest
          · exact closed piece (List.mem_cons_self ..)
          · obtain ⟨item, itemIn, rfl⟩ := List.mem_map.1 inRest
            exact closed item (List.mem_cons_of_mem _ itemIn)
      have trimmedPieces : (first :: rest.map (' ' :: ·)).map trim = first :: rest := by
        rw [List.map_cons, List.map_map, trimmed first (List.mem_cons_self ..)]
        have sameRest : rest.map (trim ∘ (' ' :: ·)) = rest.map id := by
          refine List.map_congr_left fun item isIn => ?_
          rw [Function.comp_apply, trim_space_cons, trimmed item (List.mem_cons_of_mem _ isIn), id]
        rw [sameRest, List.map_id]
      rw [selectItems, intercalate_comma_space, pieces, trimmedPieces,
        dropTrailingEmpty_eq_self lastNonempty]

/-- A keyword that no item contains is not in their list either. -/
theorem not_hasWord_intercalate {keyword : List Char} (isKeyword : IsKeyword keyword)
    {items : List (List Char)} (clear : ∀ item ∈ items, ¬ HasWord keyword item) :
    ¬ HasWord keyword ([',', ' '].intercalate items) := by
  induction items with
  | nil => exact not_hasWord_nil isKeyword
  | cons first rest ih =>
      cases rest with
      | nil =>
          rw [List.intercalate_singleton]
          exact clear first (List.mem_cons_self ..)
      | cons second rest =>
          have restClear := ih fun item isIn => clear item (List.mem_cons_of_mem _ isIn)
          rw [List.intercalate_cons_cons, List.append_assoc, List.cons_append,
            List.singleton_append, hasWord_append_cons_iff isKeyword (by decide),
            hasWord_cons_iff isKeyword (by decide)]
          exact not_or.2 ⟨clear first (List.mem_cons_self ..), restClear⟩

/-- A list of trimmed items does not start with a blank. -/
theorem startsClear_intercalate {items : List (List Char)}
    (trimmed : ∀ item ∈ items, trim item = item) :
    StartsClear ([',', ' '].intercalate items) := by
  cases items with
  | nil => intro c isFirst; cases isFirst
  | cons first rest =>
      have firstClear := ((trim_eq_self_iff first).1 (trimmed first (List.mem_cons_self ..))).1
      cases rest with
      | nil => rwa [List.intercalate_singleton]
      | cons second rest =>
          rw [List.intercalate_cons_cons, List.append_assoc]
          by_cases empty : first = []
          · rw [empty]
            intro c isFirst
            cases isFirst
            decide
          · exact firstClear.append empty _

/-- A list ends with its last item. -/
theorem exists_intercalate_eq_append {items : List (List Char)} {last : List Char}
    (isLast : items.getLast? = some last) :
    ∃ front, [',', ' '].intercalate items = front ++ last := by
  induction items with
  | nil => cases isLast
  | cons first rest ih =>
      cases rest with
      | nil =>
          cases isLast
          exact ⟨[], by simp⟩
      | cons second rest =>
          obtain ⟨front, split⟩ := ih (by rwa [List.getLast?_cons_cons] at isLast)
          exact ⟨first ++ [',', ' '] ++ front, by simp [List.intercalate_cons_cons, split]⟩

/-! ## Reading a written selection -/

theorem comma_mem_intercalate (first second : List Char) (rest : List (List Char)) :
    ',' ∈ [',', ' '].intercalate (first :: second :: rest) := by
  simp [List.intercalate_cons_cons]

theorem Selection.ofItems_eq_columns {items : List (List Char)}
    (notCount : ∀ item, items = [item] → countArgument? item = none) :
    Selection.ofItems items = .columns (items.map String.ofList) := by
  rcases items with _ | ⟨first, _ | ⟨second, rest⟩⟩
  · rfl
  · simp [Selection.ofItems, notCount first rfl]
  · rfl

namespace WritableItems

variable {items : List String} (writable : WritableItems items)
include writable

theorem ne_nil : items ≠ [] := by
  rintro rfl
  obtain ⟨last, isLast, -⟩ := writable.lastNonempty
  cases isLast

/-- A written list ends with the name of its last item. -/
theorem exists_written_eq_append :
    ∃ front last, (Selection.columns items).written = front ++ last ∧ last ≠ [] ∧
      EndsClear last := by
  obtain ⟨last, isLast, lastNonempty⟩ := writable.lastNonempty
  have lastName := writable.names last (List.mem_of_getLast? isLast)
  have lastOfList : (items.map String.toList).getLast? = some last.toList := by
    rw [List.getLast?_map, isLast]
    rfl
  obtain ⟨front, split⟩ := exists_intercalate_eq_append lastOfList
  exact ⟨front, last.toList, split, by simpa using lastNonempty,
    ((trim_eq_self_iff _).1 lastName.trimmed).2⟩

theorem selectItems_written :
    selectItems (Selection.columns items).written = items.map String.toList := by
  refine selectItems_intercalate ?_ ?_ ?_ ?_ (by simpa using writable.ne_nil)
  · exact List.forall_mem_map.2 fun item isIn => (writable.names item isIn).trimmed
  · exact List.forall_mem_map.2 writable.flat
  · exact List.forall_mem_map.2 writable.closed
  · obtain ⟨last, isLast, lastNonempty⟩ := writable.lastNonempty
    intro item itemLast
    rw [List.getLast?_map, isLast] at itemLast
    cases itemLast
    simpa using lastNonempty

theorem written_ne_star : (Selection.columns items).written ≠ ['*'] := by
  intro isStar
  rw [Selection.written] at isStar
  rcases items with _ | ⟨first, _ | ⟨second, rest⟩⟩
  · exact absurd rfl writable.ne_nil
  · refine writable.notStar ?_
    rw [List.map_singleton, List.intercalate_singleton] at isStar
    rw [← String.ofList_toList (s := first), isStar]
  · have comma := comma_mem_intercalate first.toList second.toList (rest.map String.toList)
    rw [List.map_cons, List.map_cons] at isStar
    rw [isStar] at comma
    simp at comma

theorem ofItems_toList : Selection.ofItems (items.map String.toList) = .columns items := by
  have sameItems : (items.map String.toList).map String.ofList = items := by
    rw [List.map_map]
    exact List.map_id'' (fun item => String.ofList_toList) items
  rw [Selection.ofItems_eq_columns, sameItems]
  intro item single
  obtain ⟨name, rest, split, rfl, noRest⟩ := List.map_eq_cons_iff.1 single
  rw [List.map_eq_nil_iff.1 noRest] at split
  rw [← Option.not_isSome_iff_eq_none, ← isCount_iff]
  exact writable.notCount name split

theorem parse_written :
    Selection.parse (Selection.columns items).written = .ok (.columns items) := by
  have someItem : (items.map String.toList).isEmpty = false := by simpa using writable.ne_nil
  rw [Selection.parse, if_neg writable.written_ne_star, writable.selectItems_written, someItem,
    writable.ofItems_toList]
  rfl

end WritableItems

theorem trim_count (argument : List Char) :
    trim (countKeyword ++ '(' :: (argument ++ [')'])) =
      countKeyword ++ '(' :: (argument ++ [')']) := by
  refine trim_eq_self ?_ ?_
  · intro c isFirst
    cases isFirst
    decide
  · intro c isLast
    rw [← List.cons_append, ← List.append_assoc, List.getLast?_concat] at isLast
    cases isLast
    decide

/-- A count whose argument has no comma is read as a count of its argument. -/
theorem Selection.parse_count {argument : List Char} (noComma : ',' ∉ argument) :
    Selection.parse (countKeyword ++ '(' :: (argument ++ [')'])) =
      .ok (.count (CountTarget.ofArgument argument)) := by
  have item : countArgument? (countKeyword ++ '(' :: (argument ++ [')'])) = some argument :=
    countArgument?_eq_some_iff.2
      ⟨countKeyword, [], spells_self countKeyword, by simp [Blanks], by simp⟩
  have flat : Flat 0 (countKeyword ++ '(' :: (argument ++ [')'])) := by
    refine flat_of_comma_not_mem ?_ 0
    simp [countKeyword, noComma]
  have items : selectItems (countKeyword ++ '(' :: (argument ++ [')'])) =
      [countKeyword ++ '(' :: (argument ++ [')'])] := by
    rw [selectItems, splitTopLevel_of_flat flat, List.map_singleton, trim_count]
    exact dropTrailingEmpty_eq_self (by simp [countKeyword])
  have noStar : countKeyword ++ '(' :: (argument ++ [')']) ≠ ['*'] := by simp [countKeyword]
  rw [Selection.parse, if_neg noStar, items, Selection.ofItems, item]
  rfl

/-- **A written selection is read back.** -/
theorem Selection.parse_written {selection : Selection} (writable : selection.Writable) :
    Selection.parse selection.written = .ok selection := by
  rcases selection with _ | items | (_ | name)
  · rfl
  · exact WritableItems.parse_written writable
  · exact Selection.parse_count (show ',' ∉ ['*'] by decide)
  · obtain ⟨isName, noComma, notStar⟩ := writable
    have asColumn : CountTarget.ofArgument name.toList = .column name := by
      have notStarText : name.toList ≠ ['*'] := by
        intro same
        exact notStar (by rw [← String.ofList_toList (s := name), same])
      rw [CountTarget.ofArgument, isName.trimmed, if_neg notStarText, String.ofList_toList]
    rw [Selection.written, Selection.parse_count noComma, asColumn]

/-! ## The text of a written selection -/

/-- A written selection is a trimmed text. -/
theorem Selection.trim_written {selection : Selection} (writable : selection.Writable) :
    trim selection.written = selection.written := by
  rcases selection with _ | items | target
  · rfl
  · refine trim_eq_self (startsClear_intercalate ?_) ?_
    · exact List.forall_mem_map.2 fun item isIn => (WritableItems.names writable item isIn).trimmed
    · obtain ⟨front, last, split, nonempty, endsClear⟩ :=
        WritableItems.exists_written_eq_append writable
      rw [split]
      exact endsClear.append nonempty front
  · cases target with
    | rows => exact trim_count ['*']
    | column name => exact trim_count name.toList

theorem Selection.written_ne_nil {selection : Selection} (writable : selection.Writable) :
    selection.written ≠ [] := by
  rcases selection with _ | items | target
  · exact List.cons_ne_nil _ _
  · obtain ⟨front, last, split, nonempty, -⟩ := WritableItems.exists_written_eq_append writable
    rw [split]
    exact List.append_ne_nil_of_right_ne_nil front nonempty
  · cases target <;> simp [Selection.written, countKeyword]

/-- A written selection contains no keyword that its names do not contain. -/
theorem Selection.not_hasWord_written {keyword : List Char} (isKeyword : IsKeyword keyword)
    (notCount : ¬ HasWord keyword countKeyword) {selection : Selection}
    (clearItems : ∀ items, selection = .columns items →
      ∀ item ∈ items, ¬ HasWord keyword item.toList)
    (clearTarget : ∀ name, selection = .count (.column name) → ¬ HasWord keyword name.toList) :
    ¬ HasWord keyword selection.written := by
  have clearCount : ∀ argument, ¬ HasWord keyword argument →
      ¬ HasWord keyword (countKeyword ++ '(' :: (argument ++ [')'])) := by
    intro argument clear
    rw [hasWord_append_cons_iff isKeyword (by decide),
      hasWord_append_cons_iff isKeyword (by decide)]
    simp [notCount, clear, not_hasWord_nil isKeyword]
  have clearStar : ¬ HasWord keyword ['*'] := by
    rw [hasWord_cons_iff isKeyword (by decide)]
    exact not_hasWord_nil isKeyword
  rcases selection with _ | items | (_ | name)
  · exact clearStar
  · exact not_hasWord_intercalate isKeyword (List.forall_mem_map.2 (clearItems items rfl))
  · exact clearCount ['*'] clearStar
  · exact clearCount name.toList (clearTarget name rfl)

end CsvQuery
