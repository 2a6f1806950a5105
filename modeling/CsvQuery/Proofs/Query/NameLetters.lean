import CsvQuery.Proofs.Query.TopLevel

/-!
# The letters of a selection

Reading a select list cuts it at commas, at parentheses and at the word `COUNT`,
and drops blanks and stars.  Characters of any other kind come from the list into
the names of the selection, each as often as it is written
(`Selection.countLetters_of_parse`).  So lists with different numbers of them are
read as different selections.
-/

set_option autoImplicit false

namespace CsvQuery

open CsvQuery.Text

/-- Characters that a select list is never cut at. -/
structure NameLetters (isLetter : Char → Bool) : Prop where
  blank : ∀ c, isBlank c = true → isLetter c = false
  mark : ∀ c ∈ ['*', ',', '(', ')'], isLetter c = false
  count : ∀ letter ∈ countKeyword, ∀ c, matchesLetter letter c = true → isLetter c = false

/-- How many characters of a kind the names of a selection have. -/
def Selection.countLetters (isLetter : Char → Bool) : Selection → Nat
  | .wildcard => 0
  | .columns items => (items.flatMap String.toList).countP isLetter
  | .count .rows => 0
  | .count (.column name) => name.toList.countP isLetter

section Letters

variable {isLetter : Char → Bool} (letters : NameLetters isLetter)
include letters

theorem countP_blanks {gap : List Char} (blanks : Blanks gap) : gap.countP isLetter = 0 := by
  refine List.countP_eq_zero.2 fun c isIn => ?_
  simp [letters.blank c (blanks c isIn)]

theorem countP_trim (text : List Char) : (trim text).countP isLetter = text.countP isLetter := by
  obtain ⟨front, back, frontBlanks, backBlanks, split⟩ := exists_blanks_trim text
  conv_rhs => rw [split]
  simp [List.countP_append, countP_blanks letters frontBlanks, countP_blanks letters backBlanks]

theorem countP_trimStart (text : List Char) :
    (trimStart text).countP isLetter = text.countP isLetter := by
  obtain ⟨gap, blanks, split⟩ := exists_blanks_trimStart text
  conv_rhs => rw [split]
  rw [List.countP_append, countP_blanks letters blanks, Nat.zero_add]

theorem countP_flatten_splitTopLevel (depth : Nat) (text : List Char) :
    (splitTopLevel depth text).flatten.countP isLetter = text.countP isLetter := by
  induction text generalizing depth with
  | nil => rfl
  | cons c rest ih =>
      rw [splitTopLevel]
      split
      next comma =>
        obtain ⟨rfl, -⟩ := comma
        rw [List.flatten_cons, List.nil_append, ih,
          List.countP_cons_of_neg (by simp [letters.mark ',' (by decide)])]
      next =>
        have restCount := ih (openAfter depth c)
        cases pieces : splitTopLevel (openAfter depth c) rest with
        | nil => exact absurd pieces (splitTopLevel_ne_nil _ rest)
        | cons first others =>
            rw [pieces, List.flatten_cons] at restCount
            rw [List.modifyHead_cons, List.flatten_cons, List.cons_append, List.countP_cons,
              List.countP_cons, restCount]

theorem countP_flatten_map_trim (items : List (List Char)) :
    (items.map trim).flatten.countP isLetter = items.flatten.countP isLetter := by
  induction items with
  | nil => rfl
  | cons item rest ih =>
      rw [List.map_cons, List.flatten_cons, List.flatten_cons, List.countP_append,
        List.countP_append, countP_trim letters, ih]

theorem countP_flatten_selectItems (text : List Char) :
    (selectItems text).flatten.countP isLetter = text.countP isLetter := by
  rw [selectItems, flatten_dropTrailingEmpty, countP_flatten_map_trim letters,
    countP_flatten_splitTopLevel letters]

theorem countP_spells_count {word : List Char} (spells : Spells countKeyword word) :
    word.countP isLetter = 0 := by
  refine List.countP_eq_zero.2 fun c isIn => ?_
  obtain ⟨letter, letterIn, isMatch⟩ := spells.exists_letter c isIn
  simp [letters.count letter letterIn c isMatch]

theorem countP_countArgument? {item inner : List Char}
    (found : countArgument? item = some inner) :
    inner.countP isLetter = item.countP isLetter := by
  obtain ⟨word, gap, spells, blanks, rfl⟩ := countArgument?_eq_some_iff.1 found
  simp [List.countP_append, countP_spells_count letters spells,
    countP_blanks letters blanks, letters.mark '(' (by decide), letters.mark ')' (by decide)]

theorem CountTarget.countLetters_ofArgument (argument : List Char) :
    (Selection.count (CountTarget.ofArgument argument)).countLetters isLetter =
      argument.countP isLetter := by
  rw [← countP_trim letters argument, CountTarget.ofArgument]
  split
  next star =>
    rw [star, List.countP_singleton, letters.mark '*' (by decide)]
    rfl
  next => simp [Selection.countLetters]

theorem Selection.countLetters_ofItems (items : List (List Char)) :
    (Selection.ofItems items).countLetters isLetter = items.flatten.countP isLetter := by
  rcases items with _ | ⟨item, _ | ⟨second, rest⟩⟩
  · rfl
  · rw [Selection.ofItems]
    split
    next argument found =>
      rw [CountTarget.countLetters_ofArgument letters, countP_countArgument? letters found]
      simp
    next => simp [Selection.countLetters]
  · simp [Selection.ofItems, Selection.countLetters, List.flatMap_map]

/-- **The names of a selection have the letters of the list it was read from.** -/
theorem Selection.countLetters_of_parse {text : List Char} {selection : Selection}
    (isRead : Selection.parse text = .ok selection) :
    selection.countLetters isLetter = text.countP isLetter := by
  rw [Selection.parse] at isRead
  split at isRead
  next star =>
    cases isRead
    rw [star, List.countP_singleton, letters.mark '*' (by decide)]
    rfl
  next =>
    split at isRead
    next => cases isRead
    next =>
      cases isRead
      rw [Selection.countLetters_ofItems letters, countP_flatten_selectItems letters]

end Letters

end CsvQuery
