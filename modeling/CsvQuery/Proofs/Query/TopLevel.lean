import CsvQuery.Query.SelectList
import CsvQuery.Proofs.Lists.Trailing
import CsvQuery.Proofs.Text.Trimming
import CsvQuery.Proofs.Text.WholeWord

/-!
# The items of a select list

A piece of a select list is flat when no comma in it stands outside parentheses,
and closed when no parenthesis is open behind it.  Flat pieces that are closed,
the last one perhaps excepted, are what splitting the list joined by commas gives
back (`splitTopLevel_intercalate`).  Every text is joined of one list of such pieces, and
splitting finds it (`outerPieces_iff`), whatever parentheses the text has.

An item is a count exactly when it is the word `COUNT`, blanks and a text between
parentheses (`countArgument?_eq_some_iff`).
-/

set_option autoImplicit false

namespace CsvQuery

open CsvQuery.Text

/-! ## Open parentheses -/

/-- How many parentheses are open behind a text. -/
def depthAfter (depth : Nat) (text : List Char) : Nat := text.foldl openAfter depth

/-- No comma of a text stands outside parentheses, when `depth` parentheses are
open in front of the text. -/
def Flat (depth : Nat) (text : List Char) : Prop :=
  ∀ front after, text = front ++ ',' :: after → depthAfter depth front ≠ 0

theorem flat_nil (depth : Nat) : Flat depth [] := by
  intro front after split
  simp at split

theorem flat_cons_iff {depth : Nat} {c : Char} {rest : List Char} :
    Flat depth (c :: rest) ↔ ¬ (c = ',' ∧ depth = 0) ∧ Flat (openAfter depth c) rest := by
  constructor
  · intro flat
    refine ⟨?_, fun front after split => flat (c :: front) after (by rw [split]; rfl)⟩
    rintro ⟨rfl, closed⟩
    exact flat [] rest rfl closed
  · rintro ⟨notComma, flat⟩ front after split
    cases front with
    | nil =>
        obtain ⟨rfl, -⟩ := List.cons.inj split
        exact fun closed => notComma ⟨rfl, closed⟩
    | cons d front =>
        obtain ⟨rfl, restSplit⟩ := List.cons.inj split
        exact flat front after restSplit

theorem flat_of_comma_not_mem {text : List Char} (noComma : ',' ∉ text) (depth : Nat) :
    Flat depth text := by
  rintro front after rfl
  simp at noComma

/-- A blank opens and closes nothing. -/
theorem openAfter_of_isBlank {c : Char} (blank : isBlank c = true) (depth : Nat) :
    openAfter depth c = depth := by
  have notOpening : c ≠ '(' := by
    rintro rfl
    exact absurd blank (by decide)
  have notClosing : c ≠ ')' := by
    rintro rfl
    exact absurd blank (by decide)
  rw [openAfter, if_neg notOpening, if_neg notClosing]

theorem depthAfter_blanks {gap : List Char} (blanks : Blanks gap) (depth : Nat) :
    depthAfter depth gap = depth := by
  induction gap with
  | nil => rfl
  | cons c gap ih =>
      obtain ⟨blank, restBlanks⟩ := List.forall_mem_cons.1 blanks
      rw [depthAfter, List.foldl_cons, openAfter_of_isBlank blank]
      exact ih restBlanks

/-- A text without the blanks around it is as flat as it was. -/
theorem Flat.trim {depth : Nat} {text : List Char} (flat : Flat depth text) :
    Flat depth (trim text) := by
  obtain ⟨gap, behind, blanks, -, split⟩ := exists_blanks_trim text
  intro front after trimmed
  have inText : text = (gap ++ front) ++ ',' :: (after ++ behind) := by
    rw [split, trimmed]
    simp
  have outside := flat _ _ inText
  rwa [depthAfter, List.foldl_append, ← depthAfter, ← depthAfter,
    depthAfter_blanks blanks] at outside

/-- A text that is not flat has a first outer comma: what stands in front of the comma is
flat and leaves no parenthesis open. -/
theorem exists_outer_comma_of_not_flat {depth : Nat} {text : List Char}
    (notFlat : ¬ Flat depth text) :
    ∃ piece rest, text = piece ++ ',' :: rest ∧ Flat depth piece ∧ depthAfter depth piece = 0 := by
  induction text generalizing depth with
  | nil => exact absurd (flat_nil depth) notFlat
  | cons c rest ih =>
      by_cases comma : c = ',' ∧ depth = 0
      · obtain ⟨rfl, rfl⟩ := comma
        exact ⟨[], rest, rfl, flat_nil 0, rfl⟩
      · have restNotFlat : ¬ Flat (openAfter depth c) rest :=
          fun flat => notFlat (flat_cons_iff.2 ⟨comma, flat⟩)
        obtain ⟨piece, behind, rfl, flat, closed⟩ := ih restNotFlat
        exact ⟨c :: piece, behind, rfl, flat_cons_iff.2 ⟨comma, flat⟩, closed⟩

/-! ## Splitting at the outer commas -/

theorem splitTopLevel_of_flat {depth : Nat} {text : List Char} (flat : Flat depth text) :
    splitTopLevel depth text = [text] := by
  induction text generalizing depth with
  | nil => rfl
  | cons c rest ih =>
      obtain ⟨notComma, restFlat⟩ := flat_cons_iff.1 flat
      rw [splitTopLevel, if_neg notComma, ih restFlat]
      rfl

theorem splitTopLevel_append_comma {depth : Nat} {piece : List Char} (flat : Flat depth piece)
    (closed : depthAfter depth piece = 0) (rest : List Char) :
    splitTopLevel depth (piece ++ ',' :: rest) = piece :: splitTopLevel 0 rest := by
  induction piece generalizing depth with
  | nil =>
      have outside : depth = 0 := closed
      rw [List.nil_append, splitTopLevel, if_pos ⟨rfl, outside⟩]
  | cons c piece ih =>
      obtain ⟨notComma, pieceFlat⟩ := flat_cons_iff.1 flat
      rw [List.cons_append, splitTopLevel, if_neg notComma, ih pieceFlat closed]
      rfl

theorem splitTopLevel_ne_nil (depth : Nat) (text : List Char) : splitTopLevel depth text ≠ [] := by
  by_cases flat : Flat depth text
  · rw [splitTopLevel_of_flat flat]
    exact List.cons_ne_nil _ _
  · obtain ⟨piece, rest, rfl, pieceFlat, closed⟩ := exists_outer_comma_of_not_flat flat
    rw [splitTopLevel_append_comma pieceFlat closed]
    exact List.cons_ne_nil _ _

/-- **Splitting gives back the flat pieces that were joined by commas.** -/
theorem splitTopLevel_intercalate {pieces : List (List Char)} (nonempty : pieces ≠ [])
    (flat : ∀ piece ∈ pieces, Flat 0 piece)
    (closed : ∀ piece ∈ pieces.dropLast, depthAfter 0 piece = 0) :
    splitTopLevel 0 ([','].intercalate pieces) = pieces := by
  induction pieces with
  | nil => exact absurd rfl nonempty
  | cons first rest ih =>
      cases rest with
      | nil =>
          rw [List.intercalate_singleton]
          exact splitTopLevel_of_flat (flat first (List.mem_cons_self ..))
      | cons second rest =>
          rw [List.intercalate_cons_cons, List.append_assoc, List.singleton_append,
            splitTopLevel_append_comma (flat first (List.mem_cons_self ..))
              (closed first (by simp))]
          refine congrArg _ (ih (by simp) (fun piece isIn => ?_) fun piece isIn => ?_)
          · exact flat piece (List.mem_cons_of_mem _ isIn)
          · refine closed piece ?_
            rw [List.dropLast_cons_of_ne_nil (by simp)]
            exact List.mem_cons_of_mem _ isIn

/-! ## The pieces of a text -/

/-- The pieces of a text between its outer commas: joined by commas they are the text,
each of them is flat, and all but the last leave no parenthesis open. -/
structure OuterPieces (text : List Char) (pieces : List (List Char)) : Prop where
  nonempty : pieces ≠ []
  joined : [','].intercalate pieces = text
  flat : ∀ piece ∈ pieces, Flat 0 piece
  closed : ∀ piece ∈ pieces.dropLast, depthAfter 0 piece = 0

theorem OuterPieces.singleton {text : List Char} (flat : Flat 0 text) :
    OuterPieces text [text] where
  nonempty := List.cons_ne_nil _ _
  joined := List.intercalate_singleton
  flat := List.forall_mem_singleton.2 flat
  closed := by simp

theorem OuterPieces.cons {piece rest : List Char} {pieces : List (List Char)}
    (flat : Flat 0 piece) (closed : depthAfter 0 piece = 0) (others : OuterPieces rest pieces) :
    OuterPieces (piece ++ ',' :: rest) (piece :: pieces) where
  nonempty := List.cons_ne_nil _ _
  joined := by
    obtain ⟨second, behind, split⟩ := List.exists_cons_of_ne_nil others.nonempty
    rw [split, List.intercalate_cons_cons, ← split, others.joined, List.append_assoc,
      List.singleton_append]
  flat := List.forall_mem_cons.2 ⟨flat, others.flat⟩
  closed := by
    rw [List.dropLast_cons_of_ne_nil others.nonempty]
    exact List.forall_mem_cons.2 ⟨closed, others.closed⟩

/-- Splitting finds the pieces of a text.  The induction is on the length, because a step
goes from a text to what stands behind its first outer comma. -/
theorem outerPieces_splitTopLevel (text : List Char) : OuterPieces text (splitTopLevel 0 text) := by
  induction length : text.length using Nat.strong_induction_on generalizing text with
  | _ n ih =>
      by_cases flat : Flat 0 text
      · rw [splitTopLevel_of_flat flat]
        exact .singleton flat
      · obtain ⟨piece, rest, rfl, pieceFlat, closed⟩ := exists_outer_comma_of_not_flat flat
        have shorter : rest.length < n := by
          rw [← length]
          simp
          omega
        rw [splitTopLevel_append_comma pieceFlat closed]
        exact .cons pieceFlat closed (ih _ shorter rest rfl)

theorem flat_of_mem_splitTopLevel {text piece : List Char}
    (isPiece : piece ∈ splitTopLevel 0 text) : Flat 0 piece :=
  (outerPieces_splitTopLevel text).flat piece isPiece

/-- **A text has one list of pieces, and splitting finds it.** -/
theorem outerPieces_iff {text : List Char} {pieces : List (List Char)} :
    OuterPieces text pieces ↔ pieces = splitTopLevel 0 text := by
  constructor
  · rintro ⟨nonempty, rfl, flat, closed⟩
    exact (splitTopLevel_intercalate nonempty flat closed).symm
  · rintro rfl
    exact outerPieces_splitTopLevel text

/-! ## Items at the end -/

theorem isPrefix_dropTrailingEmpty (items : List (List Char)) :
    dropTrailingEmpty items <+: items := by
  rw [dropTrailingEmpty, ← List.reverse_suffix, List.reverse_reverse]
  exact List.dropWhile_suffix List.isEmpty

theorem getLast?_dropTrailingEmpty_ne_nil {items : List (List Char)} :
    ∀ item ∈ (dropTrailingEmpty items).getLast?, item ≠ [] := by
  intro item isLast
  exact List.isEmpty_eq_false_iff.1 (getLast?_dropped item isLast)

/-- What is dropped is empty. -/
theorem exists_eq_dropTrailingEmpty_append (items : List (List Char)) :
    ∃ count, items = dropTrailingEmpty items ++ List.replicate count [] :=
  exists_eq_dropped_append (fun _ => List.isEmpty_iff.1) items

theorem flatten_dropTrailingEmpty (items : List (List Char)) :
    (dropTrailingEmpty items).flatten = items.flatten := by
  obtain ⟨count, split⟩ := exists_eq_dropTrailingEmpty_append items
  conv_rhs => rw [split, List.flatten_append, List.flatten_replicate_nil, List.append_nil]

theorem dropTrailingEmpty_eq_self {items : List (List Char)}
    (lastNonempty : ∀ item ∈ items.getLast?, item ≠ []) : dropTrailingEmpty items = items := by
  rw [dropTrailingEmpty]
  cases reversed : items.reverse with
  | nil => rw [List.reverse_eq_nil_iff.1 reversed]; rfl
  | cons last front =>
      have isLast : last ∈ items.getLast? := by
        rw [← List.head?_reverse, reversed]
        rfl
      rw [List.dropWhile_cons_of_neg (by simpa using lastNonempty last isLast), ← reversed,
        List.reverse_reverse]

/-- **A text is joined of one list of pieces, and its items are these pieces without the
blanks around them, up to the last one that is not blank.** -/
theorem existsUnique_pieces_and_selectItems (text : List Char) :
    (∃! pieces, OuterPieces text pieces) ∧
      ∀ pieces, OuterPieces text pieces →
        (∃ count, pieces.map trim = selectItems text ++ List.replicate count []) ∧
          ∀ item ∈ (selectItems text).getLast?, item ≠ [] := by
  have isUnique : ∃! pieces, OuterPieces text pieces :=
    ⟨splitTopLevel 0 text, outerPieces_splitTopLevel text, fun _ => outerPieces_iff.1⟩
  refine ⟨isUnique, fun pieces arePieces => ?_⟩
  obtain rfl := outerPieces_iff.1 arePieces
  exact ⟨exists_eq_dropTrailingEmpty_append _, getLast?_dropTrailingEmpty_ne_nil⟩

/-! ## Counts -/

/-- **An item is a count exactly when it is the word `COUNT`, blanks and a text
between parentheses.** -/
theorem countArgument?_eq_some_iff {item inner : List Char} :
    countArgument? item = some inner ↔
      ∃ word gap, Spells countKeyword word ∧ Blanks gap ∧
        item = word ++ gap ++ '(' :: (inner ++ [')']) := by
  constructor
  · intro found
    cases stripped : strip? matchesLetter countKeyword item with
    | none => simp [countArgument?, stripped] at found
    | some behind =>
        obtain ⟨word, spells, rfl⟩ := strip?_eq_some_iff.1 stripped
        obtain ⟨gap, blanks, behindSplit⟩ := exists_blanks_trimStart behind
        simp only [countArgument?, stripped, Option.map_some] at found
        split at found
        next rest opened =>
          split at found
          next closes =>
            cases found
            obtain ⟨before, rfl⟩ := List.getLast?_eq_some_iff.1 closes
            injection opened with opened
            refine ⟨word, gap, spells, blanks, ?_⟩
            rw [List.append_assoc, behindSplit, opened, List.dropLast_concat]
          next => cases found
        next => cases found
  · rintro ⟨word, gap, spells, blanks, rfl⟩
    have stripped : strip? matchesLetter countKeyword (word ++ gap ++ '(' :: (inner ++ [')'])) =
        some (gap ++ '(' :: (inner ++ [')'])) :=
      strip?_eq_some_iff.2 ⟨word, spells, by rw [List.append_assoc]⟩
    have opened : trimStart ('(' :: (inner ++ [')'])) = '(' :: (inner ++ [')']) :=
      trimStart_eq_self (by intro c isFirst; cases isFirst; decide)
    rw [countArgument?, stripped, Option.map_some, trimStart_blanks_append blanks, opened]
    simp

end CsvQuery
