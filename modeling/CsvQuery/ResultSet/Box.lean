import CsvQuery.ResultSet.Basic

/-!
# Result sets as boxes

A result set is drawn as a box of aligned columns.  A column is as wide as the
widest text in it, its name included, and its texts start at its left edge; widths
are counted in characters.  A missing value is shown as nothing.  A row with more
values than there are columns is cut, and one with fewer ends early.

Texts are filled up with spaces to the width of their column, which can be done up to
a greatest width only.  A result set with a wider column has no box.
-/

namespace CsvQuery.Box

open CsvQuery.Text

set_option autoImplicit false

/-- The text of a value in a box. -/
def cellText : Scalar → List Char
  | .null => []
  | scalar => scalar.display.toList

/-- The widths of columns that also hold the texts of a row. -/
def widen : List Nat → List (List Char) → List Nat
  | width :: widths, text :: texts => max width text.length :: widen widths texts
  | widths, _ => widths

/-- The widths of columns with the given names and rows of texts. -/
def widths (names : List (List Char)) (rows : List (List (List Char))) : List Nat :=
  rows.foldl widen (names.map List.length)

/-- The greatest width to which a text can be filled up. -/
def greatestWidth : Nat := 65535

/-- A text, filled up with spaces to a width, unless the width is too great. -/
def padded? (width : Nat) (text : List Char) : Option (List Char) :=
  if width ≤ greatestWidth then some (text ++ List.replicate (width - text.length) ' ')
  else none

/-- The part of a line behind its first stroke: each text with the stroke on its right. -/
def cells? : List (List Char) → List Nat → Option (List Char)
  | text :: texts, width :: widths => do
      let cell ← padded? width text
      let others ← cells? texts widths
      return ' ' :: (cell ++ [' ', '│']) ++ others
  | _, _ => some []

/-- A line of texts between vertical strokes. -/
def line? (texts : List (List Char)) (widths : List Nat) : Option (List Char) := do
  let cells ← cells? texts widths
  return '│' :: cells ++ ['\n']

/-- The lines of some rows. -/
def lines? (widths : List Nat) : List (List (List Char)) → Option (List Char)
  | [] => some []
  | texts :: rest => do
      let line ← line? texts widths
      let others ← lines? widths rest
      return line ++ others

/-- A horizontal line with the given corners and crossings. -/
def border (widths : List Nat) (left crossing right : Char) : List Char :=
  left :: [crossing].intercalate (widths.map fun width => List.replicate (width + 2) '─')
    ++ [right, '\n']

/-- What stands below a box: the number of its rows. -/
def footer (rowCount : Nat) : List Char :=
  '\n' :: if rowCount = 0 then "No rows found".toList
    else Nat.toDigits 10 rowCount ++ " row(s) returned".toList

/-- A result set as a box, unless a column is too wide.  Without columns there is
nothing to draw. -/
def resultSet? (result : ResultSet) : Option (List Char) :=
  if result.columns.isEmpty then some "(no columns)".toList
  else do
    let names := result.columns.map String.toList
    let rows := result.rows.map (List.map cellText)
    let columnWidths := widths names rows
    let header ← line? names columnWidths
    let data ← lines? columnWidths rows
    return border columnWidths '┌' '┬' '┐' ++ header ++ border columnWidths '├' '┼' '┤'
      ++ data ++ border columnWidths '└' '┴' '┘' ++ footer result.rowCount

end CsvQuery.Box
