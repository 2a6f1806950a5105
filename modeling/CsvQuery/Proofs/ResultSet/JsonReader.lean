import CsvQuery.Pattern.Escape
import CsvQuery.Proofs.Scalar.WholeNumber
import CsvQuery.ResultSet.Basic

/-!
# A reader of JSON results

A reader takes a value off the front of a text and leaves what stands behind it.  The
readers here know nothing of the way a result set is indented: between two tokens there
may be any gap, and a string may escape what it need not escape.  An array is read
with a reader of its elements, so the reader of a result set is put together from the
readers of a string and of a scalar.

A numeral with a fraction or an exponent is a binary64 number and any other one a whole
number.  Numerals are understood a little more widely than JSON allows them, with a
plus sign or with leading zeros, and an escaped code must be that of a character.
-/

set_option autoImplicit false

namespace CsvQuery.Json

open CsvQuery.Text
open CsvQuery.Pattern (isHexDigit hexDigitValue)

/-- What a reader finds at the front of a text, and the text behind it. -/
abbrev Reader (α : Type) := List Char → Option (α × List Char)

/-! ## Gaps and marks -/

/-- Whether a character may stand between tokens. -/
def isGap (c : Char) : Bool := c == ' ' || c == '\t' || c == '\n' || c == '\r'

/-- A text without the gap in front of it. -/
def skipGap (text : List Char) : List Char := text.dropWhile isGap

/-- What stands behind a mark, perhaps with a gap in front of the mark. -/
def afterMark? (mark : Char) (text : List Char) : Option (List Char) :=
  match skipGap text with
  | c :: rest => if c = mark then some rest else none
  | [] => none

/-! ## Strings -/

/-- The character that a letter stands for behind a backslash. -/
def ofLetter? : Char → Option Char
  | '"' => some '"'
  | '\\' => some '\\'
  | '/' => some '/'
  | 'b' => some '\x08'
  | 'f' => some '\x0c'
  | 'n' => some '\n'
  | 'r' => some '\r'
  | 't' => some '\t'
  | _ => none

/-- The character with a code in hexadecimal digits. -/
def ofCode? (digits : List Char) : Option Char :=
  let code := digits.foldl (fun value digit => 16 * value + hexDigitValue digit) 0
  if digits.all isHexDigit ∧ code.isValidChar then some (Char.ofNat code) else none

/-- What a reader finds behind a character that belongs to it. -/
def consFound (c : Char) : List Char × List Char → List Char × List Char :=
  Prod.map (c :: ·) id

/-- Reads the characters of a string up to its closing quotation mark.  A control
character must be escaped. -/
def readContent : Reader (List Char)
  | [] => none
  | '"' :: rest => some ([], rest)
  | '\\' :: 'u' :: a :: b :: c :: d :: rest =>
      (ofCode? [a, b, c, d]).bind fun char => (readContent rest).map (consFound char)
  | '\\' :: letter :: rest =>
      (ofLetter? letter).bind fun char => (readContent rest).map (consFound char)
  | c :: rest =>
      if c = '\\' ∨ c.toNat < 0x20 then none else (readContent rest).map (consFound c)

/-- Reads a string. -/
def readString : Reader String
  | '"' :: text => (readContent text).map (Prod.map String.ofList id)
  | _ => none

/-! ## Scalars -/

/-- Whether a character can belong to a numeral. -/
def isNumeralChar (c : Char) : Bool := c.isDigit || c ∈ ['+', '-', '.', 'e', 'E']

/-- The number of a numeral. -/
def numberOf? (numeral : List Char) : Option Scalar :=
  if numeral.any (· ∈ ['.', 'e', 'E']) then (Binary64.read? numeral).map .float
  else (readWhole? numeral).map Scalar.ofWhole

/-- Reads a number, the longest numeral at the front of a text. -/
def readNumber : Reader Scalar := fun text =>
  (numberOf? (text.takeWhile isNumeralChar)).map fun number =>
    (number, text.dropWhile isNumeralChar)

/-- Reads a scalar; its first character shows of which kind it is. -/
def readScalar : Reader Scalar
  | '"' :: text => (readString ('"' :: text)).map (Prod.map .text id)
  | 'n' :: 'u' :: 'l' :: 'l' :: rest => some (.null, rest)
  | text => readNumber text

/-! ## Arrays and objects -/

/-- Reads the elements of an array, of which there is at least one, and its closing
bracket.  The elements behind a comma are read from a shorter text. -/
def readElements {α : Type} (read : Reader α) (text : List Char) : Option (List α × List Char) :=
  (read (skipGap text)).bind fun (first, behind) =>
    match skipGap behind with
    | ']' :: rest => some ([first], rest)
    | ',' :: rest =>
        if rest.length < text.length then
          (readElements read rest).map (Prod.map (first :: ·) id)
        else none
    | _ => none
termination_by text.length

/-- Reads an array whose elements are read by a reader. -/
def readArray {α : Type} (read : Reader α) : Reader (List α)
  | '[' :: text =>
      match skipGap text with
      | ']' :: rest => some ([], rest)
      | _ => readElements read text
  | _ => none

/-- Reads a member of an object: the given name, a colon and a value. -/
def readMember {α : Type} (name : String) (read : Reader α) : Reader α := fun text => do
  let (written, behindName) ← readString (skipGap text)
  if written = name then
    let behindColon ← afterMark? ':' behindName
    read (skipGap behindColon)
  else none

/-- The result set that a text denotes: an object with the columns and the rows, and
nothing behind it. -/
def resultSet? (text : List Char) : Option ResultSet := do
  let inside ← afterMark? '{' text
  let (columns, behindColumns) ← readMember "columns" (readArray readString) inside
  let between ← afterMark? ',' behindColumns
  let (rows, behindRows) ← readMember "rows" (readArray (readArray readScalar)) between
  let behind ← afterMark? '}' behindRows
  if skipGap behind = [] then some { columns, rows } else none

end CsvQuery.Json
