import CsvQuery.Query.Basic
import CsvQuery.Text.Keyword

/-!
# Select lists

The text between `SELECT` and `FROM` is a star, a count or a list of items.  A
comma separates items only where no parenthesis is open; a closing parenthesis
without an opening one changes nothing.  Empty items at the end of a list are
dropped, empty items inside it are kept.  A count is recognised only as the sole
item.
-/

namespace CsvQuery

open CsvQuery.Text

set_option autoImplicit false

/-- How many parentheses are open after a character. -/
def openAfter (depth : Nat) (c : Char) : Nat :=
  if c = '(' then depth + 1 else if c = ')' then depth - 1 else depth

/-- The parts of a text between the commas that stand outside parentheses, when
`depth` parentheses are open in front of it. -/
def splitTopLevel (depth : Nat) : List Char → List (List Char)
  | [] => [[]]
  | c :: rest =>
      if c = ',' ∧ depth = 0 then [] :: splitTopLevel 0 rest
      else (splitTopLevel (openAfter depth c) rest).modifyHead (c :: ·)

/-- A list without the empty texts at its end. -/
def dropTrailingEmpty (items : List (List Char)) : List (List Char) :=
  (items.reverse.dropWhile List.isEmpty).reverse

/-- The items of a select list. -/
def selectItems (text : List Char) : List (List Char) :=
  dropTrailingEmpty ((splitTopLevel 0 text).map trim)

/-- The keyword that introduces a count. -/
def countKeyword : List Char := ['C', 'O', 'U', 'N', 'T']

/-- What stands between the parentheses of a count, if an item is one. -/
def countArgument? (item : List Char) : Option (List Char) :=
  match (strip? matchesLetter countKeyword item).map trimStart with
  | some ('(' :: rest) => if rest.getLast? = some ')' then some rest.dropLast else none
  | _ => none

/-- The target of a count with the given argument. -/
def CountTarget.ofArgument (argument : List Char) : CountTarget :=
  if trim argument = ['*'] then .rows else .column (String.ofList (trim argument))

/-- The selection of a list of items that is not empty. -/
def Selection.ofItems (items : List (List Char)) : Selection :=
  match items with
  | [item] =>
    match countArgument? item with
    | some argument => .count (CountTarget.ofArgument argument)
    | none => .columns [String.ofList item]
  | _ => .columns (items.map String.ofList)

/-- The selection a select list denotes. -/
def Selection.parse (text : List Char) : Except ParseError Selection :=
  if text = ['*'] then .ok .wildcard
  else if (selectItems text).isEmpty then .error .malformedSelect
  else .ok (Selection.ofItems (selectItems text))

end CsvQuery
