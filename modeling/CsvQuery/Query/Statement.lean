import CsvQuery.Query.Condition
import CsvQuery.Query.SelectList

/-!
# Statements

A statement is read in three steps.  The first whole word `WHERE` divides it into
a head and a filter.  In the head, the table is the name after the first `FROM`
that is followed by one, and the select list is the shortest text between `SELECT`
and a `FROM` after it.  The filter is a condition, unless nothing is written in
it.  An error of an earlier step hides the errors of the later ones.
-/

namespace CsvQuery

open CsvQuery.Text

set_option autoImplicit false

/-- The keyword in front of the select list. -/
def selectKeyword : List Char := ['S', 'E', 'L', 'E', 'C', 'T']

/-- The keyword in front of the table name. -/
def fromKeyword : List Char := ['F', 'R', 'O', 'M']

/-- The keyword in front of the filter. -/
def whereKeyword : List Char := ['W', 'H', 'E', 'R', 'E']

/-- A statement divided at its filter. -/
structure Clauses where
  /-- The text in front of the filter. -/
  head : List Char
  /-- The filter, if there is one; it may be empty. -/
  filter : Option (List Char)
  deriving DecidableEq

/-- The clauses of a statement. -/
def Clauses.ofStatement (statement : List Char) : Clauses :=
  match splitAtWord? whereKeyword none statement with
  | some (front, after) => { head := trim front, filter := some (trim after) }
  | none => { head := statement, filter := none }

/-- Whether a character can stand in a table name. -/
def isNameChar (c : Char) : Bool := !isBlank c && c != ';'

/-- The table name at the front of a text, after at least one blank. -/
def nameAfterBlanks? (text : List Char) : Option (List Char) :=
  if text.head?.any isBlank then
    let name := (trimStart text).takeWhile isNameChar
    if name.isEmpty then none else some name
  else none

/-- The table name after the first `FROM` of a head that is followed by one.
`before` is the character in front of the text, if there is one. -/
def sourceName? : (before : Option Char) → List Char → Option (List Char)
  | _, [] => none
  | before, c :: rest =>
      match (wordAt? fromKeyword before (c :: rest)).bind nameAfterBlanks? with
      | some name => some name
      | none => sourceName? (some c) rest

/-- Whether a text starts with blanks and, after them, the word `FROM`. -/
def startsFrom (text : List Char) : Bool :=
  text.head?.any isBlank && (wordAt? fromKeyword none (trimStart text)).isSome

/-- The shortest text that is not empty and is followed by blanks and `FROM`. -/
def upToFrom? : List Char → Option (List Char)
  | [] => none
  | c :: rest => if startsFrom rest then some [c] else (upToFrom? rest).map (c :: ·)

/-- The text of the select list of a head. -/
def selectText? (head : List Char) : Option (List Char) :=
  match wordAt? selectKeyword none (trimStart head) with
  | some rest => if rest.head?.any isBlank then upToFrom? (trimStart rest) else none
  | none => none

/-- The condition a filter denotes, if something is written in it. -/
def parseFilter : Option (List Char) → Except ParseError (Option Condition)
  | none => .ok none
  | some filter =>
    if (withoutTerminator filter).isEmpty then .ok none
    else (Condition.parse filter).map some

/-- The query the clauses of a statement denote. -/
def Clauses.parse (clauses : Clauses) : Except ParseError Query :=
  match sourceName? none clauses.head with
  | none => .error .missingFrom
  | some source =>
    match selectText? clauses.head with
    | none => .error .malformedSelect
    | some list => do
      let selection ← Selection.parse (trim list)
      let condition ← parseFilter clauses.filter
      return { selection, source := String.ofList source, condition }

/-- The query a text denotes. -/
def Query.parse (sql : String) : Except ParseError Query :=
  if (trim sql.toList).isEmpty then .error .empty
  else (Clauses.ofStatement (withoutTerminator sql.toList)).parse

end CsvQuery
