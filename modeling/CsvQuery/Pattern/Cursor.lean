import CsvQuery.Pattern.Fault

/-!
# Places in a pattern

A cursor is a place in a pattern that is being read, with the text that is still to
be read there.  In a loosely written part of a pattern blanks and comments mean
nothing; whether the part is one belongs to the cursor, since a reader skips them
after almost every character.
-/

namespace CsvQuery.Pattern

open CsvQuery.Text

set_option autoImplicit false

/-- A place in a pattern. -/
structure Cursor where
  /-- How many characters have been read. -/
  index : Nat
  /-- What has not been read. -/
  rest : List Char
  /-- Whether blanks and comments mean nothing. -/
  isLoose : Bool

/-- How many characters the blanks and comments at the front of a text have.  A
comment goes from a number sign to the end of the line. -/
def looseLength (inComment : Bool) : List Char → Nat
  | [] => 0
  | c :: rest =>
      if inComment then 1 + looseLength (c != '\n') rest
      else if isBlank c then 1 + looseLength false rest
      else if c == '#' then 1 + looseLength true rest
      else 0

namespace Cursor

/-- The place a number of characters later. -/
def advance (cursor : Cursor) (count : Nat) : Cursor :=
  { cursor with
    index := cursor.index + min count cursor.rest.length
    rest := cursor.rest.drop count }

/-- The place behind the blanks and comments that mean nothing. -/
def skipLoose (cursor : Cursor) : Cursor :=
  if cursor.isLoose then cursor.advance (looseLength false cursor.rest) else cursor

/-- The place behind a character and what means nothing there. -/
def next (cursor : Cursor) : Cursor := (cursor.advance 1).skipLoose

/-- The empty part of the pattern at a place. -/
def here (cursor : Cursor) : Span := ⟨cursor.index, cursor.index⟩

/-- The part of the pattern that the next character is. -/
def char (cursor : Cursor) : Span := ⟨cursor.index, cursor.index + 1⟩

/-- The part of a pattern from some place to this one. -/
def since (cursor : Cursor) (start : Nat) : Span := ⟨start, cursor.index⟩

/-- The character behind the next one, without what means nothing between them.  If
nothing else follows, what means nothing is what follows. -/
def peek? (cursor : Cursor) : Option Char :=
  let rest := cursor.rest.drop 1
  if !cursor.isLoose then rest.head?
  else
    let found := match trimStart rest with
      | '#' :: comment => (trimStart comment).head?
      | text => text.head?
    found.or rest.head?

/-- The characters of a kind from a place on, at most a given number of them, and
the place behind them. -/
def takeAtMost (accepts : Char → Bool) : Nat → Cursor → List Char × Cursor
  | 0, cursor => ([], cursor)
  | count + 1, cursor =>
      match cursor.rest with
      | [] => ([], cursor)
      | c :: _ =>
          if accepts c then
            let (taken, last) := takeAtMost accepts count cursor.next
            (c :: taken, last)
          else ([], cursor)

/-- The characters of a kind from a place on, and the place behind them. -/
def takeWhile (cursor : Cursor) (accepts : Char → Bool) : List Char × Cursor :=
  takeAtMost accepts cursor.rest.length cursor

end Cursor

end CsvQuery.Pattern
