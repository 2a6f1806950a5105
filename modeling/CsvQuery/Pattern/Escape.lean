import CsvQuery.Pattern.Basic
import CsvQuery.Pattern.Cursor

/-!
# Escapes

A backslash and what follows it stand for a character, for several characters or
for a place in the text.  A pattern comes from a log filter, whose own marks it
cannot hold: no closing brace ever ends what an opening brace begins in an escape.
-/

namespace CsvQuery.Pattern

open CsvQuery.Text

set_option autoImplicit false

/-- Whether a character is a hexadecimal digit. -/
def isHexDigit (c : Char) : Bool :=
  c.isDigit || ('a' ≤ c && c ≤ 'f') || ('A' ≤ c && c ≤ 'F')

/-- The value of a hexadecimal digit. -/
def hexDigitValue (c : Char) : Nat :=
  if c.isDigit then c.toNat - 48 else c.toLower.toNat - 87

/-- The value of a number of hexadecimal digits behind those of a given value, and
the place behind them. -/
def readHexDigits (value : Nat) : Nat → Cursor → Except Fault (Nat × Cursor)
  | 0, cursor => .ok (value, cursor)
  | count + 1, cursor =>
      match cursor.rest with
      | [] => .error ⟨.escapeUnfinished, cursor.here, none⟩
      | c :: _ =>
          if isHexDigit c then readHexDigits (16 * value + hexDigitValue c) count cursor.next
          else .error ⟨.hexDigit, cursor.char, none⟩

/-- The character of an escape that starts at a place and gives a number of
hexadecimal digits from another place on. -/
def readHexEscape (start count : Nat) (cursor : Cursor) : Except Fault (Atom × Cursor) := do
  let (value, last) ← readHexDigits 0 count cursor
  if value.isValidChar then
    return (⟨last.since start, .literal (Char.ofNat value) (count == 2)⟩, last)
  else throw ⟨.hexValue, last.since cursor.index, none⟩

/-- The fault of hexadecimal digits behind an opening brace, which stands at the
given place. -/
def hexBraceFault (cursor : Cursor) : Fault :=
  let last := (cursor.next.takeWhile isHexDigit).2
  if last.rest.isEmpty then ⟨.escapeUnfinished, last.since cursor.index, none⟩
  else ⟨.hexDigit, last.char, none⟩

/-- The hexadecimal escape that starts at a place; its letter, which asks for a
number of digits, stands at another. -/
def readHex (start count : Nat) (letter : Cursor) : Except Fault (Atom × Cursor) :=
  let cursor := letter.next
  match cursor.rest with
  | [] => .error ⟨.escapeUnfinished, cursor.here, none⟩
  | '{' :: _ => .error (hexBraceFault cursor)
  | _ => readHexEscape start count cursor

/-- The property escape that starts at a place; its letter stands at another. -/
def readProperty (start : Nat) (letter : Cursor) : Except Fault (Atom × Cursor) :=
  let cursor := letter.next
  match cursor.rest with
  | [] => .error ⟨.escapeUnfinished, cursor.here, none⟩
  | '{' :: rest => .error ⟨.escapeUnfinished, (cursor.advance (rest.length + 1)).here, none⟩
  | '\\' :: _ => .error ⟨.propertyInvalid, cursor.char, none⟩
  | name :: _ => .ok (⟨cursor.next.since start, .property name⟩, cursor.next)

/-- Whether a character can be part of the name of a word boundary. -/
def isBoundaryChar (c : Char) : Bool := c.isAlpha || c == '-'

/-- The fault of a word boundary that starts at a place, if a name in braces seems
to follow it at another.  A brace with something else behind it belongs to a counted
repetition. -/
def boundaryFault? (start : Nat) (cursor : Cursor) : Option Fault :=
  match cursor.rest with
  | '{' :: _ =>
      let name := cursor.next
      match name.rest with
      | [] => some ⟨.boundaryUnfinished, name.since start, none⟩
      | c :: _ =>
          if isBoundaryChar c then
            some ⟨.boundaryUnclosed, (name.takeWhile isBoundaryChar).2.since cursor.index, none⟩
          else none
  | _ => none

/-- Whether an escaped character stands for itself: it is in ASCII and neither a
letter nor a digit nor an angle bracket. -/
def isPlainEscape (c : Char) : Bool :=
  c.toNat < 128 && !c.isAlphanum && c != '<' && c != '>'

/-- The control character that a letter stands for in an escape. -/
def controlEscape? : Char → Option Char
  | 'a' => some '\x07'
  | 'f' => some '\x0c'
  | 't' => some '\t'
  | 'n' => some '\n'
  | 'r' => some '\r'
  | 'v' => some '\x0b'
  | _ => none

/-- What a single character stands for in an escape. -/
def simpleEscape? (c : Char) : Option AtomKind :=
  if isPlainEscape c then some (.literal c false)
  else if c == 'A' || c == 'z' then some .anchor
  else if c == 'b' || c == 'B' || c == '<' || c == '>' then some .wordBoundary
  else (controlEscape? c).map (.literal · false)

/-- The escape of a single character, which starts at a place; the character stands
at another. -/
def readSimple (start : Nat) (c : Char) (cursor : Cursor) : Except Fault (Atom × Cursor) :=
  let last := cursor.advance 1
  match simpleEscape? c with
  | none => .error ⟨.escapeUnknown, last.since start, none⟩
  | some kind =>
      match if c == 'b' then boundaryFault? start last else none with
      | some fault => .error fault
      | none => .ok (⟨last.since start, kind⟩, last)

/-- The escape whose backslash stands at a place, and the place behind it. -/
def readEscape (cursor : Cursor) : Except Fault (Atom × Cursor) :=
  let start := cursor.index
  let letter := cursor.advance 1
  match letter.rest with
  | [] => .error ⟨.escapeUnfinished, letter.since start, none⟩
  | c :: _ =>
      if c.isDigit then .error ⟨.backreference, (letter.advance 1).since start, none⟩
      else if c == 'x' then readHex start 2 letter
      else if c == 'u' then readHex start 4 letter
      else if c == 'U' then readHex start 8 letter
      else if c == 'p' || c == 'P' then readProperty start letter
      else if c ∈ ['d', 's', 'w', 'D', 'S', 'W'] then
        let last := letter.advance 1
        .ok (⟨last.since start, .shorthand c.isUpper⟩, last)
      else readSimple start c letter

end CsvQuery.Pattern
