import CsvQuery.Pattern.Brackets
import CsvQuery.Pattern.Group
import CsvQuery.Text.Numeral

/-!
# Reading patterns

A pattern is read from left to right.  The groups that are open at a place form a
stack; each remembers what stood in front of it and whether that was loosely
written.  Every step reads at least one character, so as many steps as a pattern
has characters are enough.
-/

namespace CsvQuery.Pattern

open CsvQuery.Text

set_option autoImplicit false

/-- What has been read of the inside of a group, or of a pattern outside groups. -/
structure Level where
  /-- Where it starts. -/
  start : Nat
  /-- The branches that have ended. -/
  branches : List Node
  /-- Where the last branch starts. -/
  branchStart : Nat
  /-- The parts of the last branch. -/
  parts : List Node

namespace Level

/-- Nothing, at a place. -/
def empty (start : Nat) : Level := ⟨start, [], start, []⟩

/-- A level with one more part. -/
def push (level : Level) (part : Node) : Level :=
  { level with parts := level.parts ++ [part] }

/-- The last branch of a level that ends at a place. -/
def lastBranch (level : Level) (stop : Nat) : Node :=
  match level.parts with
  | [] => .nothing ⟨level.branchStart, stop⟩
  | [part] => part
  | parts => .sequence ⟨level.branchStart, stop⟩ parts

/-- A level that ends at a place. -/
def toNode (level : Level) (stop : Nat) : Node :=
  match level.branches with
  | [] => level.lastBranch stop
  | branches => .alternation ⟨level.start, stop⟩ (branches ++ [level.lastBranch stop])

/-- A level with another branch behind the mark at a place. -/
def branch (level : Level) (mark : Nat) : Level :=
  { level with
    branches := level.branches ++ [level.lastBranch mark]
    branchStart := mark + 1
    parts := [] }

/-- The last part of a level, if it can be repeated, and the level without it. -/
def popRepeatable? (level : Level) : Option (Node × Level) :=
  match level.parts.getLast? with
  | none | some (.nothing _) | some (.flags _ _) => none
  | some part => some (part, { level with parts := level.parts.dropLast })

end Level

/-- A group whose closing parenthesis has not been read. -/
structure OpenGroup where
  /-- Where its opening parenthesis stands. -/
  parenthesis : Span
  /-- Its flags. -/
  flags : Flags
  /-- What has been read in front of it. -/
  outer : Level
  /-- Whether that was loosely written. -/
  outerLoose : Bool

/-- A pattern that is being read. -/
structure Reading where
  /-- The place. -/
  cursor : Cursor
  /-- The innermost level. -/
  level : Level
  /-- The open groups, the innermost first. -/
  groups : List OpenGroup
  /-- The names of groups, and where they stand. -/
  names : List (List Char × Span)

namespace Reading

/-- The start of a pattern. -/
def start (pattern : List Char) : Reading where
  cursor := ⟨0, pattern, false⟩
  level := .empty 0
  groups := []
  names := []

/-- A part has been read, up to a place. -/
def push (reading : Reading) (part : Node) (last : Cursor) : Reading :=
  { reading with level := reading.level.push part, cursor := last }

/-- A group with some flags has been opened, up to a place. -/
def openGroup (reading : Reading) (flags : Flags) (last : Cursor) : Reading :=
  let outerLoose := reading.cursor.isLoose
  { reading with
    cursor := { last with isLoose := (flags.state? 'x').getD outerLoose }
    level := .empty last.index
    groups := ⟨reading.cursor.char, flags, reading.level, outerLoose⟩ :: reading.groups }

/-- Reads the front of a group, or flags. -/
def readParenthesis (reading : Reading) : Except Fault Reading := do
  let (opening, last) ← readOpening reading.cursor
  match opening with
  | .group flags => return reading.openGroup flags last
  | .named name span =>
      match reading.names.lookup name with
      | some earlier => throw ⟨.nameRepeated, span, some earlier⟩
      | none =>
          let opened := reading.openGroup [] last
          return { opened with names := (name, span) :: reading.names }
  | .flags flags =>
      let isLoose := (flags.state? 'x').getD last.isLoose
      let node := Node.flags (last.since reading.cursor.index) (flags.state? 'u')
      return reading.push node { last with isLoose }

/-- Reads a closing parenthesis. -/
def closeGroup (reading : Reading) : Except Fault Reading :=
  match reading.groups with
  | [] => .error ⟨.groupUnopened, reading.cursor.char, none⟩
  | group :: others =>
      let last := { reading.cursor.advance 1 with isLoose := group.outerLoose }
      let body := reading.level.toNode reading.cursor.index
      let span := last.since group.parenthesis.start
      .ok { reading with
        cursor := last
        level := group.outer.push (.group span (group.flags.state? 'u') body)
        groups := others }

/-- Reads a mark of repetition, which a question mark may follow. -/
def readRepetition (reading : Reading) : Except Fault Reading :=
  match reading.level.popRepeatable? with
  | none => .error ⟨.nothingToRepeat, reading.cursor.here, none⟩
  | some (part, level) =>
      let mark := reading.cursor.advance 1
      let last := if mark.rest.head? == some '?' then mark.advance 1 else mark
      .ok { reading with
        cursor := last
        level := level.push (.repetition (last.since part.span.start) part) }

/-- The largest count of a repetition. -/
def countLimit : Nat := 4294967295

/-- The fault of the counted repetition whose opening brace stands at a place.  A
pattern holds no closing brace to end it. -/
def countFault (brace : Cursor) : Fault :=
  let digitsStart := (brace.next.takeWhile isBlank).2
  let (digits, digitsStop) := digitsStart.takeWhile Char.isDigit
  let last := (digitsStop.takeWhile isBlank).2
  let span := digitsStop.since digitsStart.index
  if last.rest.isEmpty then ⟨.countUnclosed, last.since brace.index, none⟩
  else if digits.isEmpty then ⟨.countEmpty, span, none⟩
  else if countLimit < digitsValue digits then ⟨.countTooLarge, span, none⟩
  else ⟨.countUnclosed, last.since brace.index, none⟩

/-- The fault of an opening brace. -/
def braceFault (reading : Reading) : Fault :=
  match reading.level.popRepeatable? with
  | none => ⟨.nothingToRepeat, reading.cursor.here, none⟩
  | some _ => countFault reading.cursor

/-- Reads a part that starts with a character, without parts of its own. -/
def readAtom (reading : Reading) (c : Char) : Except Fault Reading := do
  let cursor := reading.cursor
  let atom (kind : AtomKind) := (⟨cursor.char, kind⟩, cursor.advance 1)
  let (read, last) ←
    if c == '\\' then readEscape cursor
    else if c == '.' then pure (atom .dot)
    else if c == '^' || c == '$' then pure (atom .anchor)
    else pure (atom (.literal c false))
  return reading.push (.atom read) last

/-- Reads what starts with a character. -/
def step (reading : Reading) (c : Char) : Except Fault Reading :=
  if c == '(' then reading.readParenthesis
  else if c == ')' then reading.closeGroup
  else if c == '|' then
    .ok { reading with
      cursor := reading.cursor.advance 1
      level := reading.level.branch reading.cursor.index }
  else if c == '[' then
    (readSet reading.cursor).map fun (item, last) => reading.push (.set item) last
  else if c == '?' || c == '*' || c == '+' then reading.readRepetition
  else if c == '{' then .error reading.braceFault
  else reading.readAtom c

/-- What has been read when the pattern ends. -/
def finish (reading : Reading) : Except Fault Node :=
  match reading.groups with
  | [] => .ok (reading.level.toNode reading.cursor.index)
  | group :: _ => .error ⟨.groupUnclosed, group.parenthesis, none⟩

/-- Reads the rest of a pattern in at most a given number of steps. -/
def steps : Nat → Reading → Except Fault Node
  | 0, reading => reading.finish
  | count + 1, reading =>
      let cursor := reading.cursor.skipLoose
      let skipped := { reading with cursor }
      match cursor.rest with
      | [] => skipped.finish
      | c :: _ =>
          match skipped.step c with
          | .error fault => .error fault
          | .ok next => steps count next

end Reading

/-- The tree of a pattern. -/
def read (pattern : List Char) : Except Fault Node :=
  Reading.steps (pattern.length + 1) (.start pattern)

end CsvQuery.Pattern
