import CsvQuery.Text.Blank

/-!
# Faults of patterns

A pattern that is not well formed has a fault: what is wrong, and the part of the
pattern where it is.  A fault may point at a second part, the earlier one that the
first repeats.  The text of a fault shows the pattern and marks these parts below
it; a pattern of several lines is shown between rules, with its lines numbered.
-/

namespace CsvQuery.Pattern

open CsvQuery.Text

set_option autoImplicit false

/-- A part of a pattern, by how many characters stand in front of its two ends. -/
structure Span where
  /-- The characters in front of the part. -/
  start : Nat
  /-- The characters in front of what follows the part. -/
  stop : Nat
  deriving DecidableEq

/-- What can be wrong with a pattern. -/
inductive FaultKind where
  /-- An escape in a set that stands for no characters. -/
  | escapeInSet
  /-- A range whose first character comes after its last. -/
  | rangeReversed
  /-- A range with an end that is no single character. -/
  | rangeEnd
  /-- A set without its closing bracket. -/
  | setUnclosed
  /-- A count that is too large. -/
  | countTooLarge
  /-- Hexadecimal digits that name no character. -/
  | hexValue
  /-- A character that is no hexadecimal digit. -/
  | hexDigit
  /-- An escape that the end of the pattern cuts off. -/
  | escapeUnfinished
  /-- An escape that does not exist. -/
  | escapeUnknown
  /-- A negation of flags with no flag behind it. -/
  | negationDangling
  /-- A flag given twice. -/
  | flagRepeated
  /-- A negation of flags given twice. -/
  | negationRepeated
  /-- Flags that the end of the pattern cuts off. -/
  | flagsUnfinished
  /-- A flag that does not exist. -/
  | flagUnknown
  /-- The name of an earlier group. -/
  | nameRepeated
  /-- A name without characters. -/
  | nameEmpty
  /-- A character that names do not have. -/
  | nameCharacter
  /-- A name that the end of the pattern cuts off. -/
  | nameUnfinished
  /-- A group without its closing parenthesis. -/
  | groupUnclosed
  /-- A closing parenthesis without a group. -/
  | groupUnopened
  /-- Too many parts inside each other. -/
  | tooDeep
  /-- A counted repetition without a count. -/
  | countEmpty
  /-- A counted repetition without its closing brace. -/
  | countUnclosed
  /-- A repetition of nothing. -/
  | nothingToRepeat
  /-- A named word boundary without its closing brace. -/
  | boundaryUnclosed
  /-- A word boundary and an opening brace, with which the pattern ends. -/
  | boundaryUnfinished
  /-- An escape in place of the name of a property. -/
  | propertyInvalid
  /-- A reference to a group. -/
  | backreference
  /-- A condition on the text around a match. -/
  | lookAround
  /-- A character or property where only bytes are meant. -/
  | unicodeNotAllowed
  /-- A part that bytes outside ASCII would match. -/
  | invalidUtf8
  /-- A property that does not exist. -/
  | propertyUnknown
  deriving DecidableEq

/-- How many parts of a pattern may be inside each other. -/
def depthLimit : Nat := 250

/-- The text of what is wrong with a pattern. -/
def FaultKind.message : FaultKind → String
  | escapeInSet => "invalid escape sequence found in character class"
  | rangeReversed => "invalid character class range, the start must be <= the end"
  | rangeEnd => "invalid range boundary, must be a literal"
  | setUnclosed => "unclosed character class"
  | countTooLarge => "decimal literal invalid"
  | hexValue => "hexadecimal literal is not a Unicode scalar value"
  | hexDigit => "invalid hexadecimal digit"
  | escapeUnfinished => "incomplete escape sequence, reached end of pattern prematurely"
  | escapeUnknown => "unrecognized escape sequence"
  | negationDangling => "dangling flag negation operator"
  | flagRepeated => "duplicate flag"
  | negationRepeated => "flag negation operator repeated"
  | flagsUnfinished => "expected flag but got end of regex"
  | flagUnknown => "unrecognized flag"
  | nameRepeated => "duplicate capture group name"
  | nameEmpty => "empty capture group name"
  | nameCharacter => "invalid capture group character"
  | nameUnfinished => "unclosed capture group name"
  | groupUnclosed => "unclosed group"
  | groupUnopened => "unopened group"
  | tooDeep =>
      s!"exceed the maximum number of nested parentheses/brackets ({depthLimit})"
  | countEmpty => "repetition quantifier expects a valid decimal"
  | countUnclosed => "unclosed counted repetition"
  | nothingToRepeat => "repetition operator missing expression"
  | boundaryUnclosed =>
      "special word boundary assertion is either unclosed or contains an invalid character"
  | boundaryUnfinished =>
      "found either the beginning of a special word boundary or a bounded repetition " ++
      "on a \\b with an opening brace, but no closing brace"
  | propertyInvalid => "invalid Unicode character class"
  | backreference => "backreferences are not supported"
  | lookAround => "look-around, including look-ahead and look-behind, is not supported"
  | unicodeNotAllowed => "Unicode not allowed here"
  | invalidUtf8 => "pattern can match invalid UTF-8"
  | propertyUnknown => "Unicode property not found"

/-- What is wrong with a pattern, and where. -/
structure Fault where
  /-- What is wrong. -/
  kind : FaultKind
  /-- Where it is wrong. -/
  span : Span
  /-- The part that is repeated there, if that is what is wrong. -/
  earlier : Option Span
  deriving DecidableEq

namespace Fault

/-- How many lines end in front of a place in a pattern. -/
def lineAt (pattern : List Char) (place : Nat) : Nat := (pattern.take place).count '\n'

/-- How many characters of its line stand in front of a place in a pattern. -/
def columnAt (pattern : List Char) (place : Nat) : Nat :=
  ((pattern.take place).reverse.takeWhile (· != '\n')).length

/-- The parts a fault points at, from left to right. -/
def spans (fault : Fault) : List Span :=
  match fault.earlier with
  | none => [fault.span]
  | some earlier =>
      if earlier.start ≤ fault.span.start then [earlier, fault.span] else [fault.span, earlier]

/-- The marks below a line for the given parts of it, from a column on.  A part
without characters has one mark. -/
def marks (pattern : List Char) (column : Nat) : List Span → List Char
  | [] => []
  | span :: rest =>
      let start := columnAt pattern span.start
      let width := max 1 (columnAt pattern span.stop - start)
      List.replicate (start - column) ' ' ++ List.replicate width '^'
        ++ marks pattern (max column start + width) rest

/-- Whether a part lies in one line. -/
def inOneLine (pattern : List Char) (span : Span) : Bool :=
  lineAt pattern span.start == lineAt pattern span.stop

/-- The marks below a line of a pattern with what stands in front of them, as a line
of its own.  There is none if no part of the line is marked. -/
def markLine (pattern margin : List Char) (spans : List Span) (line : Nat) : List Char :=
  match spans.filter fun span => inOneLine pattern span && lineAt pattern span.start == line with
  | [] => []
  | marked => margin ++ marks pattern 0 marked ++ ['\n']

/-- The lines of a pattern, each with a number in front of it and its marks below
it.  Numbers are as wide as the last of them. -/
def numberedLines (pattern : List Char) (spans : List Span) (width : Nat) (line : Nat) :
    List (List Char) → List Char
  | [] => []
  | text :: rest =>
      let number := Nat.toDigits 10 (line + 1)
      List.replicate (width - number.length) ' ' ++ number ++ [':', ' '] ++ text ++ ['\n']
        ++ markLine pattern (List.replicate (width + 2) ' ') spans line
        ++ numberedLines pattern spans width (line + 1) rest

/-- Where a part of several lines begins and ends, as a line of its own. -/
def placeLine (pattern : List Char) (span : Span) : List Char :=
  let line (place : Nat) := lineAt pattern place + 1
  let first := s!"on line {line span.start} (column {columnAt pattern span.start + 1})"
  let last := s!"line {line span.stop} (column {columnAt pattern span.stop})"
  (first ++ " through " ++ last ++ "\n").toList

/-- What the text of a fault shows of a pattern of several lines. -/
def showLines (pattern : List Char) (spans : List Span) : List Char :=
  let rule := List.replicate 79 '~' ++ ['\n']
  let width := (Nat.toDigits 10 (lineAt pattern pattern.length + 1)).length
  rule ++ numberedLines pattern spans width 0 (lines pattern) ++ rule
    ++ (spans.filter fun span => !inOneLine pattern span).flatMap (placeLine pattern)

/-- What the text of a fault shows of a pattern. -/
def showPattern (pattern : List Char) (spans : List Span) : List Char :=
  if '\n' ∈ pattern then showLines pattern spans
  else
    let margin := List.replicate 4 ' '
    margin ++ pattern ++ ['\n'] ++ markLine pattern margin spans 0

/-- The text of a fault of a pattern. -/
def message (fault : Fault) (pattern : List Char) : String :=
  "regex parse error:\n" ++ String.ofList (showPattern pattern fault.spans)
    ++ "error: " ++ fault.kind.message

end Fault

end CsvQuery.Pattern
