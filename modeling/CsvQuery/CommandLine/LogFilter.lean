import CsvQuery.Binary64.Reader
import CsvQuery.Event
import CsvQuery.Pattern.Usable
import CsvQuery.Text.ByteLength

/-!
# Log filters

A log filter is a list of directives with commas between them; empty directives
are skipped.  A directive is a level for all events, or it says which events it is
about, by a target, by a span in brackets or by both, and may then give a level
behind an equals sign:

    warn
    target
    target=info
    target[span]=debug
    [span{field=value}]=trace

The value of a field is a number or a pattern, and may be left out.  The first
directive that is not understood decides how the filter is refused.  A name without an
equals sign is always understood: if it is no level, it is a target.  Which events a
filter lets through is defined here for the filters that are only a level.

Blanks around a directive are left out when its form is read.  But its field and its
level are taken from the directive as it stands, at the places they have in the text
without these blanks, counted in bytes: so no level is ever understood between
blanks.  Such a place may fall inside a character.  The program crashes then, which is
left out: the place behind the character is taken.
-/

namespace CsvQuery

open CsvQuery.Text

set_option autoImplicit false

/-- Why a log filter is not understood. -/
inductive LogFilterError where
  /-- A directive does not have the form of one. -/
  | malformed
  /-- The value of a field is a pattern that cannot be used. -/
  | field (error : Pattern.PatternError)
  /-- What stands behind the equals sign of a directive is no level. -/
  | unknownLevel
  deriving DecidableEq

namespace LogFilterError

/-- The text of a level that is not understood. -/
def unknownLevelMessage : String :=
  "error parsing level filter: expected one of \"off\", \"error\", \"warn\", " ++
  "\"info\", \"debug\", \"trace\", or a number 0-5"

/-- The text of the error. -/
def message : LogFilterError → String
  | malformed => "invalid filter directive"
  | field error => "invalid field filter: " ++ error.message
  | unknownLevel => unknownLevelMessage

/-- The texts of the error and of what caused it.  A level that is not understood
is the cause of a directive that is not, and both have the same text. -/
def causes : LogFilterError → List String
  | malformed => [malformed.message]
  | field error => (field error).message :: error.causes
  | unknownLevel => [unknownLevel.message, unknownLevelMessage]

end LogFilterError

namespace LogFilter

/-- The names of the levels, each of which includes those before it. -/
def levelNames : List String := ["off", "error", "warn", "info", "debug", "trace"]

/-- The place of a level among the names: a level is its name in any letter case, or
its place, counted from zero, without a minus sign. -/
def levelOf? (text : List Char) : Option Nat :=
  (levelNames.findIdx? fun name => text.map Char.toLower == name.toList).or <|
    if text.head? = some '-' then none
    else ((readWhole? text).map Int.toNat).filter (· < levelNames.length)

/-- Whether a text is a level. -/
def isLevel (text : List Char) : Bool := (levelOf? text).isSome

/-- Whether a filter that is only a level lets an event through: it does if the level of
the event does not come behind its own.  Other filters let nothing through here. -/
def letsByLevel (filter : String) (event : Event) : Bool :=
  (levelOf? filter.toList).any (event.level.place ≤ ·)

/-- Whether the name of a target can start with a character. -/
def startsTarget (c : Char) : Bool := c == '-' || c == ':' || c == '_' || isAlphanumeric c

/-- What is wrong with the level of a directive, the text behind a number of its
bytes.  An empty text stands for every level. -/
def levelError? (directive : List Char) (offset : Nat) : Option LogFilterError :=
  let level := dropBytes offset directive
  if level.isEmpty || isLevel level then none else some .unknownLevel

/-- What is wrong with what follows the span of a directive: nothing may follow it,
or an equals sign and a level.  Here and below, `offset` is how many bytes stand in
front of the given text in the directive without the blanks around it. -/
def afterSpanError? (directive : List Char) (offset : Nat) : List Char → Option LogFilterError
  | [] => none
  | '=' :: _ => levelError? directive (offset + 1)
  | _ => some .malformed

/-- What is wrong with a field.  Its value stands between its first two equals signs,
or behind the only one. -/
def fieldError? (field : List Char) : Option LogFilterError :=
  match pieces (· == '=') field with
  | _ :: value :: _ =>
      if (Binary64.read? value).isSome then none else (Pattern.error? value).map .field
  | _ => none

/-- What is wrong with what follows the opening brace of a field.  The field must not
be empty, and a brace and a bracket close it and the span around it. -/
def inFieldError? (directive : List Char) (offset : Nat) (text : List Char) :
    Option LogFilterError :=
  let field := text.takeWhile (· != '}')
  let length := byteLength field
  match text.drop field.length with
  | [] => some .malformed
  | _ :: after =>
      if field.isEmpty then some .malformed
      else (fieldError? (takeBytes length (dropBytes offset directive))).or <|
        match after with
        | ']' :: rest => afterSpanError? directive (offset + length + 2) rest
        | _ => some .malformed

/-- What is wrong with what follows the opening bracket of a span.  The span ends at
the first closing bracket, unless an opening brace stands before it. -/
def inSpanError? (directive : List Char) (offset : Nat) (text : List Char) :
    Option LogFilterError :=
  let name := text.takeWhile fun c => c != ']' && c != '{'
  let next := offset + byteLength name + 1
  match text.drop name.length with
  | ']' :: rest => afterSpanError? directive next rest
  | _ :: rest => inFieldError? directive next rest
  | [] => some .malformed

/-- What is wrong with a directive whose text without the blanks around it is given. -/
def formError? (directive : List Char) : List Char → Option LogFilterError
  | [] => some .malformed
  | '[' :: rest => inSpanError? directive 1 rest
  | first :: rest =>
      if startsTarget first then
        let target := first :: rest.takeWhile fun c => c != '=' && c != '['
        let next := byteLength target + 1
        match (first :: rest).drop target.length with
        | [] => none
        | '=' :: _ => levelError? directive next
        | _ :: span => inSpanError? directive next span
      else some .malformed

/-- What is wrong with a directive. -/
def directiveError? (directive : List Char) : Option LogFilterError :=
  formError? directive (trim directive)

/-- What is wrong with the first directive of a log filter that is not understood. -/
def error? (filter : String) : Option LogFilterError :=
  ((pieces (· == ',') filter.toList).filter fun directive => !directive.isEmpty).findSome?
    directiveError?

end LogFilter

end CsvQuery
