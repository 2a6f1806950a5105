import CsvQuery.ResultSet.Format
import CsvQuery.Text.Search

/-!
# Command-line options

The program takes four options that have values and no other arguments.  Each has a
long name after two dashes and all but the last a letter after one, and its value
stands in the same argument, after an equals sign or directly after the letter, or in
the next argument, which must not look like an option.  Files to load may be given many
times, the other options once.  An argument of two dashes ends the options.

Two more options, without values, ask for the help text and for the version.  The first
of them ends the reading, and nothing else is done.
-/

namespace CsvQuery

open CsvQuery.Text

set_option autoImplicit false

/-- What an option sets. -/
inductive OptionKind where
  /-- A file to load before anything else. -/
  | load
  /-- A query to run instead of a session. -/
  | execute
  /-- The format of query results. -/
  | format
  /-- Which events are to be logged. -/
  | logFilter
  deriving DecidableEq

/-- The kind of an option with a long name. -/
def OptionKind.ofName? (name : String) : Option OptionKind :=
  if name = "load" then some .load
  else if name = "execute" then some .execute
  else if name = "format" then some .format
  else if name = "log-level" then some .logFilter
  else none

/-- The kind of an option with a letter. -/
def OptionKind.ofLetter? (letter : Char) : Option OptionKind :=
  if letter = 'l' then some .load
  else if letter = 'e' then some .execute
  else if letter = 'f' then some .format
  else none

/-- The values of the options of a run. -/
structure Options where
  /-- The files to load, in order. -/
  loads : List String
  /-- The query to run. -/
  query : Option String
  /-- The format of query results. -/
  format : Option Format
  /-- The filter of the events to log. -/
  logFilter : Option String
  deriving DecidableEq

namespace Options

/-- No option given. -/
def unset : Options where
  loads := []
  query := none
  format := none
  logFilter := none

/-- The options with one more given, unless it must not be repeated or its value
is not one of those it takes. -/
def set? (options : Options) (kind : OptionKind) (value : String) : Option Options :=
  match kind with
  | .load => some { options with loads := options.loads ++ [value] }
  | .execute => if options.query.isSome then none else some { options with query := value }
  | .format =>
      if options.format.isSome then none
      else (Format.ofName? value).map fun format => { options with format }
  | .logFilter =>
      if options.logFilter.isSome then none else some { options with logFilter := value }

/-- How an argument can be read. -/
inductive Argument where
  /-- The argument that ends the options. -/
  | endOfOptions
  /-- An option, with its value if the argument holds it. -/
  | option (kind : OptionKind) (value : Option String)
  /-- A request for the help text or the version. -/
  | information
  /-- Anything else. -/
  | other
  deriving DecidableEq

/-- An option's name and its value, if the text after the dashes holds one. -/
def splitLong (text : List Char) : String × Option String :=
  match splitAtSymbol? ['='] text with
  | some (name, value) => (String.ofList name, some (String.ofList value))
  | none => (String.ofList text, none)

/-- The value in the same argument as an option's letter. -/
def attachedValue? : List Char → Option String
  | [] => none
  | '=' :: value => some (String.ofList value)
  | value => some (String.ofList value)

/-- Whether a long name asks for the help text or the version. -/
def isInformationName (name : String) : Bool := name = "help" || name = "version"

/-- Whether a letter asks for the help text or the version. -/
def isInformationLetter (letter : Char) : Bool := letter = 'h' || letter = 'V'

/-- How an argument is read.  What follows a letter that asks for the help text or the
version is not looked at. -/
def Argument.read (argument : String) : Argument :=
  match argument.toList with
  | ['-', '-'] => .endOfOptions
  | '-' :: '-' :: text =>
      match OptionKind.ofName? (splitLong text).1 with
      | some kind => .option kind (splitLong text).2
      | none => if isInformationName (String.ofList text) then .information else .other
  | '-' :: letter :: text =>
      match OptionKind.ofLetter? letter with
      | some kind => .option kind (attachedValue? text)
      | none => if isInformationLetter letter then .information else .other
  | _ => .other

/-- Whether an argument can be the value of the option in front of it. -/
def isValue (argument : String) : Bool :=
  argument.toList.head? != some '-' || argument = "-"

/-- Why arguments are not the options of a run. -/
inductive Refusal where
  /-- They are not understood. -/
  | misunderstood
  /-- They ask for the help text or the version. -/
  | information
  deriving DecidableEq

/-- The options with those of some arguments added, or the first reason why the
arguments are not those of a run. -/
def add (options : Options) : List String → Except Refusal Options
  | [] => .ok options
  | argument :: rest =>
      match Argument.read argument with
      | .endOfOptions => if rest.isEmpty then .ok options else .error .misunderstood
      | .information => .error .information
      | .option kind (some value) =>
          match options.set? kind value with
          | some next => next.add rest
          | none => .error .misunderstood
      | .option kind none =>
          match rest with
          | [] => .error .misunderstood
          | value :: others =>
              match if isValue value then options.set? kind value else none with
              | some next => next.add others
              | none => .error .misunderstood
      | .other => .error .misunderstood

/-- The options of a command line. -/
def parse (arguments : List String) : Except Refusal Options := unset.add arguments

end Options

/-- The path of a file to load and the name for its table.  The name follows the
last equals sign; if nothing follows it, the whole text is the path. -/
def splitLoad (text : String) : String × Option String :=
  match splitAtLast? '=' text.toList with
  | some (path, name) =>
      if name.isEmpty then (text, none)
      else (String.ofList path, some (String.ofList name))
  | none => (text, none)

end CsvQuery
