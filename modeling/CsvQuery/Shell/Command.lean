import CsvQuery.Text.Blank

/-!
# Commands

A line of a session is blank, one of the words `exit` and `quit`, a command that
starts with a point, or a query.  The arguments of a command are separated by
blanks, and arguments beyond those it takes are ignored.
-/

namespace CsvQuery

open CsvQuery.Text

set_option autoImplicit false

/-- What a line asks for. -/
inductive Command where
  /-- End the session. -/
  | exit
  /-- Show the help text. -/
  | help
  /-- List the tables. -/
  | tables
  /-- Load a file, under a name if one is given. -/
  | load (path : String) (name : Option String)
  /-- Show the columns of a table. -/
  | schema (table : String)
  /-- Show how a command is used whose arguments are missing. -/
  | usage (text : String)
  /-- A command that does not exist. -/
  | unknown (line : String)
  /-- Run a query. -/
  | sql (statement : String)
  deriving DecidableEq

namespace Command

/-- Whether a text is one of the words that end a session, in any letter case. -/
def isExitWord (text : List Char) : Bool :=
  let lower := text.map Char.toLower
  lower == ['e', 'x', 'i', 't'] || lower == ['q', 'u', 'i', 't']

/-- How `.load` is used. -/
def loadUsage : String := "Usage: .load <path> [name]"

/-- How `.schema` is used. -/
def schemaUsage : String := "Usage: .schema <table>"

/-- The command of a line that starts with a point, from its words.  `line` is the
whole line. -/
def ofWords (line : String) : List String → Command
  | ".exit" :: _ | ".quit" :: _ => .exit
  | ".help" :: _ => .help
  | ".tables" :: _ => .tables
  | ".load" :: path :: rest => .load path rest.head?
  | [".load"] => .usage loadUsage
  | ".schema" :: table :: _ => .schema table
  | [".schema"] => .usage schemaUsage
  | _ => .unknown line

/-- The command of a line; a blank line has none. -/
def parse (line : String) : Option Command :=
  let text := trim line.toList
  if text.isEmpty then none
  else if isExitWord text then some .exit
  else if text.head? = some '.' then
    some (ofWords (String.ofList text) ((words text).map String.ofList))
  else some (.sql (String.ofList text))

end Command

end CsvQuery
