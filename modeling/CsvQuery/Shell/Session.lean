import CsvQuery.Catalog
import CsvQuery.ResultSet.Format
import CsvQuery.Shell.Command

/-!
# Sessions

A session holds a catalog and an output format.  It runs one command after the
other; a command that fails reports its error and leaves the session as it was.
Only a load that succeeds changes the session.

A query may have an answer that cannot be drawn (`Box.greatestWidth`).  This is not a
failure that is reported: the program crashes.
-/

namespace CsvQuery

set_option autoImplicit false

/-- The state of a session. -/
structure Session where
  /-- The tables loaded so far. -/
  catalog : Catalog
  /-- The format of query results. -/
  format : Format

/-- Why a command failed. -/
inductive Failure where
  /-- A table could not be found or loaded. -/
  | storage (error : StorageError)
  /-- A query has no answer. -/
  | query (error : QueryError)
  deriving DecidableEq

/-- The sentence that reports a failure. -/
def Failure.message : Failure → String
  | .storage error => error.message
  | .query error => error.message

/-- The sentences that report what caused a failure, the nearest cause first. -/
def Failure.causes : Failure → List String
  | .storage error => error.causes
  | .query error => error.causes

/-- What a session answers to a command. -/
inductive Reply where
  /-- A text, which may be empty. -/
  | output (text : String)
  /-- The end of the session. -/
  | exit
  /-- None: the program crashes. -/
  | crash
  deriving DecidableEq

namespace Session

/-- The help text. -/
def helpText : String :=
  "Special Commands:\n" ++
  "  .help                  Show this help message\n" ++
  "  .load <path> [name]    Load a CSV file as a table (name defaults to the file name)\n" ++
  "  .tables                List loaded tables\n" ++
  "  .schema <table>        Show the columns of a table\n" ++
  "  .exit, .quit           Exit the shell\n" ++
  "\n" ++
  "Supported SQL:\n" ++
  "  SELECT * FROM employees\n" ++
  "  SELECT name, age FROM employees WHERE age >= 30\n" ++
  "  SELECT COUNT(*) FROM employees WHERE dept = 'Sales'\n" ++
  "  SELECT COUNT(email) FROM employees\n" ++
  "\n" ++
  "Notes:\n" ++
  "  - Keywords are case-insensitive\n" ++
  "  - WHERE takes a single condition using =, !=, >, <, >= or <=\n" ++
  "  - Quote text values with single or double quotes"

/-- The answer to a command that does not exist. -/
def unknownText (line : String) : String :=
  s!"Unknown command: {line}\nType '.help' for help"

/-- The answer to a query, rendered if it can be. -/
def runSql (session : Session) (sql : String) : Except QueryError (Option String) :=
  (session.catalog.execute sql).map fun result => result.render? session.format

/-- The reply to a command, and the session after it. -/
def respond (files : Files) (session : Session) : Command → Session × Except Failure Reply
  | .exit => (session, .ok .exit)
  | .help => (session, .ok (.output helpText))
  | .tables => (session, .ok (.output ("\n".intercalate session.catalog.names)))
  | .load path name =>
      match session.catalog.load files path name with
      | .ok (summary, catalog) => ({ session with catalog }, .ok (.output summary.message))
      | .error error => (session, .error (.storage error))
  | .schema table =>
      (session, match session.catalog.schema table with
        | .ok columns => .ok (.output (", ".intercalate columns))
        | .error error => .error (.storage error))
  | .usage text => (session, .ok (.output text))
  | .unknown line => (session, .ok (.output (unknownText line)))
  | .sql statement =>
      (session, match session.runSql statement with
        | .ok (some text) => .ok (.output text)
        | .ok none => .ok .crash
        | .error error => .error (.query error))

/-- The events of a command. -/
def events (files : Files) (session : Session) : Command → List Event
  | .load path name => Catalog.loadEvents files path name
  | .sql statement => session.catalog.executeEvents statement
  | _ => []

end Session

end CsvQuery
