import CsvQuery.CommandLine.LogFilter
import CsvQuery.CommandLine.Options
import CsvQuery.CommandLine.Output
import CsvQuery.CommandLine.Report
import CsvQuery.Shell.Session

/-!
# The program

The program checks its log filter, loads the files named by its options and then
either answers one query or holds a session with its standard input.  What it writes
is a function of its arguments, its input and its environment, and that function is
defined here: a session is a fold of its turns, one for each line.

The log is part of the environment.  Which events a filter lets through is up to the
log, so it is a parameter; a filter that is only a level is `LogFilter.letsByLevel`.
Nothing is said of the text of a log line or of the notice of a crash, nor of the
help text and the version, which come from the reader of the arguments.
-/

namespace CsvQuery

set_option autoImplicit false

/-- What surrounds a run of the program. -/
structure Environment where
  /-- The files that can be read. -/
  files : Files
  /-- The log filter that the variable `MINISQL_LOG` gives, if it is set. -/
  logFilter : Option String
  /-- Whether a log filter lets an event through. -/
  lets : String → Event → Bool

/-- The log filter of a run in which neither options nor environment give one. -/
def defaultLogFilter : String := "warn"

/-- The log filter of a run with some options. -/
def Environment.filterOf (environment : Environment) (options : Options) : String :=
  (options.logFilter.or environment.logFilter).getD defaultLogFilter

/-- Whether an event is logged in a run with some options. -/
def Environment.logs (environment : Environment) (options : Options) : Event → Bool :=
  environment.lets (environment.filterOf options)

namespace Session

/-- What is shown in front of every line that is read. -/
def prompt : String := "minisql> "

/-- What is shown when a session starts. -/
def banner : String :=
  "╔════════════════════════════════════════════╗\n" ++
  "║          minisql Interactive Shell         ║\n" ++
  "╚════════════════════════════════════════════╝\n" ++
  "\n" ++
  "Type SQL commands or '.help' for help\n" ++
  "Load a CSV file with '.load <path> [name]'\n" ++
  "Type '.exit' to quit\n" ++
  "\n"

/-- What a reply or a failure writes.  An empty text writes nothing. -/
def outputOf : Except Failure Reply → Output
  | .ok (.output text) => if text = "" then .empty else .ofOut (text ++ "\n")
  | .ok .exit => .ofOut "Goodbye!\n"
  | .ok .crash => .ofMessages [.crash]
  | .error failure => .ofErr ("Error: " ++ failure.message ++ "\n")

/-- The exit code with which a reply ends the program, if it does. -/
def exitCode? : Except Failure Reply → Option Nat
  | .ok .exit => some 0
  | .ok .crash => some crashCode
  | _ => none

/-- What follows a line of a session. -/
inductive Sequel where
  /-- The session goes on as it is now. -/
  | goesOn (session : Session)
  /-- The program ends with an exit code. -/
  | ends (code : Nat)

/-- What a line makes a session write, log lines included, and what follows. -/
def turn (logs : Event → Bool) (files : Files) (session : Session) (line : String) :
    Output × Sequel :=
  match Command.parse line with
  | none => (.empty, .goesOn session)
  | some command =>
      let (next, reply) := session.respond files command
      let output := .ofMessages (logged logs (session.events files command)) ++ outputOf reply
      match exitCode? reply with
      | some code => (output, .ends code)
      | none => (output, .goesOn next)

/-- What a session writes while it reads lines until it ends, and its exit code. -/
def transcript (logs : Event → Bool) (files : Files) (session : Session) :
    List String → Nat × Output
  | [] => (0, .ofOut (prompt ++ "\n"))
  | line :: rest =>
      match session.turn logs files line with
      | (output, .ends code) => (code, .ofOut prompt ++ output)
      | (output, .goesOn next) =>
          let (code, later) := next.transcript logs files rest
          (code, .ofOut prompt ++ output ++ later)

end Session

namespace Program

/-- The failure to load a file. -/
structure LoadFailure where
  /-- The path of the file. -/
  path : String
  /-- Why it was not loaded. -/
  error : StorageError
  deriving DecidableEq

/-- The report of the failure to load a file. -/
def LoadFailure.report (failure : LoadFailure) : String :=
  Report.text s!"failed to load {failure.path}" (failure.error.message :: failure.error.causes)

/-- A catalog with the files of some load options, and what loading them writes, log
lines included; the first failure ends the loading. -/
def loadAll (logs : Event → Bool) (files : Files) (catalog : Catalog) :
    List String → List Message × Except LoadFailure Catalog
  | [] => ([], .ok catalog)
  | text :: rest =>
      let (path, name) := splitLoad text
      let events := logged logs (Catalog.loadEvents files path name)
      match catalog.load files path name with
      | .error error => (events, .error { path, error })
      | .ok (summary, next) =>
          let (messages, result) := loadAll logs files next rest
          (events ++ .text (summary.message ++ "\n") :: messages, result)

/-- The outcome of answering one query. -/
def runQuery (logs : Event → Bool) (session : Session) (sql : String) : Nat × Output :=
  let events := logged logs (session.catalog.executeEvents sql)
  match session.runSql sql with
  | .ok (some text) => (0, .ofMessages events ++ .ofOut (text ++ "\n"))
  | .ok none => (crashCode, .ofMessages (events ++ [.crash]))
  | .error error =>
      (1, .ofMessages (events ++ [.text (Report.text error.message error.causes)]))

/-- The report of a log filter that is not understood. -/
def filterReport? (filter : String) : Option String :=
  (LogFilter.error? filter).map fun error => Report.text "invalid log filter" error.causes

/-- The lines of an input. -/
def inputLines (stdin : String) : List String := (Text.lines stdin.toList).map String.ofList

/-- The session a run with some options holds once its files are loaded. -/
def sessionOf (options : Options) (catalog : Catalog) : Session where
  catalog := catalog
  format := options.format.getD .table

/-- The outcome of a run with the given options, once their log filter is
understood. -/
def runFiltered (environment : Environment) (options : Options) (stdin : String) :
    Nat × Output :=
  let logs := environment.logs options
  match loadAll logs environment.files .empty options.loads with
  | (loaded, .error failure) => (1, .ofMessages (loaded ++ [.text failure.report]))
  | (loaded, .ok catalog) =>
      match options.query with
      | some sql =>
          let (code, output) := runQuery logs (sessionOf options catalog) sql
          (code, .ofMessages loaded ++ output)
      | none =>
          let (code, output) :=
            (sessionOf options catalog).transcript logs environment.files (inputLines stdin)
          (code, .ofMessages loaded ++ .ofOut Session.banner ++ output)

/-- The outcome of a run with the given options. -/
def runOptions (environment : Environment) (options : Options) (stdin : String) :
    Nat × Output :=
  match filterReport? (environment.filterOf options) with
  | some report => (1, .ofErr report)
  | none => runFiltered environment options stdin

/-- The outcome of a run with the given arguments and standard input. -/
def run (environment : Environment) (arguments : List String) (stdin : String) : Outcome :=
  match Options.parse arguments with
  | .error .misunderstood => .rejected
  | .error .information => .informed
  | .ok options =>
      let (code, output) := runOptions environment options stdin
      .finished code output

end Program

end CsvQuery
