import CsvQuery.CommandLine.Program

/-!
# The command line

Reads the files, the arguments and the input that the program is about and writes
what it answers.  The session is read line by line, so every file is read at the
moment its command is given.  A path without a file that can be read counts as missing.

The log hears the filters that are only a level.  Of an event it takes down the level,
the target and the message.
-/

namespace CsvQuery.Main

set_option autoImplicit false

/-- The file at a path, if it can be read. -/
def snapshot (path : String) : IO Files := do
  try
    let bytes ← IO.FS.readBinFile path
    return { entries := [(path, bytes.toList)] }
  catch _ => return { entries := [] }

/-- The text of a message on the error output. -/
def messageText : Message → String
  | .text content => content
  | .event event => s!"{event.level.name} {event.target}: {event.message}\n"
  | .crash => "a column is too wide for a table\n"

/-- Writes an output. -/
def write (output : Output) : IO Unit := do
  let stdout ← IO.getStdout
  let stderr ← IO.getStderr
  stderr.putStr (String.join (output.err.map messageText))
  stdout.putStr output.out
  stderr.flush
  stdout.flush

/-- Loads the files of some load options. -/
def loadFiles (logs : Event → Bool) (catalog : Catalog) : List String → IO (Option Catalog)
  | [] => return some catalog
  | text :: rest => do
    let files ← snapshot (splitLoad text).1
    match Program.loadAll logs files catalog [text] with
    | (messages, .ok next) =>
      write (.ofMessages messages)
      loadFiles logs next rest
    | (messages, .error failure) =>
      write (.ofMessages (messages ++ [.text failure.report]))
      return none

/-- The files a line asks for. -/
def wantedFiles (line : String) : IO Files :=
  match Command.parse line with
  | some (.load path _) => snapshot path
  | _ => return { entries := [] }

/-- Holds a session with the standard input. -/
partial def converse (logs : Event → Bool) (session : Session) : IO UInt32 := do
  write (.ofOut Session.prompt)
  let line ← (← IO.getStdin).getLine
  if line.isEmpty then
    write (.ofOut "\n")
    return 0
  else
    let (output, sequel) := session.turn logs (← wantedFiles line) line
    write output
    match sequel with
    | .goesOn next => converse logs next
    | .ends code => return code.toUInt32

/-- Runs the program with the given options in an environment.  Its files are not looked
at: each is read when it is asked for. -/
def runOptions (environment : Environment) (options : Options) : IO UInt32 := do
  if let some report := Program.filterReport? (environment.filterOf options) then
    write (.ofErr report)
    return 1
  let logs := environment.logs options
  let some catalog ← loadFiles logs .empty options.loads | return 1
  let session := Program.sessionOf options catalog
  match options.query with
  | some sql =>
    let (code, output) := Program.runQuery logs session sql
    write output
    return code.toUInt32
  | none =>
    write (.ofOut Session.banner)
    converse logs session

/-- The text that is shown to those who ask for the help text or the version. -/
def usage : String :=
  "minisql [--load PATH[=NAME]]... [--execute SQL] [--format table|json] [--log-level FILTER]\n"

end CsvQuery.Main

open CsvQuery in
/-- Runs the program; arguments that are not understood end it with code 2. -/
def main (arguments : List String) : IO UInt32 := do
  match Options.parse arguments with
  | .ok options =>
    let environment : Environment :=
      { files := { entries := [] }
        logFilter := ← IO.getEnv "MINISQL_LOG"
        lets := LogFilter.letsByLevel }
    CsvQuery.Main.runOptions environment options
  | .error .information =>
    (← IO.getStdout).putStr CsvQuery.Main.usage
    return 0
  | .error .misunderstood =>
    (← IO.getStderr).putStr "error: the arguments are not understood\n"
    return 2
