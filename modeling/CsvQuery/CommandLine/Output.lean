import CsvQuery.Event

/-!
# What the program writes

The program writes texts to its standard output.  On its error output stand texts of
its own, lines of its log and, if it crashes, a notice of that.  How the line of an
event looks is left to the log, and the notice to the system: both tell more than the
program knows, such as the time.
-/

namespace CsvQuery

set_option autoImplicit false

/-- Something that is put on the error output. -/
inductive Message where
  /-- A text of the program. -/
  | text (content : String)
  /-- The log line of an event. -/
  | event (event : Event)
  /-- The notice that the program crashes. -/
  | crash
  deriving DecidableEq

/-- The lines of the log for some events, of which it takes down only some. -/
def logged (logs : Event → Bool) (events : List Event) : List Message :=
  (events.filter logs).map .event

/-- What a program writes, by stream. -/
structure Output where
  /-- The standard output. -/
  out : String
  /-- The error output. -/
  err : List Message
  deriving DecidableEq

namespace Output

/-- Nothing. -/
def empty : Output where
  out := ""
  err := []

/-- One output after another. -/
def append (first second : Output) : Output where
  out := first.out ++ second.out
  err := first.err ++ second.err

instance : Append Output := ⟨append⟩

/-- A text on the standard output. -/
def ofOut (text : String) : Output where
  out := text
  err := []

/-- Messages on the error output. -/
def ofMessages (messages : List Message) : Output where
  out := ""
  err := messages

/-- A text on the error output. -/
def ofErr (text : String) : Output := ofMessages [.text text]

end Output

/-- How a run of the program ends. -/
inductive Outcome where
  /-- The arguments are not understood. -/
  | rejected
  /-- The arguments ask for the help text or the version, which is shown. -/
  | informed
  /-- The program ends with an exit code and has written something. -/
  | finished (code : Nat) (output : Output)
  deriving DecidableEq

/-- The exit code of a crash. -/
def crashCode : Nat := 101

end CsvQuery
