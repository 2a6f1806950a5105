import CsvQuery.Shell.Session
import Mathlib.Data.List.Basic

/-!
# Lines that leave no trace

A session hears one line after the other.  A line either loads a table, and then the
session goes on with that table stored, or it leaves the session as it was
(`Session.hear_cases`): whether it is blank, a query, a command that shows something
or a load that fails for whatever reason.  So a line that loads nothing can be taken
out of the input without a trace: all other lines are answered as before, and the
tables after each of them are the same (`Session.observations_eraseIdx`).
-/

set_option autoImplicit false

namespace CsvQuery

namespace Session

/-- The session after a line, and its reply; a blank line gets none. -/
def hear (files : Files) (session : Session) (line : String) :
    Session × Option (Except Failure Reply) :=
  match Command.parse line with
  | none => (session, none)
  | some command =>
      ((session.respond files command).1, some (session.respond files command).2)

/-- The session after some lines.  The end of a session is not looked at, nor is a crash. -/
def after (files : Files) (session : Session) : List String → Session
  | [] => session
  | line :: rest => (session.hear files line).1.after files rest

/-- What is seen of a session at a line: the reply, and the tables after the line. -/
structure Observation where
  reply : Option (Except Failure Reply)
  tables : List String
  deriving DecidableEq

/-- What is seen of a session at each of some lines. -/
def observations (files : Files) (session : Session) : List String → List Observation
  | [] => []
  | line :: rest =>
      { reply := (session.hear files line).2
        tables := (session.hear files line).1.catalog.names } ::
        (session.hear files line).1.observations files rest

/-- A line is a load that succeeds. -/
def Loads (files : Files) (session : Session) (line : String) : Prop :=
  ∃ path name reply, Command.parse line = some (.load path name) ∧
    (session.hear files line).2 = some (.ok reply)

/-! ## One line -/

/-- A command leaves the session alone unless it is a load of a table that can be
read. -/
theorem respond_cases (files : Files) (session : Session) (command : Command) :
    (∃ path name table, command = .load path name ∧
      session.respond files command =
        ({ session with catalog := session.catalog.insert table },
          .ok (.output table.summary.message))) ∨
    (session.respond files command).1 = session := by
  cases command with
  | load path name =>
      cases isRead : Catalog.readTable files path name with
      | error error =>
          right
          simp [respond, Catalog.load, isRead, Except.map]
      | ok table =>
          left
          refine ⟨path, name, table, rfl, ?_⟩
          simp [respond, Catalog.load, isRead, Except.map]
  | _ => exact .inr rfl

/-- **A line loads a table, which the session then holds, or it leaves the session as
it was.** -/
theorem hear_cases (files : Files) (session : Session) (line : String) :
    (session.Loads files line ∧ ∃ table,
      (session.hear files line).1 = { session with catalog := session.catalog.insert table }) ∨
    (session.hear files line).1 = session := by
  cases parsed : Command.parse line with
  | none =>
      right
      simp only [hear, parsed]
  | some command =>
      have hears : session.hear files line =
          ((session.respond files command).1, some (session.respond files command).2) := by
        simp only [hear, parsed]
      rw [Loads, hears]
      rcases session.respond_cases files command with ⟨path, name, table, rfl, responds⟩ | unchanged
      · left
        rw [responds]
        exact ⟨⟨path, name, _, parsed, rfl⟩, table, rfl⟩
      · exact .inr unchanged

/-! ## Lists of lines -/

/-- **A line that loads nothing can be deleted without a trace.** -/
theorem observations_eraseIdx {files : Files} {session : Session} {lines : List String}
    {index : Nat} {line : String} (isLine : lines[index]? = some line)
    (loadsNothing : ¬ (session.after files (lines.take index)).Loads files line) :
    session.observations files (lines.eraseIdx index) =
      (session.observations files lines).eraseIdx index := by
  induction lines generalizing session index with
  | nil => cases isLine
  | cons first rest ih =>
      cases index with
      | zero =>
          obtain rfl : first = line := Option.some.inj isLine
          rcases session.hear_cases files first with ⟨loads, -⟩ | unchanged
          · exact absurd loads loadsNothing
          · simp only [List.eraseIdx_cons_zero, observations, unchanged]
      | succ index =>
          simp only [List.eraseIdx_cons_succ, observations]
          rw [ih isLine loadsNothing]

theorem observations_eraseIdx_duplicate_header :
    ∃ (files : Files) (session : Session) (lines : List String),
      lines[1]? = some ".load d.csv" ∧
        ¬ (session.after files (lines.take 1)).Loads files ".load d.csv" ∧
        (session.observations files lines).map Observation.tables = [["t"], ["t"], ["t"]] ∧
        session.observations files (lines.eraseIdx 1) =
          (session.observations files lines).eraseIdx 1 := by
  let files : Files :=
    { entries :=
        [("t.csv", Csv.encodeUtf8 "a\n1\n".toList), ("d.csv", Csv.encodeUtf8 "a,a\n".toList)] }
  let session : Session := { catalog := .empty, format := .table }
  let lines : List String := [".load t.csv", ".load d.csv", "SELECT * FROM t"]
  have fails : ((session.after files (lines.take 1)).hear files ".load d.csv").2 =
      some (.error (.storage (.duplicateColumn "d" "a"))) := by
    decide +kernel
  have loadsNothing : ¬ (session.after files (lines.take 1)).Loads files ".load d.csv" := by
    rintro ⟨path, name, reply, -, succeeds⟩
    rw [fails] at succeeds
    cases succeeds
  exact ⟨files, session, lines, rfl, loadsNothing, by decide +kernel,
    observations_eraseIdx rfl loadsNothing⟩

end Session

end CsvQuery
