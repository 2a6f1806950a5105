import CsvQuery.Proofs.CommandLine.Running
import CsvQuery.Proofs.Query.Terminator
import CsvQuery.Proofs.Text.Lines

/-!
# One query, given as an option or in a session

A query can be given as an option or typed into a session.  The option is read as it
stands; the line of a session is cut off its input, trimmed and looked at for commands
before it is read as a query.  For a text that is one line and no command
(`IsQueryLine`) the two agree: one answers it exactly when the other does, with the same
text, and the failure that ends the run of the option is the one the session complains
of (`Program.run_query_agrees`).

The reason is that a query is read from its trimmed text (`Query.parse_of_trim_eq`), and
that the text of an answer is never empty (`ResultSet.render_ne_empty`), so the session
always shows it.
-/

set_option autoImplicit false

namespace CsvQuery

open CsvQuery.Text

/-- A text that is one line, and neither blank nor a command. -/
structure IsQueryLine (sql : String) : Prop where
  oneLine : '\n' ∉ sql.toList
  notBlank : trim sql.toList ≠ []
  noCommand : (trim sql.toList).head? ≠ some '.'
  noExitWord : Command.isExitWord (trim sql.toList) = false

/-! ## Reading a trimmed query -/

theorem Query.parse_of_trim_eq {first second : String}
    (same : trim first.toList = trim second.toList) : Query.parse first = Query.parse second := by
  rw [Query.parse, Query.parse, same, withoutTerminator_of_trim_eq same]

theorem Session.runSql_of_trim_eq (session : Session) {first second : String}
    (same : trim first.toList = trim second.toList) :
    session.runSql first = session.runSql second := by
  rw [Session.runSql, Session.runSql, Catalog.execute, Catalog.execute,
    Query.parse_of_trim_eq same]

theorem Command.parse_of_isQueryLine {sql : String} (isLine : IsQueryLine sql) {line : List Char}
    (same : trim line = trim sql.toList) :
    Command.parse (String.ofList line) = some (.sql (String.ofList (trim sql.toList))) := by
  simp [Command.parse, same, isLine.notBlank, isLine.noExitWord, isLine.noCommand]

theorem Catalog.executeEvents_of_trim_eq (catalog : Catalog) {first second : String}
    (same : trim first.toList = trim second.toList) :
    catalog.executeEvents first = catalog.executeEvents second := by
  rw [Catalog.executeEvents, Catalog.executeEvents, Query.parse_of_trim_eq same]

/-! ## Answers are not empty -/

theorem Box.ne_nil_of_resultSet? {result : ResultSet} {box : List Char}
    (drawn : Box.resultSet? result = some box) : box ≠ [] := by
  by_cases someColumn : result.columns = []
  · simp only [Box.resultSet?, someColumn, List.isEmpty_nil, if_true, Option.some.injEq] at drawn
    rw [← drawn]
    decide
  · have drawable : ∀ width ∈ Box.columnWidths result, width ≤ Box.greatestWidth := by
      intro width isIn
      apply Nat.not_lt.1
      intro tooWide
      rw [(Box.resultSet?_eq_none_iff result).2 ⟨width, isIn, tooWide⟩] at drawn
      cases drawn
    rw [Box.resultSet?_of_drawable someColumn drawable, Option.some.injEq] at drawn
    rw [← drawn, Box.footer]
    exact List.append_ne_nil_of_right_ne_nil _ (List.cons_ne_nil _ _)

theorem ResultSet.ne_empty_of_render? {result : ResultSet} {format : Format} {text : String}
    (rendered : result.render? format = some text) : text ≠ "" := by
  cases format with
  | table =>
      obtain ⟨box, drawn, rfl⟩ := Option.map_eq_some_iff.1 rendered
      simp [Box.ne_nil_of_resultSet? drawn]
  | json =>
      obtain rfl := Option.some.inj rendered
      simp [Json.resultSet]

theorem Session.ne_empty_of_runSql {session : Session} {sql text : String}
    (answered : session.runSql sql = .ok (some text)) : text ≠ "" := by
  rw [Session.runSql] at answered
  cases executed : session.catalog.execute sql with
  | error error =>
      rw [executed] at answered
      cases answered
  | ok result =>
      rw [executed] at answered
      injection answered with rendered
      exact ResultSet.ne_empty_of_render? rendered

/-! ## One line of a session -/

/-- What is shown from the start of a session to its end, if its input is one line that
shows the given text. -/
def Session.shownAround (text : String) : String :=
  Session.banner ++ (Session.prompt ++ text) ++ (Session.prompt ++ "\n")

theorem Session.shownAround_inj {first second : String} :
    Session.shownAround first = Session.shownAround second ↔ first = second := by
  rw [Session.shownAround, Session.shownAround, String.append_left_inj, String.append_right_inj,
    String.append_right_inj]

/-- A query line is heard as one line. -/
theorem Program.exists_inputLines_of_isQueryLine {sql ending : String} (isLine : IsQueryLine sql)
    (isEnding : ending ∈ ["", "\n", "\r\n"]) :
    ∃ line, Program.inputLines (sql ++ ending) = [line] ∧
      Command.parse line = some (.sql (String.ofList (trim sql.toList))) := by
  have nonempty : sql.toList ≠ [] := fun empty => isLine.notBlank (by rw [empty]; rfl)
  have isEndingText : ending.toList ∈ [[], ['\n'], ['\r', '\n']] :=
    List.mem_map_of_mem (f := String.toList) isEnding
  obtain ⟨line, isOneLine, sameTrim⟩ :=
    exists_lines_append_ending isLine.oneLine nonempty isEndingText
  refine ⟨String.ofList line, ?_, Command.parse_of_isQueryLine isLine sameTrim⟩
  rw [Program.inputLines, String.toList_append, isOneLine]
  rfl

section Line

variable (logs : Event → Bool) (files : Files) (session : Session) {sql line : String}
  (parsed : Command.parse line = some (.sql (String.ofList (trim sql.toList))))
include parsed

theorem Session.replyTo_queryLine :
    session.replyTo files line = some (session.respond files (.sql sql)).2 := by
  have sameAnswer : session.runSql (String.ofList (trim sql.toList)) = session.runSql sql := by
    apply Session.runSql_of_trim_eq
    rw [String.toList_ofList, trim_trim]
  rw [Session.replyTo_of_parse parsed, Session.respond, Session.respond, sameAnswer]

theorem Session.remarksAt_queryLine :
    session.remarksAt logs files line =
      logged logs (session.catalog.executeEvents sql) ++
        Session.complaint (some (session.respond files (.sql sql)).2) := by
  have sameEvents : session.lineEvents files line = session.catalog.executeEvents sql := by
    simp only [Session.lineEvents, parsed, Session.events]
    apply Catalog.executeEvents_of_trim_eq
    rw [String.toList_ofList, trim_trim]
  rw [Session.remarksAt, sameEvents, Session.replyTo_queryLine files session parsed]

end Line

/-- **A session answers from one line the query that the line is.** -/
theorem Session.transcript_queryLine (logs : Event → Bool) (files : Files) (session : Session)
    {sql ending : String} (isLine : IsQueryLine sql) (isEnding : ending ∈ ["", "\n", "\r\n"]) :
    session.transcript logs files (Program.inputLines (sql ++ ending)) =
      let reply := (session.respond files (.sql sql)).2
      let remarks := logged logs (session.catalog.executeEvents sql) ++
        Session.complaint (some reply)
      if reply = .ok .crash then (crashCode, { out := prompt, err := remarks })
      else
        (0,
          { out := prompt ++ Session.shownText (some reply) ++ (prompt ++ "\n")
            err := remarks }) := by
  obtain ⟨line, heard, parsed⟩ := Program.exists_inputLines_of_isQueryLine isLine isEnding
  have replies := session.replyTo_queryLine files parsed
  have remarks := session.remarksAt_queryLine logs files parsed
  rw [heard]
  by_cases crashes : (session.respond files (.sql sql)).2 = .ok .crash
  · have ends : (session.replyTo files line).bind exitCode? = some crashCode := by
      rw [replies, crashes]
      rfl
    rw [if_pos crashes, Session.transcript_cons_of_ends ends, remarks, Session.shownAt, replies,
      crashes]
    rfl
  · have goesOn : Session.endsSession line = false := by
      rw [Session.endsSession, parsed]
      rfl
    have survived : session.replyTo files line ≠ some (.ok .crash) := by
      rwa [replies, Ne, Option.some.injEq]
    rw [if_neg crashes, Session.transcript_cons_of_goesOn goesOn survived, remarks,
      Session.shownAt, replies]
    simp [Session.transcript, Output.append_eq, Output.ofOut]

/-! ## Two runs -/

namespace Program

/-- How two runs end that are given the same query, as an option and as the only line of
a session, when the given remarks stand on the error output before its answer.  They crash
if the answer is there but cannot be rendered. -/
inductive EndAlike (remarks : List Message) (unrendered : Prop) : Outcome → Outcome → Prop
  | answered (text : String) :
      EndAlike remarks unrendered
        (.finished 0 { out := text ++ "\n", err := remarks })
        (.finished 0 { out := Session.shownAround (text ++ "\n"), err := remarks })
  | refused (message causes : String) :
      EndAlike remarks unrendered
        (.finished 1 { out := "", err := remarks ++ [.text ("Error: " ++ message ++ causes)] })
        (.finished 0
          { out := Session.shownAround ""
            err := remarks ++ [.text ("Error: " ++ message ++ "\n")] })
  | crashed (isUnrendered : unrendered) :
      EndAlike remarks unrendered
        (.finished crashCode { out := "", err := remarks ++ [.crash] })
        (.finished crashCode
          { out := Session.banner ++ Session.prompt, err := remarks ++ [.crash] })

section Understood

variable {environment : Environment} {arguments : List String} {options : Options}
  {remarks : List Message} {catalog : Catalog} {sql : String}

/-- The outcome of a run that answers one query. -/
theorem run_of_query (understood : Options.parse arguments = .ok options)
    (isQuery : options.query = some sql)
    (filterUnderstood : filterReport? (environment.filterOf options) = none)
    (loaded : LoadsAll (environment.logs options) environment.files .empty options.loads
      remarks catalog)
    (stdin : String) :
    run environment arguments stdin =
      let (code, output) := runQuery (environment.logs options) (sessionOf options catalog) sql
      .finished code (.ofMessages remarks ++ output) := by
  rw [run_of_understood understood filterUnderstood, runFiltered, loadAll_of_loadsAll loaded,
    isQuery]

end Understood

section QueryLine

variable {environment : Environment} {executing conversing : List String} {options : Options}
  {loadRemarks : List Message} {catalog : Catalog} {sql ending : String}

/-- What stands on the error output in front of the answer to a query: the remarks of the
loads and the log lines of the query. -/
def remarksBefore (environment : Environment) (options : Options) (loadRemarks : List Message)
    (catalog : Catalog) (sql : String) : List Message :=
  loadRemarks ++ logged (environment.logs options) (catalog.executeEvents sql)

/-- **Two runs with the same query end alike.** -/
theorem endAlike
    (executes : Options.parse executing = .ok { options with query := some sql })
    (converses : Options.parse conversing = .ok { options with query := none })
    (filterUnderstood : filterReport? (environment.filterOf options) = none)
    (loaded : LoadsAll (environment.logs options) environment.files .empty options.loads
      loadRemarks catalog)
    (isLine : IsQueryLine sql) (isEnding : ending ∈ ["", "\n", "\r\n"]) (unread : String) :
    EndAlike (remarksBefore environment options loadRemarks catalog sql)
      (∃ result, catalog.execute sql = .ok result ∧
        result.render? (options.format.getD .table) = none)
      (run environment executing unread) (run environment conversing (sql ++ ending)) := by
  have once : run environment executing unread = _ :=
    run_of_query executes rfl filterUnderstood loaded unread
  have inSession := run_of_loadsAll converses filterUnderstood rfl loaded (sql ++ ending)
  have sameSession : sessionOf { options with query := none } catalog =
      sessionOf { options with query := some sql } catalog := rfl
  have sameLogs : environment.logs { options with query := none } = environment.logs options ∧
      environment.logs { options with query := some sql } = environment.logs options :=
    ⟨rfl, rfl⟩
  rw [Session.transcript_queryLine _ _ _ isLine isEnding, sameSession, sameLogs.1] at inSession
  rw [once, inSession, runQuery, Session.respond, sameLogs.2]
  let remarks := remarksBefore environment options loadRemarks catalog sql
  let unrendered := ∃ result, catalog.execute sql = .ok result ∧
    result.render? (options.format.getD .table) = none
  cases result : (sessionOf { options with query := some sql } catalog).runSql sql with
  | error error =>
      have alike : EndAlike remarks unrendered _ _ := .refused error.message
        (String.ofList (Report.causesText error.causes) ++ "\n")
      simpa [remarks, unrendered, remarksBefore, Failure.message, Report.text, Session.shownText,
        Session.complaint, Session.shownAround, Output.append_eq, Output.ofMessages, Output.ofOut,
        String.append_assoc] using alike
  | ok answer =>
      cases answer with
      | none =>
          have isUnrendered : unrendered := Session.runSql_eq_none_iff.1 result
          have alike : EndAlike remarks unrendered _ _ := .crashed isUnrendered
          simpa [remarks, unrendered, remarksBefore, Session.complaint, Output.append_eq,
            Output.ofMessages, Output.ofOut] using alike
      | some text =>
          have nonempty := Session.ne_empty_of_runSql result
          have alike : EndAlike remarks unrendered _ _ := .answered text
          simpa [remarks, unrendered, remarksBefore, nonempty, Session.shownText, Session.complaint,
            Session.shownAround, Output.append_eq, Output.ofMessages, Output.ofOut,
            String.append_assoc] using alike

/-- **A query given as an option agrees with the same query in a session.**  The run with
the option succeeds with a text exactly when the session shows that text for the line, and
fails exactly when the session complains of the line; its report then starts with that
complaint.  One of the two happens, unless the answer cannot be rendered: then both runs
crash. -/
theorem run_query_agrees
    (executes : Options.parse executing = .ok { options with query := some sql })
    (converses : Options.parse conversing = .ok { options with query := none })
    (filterUnderstood : filterReport? (environment.filterOf options) = none)
    (loaded : LoadsAll (environment.logs options) environment.files .empty options.loads
      loadRemarks catalog)
    (isLine : IsQueryLine sql) (isEnding : ending ∈ ["", "\n", "\r\n"]) (unread : String) :
    (∀ text,
      (∃ err, run environment executing unread = .finished 0 { out := text ++ "\n", err }) ↔
        ∃ err, run environment conversing (sql ++ ending) =
          .finished 0 { out := Session.shownAround (text ++ "\n"), err }) ∧
    ((∃ err, run environment executing unread = .finished 1 { out := "", err }) ↔
      ∃ out message, run environment conversing (sql ++ ending) =
        .finished 0
          { out
            err := remarksBefore environment options loadRemarks catalog sql ++
              [.text ("Error: " ++ message ++ "\n")] }) ∧
    (∀ out message,
      run environment conversing (sql ++ ending) =
          .finished 0
            { out
              err := remarksBefore environment options loadRemarks catalog sql ++
                [.text ("Error: " ++ message ++ "\n")] } →
        out = Session.shownAround "" ∧ ∃ causes, run environment executing unread =
          .finished 1
            { out := ""
              err := remarksBefore environment options loadRemarks catalog sql ++
                [.text ("Error: " ++ message ++ causes)] }) ∧
    ((∃ text, run environment executing unread =
        .finished 0
          { out := text ++ "\n"
            err := remarksBefore environment options loadRemarks catalog sql }) ∨
      (∃ err, run environment executing unread = .finished 1 { out := "", err }) ∨
      ((∃ result, catalog.execute sql = .ok result ∧
          result.render? (options.format.getD .table) = none) ∧
        run environment executing unread =
          .finished crashCode
            { out := ""
              err := remarksBefore environment options loadRemarks catalog sql ++ [.crash] } ∧
        run environment conversing (sql ++ ending) =
          .finished crashCode
            { out := Session.banner ++ Session.prompt
              err :=
                remarksBefore environment options loadRemarks catalog sql ++ [.crash] })) := by
  have alike := endAlike executes converses filterUnderstood loaded isLine isEnding unread
  generalize remarksBefore environment options loadRemarks catalog sql = remarks at alike ⊢
  generalize run environment executing unread = once at alike ⊢
  generalize run environment conversing (sql ++ ending) = inSession at alike ⊢
  cases alike with
  | answered text =>
      refine ⟨fun other => ?_, ?_, ?_, .inl ⟨text, rfl⟩⟩
      · simp [Session.shownAround_inj]
      · simp
      · intro out message same
        simp at same
  | refused message causes =>
      refine ⟨fun other => ?_, ?_, ?_, .inr (.inl ⟨_, rfl⟩)⟩
      · simp [Session.shownAround_inj]
      · simp
      · intro out message' same
        have sameParts : Session.shownAround "" = out ∧ message = message' := by simpa using same
        obtain ⟨rfl, rfl⟩ := sameParts
        exact ⟨rfl, causes, rfl⟩
  | crashed isUnrendered =>
      refine ⟨fun other => ?_, ?_, ?_, .inr (.inr ⟨isUnrendered, rfl, rfl⟩)⟩
      · simp [crashCode]
      · simp [crashCode]
      · intro out message same
        simp [crashCode] at same

end QueryLine

theorem run_query_agrees_terminated :
    ∃ (environment : Environment) (executing conversing : List String) (sql unread text : String),
      IsQueryLine sql ∧
        text = "┌───┐\n│ a │\n├───┤\n│ 1 │\n└───┘\n\n1 row(s) returned" ∧
        (∃ err, run environment executing unread = .finished 0 { out := text ++ "\n", err }) ∧
        ∃ err, run environment conversing (sql ++ "\r\n") =
          .finished 0 { out := Session.shownAround (text ++ "\n"), err } := by
  let files : Files := { entries := [("t.csv", Csv.encodeUtf8 "a\n1\n".toList)] }
  let environment : Environment := { files, logFilter := none, lets := LogFilter.letsByLevel }
  let sql : String := " select a from t ; "
  let options : Options :=
    { loads := ["t.csv"], query := none, format := none, logFilter := some "info" }
  let executing : List String := ["--load", "t.csv", "--execute", sql, "--log-level=info"]
  let conversing : List String := ["-lt.csv", "--log-level", "info"]
  let table : Table :=
    { name := "t", columns := ["a"], rows := [⟨[("a", "1")]⟩]
      columns_nodup := by decide
      rows_declared := by decide }
  have executes : Options.parse executing = .ok { options with query := some sql } := by
    decide +kernel
  have converses : Options.parse conversing = .ok { options with query := none } := by
    decide +kernel
  have filterUnderstood : filterReport? (environment.filterOf options) = none := by
    decide +kernel
  have isRead : Catalog.readTable files (splitLoad "t.csv").1 (splitLoad "t.csv").2 =
      .ok table := by
    decide +kernel
  have loaded : LoadsAll (environment.logs options) files .empty options.loads _
      (Catalog.empty.insert table) :=
    .cons (load_of_readTable isRead) (.none _)
  have isLine : IsQueryLine sql :=
    ⟨by decide +kernel, by decide +kernel, by decide +kernel, by decide +kernel⟩
  let text : String := "┌───┐\n│ a │\n├───┤\n│ 1 │\n└───┘\n\n1 row(s) returned"
  have succeeds : ∃ err, run environment executing "" = .finished 0 { out := text ++ "\n", err } :=
    ⟨[.event (.loaded "t" 1 1 "t.csv"), .text "Loaded table 't' (1 rows, 1 cols)\n"], by
      decide +kernel⟩
  have agrees := run_query_agrees executes converses filterUnderstood loaded isLine
    (.tail _ (.tail _ (.head _))) ""
  exact ⟨environment, executing, conversing, sql, "", text, isLine, rfl, succeeds,
    (agrees.1 text).1 succeeds⟩

end Program

end CsvQuery
