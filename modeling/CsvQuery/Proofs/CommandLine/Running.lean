import CsvQuery.Proofs.Shell.Transcript

/-!
# What a run writes

A run without a query loads the files of its load options and then holds a session.
The loads come one after the other (`LoadsAll`), each with its log lines and its summary
on the error output, and the first that fails ends the run with its report
(`FirstFailure`).  If all succeed, the session starts with their tables, and what it
writes is told by its lines alone (`Program.run_session`).
-/

set_option autoImplicit false

namespace CsvQuery

namespace Program

/-- The log lines of a load. -/
def loadLog (logs : Event → Bool) (files : Files) (option : String) : List Message :=
  logged logs (Catalog.loadEvents files (splitLoad option).1 (splitLoad option).2)

/-- The files of some load options are loaded, each into the catalog that the options
before it leave.  On the error output stand the log lines and the summary of each. -/
inductive LoadsAll (logs : Event → Bool) (files : Files) :
    Catalog → List String → List Message → Catalog → Prop
  | none (catalog : Catalog) : LoadsAll logs files catalog [] [] catalog
  | cons {catalog next last : Catalog} {option : String} {rest : List String}
      {summary : LoadSummary} {remarks : List Message}
      (loads : catalog.load files (splitLoad option).1 (splitLoad option).2 = .ok (summary, next))
      (others : LoadsAll logs files next rest remarks last) :
      LoadsAll logs files catalog (option :: rest)
        (loadLog logs files option ++ .text (summary.message ++ "\n") :: remarks) last

@[simp] theorem sessionOf_catalog (options : Options) (catalog : Catalog) :
    (sessionOf options catalog).catalog = catalog := rfl

/-! ## Loading -/

section Loading

variable {logs : Event → Bool} {files : Files}

theorem loadAll_cons_of_loads {catalog next : Catalog} {option : String} {summary : LoadSummary}
    (loads : catalog.load files (splitLoad option).1 (splitLoad option).2 = .ok (summary, next))
    (rest : List String) :
    loadAll logs files catalog (option :: rest) =
      (loadLog logs files option ++ .text (summary.message ++ "\n") ::
          (loadAll logs files next rest).1,
        (loadAll logs files next rest).2) := by
  simp only [loadAll, loads, loadLog]

/-- **Options that are loaded are reported in front of what the other options do.** -/
theorem loadAll_append {start catalog : Catalog} {front : List String} {remarks : List Message}
    (loaded : LoadsAll logs files start front remarks catalog) (rest : List String) :
    loadAll logs files start (front ++ rest) =
      (remarks ++ (loadAll logs files catalog rest).1, (loadAll logs files catalog rest).2) := by
  induction loaded with
  | none catalog => rfl
  | cons loads _ ih =>
      rw [List.cons_append, loadAll_cons_of_loads loads, ih, List.append_assoc, List.cons_append]

theorem loadAll_of_loadsAll {start catalog : Catalog} {options : List String}
    {remarks : List Message} (loaded : LoadsAll logs files start options remarks catalog) :
    loadAll logs files start options = (remarks, .ok catalog) := by
  have whole := loadAll_append loaded []
  rwa [List.append_nil, loadAll, List.append_nil] at whole

/-- A file that can be read is loaded. -/
theorem load_of_readTable {catalog : Catalog} {option : String} {table : Table}
    (isRead : Catalog.readTable files (splitLoad option).1 (splitLoad option).2 = .ok table) :
    catalog.load files (splitLoad option).1 (splitLoad option).2 =
      .ok (table.summary, catalog.insert table) := by
  rw [Catalog.load, isRead]
  rfl

end Loading

/-! ## Running -/

section Understood

variable {environment : Environment} {arguments : List String} {options : Options}

theorem run_of_understood (understood : Options.parse arguments = .ok options)
    (filterUnderstood : filterReport? (environment.filterOf options) = none) (stdin : String) :
    run environment arguments stdin =
      .finished (runFiltered environment options stdin).1
        (runFiltered environment options stdin).2 := by
  simp only [run, understood, runOptions, filterUnderstood]

theorem run_of_loadsAll (understood : Options.parse arguments = .ok options)
    (filterUnderstood : filterReport? (environment.filterOf options) = none)
    (noQuery : options.query = none) {remarks : List Message} {catalog : Catalog}
    (loaded : LoadsAll (environment.logs options) environment.files .empty options.loads
      remarks catalog)
    (stdin : String) :
    run environment arguments stdin =
      let (code, output) := (sessionOf options catalog).transcript (environment.logs options)
        environment.files (inputLines stdin)
      .finished code (.ofMessages remarks ++ .ofOut Session.banner ++ output) := by
  rw [run_of_understood understood filterUnderstood, runFiltered, loadAll_of_loadsAll loaded,
    noQuery]

end Understood

end Program

end CsvQuery
