import CsvQuery.Csv.Reader
import CsvQuery.Evaluation
import CsvQuery.Files
import CsvQuery.Query.Statement

/-!
# Catalogs

A catalog holds tables by name.  It is a list of tables in increasing order of
their names, and that order is part of its type: so names are distinct, listing
them is reading the list, and storing a table puts it in its place or replaces the
one that has its name.  Loading changes a catalog only when the file can be read
as a table, and queries do not change it.  What the log is told of a load or a query
is defined next to its result.
-/

namespace CsvQuery

set_option autoImplicit false

/-- A list of tables with a table put in its place by name; a table of the same
name is replaced. -/
def placeTable (table : Table) : List Table → List Table
  | [] => [table]
  | first :: rest =>
      if table.name < first.name then table :: first :: rest
      else if table.name = first.name then table :: rest
      else first :: placeTable table rest

/-- The table of a list that makes room for a table put in its place. -/
def replacedTable? (table : Table) : List Table → Option Table
  | [] => none
  | first :: rest =>
      if table.name < first.name then none
      else if table.name = first.name then some first
      else replacedTable? table rest

/-- A table put in its place adds no name but its own. -/
theorem mem_placeTable {table other : Table} {tables : List Table}
    (isIn : other ∈ placeTable table tables) : other = table ∨ other ∈ tables := by
  induction tables with
  | nil => simpa [placeTable] using isIn
  | cons first rest ih =>
    rw [placeTable] at isIn
    split at isIn
    · simpa using isIn
    · split at isIn
      · rcases List.mem_cons.1 isIn with isTable | inRest
        · exact Or.inl isTable
        · exact Or.inr (List.mem_cons_of_mem _ inRest)
      · rcases List.mem_cons.1 isIn with isFirst | inPlaced
        · exact Or.inr (isFirst ▸ List.mem_cons_self ..)
        · rcases ih inPlaced with isTable | inRest
          · exact Or.inl isTable
          · exact Or.inr (List.mem_cons_of_mem _ inRest)

/-- Putting a table in its place keeps the names increasing. -/
theorem placeTable_sorted {table : Table} {tables : List Table}
    (sorted : tables.Pairwise (·.name < ·.name)) :
    (placeTable table tables).Pairwise (·.name < ·.name) := by
  induction tables with
  | nil => simp [placeTable]
  | cons first rest ih =>
    obtain ⟨firstBefore, restSorted⟩ := List.pairwise_cons.1 sorted
    rw [placeTable]
    split
    next before =>
      refine List.pairwise_cons.2 ⟨fun other isIn => ?_, sorted⟩
      rcases List.mem_cons.1 isIn with rfl | inRest
      · exact before
      · exact String.lt_trans before (firstBefore other inRest)
    next notBefore =>
      split
      next same =>
        refine List.pairwise_cons.2 ⟨fun other isIn => ?_, restSorted⟩
        exact same ▸ firstBefore other isIn
      next different =>
        refine List.pairwise_cons.2 ⟨fun other isIn => ?_, ih restSorted⟩
        rcases mem_placeTable isIn with rfl | inRest
        · exact Std.lt_of_le_of_ne (String.not_lt.1 notBefore) fun same => different same.symm
        · exact firstBefore other inRest

/-- Tables by name. -/
structure Catalog where
  /-- The tables. -/
  tables : List Table
  /-- The tables are in increasing order of their names. -/
  sorted : tables.Pairwise (·.name < ·.name)

/-- What is reported of a table that was loaded. -/
structure LoadSummary where
  /-- The name of the table. -/
  table : String
  /-- The number of its rows. -/
  rows : Nat
  /-- The number of its columns. -/
  columns : Nat
  deriving DecidableEq

/-- The sentence that reports a load. -/
def LoadSummary.message (summary : LoadSummary) : String :=
  s!"Loaded table '{summary.table}' ({summary.rows} rows, {summary.columns} cols)"

/-- The summary of a table. -/
def Table.summary (table : Table) : LoadSummary where
  table := table.name
  rows := table.rowCount
  columns := table.columnCount

namespace Catalog

/-- The catalog without tables. -/
def empty : Catalog where
  tables := []
  sorted := List.Pairwise.nil

/-- The table of a name, if there is one. -/
def find? (catalog : Catalog) (name : String) : Option Table :=
  catalog.tables.find? fun table => table.name == name

/-- The table of a name. -/
def get (catalog : Catalog) (name : String) : Except StorageError Table :=
  match catalog.find? name with
  | some table => .ok table
  | none => .error (.tableNotFound name)

/-- A catalog with a table stored under its name. -/
def insert (catalog : Catalog) (table : Table) : Catalog where
  tables := placeTable table catalog.tables
  sorted := placeTable_sorted catalog.sorted

/-- The table that leaves a catalog when a table is stored under its name. -/
def displaced? (catalog : Catalog) (table : Table) : Option Table :=
  replacedTable? table catalog.tables

/-- The names of the tables, in increasing order. -/
def names (catalog : Catalog) : List String := catalog.tables.map Table.name

/-- The columns of a table, from left to right. -/
def schema (catalog : Catalog) (name : String) : Except StorageError (List String) :=
  (catalog.get name).map Table.columns

/-- The table in a file.  Without a name the table is named for the file. -/
def readTable (files : Files) (path : String) (name : Option String) :
    Except StorageError Table :=
  match files.read? path with
  | none => .error (.fileNotFound path)
  | some bytes => Csv.read (name.getD (tableNameOf path)) bytes

/-- A catalog with the table in a file, and the summary of that table. -/
def load (files : Files) (catalog : Catalog) (path : String) (name : Option String) :
    Except StorageError (LoadSummary × Catalog) :=
  (readTable files path name).map fun table => (table.summary, catalog.insert table)

/-- The events of reading the table in a file. -/
def readTableEvents (files : Files) (path : String) (name : Option String) : List Event :=
  match files.read? path with
  | none => []
  | some bytes => Csv.readEvents (name.getD (tableNameOf path)) bytes

/-- The events of loading the table in a file. -/
def loadEvents (files : Files) (path : String) (name : Option String) : List Event :=
  readTableEvents files path name ++
    match readTable files path name with
    | .error _ => []
    | .ok table => [.loaded table.name table.rowCount table.columnCount path]

/-- The answer of a catalog to a query. -/
def answer (catalog : Catalog) (query : Query) : Except QueryError ResultSet :=
  match catalog.get query.source with
  | .error error => .error (.storage error)
  | .ok table => table.evaluate query

/-- The answer of a catalog to the text of a query. -/
def execute (catalog : Catalog) (sql : String) : Except QueryError ResultSet :=
  match Query.parse sql with
  | .error error => .error (.parse error)
  | .ok query => catalog.answer query

/-- The events of answering a query. -/
def answerEvents (catalog : Catalog) (query : Query) : List Event :=
  match catalog.get query.source with
  | .error _ => []
  | .ok table => table.evaluateEvents query

/-- The events of answering the text of a query. -/
def executeEvents (catalog : Catalog) (sql : String) : List Event :=
  match Query.parse sql with
  | .error _ => []
  | .ok query => .parsed query :: catalog.answerEvents query

end Catalog

end CsvQuery
