import CsvQuery.Proofs.Catalog.Storing
import CsvQuery.Proofs.Table.Forming
import Mathlib.Data.List.Induction

/-!
# What a catalog remembers

A catalog that starts empty and goes through a list of operations remembers, for
each name, the table that was stored under it last, and nothing else
(`Catalog.remembers_after`).  What one operation does to a catalog is one of two
things: it stores one table, or it leaves the catalog alone (`Catalog.perform_cases`).
Induction over the list from its end then gives the table under every name, and
since a catalog is the map from names to tables, histories with the same last stores
leave the same catalog behind.
-/

set_option autoImplicit false

namespace CsvQuery

namespace Catalog

/-! ## Operations -/

/-- An operation on a catalog.  A table to insert is given by what it is made of, and
a load sees the files that are there at its time. -/
inductive Operation where
  | insert (name : String) (columns : List String) (rows : List Row)
  | load (files : Files) (path : String) (name : Option String)
  | names
  | schema (name : String)
  | get (name : String)
  | execute (sql : String)
  | answer (query : Query)

/-- What an operation gives back. -/
inductive Response where
  | inserted (displaced : Except StorageError (Option Table))
  | loaded (summary : Except StorageError LoadSummary)
  | names (names : List String)
  | schema (columns : Except StorageError (List String))
  | table (table : Except StorageError Table)
  | result (result : Except QueryError ResultSet)

/-- The response to an operation, and the catalog after it. -/
def perform (catalog : Catalog) : Operation → Response × Catalog
  | .insert name columns rows =>
      match Table.ofRows name columns rows with
      | .error error => (.inserted (.error error), catalog)
      | .ok table => (.inserted (.ok (catalog.displaced? table)), catalog.insert table)
  | .load files path name =>
      match catalog.load files path name with
      | .error error => (.loaded (.error error), catalog)
      | .ok (summary, next) => (.loaded (.ok summary), next)
  | .names => (.names catalog.names, catalog)
  | .schema name => (.schema (catalog.schema name), catalog)
  | .get name => (.table (catalog.get name), catalog)
  | .execute sql => (.result (catalog.execute sql), catalog)
  | .answer query => (.result (catalog.answer query), catalog)

/-- The catalog after a list of operations. -/
def after (catalog : Catalog) (operations : List Operation) : Catalog :=
  operations.foldl (fun current operation => (current.perform operation).2) catalog

/-- The responses to a list of operations. -/
def responses (catalog : Catalog) : List Operation → List Response
  | [] => []
  | operation :: rest =>
      (catalog.perform operation).1 :: (catalog.perform operation).2.responses rest

/-- An operation stores a table under a name: the table it gives or reads is accepted. -/
def Operation.Stores (operation : Operation) (name : String) (table : Table) : Prop :=
  match operation with
  | .insert given columns rows => given = name ∧ Table.ofRows given columns rows = .ok table
  | .load files path given =>
      given.getD (tableNameOf path) = name ∧ readTable files path given = .ok table
  | _ => False

/-- A table is the last one that a list of operations stores under a name. -/
def LastStored (operations : List Operation) (name : String) (table : Table) : Prop :=
  ∃ earlier operation later, operations = earlier ++ operation :: later ∧
    operation.Stores name table ∧ ∀ next ∈ later, ∀ other, ¬ next.Stores name other

/-- A catalog is what the last stores of a list of operations make of it. -/
structure Remembers (catalog : Catalog) (operations : List Operation) : Prop where
  get_ok : ∀ name table, catalog.get name = .ok table ↔ LastStored operations name table
  get_error : ∀ name, (∀ operation ∈ operations, ∀ table, ¬ operation.Stores name table) →
    catalog.get name = .error (.tableNotFound name)
  increasing : catalog.names.Pairwise (· < ·)
  listed : ∀ name, name ∈ catalog.names ↔ ∃ table, catalog.get name = .ok table
  schema_ok : ∀ name table, LastStored operations name table →
    catalog.schema name = .ok table.columns
  displaced : ∀ name columns rows table, Table.ofRows name columns rows = .ok table →
    ∃ displaced next, catalog.perform (.insert name columns rows) =
        (.inserted (.ok displaced), next) ∧
      (∀ old, displaced = some old ↔ LastStored operations name old) ∧
      (table :: catalog.tables).Perm (displaced.toList ++ next.tables)
  wellFormed : ∀ name table, catalog.get name = .ok table →
    table.name = name ∧ table.columns.Nodup ∧
      ∀ row ∈ table.rows, ∀ column ∈ row.columns, column ∈ table.columns

end Catalog

/-! ## The name of a stored table -/

theorem Csv.name_of_read {name : String} {bytes : List UInt8} {table : Table}
    (isRead : Csv.read name bytes = .ok table) : table.name = name := by
  rw [Csv.read] at isRead
  split at isRead
  · cases isRead
  next texts _ =>
    rw [Csv.tableOf.eq_def] at isRead
    split at isRead <;> exact Table.name_of_ofRows isRead

namespace Catalog

theorem name_of_readTable {files : Files} {path : String} {name : Option String} {table : Table}
    (isRead : readTable files path name = .ok table) :
    table.name = name.getD (tableNameOf path) := by
  rw [readTable] at isRead
  split at isRead
  · cases isRead
  · exact Csv.name_of_read isRead

/-! ## One operation -/

/-- **An operation stores one table, which it puts into the catalog, or it stores none
and leaves the catalog alone.** -/
theorem perform_cases (catalog : Catalog) (operation : Operation) :
    (∃ table, (∀ name other, operation.Stores name other ↔ table.name = name ∧ table = other) ∧
      (catalog.perform operation).2 = catalog.insert table) ∨
    (∀ name table, ¬ operation.Stores name table) ∧ (catalog.perform operation).2 = catalog := by
  cases operation with
  | insert given columns rows =>
      cases made : Table.ofRows given columns rows with
      | error error =>
          refine .inr ⟨?_, by simp [perform, made]⟩
          rintro name table ⟨-, accepted⟩
          rw [made] at accepted
          cases accepted
      | ok table =>
          refine .inl ⟨table, ?_, by simp [perform, made]⟩
          intro name other
          simp [Operation.Stores, made, Table.name_of_ofRows made]
  | load files path given =>
      cases isRead : readTable files path given with
      | error error =>
          refine .inr ⟨?_, by simp [perform, load, isRead, Except.map]⟩
          rintro name table ⟨-, accepted⟩
          rw [isRead] at accepted
          cases accepted
      | ok table =>
          refine .inl ⟨table, ?_, by simp [perform, load, isRead, Except.map]⟩
          intro name other
          simp [Operation.Stores, isRead, name_of_readTable isRead]
  | _ => exact .inr ⟨fun _ _ stores => stores, rfl⟩

theorem find?_perform_eq_some_iff {catalog : Catalog} {operation : Operation} {name : String}
    {table : Table} :
    (catalog.perform operation).2.find? name = some table ↔
      operation.Stores name table ∨
        (∀ other, ¬ operation.Stores name other) ∧ catalog.find? name = some table := by
  rcases catalog.perform_cases operation with ⟨stored, stores, next⟩ | ⟨storesNone, next⟩
  · rw [next, find?_insert]
    by_cases here : stored.name = name
    · simp [stores, here]
    · simp [stores, here]
  · simp [next, storesNone]

/-! ## Lists of operations -/

theorem after_snoc (catalog : Catalog) (operations : List Operation) (operation : Operation) :
    catalog.after (operations ++ [operation]) =
      ((catalog.after operations).perform operation).2 := by
  rw [after, List.foldl_append]
  rfl

theorem lastStored_snoc_iff {operations : List Operation} {operation : Operation} {name : String}
    {table : Table} :
    LastStored (operations ++ [operation]) name table ↔
      operation.Stores name table ∨
        (∀ other, ¬ operation.Stores name other) ∧ LastStored operations name table := by
  constructor
  · rintro ⟨earlier, storing, later, split, stores, noneLater⟩
    rcases List.eq_nil_or_concat later with rfl | ⟨later, last, rfl⟩
    · obtain ⟨-, rfl⟩ := List.append_singleton_inj.1 split
      exact .inl stores
    · rw [List.concat_eq_append] at split noneLater
      rw [← List.cons_append, ← List.append_assoc] at split
      obtain ⟨rfl, rfl⟩ := List.append_singleton_inj.1 split
      refine .inr ⟨noneLater operation (by simp), earlier, storing, later, rfl, stores, ?_⟩
      intro next isLater
      exact noneLater next (List.mem_append_left _ isLater)
  · rintro (stores | ⟨storesNone, earlier, storing, later, rfl, stores, noneLater⟩)
    · exact ⟨operations, operation, [], rfl, stores, by simp⟩
    · refine ⟨earlier, storing, later ++ [operation], by simp, stores, ?_⟩
      intro next isLater
      rcases List.mem_append.1 isLater with inLater | isLast
      · exact noneLater next inLater
      · rw [List.mem_singleton.1 isLast]
        exact storesNone

/-- **The table found under a name is the one that was stored under it last.** -/
theorem find?_after_eq_some_iff {operations : List Operation} {name : String} {table : Table} :
    (empty.after operations).find? name = some table ↔ LastStored operations name table := by
  induction operations using List.reverseRecOn with
  | nil =>
      simp only [after, List.foldl_nil, find?_empty, reduceCtorEq, false_iff]
      rintro ⟨earlier, storing, later, split, -⟩
      simp at split
  | append_singleton operations operation ih =>
      rw [after_snoc, find?_perform_eq_some_iff, lastStored_snoc_iff, ih]

theorem get_after_eq_ok_iff {operations : List Operation} {name : String} {table : Table} :
    (empty.after operations).get name = .ok table ↔ LastStored operations name table := by
  rw [get_eq_ok_iff, find?_after_eq_some_iff]

theorem LastStored.exists_stores {operations : List Operation} {name : String} {table : Table}
    (last : LastStored operations name table) :
    ∃ operation ∈ operations, operation.Stores name table := by
  obtain ⟨earlier, storing, later, rfl, stores, -⟩ := last
  exact ⟨storing, by simp, stores⟩

theorem remembers (operations : List Operation) :
    (empty.after operations).Remembers operations where
  get_ok _ _ := get_after_eq_ok_iff
  get_error := by
    intro name storesNone
    apply get_eq_error_of_find?_eq_none
    rw [Option.eq_none_iff_forall_ne_some]
    intro table found
    obtain ⟨operation, isIn, stores⟩ := (find?_after_eq_some_iff.1 found).exists_stores
    exact storesNone operation isIn table stores
  increasing := names_increasing _
  listed := by
    intro name
    simp only [mem_names_iff, get_eq_ok_iff]
  schema_ok := by
    intro name table last
    rw [schema, get_after_eq_ok_iff.2 last]
    rfl
  displaced := by
    intro name columns rows table made
    refine ⟨_, _, by rw [perform, made], ?_, perm_placeTable table _⟩
    intro old
    rw [displaced?_eq_find?, Table.name_of_ofRows made, find?_after_eq_some_iff]
  wellFormed := by
    intro name table found
    exact ⟨name_of_find? (get_eq_ok_iff.1 found), table.columns_nodup, table.rows_declared⟩

/-- **A catalog remembers the last store under each name and nothing else.** -/
theorem remembers_after (operations : List Operation) :
    (empty.after operations).Remembers operations ∧
      ∀ others : List Operation,
        (∀ name table, LastStored operations name table ↔ LastStored others name table) →
          ∀ later, (empty.after operations).responses later =
            (empty.after others).responses later := by
  refine ⟨remembers operations, ?_⟩
  intro others sameLast later
  have sameCatalog : empty.after operations = empty.after others := by
    apply ext_find?
    intro name
    ext table
    rw [find?_after_eq_some_iff, find?_after_eq_some_iff, sameLast]
  rw [sameCatalog]

theorem remembers_after_reload :
    ∃ operations others : List Operation,
      (∀ name table, LastStored operations name table ↔ LastStored others name table) ∧
        (empty.after operations).names = ["t"] ∧ operations.length = 3 ∧ others.length = 1 ∧
        ∀ later, (empty.after operations).responses later =
          (empty.after others).responses later := by
  let files : Files :=
    { entries :=
        [("d.csv", Csv.encodeUtf8 "a,a\n".toList), ("t.csv", Csv.encodeUtf8 "b\n2\n".toList)] }
  let operations : List Operation :=
    [.insert "t" ["a"] [⟨[("a", "1")]⟩], .load files "d.csv" (some "t"), .load files "t.csv" none]
  let others : List Operation := [.insert "t" ["b"] [⟨[("b", "2")]⟩]]
  have sameTables : (empty.after operations).tables = (empty.after others).tables := by
    decide +kernel
  have sameLast : ∀ name table,
      LastStored operations name table ↔ LastStored others name table := by
    intro name table
    rw [← find?_after_eq_some_iff, ← find?_after_eq_some_iff, find?, find?, sameTables]
  exact ⟨operations, others, sameLast, by decide +kernel, rfl, rfl,
    (remembers_after operations).2 others sameLast⟩

end Catalog

end CsvQuery
