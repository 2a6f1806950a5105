import CsvQuery.StorageError

/-!
# Tables

A table has a name, columns with distinct names and rows of cells.  A cell is the
text it was loaded with, and a row may lack the cell of a column.  Both conditions
on a table, distinct columns and no cell outside them, are part of its type, so
they hold of every table there is; `Table.ofRows` checks them and names the first
offence.
-/

namespace CsvQuery

set_option autoImplicit false

/-- A row: cells by the name of their column. -/
structure Row where
  /-- The cells; of two cells of one column the first one counts. -/
  cells : List (String × String)
  deriving DecidableEq

namespace Row

/-- The cell of a column, if the row has one. -/
def get? (row : Row) (column : String) : Option String := row.cells.lookup column

/-- The columns of the cells of a row. -/
def columns (row : Row) : List String := row.cells.map Prod.fst

end Row

/-- A table. -/
structure Table where
  /-- The name of the table. -/
  name : String
  /-- The names of the columns, from left to right. -/
  columns : List String
  /-- The rows, from top to bottom. -/
  rows : List Row
  /-- The columns have distinct names. -/
  columns_nodup : columns.Nodup
  /-- Every cell is in a column of the table. -/
  rows_declared : ∀ row ∈ rows, ∀ column ∈ row.columns, column ∈ columns
  deriving DecidableEq

/-! ## Checking the columns and the cells -/

/-- The first name of a list that occurs before it, either in the list or among
the names already seen. -/
def firstRepeated? (seen : List String) : List String → Option String
  | [] => none
  | name :: rest =>
      if name ∈ seen then some name else firstRepeated? (name :: seen) rest

/-- The number of the first row with a cell outside the given columns, and the
column of that cell.  The first row has the number `index`. -/
def firstUndeclared? (columns : List String) (index : Nat) : List Row → Option (Nat × String)
  | [] => none
  | row :: rest =>
      match row.columns.find? (· ∉ columns) with
      | some column => some (index, column)
      | none => firstUndeclared? columns (index + 1) rest

/-- If no name is found to be repeated, the names are distinct and new. -/
theorem nodup_of_firstRepeated?_eq_none {seen names : List String}
    (noneRepeated : firstRepeated? seen names = none) :
    names.Nodup ∧ ∀ name ∈ names, name ∉ seen := by
  induction names generalizing seen with
  | nil => simp
  | cons name rest ih =>
    rw [firstRepeated?] at noneRepeated
    split at noneRepeated
    · cases noneRepeated
    next isNew =>
      obtain ⟨restNodup, restNew⟩ := ih noneRepeated
      have nameNew : name ∉ rest := fun again => restNew name again (List.mem_cons_self ..)
      refine ⟨List.nodup_cons.2 ⟨nameNew, restNodup⟩, ?_⟩
      intro other isOther
      rcases List.mem_cons.1 isOther with rfl | inRest
      · exact isNew
      · exact fun wasSeen => restNew other inRest (List.mem_cons_of_mem _ wasSeen)

/-- If no row is found to have a cell outside the columns, every cell is in one of
them. -/
theorem declared_of_firstUndeclared?_eq_none {columns : List String} {index : Nat}
    {rows : List Row} (noneUndeclared : firstUndeclared? columns index rows = none) :
    ∀ row ∈ rows, ∀ column ∈ row.columns, column ∈ columns := by
  induction rows generalizing index with
  | nil => simp
  | cons first rest ih =>
    rw [firstUndeclared?] at noneUndeclared
    split at noneUndeclared
    · cases noneUndeclared
    next noneFound =>
      intro row isRow column inRow
      rcases List.mem_cons.1 isRow with rfl | inRest
      · simpa using List.find?_eq_none.1 noneFound column inRow
      · exact ih noneUndeclared row inRest column inRow

namespace Table

/-- The table with the given name, columns and rows.  A repeated column is
reported before a cell outside the columns. -/
def ofRows (name : String) (columns : List String) (rows : List Row) :
    Except StorageError Table :=
  match repeated : firstRepeated? [] columns with
  | some column => .error (.duplicateColumn name column)
  | none =>
    match undeclared : firstUndeclared? columns 1 rows with
    | some (row, column) => .error (.unknownColumn name row column)
    | none =>
      .ok {
        name, columns, rows
        columns_nodup := (nodup_of_firstRepeated?_eq_none repeated).1
        rows_declared := declared_of_firstUndeclared?_eq_none undeclared }

/-- Whether a table has a column. -/
def hasColumn (table : Table) (name : String) : Bool := table.columns.contains name

/-- The number of rows. -/
def rowCount (table : Table) : Nat := table.rows.length

/-- The number of columns. -/
def columnCount (table : Table) : Nat := table.columns.length

end Table

end CsvQuery
