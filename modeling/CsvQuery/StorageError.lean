import CsvQuery.Csv.Record

/-!
# Errors of loading and finding tables

A file is either missing or read to its end (`CsvQuery.Files`).  The errors with which the
system refuses to read a directory, or a file that is there, are left out.
-/

namespace CsvQuery

set_option autoImplicit false

/-- A field that is not text. -/
structure InvalidText where
  /-- The number of the record, the header being number 0. -/
  record : Nat
  /-- The place after the line end of the record before it. -/
  origin : Csv.Position
  /-- The number of the field in the record, counted from 0. -/
  field : Nat
  /-- How many bytes of the field, from its front, are text. -/
  validLength : Nat
  deriving DecidableEq

/-- The sentence that reports a field that is not text. -/
def InvalidText.message (invalid : InvalidText) : String :=
  s!"CSV parse error: record {invalid.record} (line {invalid.origin.line}, " ++
  s!"field: {invalid.field}, byte: {invalid.origin.byte}): invalid utf-8: " ++
  s!"invalid UTF-8 in field {invalid.field} near byte index {invalid.validLength}"

/-- Why a table cannot be found or made. -/
inductive StorageError where
  /-- No table has the name. -/
  | tableNotFound (name : String)
  /-- No file has the path. -/
  | fileNotFound (path : String)
  /-- A column has the name of an earlier one. -/
  | duplicateColumn (table column : String)
  /-- A row, counted from 1, has a cell in a column the table does not have. -/
  | unknownColumn (table : String) (row : Nat) (column : String)
  /-- A field of the file is not text. -/
  | csv (invalid : InvalidText)
  deriving DecidableEq

/-- The sentence that reports an error. -/
def StorageError.message : StorageError → String
  | .tableNotFound name => s!"Table '{name}' not found. Use .load <path> [name]."
  | .fileNotFound path => s!"CSV file not found: {path}"
  | .duplicateColumn table column => s!"Duplicate column '{column}' in table '{table}'"
  | .unknownColumn table row column =>
      s!"Row {row} of table '{table}' has a value for unknown column '{column}'"
  | .csv invalid => s!"CSV error: {invalid.message}"

/-- The sentences that report what caused an error, the nearest cause first. -/
def StorageError.causes : StorageError → List String
  | .csv invalid => [invalid.message]
  | _ => []

end CsvQuery
