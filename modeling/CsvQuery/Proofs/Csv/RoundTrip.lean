import CsvQuery.Catalog
import CsvQuery.Proofs.Csv.Rows
import CsvQuery.Proofs.Csv.WrittenFile
import CsvQuery.Proofs.Table.Forming
import Mathlib.Data.List.Forall2

/-!
# Reading a written file

The table of a written file has the columns of its header and a row for each of its
records, with the fields of the record in the columns from the left, as far as both
go (`readTable_written`).  A short record leaves its last columns without a cell and
the surplus of a long one is dropped.
-/

set_option autoImplicit false

namespace CsvQuery

namespace Csv

/-- **The table of a written file.** -/
theorem read_written (file : WrittenFile) (name : String) :
    read name file.bytes =
      Table.ofRows name file.header.texts
        (file.data.map fun record => rowOf file.header.texts record.texts) := by
  have same : HaveTexts (records file.bytes) (file.records.map WrittenRecord.texts) := by
    rw [HaveTexts, file.map_fields_records, List.map_map]
    rfl
  rw [read, decodeRecords_of_haveTexts same]
  simp [WrittenFile.records, tableOf, Function.comp_def]

/-- A row has the fields of a record in the columns from the left and no other cell. -/
def HoldsRecord (columns : List String) (row : Row) (record : WrittenRecord) : Prop :=
  ∀ column value, row.get? column = some value ↔
    ∃ place : Nat, columns[place]? = some column ∧ record.texts[place]? = some value

theorem forall₂_holdsRecord {columns : List String} (distinct : columns.Nodup)
    (data : List WrittenRecord) :
    List.Forall₂ (HoldsRecord columns)
      (data.map fun record => rowOf columns record.texts) data := by
  refine List.forall₂_map_left_iff.2 (List.forall₂_same.2 fun record _ => ?_)
  intro column value
  exact get?_rowOf_eq_some_iff distinct record.texts

end Csv

/-- **A written file is read as the table it was written from.** -/
theorem Catalog.readTable_written {files : Files} {path : String} {file : Csv.WrittenFile}
    (name : String) (stored : files.read? path = some file.bytes)
    (distinct : file.header.texts.Nodup) :
    ∃ table, Catalog.readTable files path (some name) = .ok table ∧
      table.name = name ∧ table.columns = file.header.texts ∧
      List.Forall₂ (Csv.HoldsRecord file.header.texts) table.rows file.data := by
  have declared : ∀ row ∈ file.data.map (fun record => Csv.rowOf file.header.texts record.texts),
      ∀ column ∈ row.columns, column ∈ file.header.texts :=
    List.forall_mem_map.2 fun record _ => Csv.columns_rowOf_subset _ record.texts
  obtain ⟨table, accepted, sameName, sameColumns, sameRows⟩ :=
    Table.exists_ofRows name distinct declared
  refine ⟨table, ?_, sameName, sameColumns, ?_⟩
  · rw [Catalog.readTable, stored]
    exact (Csv.read_written file name).trans accepted
  · rw [sameRows]
    exact Csv.forall₂_holdsRecord distinct file.data

theorem Catalog.readTable_written_ragged :
    ∃ (files : Files) (file : Csv.WrittenFile),
      file.chars = "\ufeff\r\na,\"b,\"\"\"\n\"\"\r\n\n1,,x".toList ∧
        files.read? "t.csv" = some file.bytes ∧ file.header.texts.Nodup ∧
        ∃ table, Catalog.readTable files "t.csv" (some "t") = .ok table ∧
          table.name = "t" ∧ table.columns = file.header.texts ∧
          List.Forall₂ (Csv.HoldsRecord file.header.texts) table.rows file.data := by
  let bareField : (text : String) → (∀ c ∈ text.toList, c ∉ ['"', ',', '\n', '\r']) →
      Csv.WrittenField := fun text bare => { text, quoted := false, bare := fun _ => bare }
  let quotedField : String → Csv.WrittenField := fun text =>
    { text, quoted := true, bare := by simp }
  let header : Csv.WrittenRecord :=
    { fields := [bareField "a" (by simp), quotedField "b,\""]
      nonempty := List.cons_ne_nil _ _
      notBlank := by simp
      ending := ['\n']
      endingChars := by simp }
  let short : Csv.WrittenRecord :=
    { fields := [quotedField ""]
      nonempty := List.cons_ne_nil _ _
      notBlank := by
        rintro field ⟨⟩ unquoted
        cases unquoted
      ending := ['\r', '\n', '\n']
      endingChars := by simp }
  let long : Csv.WrittenRecord :=
    { fields := [bareField "1" (by simp), bareField "" (by simp), bareField "x" (by simp)]
      nonempty := List.cons_ne_nil _ _
      notBlank := by simp
      ending := []
      endingChars := by simp }
  let file : Csv.WrittenFile :=
    { mark := true
      lead := ['\r', '\n']
      leadChars := by simp
      header
      data := [short, long]
      endings := by simp [header, short]
      notMark := by
        rintro field ⟨⟩ -
        decide }
  have distinct : file.header.texts.Nodup := by decide
  have stored : Files.read? { entries := [("t.csv", file.bytes)] } "t.csv" = some file.bytes := by
    have isFile : (pathParts "t.csv").getLast?.any isPathName = true := by decide
    simp [Files.read?, isFile, samePath]
  exact ⟨_, file, by decide, stored, distinct, Catalog.readTable_written "t" stored distinct⟩

end CsvQuery
