import CsvQuery.Catalog
import CsvQuery.Proofs.Csv.Rows
import CsvQuery.Proofs.Lists.FirstIn
import CsvQuery.Proofs.Table.Forming
import Mathlib.Data.List.Forall2

/-!
# Reading any bytes

A file of any bytes has records, and what reading makes of it is told by their fields.
If one of them is not text, the file is refused with the first such field, and this is so
before anything else, also where the field is dropped and where two columns have one name.
If they are all texts but two fields of the header are equal, it is refused with the first
one that repeats another.  In all other cases it is read as a table, and there is a row for
each record after the header, with a cell in as many columns from the left as the record
has fields for (`ReadsRecords`).  No row has a cell in an unknown column, and a file is
missing only where there is none (`Catalog.readTable_outcome`).
-/

set_option autoImplicit false

namespace CsvQuery

namespace Csv

/-- The fields of the header, which has none if there is no record at all. -/
def headerFields (records : List Record) : List (List UInt8) :=
  (records.map Record.fields).headD []

/-- The report of the first field that is not text: it is in the first record with such a
field, and it is the first such field there. -/
inductive FirstInvalid (records : List Record) (invalid : InvalidText) : Prop where
  | inRecord {earlier later : List Record} {record : Record} {before after : List (List UInt8)}
      {field : List UInt8} {validLength : Nat}
      (isRecord : records = earlier ++ record :: later)
      (earlierText : ∀ other ∈ earlier, other.IsText)
      (isField : record.fields = before ++ field :: after)
      (beforeText : ∀ other ∈ before, IsText other)
      (notText : ¬ IsText field)
      (isLongest : LongestText field validLength)
      (isReport : invalid = {
        record := earlier.length, origin := record.origin
        field := before.length, validLength })

/-- A row has the fields of a record in the columns from the left, as far as both go. -/
structure RowOfRecord (columns : List String) (row : Row) (record : Record) : Prop where
  /-- The columns with a cell are the first ones, as many as there are fields for. -/
  isSome_get?_iff : ∀ column, (row.get? column).isSome ↔
    column ∈ columns.take (min record.fields.length columns.length)
  /-- The cell of a column is the field in its place. -/
  get?_eq_some_iff : ∀ column value, row.get? column = some value ↔
    ∃ place : Nat, columns[place]? = some column ∧
      record.fields[place]? = some (encodeUtf8 value.toList)

/-- What reading makes of the records of a file, under the name its table gets. -/
structure ReadsRecords (name : String) (records : List Record)
    (outcome : Except StorageError Table) : Prop where
  /-- The file is refused for a field that is not text exactly with the first one. -/
  csv_iff : ∀ invalid, outcome = .error (.csv invalid) ↔ FirstInvalid records invalid
  /-- It is refused so exactly when some field of some record is not text. -/
  exists_csv_iff : (∃ invalid, outcome = .error (.csv invalid)) ↔
    ∃ record ∈ records, ∃ field ∈ record.fields, ¬ IsText field
  /-- It is refused for a repeated column exactly with the first field of the header that
  repeats another, and only if all fields are text. -/
  duplicate_iff : ∀ table column, outcome = .error (.duplicateColumn table column) ↔
    (∀ record ∈ records, record.IsText) ∧ table = name ∧
      FirstRepeat (headerFields records) (encodeUtf8 column.toList)
  /-- It is refused so exactly when all fields are text and two of the header are equal. -/
  exists_duplicate_iff : (∃ table column, outcome = .error (.duplicateColumn table column)) ↔
    (∀ record ∈ records, record.IsText) ∧ ¬ (headerFields records).Nodup
  /-- It is read as a table in all other cases. -/
  exists_ok_iff : (∃ table, outcome = .ok table) ↔
    (∀ record ∈ records, record.IsText) ∧ (headerFields records).Nodup
  /-- The table has the fields of the header as its columns, and a row for each record
  behind the header. -/
  ok : ∀ table, outcome = .ok table → table.name = name ∧
    table.columns.map (fun column => encodeUtf8 column.toList) = headerFields records ∧
    List.Forall₂ (RowOfRecord table.columns) table.rows records.tail

theorem exists_not_isText_iff {records : List Record} :
    (∃ record ∈ records, ∃ field ∈ record.fields, ¬ IsText field) ↔
      ¬ ∀ record ∈ records, record.IsText := by
  simp [Record.IsText]

/-- A file is refused for nothing else. -/
theorem ReadsRecords.error_cases {name : String} {records : List Record} {error : StorageError}
    (reads : ReadsRecords name records (.error error)) :
    (∃ invalid, error = .csv invalid) ∨ ∃ table column, error = .duplicateColumn table column := by
  by_cases allText : ∀ record ∈ records, record.IsText
  · by_cases distinct : (headerFields records).Nodup
    · obtain ⟨table, isTable⟩ := reads.exists_ok_iff.2 ⟨allText, distinct⟩
      cases isTable
    · obtain ⟨table, column, isError⟩ := reads.exists_duplicate_iff.2 ⟨allText, distinct⟩
      exact .inr ⟨table, column, Except.error.inj isError⟩
  · obtain ⟨invalid, isError⟩ := reads.exists_csv_iff.2 (exists_not_isText_iff.2 allText)
    exact .inl ⟨invalid, Except.error.inj isError⟩

/-! ## Fields that are not text -/

theorem decodeRecords_of_firstInvalid {records : List Record} {invalid : InvalidText}
    (isFirst : FirstInvalid records invalid) : decodeRecords 0 records = .error invalid := by
  obtain ⟨isRecord, earlierText, isField, beforeText, notText, isLongest, isReport⟩ := isFirst
  rw [isRecord, isReport,
    decodeRecords_of_not_isText 0 earlierText isField beforeText notText isLongest, Nat.zero_add]

theorem exists_firstInvalid {records : List Record}
    (someNot : ∃ record ∈ records, ∃ field ∈ record.fields, ¬ IsText field) :
    ∃ invalid, FirstInvalid records invalid := by
  have someRecord : ∃ record ∈ records, ¬ record.IsText := by simpa [Record.IsText] using someNot
  obtain ⟨record, earlier, later, isRecord, notText, earlierText⟩ := exists_firstIn_iff.2 someRecord
  have someField : ∃ field ∈ record.fields, ¬ IsText field := by simpa [Record.IsText] using notText
  obtain ⟨field, before, after, isField, fieldNotText, beforeText⟩ := exists_firstIn_iff.2 someField
  obtain ⟨validLength, isLongest⟩ := exists_longestText fieldNotText
  exact ⟨_, .inRecord isRecord (fun other isIn => not_not.1 (earlierText other isIn)) isField
    (fun other isIn => not_not.1 (beforeText other isIn)) fieldNotText isLongest rfl⟩

theorem FirstInvalid.exists_not_isText {records : List Record} {invalid : InvalidText}
    (isFirst : FirstInvalid records invalid) :
    ∃ record ∈ records, ∃ field ∈ record.fields, ¬ IsText field := by
  obtain ⟨isRecord, -, isField, -, notText, -, -⟩ := isFirst
  exact ⟨_, isRecord ▸ List.mem_append_right _ (List.mem_cons_self ..), _,
    isField ▸ List.mem_append_right _ (List.mem_cons_self ..), notText⟩

theorem readsRecords_of_firstInvalid (name : String) {records : List Record}
    {invalid : InvalidText} (isFirst : FirstInvalid records invalid) :
    ReadsRecords name records (.error (.csv invalid)) := by
  have someNot := isFirst.exists_not_isText
  have notAll := exists_not_isText_iff.1 someNot
  refine {
    csv_iff := fun other => ⟨?_, fun otherFirst => ?_⟩
    exists_csv_iff := iff_of_true ⟨invalid, rfl⟩ someNot
    duplicate_iff := fun table column => iff_of_false nofun fun both => notAll both.1
    exists_duplicate_iff := iff_of_false nofun fun both => notAll both.1
    exists_ok_iff := iff_of_false nofun fun both => notAll both.1
    ok := nofun }
  · rintro ⟨⟩
    exact isFirst
  · have same := decodeRecords_of_firstInvalid otherFirst
    rw [decodeRecords_of_firstInvalid isFirst] at same
    cases same
    rfl

/-! ## Fields that are text -/

theorem HaveTexts.isText {records : List Record} {texts : List (List String)}
    (same : HaveTexts records texts) : ∀ record ∈ records, record.IsText := by
  intro record isIn field inRecord
  have fieldsIn : record.fields ∈ records.map Record.fields := List.mem_map_of_mem isIn
  rw [same] at fieldsIn
  obtain ⟨fields, -, isFields⟩ := List.mem_map.1 fieldsIn
  rw [← isFields] at inRecord
  obtain ⟨text, -, rfl⟩ := List.mem_map.1 inRecord
  exact ⟨text.toList, rfl⟩

theorem HaveTexts.headerFields_eq {records : List Record} {texts : List (List String)}
    (same : HaveTexts records texts) :
    headerFields records = (texts.headD []).map fun text => encodeUtf8 text.toList := by
  rw [headerFields, same]
  cases texts <;> rfl

theorem tableOf_eq (name : String) (texts : List (List String)) :
    tableOf name texts =
      Table.ofRows name (texts.headD []) (texts.tail.map (rowOf (texts.headD []))) := by
  cases texts <;> rfl

theorem encodeUtf8_toList_injective :
    Function.Injective fun text : String => encodeUtf8 text.toList :=
  encodeUtf8_injective.comp fun _ _ => String.toList_injective

theorem rowOfRecord_rowOf {columns fields : List String} (distinct : columns.Nodup)
    {record : Record} (same : record.fields = fields.map fun text => encodeUtf8 text.toList) :
    RowOfRecord columns (rowOf columns fields) record := by
  refine ⟨fun column => ?_, fun column value => ?_⟩
  · rw [Row.isSome_get?_iff, columns_rowOf, same, List.length_map, Nat.min_comm]
  · rw [get?_rowOf_eq_some_iff distinct, same]
    simp only [List.getElem?_map, Option.map_eq_some_iff, encodeUtf8_toList_injective.eq_iff,
      exists_eq_right]

theorem HaveTexts.tail {records : List Record} {texts : List (List String)}
    (same : HaveTexts records texts) : HaveTexts records.tail texts.tail := by
  rw [HaveTexts, List.map_tail, List.map_tail, same]

theorem HaveTexts.forall₂_rowOfRecord {records : List Record} {texts : List (List String)}
    (same : HaveTexts records texts) {columns : List String} (distinct : columns.Nodup) :
    List.Forall₂ (RowOfRecord columns) (texts.map (rowOf columns)) records := by
  have fields : List.Forall₂ (· = ·) (records.map Record.fields)
      (texts.map fun fields => fields.map fun text => encodeUtf8 text.toList) := by
    rw [List.forall₂_eq_eq_eq]
    exact same
  rw [List.forall₂_map_left_iff, List.forall₂_map_right_iff] at fields
  exact List.forall₂_map_left_iff.2 (fields.flip.imp fun _ _ => rowOfRecord_rowOf distinct)

theorem HaveTexts.readsRecords_of_firstRepeat (name : String) {records : List Record}
    {texts : List (List String)} (same : HaveTexts records texts) {column : String}
    (isRepeated : FirstRepeat (texts.headD []) column) :
    ReadsRecords name records (.error (.duplicateColumn name column)) := by
  have header := same.headerFields_eq
  have notDistinct : ¬ (headerFields records).Nodup := by
    rw [header, List.nodup_map_iff encodeUtf8_toList_injective]
    exact exists_firstRepeat_iff.1 ⟨column, isRepeated⟩
  have allText := same.isText
  have noneNot := fun someNot => exists_not_isText_iff.1 someNot allText
  refine {
    csv_iff := fun invalid => iff_of_false nofun fun isFirst => noneNot isFirst.exists_not_isText
    exists_csv_iff := iff_of_false nofun noneNot
    duplicate_iff := fun table other => ?_
    exists_duplicate_iff := iff_of_true ⟨name, column, rfl⟩ ⟨allText, notDistinct⟩
    exists_ok_iff := iff_of_false nofun fun both => notDistinct both.2
    ok := nofun }
  rw [header, firstRepeat_map_iff encodeUtf8_toList_injective]
  constructor
  · rintro ⟨⟩
    exact ⟨allText, rfl, isRepeated⟩
  · rintro ⟨-, rfl, otherRepeated⟩
    rw [isRepeated.unique otherRepeated]

theorem HaveTexts.readsRecords_of_table {name : String} {records : List Record}
    {texts : List (List String)} (same : HaveTexts records texts) {table : Table}
    (sameName : table.name = name) (sameColumns : table.columns = texts.headD [])
    (sameRows : table.rows = texts.tail.map (rowOf (texts.headD []))) :
    ReadsRecords name records (.ok table) := by
  have header := same.headerFields_eq
  have distinct : (headerFields records).Nodup := by
    rw [header, List.nodup_map_iff encodeUtf8_toList_injective, ← sameColumns]
    exact table.columns_nodup
  have allText := same.isText
  have noneNot := fun someNot => exists_not_isText_iff.1 someNot allText
  have noRepeat : ∀ field, ¬ FirstRepeat (headerFields records) field :=
    fun field isRepeated => exists_firstRepeat_iff.1 ⟨field, isRepeated⟩ distinct
  refine {
    csv_iff := fun invalid => iff_of_false nofun fun isFirst => noneNot isFirst.exists_not_isText
    exists_csv_iff := iff_of_false nofun noneNot
    duplicate_iff := fun other column => iff_of_false nofun fun all => noRepeat _ all.2.2
    exists_duplicate_iff := iff_of_false nofun fun both => both.2 distinct
    exists_ok_iff := iff_of_true ⟨table, rfl⟩ ⟨allText, distinct⟩
    ok := ?_ }
  rintro _ ⟨⟩
  refine ⟨sameName, by rw [header, sameColumns], ?_⟩
  rw [sameRows, ← sameColumns]
  exact same.tail.forall₂_rowOfRecord table.columns_nodup

/-! ## Any records -/

/-- Reading makes of any bytes what their records tell. -/
theorem readsRecords_read (name : String) (bytes : List UInt8) :
    ReadsRecords name (records bytes) (read name bytes) := by
  rw [read]
  by_cases allText : ∀ record ∈ records bytes, record.IsText
  · obtain ⟨texts, same⟩ := exists_haveTexts allText
    rw [decodeRecords_of_haveTexts same]
    simp only [tableOf_eq]
    by_cases distinct : (texts.headD []).Nodup
    · have declared : ∀ row ∈ texts.tail.map (rowOf (texts.headD [])),
          ∀ column ∈ row.columns, column ∈ texts.headD [] :=
        List.forall_mem_map.2 fun fields _ => columns_rowOf_subset _ fields
      obtain ⟨table, accepted, sameName, sameColumns, sameRows⟩ :=
        Table.exists_ofRows name distinct declared
      rw [accepted]
      exact same.readsRecords_of_table sameName sameColumns sameRows
    · obtain ⟨column, isRepeated⟩ := exists_firstRepeat_iff.2 distinct
      rw [Table.ofRows_of_firstRepeat name isRepeated]
      exact same.readsRecords_of_firstRepeat name isRepeated
  · obtain ⟨invalid, isFirst⟩ := exists_firstInvalid (exists_not_isText_iff.2 allText)
    rw [decodeRecords_of_firstInvalid isFirst]
    exact readsRecords_of_firstInvalid name isFirst

end Csv

/-- **What reading makes of a file.**  It is missing exactly where there is none, and
otherwise its records tell what is read, whatever its bytes are. -/
theorem Catalog.readTable_outcome (files : Files) (path : String) (name : Option String) :
    (∀ missing, Catalog.readTable files path name = .error (.fileNotFound missing) ↔
      files.read? path = none ∧ missing = path) ∧
    (∀ table row column,
      Catalog.readTable files path name ≠ .error (.unknownColumn table row column)) ∧
    ∀ bytes, files.read? path = some bytes →
      Csv.ReadsRecords (name.getD (tableNameOf path)) (Csv.records bytes)
        (Catalog.readTable files path name) := by
  cases stored : files.read? path with
  | none =>
      have isMissing : Catalog.readTable files path name = .error (.fileNotFound path) := by
        rw [Catalog.readTable, stored]
      simp [isMissing, eq_comm]
  | some bytes =>
      have reads : Csv.ReadsRecords (name.getD (tableNameOf path)) (Csv.records bytes)
          (Catalog.readTable files path name) := by
        rw [Catalog.readTable, stored]
        exact Csv.readsRecords_read _ bytes
      refine ⟨fun missing => iff_of_false (fun isMissing => ?_) nofun,
        fun table row column isUnknown => ?_, ?_⟩
      · rw [isMissing] at reads
        rcases reads.error_cases with ⟨_, ⟨⟩⟩ | ⟨_, _, ⟨⟩⟩
      · rw [isUnknown] at reads
        rcases reads.error_cases with ⟨_, ⟨⟩⟩ | ⟨_, _, ⟨⟩⟩
      · rintro _ ⟨⟩
        exact reads

/-- A field that is dropped is not text, and it is reported before the repeated column. -/
theorem Catalog.readTable_outcome_late_invalid_field :
    ∃ (files : Files) (bytes : List UInt8),
      bytes = Csv.encodeUtf8 "a,a\n1,2,é".toList ++ [255, 10] ∧
      files.read? "t.csv" = some bytes ∧
      ¬ (Csv.headerFields (Csv.records bytes)).Nodup ∧
      Csv.ReadsRecords "t" (Csv.records bytes) (Catalog.readTable files "t.csv" none) ∧
      Catalog.readTable files "t.csv" none = .error (.csv {
        record := 1, origin := { line := 2, byte := 4 }, field := 2, validLength := 2 }) := by
  let bytes : List UInt8 := [97, 44, 97, 10, 49, 44, 50, 44, 195, 169, 255, 10]
  let files : Files := { entries := [("t.csv", bytes)] }
  have stored : files.read? "t.csv" = some bytes := by decide
  have reads := (Catalog.readTable_outcome files "t.csv" none).2.2 bytes stored
  have named : tableNameOf "t.csv" = "t" := by decide
  rw [Option.getD_none, named] at reads
  refine ⟨files, bytes, by decide, stored, by decide, reads, ?_⟩
  rw [Catalog.readTable, stored]
  rfl

end CsvQuery
