import CsvQuery.Csv.Reader
import CsvQuery.Proofs.Csv.Utf8
import CsvQuery.Proofs.Table.Forming
import Mathlib.Data.Set.List

/-!
# Rows and texts of records

The row of a record has its fields in the columns from the left, as far as both go
(`columns_rowOf`, `get?_rowOf_eq_some_iff`).  The fields are texts, and decoding stops at
the first one that is none: at the first record with such a field, and in it at the first
such field (`decodeRecords_of_haveTexts`, `decodeRecords_of_not_isText`).
-/

set_option autoImplicit false

namespace CsvQuery

namespace Csv

/-! ## The rows of records -/

/-- The columns with a cell are the first ones, as many as there are fields for. -/
theorem columns_rowOf (columns fields : List String) :
    (rowOf columns fields).columns = columns.take (min columns.length fields.length) := by
  rw [Row.columns, rowOf, List.zip_eq_zip_take_min, List.map_fst_zip]
  simp

theorem columns_rowOf_subset (columns fields : List String) :
    ∀ column ∈ (rowOf columns fields).columns, column ∈ columns := by
  intro column isIn
  rw [columns_rowOf] at isIn
  exact List.mem_of_mem_take isIn

/-- **The cell of a column is the field in its place.** -/
theorem get?_rowOf_eq_some_iff {columns : List String} (distinct : columns.Nodup)
    (fields : List String) {column value : String} :
    (rowOf columns fields).get? column = some value ↔
      ∃ place : Nat, columns[place]? = some column ∧ fields[place]? = some value := by
  induction columns generalizing fields with
  | nil => simp [rowOf, Row.get?]
  | cons first rest ih =>
      obtain ⟨notInRest, restDistinct⟩ := List.nodup_cons.1 distinct
      cases fields with
      | nil => simp [rowOf, Row.get?]
      | cons field others =>
          have restCell := ih restDistinct others
          simp only [rowOf, Row.get?, List.zip_cons_cons, List.lookup_cons] at restCell ⊢
          by_cases here : column = first
          · subst here
            have notBehind : ∀ place : Nat, rest[place]? ≠ some column := fun place found =>
              notInRest (List.mem_of_getElem? found)
            constructor
            · intro found
              exact ⟨0, rfl, by simpa using found⟩
            · rintro ⟨place, columnHere, valueHere⟩
              cases place with
              | zero => simpa using valueHere
              | succ place => exact absurd columnHere (notBehind place)
          · have notSame : (column == first) = false := by simpa using here
            simp only [notSame, restCell]
            constructor
            · rintro ⟨place, columnHere, valueHere⟩
              exact ⟨place + 1, columnHere, valueHere⟩
            · rintro ⟨place, columnHere, valueHere⟩
              cases place with
              | zero => exact absurd (Option.some.inj columnHere).symm here
              | succ place => exact ⟨place, columnHere, valueHere⟩

/-! ## The texts of records -/

theorem decodeFields_contents (index : Nat) (texts : List String) :
    decodeFields index (texts.map fun text => encodeUtf8 text.toList) = .ok texts := by
  induction texts generalizing index with
  | nil => rfl
  | cons text rest ih =>
      rw [List.map_cons, decodeFields, decodeUtf8_encodeUtf8]
      simp only [ih, String.ofList_toList]
      rfl

/-- The fields of records are the bytes of texts. -/
def HaveTexts (records : List Record) (texts : List (List String)) : Prop :=
  records.map Record.fields = texts.map fun fields => fields.map fun text => encodeUtf8 text.toList

theorem decodeRecords_of_haveTexts {records : List Record} {texts : List (List String)}
    (same : HaveTexts records texts) (index : Nat) : decodeRecords index records = .ok texts := by
  induction records generalizing texts index with
  | nil =>
      rw [HaveTexts, List.map_nil] at same
      rw [List.map_eq_nil_iff.1 same.symm]
      rfl
  | cons record rest ih =>
      obtain ⟨fields, others, rfl, here, behind⟩ := List.map_eq_cons_iff.1 same.symm
      rw [decodeRecords, ← here, decodeFields_contents]
      simp only [ih behind.symm]
      rfl

/-- The fields of a record are text. -/
def Record.IsText (record : Record) : Prop := ∀ field ∈ record.fields, Csv.IsText field

theorem exists_haveTexts {records : List Record} (allText : ∀ record ∈ records, record.IsText) :
    ∃ texts, HaveTexts records texts := by
  have inRange : records.map Record.fields ∈
      Set.range (List.map (List.map fun text : String => encodeUtf8 text.toList)) := by
    simp only [Set.range_list_map, Set.mem_ofPred_eq]
    refine List.forall_mem_map.2 fun record isIn field inRecord => ?_
    obtain ⟨text, rfl⟩ := allText record isIn field inRecord
    exact ⟨String.ofList text, congrArg encodeUtf8 String.toList_ofList⟩
  obtain ⟨texts, same⟩ := inRange
  exact ⟨texts, same.symm⟩

/-! ## The first field that is not text -/

theorem exists_longestText {bytes : List UInt8} (notText : ¬ IsText bytes) :
    ∃ length, LongestText bytes length := by
  cases decoded : decodeUtf8 bytes with
  | ok text => exact absurd (isText_iff.2 ⟨text, decoded⟩) notText
  | error length => exact ⟨length, (decodeUtf8_eq_error_iff.1 decoded).2⟩

section FirstInvalid

variable {before after : List (List UInt8)} {field : List UInt8} {validLength : Nat}

theorem decodeFields_of_not_isText (index : Nat) (beforeText : ∀ other ∈ before, IsText other)
    (notText : ¬ IsText field) (isLongest : LongestText field validLength) :
    decodeFields index (before ++ field :: after) =
      .error (index + before.length, validLength) := by
  induction before generalizing index with
  | nil =>
      rw [List.nil_append, decodeFields, decodeUtf8_eq_error_iff.2 ⟨notText, isLongest⟩]
      rfl
  | cons other before ih =>
      obtain ⟨otherText, restText⟩ := List.forall_mem_cons.1 beforeText
      obtain ⟨text, decoded⟩ := isText_iff.1 otherText
      rw [List.cons_append, decodeFields, decoded]
      simp only [ih (index + 1) restText, List.length_cons, Nat.add_right_comm index 1, Except.map,
        Nat.add_assoc]

/-- Decoding stops at the first field, of the first record, that is not text. -/
theorem decodeRecords_of_not_isText (index : Nat) {earlier later : List Record} {record : Record}
    (earlierText : ∀ other ∈ earlier, other.IsText)
    (isField : record.fields = before ++ field :: after)
    (beforeText : ∀ other ∈ before, IsText other) (notText : ¬ IsText field)
    (isLongest : LongestText field validLength) :
    decodeRecords index (earlier ++ record :: later) =
      .error {
        record := index + earlier.length, origin := record.origin
        field := before.length, validLength } := by
  induction earlier generalizing index with
  | nil =>
      rw [List.nil_append, decodeRecords, isField,
        decodeFields_of_not_isText 0 beforeText notText isLongest]
      simp
  | cons other earlier ih =>
      obtain ⟨otherText, restText⟩ := List.forall_mem_cons.1 earlierText
      obtain ⟨texts, same⟩ := exists_haveTexts (List.forall_mem_singleton.2 otherText)
      obtain ⟨fields, others, rfl, here, -⟩ := List.map_eq_cons_iff.1 same.symm
      rw [List.cons_append, decodeRecords, ← here, decodeFields_contents]
      simp only [ih (index + 1) restText, List.length_cons, Nat.add_right_comm index 1, Except.map,
        Nat.add_assoc]

end FirstInvalid

end Csv

end CsvQuery
