import CsvQuery.Csv.Utf8
import CsvQuery.Event
import CsvQuery.Table

/-!
# Reading a table from a file

The first record of a file names the columns and every further record is a row.
A record with fewer fields than there are columns leaves its last cells absent,
and fields beyond the last column are dropped, which is an event.  All fields must be
text, dropped ones included, and this is checked before the columns are: record by
record, so the events of the records in front of a field that is not text come about.
-/

namespace CsvQuery.Csv

set_option autoImplicit false

/-- The texts of the fields of a record, or the first field that is not text; the
first field has the number `index`. -/
def decodeFields (index : Nat) : List (List UInt8) → Except (Nat × Nat) (List String)
  | [] => .ok []
  | field :: rest =>
      match decodeUtf8 field with
      | .error validLength => .error (index, validLength)
      | .ok text => (decodeFields (index + 1) rest).map (text :: ·)

/-- The texts of all records, or the first field that is not text; the first
record has the number `index`. -/
def decodeRecords (index : Nat) : List Record → Except InvalidText (List (List String))
  | [] => .ok []
  | record :: rest =>
      match decodeFields 0 record.fields with
      | .error (field, validLength) =>
        .error { record := index, origin := record.origin, field, validLength }
      | .ok texts => (decodeRecords (index + 1) rest).map (texts :: ·)

/-- The row of a record: its fields go to the columns in order. -/
def rowOf (columns fields : List String) : Row := { cells := columns.zip fields }

/-- The table of a header and the records after it. -/
def tableOf (name : String) : List (List String) → Except StorageError Table
  | [] => Table.ofRows name [] []
  | header :: rest => Table.ofRows name header (rest.map (rowOf header))

/-- The table a file holds. -/
def read (name : String) (bytes : List UInt8) : Except StorageError Table :=
  match decodeRecords 0 (records bytes) with
  | .error invalid => .error (.csv invalid)
  | .ok texts => tableOf name texts

/-- Whether all fields of a record are text. -/
def Record.isText (record : Record) : Bool := (decodeFields 0 record.fields).isOk

/-- The events of a record after a header with `width` fields. -/
def recordEvents (name : String) (width row : Nat) (record : Record) : List Event :=
  if width < record.fields.length then [.dropped name row (record.fields.length - width)]
  else []

/-- The events of the records after a header with `width` fields, up to the first that is
not text; the first record has the number `row`. -/
def recordsEvents (name : String) (width row : Nat) : List Record → List Event
  | [] => []
  | record :: rest =>
      if record.isText then
        recordEvents name width row record ++ recordsEvents name width (row + 1) rest
      else []

/-- The events of reading the table a file holds. -/
def readEvents (name : String) (bytes : List UInt8) : List Event :=
  match records bytes with
  | [] => []
  | header :: rest =>
      if header.isText then recordsEvents name header.fields.length 1 rest else []

end CsvQuery.Csv
