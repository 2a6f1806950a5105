/-!
# Splitting a file into records

A file is a sequence of records of fields, separated by commas and ended by line
ends.  A line end is a carriage return, a line feed or both.  A field that begins
with a quotation mark runs to the closing one, and a doubled quotation mark inside
it stands for one; what follows the closing mark up to the next comma or line end
is added to the field as it is.  In any other field a quotation mark is an
ordinary byte.  Line ends in front of a record are skipped, so there are no empty
records, and the end of the file ends a record that has begun.

The splitting is a machine with five modes that reads one byte at a time.  It also
keeps the place where the search for the current record began, before any skipped
line ends, because errors are reported there.
-/

namespace CsvQuery.Csv

set_option autoImplicit false

/-- A place in a file. -/
structure Position where
  /-- The line, counted from 1 by line feeds. -/
  line : Nat
  /-- The number of bytes in front of the place. -/
  byte : Nat
  deriving DecidableEq

/-- The place after a byte. -/
def Position.after (position : Position) (byte : UInt8) : Position where
  line := if byte = 10 then position.line + 1 else position.line
  byte := position.byte + 1

/-- A record. -/
structure Record where
  /-- The place after the line end of the record before it. -/
  origin : Position
  /-- The bytes of the fields. -/
  fields : List (List UInt8)
  deriving DecidableEq

/-- What the machine is doing. -/
inductive Mode where
  /-- It is in front of a record. -/
  | between
  /-- It is in front of a field, after a comma. -/
  | fieldStart
  /-- It is in a field, where a quotation mark is an ordinary byte. -/
  | plain
  /-- It is between quotation marks. -/
  | quoted
  /-- It has read a quotation mark that closes a field or is the first of two. -/
  | closing
  deriving DecidableEq

/-- The state of the machine. -/
structure State where
  /-- What it is doing. -/
  mode : Mode
  /-- The place where the search for the current record began. -/
  origin : Position
  /-- The place in front of the next byte. -/
  here : Position
  /-- The finished fields of the current record, the last one first. -/
  fields : List (List UInt8)
  /-- The bytes of the current field, the last one first. -/
  field : List UInt8
  deriving DecidableEq

/-- The quotation mark. -/
def quoteByte : UInt8 := 34

/-- The comma. -/
def commaByte : UInt8 := 44

/-- Whether a byte ends a line. -/
def isLineEnd (byte : UInt8) : Bool := byte == 10 || byte == 13

/-- The record that ends in a state. -/
def State.record (state : State) : Record where
  origin := state.origin
  fields := (state.field.reverse :: state.fields).reverse

/-- The state after a byte that is part of the current field. -/
def State.keep (state : State) (mode : Mode) (byte : UInt8) : State :=
  { state with mode, field := byte :: state.field, here := state.here.after byte }

/-- The state after a byte that is not part of a field. -/
def State.skip (state : State) (mode : Mode) (byte : UInt8) : State :=
  { state with mode, here := state.here.after byte }

/-- The state after the comma that ends the current field. -/
def State.endField (state : State) : State :=
  { state with
    mode := .fieldStart
    fields := state.field.reverse :: state.fields
    field := []
    here := state.here.after commaByte }

/-- The state after the byte that ends the current record. -/
def State.endRecord (state : State) (byte : UInt8) : State :=
  { mode := .between
    origin := state.here.after byte
    here := state.here.after byte
    fields := []
    field := [] }

/-- One step outside quotation marks: the byte ends the field or the record, or
belongs to the field. -/
def State.stepPlain (state : State) (byte : UInt8) : State × Option Record :=
  if byte == commaByte then (state.endField, none)
  else if isLineEnd byte then (state.endRecord byte, some state.record)
  else (state.keep .plain byte, none)

/-- One step in front of a field. -/
def State.stepStart (state : State) (byte : UInt8) : State × Option Record :=
  if byte == quoteByte then (state.skip .quoted byte, none) else state.stepPlain byte

/-- One step of the machine: the state after a byte, and the record it ends. -/
def State.step (state : State) (byte : UInt8) : State × Option Record :=
  match state.mode with
  | .between =>
      if isLineEnd byte then (state.skip .between byte, none) else state.stepStart byte
  | .fieldStart => state.stepStart byte
  | .plain => state.stepPlain byte
  | .quoted =>
      if byte == quoteByte then (state.skip .closing byte, none)
      else (state.keep .quoted byte, none)
  | .closing =>
      if byte == quoteByte then (state.keep .quoted byte, none) else state.stepPlain byte

/-- The records the machine finds in the rest of a file. -/
def State.run (state : State) : List UInt8 → List Record
  | [] => if state.mode = .between then [] else [state.record]
  | byte :: rest =>
      match state.step byte with
      | (next, some record) => record :: next.run rest
      | (next, none) => next.run rest

/-- The machine in front of the first record, after the given number of bytes. -/
def State.start (passed : Nat) : State where
  mode := .between
  origin := { line := 1, byte := 0 }
  here := { line := 1, byte := passed }
  fields := []
  field := []

/-- The records of a file.  A byte-order mark at its start is passed over. -/
def records : List UInt8 → List Record
  | 0xef :: 0xbb :: 0xbf :: rest => (State.start 3).run rest
  | bytes => (State.start 0).run bytes

end CsvQuery.Csv
