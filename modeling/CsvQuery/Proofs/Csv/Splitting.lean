import CsvQuery.Csv.Record

/-!
# Splitting without places

The places that the machine keeps do not decide what it reads, so the fields of the
records it finds depend on its mode and on the fields at hand alone
(`State.map_fields_run`).  What one byte does is then an equation between the fields found
in front of it and behind it, one for each kind of byte.  A complete record is found
at a line end and at the end of the file alike (`found_endRecord`).
-/

set_option autoImplicit false

namespace CsvQuery.Csv

/-- The machine in a given mode with given fields at hand, at the front of a file. -/
def State.holding (mode : Mode) (fields : List (List UInt8)) (field : List UInt8) : State :=
  { State.start 0 with mode, fields, field }

/-- The fields of the records found in the rest of a file. -/
def found (mode : Mode) (fields : List (List UInt8)) (field bytes : List UInt8) :
    List (List (List UInt8)) :=
  ((State.holding mode fields field).run bytes).map Record.fields

/-! ## Places do not matter -/

/-- Two states that differ in their places only. -/
structure SameContent (first second : State) : Prop where
  mode : first.mode = second.mode
  fields : first.fields = second.fields
  field : first.field = second.field

theorem State.map_fields_run_cons (state : State) (byte : UInt8) (rest : List UInt8) :
    (state.run (byte :: rest)).map Record.fields =
      ((state.step byte).2.map Record.fields).toList ++
        ((state.step byte).1.run rest).map Record.fields := by
  rw [State.run]
  obtain ⟨next, record⟩ := state.step byte
  cases record <;> rfl

namespace SameContent

variable {first second : State} (same : SameContent first second)
include same

theorem record : first.record.fields = second.record.fields := by
  simp only [State.record, same.field, same.fields]

/-- The steps of two states that differ in their places do so too. -/
theorem stepPlain (byte : UInt8) :
    SameContent (first.stepPlain byte).1 (second.stepPlain byte).1 ∧
      (first.stepPlain byte).2.map Record.fields = (second.stepPlain byte).2.map Record.fields := by
  obtain ⟨mode, fields, field⟩ := same
  simp only [State.stepPlain]
  split
  · exact ⟨⟨rfl, by simp [State.endField, fields, field], rfl⟩, rfl⟩
  · split
    · exact ⟨⟨rfl, rfl, rfl⟩, congrArg some (SameContent.record ⟨mode, fields, field⟩)⟩
    · exact ⟨⟨rfl, fields, by simp [State.keep, field]⟩, rfl⟩

theorem stepStart (byte : UInt8) :
    SameContent (first.stepStart byte).1 (second.stepStart byte).1 ∧
      (first.stepStart byte).2.map Record.fields = (second.stepStart byte).2.map Record.fields := by
  simp only [State.stepStart]
  split
  · exact ⟨⟨rfl, same.fields, same.field⟩, rfl⟩
  · exact same.stepPlain byte

theorem step (byte : UInt8) :
    SameContent (first.step byte).1 (second.step byte).1 ∧
      (first.step byte).2.map Record.fields = (second.step byte).2.map Record.fields := by
  have keep : SameContent (first.keep .quoted byte) (second.keep .quoted byte) :=
    ⟨rfl, same.fields, congrArg (byte :: ·) same.field⟩
  have skip : ∀ mode, SameContent (first.skip mode byte) (second.skip mode byte) :=
    fun _ => ⟨rfl, same.fields, same.field⟩
  simp only [State.step, same.mode]
  cases second.mode with
  | between =>
      dsimp only
      split
      · exact ⟨skip .between, rfl⟩
      · exact same.stepStart byte
  | fieldStart => exact same.stepStart byte
  | plain => exact same.stepPlain byte
  | quoted =>
      dsimp only
      split
      · exact ⟨skip .closing, rfl⟩
      · exact ⟨keep, rfl⟩
  | closing =>
      dsimp only
      split
      · exact ⟨keep, rfl⟩
      · exact same.stepPlain byte

theorem map_fields_run (bytes : List UInt8) :
    (first.run bytes).map Record.fields = (second.run bytes).map Record.fields := by
  induction bytes generalizing first second with
  | nil =>
      simp only [State.run, same.mode]
      split
      · rfl
      · exact congrArg (fun fields => [fields]) same.record
  | cons byte rest ih =>
      obtain ⟨sameNext, sameRecord⟩ := same.step byte
      rw [State.map_fields_run_cons, State.map_fields_run_cons, sameRecord, ih sameNext]

end SameContent

/-- **The fields that are found do not depend on places.** -/
theorem State.map_fields_run (state : State) (bytes : List UInt8) :
    (state.run bytes).map Record.fields = found state.mode state.fields state.field bytes := by
  have same : SameContent state (State.holding state.mode state.fields state.field) :=
    ⟨rfl, rfl, rfl⟩
  exact same.map_fields_run bytes

/-! ## What one byte does -/

section Bytes

variable {mode : Mode} {fields : List (List UInt8)} {field : List UInt8}

theorem found_nil (inRecord : mode ≠ .between) :
    found mode fields field [] = [(field.reverse :: fields).reverse] := by
  have holds : (State.holding mode fields field).mode ≠ .between := inRecord
  rw [found, State.run, if_neg holds]
  rfl

theorem found_cons (byte : UInt8) (rest : List UInt8) :
    found mode fields field (byte :: rest) =
      (((State.holding mode fields field).step byte).2.map Record.fields).toList ++
        found ((State.holding mode fields field).step byte).1.mode
          ((State.holding mode fields field).step byte).1.fields
          ((State.holding mode fields field).step byte).1.field rest := by
  rw [found, State.map_fields_run_cons, State.map_fields_run]

theorem found_quoted_quote (rest : List UInt8) :
    found .quoted fields field (quoteByte :: rest) = found .closing fields field rest := by
  rw [found_cons]
  rfl

theorem found_quoted_other {byte : UInt8} (other : byte ≠ quoteByte) (rest : List UInt8) :
    found .quoted fields field (byte :: rest) = found .quoted fields (byte :: field) rest := by
  rw [found_cons]
  simp [State.holding, State.step, State.keep, other]

theorem found_closing_quote (rest : List UInt8) :
    found .closing fields field (quoteByte :: rest) =
      found .quoted fields (quoteByte :: field) rest := by
  rw [found_cons]
  rfl

theorem found_start_quote (rest : List UInt8) :
    found .fieldStart fields field (quoteByte :: rest) = found .quoted fields field rest := by
  rw [found_cons]
  rfl

theorem found_comma (outside : mode ≠ .quoted) (rest : List UInt8) :
    found mode fields field (commaByte :: rest) =
      found .fieldStart (field.reverse :: fields) [] rest := by
  rw [found_cons]
  cases mode with
  | quoted => exact absurd rfl outside
  | _ => rfl

/-- A byte that is neither a quotation mark nor a comma nor part of a line end. -/
structure IsOrdinary (byte : UInt8) : Prop where
  notQuote : byte ≠ quoteByte
  notComma : byte ≠ commaByte
  notLineEnd : isLineEnd byte = false

theorem found_ordinary {byte : UInt8} (ordinary : IsOrdinary byte)
    (unquoted : mode = .fieldStart ∨ mode = .plain) (rest : List UInt8) :
    found mode fields field (byte :: rest) = found .plain fields (byte :: field) rest := by
  obtain ⟨notQuote, notComma, notLineEnd⟩ := ordinary
  rw [found_cons]
  rcases unquoted with rfl | rfl <;>
    simp [State.holding, State.step, State.stepStart, State.stepPlain, State.keep, notQuote,
      notComma, notLineEnd]

/-- A byte that does not end a line begins a record as it begins a later field. -/
theorem found_between {byte : UInt8} (notLineEnd : isLineEnd byte = false) (rest : List UInt8) :
    found .between fields field (byte :: rest) = found .fieldStart fields field (byte :: rest) := by
  rw [found_cons, found_cons]
  simp [State.holding, State.step, State.stepStart, State.stepPlain, State.keep, State.skip,
    State.endField, notLineEnd]

theorem found_between_lineEnd {byte : UInt8} (lineEnd : isLineEnd byte = true)
    (rest : List UInt8) :
    found .between fields field (byte :: rest) = found .between fields field rest := by
  rw [found_cons]
  simp [State.holding, State.step, State.skip, lineEnd]

theorem found_lineEnd (outside : mode ≠ .quoted) (inRecord : mode ≠ .between) {byte : UInt8}
    (lineEnd : isLineEnd byte = true) (rest : List UInt8) :
    found mode fields field (byte :: rest) =
      (field.reverse :: fields).reverse :: found .between [] [] rest := by
  have notComma : byte ≠ commaByte := by
    rintro rfl
    cases lineEnd
  have notQuote : byte ≠ quoteByte := by
    rintro rfl
    cases lineEnd
  rw [found_cons]
  cases mode with
  | between => exact absurd rfl inRecord
  | quoted => exact absurd rfl outside
  | _ =>
      simp [State.holding, State.step, State.stepStart, State.stepPlain, State.endRecord,
        State.record, notComma, notQuote, lineEnd]

/-- A record is complete at a line end and at the end of the file. -/
theorem found_endRecord (outside : mode ≠ .quoted) (inRecord : mode ≠ .between)
    {rest : List UInt8} (ends : ∀ byte ∈ rest.head?, isLineEnd byte = true) :
    found mode fields field rest =
      (field.reverse :: fields).reverse :: found .between [] [] rest := by
  cases rest with
  | nil => exact found_nil inRecord
  | cons byte rest =>
      have lineEnd := ends byte rfl
      rw [found_lineEnd outside inRecord lineEnd, found_between_lineEnd lineEnd]

/-! ## What a run of bytes does -/

theorem found_plain_append {bytes : List UInt8} (ordinary : ∀ byte ∈ bytes, IsOrdinary byte)
    (rest : List UInt8) :
    found .plain fields field (bytes ++ rest) =
      found .plain fields (bytes.reverse ++ field) rest := by
  induction bytes generalizing field with
  | nil => rfl
  | cons byte bytes ih =>
      rw [List.cons_append, found_ordinary (ordinary byte (List.mem_cons_self ..)) (.inr rfl),
        ih fun other isIn => ordinary other (List.mem_cons_of_mem _ isIn)]
      simp

theorem found_quoted_append {bytes : List UInt8} (noQuote : quoteByte ∉ bytes)
    (rest : List UInt8) :
    found .quoted fields field (bytes ++ rest) =
      found .quoted fields (bytes.reverse ++ field) rest := by
  induction bytes generalizing field with
  | nil => rfl
  | cons byte bytes ih =>
      obtain ⟨notQuote, restNoQuote⟩ := List.ne_and_not_mem_of_not_mem_cons noQuote
      rw [List.cons_append, found_quoted_other notQuote.symm, ih restNoQuote]
      simp

theorem found_between_append {bytes : List UInt8}
    (lineEnds : ∀ byte ∈ bytes, isLineEnd byte = true) (rest : List UInt8) :
    found .between fields field (bytes ++ rest) = found .between fields field rest := by
  induction bytes with
  | nil => rfl
  | cons byte bytes ih =>
      rw [List.cons_append, found_between_lineEnd (lineEnds byte (List.mem_cons_self ..)),
        ih fun other isIn => lineEnds other (List.mem_cons_of_mem _ isIn)]

end Bytes

end CsvQuery.Csv
