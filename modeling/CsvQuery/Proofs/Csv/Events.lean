import CsvQuery.Proofs.Csv.Rows

/-!
# The events of reading

Reading a file tells the log of every record with more fields than the header, and of
nothing else, until it comes to a record that is not text (`Csv.mem_readEvents_iff`).  So
no file is told of whose records all fit its header, whether it can be read or not.
-/

set_option autoImplicit false

namespace CsvQuery

namespace Csv

theorem isOk_decodeFields_iff (index : Nat) (fields : List (List UInt8)) :
    (decodeFields index fields).isOk = true ↔ ∀ field ∈ fields, IsText field := by
  induction fields generalizing index with
  | nil => simp [decodeFields, Except.isOk, Except.toBool]
  | cons field rest ih =>
      rw [decodeFields, List.forall_mem_cons, isText_iff, ← ih (index + 1)]
      rcases decodeUtf8 field with validLength | text
      · simp [Except.isOk, Except.toBool]
      · cases decodeFields (index + 1) rest <;> simp [Except.isOk, Except.toBool, Except.map]

theorem Record.isText_iff {record : Record} : record.isText = true ↔ record.IsText :=
  isOk_decodeFields_iff 0 record.fields

/-- An event tells of one of some records, the first of which has the number `row`: the
record and those in front of it are text, and it has more than `width` fields. -/
inductive TellsOf (name : String) (width row : Nat) (records : List Record) : Event → Prop
  | dropped {front behind : List Record} {record : Record}
      (isRecord : records = front ++ record :: behind)
      (frontText : ∀ other ∈ front, other.IsText) (recordText : record.IsText)
      (longer : width < record.fields.length) :
      TellsOf name width row records
        (.dropped name (row + front.length) (record.fields.length - width))

theorem tellsOf_cons_iff {name : String} {width row : Nat} {record : Record}
    {rest : List Record} {event : Event} :
    TellsOf name width row (record :: rest) event ↔
      record.IsText ∧
        (width < record.fields.length ∧
            event = .dropped name row (record.fields.length - width) ∨
          TellsOf name width (row + 1) rest event) := by
  constructor
  · rintro @⟨front, behind, found, isRecord, frontText, recordText, longer⟩
    cases front with
    | nil =>
        obtain ⟨rfl, rfl⟩ := List.cons.inj isRecord
        exact ⟨recordText, .inl ⟨longer, rfl⟩⟩
    | cons other front =>
        obtain ⟨rfl, isRest⟩ := List.cons.inj isRecord
        obtain ⟨firstText, othersText⟩ := List.forall_mem_cons.1 frontText
        have number : row + (record :: front).length = row + 1 + front.length := by
          rw [List.length_cons]
          omega
        rw [number]
        exact ⟨firstText, .inr (.dropped isRest othersText recordText longer)⟩
  · rintro ⟨firstText, ⟨longer, rfl⟩ |
      @⟨front, behind, found, isRest, othersText, recordText, longer⟩⟩
    · have inFront : record :: rest = [] ++ record :: rest := rfl
      exact .dropped inFront (List.forall_mem_nil _) firstText longer
    · have number : row + 1 + front.length = row + (record :: front).length := by
        rw [List.length_cons]
        omega
      rw [number]
      exact .dropped (congrArg (record :: ·) isRest)
        (List.forall_mem_cons.2 ⟨firstText, othersText⟩) recordText longer

/-- **The events of some records tell of those that are too long, up to the first that is
not text.** -/
theorem mem_recordsEvents_iff {name : String} {width row : Nat} {records : List Record}
    {event : Event} :
    event ∈ recordsEvents name width row records ↔ TellsOf name width row records event := by
  induction records generalizing row with
  | nil =>
      constructor
      · intro isIn
        cases isIn
      · rintro ⟨isRecord, -, -, -⟩
        simp at isRecord
  | cons record rest ih =>
      rw [tellsOf_cons_iff, ← ih, ← Record.isText_iff, recordsEvents]
      by_cases isText : record.isText = true
      · by_cases longer : width < record.fields.length <;> simp [recordEvents, isText, longer]
      · simp [isText]

/-- **Reading a file tells of the records that are longer than the header, and of nothing
else.** -/
theorem mem_readEvents_iff {name : String} {bytes : List UInt8} {event : Event} :
    event ∈ readEvents name bytes ↔
      ∃ header rest, records bytes = header :: rest ∧ header.IsText ∧
        TellsOf name header.fields.length 1 rest event := by
  rw [readEvents]
  cases records bytes with
  | nil => simp
  | cons header rest =>
      by_cases isText : header.isText = true
      · simp [isText, Record.isText_iff.1 isText, mem_recordsEvents_iff]
      · have notText : ¬ header.IsText := fun text => isText (Record.isText_iff.2 text)
        simp [isText, notText]

/-- The log hears nothing of a file whose records have no more fields than its header. -/
theorem readEvents_of_fitting {bytes : List UInt8}
    (fitting : ∀ header rest, records bytes = header :: rest →
      ∀ record ∈ rest, record.fields.length ≤ header.fields.length)
    (name : String) : readEvents name bytes = [] := by
  rw [List.eq_nil_iff_forall_not_mem]
  intro event isIn
  obtain ⟨header, rest, split, -, isRecord, -, -, longer⟩ := mem_readEvents_iff.1 isIn
  have fits := fitting header rest split _ (isRecord ▸ List.mem_append_right _ (.head _))
  omega

end Csv

end CsvQuery
