import CsvQuery.Proofs.Csv.Splitting
import CsvQuery.Proofs.Csv.Utf8
import Mathlib.Data.List.Basic

/-!
# Written files

A file is written as a header and records, each with its own line end, perhaps
behind a byte-order mark and line ends.  Each field is written between quotation
marks, with the marks in it doubled, or as it stands if it has no character that
means something to the reader.  Splitting the bytes of a written file gives back the
fields it was written from (`WrittenFile.map_fields_records`).
-/

set_option autoImplicit false

namespace CsvQuery.Csv

open String (utf8EncodeChar)

/-! ## What can be written -/

/-- A text with each quotation mark in it written twice. -/
def doubleQuotes (text : List Char) : List Char :=
  text.flatMap fun c => if c = '"' then ['"', '"'] else [c]

/-- A field and the way it is written. -/
structure WrittenField where
  text : String
  quoted : Bool
  bare : quoted = false → ∀ c ∈ text.toList, c ∉ ['"', ',', '\n', '\r']

def WrittenField.chars (field : WrittenField) : List Char :=
  if field.quoted then '"' :: (doubleQuotes field.text.toList ++ ['"']) else field.text.toList

/-- The fields of a record and the line ends behind them.  A record does not consist
of an empty bare field: nothing would be written for it. -/
structure WrittenRecord where
  fields : List WrittenField
  nonempty : fields ≠ []
  notBlank : ∀ field, fields = [field] → field.quoted = false → field.text ≠ ""
  ending : List Char
  endingChars : ∀ c ∈ ending, c ∈ ['\n', '\r']

namespace WrittenRecord

def texts (record : WrittenRecord) : List String := record.fields.map WrittenField.text

def joined (record : WrittenRecord) : List Char :=
  [','].intercalate (record.fields.map WrittenField.chars)

def chars (record : WrittenRecord) : List Char := record.joined ++ record.ending

/-- The bytes of the fields, as the reader gets them. -/
def contents (record : WrittenRecord) : List (List UInt8) :=
  record.texts.map fun text => encodeUtf8 text.toList

end WrittenRecord

/-- A file: the last of its records may lack its line end, and its first field is not
taken for a byte-order mark. -/
structure WrittenFile where
  mark : Bool
  lead : List Char
  leadChars : ∀ c ∈ lead, c ∈ ['\n', '\r']
  header : WrittenRecord
  data : List WrittenRecord
  endings : ∀ record ∈ (header :: data).dropLast, record.ending ≠ []
  notMark : ∀ field ∈ header.fields.head?, field.quoted = false →
    field.text.toList.head? ≠ some '\ufeff'

namespace WrittenFile

def records (file : WrittenFile) : List WrittenRecord := file.header :: file.data

def chars (file : WrittenFile) : List Char :=
  (if file.mark then ['\ufeff'] else []) ++ (file.lead ++ file.records.flatMap WrittenRecord.chars)

def bytes (file : WrittenFile) : List UInt8 := encodeUtf8 file.chars

end WrittenFile

/-! ## Bytes of characters -/

theorem eq_ofNat_of_mem_utf8EncodeChar {c : Char} {byte : UInt8} (isIn : byte ∈ utf8EncodeChar c)
    (ascii : byte.toNat < 128) : c = Char.ofNat byte.toNat := by
  rw [← toNat_of_mem_utf8EncodeChar isIn ascii, Char.ofNat_toNat]

theorem isLineEnd_iff {byte : UInt8} : isLineEnd byte = true ↔ byte = 10 ∨ byte = 13 := by
  simp [isLineEnd]

theorem isLineEnd_eq_false_of_mem {c : Char} (notLineEnd : c ∉ ['\n', '\r']) :
    ∀ byte ∈ utf8EncodeChar c, isLineEnd byte = false := by
  intro byte isIn
  rw [← Bool.not_eq_true, isLineEnd_iff]
  rintro (rfl | rfl)
  · exact notLineEnd (by rw [eq_ofNat_of_mem_utf8EncodeChar isIn (by decide)]; decide)
  · exact notLineEnd (by rw [eq_ofNat_of_mem_utf8EncodeChar isIn (by decide)]; decide)

theorem quoteByte_not_mem {c : Char} (notQuote : c ≠ '"') : quoteByte ∉ utf8EncodeChar c := by
  intro isIn
  exact notQuote (eq_ofNat_of_mem_utf8EncodeChar isIn (by decide))

theorem isOrdinary_of_mem {c : Char} (bare : c ∉ ['"', ',', '\n', '\r']) :
    ∀ byte ∈ utf8EncodeChar c, IsOrdinary byte := by
  intro byte isIn
  simp only [List.mem_cons, List.not_mem_nil, or_false, not_or] at bare
  obtain ⟨notQuote, notComma, notFeed, notReturn⟩ := bare
  refine ⟨?_, ?_, isLineEnd_eq_false_of_mem (by simp [notFeed, notReturn]) byte isIn⟩
  · rintro rfl
    exact quoteByte_not_mem notQuote isIn
  · rintro rfl
    exact notComma (eq_ofNat_of_mem_utf8EncodeChar isIn (by decide))

theorem isLineEnd_of_mem_encodeUtf8 {text : List Char} (lineEnds : ∀ c ∈ text, c ∈ ['\n', '\r']) :
    ∀ byte ∈ encodeUtf8 text, isLineEnd byte = true := by
  intro byte isIn
  obtain ⟨c, inText, inChar⟩ := List.mem_flatMap.1 isIn
  have isOne := lineEnds c inText
  simp only [List.mem_cons, List.not_mem_nil, or_false] at isOne
  rcases isOne with rfl | rfl
  · rw [List.mem_singleton.1 (show byte ∈ [10] from inChar)]
    rfl
  · rw [List.mem_singleton.1 (show byte ∈ [13] from inChar)]
    rfl

/-! ## Splitting a written field -/

theorem found_doubleQuotes {fields : List (List UInt8)} {field : List UInt8} (text : List Char)
    (rest : List UInt8) :
    found .quoted fields field (encodeUtf8 (doubleQuotes text) ++ rest) =
      found .quoted fields ((encodeUtf8 text).reverse ++ field) rest := by
  induction text generalizing field with
  | nil => rfl
  | cons c text ih =>
      rw [doubleQuotes, List.flatMap_cons, ← doubleQuotes, encodeUtf8_append, List.append_assoc,
        encodeUtf8_cons]
      by_cases quote : c = '"'
      · rw [if_pos quote, quote]
        have twice : found .quoted fields field
            (encodeUtf8 ['"', '"'] ++ (encodeUtf8 (doubleQuotes text) ++ rest)) =
              found .quoted fields (quoteByte :: field) (encodeUtf8 (doubleQuotes text) ++ rest) :=
          (found_quoted_quote _).trans (found_closing_quote _)
        rw [twice, ih]
        simp [show utf8EncodeChar '"' = [quoteByte] from rfl]
      · rw [if_neg quote]
        have once : encodeUtf8 [c] = utf8EncodeChar c := List.flatMap_singleton ..
        rw [once, found_quoted_append (quoteByte_not_mem quote), ih]
        simp

/-- A written field is read up to the byte behind it. -/
theorem WrittenField.exists_found_chars (field : WrittenField) (done : List (List UInt8))
    (rest : List UInt8) :
    ∃ mode, mode ≠ .quoted ∧ mode ≠ .between ∧
      found .fieldStart done [] (encodeUtf8 field.chars ++ rest) =
        found mode done (encodeUtf8 field.text.toList).reverse rest := by
  rw [WrittenField.chars]
  split
  next =>
    refine ⟨.closing, by decide, by decide, ?_⟩
    have bytes : encodeUtf8 ('"' :: (doubleQuotes field.text.toList ++ ['"'])) ++ rest =
        quoteByte :: (encodeUtf8 (doubleQuotes field.text.toList) ++ quoteByte :: rest) := by
      rw [encodeUtf8_cons, encodeUtf8_append, List.append_assoc, List.append_assoc]
      rfl
    rw [bytes, found_start_quote, found_doubleQuotes, found_quoted_quote, List.append_nil]
  next unquoted =>
    have ordinary : ∀ byte ∈ encodeUtf8 field.text.toList, IsOrdinary byte := by
      intro byte isIn
      obtain ⟨c, inText, inChar⟩ := List.mem_flatMap.1 isIn
      exact isOrdinary_of_mem (field.bare (by simpa using unquoted) c inText) byte inChar
    cases bytes : encodeUtf8 field.text.toList with
    | nil => exact ⟨.fieldStart, by decide, by decide, rfl⟩
    | cons byte others =>
        rw [bytes] at ordinary
        refine ⟨.plain, by decide, by decide, ?_⟩
        rw [List.cons_append, found_ordinary (ordinary byte (List.mem_cons_self ..)) (.inl rfl),
          found_plain_append fun other isIn => ordinary other (List.mem_cons_of_mem _ isIn)]
        simp

/-! ## Splitting a written record -/

theorem found_fields {fields : List WrittenField} (nonempty : fields ≠ [])
    (done : List (List UInt8)) {rest : List UInt8}
    (ends : ∀ byte ∈ rest.head?, isLineEnd byte = true) :
    found .fieldStart done []
        (encodeUtf8 ([','].intercalate (fields.map WrittenField.chars)) ++ rest) =
      (done.reverse ++ fields.map fun field => encodeUtf8 field.text.toList) ::
        found .between [] [] rest := by
  induction fields generalizing done with
  | nil => exact absurd rfl nonempty
  | cons first others ih =>
      cases others with
      | nil =>
          obtain ⟨mode, outside, inRecord, read⟩ := first.exists_found_chars done rest
          rw [List.map_singleton, List.intercalate_singleton, read,
            found_endRecord outside inRecord ends]
          simp
      | cons second others =>
          have bytes : encodeUtf8
              ([','].intercalate ((first :: second :: others).map WrittenField.chars)) ++ rest =
                encodeUtf8 first.chars ++ commaByte ::
                  (encodeUtf8 ([','].intercalate ((second :: others).map WrittenField.chars)) ++
                    rest) := by
            rw [List.map_cons, List.map_cons, List.intercalate_cons_cons, encodeUtf8_append,
              encodeUtf8_append, List.append_assoc, List.append_assoc]
            rfl
          obtain ⟨mode, outside, -, read⟩ := first.exists_found_chars done _
          rw [bytes, read, found_comma outside, ih (List.cons_ne_nil _ _)]
          simp

/-- A written record starts with a quotation mark, a comma or the first character of
a bare field. -/
theorem WrittenRecord.exists_joined_eq_cons (record : WrittenRecord) :
    ∃ c rest, record.joined = c :: rest ∧
      (c = '"' ∨ c = ',' ∨ ∃ field ∈ record.fields.head?,
        field.quoted = false ∧ field.text.toList.head? = some c) := by
  obtain ⟨fields, nonempty, notBlank, -, -⟩ := record
  rw [WrittenRecord.joined]
  cases fields with
  | nil => exact absurd rfl nonempty
  | cons first others =>
      obtain ⟨behind, split, startsComma⟩ : ∃ behind,
          [','].intercalate ((first :: others).map WrittenField.chars) = first.chars ++ behind ∧
            (others ≠ [] → ∃ rest, behind = ',' :: rest) := by
        cases others with
        | nil => exact ⟨[], by simp, fun others => absurd rfl others⟩
        | cons second others =>
            exact ⟨',' :: [','].intercalate ((second :: others).map WrittenField.chars),
              by simp [List.intercalate_cons_cons], fun _ => ⟨_, rfl⟩⟩
      rw [split, WrittenField.chars]
      by_cases quoted : first.quoted = true
      · rw [if_pos quoted]
        exact ⟨'"', _, rfl, .inl rfl⟩
      · rw [if_neg quoted]
        have unquoted : first.quoted = false := by simpa using quoted
        cases text : first.text.toList with
        | nil =>
            have noText : first.text = "" := by
              rw [← String.ofList_toList (s := first.text), text]
            have others : others ≠ [] := by
              rintro rfl
              exact notBlank first rfl unquoted noText
            obtain ⟨rest, behindSplit⟩ := startsComma others
            exact ⟨',', rest, behindSplit, .inr (.inl rfl)⟩
        | cons c rest =>
            exact ⟨c, _, rfl, .inr (.inr ⟨first, rfl, unquoted, by rw [text]; rfl⟩)⟩

theorem WrittenRecord.exists_chars_eq_cons (record : WrittenRecord) :
    ∃ c rest, record.chars = c :: rest ∧ c ∉ ['\n', '\r'] := by
  obtain ⟨c, rest, joined, start⟩ := record.exists_joined_eq_cons
  refine ⟨c, rest ++ record.ending, by rw [WrittenRecord.chars, joined]; rfl, ?_⟩
  rcases start with rfl | rfl | ⟨field, -, unquoted, isFirst⟩
  · decide
  · decide
  · have bare := field.bare unquoted c (List.mem_of_mem_head? isFirst)
    simp only [List.mem_cons, List.not_mem_nil, or_false, not_or] at bare ⊢
    exact bare.2.2

/-- **A written record is found with the fields it was written from.** -/
theorem WrittenRecord.found_chars (record : WrittenRecord) {rest : List UInt8}
    (ends : record.ending = [] → rest = []) :
    found .between [] [] (encodeUtf8 record.chars ++ rest) =
      record.contents :: found .between [] [] rest := by
  have endingEnds := isLineEnd_of_mem_encodeUtf8 record.endingChars
  have endsHere : ∀ byte ∈ (encodeUtf8 record.ending ++ rest).head?, isLineEnd byte = true := by
    intro byte isFirst
    by_cases noEnding : record.ending = []
    · rw [noEnding, ends noEnding] at isFirst
      cases isFirst
    · rw [List.head?_append_of_ne_nil _ (mt encodeUtf8_eq_nil_iff.1 noEnding)] at isFirst
      exact endingEnds byte (List.mem_of_mem_head? isFirst)
  have startsRecord : found .between [] [] (encodeUtf8 record.chars ++ rest) =
      found .fieldStart [] [] (encodeUtf8 record.chars ++ rest) := by
    obtain ⟨c, others, chars, notLineEnd⟩ := record.exists_chars_eq_cons
    rw [chars, encodeUtf8_cons]
    cases bytes : utf8EncodeChar c with
    | nil => exact absurd bytes (utf8EncodeChar_ne_nil c)
    | cons byte more =>
        refine found_between (isLineEnd_eq_false_of_mem notLineEnd byte ?_) _
        rw [bytes]
        exact List.mem_cons_self ..
  rw [startsRecord, WrittenRecord.chars, encodeUtf8_append, List.append_assoc,
    WrittenRecord.joined, found_fields record.nonempty [] endsHere,
    found_between_append endingEnds]
  simp [WrittenRecord.contents, WrittenRecord.texts]

/-! ## Splitting a written file -/

theorem found_records {records : List WrittenRecord}
    (endings : ∀ record ∈ records.dropLast, record.ending ≠ []) :
    found .between [] [] (encodeUtf8 (records.flatMap WrittenRecord.chars)) =
      records.map WrittenRecord.contents := by
  induction records with
  | nil => rfl
  | cons first others ih =>
      have othersEnd : ∀ record ∈ others.dropLast, record.ending ≠ [] := by
        intro record isIn
        cases others with
        | nil => cases isIn
        | cons second others => exact endings record (List.mem_cons_of_mem _ isIn)
      have firstEnds : first.ending = [] →
          encodeUtf8 (others.flatMap WrittenRecord.chars) = [] := by
        intro noEnding
        cases others with
        | nil => rfl
        | cons second others => exact absurd noEnding (endings first (List.mem_cons_self ..))
      rw [List.flatMap_cons, encodeUtf8_append, first.found_chars firstEnds, ih othersEnd]
      rfl

/-- The bytes of a text start with a byte-order mark only if the text does. -/
theorem eq_mark_of_encodeUtf8_cons {c : Char} {text : List Char} {rest : List UInt8}
    (bytes : encodeUtf8 (c :: text) = 0xef :: 0xbb :: 0xbf :: rest) : c = '\ufeff' := by
  have isFront := frontChar?_utf8EncodeChar_append c (encodeUtf8 text)
  rw [← encodeUtf8_cons, bytes] at isFront
  have isMark := frontChar?_utf8EncodeChar_append '\ufeff' rest
  exact Option.some.inj (isFront.symm.trans isMark)

namespace WrittenFile

variable (file : WrittenFile)

theorem exists_unmarked_eq_cons :
    ∃ c rest, file.lead ++ file.records.flatMap WrittenRecord.chars = c :: rest ∧
      c ≠ '\ufeff' := by
  cases lead : file.lead with
  | nil =>
      obtain ⟨c, rest, joined, start⟩ := file.header.exists_joined_eq_cons
      refine ⟨c, _, by rw [records, List.flatMap_cons, WrittenRecord.chars, joined]; rfl, ?_⟩
      rcases start with rfl | rfl | ⟨field, isFirst, unquoted, startsField⟩
      · decide
      · decide
      · rintro rfl
        exact file.notMark field isFirst unquoted startsField
  | cons c lead' =>
      refine ⟨c, _, rfl, ?_⟩
      rintro rfl
      exact absurd (file.leadChars '\ufeff' (by rw [lead]; exact List.mem_cons_self ..)) (by decide)

/-- **The records of a written file have the fields it was written from.** -/
theorem map_fields_records :
    (Csv.records file.bytes).map Record.fields = file.records.map WrittenRecord.contents := by
  have body : found .between [] []
      (encodeUtf8 (file.lead ++ file.records.flatMap WrittenRecord.chars)) =
        file.records.map WrittenRecord.contents := by
    rw [encodeUtf8_append, found_between_append (isLineEnd_of_mem_encodeUtf8 file.leadChars)]
    exact found_records file.endings
  rw [bytes, chars]
  by_cases mark : file.mark = true
  · rw [if_pos mark, ← body]
    exact State.map_fields_run (State.start 3) _
  · rw [if_neg mark, List.nil_append, ← body]
    obtain ⟨c, rest, split, notMark⟩ := file.exists_unmarked_eq_cons
    rw [Csv.records]
    · exact State.map_fields_run (State.start 0) _
    · intro behind marked
      rw [split] at marked
      exact notMark (eq_mark_of_encodeUtf8_cons marked)

end WrittenFile

end CsvQuery.Csv
