import CsvQuery.Proofs.Evaluation.Failing
import CsvQuery.Proofs.ResultSet.JsonReader
import CsvQuery.ResultSet.Format

/-!
# Reading a result that was written as JSON

What is written for a string, a scalar or an array is read as that value again, whatever
stands behind it; only a number must not be followed by more of a numeral, and behind a
value in an array there is always a comma or the end of a line.  An array passes this
on from its elements (`ReadsBack.array`), so a result set is read as it was written
(`resultSet?_resultSet`), as long as it holds no binary64 number.  No answer of a table
holds one (`ResultSet.isPlain_of_evaluate`).
-/

set_option autoImplicit false

namespace CsvQuery

open CsvQuery.Text

/-- Whether a scalar is a binary64 number. -/
def Scalar.isFloat : Scalar → Bool
  | .float _ => true
  | _ => false

/-- A result set whose values are no value, whole numbers and texts. -/
def ResultSet.IsPlain (result : ResultSet) : Prop :=
  ∀ row ∈ result.rows, ∀ value ∈ row, value.isFloat = false

instance (result : ResultSet) : Decidable result.IsPlain :=
  inferInstanceAs (Decidable (∀ row ∈ result.rows, ∀ value ∈ row, value.isFloat = false))

namespace Json

/-! ## What stands in front of a value and behind it -/

theorem skipGap_newLine_append (level : Nat) (text : List Char) :
    skipGap (newLine level ++ text) = skipGap text := by
  have gap : ∀ c ∈ newLine level, isGap c = true := by
    intro c isIn
    rcases List.mem_cons.1 isIn with rfl | inSpaces
    · rfl
    · rw [List.eq_of_mem_replicate inSpaces]
      rfl
  exact List.dropWhile_append_of_pos gap

theorem skipGap_cons {c : Char} (notGap : isGap c = false) (rest : List Char) :
    skipGap (c :: rest) = c :: rest :=
  List.dropWhile_cons_of_neg (by simp [notGap])

/-- A text that starts with a character of a value. -/
def StartsValue (chars : List Char) : Prop :=
  ∃ c rest, chars = c :: rest ∧ isGap c = false ∧ c ≠ ']'

theorem StartsValue.skipGap_append {chars : List Char} (starts : StartsValue chars)
    (rest : List Char) : skipGap (chars ++ rest) = chars ++ rest := by
  obtain ⟨c, others, rfl, notGap, -⟩ := starts
  exact skipGap_cons notGap _

/-- A text that does not go on with a numeral. -/
def EndsNumeral (rest : List Char) : Prop := ∀ c ∈ rest.head?, isNumeralChar c = false

theorem endsNumeral_cons {c : Char} (notNumeral : isNumeralChar c = false) (rest : List Char) :
    EndsNumeral (c :: rest) := by
  rintro _ ⟨⟩
  exact notNumeral

theorem endsNumeral_newLine_append (level : Nat) (rest : List Char) :
    EndsNumeral (newLine level ++ rest) :=
  endsNumeral_cons (by decide) _

/-- The characters written for a value are read as the value. -/
structure ReadsBack {α : Type} (read : Reader α) (value : α) (chars : List Char) : Prop where
  starts : StartsValue chars
  reads : ∀ rest, EndsNumeral rest → read (chars ++ rest) = some (value, rest)

/-! ## Strings -/

theorem ofCode?_control : ∀ code < 0x20,
    ofCode? ['0', '0', Nat.digitChar (code / 16), Nat.digitChar (code % 16)] =
      some (Char.ofNat code) := by
  decide

/-- A character is written behind a backslash as a letter or as its code, or it stands
for itself. -/
theorem escape_cases (c : Char) :
    (∃ letter, escape c = ['\\', letter] ∧ letter ≠ 'u' ∧ ofLetter? letter = some c) ∨
      (∃ high low, escape c = ['\\', 'u', '0', '0', high, low] ∧
        ofCode? ['0', '0', high, low] = some c) ∨
        (escape c = [c] ∧ c ≠ '"' ∧ c ≠ '\\' ∧ ¬ c.toNat < 0x20) := by
  rw [escape]
  split_ifs with quote backslash backspace tab lineFeed formFeed carriageReturn control
  · exact .inl ⟨_, rfl, by decide, congrArg some (eq_of_beq quote).symm⟩
  · exact .inl ⟨_, rfl, by decide, congrArg some (eq_of_beq backslash).symm⟩
  · exact .inl ⟨_, rfl, by decide, congrArg some (eq_of_beq backspace).symm⟩
  · exact .inl ⟨_, rfl, by decide, congrArg some (eq_of_beq tab).symm⟩
  · exact .inl ⟨_, rfl, by decide, congrArg some (eq_of_beq lineFeed).symm⟩
  · exact .inl ⟨_, rfl, by decide, congrArg some (eq_of_beq formFeed).symm⟩
  · exact .inl ⟨_, rfl, by decide, congrArg some (eq_of_beq carriageReturn).symm⟩
  · refine .inr (.inl ⟨_, _, rfl, ?_⟩)
    rw [ofCode?_control c.toNat control, Char.ofNat_toNat]
  · exact .inr (.inr ⟨rfl, by simpa using quote, by simpa using backslash, control⟩)

theorem readContent_letter {letter : Char} (notCode : letter ≠ 'u') (rest : List Char) :
    readContent ('\\' :: letter :: rest) =
      (ofLetter? letter).bind fun char => (readContent rest).map (consFound char) := by
  rw [readContent.eq_4]
  intro _ _ _ _ _ isCode
  exact absurd isCode notCode

theorem readContent_itself {c : Char} (notQuote : c ≠ '"') (notBackslash : c ≠ '\\')
    (notControl : ¬ c.toNat < 0x20) (rest : List Char) :
    readContent (c :: rest) = (readContent rest).map (consFound c) := by
  rw [readContent.eq_5 c rest notQuote]
  · exact if_neg (not_or.2 ⟨notBackslash, notControl⟩)
  · intro _ _ _ _ _ isBackslash
    exact absurd isBackslash notBackslash
  · intro _ _ isBackslash
    exact absurd isBackslash notBackslash

/-- **A character of a string is read as it was before it was escaped.** -/
theorem readContent_escape (c : Char) (rest : List Char) :
    readContent (escape c ++ rest) = (readContent rest).map (consFound c) := by
  rcases escape_cases c with ⟨letter, written, notCode, isLetter⟩ | ⟨high, low, written, isCode⟩ |
    ⟨written, notQuote, notBackslash, notControl⟩
  · rw [written]
    exact (readContent_letter notCode rest).trans (by rw [isLetter, Option.bind_some])
  · rw [written]
    exact (readContent.eq_3 ..).trans (by rw [isCode]; rfl)
  · rw [written]
    exact readContent_itself notQuote notBackslash notControl rest

theorem readContent_written (content rest : List Char) :
    readContent (content.flatMap escape ++ '"' :: rest) = some (content, rest) := by
  induction content with
  | nil => rfl
  | cons c content ih =>
      rw [List.flatMap_cons, List.append_assoc, readContent_escape, ih]
      rfl

theorem readString_written (name : String) (rest : List Char) :
    readString (string name.toList ++ rest) = some (name, rest) := by
  have shape : string name.toList ++ rest = '"' :: (name.toList.flatMap escape ++ '"' :: rest) := by
    simp [string]
  rw [shape, readString, readContent_written, Option.map_some, Prod.map_apply, String.ofList_toList,
    id]

theorem startsValue_string (content : List Char) : StartsValue (string content) :=
  ⟨'"', _, rfl, by decide, by decide⟩

theorem readsBack_string (name : String) : ReadsBack readString name (string name.toList) where
  starts := startsValue_string _
  reads rest _ := readString_written name rest

/-! ## Scalars -/

theorem isNumeralChar_of_mem {n : Int} {c : Char} (isIn : c ∈ writeWhole n) :
    isNumeralChar c = true := by
  rcases (numeral_writeWhole n).isDigit_or_sign c isIn with isDigit | rfl | rfl
  · rw [isNumeralChar, isDigit, Bool.true_or]
  · decide
  · decide

theorem numberOf?_writeWhole (n : Int) :
    numberOf? (writeWhole n) = some (Scalar.ofWhole n) := by
  have noMark : (writeWhole n).any (· ∈ ['.', 'e', 'E']) = false := by
    rw [List.any_eq_false]
    intro c isIn isMark
    simp only [List.mem_cons, List.not_mem_nil, or_false, decide_eq_true_eq] at isMark
    rcases isMark with rfl | rfl | rfl
    all_goals exact (numeral_writeWhole n).not_mem (by decide) (by decide) (by decide) isIn
  rw [numberOf?, noMark, readWhole?_writeWhole]
  rfl

/-- **A whole number is read up to the end of its numeral.** -/
theorem readNumber_written (n : Int) {rest : List Char} (ends : EndsNumeral rest) :
    readNumber (writeWhole n ++ rest) = some (Scalar.ofWhole n, rest) := by
  have allNumeral : ∀ c ∈ writeWhole n, isNumeralChar c = true :=
    fun c isIn => isNumeralChar_of_mem isIn
  have noneTaken : rest.takeWhile isNumeralChar = [] := by
    cases rest with
    | nil => rfl
    | cons c rest => exact List.takeWhile_cons_of_neg (by simp [ends c rfl])
  have noneDropped : rest.dropWhile isNumeralChar = rest := by
    cases rest with
    | nil => rfl
    | cons c rest => exact List.dropWhile_cons_of_neg (by simp [ends c rfl])
  rw [readNumber, List.takeWhile_append_of_pos allNumeral, noneTaken, List.append_nil,
    List.dropWhile_append_of_pos allNumeral, noneDropped, numberOf?_writeWhole, Option.map_some]

theorem readScalar_of_isNumeralChar {c : Char} (isNumeral : isNumeralChar c = true)
    (rest : List Char) : readScalar (c :: rest) = readNumber (c :: rest) := by
  rw [readScalar.eq_3]
  · rintro _ ⟨⟩
    cases isNumeral
  · rintro _ ⟨⟩
    cases isNumeral

theorem startsValue_of_isNumeralChar {c : Char} (isNumeral : isNumeralChar c = true)
    (rest : List Char) : StartsValue (c :: rest) := by
  refine ⟨c, rest, rfl, ?_, ?_⟩
  · rw [← Bool.not_eq_true]
    intro isGap
    simp only [Json.isGap, Bool.or_eq_true, beq_iff_eq] at isGap
    rcases isGap with ((rfl | rfl) | rfl) | rfl
    all_goals cases isNumeral
  · rintro rfl
    cases isNumeral

theorem readsBack_integer (value : Int64) :
    ReadsBack readScalar (.integer value) (writeWhole value.toInt) := by
  obtain ⟨c, others, written⟩ :=
    List.exists_cons_of_ne_nil (numeral_writeWhole value.toInt).nonempty
  have isNumeral : isNumeralChar c = true :=
    isNumeralChar_of_mem (n := value.toInt) (by rw [written]; exact List.mem_cons_self ..)
  have same : Scalar.ofWhole value.toInt = .integer value := by
    rw [Scalar.ofWhole, if_pos (fitsInt64_toInt value), Int64.ofInt_toInt]
  constructor
  · rw [written]
    exact startsValue_of_isNumeralChar isNumeral others
  · intro rest ends
    have asNumber : readScalar (writeWhole value.toInt ++ rest) =
        readNumber (writeWhole value.toInt ++ rest) := by
      rw [written]
      exact readScalar_of_isNumeralChar isNumeral _
    rw [asNumber, readNumber_written _ ends, same]

/-- **A plain scalar is read as it was written, and so with its kind.** -/
theorem readsBack_scalar {value : Scalar} (plain : value.isFloat = false) :
    ReadsBack readScalar value (scalar value) := by
  cases value with
  | null => exact ⟨⟨'n', _, rfl, by decide, by decide⟩, fun rest _ => rfl⟩
  | integer number => exact readsBack_integer number
  | float number => cases plain
  | text content =>
      refine ⟨startsValue_string _, fun rest _ => ?_⟩
      have asString : readScalar (string content.toList ++ rest) =
          (readString (string content.toList ++ rest)).map (Prod.map .text id) := rfl
      rw [scalar, asString, readString_written]
      rfl

/-! ## Arrays -/

section Arrays

variable {α : Type} {read : Reader α} {write : α → List Char}

theorem readElements_last {first : α} {text behind rest : List Char}
    (isRead : read (skipGap text) = some (first, behind)) (closes : skipGap behind = ']' :: rest) :
    readElements read text = some ([first], rest) := by
  rw [readElements, isRead, Option.bind_some]
  simp only [closes]

theorem readElements_comma {first : α} {text behind rest : List Char}
    (isRead : read (skipGap text) = some (first, behind)) (goesOn : skipGap behind = ',' :: rest)
    (shorter : rest.length < text.length) :
    readElements read text = (readElements read rest).map (Prod.map (first :: ·) id) := by
  rw [readElements, isRead, Option.bind_some]
  simp only [goesOn, if_pos shorter]

/-- The text between the brackets of an array, and what stands behind it. -/
def arrayBody (level : Nat) (first : List Char) (others : List (List Char)) (rest : List Char) :
    List Char :=
  newLine (level + 1) ++ (first ++ (elements level others ++ (newLine level ++ ']' :: rest)))

theorem arrayBody_nil (level : Nat) (first rest : List Char) :
    arrayBody level first [] rest =
      newLine (level + 1) ++ (first ++ (newLine level ++ ']' :: rest)) := rfl

theorem arrayBody_cons (level : Nat) (first second : List Char) (others : List (List Char))
    (rest : List Char) :
    arrayBody level first (second :: others) rest =
      newLine (level + 1) ++ (first ++ ',' :: arrayBody level second others rest) := by
  simp [arrayBody, elements]

/-- **The elements of an array are read up to its closing bracket.** -/
theorem readElements_arrayBody (level : Nat) {first : α} {others : List α}
    (back : ∀ item ∈ first :: others, ReadsBack read item (write item)) (rest : List Char) :
    readElements read (arrayBody level (write first) (others.map write) rest) =
      some (first :: others, rest) := by
  induction others generalizing first with
  | nil =>
      have backFirst := back first (List.mem_cons_self ..)
      have isRead : read (skipGap (arrayBody level (write first) ([].map write) rest)) =
          some (first, newLine level ++ ']' :: rest) := by
        rw [List.map_nil, arrayBody_nil, skipGap_newLine_append, backFirst.starts.skipGap_append]
        exact backFirst.reads _ (endsNumeral_newLine_append level _)
      have closes : skipGap (newLine level ++ ']' :: rest) = ']' :: rest := by
        rw [skipGap_newLine_append]
        exact skipGap_cons (by decide) rest
      exact readElements_last isRead closes
  | cons second others ih =>
      have backFirst := back first (List.mem_cons_self ..)
      have backOthers : ∀ item ∈ second :: others, ReadsBack read item (write item) :=
        fun item isIn => back item (List.mem_cons_of_mem _ isIn)
      let behind := arrayBody level (write second) (others.map write) rest
      have body : arrayBody level (write first) ((second :: others).map write) rest =
          newLine (level + 1) ++ (write first ++ ',' :: behind) :=
        arrayBody_cons level _ _ _ rest
      have isRead : read (skipGap (newLine (level + 1) ++ (write first ++ ',' :: behind))) =
          some (first, ',' :: behind) := by
        rw [skipGap_newLine_append, backFirst.starts.skipGap_append]
        exact backFirst.reads _ (endsNumeral_cons (by decide) _)
      have shorter : behind.length <
          (newLine (level + 1) ++ (write first ++ ',' :: behind)).length := by
        simp only [List.length_append, List.length_cons]
        omega
      rw [body, readElements_comma isRead (skipGap_cons (by decide) behind) shorter, ih backOthers]
      rfl

/-- **An array is read as it was written, if its elements are.** -/
theorem ReadsBack.array (level : Nat) {items : List α}
    (back : ∀ item ∈ items, ReadsBack read item (write item)) :
    ReadsBack (readArray read) items (Json.array level (items.map write)) := by
  cases items with
  | nil => exact ⟨⟨'[', _, rfl, by decide, by decide⟩, fun rest _ => rfl⟩
  | cons first others =>
      refine ⟨⟨'[', _, rfl, by decide, by decide⟩, fun rest _ => ?_⟩
      have text : Json.array level ((first :: others).map write) ++ rest =
          '[' :: arrayBody level (write first) (others.map write) rest := by
        simp [Json.array, arrayBody]
      obtain ⟨c, chars, written, notGap, notBracket⟩ := (back first (List.mem_cons_self ..)).starts
      have someElement : skipGap (arrayBody level (write first) (others.map write) rest) =
          c :: (chars ++
            (elements level (others.map write) ++ (newLine level ++ ']' :: rest))) := by
        rw [arrayBody, skipGap_newLine_append, written]
        exact skipGap_cons notGap _
      rw [text, readArray, someElement]
      split
      next isBracket =>
        cases isBracket
        exact absurd rfl notBracket
      · exact readElements_arrayBody level back rest

end Arrays

/-! ## Result sets -/

theorem afterMark?_cons (mark : Char) (notGap : isGap mark = false) (rest : List Char) :
    afterMark? mark (mark :: rest) = some rest := by
  rw [afterMark?, skipGap_cons notGap]
  exact if_pos rfl

theorem afterMark?_newLine_append (mark : Char) (level : Nat) (text : List Char) :
    afterMark? mark (newLine level ++ text) = afterMark? mark text := by
  rw [afterMark?, skipGap_newLine_append, afterMark?]

/-- A member at the start of a line is read as it was written. -/
theorem readMember_written {α : Type} {read : Reader α} {value : α} {chars : List Char}
    (level : Nat) (name : String) (back : ReadsBack read value chars) {rest : List Char}
    (ends : EndsNumeral rest) :
    readMember name read (newLine level ++ (string name.toList ++ ':' :: ' ' :: (chars ++ rest))) =
      some (value, rest) := by
  have gap : skipGap (' ' :: (chars ++ rest)) = chars ++ rest := back.starts.skipGap_append rest
  simp only [readMember, skipGap_newLine_append, (startsValue_string _).skipGap_append,
    readString_written, Option.bind_eq_bind, Option.bind_some, if_true,
    afterMark?_cons ':' (by decide), gap]
  exact back.reads rest ends

/-- **A plain result set is read as it was written.** -/
theorem resultSet?_resultSet {result : ResultSet} (plain : result.IsPlain) :
    resultSet? (resultSet result) = some result := by
  let columns := array 1 (result.columns.map fun name => string name.toList)
  let rows := array 1 (result.rows.map row)
  let behindRows := newLine 0 ++ ['}']
  let behindColumns :=
    ',' :: (newLine 1 ++ (string "rows".toList ++ ':' :: ' ' :: (rows ++ behindRows)))
  have text : resultSet result =
      '{' :: (newLine 1 ++
        (string "columns".toList ++ ':' :: ' ' :: (columns ++ behindColumns))) := by
    simp only [resultSet, columns, rows, behindColumns, behindRows, List.cons_append,
      List.append_assoc]
  have columnsBack : ReadsBack (readArray readString) result.columns columns :=
    .array 1 fun name _ => readsBack_string name
  have rowsBack : ReadsBack (readArray (readArray readScalar)) result.rows rows :=
    .array 1 fun values isRow => .array 2 fun value isIn =>
      readsBack_scalar (plain values isRow value isIn)
  have columnsRead : readMember "columns" (readArray readString)
      (newLine 1 ++ (string "columns".toList ++ ':' :: ' ' :: (columns ++ behindColumns))) =
      some (result.columns, behindColumns) :=
    readMember_written 1 "columns" columnsBack (endsNumeral_cons (by decide) _)
  have behindComma : afterMark? ',' behindColumns =
      some (newLine 1 ++ (string "rows".toList ++ ':' :: ' ' :: (rows ++ behindRows))) :=
    afterMark?_cons ',' (by decide) _
  have rowsRead : readMember "rows" (readArray (readArray readScalar))
      (newLine 1 ++ (string "rows".toList ++ ':' :: ' ' :: (rows ++ behindRows))) =
      some (result.rows, behindRows) :=
    readMember_written 1 "rows" rowsBack (endsNumeral_newLine_append 0 ['}'])
  have closed : afterMark? '}' behindRows = some [] := by
    rw [afterMark?_newLine_append]
    exact afterMark?_cons '}' (by decide) []
  have nothingBehind : skipGap [] = [] := rfl
  rw [text, resultSet?]
  simp only [afterMark?_cons '{' (by decide), Option.bind_eq_bind, Option.bind_some,
    columnsRead, behindComma, rowsRead, closed, nothingBehind, if_true]

end Json

namespace ResultSet

/-- The result set that a JSON text denotes. -/
def ofJson? (text : String) : Option ResultSet := Json.resultSet? text.toList

/-- **The text of a plain result set determines it: a JSON reader gives back the columns,
the rows and every value with its kind, and no other plain result set has that text.** -/
theorem ofJson?_render {result : ResultSet} (plain : result.IsPlain) :
    (result.render? .json).bind ofJson? = some result ∧
      ∀ other : ResultSet, other.IsPlain → other.render? .json = result.render? .json →
        other = result := by
  have readBack : ∀ written : ResultSet, written.IsPlain →
      (written.render? .json).bind ofJson? = some written := by
    intro written isPlain
    rw [render?, Option.bind_some, ofJson?, String.toList_ofList]
    exact Json.resultSet?_resultSet isPlain
  refine ⟨readBack result plain, fun other otherPlain same => ?_⟩
  have sameRead : some other = some result := by
    rw [← readBack other otherPlain, same, readBack result plain]
  exact Option.some.inj sameRead

theorem ofJson?_render_look_alikes :
    ∃ result : ResultSet,
      result.columns = ["say \"hi\"\\", "\x01\n", "é"] ∧
        result.rows =
          [[.integer 1, .text "1", .null], [.text "null"], [], [.text "]\n  ,", .text ""]] ∧
        result.IsPlain ∧ (result.render? .json).bind ofJson? = some result ∧
        ∀ other : ResultSet, other.IsPlain → other.render? .json = result.render? .json →
          other = result := by
  let result : ResultSet :=
    { columns := ["say \"hi\"\\", "\x01\n", "é"]
      rows := [[.integer 1, .text "1", .null], [.text "null"], [], [.text "]\n  ,", .text ""]] }
  have plain : result.IsPlain := by decide
  exact ⟨result, rfl, rfl, plain, ofJson?_render plain⟩

/-! ## Answers are plain -/

theorem isPlain_projection (columns : List String) (rows : List Row) :
    (Table.projection columns rows).IsPlain := by
  intro values isRow value isIn
  obtain ⟨row, -, rfl⟩ := List.mem_map.1 isRow
  obtain ⟨column, -, rfl⟩ := List.mem_map.1 isIn
  cases row.get? column <;> rfl

theorem isPlain_countResult (count : Nat) : (Table.countResult count).IsPlain := by
  intro values isRow value isIn
  rw [List.mem_singleton.1 isRow] at isIn
  rw [List.mem_singleton.1 isIn]
  rfl

/-- **Every answer of a table is plain.** -/
theorem isPlain_of_evaluate {table : Table} {query : Query} {result : ResultSet}
    (answered : table.evaluate query = .ok result) : result.IsPlain := by
  obtain ⟨-, rfl⟩ := Table.evaluate_eq_ok_iff.1 answered
  match query.selection with
  | .wildcard => exact isPlain_projection _ _
  | .columns items => exact isPlain_projection items _
  | .count .rows => exact isPlain_countResult _
  | .count (.column name) => exact isPlain_countResult _

end ResultSet

end CsvQuery
