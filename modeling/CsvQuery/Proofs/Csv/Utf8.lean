import CsvQuery.Csv.Utf8

/-!
# Encoding and decoding

Decoding gives back the text that was encoded (`decodeUtf8_encodeUtf8`).  A
character outside ASCII has no byte below 128, so a byte of ASCII stands in the
bytes of a text only for its own character (`toNat_of_mem_utf8EncodeChar`).

Bytes need not be those of a text.  They are always a text and behind it bytes where
no character starts (`exists_text_append`), and decoding stops there: it gives the text
if nothing is behind it, and otherwise its length, and no longer part of the bytes is a
text (`decodeUtf8_eq_ok_iff`, `decodeUtf8_eq_error_iff`).
-/

set_option autoImplicit false

namespace CsvQuery.Csv

open String (utf8EncodeChar)

theorem encodeUtf8_cons (c : Char) (text : List Char) :
    encodeUtf8 (c :: text) = utf8EncodeChar c ++ encodeUtf8 text := rfl

theorem encodeUtf8_append (front back : List Char) :
    encodeUtf8 (front ++ back) = encodeUtf8 front ++ encodeUtf8 back :=
  List.flatMap_append

/-! ## The bytes of one character -/

theorem utf8EncodeChar_ne_nil (c : Char) : utf8EncodeChar c ≠ [] := by
  intro empty
  have positive := c.utf8Size_pos
  rw [← String.length_utf8EncodeChar, empty] at positive
  cases positive

theorem encodeUtf8_eq_nil_iff {text : List Char} : encodeUtf8 text = [] ↔ text = [] := by
  cases text with
  | nil => exact iff_of_true rfl rfl
  | cons c text =>
      rw [encodeUtf8_cons]
      exact iff_of_false (List.append_ne_nil_of_left_ne_nil (utf8EncodeChar_ne_nil c) _)
        (List.cons_ne_nil c text)

theorem utf8EncodeChar_of_lt {c : Char} (ascii : c.toNat < 128) :
    utf8EncodeChar c = [UInt8.ofNat c.toNat] := by
  have low : c.val.toNat ≤ 0x7f := by
    have same : c.toNat = c.val.toNat := rfl
    omega
  rw [utf8EncodeChar]
  exact if_pos low

theorem le_toNat_of_mem_utf8EncodeChar {c : Char} (high : 128 ≤ c.toNat) :
    ∀ byte ∈ utf8EncodeChar c, 128 ≤ byte.toNat := by
  have above : ¬ c.val.toNat ≤ 0x7f := by
    have same : c.toNat = c.val.toNat := rfl
    omega
  intro byte isIn
  simp only [utf8EncodeChar, if_neg above] at isIn
  split at isIn
  · simp only [List.mem_cons, List.not_mem_nil, or_false] at isIn
    rcases isIn with rfl | rfl <;> simp <;> omega
  · split at isIn
    · simp only [List.mem_cons, List.not_mem_nil, or_false] at isIn
      rcases isIn with rfl | rfl | rfl <;> simp <;> omega
    · simp only [List.mem_cons, List.not_mem_nil, or_false] at isIn
      rcases isIn with rfl | rfl | rfl | rfl <;> simp <;> omega

/-- **A byte of ASCII is the whole of its character.** -/
theorem toNat_of_mem_utf8EncodeChar {c : Char} {byte : UInt8} (isIn : byte ∈ utf8EncodeChar c)
    (ascii : byte.toNat < 128) : c.toNat = byte.toNat := by
  by_cases high : 128 ≤ c.toNat
  · have byteHigh := le_toNat_of_mem_utf8EncodeChar high byte isIn
    omega
  · rw [utf8EncodeChar_of_lt (by omega), List.mem_singleton] at isIn
    rw [isIn]
    simp
    omega

/-! ## Decoding -/

theorem frontChar?_utf8EncodeChar_append (c : Char) (rest : List UInt8) :
    frontChar? (utf8EncodeChar c ++ rest) = some c := by
  have short : (utf8EncodeChar c).length ≤ 4 := by
    rw [String.length_utf8EncodeChar]
    exact c.utf8Size_le_four
  rw [frontChar?, List.take_append, List.take_of_length_le short, List.toByteArray_append]
  exact ByteArray.utf8DecodeChar?_utf8EncodeChar_append

theorem decodeFrom_skip (passed rest : List UInt8) :
    decodeFrom passed.length (passed ++ rest) = decodeFrom 0 rest := by
  induction passed with
  | nil => rfl
  | cons byte passed ih => exact ih

theorem decodeFrom_utf8EncodeChar_append (c : Char) (rest : List UInt8) :
    decodeFrom 0 (utf8EncodeChar c ++ rest) = (decodeFrom 0 rest).map (c :: ·) := by
  have front := frontChar?_utf8EncodeChar_append c rest
  have size := String.length_utf8EncodeChar c
  cases bytes : utf8EncodeChar c with
  | nil => exact absurd bytes (utf8EncodeChar_ne_nil c)
  | cons byte others =>
      rw [bytes] at front size
      have skipped : c.utf8Size - 1 = others.length := by
        rw [← size, List.length_cons, Nat.add_sub_cancel]
      rw [List.cons_append] at front ⊢
      rw [decodeFrom]
      simp only [front, skipped, decodeFrom_skip]

theorem decodeFrom_encodeUtf8_append (text : List Char) (rest : List UInt8) :
    decodeFrom 0 (encodeUtf8 text ++ rest) = (decodeFrom 0 rest).map (text ++ ·) := by
  induction text with
  | nil =>
      rw [encodeUtf8, List.flatMap_nil, List.nil_append]
      cases decodeFrom 0 rest <;> rfl
  | cons c text ih =>
      rw [encodeUtf8_cons, List.append_assoc, decodeFrom_utf8EncodeChar_append, ih]
      cases decodeFrom 0 rest <;> rfl

/-- **Decoding gives back the text that was encoded.** -/
theorem decodeUtf8_encodeUtf8 (text : List Char) :
    decodeUtf8 (encodeUtf8 text) = .ok (String.ofList text) := by
  have decoded := decodeFrom_encodeUtf8_append text []
  rw [List.append_nil] at decoded
  rw [decodeUtf8, decoded]
  simp [decodeFrom, Except.map]

theorem encodeUtf8_injective : Function.Injective encodeUtf8 := by
  intro text other same
  have decoded := decodeUtf8_encodeUtf8 text
  rw [same, decodeUtf8_encodeUtf8] at decoded
  exact (String.ofList_injective (Except.ok.inj decoded)).symm

/-! ## Bytes that are not text -/

/-- Bytes are text if they are the bytes of some characters. -/
def IsText (bytes : List UInt8) : Prop := ∃ text, bytes = encodeUtf8 text

/-- A number of bytes is the length of the longest part from the front that is text. -/
structure LongestText (bytes : List UInt8) (length : Nat) : Prop where
  /-- There are as many bytes. -/
  le_length : length ≤ bytes.length
  /-- They are text. -/
  isText : IsText (bytes.take length)
  /-- No longer part is text. -/
  longest : ∀ other ≤ bytes.length, IsText (bytes.take other) → other ≤ length

theorem LongestText.unique {bytes : List UInt8} {length other : Nat}
    (isLongest : LongestText bytes length) (otherLongest : LongestText bytes other) :
    length = other :=
  Nat.le_antisymm (otherLongest.longest length isLongest.le_length isLongest.isText)
    (isLongest.longest other otherLongest.le_length otherLongest.isText)

theorem exists_of_frontChar?_eq_some {bytes : List UInt8} {c : Char}
    (found : frontChar? bytes = some c) : ∃ rest, bytes = utf8EncodeChar c ++ rest := by
  obtain ⟨behind, split⟩ := ByteArray.exists_of_utf8DecodeChar?_eq_some found
  have taken : bytes.take 4 = utf8EncodeChar c ++ behind.data.toList := by
    simpa using congrArg (fun array : ByteArray => array.data.toList) split
  refine ⟨behind.data.toList ++ bytes.drop 4, ?_⟩
  rw [← List.append_assoc, ← taken, List.take_append_drop]

/-- Bytes are a text and behind it bytes where no character starts. -/
theorem exists_text_append (bytes : List UInt8) :
    ∃ text rest, bytes = encodeUtf8 text ++ rest ∧ frontChar? rest = none := by
  induction sameSize : bytes.length using Nat.strongRecOn generalizing bytes with
  | ind size ih =>
      cases front : frontChar? bytes with
      | none => exact ⟨[], bytes, rfl, front⟩
      | some c =>
          obtain ⟨behind, rfl⟩ := exists_of_frontChar?_eq_some front
          have shorter : behind.length < size := by
            have positive := List.length_pos_iff.2 (utf8EncodeChar_ne_nil c)
            rw [List.length_append] at sameSize
            omega
          obtain ⟨text, rest, rfl, stuck⟩ := ih behind.length shorter behind rfl
          exact ⟨c :: text, rest, by rw [encodeUtf8_cons, List.append_assoc], stuck⟩

theorem decodeFrom_of_frontChar?_eq_none {rest : List UInt8} (nonempty : rest ≠ [])
    (stuck : frontChar? rest = none) : decodeFrom 0 rest = .error rest := by
  cases rest with
  | nil => exact absurd rfl nonempty
  | cons byte rest => rw [decodeFrom, stuck]

theorem isSuffix_of_decodeFrom_eq_error {skip : Nat} {bytes rest : List UInt8}
    (stopped : decodeFrom skip bytes = .error rest) : rest <:+ bytes := by
  induction bytes generalizing skip with
  | nil => cases skip <;> cases stopped
  | cons byte bytes ih =>
      cases skip with
      | succ skip => exact (ih stopped).trans (List.suffix_cons byte bytes)
      | zero =>
          rw [decodeFrom] at stopped
          split at stopped
          · cases behind : decodeFrom _ bytes with
            | ok text =>
                rw [behind] at stopped
                cases stopped
            | error left =>
                rw [behind] at stopped
                cases stopped
                exact (ih behind).trans (List.suffix_cons byte bytes)
          · cases stopped
            exact List.suffix_rfl

/-- Where no character starts, the text in front is the longest there is. -/
theorem longestText_of_frontChar?_eq_none (text : List Char) {rest : List UInt8}
    (nonempty : rest ≠ []) (stuck : frontChar? rest = none) :
    LongestText (encodeUtf8 text ++ rest) (encodeUtf8 text).length := by
  refine ⟨by simp, ⟨text, by simp⟩, ?_⟩
  rintro other within ⟨front, isFront⟩
  have decoded : decodeFrom 0 (encodeUtf8 text ++ rest) = .error rest := by
    rw [decodeFrom_encodeUtf8_append, decodeFrom_of_frontChar?_eq_none nonempty stuck]
    rfl
  rw [← List.take_append_drop other (encodeUtf8 text ++ rest), isFront,
    decodeFrom_encodeUtf8_append] at decoded
  cases behind : decodeFrom 0 ((encodeUtf8 text ++ rest).drop other) with
  | ok back =>
      rw [behind] at decoded
      cases decoded
  | error left =>
      rw [behind] at decoded
      cases decoded
      have short := (isSuffix_of_decodeFrom_eq_error behind).length_le
      rw [List.length_drop] at short
      rw [List.length_append] at within short
      omega

/-- **Decoding gives the text of the bytes that are text.** -/
theorem decodeUtf8_eq_ok_iff {bytes : List UInt8} {text : String} :
    decodeUtf8 bytes = .ok text ↔ bytes = encodeUtf8 text.toList := by
  constructor
  · intro decoded
    obtain ⟨front, rest, rfl, stuck⟩ := exists_text_append bytes
    by_cases empty : rest = []
    · subst empty
      rw [List.append_nil, decodeUtf8_encodeUtf8] at decoded
      cases decoded
      rw [List.append_nil, String.toList_ofList]
    · rw [decodeUtf8, decodeFrom_encodeUtf8_append,
        decodeFrom_of_frontChar?_eq_none empty stuck] at decoded
      cases decoded
  · rintro rfl
    rw [decodeUtf8_encodeUtf8, String.ofList_toList]

theorem isText_iff {bytes : List UInt8} : IsText bytes ↔ ∃ text, decodeUtf8 bytes = .ok text := by
  constructor
  · rintro ⟨text, rfl⟩
    exact ⟨_, decodeUtf8_encodeUtf8 text⟩
  · rintro ⟨text, decoded⟩
    exact ⟨text.toList, decodeUtf8_eq_ok_iff.1 decoded⟩

instance (bytes : List UInt8) : Decidable (IsText bytes) :=
  match decoded : decodeUtf8 bytes with
  | .ok text => .isTrue (isText_iff.2 ⟨text, decoded⟩)
  | .error length => .isFalse fun isText => by
      obtain ⟨text, isRead⟩ := isText_iff.1 isText
      rw [decoded] at isRead
      cases isRead

/-- An overlong form and a surrogate are no text. -/
example : ¬ IsText [0xC0, 0x80] ∧ ¬ IsText [0xED, 0xA0, 0x80] := by decide

/-- **Decoding tells of other bytes how far they are text.** -/
theorem decodeUtf8_eq_error_iff {bytes : List UInt8} {length : Nat} :
    decodeUtf8 bytes = .error length ↔ ¬ IsText bytes ∧ LongestText bytes length := by
  have longest : ∀ {other : Nat}, decodeUtf8 bytes = .error other → LongestText bytes other := by
    intro other stopped
    obtain ⟨front, rest, rfl, stuck⟩ := exists_text_append bytes
    have nonempty : rest ≠ [] := by
      rintro rfl
      rw [List.append_nil, decodeUtf8_encodeUtf8] at stopped
      cases stopped
    have isLongest := longestText_of_frontChar?_eq_none front nonempty stuck
    rw [decodeUtf8, decodeFrom_encodeUtf8_append,
      decodeFrom_of_frontChar?_eq_none nonempty stuck] at stopped
    cases stopped
    simpa using isLongest
  constructor
  · intro stopped
    refine ⟨fun isText => ?_, longest stopped⟩
    obtain ⟨text, decoded⟩ := isText_iff.1 isText
    rw [decoded] at stopped
    cases stopped
  · rintro ⟨notText, isLongest⟩
    cases decoded : decodeUtf8 bytes with
    | ok text => exact absurd (isText_iff.2 ⟨text, decoded⟩) notText
    | error other => rw [isLongest.unique (longest decoded)]

end CsvQuery.Csv
