/-!
# Fields as text

The bytes of a field are text if they are UTF-8.  Decoding walks over the bytes
once.  At the first byte of a character it takes the character from the bytes at
hand and passes over as many bytes as that character has; where no character
starts it stops, and what is left tells how far the field was valid.  A single
character is decoded by core's `ByteArray.utf8DecodeChar?`, which refuses
overlong forms and surrogates.
-/

namespace CsvQuery.Csv

set_option autoImplicit false

/-- The character whose bytes stand at the front of some bytes. -/
def frontChar? (bytes : List UInt8) : Option Char :=
  (bytes.take 4).toByteArray.utf8DecodeChar? 0

/-- The characters of some bytes after passing over the first `skip` bytes, or, if
they are not all characters, the bytes from the first place where none starts. -/
def decodeFrom : (skip : Nat) → List UInt8 → Except (List UInt8) (List Char)
  | _, [] => .ok []
  | skip + 1, _ :: rest => decodeFrom skip rest
  | 0, byte :: rest =>
      match frontChar? (byte :: rest) with
      | some c => (decodeFrom (c.utf8Size - 1) rest).map (c :: ·)
      | none => .error (byte :: rest)

/-- The text of some bytes, or the length of their longest part from the front
that is text. -/
def decodeUtf8 (bytes : List UInt8) : Except Nat String :=
  match decodeFrom 0 bytes with
  | .ok text => .ok (String.ofList text)
  | .error rest => .error (bytes.length - rest.length)

/-- The bytes of a text. -/
def encodeUtf8 (text : List Char) : List UInt8 := text.flatMap String.utf8EncodeChar

end CsvQuery.Csv
