/-!
# Lengths in bytes

The length of a text in bytes is that of its UTF-8 form, in which a character has
one to four bytes.  A text is cut at a number of bytes between two characters; a
character in which the cut would fall stays in front of it.
-/

namespace CsvQuery.Text

set_option autoImplicit false

/-- How many bytes a text has. -/
def byteLength : List Char → Nat
  | [] => 0
  | c :: rest => c.utf8Size + byteLength rest

/-- A text without a number of bytes at its front. -/
def dropBytes (count : Nat) : List Char → List Char
  | [] => []
  | c :: rest => if count = 0 then c :: rest else dropBytes (count - c.utf8Size) rest

/-- A number of bytes at the front of a text. -/
def takeBytes (count : Nat) : List Char → List Char
  | [] => []
  | c :: rest => if count = 0 then [] else c :: takeBytes (count - c.utf8Size) rest

end CsvQuery.Text
