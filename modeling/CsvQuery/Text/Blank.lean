/-!
# Blank characters

Blanks separate the words of a statement and surround its names and values
without being part of them.  A blank is a character with the Unicode property
White_Space: twenty-five characters, most of them outside ASCII, so the table is
given here in full.  The functions below cut blanks away and split at them; they
work on lists of characters, where recursion is structural and a cut is an
equation between lists.
-/

namespace CsvQuery.Text

set_option autoImplicit false

/-- Whether a character's code point lies in one of the given closed ranges. -/
def inRanges (ranges : List (Nat × Nat)) (c : Char) : Bool :=
  ranges.any fun range => range.1 ≤ c.toNat && c.toNat ≤ range.2

/-- The code points with the property White_Space, as closed ranges. -/
def blankRanges : List (Nat × Nat) :=
  [(0x09, 0x0d), (0x20, 0x20), (0x85, 0x85), (0xa0, 0xa0), (0x1680, 0x1680),
   (0x2000, 0x200a), (0x2028, 0x2029), (0x202f, 0x202f), (0x205f, 0x205f),
   (0x3000, 0x3000)]

/-- Whether a character is blank. -/
def isBlank (c : Char) : Bool := inRanges blankRanges c

/-- A text without the blanks in front of it. -/
def trimStart (text : List Char) : List Char := text.dropWhile isBlank

/-- A text without the blanks behind it. -/
def trimEnd (text : List Char) : List Char := (text.reverse.dropWhile isBlank).reverse

/-- A text without the blanks around it. -/
def trim (text : List Char) : List Char := trimEnd (trimStart text)

/-- The pieces of a text between its separators.  There is always one piece more
than there are separators, so the empty text has one empty piece. -/
def pieces (isSeparator : Char → Bool) : List Char → List (List Char)
  | [] => [[]]
  | c :: rest =>
      if isSeparator c then [] :: pieces isSeparator rest
      else (pieces isSeparator rest).modifyHead (c :: ·)

/-- The words of a text: its longest runs without a blank. -/
def words (text : List Char) : List (List Char) :=
  (pieces isBlank text).filter fun piece => !piece.isEmpty

/-- The lines of a text.  A line feed ends a line, a carriage return before it
is dropped with it, and text after the last line feed is a line too. -/
def lines (text : List Char) : List (List Char) :=
  match (pieces (· == '\n') text).reverse with
  | [] => []
  | last :: ended =>
      let endedLines := ended.reverse.map fun line =>
        if line.getLast? == some '\r' then line.dropLast else line
      if last.isEmpty then endedLines else endedLines ++ [last]

/-- A text has at least one piece. -/
theorem pieces_ne_nil (isSeparator : Char → Bool) (text : List Char) :
    pieces isSeparator text ≠ [] := by
  induction text with
  | nil => simp [pieces]
  | cons c rest ih =>
    rw [pieces]
    split
    · exact List.cons_ne_nil _ _
    · cases h : pieces isSeparator rest with
      | nil => exact absurd h ih
      | cons piece others => simp [List.modifyHead]

end CsvQuery.Text
