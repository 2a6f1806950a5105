import CsvQuery.Text.Search
import CsvQuery.Text.Word

/-!
# Keywords

A keyword is written in capitals here and matched in either letter case.  It is
found only where it stands as a whole word, with no word character on either
side, so `FROM` is not found in `fromage`.  The search carries the character in
front of the current place, because that character decides whether a word can
start there.
-/

namespace CsvQuery.Text

set_option autoImplicit false

/-- Whether a character counts as a given capital letter of a keyword.  Besides
the two cases of the letter itself, the long s counts as S and the Kelvin sign as
K, since these are the only other characters whose simple case folding is an
ASCII letter. -/
def matchesLetter (letter c : Char) : Bool :=
  c == letter || c == letter.toLower
    || (letter == 'S' && c == 'ſ') || (letter == 'K' && c == '\u212a')

/-- What follows a keyword at the front of a text, if it stands there as a whole
word.  `before` is the character in front of the text, if there is one. -/
def wordAt? (keyword : List Char) (before : Option Char) (text : List Char) :
    Option (List Char) :=
  if before.any isWordChar then none
  else match strip? matchesLetter keyword text with
    | none => none
    | some rest => if rest.head?.any isWordChar then none else some rest

/-- The parts of a text before and after the first whole-word occurrence of a
keyword.  `before` is the character in front of the text, if there is one. -/
def splitAtWord? (keyword : List Char) :
    (before : Option Char) → List Char → Option (List Char × List Char)
  | _, [] => none
  | before, c :: rest =>
      match wordAt? keyword before (c :: rest) with
      | some after => some ([], after)
      | none =>
          (splitAtWord? keyword (some c) rest).map fun (front, after) => (c :: front, after)

end CsvQuery.Text
