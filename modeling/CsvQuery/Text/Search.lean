/-!
# Finding a symbol in a text

The first occurrence of a symbol cuts a text in two: what stands before it and
what stands after it.  The comparison of single characters is a parameter, since
an operator symbol is matched exactly and a keyword in either letter case.
-/

namespace CsvQuery.Text

set_option autoImplicit false

/-- What follows a symbol at the front of a text, if the text starts with it. -/
def strip? (same : Char → Char → Bool) : List Char → List Char → Option (List Char)
  | [], text => some text
  | _ :: _, [] => none
  | s :: symbol, c :: text => if same s c then strip? same symbol text else none

/-- The parts of a text before and after the first occurrence of a symbol.  The
empty symbol is not looked for at the end of the text. -/
def splitAtSymbol? (symbol : List Char) : List Char → Option (List Char × List Char)
  | [] => none
  | c :: rest =>
      match strip? (· == ·) symbol (c :: rest) with
      | some after => some ([], after)
      | none => (splitAtSymbol? symbol rest).map fun (front, after) => (c :: front, after)

/-- The parts of a text before and after the last occurrence of a character. -/
def splitAtLast? (mark : Char) (text : List Char) : Option (List Char × List Char) :=
  (splitAtSymbol? [mark] text.reverse).map fun (after, front) => (front.reverse, after.reverse)

end CsvQuery.Text
