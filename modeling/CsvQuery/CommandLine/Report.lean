/-!
# Error reports

A failure that ends the program is reported with what caused it.  The causes are
listed below the failure, indented by four spaces, and numbered when there are
several.  A cause of several lines keeps its indentation on all of them.
-/

namespace CsvQuery.Report

set_option autoImplicit false

/-- A text with one indentation in front of it and another in front of its further
lines. -/
def indented (first further : List Char) (text : List Char) : List Char :=
  first ++ text.flatMap fun c => if c = '\n' then '\n' :: further else [c]

/-- A number, moved to the right of five places, and a colon. -/
def label (number : Nat) : List Char :=
  let digits := Nat.toDigits 10 number
  List.replicate (5 - digits.length) ' ' ++ digits ++ [':', ' ']

/-- The indentation of causes without a number. -/
def margin : List Char := List.replicate 4 ' '

/-- The lines of the causes, from a given number on. -/
def numbered (number : Nat) : List String → List Char
  | [] => []
  | cause :: rest =>
      '\n' :: indented (label number) (List.replicate 7 ' ') cause.toList
        ++ numbered (number + 1) rest

/-- The part of a report that lists the causes. -/
def causesText : List String → List Char
  | [] => []
  | [cause] => "\n\nCaused by:\n".toList ++ indented margin margin cause.toList
  | causes => "\n\nCaused by:".toList ++ numbered 0 causes

/-- The report of a failure with its causes, the nearest cause first. -/
def text (message : String) (causes : List String) : String :=
  "Error: " ++ message ++ String.ofList (causesText causes) ++ "\n"

end CsvQuery.Report
