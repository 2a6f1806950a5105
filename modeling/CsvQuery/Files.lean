import CsvQuery.Text.Blank
import CsvQuery.Text.Search

/-!
# Files

The files a program can read are given as a list of paths with their bytes.  Two
paths name the same file when they have the same names between their slashes;
empty names and the name `.` do not count.  A path that ends in such a name can
only be the path of a directory, so no file is read from it.

Directories and files that cannot be read are left out: a path that leads to one counts
as missing here.  Links are left out too, and so are the ways back that the name `..`
stands for: it is compared like any other name.
-/

namespace CsvQuery

open CsvQuery.Text

set_option autoImplicit false

/-- The files that can be read. -/
structure Files where
  /-- The paths of the files and their bytes. -/
  entries : List (String × List UInt8)

/-- Whether a part of a path between slashes names something. -/
def isPathName (part : List Char) : Bool := !part.isEmpty && part != ['.']

/-- The parts of a path between its slashes. -/
def pathParts (path : String) : List (List Char) := pieces (· == '/') path.toList

/-- The names in a path. -/
def pathNames (path : String) : List (List Char) := (pathParts path).filter isPathName

/-- Whether a path starts at the root of all paths. -/
def isAbsolute (path : String) : Bool := path.toList.head? == some '/'

/-- Whether two paths name the same file. -/
def samePath (a b : String) : Bool := pathNames a == pathNames b && isAbsolute a == isAbsolute b

/-- The bytes of the file at a path, if there is one. -/
def Files.read? (files : Files) (path : String) : Option (List UInt8) :=
  if (pathParts path).getLast?.any isPathName then
    (files.entries.find? fun entry => samePath entry.1 path).map Prod.snd
  else none

/-- A file name without its extension.  The extension starts at the last point; a
point in front of the name starts none. -/
def stem (name : List Char) : List Char :=
  match splitAtLast? '.' name with
  | some (front, _) => if front.isEmpty then name else front
  | none => name

/-- The name a table gets from the path of its file: the file name without its
extension, or the whole path if it names no file. -/
def tableNameOf (path : String) : String :=
  match (pathNames path).getLast? with
  | some name => if name = ['.', '.'] then path else String.ofList (stem name)
  | none => path

end CsvQuery
