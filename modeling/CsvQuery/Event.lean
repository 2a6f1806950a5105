import CsvQuery.Query.Basic

/-!
# Events

While the program works, it tells its log what happens: that it has read a query or
chosen rows, that it has loaded a table, and that it has dropped fields of a record.
An event has a level, by which most log filters choose, a target, which says what part
of the program it comes from, and a message.  It also carries the data of its case.
-/

namespace CsvQuery

set_option autoImplicit false

/-- How much an event matters, from the most to the least. -/
inductive Level where
  /-- Something may be wrong. -/
  | warn
  /-- Something worth knowing has happened. -/
  | info
  /-- A step of the work. -/
  | debug
  deriving DecidableEq

/-- The place of a level among all levels of a log, of which there are also `off` and
`error` in front of these. -/
def Level.place : Level → Nat
  | .warn => 2
  | .info => 3
  | .debug => 4

/-- The name of a level. -/
def Level.name : Level → String
  | .warn => "WARN"
  | .info => "INFO"
  | .debug => "DEBUG"

/-- Something the program tells its log. -/
inductive Event where
  /-- A query was read. -/
  | parsed (query : Query)
  /-- Of the rows of a table, some were chosen. -/
  | filtered (table : String) (scanned chosen : Nat)
  /-- A table was loaded from the file at a path. -/
  | loaded (table : String) (rows columns : Nat) (path : String)
  /-- A record, counted from 1 after the header, has more fields than the header. -/
  | dropped (table : String) (row surplus : Nat)
  deriving DecidableEq

namespace Event

/-- The level of an event. -/
def level : Event → Level
  | .parsed _ | .filtered .. => .debug
  | .loaded .. => .info
  | .dropped .. => .warn

/-- The part of the program an event comes from. -/
def target : Event → String
  | .parsed _ => "minisql::query::parser"
  | .filtered .. => "minisql::query::executor"
  | .loaded .. => "minisql::storage"
  | .dropped .. => "minisql::storage::loader"

/-- The message of an event. -/
def message : Event → String
  | .parsed _ => "parsed query"
  | .filtered .. => "filtered rows"
  | .loaded .. => "loaded table"
  | .dropped .. => "record has more fields than the header"

end Event

end CsvQuery
