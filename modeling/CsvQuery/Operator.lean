/-!
# Comparison operators

A condition compares a column with a value by one of six operators.  In a
statement they are looked for in a fixed order, those of two characters first, so
that `>=` is never taken for `>`.
-/

namespace CsvQuery

set_option autoImplicit false

/-- An operator of a condition. -/
inductive Operator where
  | eq
  | ne
  | gt
  | lt
  | ge
  | le
  deriving DecidableEq

namespace Operator

/-- The operators in the order in which a statement is searched for them. -/
def scanOrder : List Operator := [.ge, .le, .ne, .eq, .lt, .gt]

/-- The characters of an operator. -/
def symbol : Operator → List Char
  | .eq => ['=']
  | .ne => ['!', '=']
  | .gt => ['>']
  | .lt => ['<']
  | .ge => ['>', '=']
  | .le => ['<', '=']

/-- The operator with a given symbol. -/
def ofSymbol? (text : List Char) : Option Operator :=
  scanOrder.find? fun operator => operator.symbol == text

/-- Whether an operator asks for an order, and not only for equality. -/
def isOrdering : Operator → Bool
  | .eq | .ne => false
  | .gt | .lt | .ge | .le => true

/-- Every operator is looked for. -/
theorem mem_scanOrder (operator : Operator) : operator ∈ scanOrder := by
  cases operator <;> decide

/-- An operator is recognised by its own symbol. -/
theorem ofSymbol?_symbol (operator : Operator) : ofSymbol? operator.symbol = some operator := by
  cases operator <;> decide

end Operator

end CsvQuery
