import CsvQuery.Operator
import CsvQuery.Scalar.Basic

/-!
# Comparing scalars

How two scalars stand to each other is found once, and every operator is then
answered from that: this is why the six operators agree with each other.  Two
values of the same kind have an order, unless one of them is not a number.  Where
the right value is a number the left one is read as a number first, if it can be;
two integers are compared as they are, so no digit is lost.  A missing value
equals only another missing value and has no order, and between a text and a
number there is difference but no order.
-/

namespace CsvQuery

set_option autoImplicit false

/-- How two scalars stand to each other. -/
inductive Standing where
  /-- Both are no value: equal, and in no order. -/
  | bothNull
  /-- They differ and have no order. -/
  | unequal
  /-- They are ordered, equality included. -/
  | ordered (ordering : Ordering)
  /-- One is a text and the other a number: they differ, and it is an error to
  ask for their order. -/
  | mixed
  deriving DecidableEq

/-- Whether an operator is satisfied by an ordering. -/
def Operator.accepts : Operator → Ordering → Bool
  | .eq, ordering => ordering == .eq
  | .ne, ordering => ordering != .eq
  | .gt, ordering => ordering == .gt
  | .lt, ordering => ordering == .lt
  | .ge, ordering => ordering != .lt
  | .le, ordering => ordering != .gt

/-- What an operator answers for a standing; no answer means an error. -/
def Standing.answer? (operator : Operator) : Standing → Option Bool
  | .bothNull => some (operator == .eq)
  | .unequal => some (operator == .ne)
  | .ordered ordering => some (operator.accepts ordering)
  | .mixed => if operator.isOrdering then none else some (operator == .ne)

/-- The left value of a comparison as it is compared: read as a number where the
right value is one and the two are not both integers. -/
def coerce (left right : Scalar) : Scalar :=
  match left, right with
  | .integer _, .integer _ => left
  | _, _ =>
    if right.isNumeric then
      match left.toNumber? with
      | some number => .float number
      | none => left
    else left

/-- How two scalars stand to each other when neither is read as the other's kind. -/
def standingOf : Scalar → Scalar → Standing
  | .null, .null => .bothNull
  | .null, _ => .unequal
  | _, .null => .unequal
  | .integer a, .integer b => .ordered (compare a.toInt b.toInt)
  | .text a, .text b => .ordered (compare a b)
  | .text _, _ => .mixed
  | _, .text _ => .mixed
  | left, right =>
    match left.toNumber?, right.toNumber? with
    | some a, some b =>
      match a.compare? b with
      | some ordering => .ordered ordering
      | none => .unequal
    | _, _ => .unequal

/-- How the left value of a comparison stands to the right one. -/
def standing (left right : Scalar) : Standing := standingOf (coerce left right) right

/-- The error of asking for the order of a text and a number. -/
structure TypeMismatch where
  /-- The value on the left. -/
  left : Scalar
  /-- The operator that asks for an order. -/
  operator : Operator
  /-- The value on the right. -/
  right : Scalar
  deriving DecidableEq

/-- The sentence that reports the error; the values are shown as in a query. -/
def TypeMismatch.message (mismatch : TypeMismatch) : String :=
  "Type error comparing " ++ mismatch.left.literal ++ " "
    ++ String.ofList mismatch.operator.symbol ++ " " ++ mismatch.right.literal

/-- Whether two scalars satisfy an operator. -/
def holds (left : Scalar) (operator : Operator) (right : Scalar) :
    Except TypeMismatch Bool :=
  match (standing left right).answer? operator with
  | some answer => .ok answer
  | none => .error { left, operator, right }

end CsvQuery
