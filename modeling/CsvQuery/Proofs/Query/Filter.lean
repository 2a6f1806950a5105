import CsvQuery.Query.Statement
import CsvQuery.Proofs.Query.Terminator
import CsvQuery.Proofs.Scalar.Literal
import CsvQuery.Proofs.Text.Symbol

/-!
# The operator of a condition

A condition is read at the first operator in scan order that occurs anywhere in
its text, at its first occurrence.  So the operator that was read is one before
which no operator is scanned that occurs in the text (`findOperator?_eq_some_iff`).

A condition is written as its column, its operator and the literal of its value
with one space between them.  It is read back when the scan finds the written
operator: no operator that is scanned earlier occurs in the column or in the text
of the value, and the operator itself does not occur in the column
(`Condition.parse_clause`).
-/

set_option autoImplicit false

namespace CsvQuery

open CsvQuery.Text

/-! ## The scan -/

namespace Operator

/-- The operators that a statement is searched for before this one. -/
def scannedBefore (operator : Operator) : List Operator := scanOrder.takeWhile (· ≠ operator)

theorem symbol_ne_nil (operator : Operator) : operator.symbol ≠ [] := by
  cases operator <;> decide

theorem space_not_mem_symbol (operator : Operator) : ' ' ∉ operator.symbol := by
  cases operator <;> decide

theorem quote_not_mem_symbol (operator : Operator) : '\'' ∉ operator.symbol := by
  cases operator <;> decide

/-- Every operator has one of three characters in its symbol. -/
theorem exists_mem_symbol (operator : Operator) :
    ∃ c ∈ operator.symbol, c = '=' ∨ c = '<' ∨ c = '>' := by
  cases operator <;> simp [symbol]

/-- No symbol contains the symbol of an operator that is scanned earlier. -/
theorem not_infix_symbol_of_scannedBefore {operator earlier : Operator}
    (isEarlier : earlier ∈ operator.scannedBefore) : ¬ earlier.symbol <:+: operator.symbol := by
  have apart : ∀ earlier ∈ operator.scannedBefore, ¬ earlier.symbol <:+: operator.symbol := by
    cases operator <;> decide
  exact apart earlier isEarlier

theorem exists_scanOrder_eq (operator : Operator) :
    ∃ later, scanOrder = operator.scannedBefore ++ operator :: later := by
  cases operator <;> exact ⟨_, rfl⟩

theorem scannedBefore_eq {operator : Operator} {front later : List Operator}
    (split : scanOrder = front ++ operator :: later) : operator.scannedBefore = front := by
  have distinct : scanOrder.Nodup := by decide
  rw [split] at distinct
  have apart : ∀ other ∈ front, decide (other ≠ operator) = true := by
    intro other isIn
    exact decide_eq_true ((List.nodup_append.1 distinct).2.2 other isIn operator (by simp))
  rw [scannedBefore, split, List.takeWhile_append_of_pos apart]
  simp

end Operator

/-- **The operator that is read occurs in the text, and none that is scanned
before it does.** -/
theorem findOperator?_eq_some_iff {text before after : List Char} {operator : Operator} :
    findOperator? text = some (operator, before, after) ↔
      splitAtSymbol? operator.symbol text = some (before, after) ∧
        ∀ earlier ∈ operator.scannedBefore, ¬ earlier.symbol <:+: text := by
  rw [findOperator?, List.findSome?_eq_some_iff]
  constructor
  · rintro ⟨front, found, later, split, isFound, noneEarlier⟩
    obtain ⟨parts, cut, same⟩ := Option.map_eq_some_iff.1 isFound
    cases same
    refine ⟨cut, fun earlier isEarlier => ?_⟩
    rw [Operator.scannedBefore_eq split] at isEarlier
    exact (splitAtSymbol?_eq_none_iff earlier.symbol_ne_nil text).1
      (Option.map_eq_none_iff.1 (noneEarlier earlier isEarlier))
  · rintro ⟨cut, noneEarlier⟩
    obtain ⟨later, split⟩ := operator.exists_scanOrder_eq
    refine ⟨operator.scannedBefore, operator, later, split, by rw [cut]; rfl, ?_⟩
    intro earlier isEarlier
    rw [(splitAtSymbol?_eq_none_iff earlier.symbol_ne_nil text).2 (noneEarlier earlier isEarlier)]
    rfl

/-- No operator occurs in a text. -/
def NoOperator (text : List Char) : Prop := ∀ operator : Operator, ¬ operator.symbol <:+: text

theorem Operator.not_infix_of_clear {text : List Char} (clear : ∀ c ∈ ['=', '<', '>'], c ∉ text)
    (other : Operator) : ¬ other.symbol <:+: text := by
  obtain ⟨c, inSymbol, isOne⟩ := other.exists_mem_symbol
  intro occurs
  exact clear c (by simpa using isOne) (occurs.subset inSymbol)

theorem noOperator_of_not_mem {text : List Char} (clear : ∀ c ∈ ['=', '<', '>'], c ∉ text) :
    NoOperator text :=
  fun operator => operator.not_infix_of_clear clear

theorem NoOperator.of_isPrefix {text rest : List Char} (clear : NoOperator text)
    (isPrefix : rest <+: text) : NoOperator rest :=
  fun operator occurs => clear operator (occurs.trans isPrefix.isInfix)

/-- The scan goes through exactly the texts in which no operator occurs. -/
theorem findOperator?_eq_none_iff {text : List Char} :
    findOperator? text = none ↔ NoOperator text := by
  rw [findOperator?, List.findSome?_eq_none_iff]
  constructor
  · intro noneFound operator
    have notFound := noneFound operator operator.mem_scanOrder
    exact (splitAtSymbol?_eq_none_iff operator.symbol_ne_nil text).1
      (Option.map_eq_none_iff.1 notFound)
  · intro clear operator _
    rw [(splitAtSymbol?_eq_none_iff operator.symbol_ne_nil text).2 (clear operator)]
    rfl

/-! ## Written conditions -/

/-- A condition as it is written behind `WHERE`. -/
def Condition.written (condition : Condition) : List Char :=
  condition.column.toList ++
    ' ' :: (condition.operator.symbol ++ ' ' :: condition.value.literal.toList)

/-- The scan for operators finds the operator of a written condition where it is
written. -/
structure Condition.Scannable (condition : Condition) : Prop where
  ownSymbol : ¬ condition.operator.symbol <:+: condition.column.toList
  earlierInColumn : ∀ earlier ∈ condition.operator.scannedBefore,
    ¬ earlier.symbol <:+: condition.column.toList
  earlierInText : ∀ content, condition.value = .text content →
    ∀ earlier ∈ condition.operator.scannedBefore, ¬ earlier.symbol <:+: content.toList

/-- An operator occurs in a literal exactly when it occurs in the text between its
quotes. -/
theorem infix_literal_iff {value : Scalar} (kind : value.IntegerOrText) (operator : Operator) :
    operator.symbol <:+: value.literal.toList ↔
      ∃ content, value = .text content ∧ operator.symbol <:+: content.toList := by
  rcases kind with ⟨n, rfl⟩ | ⟨content, rfl⟩
  · obtain ⟨c, inSymbol, isOne⟩ := operator.exists_mem_symbol
    have notInNumeral : c ∉ writeWhole n.toInt := by
      rcases isOne with rfl | rfl | rfl
      all_goals exact (numeral_writeWhole n.toInt).not_mem (by decide) (by decide) (by decide)
    constructor
    · intro occurs
      rw [Scalar.literal, String.toList_ofList] at occurs
      exact absurd (occurs.subset inSymbol) notInNumeral
    · rintro ⟨content, same, -⟩
      cases same
  · rw [literal_text_toList, ← List.nil_append ('\'' :: _),
      infix_append_cons_iff operator.symbol_ne_nil operator.quote_not_mem_symbol,
      infix_append_cons_iff operator.symbol_ne_nil operator.quote_not_mem_symbol]
    simp [operator.symbol_ne_nil]

/-- The text of a condition as the reader gets it: a column without a name leaves a
space in front that is cut away. -/
def Condition.clause (condition : Condition) : List Char :=
  if condition.column.toList = [] then
    condition.operator.symbol ++ ' ' :: condition.value.literal.toList
  else condition.written

theorem infix_clause_iff (condition : Condition) (operator : Operator) :
    operator.symbol <:+: condition.clause ↔
      operator.symbol <:+: condition.column.toList ∨
        operator.symbol <:+: condition.operator.symbol ∨
          operator.symbol <:+: condition.value.literal.toList := by
  have divides := fun front rest =>
    infix_append_cons_iff operator.symbol_ne_nil operator.space_not_mem_symbol front rest
  rw [Condition.clause]
  split
  next noName => rw [divides, noName]; simp [operator.symbol_ne_nil]
  next => rw [Condition.written, divides, divides]

theorem startsClear_symbol_append (operator : Operator) (rest : List Char) :
    StartsClear (operator.symbol ++ rest) := by
  refine StartsClear.append ?_ operator.symbol_ne_nil rest
  cases operator <;> intro c isFirst <;> cases isFirst <;> decide

theorem exists_written_eq_append_literal (condition : Condition) :
    ∃ front, condition.written = front ++ condition.value.literal.toList :=
  ⟨condition.column.toList ++ ' ' :: (condition.operator.symbol ++ [' ']),
    by simp [Condition.written]⟩

theorem exists_clause_eq_append_literal (condition : Condition) :
    ∃ front, condition.clause = front ++ condition.value.literal.toList := by
  rw [Condition.clause]
  split
  · exact ⟨condition.operator.symbol ++ [' '], by simp⟩
  · exact exists_written_eq_append_literal condition

section Clause

variable {condition : Condition}
variable (trimmed : trim condition.column.toList = condition.column.toList)
variable (kind : condition.value.IntegerOrText)
include kind

theorem getLast?_clause :
    ∀ c ∈ condition.clause.getLast?, isBlank c = false ∧ c ≠ ';' := by
  obtain ⟨front, split⟩ := exists_clause_eq_append_literal condition
  rw [split, List.getLast?_append_of_ne_nil front (literal_ne_nil kind)]
  exact getLast?_literal kind

theorem clause_ne_nil : condition.clause ≠ [] := by
  obtain ⟨front, split⟩ := exists_clause_eq_append_literal condition
  rw [split]
  exact List.append_ne_nil_of_right_ne_nil front (literal_ne_nil kind)

include trimmed

omit kind in
theorem startsClear_clause : StartsClear condition.clause := by
  rw [Condition.clause]
  split
  next => exact startsClear_symbol_append _ _
  next named => exact ((trim_eq_self_iff _).1 trimmed).1.append named _

/-- What the reader of a filter gets of a written condition. -/
theorem trim_written : trim (' ' :: condition.written) = condition.clause := by
  have clauseTrimmed : trim condition.clause = condition.clause :=
    trim_eq_self (startsClear_clause trimmed) fun c isLast => (getLast?_clause kind c isLast).1
  rw [trim_space_cons]
  conv_rhs => rw [← clauseTrimmed, Condition.clause]
  split
  next noName => rw [Condition.written, noName, List.nil_append, trim_space_cons]
  next => rfl

theorem withoutTerminator_clause : withoutTerminator condition.clause = condition.clause :=
  withoutTerminator_eq_self (startsClear_clause trimmed) (getLast?_clause kind)

omit trimmed in
/-- The scan stops at a written operator exactly when no operator that is scanned
earlier occurs in the column or in the text of the value. -/
theorem noneEarlier_clause_iff :
    (∀ earlier ∈ condition.operator.scannedBefore, ¬ earlier.symbol <:+: condition.clause) ↔
      (∀ earlier ∈ condition.operator.scannedBefore,
        ¬ earlier.symbol <:+: condition.column.toList) ∧
      ∀ content, condition.value = .text content →
        ∀ earlier ∈ condition.operator.scannedBefore, ¬ earlier.symbol <:+: content.toList := by
  simp only [infix_clause_iff, infix_literal_iff kind, not_or, not_exists, not_and]
  constructor
  · intro clear
    refine ⟨fun earlier isEarlier => (clear earlier isEarlier).1, ?_⟩
    intro content isText earlier isEarlier
    exact (clear earlier isEarlier).2.2 content isText
  · rintro ⟨inColumn, inText⟩ earlier isEarlier
    refine ⟨inColumn earlier isEarlier, Operator.not_infix_symbol_of_scannedBefore isEarlier, ?_⟩
    intro content isText
    exact inText content isText earlier isEarlier

/-- **A written condition that the scan reads right is read back.** -/
theorem Condition.parse_clause (scannable : condition.Scannable) :
    Condition.parse condition.clause = .ok condition := by
  obtain ⟨front, cut, column⟩ : ∃ front,
      splitAtSymbol? condition.operator.symbol condition.clause =
        some (front, ' ' :: condition.value.literal.toList) ∧
      trim front = condition.column.toList := by
    rw [Condition.clause]
    split
    next noName =>
      exact ⟨[], splitAtSymbol?_front condition.operator.symbol_ne_nil _, noName.symm⟩
    next =>
      refine ⟨condition.column.toList ++ [' '],
        splitAtSymbol?_first condition.operator.space_not_mem_symbol
          condition.operator.symbol_ne_nil scannable.ownSymbol _, ?_⟩
      rw [trim_append_blanks blanks_space, trimmed]
  have found : findOperator? condition.clause =
      some (condition.operator, front, ' ' :: condition.value.literal.toList) :=
    findOperator?_eq_some_iff.2 ⟨cut,
      (noneEarlier_clause_iff kind).2 ⟨scannable.earlierInColumn, scannable.earlierInText⟩⟩
  have value : trim (' ' :: condition.value.literal.toList) = condition.value.literal.toList := by
    rw [trim_space_cons]
    exact trim_eq_self (startsClear_literal kind) fun c isLast => (getLast?_literal kind c isLast).1
  rw [Condition.parse, withoutTerminator_clause trimmed kind, found]
  simp only [column, value, parseLiteral_literal kind, String.ofList_toList]

/-- The filter of a written statement is read as its clause. -/
theorem parseFilter_written :
    parseFilter (some (trim (' ' :: condition.written))) =
      (Condition.parse condition.clause).map some := by
  have nonempty : condition.clause.isEmpty = false := by simpa using clause_ne_nil kind
  simp only [parseFilter, trim_written trimmed kind, withoutTerminator_clause trimmed kind,
    nonempty]
  rfl

end Clause

end CsvQuery
