import CsvQuery.Proofs.Query.UnquotedValue
import CsvQuery.QueryError

/-!
# Runs of operator characters

An operator that is given by itself has to be one of the six symbols, and any other
run of operator characters is refused.  In a condition the same run is not refused: the
scan takes the first operator it finds in it, and the characters around that one are
left to the column and to the value.  So `a <> 1` compares `a` by `<` with the text
`> 1`, and only a run of exclamation marks has no operator (`Query.parse_operatorMarks`).
-/

set_option autoImplicit false

namespace CsvQuery

open CsvQuery.Text

/-- The characters of the operators. -/
def operatorChars : List Char := ['=', '!', '<', '>']

namespace Operator

/-- Where an operator is read in a run of operator characters: no operator that is
scanned earlier occurs in the run, and there is no occurrence further to the left. -/
structure ReadIn (marks before : List Char) (operator : Operator) (after : List Char) :
    Prop where
  split : marks = before ++ operator.symbol ++ after
  first : ∀ earlier ∈ operator.scannedBefore, ¬ earlier.symbol <:+: marks
  leftmost : ∀ other otherAfter, marks = other ++ operator.symbol ++ otherAfter →
    before.length ≤ other.length

/-- An operator is read in a run exactly where the scan finds it. -/
theorem readIn_iff {marks before after : List Char} {operator : Operator} :
    operator.ReadIn marks before after ↔ findOperator? marks = some (operator, before, after) := by
  rw [findOperator?_eq_some_iff]
  constructor
  · rintro ⟨split, noneEarlier, leftmost⟩
    have occurs : operator.symbol <:+: marks := ⟨before, after, split.symm⟩
    have somewhere : splitAtSymbol? operator.symbol marks ≠ none := fun nowhere =>
      (splitAtSymbol?_eq_none_iff operator.symbol_ne_nil marks).1 nowhere occurs
    obtain ⟨⟨front, rest⟩, found⟩ := Option.ne_none_iff_exists'.1 somewhere
    have cut := eq_append_of_splitAtSymbol? found
    have sameLength : before.length = front.length :=
      Nat.le_antisymm (leftmost front rest cut) (length_le_of_splitAtSymbol? found split)
    rw [split, List.append_assoc, List.append_assoc] at cut
    obtain ⟨sameFront, sameBehind⟩ := List.append_inj cut sameLength
    exact ⟨by rw [found, sameFront, List.append_cancel_left sameBehind], noneEarlier⟩
  · rintro ⟨cut, noneEarlier⟩
    exact {
      split := eq_append_of_splitAtSymbol? cut
      first := noneEarlier
      leftmost := fun other otherAfter occurs => length_le_of_splitAtSymbol? cut occurs }

/-! ## Operators by themselves -/

theorem ofSymbol?_eq_some_iff {text : List Char} {operator : Operator} :
    ofSymbol? text = some operator ↔ text = operator.symbol := by
  constructor
  · intro recognised
    have same := List.find?_some recognised
    exact (eq_of_beq same).symm
  · rintro rfl
    exact ofSymbol?_symbol operator

theorem parse_eq_ok_iff {marks : String} {operator : Operator} :
    Operator.parse marks = .ok operator ↔ marks.toList = operator.symbol := by
  rw [← ofSymbol?_eq_some_iff, Operator.parse]
  cases ofSymbol? marks.toList <;> simp

end Operator

/-! ## Runs of operator characters -/

section Run

variable {marks : List Char} (areMarks : ∀ c ∈ marks, c ∈ operatorChars)
include areMarks

theorem endsFirmly_of_operatorChars (nonempty : marks ≠ []) : EndsFirmly marks := by
  have firmChars : ∀ c ∈ operatorChars, isBlank c = false ∧ c ≠ ';' := by decide
  exact ⟨nonempty, fun c isLast => firmChars c (areMarks c (List.mem_of_mem_getLast? isLast))⟩

/-- A run of operator characters without an operator has only exclamation marks. -/
theorem eq_exclamation_of_noOperator (clear : NoOperator marks) : ∀ c ∈ marks, c = '!' := by
  have alone : ∀ operator : Operator, ∀ c, operator.symbol = [c] → c ∉ marks := by
    intro operator c isSymbol isIn
    exact clear operator (isSymbol ▸ (List.singleton_infix_iff c marks).2 isIn)
  intro c isIn
  have isMark := areMarks c isIn
  simp only [operatorChars, List.mem_cons, List.not_mem_nil, or_false] at isMark
  rcases isMark with rfl | rfl | rfl | rfl
  · exact absurd isIn (alone .eq '=' rfl)
  · rfl
  · exact absurd isIn (alone .lt '<' rfl)
  · exact absurd isIn (alone .gt '>' rfl)

end Run

theorem noOperator_of_operatorChars {text : List Char} (clear : ∀ c ∈ operatorChars, c ∉ text) :
    NoOperator text := by
  have among : ∀ c ∈ ['=', '<', '>'], c ∈ operatorChars := by decide
  exact noOperator_of_not_mem fun c isOne => clear c (among c isOne)

/-- **A run of operator characters is the operator it spells, and otherwise the first
operator found in it, whose neighbours go to the column and to the value.** -/
theorem Query.parse_operatorMarks {source column marks value : String}
    (isSource : IsSourceName source) (trimmed : trim column.toList = column.toList)
    (columnClear : ∀ c ∈ operatorChars, c ∉ column.toList)
    (valueClear : ∀ c ∈ operatorChars, c ∉ value.toList)
    (nonempty : marks ≠ "") (areMarks : ∀ c ∈ marks.toList, c ∈ operatorChars) :
    (∀ operator, Operator.parse marks = .ok operator →
      Query.parse (comparisonText source column marks value) =
        .ok (satisfying source {
          column
          operator
          value := parseLiteral (withoutTerminator (withoutTerminator value.toList)) })) ∧
    ∀ refusal, Operator.parse marks = .error refusal →
      ((∀ c ∈ marks.toList, c = '!') ∧
        Query.parse (comparisonText source column marks value) = .error .missingOperator) ∨
      ∃ before stop after, Operator.ReadIn marks.toList before stop after ∧
        (before ≠ [] ∨ after ≠ []) ∧
        Query.parse (comparisonText source column marks value) =
          .ok (satisfying source {
            column := String.ofList (trim (column.toList ++ ' ' :: before))
            operator := stop
            value := parseLiteral
              (withoutTerminator (withoutTerminator (after ++ ' ' :: value.toList))) }) := by
  have columnFree := noOperator_of_operatorChars columnClear
  have valueFree := noOperator_of_operatorChars valueClear
  refine ⟨fun operator spelled => ?_, fun refusal refused => ?_⟩
  · have isSymbol : marks = String.ofList operator.symbol := by
      rw [← Operator.parse_eq_ok_iff.1 spelled, String.ofList_toList]
    rw [isSymbol]
    exact parse_comparisonText_symbol isSource trimmed columnFree valueFree
  · have firm : EndsFirmly marks.toList :=
      endsFirmly_of_operatorChars areMarks (by simpa using nonempty)
    have read := parse_comparisonText columnFree valueFree firm isSource
    cases found : findOperator? marks.toList with
    | none =>
        rw [found] at read
        exact .inl ⟨eq_exclamation_of_noOperator areMarks (findOperator?_eq_none_iff.1 found), read⟩
    | some parts =>
        obtain ⟨stop, before, after⟩ := parts
        have readIn := Operator.readIn_iff.2 found
        have afterFirm : after ≠ [] → EndsFirmly after :=
          endsFirmly_of_operatorChars fun c isIn => areMarks c (by rw [readIn.split]; simp [isIn])
        have notAlone : before ≠ [] ∨ after ≠ [] := by
          by_contra alone
          obtain ⟨rfl, rfl⟩ : before = [] ∧ after = [] := by simpa [not_or] using alone
          have spelled : Operator.parse marks = .ok stop :=
            Operator.parse_eq_ok_iff.2 (by simpa using readIn.split)
          rw [spelled] at refused
          cases refused
        rw [found] at read
        refine .inr ⟨before, stop, after, readIn, notAlone, ?_⟩
        rw [read, withoutTerminator_twice_append afterFirm]

theorem Query.parse_operatorMarks_on_both_sides :
    IsSourceName "t" ∧ trim "age".toList = "age".toList ∧
      (∀ c ∈ operatorChars, c ∉ "age".toList) ∧ (∀ c ∈ operatorChars, c ∉ "30".toList) ∧
      "<>=!" ≠ "" ∧ (∀ c ∈ "<>=!".toList, c ∈ operatorChars) ∧
      Operator.parse "<>=!" = .error (.unsupportedOperator "<>=!") ∧
      Query.parse (comparisonText "t" "age" "<>=!" "30") =
        .ok (satisfying "t" { column := "age <", operator := .ge, value := .text "! 30" }) := by
  have isSource : IsSourceName "t" := by decide
  have trimmed : trim "age".toList = "age".toList := by decide
  have columnClear : ∀ c ∈ operatorChars, c ∉ "age".toList := by decide
  have valueClear : ∀ c ∈ operatorChars, c ∉ "30".toList := by decide
  have nonempty : "<>=!" ≠ "" := by decide
  have areMarks : ∀ c ∈ "<>=!".toList, c ∈ operatorChars := by decide
  have refused : Operator.parse "<>=!" = .error (.unsupportedOperator "<>=!") := rfl
  refine ⟨isSource, trimmed, columnClear, valueClear, nonempty, areMarks, refused, ?_⟩
  have read := (Query.parse_operatorMarks isSource trimmed columnClear valueClear nonempty
    areMarks).2 _ refused
  rcases read with ⟨exclamations, -⟩ | ⟨before, stop, after, readIn, -, read⟩
  · exact absurd exclamations (by decide)
  · have found : findOperator? "<>=!".toList = some (.ge, ['<'], ['!']) := by decide
    have sameParts := Option.some.inj (found.symm.trans (Operator.readIn_iff.1 readIn))
    obtain ⟨rfl, rfl, rfl⟩ : Operator.ge = stop ∧ ['<'] = before ∧ ['!'] = after := by
      simpa using sameParts
    rw [read]
    rfl

/-- Marks that are refused as an operator can be read in a statement. -/
theorem Query.parse_refused_marks :
    ¬ ∀ column marks value : String, trim column.toList = column.toList →
      (∀ c ∈ operatorChars, c ∉ column.toList) → (∀ c ∈ operatorChars, c ∉ value.toList) →
      marks ≠ "" → (∀ c ∈ marks.toList, c ∈ operatorChars) →
      match Operator.parse marks with
      | .ok operator => ∃ read, Query.parse (comparisonText "t" column marks value) =
          .ok (satisfying "t" { column, operator, value := read })
      | .error _ => Query.parse (comparisonText "t" column marks value) =
          .error .missingOperator := by
  intro refused
  have notRead := refused "a" "<>" "1" (by decide) (by decide) (by decide) (by decide) (by decide)
  have firm : EndsFirmly "<>".toList := endsFirmly_of_operatorChars (by decide) (by decide)
  have found : findOperator? "<>".toList = some (.lt, [], ['>']) := by decide
  have isRead : Query.parse (Query.comparisonText "t" "a" "<>" "1") =
      .ok (Query.satisfying "t" { column := "a", operator := .lt, value := .text "> 1" }) := by
    rw [Query.parse_comparisonText (noOperator_of_operatorChars (by decide))
      (noOperator_of_operatorChars (by decide)) firm (by decide), found]
    rfl
  cases notRead.symm.trans isRead

end CsvQuery
