import CsvQuery.Table
import CsvQuery.Proofs.Lists.FirstIn
import Mathlib.Data.List.Induction
import Mathlib.Data.List.Nodup

/-!
# Forming a table

A table is formed of a name, columns and rows.  Columns with distinct names and rows with
cells in them make a table, and it has that name, those columns and those rows
(`Table.exists_ofRows`).  If a name occurs twice, the search for a repeated one stops at
the first name that occurs before it, and the columns are refused with that name, whatever
the rows are (`Table.ofRows_of_firstRepeat`).  Rows are searched behind distinct columns
only, and the first row with a cell outside the columns is reported by its number
(`Table.ofRows_of_firstUndeclared`).  No other outcome is possible (`Table.forming_ofRows`).
-/

set_option autoImplicit false

namespace CsvQuery

/-! ## The cells of a row -/

theorem Row.isSome_get?_iff {row : Row} {column : String} :
    (row.get? column).isSome ↔ column ∈ row.columns := by
  rw [Row.get?, List.lookup_isSome_iff, Row.columns, List.mem_map]
  simp only [beq_iff_eq, @eq_comm _ column]

/-! ## The first repeated name -/

/-- The first name of a list that occurs before it. -/
def FirstRepeat {α : Type} (names : List α) (name : α) : Prop :=
  ∃ front back, names = front ++ name :: back ∧ name ∈ front ∧ front.Nodup

/-- A name is repeated first exactly when the names are not distinct. -/
theorem exists_firstRepeat_iff {α : Type} {names : List α} :
    (∃ name, FirstRepeat names name) ↔ ¬ names.Nodup := by
  constructor
  · rintro ⟨name, front, back, rfl, isIn, -⟩ distinct
    exact List.disjoint_of_nodup_append distinct isIn (List.mem_cons_self ..)
  · intro notDistinct
    induction names using List.reverseRecOn with
    | nil => exact absurd List.nodup_nil notDistinct
    | append_singleton front last ih =>
        by_cases distinct : front.Nodup
        · have isIn : last ∈ front := by
            by_contra isNew
            exact notDistinct (by simpa using distinct.concat isNew)
          exact ⟨last, front, [], rfl, isIn, distinct⟩
        · obtain ⟨name, before, behind, rfl, isIn, isFirst⟩ := ih distinct
          exact ⟨name, before, behind ++ [last], by simp, isIn, isFirst⟩

/-- The first repetition is the same under other names for the same things. -/
theorem firstRepeat_map_iff {α β : Type} {rename : α → β} (injective : Function.Injective rename)
    {names : List α} {name : α} :
    FirstRepeat (names.map rename) (rename name) ↔ FirstRepeat names name := by
  constructor
  · rintro ⟨front, back, split, isIn, distinct⟩
    obtain ⟨before, rest, rfl, rfl, isBehind⟩ := List.map_eq_append_iff.1 split
    obtain ⟨other, behind, rfl, same, -⟩ := List.map_eq_cons_iff.1 isBehind
    obtain rfl := injective same
    exact ⟨before, behind, rfl, (List.mem_map_of_injective injective).1 isIn,
      (List.nodup_map_iff injective).1 distinct⟩
  · rintro ⟨front, back, rfl, isIn, distinct⟩
    exact ⟨front.map rename, back.map rename, by simp, List.mem_map_of_mem isIn,
      distinct.map injective⟩

/-! ## Searching the names and the cells -/

/-- Distinct names that were not seen before are passed over, and then they are seen. -/
theorem firstRepeated?_append {seen front : List String} (distinct : front.Nodup)
    (isNew : ∀ name ∈ front, name ∉ seen) (back : List String) :
    firstRepeated? seen (front ++ back) = firstRepeated? (front.reverse ++ seen) back := by
  induction front generalizing seen with
  | nil => rfl
  | cons name front ih =>
      obtain ⟨notInFront, frontDistinct⟩ := List.nodup_cons.1 distinct
      rw [List.cons_append, firstRepeated?, if_neg (isNew name (List.mem_cons_self ..)),
        List.reverse_cons, List.append_assoc, List.singleton_append]
      refine ih frontDistinct fun other isIn wasSeen => ?_
      rcases List.mem_cons.1 wasSeen with rfl | inSeen
      · exact notInFront isIn
      · exact isNew other (List.mem_cons_of_mem _ isIn) inSeen

theorem firstRepeated?_eq_none {names : List String} (distinct : names.Nodup) :
    firstRepeated? [] names = none := by
  have passed := firstRepeated?_append distinct (by simp : ∀ name ∈ names, name ∉ []) []
  rw [List.append_nil] at passed
  rw [passed, firstRepeated?]

theorem firstRepeated?_of_firstRepeat {names : List String} {name : String}
    (isRepeated : FirstRepeat names name) : firstRepeated? [] names = some name := by
  obtain ⟨front, back, rfl, isIn, distinct⟩ := isRepeated
  rw [firstRepeated?_append distinct (by simp), firstRepeated?,
    if_pos (List.mem_append_left _ (List.mem_reverse.2 isIn))]

theorem FirstRepeat.unique {names : List String} {name other : String}
    (isRepeated : FirstRepeat names name) (otherRepeated : FirstRepeat names other) :
    name = other := by
  have found := firstRepeated?_of_firstRepeat otherRepeated
  rw [firstRepeated?_of_firstRepeat isRepeated] at found
  exact Option.some.inj found

/-- Rows without a cell outside the columns are passed over and counted. -/
theorem firstUndeclared?_append {columns : List String} {front : List Row}
    (declared : ∀ row ∈ front, ∀ column ∈ row.columns, column ∈ columns) (index : Nat)
    (back : List Row) :
    firstUndeclared? columns index (front ++ back) =
      firstUndeclared? columns (index + front.length) back := by
  induction front generalizing index with
  | nil => rfl
  | cons row front ih =>
      obtain ⟨here, behind⟩ := List.forall_mem_cons.1 declared
      have noneFound : row.columns.find? (· ∉ columns) = none := by
        refine List.find?_eq_none.2 fun column isIn => ?_
        simpa using here column isIn
      rw [List.cons_append, firstUndeclared?, noneFound]
      simp only
      rw [ih behind, List.length_cons, Nat.add_right_comm, Nat.add_assoc]

theorem firstUndeclared?_eq_none {columns : List String} {index : Nat} {rows : List Row}
    (declared : ∀ row ∈ rows, ∀ column ∈ row.columns, column ∈ columns) :
    firstUndeclared? columns index rows = none := by
  have passed := firstUndeclared?_append declared index []
  rw [List.append_nil] at passed
  rw [passed, firstUndeclared?]

/-- At most one column of a row is not among the given ones. -/
def Row.AtMostOneUndeclared (columns : List String) (row : Row) : Prop :=
  ∀ first ∈ row.columns, ∀ second ∈ row.columns, first ∉ columns → second ∉ columns →
    first = second

instance (columns : List String) (row : Row) : Decidable (row.AtMostOneUndeclared columns) :=
  inferInstanceAs (Decidable (∀ first ∈ row.columns, ∀ second ∈ row.columns, _ → _ → _ = _))

/-- The number of the first row with a cell outside the columns, counted from 1, and the
column of such a cell. -/
def FirstUndeclared (columns : List String) (rows : List Row) (number : Nat) (column : String) :
    Prop :=
  ∃ front row back, rows = front ++ row :: back ∧ number = front.length + 1 ∧
    column ∈ row.columns ∧ column ∉ columns ∧
    ∀ other ∈ front, ∀ declared ∈ other.columns, declared ∈ columns

theorem exists_firstUndeclared_iff {columns : List String} {rows : List Row} :
    (∃ number column, FirstUndeclared columns rows number column) ↔
      ¬ ∀ row ∈ rows, ∀ column ∈ row.columns, column ∈ columns := by
  constructor
  · rintro ⟨number, column, front, row, back, rfl, -, isIn, notDeclared, -⟩ declared
    exact notDeclared (declared row (by simp) column isIn)
  · intro notDeclared
    have someRow : ∃ row ∈ rows, ∃ column ∈ row.columns, column ∉ columns := by
      simpa using notDeclared
    obtain ⟨row, front, back, split, ⟨column, isIn, isOutside⟩, before⟩ := exists_firstIn_iff.2 someRow
    refine ⟨front.length + 1, column, front, row, back, split, rfl, isIn, isOutside, ?_⟩
    simpa using before

theorem firstUndeclared?_of_firstUndeclared {columns : List String} {rows : List Row}
    {number : Nat} {column : String} (isFirst : FirstUndeclared columns rows number column)
    (atMostOne : ∀ row ∈ rows, row.AtMostOneUndeclared columns) :
    firstUndeclared? columns 1 rows = some (number, column) := by
  obtain ⟨front, row, back, rfl, rfl, isIn, isOutside, before⟩ := isFirst
  have found : row.columns.find? (· ∉ columns) = some column := by
    cases search : row.columns.find? (· ∉ columns) with
    | none => exact absurd isOutside (by simpa using List.find?_eq_none.1 search column isIn)
    | some other =>
        have otherOutside : other ∉ columns := by simpa using List.find?_some search
        exact congrArg some (atMostOne row (by simp) other (List.mem_of_find?_eq_some search)
          column isIn otherOutside isOutside)
  rw [firstUndeclared?_append before, firstUndeclared?, found, Nat.add_comm]

namespace Table

/-! ## Columns and rows that are accepted or refused -/

theorem name_of_ofRows {name : String} {columns : List String} {rows : List Row}
    {table : Table} (accepted : Table.ofRows name columns rows = .ok table) :
    table.name = name := by
  rw [Table.ofRows] at accepted
  split at accepted
  · cases accepted
  · split at accepted
    · cases accepted
    · cases accepted
      rfl

/-- Rows with cells in distinct columns make a table. -/
theorem exists_ofRows (name : String) {columns : List String} {rows : List Row}
    (distinct : columns.Nodup)
    (declared : ∀ row ∈ rows, ∀ column ∈ row.columns, column ∈ columns) :
    ∃ table, Table.ofRows name columns rows = .ok table ∧
      table.name = name ∧ table.columns = columns ∧ table.rows = rows := by
  rw [Table.ofRows]
  split
  next repeated =>
    rw [firstRepeated?_eq_none distinct] at repeated
    cases repeated
  next =>
    split
    next undeclared =>
      rw [firstUndeclared?_eq_none declared] at undeclared
      cases undeclared
    next => exact ⟨_, rfl, rfl, rfl, rfl⟩

/-- Columns with a repeated name are refused with the first one, whatever the rows are. -/
theorem ofRows_of_firstRepeat (name : String) {columns : List String} {column : String}
    (isRepeated : FirstRepeat columns column) (rows : List Row) :
    Table.ofRows name columns rows = .error (.duplicateColumn name column) := by
  have found := firstRepeated?_of_firstRepeat isRepeated
  rw [Table.ofRows]
  split
  next repeated =>
    rw [found] at repeated
    cases repeated
    rfl
  next noneRepeated =>
    rw [found] at noneRepeated
    cases noneRepeated

/-- Distinct columns and a cell outside them are refused with the number of the first row
that has such a cell. -/
theorem ofRows_of_firstUndeclared (name : String) {columns : List String} {rows : List Row}
    {number : Nat} {column : String} (distinct : columns.Nodup)
    (found : firstUndeclared? columns 1 rows = some (number, column)) :
    Table.ofRows name columns rows = .error (.unknownColumn name number column) := by
  rw [Table.ofRows]
  split
  next repeated =>
    rw [firstRepeated?_eq_none distinct] at repeated
    cases repeated
  next =>
    split
    next undeclared =>
      rw [found] at undeclared
      cases undeclared
      rfl
    next noneUndeclared =>
      rw [found] at noneUndeclared
      cases noneUndeclared

/-! ## Every outcome -/

/-- What comes of a name, columns and rows.  The columns are looked at first, and the rows
only if the columns are distinct.  Which cell of a row is reported is told where the row
has one cell outside the columns. -/
structure Forming (name : String) (columns : List String) (rows : List Row)
    (outcome : Except StorageError Table) : Prop where
  exists_ok_iff : (∃ table, outcome = .ok table) ↔
    columns.Nodup ∧ ∀ row ∈ rows, ∀ column ∈ row.columns, column ∈ columns
  ok : ∀ table, outcome = .ok table →
    table.name = name ∧ table.columns = columns ∧ table.rows = rows
  exists_duplicate_iff :
    (∃ table column, outcome = .error (.duplicateColumn table column)) ↔ ¬ columns.Nodup
  duplicate_iff : ∀ table column, outcome = .error (.duplicateColumn table column) ↔
    table = name ∧ FirstRepeat columns column
  exists_unknown_iff :
    (∃ table number column, outcome = .error (.unknownColumn table number column)) ↔
      columns.Nodup ∧ ¬ ∀ row ∈ rows, ∀ column ∈ row.columns, column ∈ columns
  unknown_iff : (∀ row ∈ rows, row.AtMostOneUndeclared columns) →
    ∀ table number column, outcome = .error (.unknownColumn table number column) ↔
      table = name ∧ columns.Nodup ∧ FirstUndeclared columns rows number column

theorem forming_of_firstRepeat (name : String) {columns : List String} {column : String}
    (isRepeated : FirstRepeat columns column) (rows : List Row) :
    Forming name columns rows (.error (.duplicateColumn name column)) := by
  have notDistinct := exists_firstRepeat_iff.1 ⟨column, isRepeated⟩
  refine {
    exists_ok_iff := iff_of_false nofun fun both => notDistinct both.1
    ok := nofun
    exists_duplicate_iff := iff_of_true ⟨name, column, rfl⟩ notDistinct
    duplicate_iff := fun table other => ?_
    exists_unknown_iff := iff_of_false nofun fun both => notDistinct both.1
    unknown_iff := fun _ _ _ _ => iff_of_false nofun fun all => notDistinct all.2.1 }
  constructor
  · rintro ⟨⟩
    exact ⟨rfl, isRepeated⟩
  · rintro ⟨rfl, otherRepeated⟩
    rw [isRepeated.unique otherRepeated]

theorem forming_of_firstUndeclared (name : String) {columns : List String} {rows : List Row}
    {number : Nat} {column : String} (distinct : columns.Nodup)
    (found : firstUndeclared? columns 1 rows = some (number, column)) :
    Forming name columns rows (.error (.unknownColumn name number column)) := by
  have notDeclared : ¬ ∀ row ∈ rows, ∀ column ∈ row.columns, column ∈ columns := by
    intro declared
    rw [firstUndeclared?_eq_none declared] at found
    cases found
  have noRepeat : ∀ other, ¬ FirstRepeat columns other :=
    fun other isRepeated => exists_firstRepeat_iff.1 ⟨other, isRepeated⟩ distinct
  refine {
    exists_ok_iff := iff_of_false nofun fun both => notDeclared both.2
    ok := nofun
    exists_duplicate_iff := iff_of_false nofun (not_not.2 distinct)
    duplicate_iff := fun _ other => iff_of_false nofun fun both => noRepeat other both.2
    exists_unknown_iff := iff_of_true ⟨name, number, column, rfl⟩ ⟨distinct, notDeclared⟩
    unknown_iff := fun atMostOne table otherNumber other => ?_ }
  constructor
  · rintro ⟨⟩
    obtain ⟨firstNumber, first, isFirst⟩ := exists_firstUndeclared_iff.2 notDeclared
    rw [firstUndeclared?_of_firstUndeclared isFirst atMostOne] at found
    cases found
    exact ⟨rfl, distinct, isFirst⟩
  · rintro ⟨rfl, -, isFirst⟩
    rw [firstUndeclared?_of_firstUndeclared isFirst atMostOne] at found
    cases found
    rfl

theorem forming_of_declared {name : String} {columns : List String} {rows : List Row}
    {table : Table} (sameName : table.name = name) (sameColumns : table.columns = columns)
    (sameRows : table.rows = rows) : Forming name columns rows (.ok table) := by
  have distinct : columns.Nodup := sameColumns ▸ table.columns_nodup
  have declared : ∀ row ∈ rows, ∀ column ∈ row.columns, column ∈ columns :=
    sameRows ▸ sameColumns ▸ table.rows_declared
  have noRepeat : ∀ column, ¬ FirstRepeat columns column :=
    fun column isRepeated => exists_firstRepeat_iff.1 ⟨column, isRepeated⟩ distinct
  refine {
    exists_ok_iff := iff_of_true ⟨table, rfl⟩ ⟨distinct, declared⟩
    ok := ?_
    exists_duplicate_iff := iff_of_false nofun (not_not.2 distinct)
    duplicate_iff := fun _ column => iff_of_false nofun fun both => noRepeat column both.2
    exists_unknown_iff := iff_of_false nofun fun both => both.2 declared
    unknown_iff := fun _ _ number column => iff_of_false nofun fun all =>
      exists_firstUndeclared_iff.1 ⟨number, column, all.2.2⟩ declared }
  rintro _ ⟨⟩
  exact ⟨sameName, sameColumns, sameRows⟩

/-- **A table is formed exactly of distinct columns and rows with cells in them, and
otherwise the first offence is reported, a repeated column before a cell outside the
columns.** -/
theorem forming_ofRows (name : String) (columns : List String) (rows : List Row) :
    Forming name columns rows (Table.ofRows name columns rows) := by
  by_cases distinct : columns.Nodup
  · cases found : firstUndeclared? columns 1 rows with
    | none =>
        obtain ⟨table, accepted, sameName, sameColumns, sameRows⟩ :=
          exists_ofRows name distinct (declared_of_firstUndeclared?_eq_none found)
        rw [accepted]
        exact forming_of_declared sameName sameColumns sameRows
    | some offence =>
        obtain ⟨number, column⟩ := offence
        rw [ofRows_of_firstUndeclared name distinct found]
        exact forming_of_firstUndeclared name distinct found
  · obtain ⟨column, isRepeated⟩ := exists_firstRepeat_iff.2 distinct
    rw [ofRows_of_firstRepeat name isRepeated]
    exact forming_of_firstRepeat name isRepeated rows

/-- The second row is the first with a cell outside the columns, and it is not looked at
when a column is repeated. -/
theorem forming_ofRows_second_row :
    ∃ rows : List Row,
      rows = [{ cells := [("a", "1")] }, { cells := [("b", "2"), ("c", "3"), ("a", "4")] },
        { cells := [("d", "5")] }] ∧
      (∀ row ∈ rows, row.AtMostOneUndeclared ["a", "b"]) ∧
      Table.ofRows "t" ["a", "b"] rows = .error (.unknownColumn "t" 2 "c") ∧
      Table.ofRows "t" ["a", "b", "b", "a"] rows = .error (.duplicateColumn "t" "b") := by
  let second : Row := { cells := [("b", "2"), ("c", "3"), ("a", "4")] }
  let rows : List Row := [{ cells := [("a", "1")] }, second, { cells := [("d", "5")] }]
  have atMostOne : ∀ row ∈ rows, row.AtMostOneUndeclared ["a", "b"] := by decide
  have isFirst : FirstUndeclared ["a", "b"] rows 2 "c" :=
    ⟨[{ cells := [("a", "1")] }], second, [{ cells := [("d", "5")] }], rfl, rfl, by decide,
      by decide, by decide⟩
  have isRepeated : FirstRepeat ["a", "b", "b", "a"] "b" :=
    ⟨["a", "b"], ["a"], rfl, by decide, by decide⟩
  refine ⟨rows, rfl, atMostOne, ?_, ?_⟩
  · exact ((forming_ofRows "t" ["a", "b"] rows).unknown_iff atMostOne "t" 2 "c").2
      ⟨rfl, by decide, isFirst⟩
  · exact ((forming_ofRows "t" ["a", "b", "b", "a"] rows).duplicate_iff "t" "b").2
      ⟨rfl, isRepeated⟩

end Table

end CsvQuery
