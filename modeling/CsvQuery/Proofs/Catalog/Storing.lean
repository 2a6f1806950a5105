import CsvQuery.Catalog
import Mathlib.Data.List.Perm.Basic

/-!
# Storing tables

Storing a table under its name is what a map does with a key: the table is found
under the name from then on, every other name keeps its table (`Catalog.find?_insert`),
and the table that had the name is the one that leaves (`Catalog.displaced?_eq_find?`).
Since the names of a catalog are increasing, a catalog is no more than the map from
names to tables that it stands for (`Catalog.ext_find?`).
-/

set_option autoImplicit false

namespace CsvQuery

/-! ## A table in its place -/

theorem find?_name_cons (first : Table) (rest : List Table) (name : String) :
    (first :: rest).find? (·.name == name) =
      if first.name = name then some first else rest.find? (·.name == name) := by
  by_cases here : first.name = name
  · rw [if_pos here, List.find?_cons_of_pos (by simpa using here)]
  · rw [if_neg here, List.find?_cons_of_neg (by simpa using here)]

theorem find?_placeTable (table : Table) (tables : List Table) (name : String) :
    (placeTable table tables).find? (·.name == name) =
      if table.name = name then some table else tables.find? (·.name == name) := by
  induction tables with
  | nil => exact find?_name_cons table [] name
  | cons first rest ih =>
      rw [placeTable]
      split
      · exact find?_name_cons table (first :: rest) name
      · split
        next same =>
          rw [find?_name_cons, find?_name_cons, ← same]
          split <;> rfl
        next different =>
          rw [find?_name_cons, find?_name_cons, ih]
          by_cases here : first.name = name
          · have elsewhere : table.name ≠ name := fun same => different (same.trans here.symm)
            rw [if_pos here, if_neg elsewhere, if_pos here]
          · rw [if_neg here, if_neg here]

/-- Nothing but the replaced table is lost from a list, and nothing but the new table
is added. -/
theorem perm_placeTable (table : Table) (tables : List Table) :
    (table :: tables).Perm ((replacedTable? table tables).toList ++ placeTable table tables) := by
  induction tables with
  | nil => exact .refl _
  | cons first rest ih =>
      rw [placeTable, replacedTable?]
      split
      · exact .refl _
      · split
        · exact .swap ..
        · exact (List.Perm.swap ..).trans ((ih.cons first).trans List.perm_middle.symm)

theorem replacedTable?_eq_find? {table : Table} {tables : List Table}
    (sorted : tables.Pairwise (·.name < ·.name)) :
    replacedTable? table tables = tables.find? (·.name == table.name) := by
  induction tables with
  | nil => rfl
  | cons first rest ih =>
      obtain ⟨firstBefore, restSorted⟩ := List.pairwise_cons.1 sorted
      rw [replacedTable?]
      split
      next before =>
        -- The names only increase from here, so none of them is the table's.
        refine (List.find?_eq_none.2 fun other isIn => ?_).symm
        have after : table.name < other.name := by
          rcases List.mem_cons.1 isIn with rfl | inRest
          · exact before
          · exact String.lt_trans before (firstBefore other inRest)
        simpa using (Std.ne_of_lt after).symm
      next =>
        split
        next same => rw [find?_name_cons, if_pos same.symm]
        next different =>
          rw [find?_name_cons, if_neg fun same => different same.symm, ih restSorted]

namespace Catalog

/-! ## A catalog as a map -/

theorem find?_empty (name : String) : empty.find? name = none := rfl

/-- **A stored table is found under its name, and no other name is touched.** -/
theorem find?_insert (catalog : Catalog) (table : Table) (name : String) :
    (catalog.insert table).find? name =
      if table.name = name then some table else catalog.find? name :=
  find?_placeTable table catalog.tables name

/-- **The table that leaves is the one that had the name.** -/
theorem displaced?_eq_find? (catalog : Catalog) (table : Table) :
    catalog.displaced? table = catalog.find? table.name :=
  replacedTable?_eq_find? catalog.sorted

theorem name_of_find? {catalog : Catalog} {name : String} {table : Table}
    (found : catalog.find? name = some table) : table.name = name := by
  simpa using List.find?_some found

theorem mem_tables_of_find? {catalog : Catalog} {name : String} {table : Table}
    (found : catalog.find? name = some table) : table ∈ catalog.tables :=
  List.mem_of_find?_eq_some found

theorem find?_of_mem_tables {catalog : Catalog} {table : Table} (isIn : table ∈ catalog.tables) :
    catalog.find? table.name = some table := by
  obtain ⟨front, back, split⟩ := List.append_of_mem isIn
  refine List.find?_eq_some_iff_append.2 ⟨by simp, front, back, split, ?_⟩
  intro other inFront
  have sorted := catalog.sorted
  rw [split] at sorted
  have before := (List.pairwise_append.1 sorted).2.2 other inFront table (List.mem_cons_self ..)
  simpa using Std.ne_of_lt before

theorem get_eq_ok_iff {catalog : Catalog} {name : String} {table : Table} :
    catalog.get name = .ok table ↔ catalog.find? name = some table := by
  rw [get]
  cases catalog.find? name <;> simp

theorem get_eq_error_of_find?_eq_none {catalog : Catalog} {name : String}
    (notFound : catalog.find? name = none) : catalog.get name = .error (.tableNotFound name) := by
  rw [get, notFound]

theorem names_increasing (catalog : Catalog) : catalog.names.Pairwise (· < ·) :=
  List.pairwise_map.2 catalog.sorted

theorem mem_names_iff {catalog : Catalog} {name : String} :
    name ∈ catalog.names ↔ ∃ table, catalog.find? name = some table := by
  rw [names, List.mem_map]
  constructor
  · rintro ⟨table, isIn, rfl⟩
    exact ⟨table, find?_of_mem_tables isIn⟩
  · rintro ⟨table, found⟩
    exact ⟨table, mem_tables_of_find? found, name_of_find? found⟩

/-- **Catalogs with the same table under every name are equal.** -/
theorem ext_find? {first second : Catalog}
    (same : ∀ name, first.find? name = second.find? name) : first = second := by
  have sameMembers : ∀ table, table ∈ first.tables ↔ table ∈ second.tables := by
    intro table
    constructor
    · intro isIn
      exact mem_tables_of_find? (same table.name ▸ find?_of_mem_tables isIn)
    · intro isIn
      exact mem_tables_of_find? ((same table.name).symm ▸ find?_of_mem_tables isIn)
  have distinct : ∀ catalog : Catalog, catalog.tables.Nodup := fun catalog =>
    catalog.sorted.imp fun before sameTable => Std.ne_of_lt before (congrArg Table.name sameTable)
  have asymmetric : ∀ one other : Table, one ∈ first.tables → other ∈ second.tables →
      one.name < other.name → other.name < one.name → one = other :=
    fun _ _ _ _ before after => absurd (String.lt_trans before after) (String.lt_irrefl _)
  have sameTables : first.tables = second.tables :=
    ((List.perm_ext_iff_of_nodup (distinct first) (distinct second)).2 sameMembers).eq_of_pairwise
      asymmetric first.sorted second.sorted
  cases first
  cases second
  cases sameTables
  rfl

end Catalog

end CsvQuery
