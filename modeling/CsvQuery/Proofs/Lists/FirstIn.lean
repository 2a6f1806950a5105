import Mathlib.Data.List.Forall2

/-!
# The first one with a property

A scan that stops reports the first element it cannot pass.  There is a first element with
a property exactly when there is one at all (`exists_firstIn_iff`).  What stands behind it
does not matter, nor what stands in front of it, as long as that passes, and a list that
agrees element by element has its first one at the same place (`FirstIn.exists_of_forall₂`).
-/

set_option autoImplicit false

namespace CsvQuery

/-- The first element of a list with a property. -/
def FirstIn {α : Type} (property : α → Prop) (list : List α) (element : α) : Prop :=
  ∃ front back, list = front ++ element :: back ∧ property element ∧
    ∀ other ∈ front, ¬ property other

theorem FirstIn.property {α : Type} {property : α → Prop} {list : List α} {element : α}
    (isFirst : FirstIn property list element) : property element := by
  obtain ⟨-, -, -, has, -⟩ := isFirst
  exact has

theorem firstIn_cons_iff {α : Type} {property : α → Prop} {first element : α} {rest : List α} :
    FirstIn property (first :: rest) element ↔
      property first ∧ element = first ∨ ¬ property first ∧ FirstIn property rest element := by
  constructor
  · rintro ⟨front, back, split, has, before⟩
    cases front with
    | nil =>
        obtain ⟨rfl, rfl⟩ := List.cons.inj split
        exact .inl ⟨has, rfl⟩
    | cons other front =>
        obtain ⟨rfl, restSplit⟩ := List.cons.inj split
        obtain ⟨firstHasNot, beforeRest⟩ := List.forall_mem_cons.1 before
        exact .inr ⟨firstHasNot, front, back, restSplit, has, beforeRest⟩
  · rintro (⟨has, rfl⟩ | ⟨firstHasNot, front, back, rfl, has, before⟩)
    · exact ⟨[], rest, rfl, has, by simp⟩
    · exact ⟨first :: front, back, rfl, has, List.forall_mem_cons.2 ⟨firstHasNot, before⟩⟩

/-- There is a first one exactly when there is one. -/
theorem exists_firstIn_iff {α : Type} {property : α → Prop} {list : List α} :
    (∃ element, FirstIn property list element) ↔ ∃ element ∈ list, property element := by
  constructor
  · rintro ⟨element, front, back, rfl, has, -⟩
    exact ⟨element, by simp, has⟩
  · intro some
    induction list with
    | nil => simp at some
    | cons first rest ih =>
        by_cases has : property first
        · exact ⟨first, firstIn_cons_iff.2 (.inl ⟨has, rfl⟩)⟩
        · obtain ⟨element, isFirst⟩ := ih (by simpa [has] using some)
          exact ⟨element, firstIn_cons_iff.2 (.inr ⟨has, isFirst⟩)⟩

theorem FirstIn.append_right {α : Type} {property : α → Prop} {upper : List α} {element : α}
    (isFirst : FirstIn property upper element) (lower : List α) :
    FirstIn property (upper ++ lower) element := by
  obtain ⟨front, back, rfl, has, before⟩ := isFirst
  exact ⟨front, back ++ lower, by simp, has, before⟩

theorem FirstIn.append_left {α : Type} {property : α → Prop} {upper lower : List α} {element : α}
    (noneAbove : ∀ other ∈ upper, ¬ property other) (isFirst : FirstIn property lower element) :
    FirstIn property (upper ++ lower) element := by
  obtain ⟨front, back, rfl, has, before⟩ := isFirst
  refine ⟨upper ++ front, back, by simp, has, ?_⟩
  exact List.forall_mem_append.2 ⟨noneAbove, before⟩

theorem FirstIn.exists_of_forall₂ {α : Type} {related : α → α → Prop} {property : α → Prop}
    (sameProperty : ∀ a b, related a b → (property a ↔ property b)) {list other : List α}
    (agree : List.Forall₂ related list other) {element : α}
    (isFirst : FirstIn property list element) :
    ∃ otherElement, FirstIn property other otherElement ∧ related element otherElement := by
  induction agree with
  | nil =>
      obtain ⟨front, back, split, -⟩ := isFirst
      simp at split
  | @cons first second rest others here _ ih =>
      rcases firstIn_cons_iff.1 isFirst with ⟨has, rfl⟩ | ⟨hasNot, inRest⟩
      · exact ⟨second, firstIn_cons_iff.2 (.inl ⟨(sameProperty _ _ here).1 has, rfl⟩), here⟩
      · obtain ⟨otherElement, otherFirst, isRelated⟩ := ih inRest
        refine ⟨otherElement, firstIn_cons_iff.2 (.inr ⟨?_, otherFirst⟩), isRelated⟩
        exact mt (sameProperty _ _ here).2 hasNot

end CsvQuery
