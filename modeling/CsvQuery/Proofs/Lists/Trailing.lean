import Mathlib.Data.List.TakeWhile

/-!
# Copies at the end of a list

Texts lose zeros and lists of items lose empty texts at their end.  What is dropped is
copies of one element (`exists_eq_dropped_append`), and all of them are dropped
(`getLast?_dropped`).
-/

set_option autoImplicit false

namespace CsvQuery

theorem exists_eq_dropped_append {α : Type} {isMark : α → Bool} {mark : α}
    (only : ∀ element, isMark element = true → element = mark) (list : List α) :
    ∃ count, list = (list.reverse.dropWhile isMark).reverse ++ List.replicate count mark := by
  have dropped : ∀ element ∈ (list.reverse.takeWhile isMark).reverse, element = mark :=
    fun element isIn => only element (List.mem_takeWhile_imp (List.mem_reverse.1 isIn))
  refine ⟨(list.reverse.takeWhile isMark).reverse.length, ?_⟩
  rw [← List.eq_replicate_of_mem dropped, ← List.reverse_append, List.takeWhile_append_dropWhile,
    List.reverse_reverse]

theorem getLast?_dropped {α : Type} {isMark : α → Bool} {list : List α} :
    ∀ element ∈ (list.reverse.dropWhile isMark).reverse.getLast?, isMark element = false := by
  intro element isLast
  have stopped := List.head?_dropWhile_not isMark list.reverse
  rw [List.getLast?_reverse, Option.mem_def] at isLast
  rw [isLast] at stopped
  simpa using stopped

end CsvQuery
