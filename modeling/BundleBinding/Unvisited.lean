/-!
The measure of a search that remembers what it has visited: the items whose names it has not met.
Visiting a new one makes them fewer.
-/

namespace BundleBinding

variable {α β : Type} [DecidableEq β]

/-- The items whose names are not among the visited ones. -/
def unvisited (name : α → β) (items : List α) (visited : List β) : List α :=
  items.filter fun item => name item ∉ visited

theorem unvisited_cons (name : α → β) (items : List α) (visited : List β) (new : β) :
    unvisited name items (new :: visited) =
      (unvisited name items visited).filter fun item => name item ≠ new := by
  rw [unvisited, unvisited, List.filter_filter]
  apply List.filter_congr
  intro item _
  simp only [List.mem_cons, not_or, Bool.decide_and, ne_eq]

theorem length_unvisited_cons_le (name : α → β) (items : List α) (visited : List β) (new : β) :
    (unvisited name items (new :: visited)).length ≤ (unvisited name items visited).length := by
  rw [unvisited_cons]
  exact List.length_filter_le _ _

theorem length_unvisited_cons_lt {name : α → β} {items : List α} {visited : List β} {item : α}
    (hitem : item ∈ items) (hnew : name item ∉ visited) :
    (unvisited name items (name item :: visited)).length <
      (unvisited name items visited).length := by
  rw [unvisited_cons, List.length_filter_lt_length_iff_exists]
  refine ⟨item, ?_, ?_⟩
  · rw [unvisited, List.mem_filter]
    exact ⟨hitem, decide_eq_true hnew⟩
  · simp

end BundleBinding
