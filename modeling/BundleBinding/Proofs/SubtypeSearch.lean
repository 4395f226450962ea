import BundleBinding.Type.Hierarchy
import Mathlib.Algebra.BigOperators.Group.Finset.Basic
import Mathlib.Logic.Function.Iterate
import Mathlib.Logic.Relation

/-!
# The search for a supertype

A search has met the names that it has visited and those that wait. Nothing gets lost between the two:
whatever a visited name leads to directly has been met. So a search that comes to its end without the target
has visited every name that the queue leads to.

It comes to its end in any table. A name may wait more than once, but only its first turn adds to the queue,
so the supertypes of the names that have not been visited pay for all that will ever be queued.
-/

namespace BundleBinding.TypeTable

open Relation (TransGen)

variable {table : TypeTable} {target name : String} {visited queue : List String}

/-- The table lists the second name among the supertypes of the first. -/
def Lists (table : TypeTable) (name supertype : String) : Prop :=
  supertype ∈ table.supertypes name

def Met (visited queue : List String) (name : String) : Prop :=
  name ∈ visited ∨ name ∈ queue

theorem Met.skip {first : String} (hmet : Met visited (first :: queue) name)
    (hfirst : first ∈ visited) : Met visited queue name := by
  rcases hmet with hvisited | hqueued
  · exact .inl hvisited
  · rcases List.mem_cons.mp hqueued with rfl | hqueued
    · exact .inl hfirst
    · exact .inr hqueued

theorem Met.visit {first : String} (hmet : Met visited (first :: queue) name)
    (others : List String) : Met (first :: visited) (queue ++ others) name := by
  rcases hmet with hvisited | hqueued
  · exact .inl (List.mem_cons_of_mem _ hvisited)
  · rcases List.mem_cons.mp hqueued with rfl | hqueued
    · exact .inl List.mem_cons_self
    · exact .inr (List.mem_append_left _ hqueued)

/-- No visited name has the target as a direct supertype, and all their direct supertypes have been met. -/
def Explored (table : TypeTable) (target : String) (visited queue : List String) : Prop :=
  ∀ name ∈ visited, ∀ supertype, table.Lists name supertype →
    supertype ≠ target ∧ Met visited queue supertype

theorem Explored.skip {first : String} (hexplored : table.Explored target visited (first :: queue))
    (hfirst : first ∈ visited) : table.Explored target visited queue := by
  intro name hname supertype hlists
  obtain ⟨hne, hmet⟩ := hexplored name hname supertype hlists
  exact ⟨hne, hmet.skip hfirst⟩

theorem Explored.visit {first : String}
    (hexplored : table.Explored target visited (first :: queue))
    (htarget : target ∉ table.supertypes first) :
    table.Explored target (first :: visited) (queue ++ table.supertypes first) := by
  intro name hname supertype hlists
  rcases List.mem_cons.mp hname with rfl | hname
  · refine ⟨?_, .inr (List.mem_append_right _ hlists)⟩
    rintro rfl
    exact htarget hlists
  · obtain ⟨hne, hmet⟩ := hexplored name hname supertype hlists
    exact ⟨hne, hmet.visit _⟩

theorem Explored.not_transGen (hexplored : table.Explored target visited [])
    (hname : name ∈ visited) : ¬ TransGen table.Lists name target := by
  intro hchain
  induction hchain using TransGen.head_induction_on with
  | single hlists => exact (hexplored _ hname _ hlists).1 rfl
  | head hlists _ ih =>
      have hnext := (hexplored _ hname _ hlists).2.resolve_right List.not_mem_nil
      exact ih hnext

theorem reaches_of_transGen (hexplored : table.Explored target visited queue)
    (hmet : Met visited queue name) (hchain : TransGen table.Lists name target) :
    table.reaches target visited queue = true := by
  fun_induction reaches table target visited queue with
  | case1 visited =>
      have hvisited := hmet.resolve_right List.not_mem_nil
      exact absurd hchain (hexplored.not_transGen hvisited)
  | case2 visited first queue hfirst ih => exact ih (hexplored.skip hfirst) (hmet.skip hfirst)
  | case3 => rfl
  | case4 visited first queue _ htarget ih => exact ih (hexplored.visit htarget) (hmet.visit _)

theorem exists_transGen_of_reaches (hreaches : table.reaches target visited queue = true) :
    ∃ name ∈ queue, TransGen table.Lists name target := by
  fun_induction reaches table target visited queue with
  | case1 => cases hreaches
  | case2 visited first queue _ ih =>
      obtain ⟨name, hmem, hchain⟩ := ih hreaches
      exact ⟨name, List.mem_cons_of_mem _ hmem, hchain⟩
  | case3 visited first queue _ htarget => exact ⟨first, List.mem_cons_self, .single htarget⟩
  | case4 visited first queue _ _ ih =>
      obtain ⟨name, hmem, hchain⟩ := ih hreaches
      rcases List.mem_append.mp hmem with hqueued | hlists
      · exact ⟨name, List.mem_cons_of_mem _ hqueued, hchain⟩
      · exact ⟨first, List.mem_cons_self, .head hlists hchain⟩

theorem reaches_start_iff : table.reaches target [] [name] = true ↔ TransGen table.Lists name target := by
  constructor
  · intro hreaches
    obtain ⟨first, hmem, hchain⟩ := exists_transGen_of_reaches hreaches
    rwa [List.mem_singleton.mp hmem] at hchain
  · have hexplored : table.Explored target [] [name] := by
      intro other hother
      cases hother
    exact reaches_of_transGen hexplored (.inr List.mem_cons_self)

theorem isSubtype_iff {sub super : String} :
    table.isSubtype sub super = true ↔
      sub = super ∨ super = TypeRef.object ∨ TransGen table.Lists sub super := by
  rw [isSubtype, Bool.or_eq_true, Bool.or_eq_true, beq_iff_eq, beq_iff_eq, reaches_start_iff, or_assoc]

theorem isSubtype_of_transGen {sub super : String} (hchain : TransGen table.Lists sub super) :
    table.isSubtype sub super = true :=
  isSubtype_iff.mpr (.inr (.inr hchain))

/-! ### The length of a search -/

/-- The number of supertypes that the names not yet visited list. -/
def unspent (table : TypeTable) (visited : List String) : Nat :=
  ∑ name ∈ table.keys.toFinset \ visited.toFinset, (table.supertypes name).length

/-- A first visit spends what the name lists. -/
theorem unspent_visit (hnew : name ∉ visited) :
    table.unspent (name :: visited) + (table.supertypes name).length = table.unspent visited := by
  have hrest : table.keys.toFinset \ (name :: visited).toFinset =
      (table.keys.toFinset \ visited.toFinset).erase name := by
    rw [List.toFinset_cons, Finset.sdiff_insert]
  rw [unspent, unspent, hrest]
  by_cases hkey : name ∈ table.keys
  · refine Finset.sum_erase_add _ _ ?_
    rw [Finset.mem_sdiff, List.mem_toFinset, List.mem_toFinset]
    exact ⟨hkey, hnew⟩
  · rw [supertypes_of_not_mem hkey, List.length_nil, add_zero, Finset.erase_eq_of_notMem]
    rw [Finset.mem_sdiff, List.mem_toFinset]
    exact fun hmem => hkey hmem.1

/-- A search under way. It is over when no name waits, and then it tells whether the target came up. -/
structure Search where
  visited : List String
  queue : List String
  found : Bool

namespace Search

def start (name : String) : Search :=
  ⟨[], [name], false⟩

/-- One turn of the search, if it is not over: the name in front leaves the queue, and if it has not been
visited its supertypes are looked at. -/
def turn (table : TypeTable) (target : String) (search : Search) : Search :=
  match search.queue with
  | [] => search
  | name :: queue =>
      if name ∈ search.visited then ⟨search.visited, queue, search.found⟩
      else if target ∈ table.supertypes name then ⟨name :: search.visited, [], true⟩
      else ⟨name :: search.visited, queue ++ table.supertypes name, search.found⟩

end Search

/-- **Searching ends.** The search is a number of single turns, at most one for each name that waits and
for each supertype that may still be queued. -/
theorem exists_iterate_turn_eq (table : TypeTable) (target : String) (visited queue : List String) :
    ∃ turns ≤ queue.length + table.unspent visited, ∃ last,
      (Search.turn table target)^[turns] ⟨visited, queue, false⟩ =
        ⟨last, [], table.reaches target visited queue⟩ := by
  fun_induction reaches table target visited queue with
  | case1 visited => exact ⟨0, Nat.zero_le _, visited, rfl⟩
  | case2 visited first queue hfirst ih =>
      obtain ⟨turns, hturns, last, hrun⟩ := ih
      refine ⟨turns + 1, ?_, last, ?_⟩
      · rw [List.length_cons]
        omega
      · rw [Function.iterate_succ_apply, Search.turn]
        simp only [hfirst, if_true]
        exact hrun
  | case3 visited first queue hfirst htarget =>
      refine ⟨1, ?_, first :: visited, ?_⟩
      · rw [List.length_cons]
        omega
      · rw [Function.iterate_one, Search.turn]
        simp only [hfirst, htarget, if_false, if_true]
  | case4 visited first queue hfirst htarget ih =>
      obtain ⟨turns, hturns, last, hrun⟩ := ih
      have hspent := table.unspent_visit hfirst
      refine ⟨turns + 1, ?_, last, ?_⟩
      · rw [List.length_append] at hturns
        rw [List.length_cons]
        omega
      · rw [Function.iterate_succ_apply, Search.turn]
        simp only [hfirst, htarget, if_false]
        exact hrun

/-- **The search finds the chains.** In every table, also in one with cycles, the search for a supertype is
over after at most one turn more than the table lists supertypes. A type is found to be below another
exactly if it is the other, or the other is the object type, or direct supertypes lead from it to the
other in one step or more. -/
theorem subtype_search_finds_chains (table : TypeTable) (sub super : String) :
    (∃ turns ≤ 1 + table.unspent [], ∃ last,
      (Search.turn table super)^[turns] (Search.start sub) =
        ⟨last, [], table.reaches super [] [sub]⟩) ∧
    (table.isSubtype sub super = true ↔
      sub = super ∨ super = TypeRef.object ∨ TransGen table.Lists sub super) :=
  ⟨table.exists_iterate_turn_eq super [] [sub], isSubtype_iff⟩

end BundleBinding.TypeTable
