import BundleBinding.Binding.Spec
import Mathlib.Data.List.Nodup

/-!
# Ancestors

Where every specification of a list stands behind its parent, the ancestors of a specification stand
before it too, each one before the next nearer. So where hosts are distinct no host comes twice among
a specification and its ancestors.
-/

namespace BundleBinding

namespace BindingSpec

theorem ancestors_of_parent_none {spec : BindingSpec} (hparent : spec.parent = none) :
    spec.ancestors = [] := by
  obtain ⟨host, fields, parent⟩ := spec
  cases hparent
  rw [ancestors]

theorem ancestors_of_parent_some {spec parent : BindingSpec} (hparent : spec.parent = some parent) :
    spec.ancestors = parent :: parent.ancestors := by
  obtain ⟨host, fields, _⟩ := spec
  cases hparent
  rw [ancestors]

end BindingSpec

/-- Every specification of the list that has a parent stands behind it. -/
def ParentsFirst (specs : List BindingSpec) : Prop :=
  ∀ before spec after, specs = before ++ spec :: after →
    ∀ parent, spec.parent = some parent → parent ∈ before

theorem parentsFirst_nil : ParentsFirst [] := by
  intro before spec after hsplit
  simp at hsplit

theorem ParentsFirst.concat {specs : List BindingSpec} {last : BindingSpec}
    (hspecs : ParentsFirst specs) (hlast : ∀ parent, last.parent = some parent → parent ∈ specs) :
    ParentsFirst (specs ++ [last]) := by
  intro before spec after hsplit parent hparent
  rcases List.eq_nil_or_concat after with rfl | ⟨between, final, rfl⟩
  · obtain ⟨rfl, hspec⟩ := List.append_inj' hsplit rfl
    cases hspec
    exact hlast parent hparent
  · rw [List.concat_eq_append, ← List.cons_append, ← List.append_assoc] at hsplit
    obtain ⟨hsplit, _⟩ := List.append_inj' hsplit rfl
    exact hspecs before spec between hsplit parent hparent

/-- Read from the farthest to the nearest, the ancestors of a specification come in the order of the
list. -/
theorem ParentsFirst.reverse_ancestors_sublist {specs : List BindingSpec}
    (hspecs : ParentsFirst specs) {before after : List BindingSpec} {spec : BindingSpec}
    (hsplit : specs = before ++ spec :: after) : spec.ancestors.reverse.Sublist before := by
  -- The parent stands in `before`, with a shorter list before it.
  induction hlength : before.length using Nat.strongRecOn generalizing before spec after with
  | ind length ih =>
      cases hparent : spec.parent with
      | none =>
          rw [BindingSpec.ancestors_of_parent_none hparent, List.reverse_nil]
          exact List.nil_sublist before
      | some parent =>
          obtain ⟨first, second, rfl⟩ :=
            List.append_of_mem (hspecs before spec after hsplit parent hparent)
          have hshorter : first.length < length := by
            rw [← hlength, List.length_append, List.length_cons]
            omega
          have hparentSplit : specs = first ++ parent :: (second ++ spec :: after) := by
            rw [hsplit, List.append_assoc, List.cons_append]
          have hsub := ih first.length hshorter hparentSplit rfl
          rw [BindingSpec.ancestors_of_parent_some hparent, List.reverse_cons]
          exact hsub.append (List.singleton_sublist.mpr List.mem_cons_self)

theorem ParentsFirst.nodup_host_ancestors {specs : List BindingSpec} (hspecs : ParentsFirst specs)
    (hnodup : (specs.map BindingSpec.host).Nodup) {spec : BindingSpec} (hmem : spec ∈ specs) :
    (spec.host :: spec.ancestors.map BindingSpec.host).Nodup := by
  obtain ⟨before, after, hsplit⟩ := List.append_of_mem hmem
  have hsub : (spec.ancestors.reverse ++ [spec]).Sublist specs := by
    rw [hsplit]
    exact (hspecs.reverse_ancestors_sublist hsplit).append
      (List.singleton_sublist.mpr List.mem_cons_self)
  have hreverse := hnodup.sublist (hsub.map BindingSpec.host)
  rw [← List.reverse_cons, List.map_reverse, List.nodup_reverse] at hreverse
  simpa using hreverse

theorem ParentsFirst.length_ancestors_lt {specs : List BindingSpec} (hspecs : ParentsFirst specs)
    {spec : BindingSpec} (hmem : spec ∈ specs) : spec.ancestors.length < specs.length := by
  obtain ⟨before, after, hsplit⟩ := List.append_of_mem hmem
  have hle := (hspecs.reverse_ancestors_sublist hsplit).length_le
  rw [List.length_reverse] at hle
  rw [hsplit, List.length_append, List.length_cons]
  omega

end BundleBinding
