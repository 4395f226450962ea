import BundleBinding.Proofs.Resolution

/-!
# Nearest bound superclasses

Above a type stands at most one nearest bound superclass, and it is this one that the search for parents
gives. The search calls a chain cyclic although there is a bound type on it only if this is the type it set
out from, and no type is a superclass of itself here.
-/

namespace BundleBinding

namespace ProgramModel

open Relation (ReflTransGen TransGen)

variable {model : ProgramModel} {reserved : List String} {isBound : String → Bool}

/-! ### Climbing to a bound type -/

theorem ClimbsTo.superclassOf?_ne_none {name parent : String}
    (hclimb : model.ClimbsTo isBound name (.found parent)) : model.superclassOf? name ≠ none := by
  cases hclimb with
  | found hsuper => rw [hsuper]; exact Option.some_ne_none _
  | pass hsuper => rw [hsuper]; exact Option.some_ne_none _

theorem ClimbsTo.found_cases {name superclass parent : String}
    (hclimb : model.ClimbsTo isBound name (.found parent))
    (hsuper : model.superclassOf? name = some superclass) :
    isBound superclass = true ∧ superclass = parent ∨
      isBound superclass = false ∧ model.ClimbsTo isBound superclass (.found parent) := by
  cases hclimb with
  | found hsuper' hbound =>
      rw [hsuper] at hsuper'
      cases hsuper'
      exact .inl ⟨hbound, rfl⟩
  | pass hsuper' hunbound hclimb =>
      rw [hsuper] at hsuper'
      cases hsuper'
      exact .inr ⟨hunbound, hclimb⟩

/-- A climb does not leave types that have their superclasses among themselves. -/
theorem ClimbsTo.mem_of_closed {names : List String} {name parent : String}
    (hclimb : model.ClimbsTo isBound name (.found parent))
    (hclosed : ∀ name ∈ names, ∀ superclass, model.superclassOf? name = some superclass →
      superclass ∈ names) (hmem : name ∈ names) : parent ∈ names := by
  generalize houtcome : ParentSearch.found parent = outcome at hclimb
  induction hclimb with
  | absent => cases houtcome
  | found hsuper =>
      cases houtcome
      exact hclosed _ hmem _ hsuper
  | cyclic => cases houtcome
  | pass hsuper _ _ ih => exact ih (hclosed _ hmem _ hsuper) houtcome

theorem not_mem_visited_of_climb {visited : List String} {declaration : TypeDeclaration}
    {parent : String} (hfound : model.climb isBound visited declaration = .found parent) :
    parent ∉ visited := by
  fun_induction climb model isBound visited declaration with
  | case1 => cases hfound
  | case2 => cases hfound
  | case3 visited declaration superclass hsuper hfresh =>
      cases hfound
      exact hfresh
  | case4 visited declaration superclass hsuper hfresh hbound hfewer ih =>
      exact fun hmem => ih hfound (List.mem_cons_of_mem _ hmem)

/-- The visited types but the present one have their superclasses among them. So when the next superclass
is one of them too, the climb never gets out of them. -/
theorem climb_eq_found {visited : List String} {declaration : TypeDeclaration} {parent : String}
    (htype : model.type? declaration.name = some declaration)
    (hself : declaration.name ∈ visited)
    (hclosed : ∀ name ∈ visited, name ≠ declaration.name → ∀ superclass,
      model.superclassOf? name = some superclass → superclass ∈ visited)
    (hfresh : parent ∉ visited)
    (hclimb : model.ClimbsTo isBound declaration.name (.found parent)) :
    model.climb isBound visited declaration = .found parent := by
  have hsuperclass := superclassOf?_of_type? htype
  fun_induction climb model isBound visited declaration with
  | case1 visited declaration hsuper =>
      rw [hsuper, Option.map_none] at hsuperclass
      exact absurd hsuperclass hclimb.superclassOf?_ne_none
  | case2 visited declaration superclass hsuper hvisited =>
      rw [hsuper, Option.map_some] at hsuperclass
      refine absurd (hclimb.mem_of_closed ?_ hself) hfresh
      intro name hmem above habove
      by_cases hname : name = declaration.name
      · rw [hname, hsuperclass] at habove
        cases habove
        exact hvisited
      · exact hclosed name hmem hname above habove
  | case3 visited declaration superclass hsuper hvisited hbound =>
      rw [hsuper, Option.map_some] at hsuperclass
      rcases hclimb.found_cases hsuperclass with ⟨_, rfl⟩ | ⟨hunbound, _⟩
      · rfl
      · rw [hbound] at hunbound
        cases hunbound
  | case4 visited declaration superclass hsuper hvisited hbound hfewer ih =>
      rw [hsuper, Option.map_some] at hsuperclass
      rcases hclimb.found_cases hsuperclass with ⟨hbound', _⟩ | ⟨hunbound, hrest⟩
      · exact absurd hbound' hbound
      · have htype' := type?_of_superclass? hsuper
        refine ih htype' List.mem_cons_self ?_ ?_ hrest (superclassOf?_of_type? htype')
        · intro name hmem hname above habove
          have hmem' := List.mem_of_ne_of_mem hname hmem
          by_cases hdeclared : name = declaration.name
          · rw [hdeclared, hsuperclass] at habove
            cases habove
            exact List.mem_cons_self
          · exact List.mem_cons_of_mem _ (hclosed name hmem' hdeclared above habove)
        · intro hmem
          rcases List.mem_cons.mp hmem with rfl | hmem
          · rw [hrest.transGen.1] at hunbound
            cases hunbound
          · exact hfresh hmem

/-! ### The relation -/

/-- The first bound type above another one, and not this one again. -/
def NearestBound (model : ProgramModel) (reserved : List String) (host parent : String) : Prop :=
  parent ≠ host ∧ model.ClimbsTo (model.isBound reserved) host (.found parent)

theorem linkSearch_eq_found_iff {host parent : String} :
    model.linkSearch reserved host = .found parent ↔ model.NearestBound reserved host parent := by
  rw [linkSearch, isBound_eq]
  constructor
  · intro hfound
    refine ⟨?_, hfound ▸ model.climbsTo_parentSearch (model.isBound reserved) host⟩
    rintro rfl
    rw [parentSearch] at hfound
    cases htype : model.type? parent with
    | none => rw [htype] at hfound; cases hfound
    | some declaration =>
        rw [htype] at hfound
        exact not_mem_visited_of_climb hfound List.mem_cons_self
  · rintro ⟨hne, hclimb⟩
    rw [parentSearch]
    cases htype : model.type? host with
    | none =>
        refine absurd ?_ hclimb.superclassOf?_ne_none
        rw [superclassOf?, htype, Option.bind_none, Option.map_none]
    | some declaration =>
        have hname := name_of_type? htype
        subst hname
        apply climb_eq_found htype List.mem_cons_self _ _ hclimb
        · intro name hmem hother
          exact absurd (List.mem_singleton.mp hmem) hother
        · exact fun hmem => hne (List.mem_singleton.mp hmem)

theorem NearestBound.unique {host left right : String}
    (hleft : model.NearestBound reserved host left)
    (hright : model.NearestBound reserved host right) : left = right := by
  rw [← linkSearch_eq_found_iff] at hleft hright
  rw [hleft] at hright
  exact ParentSearch.found.inj hright

end ProgramModel

end BundleBinding
