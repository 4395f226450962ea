import BundleBinding.Proofs.AssignmentRules
import BundleBinding.Proofs.WrittenTypes

/-!
# Types that are assignable to themselves

Equal type arguments fit each other, unless they are wildcards: a wildcard has to be assignable to itself.
That fails for the wildcard without a bound, which gives objects only and is no place for anything that is
itself a wildcard, and for a bound that is a primitive type. Whether a type is assignable to itself depends
on the wildcards that are met in this way, and not on the table of supertypes.
-/

namespace BundleBinding

namespace TypeRef

/-- No wildcard that counts for the type is `?` or bounded by a primitive type. -/
inductive FitsItself : TypeRef → Prop
  | primitive (base : Primitive) : FitsItself (primitive base)
  | declared (name : String) {arguments : List TypeRef}
      (harguments : ∀ argument ∈ arguments, argument.isWildcard = true → FitsItself argument) :
      FitsItself (declared name arguments)
  | array {component : TypeRef} (hcomponent : FitsItself component) : FitsItself (array component)
  | extending {bound : TypeRef} (hreference : bound.IsReference) (hbound : FitsItself bound) :
      FitsItself (extending bound)

/-- The type `java.util.List<?>`. -/
def listOfAnything : TypeRef :=
  declared "java.util.List" [anything]

theorem isWrittenAs_listOfAnything : IsWrittenAs listOfAnything "java.util.List<?>" := by
  have hname : IsTypeName "java.util.List" := by
    refine ⟨?_, ofKeyword?_eq_none_iff.mp rfl⟩
    rw [isDottedName_iff, ← List.all_eq_true]
    decide +kernel
  refine ⟨rfl, .declared hname (List.forall_mem_singleton.mpr .anything), ?_⟩
  have hspells := spells_render [] listOfAnything
  rwa [List.append_nil] at hspells

end TypeRef

namespace TypeTable

open TypeRef

variable {table : TypeTable} {type source bound : TypeRef}

theorem Assigns.eq_primitive {base : Primitive} (hassigns : table.Assigns source (.primitive base)) :
    source = .primitive base := by
  cases hassigns with
  | primitive => rfl
  | fromBound hreference => exact absurd rfl (hreference base)

/-- Only what is no primitive type is assignable to a wildcard. -/
theorem Assigns.isReference_of_toBound (hassigns : table.Assigns source (extending bound)) :
    source.IsReference := by
  cases hassigns with
  | fromBound => exact isReference_extending _
  | toBound hreference => exact hreference

/-- What is assignable to a wildcard is assignable to its bound. -/
theorem Assigns.of_toBound (hassigns : table.Assigns source (extending bound)) :
    table.Assigns source bound := by
  generalize htarget : TypeRef.extending bound = target at hassigns
  induction hassigns with
  | fromBound _ hbound ih =>
      subst htarget
      refine .fromBound ?_ (ih rfl)
      rintro base rfl
      have hprimitive := (ih rfl).eq_primitive
      exact hbound.isReference_of_toBound base hprimitive
  | toBound _ _ hbound =>
      cases htarget
      exact hbound
  | _ => cases htarget

/-- A type that fits itself takes its values along to a wildcard with a bound that takes them. -/
theorem Assigns.toBound_of_fitsItself (hassigns : table.Assigns source bound)
    (hfits : source.FitsItself) (hreference : source.IsReference) :
    table.Assigns source (extending bound) := by
  induction hfits with
  | primitive base => exact absurd rfl (hreference base)
  | declared => exact .toBound hreference rfl hassigns
  | array => exact .toBound hreference rfl hassigns
  | extending hinner _ ih =>
      cases hassigns with
      | fromBound _ hassigns => exact .fromBound (isReference_extending bound) (ih hassigns hinner)
      | toAnything _ hplain => cases hplain
      | toBound _ hplain => cases hplain

theorem mem_zip_self_iff {types : List TypeRef} {left right : TypeRef} :
    (left, right) ∈ types.zip types ↔ left = right ∧ right ∈ types := by
  have hpairs : types.zip types = types.map fun type => (type, type) := by
    simpa using @List.zip_map' _ _ _ id id types
  rw [hpairs, List.mem_map]
  constructor
  · rintro ⟨type, hmem, heq⟩
    obtain ⟨rfl, rfl⟩ := Prod.mk.inj heq
    exact ⟨rfl, hmem⟩
  · rintro ⟨rfl, hmem⟩
    exact ⟨left, hmem, rfl⟩

theorem Assigns.of_fitsItself (hfits : type.FitsItself) : table.Assigns type type := by
  induction hfits with
  | primitive base => exact .primitive base
  | declared name _ ih =>
      refine .checked rfl ?_ ?_
      · intro left right hpair _
        exact (mem_zip_self_iff.mp hpair).1
      · intro left right hpair hwildcard
        obtain ⟨rfl, hmem⟩ := mem_zip_self_iff.mp hpair
        exact ih left hmem hwildcard
  | array _ ih => exact .array ih
  | extending hreference hbound ih =>
      exact .fromBound (isReference_extending _) (ih.toBound_of_fitsItself hbound hreference)

theorem fitsItself_of_assigns : (type : TypeRef) → table.Assigns type type → type.FitsItself
  | .primitive base, _ => .primitive base
  | .anything, hassigns => by
      cases hassigns with
      | toAnything _ hplain => cases hplain
  | .extending bound, hassigns => by
      cases hassigns with
      | toBound _ hplain => cases hplain
      | fromBound _ hbound =>
          have hreference := hbound.isReference_of_toBound
          exact .extending hreference (fitsItself_of_assigns bound hbound.of_toBound)
  | .array component, hassigns => by
      cases hassigns with
      | array hcomponent => exact .array (fitsItself_of_assigns component hcomponent)
  | .declared name arguments, hassigns => by
      refine .declared name ?_
      intro argument hmem hwildcard
      cases hassigns with
      | unchecked _ hunchecked =>
          obtain rfl | rfl | hne := hunchecked
          · cases hmem
          · cases hmem
          · exact absurd rfl hne
      | checked _ _ hwildcards =>
          have hargument := hwildcards argument argument (mem_zip_self_iff.mpr ⟨rfl, hmem⟩) hwildcard
          have := List.sizeOf_lt_of_mem hmem
          exact fitsItself_of_assigns argument hargument

/-- **Which types are assignable to themselves.** In every table these are the types for which no wildcard
counts that is `?` or has a bound of a primitive type. The type itself counts, and with an array its
component, with a wildcard its bound, and with a declared type those of its arguments that are wildcards;
other arguments are compared as they are, whatever they contain. -/
theorem isAssignable_self_iff (table : TypeTable) (type : TypeRef) :
    table.isAssignable type type = true ↔ type.FitsItself :=
  isAssignable_iff.trans ⟨fitsItself_of_assigns type, Assigns.of_fitsItself⟩

/-- A list of anything, which can be written, is assignable to itself in no table. -/
theorem list_of_anything_not_assignable_to_itself :
    TypeRef.parse "java.util.List<?>" = .ok listOfAnything ∧
      ∀ table : TypeTable, table.isAssignable listOfAnything listOfAnything = false := by
  constructor
  · exact parse_eq_ok_iff.mpr isWrittenAs_listOfAnything
  · intro table
    simp [listOfAnything, isAssignable, argumentsFit, isWildcard]

end TypeTable

end BundleBinding
