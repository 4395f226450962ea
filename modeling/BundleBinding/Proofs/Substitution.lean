import BundleBinding.Kind
import BundleBinding.Proofs.AssignmentRules

/-!
# Substitution

Assignability is not transitive: a raw type stands between any two parameterizations of its name. Towards a
type without arguments it is, since nothing is asked of the arguments on the way. What is left to rule out
is a way around the rules for arrays and for `?`: from the types that every array can be assigned to, a
table must not lead any further.
-/

namespace BundleBinding

namespace TypeTable

open Relation (TransGen)
open TypeRef

/-- The tables that come from the platform's by declaring types, but none of those that every array can be
assigned to. -/
inductive ExtendsPlatform : TypeTable → Prop
  | platform : ExtendsPlatform platform
  | declare {table : TypeTable} {name : String} (supertypes : List String)
      (htable : ExtendsPlatform table) (hname : name ∉ arraySupertypes) :
      ExtendsPlatform (table.declare name supertypes)

/-- The table lists no supertypes for the types that every array can be assigned to. -/
def EndsAtArrays (table : TypeTable) : Prop :=
  ∀ name ∈ arraySupertypes, table.supertypes name = []

theorem endsAtArrays_platform : platform.EndsAtArrays := by
  unfold EndsAtArrays
  decide +kernel

variable {table : TypeTable} {source middle bound component : TypeRef} {name sub super : String}
  {arguments : List TypeRef}

theorem EndsAtArrays.declare (hends : table.EndsAtArrays) (hname : name ∉ arraySupertypes)
    (supertypes : List String) : (table.declare name supertypes).EndsAtArrays := by
  intro other hother
  rw [supertypes_declare, if_neg]
  · exact hends other hother
  · rintro rfl
    exact hname hother

theorem ExtendsPlatform.endsAtArrays (htable : table.ExtendsPlatform) : table.EndsAtArrays := by
  induction htable with
  | platform => exact endsAtArrays_platform
  | declare supertypes _ hname ih => exact ih.declare hname supertypes

/-! ### Subtypes -/

/-- A type without supertypes is only below itself and the object type. -/
theorem eq_or_eq_object_of_isSubtype (hnil : table.supertypes sub = [])
    (hsubtype : table.isSubtype sub super = true) : super = sub ∨ super = object := by
  obtain rfl | rfl | hchain := isSubtype_iff.mp hsubtype
  · exact .inl rfl
  · exact .inr rfl
  · obtain ⟨_, hlists, _⟩ := TransGen.head'_iff.mp hchain
    rw [TypeTable.Lists, hnil] at hlists
    cases hlists

theorem EndsAtArrays.mem_of_isSubtype (hends : table.EndsAtArrays) (hsub : sub ∈ arraySupertypes)
    (hsubtype : table.isSubtype sub super = true) : super ∈ arraySupertypes := by
  obtain rfl | rfl := eq_or_eq_object_of_isSubtype (hends sub hsub) hsubtype
  · exact hsub
  · exact List.mem_cons_self

theorem EndsAtArrays.eq_object_of_isSubtype (hends : table.EndsAtArrays)
    (hsubtype : table.isSubtype object super = true) : super = object := by
  have hnil := hends object List.mem_cons_self
  exact (eq_or_eq_object_of_isSubtype hnil hsubtype).elim id id

theorem EndsAtArrays.isSubtype_trans {between : String} (hends : table.EndsAtArrays)
    (hsub : table.isSubtype sub between = true) (hsuper : table.isSubtype between super = true) :
    table.isSubtype sub super = true := by
  obtain rfl | rfl | hlower := isSubtype_iff.mp hsub
  · exact hsuper
  · rw [hends.eq_object_of_isSubtype hsuper]
    exact hsub
  · obtain rfl | rfl | hupper := isSubtype_iff.mp hsuper
    · exact hsub
    · exact isSubtype_iff.mpr (.inr (.inl rfl))
    · exact isSubtype_of_transGen (hlower.trans hupper)

/-! ### Assignment to a type without arguments -/

theorem assigns_object (hsource : source.IsReference) (hplain : source.isWildcard = false) :
    table.Assigns source (named object) := by
  cases source with
  | primitive base => exact absurd rfl (hsource base)
  | declared name arguments => exact .unchecked (isSubtype_iff.mpr (.inr (.inl rfl))) (.inr (.inl rfl))
  | array component => exact .arrayToDeclared component [] List.mem_cons_self
  | anything => cases hplain
  | extending bound => cases hplain

theorem Assigns.eq_object_of_anything (hassigns : table.Assigns anything (named name)) :
    name = object := by
  cases hassigns
  rfl

theorem Assigns.of_extending (hassigns : table.Assigns (extending bound) (named name)) :
    table.Assigns bound (named name) := by
  cases hassigns with
  | fromBound _ hbound => exact hbound

theorem Assigns.mem_of_array (hassigns : table.Assigns (TypeRef.array component) (named name)) :
    name ∈ arraySupertypes := by
  cases hassigns with
  | arrayToDeclared _ _ hname => exact hname

theorem Assigns.isSubtype_of_declared
    (hassigns : table.Assigns (declared sub arguments) (named name)) :
    table.isSubtype sub name = true := by
  cases hassigns with
  | unchecked hsub => exact hsub
  | checked => exact isSubtype_self name

/-- Assignability is transitive where it ends at a type without arguments. -/
theorem Assigns.trans_named (hends : table.EndsAtArrays) (hassigns : table.Assigns source middle)
    (hnamed : table.Assigns middle (named name)) : table.Assigns source (named name) := by
  induction hassigns with
  | primitive => cases hnamed
  | fromAnything arguments =>
      obtain rfl := hends.eq_object_of_isSubtype hnamed.isSubtype_of_declared
      exact .fromAnything []
  | fromBound _ _ ih => exact .fromBound (isReference_declared name []) (ih hnamed)
  | toAnything hsource hplain =>
      obtain rfl := hnamed.eq_object_of_anything
      exact assigns_object hsource hplain
  | toBound _ _ _ ih => exact ih hnamed.of_extending
  | array => exact .arrayToDeclared _ [] hnamed.mem_of_array
  | arrayToDeclared component _ hname =>
      exact .arrayToDeclared component [] (hends.mem_of_isSubtype hname hnamed.isSubtype_of_declared)
  | unchecked hsub =>
      exact .unchecked (hends.isSubtype_trans hsub hnamed.isSubtype_of_declared) (.inr (.inl rfl))
  | checked => exact .unchecked hnamed.isSubtype_of_declared (.inr (.inl rfl))

/-- Among the types that are no wildcards, only arrays can be stored in an array. -/
theorem Assigns.exists_component (hassigns : table.Assigns source (TypeRef.array component))
    (hplain : source.isWildcard = false) :
    ∃ inner, source = TypeRef.array inner ∧ table.Assigns inner component := by
  cases hassigns with
  | fromBound => cases hplain
  | array hcomponent => exact ⟨_, rfl, hcomponent⟩

end TypeTable

namespace TypeRule

open TypeTable

variable {table : TypeTable} {type other : TypeRef} {name : String}

theorem accepts_assignable_of_assigns (hends : table.EndsAtArrays)
    (hassigns : table.Assigns other type) (haccepts : (assignable name).accepts table type = true) :
    (assignable name).accepts table other = true := by
  rw [accepts, isAssignable_iff] at haccepts ⊢
  exact hassigns.trans_named hends haccepts

theorem accepts_arrayOf_iff :
    (arrayOf name).accepts table type = true ↔
      ∃ component, type = .array component ∧ table.Assigns component (.named name) := by
  cases type <;> simp [accepts, isAssignable_iff]

theorem accepts_collection_iff {raw element : String} :
    (collection raw element).accepts table type = true ↔
      ∃ name arguments, type = .declared name arguments ∧ table.isSubtype name raw = true ∧
        ∀ argument ∈ arguments, table.Assigns argument (.named element) := by
  cases type <;> simp [accepts, isAssignable_iff]

theorem accepts_arrayOf_of_assigns (hends : table.EndsAtArrays)
    (hassigns : table.Assigns other type) (hplain : other.isWildcard = false)
    (haccepts : (arrayOf name).accepts table type = true) :
    (arrayOf name).accepts table other = true := by
  obtain ⟨component, rfl, hcomponent⟩ := accepts_arrayOf_iff.mp haccepts
  obtain ⟨inner, rfl, hinner⟩ := hassigns.exists_component hplain
  exact accepts_arrayOf_iff.mpr ⟨inner, rfl, hinner.trans_named hends hcomponent⟩

end TypeRule

namespace Kind

open TypeTable

/-- **Kinds are closed under substitution.** Let a kind accept the types that are assignable to one declared
type, or the arrays of such types. If it accepts a type, it accepts every type that is assignable to that
type and is no wildcard. This holds in every table that comes from the platform's by declaring types other
than those that every array can be assigned to. -/
theorem accepts_of_isAssignable {table : TypeTable} (htable : table.ExtendsPlatform) {kind : Kind}
    (hrule : (∃ name, kind.rule = .assignable name) ∨ ∃ name, kind.rule = .arrayOf name)
    {type other : TypeRef} (hplain : other.isWildcard = false)
    (hassignable : table.isAssignable other type = true)
    (haccepts : kind.accepts table type = true) : kind.accepts table other = true := by
  have hends := htable.endsAtArrays
  have hassigns := isAssignable_iff.mp hassignable
  unfold Kind.accepts at haccepts ⊢
  obtain ⟨name, hname⟩ | ⟨name, hname⟩ := hrule
  · rw [hname] at haccepts ⊢
    exact TypeRule.accepts_assignable_of_assigns hends hassigns haccepts
  · rw [hname] at haccepts ⊢
    exact TypeRule.accepts_arrayOf_of_assigns hends hassigns hplain haccepts

/-- Users can be parcelled in the table that has them below the parcelable type, so an array of users stands
in for an array of parcelable objects. -/
theorem arrays_of_users_accepted :
    let table := platform.declare "app.User" [TypeRef.parcelable]
    let type := TypeRef.array (.named TypeRef.parcelable)
    let other := TypeRef.array (.named "app.User")
    table.ExtendsPlatform ∧
      (∃ name, parcelableArray.rule = .arrayOf name) ∧
      other.isWildcard = false ∧
      table.isAssignable other type = true ∧
      parcelableArray.accepts table type = true ∧
      parcelableArray.accepts table other = true := by
  intro table type other
  have htable : table.ExtendsPlatform := .declare _ .platform (by decide)
  have hlists : table.Lists "app.User" TypeRef.parcelable := by
    rw [TypeTable.Lists, supertypes_declare, if_pos rfl]
    exact List.mem_singleton_self _
  have hrule : ∃ name, parcelableArray.rule = .arrayOf name := ⟨TypeRef.parcelable, rfl⟩
  have hassigns : table.Assigns other type :=
    .array (.unchecked (isSubtype_of_transGen (.single hlists)) (.inl rfl))
  have hassignable := isAssignable_iff.mpr hassigns
  have haccepts : parcelableArray.accepts table type = true :=
    TypeRule.accepts_arrayOf_iff.mpr ⟨_, rfl, .unchecked (isSubtype_self _) (.inl rfl)⟩
  exact ⟨htable, hrule, rfl, hassignable, haccepts,
    accepts_of_isAssignable htable (.inr hrule) rfl hassignable haccepts⟩

end Kind

end BundleBinding
