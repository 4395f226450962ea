import BundleBinding.Proofs.Signatures
import BundleBinding.Proofs.Substitution

/-!
# Added supertypes

No answer about types rests on a supertype that is missing. The rules of assignment ask of the table only that
one type is below another, a kind takes a type if some types can be assigned, and a signature is asked about
its types once for each parameter. So whatever is accepted stays accepted when a table lists more.
-/

namespace BundleBinding

namespace TypeTable

open Relation (TransGen)

variable {table larger : TypeTable} {source target : TypeRef} {name sub super : String}

/-- The direct supertypes of every name are among its direct supertypes in the second table. -/
def Within (table larger : TypeTable) : Prop :=
  ∀ name, table.supertypes name ⊆ larger.supertypes name

theorem Within.refl (table : TypeTable) : table.Within table :=
  fun _ => List.Subset.refl _

/-- Two tables that declare the same name differ at that name only. -/
theorem Within.declare (hwithin : table.Within larger) (name : String) {fewer more : List String}
    (hsubset : fewer ⊆ more) : (table.declare name fewer).Within (larger.declare name more) := by
  intro other
  rw [supertypes_declare, supertypes_declare]
  by_cases hother : other = name
  · rw [if_pos hother, if_pos hother]
    exact hsubset
  · rw [if_neg hother, if_neg hother]
    exact hwithin other

/-- A name may be declared anew with all that it had. -/
theorem Within.declare_right (hwithin : table.Within larger) {more : List String}
    (hsubset : table.supertypes name ⊆ more) : table.Within (larger.declare name more) := by
  intro other
  rw [supertypes_declare]
  by_cases hother : other = name
  · rw [if_pos hother, hother]
    exact hsubset
  · rw [if_neg hother]
    exact hwithin other

theorem Within.lists (hwithin : table.Within larger) (hlists : table.Lists sub super) :
    larger.Lists sub super :=
  hwithin sub hlists

theorem Within.isSubtype (hwithin : table.Within larger) (hsub : table.isSubtype sub super = true) :
    larger.isSubtype sub super = true := by
  obtain rfl | rfl | hchain := isSubtype_iff.mp hsub
  · exact isSubtype_self sub
  · exact isSubtype_iff.mpr (.inr (.inl rfl))
  · exact isSubtype_of_transGen (TransGen.mono (fun _ _ => hwithin.lists) _ _ hchain)

theorem Within.assigns (hwithin : table.Within larger) (hassigns : table.Assigns source target) :
    larger.Assigns source target := by
  induction hassigns with
  | primitive base => exact .primitive base
  | fromAnything arguments => exact .fromAnything arguments
  | fromBound htarget _ ih => exact .fromBound htarget ih
  | toAnything hsource hplain => exact .toAnything hsource hplain
  | toBound hsource hplain _ ih => exact .toBound hsource hplain ih
  | array _ ih => exact .array ih
  | arrayToDeclared component arguments hname => exact .arrayToDeclared component arguments hname
  | unchecked hsub hunchecked => exact .unchecked (hwithin.isSubtype hsub) hunchecked
  | checked hlength hplain _ ih => exact .checked hlength hplain ih

theorem Within.isAssignable (hwithin : table.Within larger)
    (hassignable : table.isAssignable source target = true) :
    larger.isAssignable source target = true :=
  isAssignable_iff.mpr (hwithin.assigns (isAssignable_iff.mp hassignable))

end TypeTable

namespace TypeTable.Within

variable {table larger : TypeTable} {type : TypeRef} {parameter : Parameter} {kind : Kind}
  {key : String} {method : Method} {factory : Factory}

theorem rule_accepts (hwithin : table.Within larger) {rule : TypeRule}
    (haccepts : rule.accepts table type = true) : rule.accepts larger type = true := by
  cases rule with
  | primitive base => exact haccepts
  | primitiveArray base => cases type <;> exact haccepts
  | assignable name => exact hwithin.isAssignable haccepts
  | arrayOf name =>
      obtain ⟨component, rfl, hcomponent⟩ := TypeRule.accepts_arrayOf_iff.mp haccepts
      exact TypeRule.accepts_arrayOf_iff.mpr ⟨component, rfl, hwithin.assigns hcomponent⟩
  | collection raw element =>
      obtain ⟨name, arguments, rfl, hraw, harguments⟩ := TypeRule.accepts_collection_iff.mp haccepts
      refine TypeRule.accepts_collection_iff.mpr ⟨name, arguments, rfl, hwithin.isSubtype hraw, ?_⟩
      intro argument hmem
      exact hwithin.assigns (harguments argument hmem)

theorem accepts (hwithin : table.Within larger) (haccepts : kind.accepts table type = true) :
    kind.accepts larger type = true :=
  hwithin.rule_accepts haccepts

theorem bindsAs (hwithin : table.Within larger) (hbinds : parameter.BindsAs table kind key) :
    parameter.BindsAs larger kind key := by
  obtain ⟨mark, hsole, htype, hkey⟩ := hbinds
  exact ⟨mark, hsole, hwithin.accepts htype, hkey⟩

theorem ofParameter (hwithin : table.Within larger) {id : MethodId} {position : Nat} {handler : Handler}
    (hhandler : Handler.ofParameter table id position parameter = .ok handler) :
    Handler.ofParameter larger id position parameter = .ok handler := by
  obtain ⟨hposition, hbinds, hrequired⟩ := Parameter.ofParameter_eq_ok_iff.mp hhandler
  exact Parameter.ofParameter_eq_ok_iff.mpr ⟨hposition, hwithin.bindsAs hbinds, hrequired⟩

theorem compile (hwithin : table.Within larger)
    (hcompile : Factory.compile table method = .ok factory) :
    Factory.compile larger method = .ok factory := by
  obtain ⟨hreturns, handlers, hhandlers, rfl⟩ := Factory.compile_eq_ok_iff.mp hcompile
  refine Factory.compile_eq_ok_iff.mpr ⟨hreturns, handlers, ?_, rfl⟩
  rw [mapM_eq_ok_iff] at hhandlers ⊢
  exact hhandlers.imp fun _ _ hhandler => hwithin.ofParameter hhandler

end TypeTable.Within

/-- **Added supertypes break nothing.** Let a table list every direct supertype that another one lists. What
is a subtype in the smaller table is one in the larger, what can be assigned can be assigned, every kind takes
the types that it took, and every method that compiled compiles, to the same factory. -/
theorem added_supertypes_break_nothing {table larger : TypeTable} (hwithin : table.Within larger) :
    (∀ sub super, table.isSubtype sub super = true → larger.isSubtype sub super = true) ∧
    (∀ source target, table.isAssignable source target = true →
      larger.isAssignable source target = true) ∧
    (∀ (kind : Kind) type, kind.accepts table type = true → kind.accepts larger type = true) ∧
    ∀ method factory, Factory.compile table method = .ok factory →
      Factory.compile larger method = .ok factory := by
  refine ⟨?_, ?_, ?_, ?_⟩
  · intro sub super hsub
    exact hwithin.isSubtype hsub
  · intro source target hassignable
    exact hwithin.isAssignable hassignable
  · intro kind type haccepts
    exact hwithin.accepts haccepts
  · intro method factory hcompile
    exact hwithin.compile hcompile

/-- A method that greets a user compiles where users can be parcelled, and so it does where they are persons
besides and persons are users in turn. -/
theorem greeting_compiles_with_persons :
    let table := TypeTable.platform.declare "app.User" [TypeRef.parcelable]
    let larger := (TypeTable.platform.declare "app.User" ["app.Person", TypeRef.parcelable]).declare
      "app.Person" ["app.User"]
    let user : Parameter := ⟨none, .named "app.User", [⟨"ParcelableValue", some "user", none⟩]⟩
    let method : Method := ⟨"app.Api", "greet", .named TypeRef.bundle, [user]⟩
    let factory : Factory := ⟨method.id, [⟨0, .parcelable, "user", false⟩]⟩
    table.Within larger ∧
      table.isSubtype "app.User" TypeRef.parcelable = true ∧
      larger.isSubtype "app.User" TypeRef.parcelable = true ∧
      Factory.compile table method = .ok factory ∧
      Factory.compile larger method = .ok factory := by
  intro table larger user method factory
  have hwithin : table.Within larger := by
    have hperson : table.supertypes "app.Person" = [] := by decide +kernel
    have huser := (TypeTable.Within.refl TypeTable.platform).declare "app.User"
      (List.subset_cons_self "app.Person" [TypeRef.parcelable])
    exact huser.declare_right (by rw [hperson]; exact List.nil_subset _)
  have hsub : table.isSubtype "app.User" TypeRef.parcelable = true := by
    apply TypeTable.isSubtype_of_transGen
    refine .single ?_
    rw [TypeTable.Lists, TypeTable.supertypes_declare, if_pos rfl]
    exact List.mem_singleton_self _
  have hcompile : Factory.compile table method = .ok factory := by
    have hsole : SoleBinding user.annotations ⟨"ParcelableValue", some "user", none⟩ .parcelable :=
      ⟨rfl, [], [], rfl, List.forall_mem_nil _⟩
    have htype : Kind.parcelable.accepts table user.type = true :=
      TypeTable.isAssignable_declared.mpr ⟨hsub, .inl (.inl rfl)⟩
    refine Factory.compile_eq_ok_iff.mpr ⟨rfl, _, mapM_eq_ok_iff.mpr (.cons ?_ .nil), rfl⟩
    exact Parameter.ofParameter_of_bindsAs ⟨_, hsole, htype, rfl⟩ method.id 0
  obtain ⟨hsubtype, _, _, hcompiles⟩ := added_supertypes_break_nothing hwithin
  exact ⟨hwithin, hsub, hsubtype _ _ hsub, hcompile, hcompiles _ _ hcompile⟩

end BundleBinding
