import BundleBinding.Java.Source
import BundleBinding.Proofs.Substitution

/-!
# Reads without a cast

A getter is declared with the type that the rule of its kind is about, and a collection without its type
arguments. A kind takes declared types that are below that type, and some types below it cannot hold what the
getter gives. Under equal brackets and wildcards it is two declared types that meet, the container's and the
field's, and the read is well typed unless the field's is the narrower one. Kinds that take arrays for a
declared type are left out, since there an array and a declared type meet.
-/

namespace BundleBinding

namespace TypeRef

/-- The declared type that is left of a type without its brackets, wildcards and type arguments. -/
def baseName? : TypeRef → Option String
  | declared name _ => some name
  | array component => component.baseName?
  | extending bound => bound.baseName?
  | _ => none

end TypeRef

namespace TypeRule

/-- The type that the accessors of a rule's kinds are declared with. -/
def containerType : TypeRule → TypeRef
  | primitive base => .primitive base
  | primitiveArray base => .array (.primitive base)
  | assignable name => .named name
  | arrayOf name => .array (.named name)
  | collection raw _ => .named raw

end TypeRule

namespace TypeTable

open TypeRef

variable {table : TypeTable} {type : TypeRef} {name sub super : String}

/-- A proper subtype: the two types are not below each other. -/
def IsBelow (table : TypeTable) (sub super : String) : Prop :=
  table.isSubtype sub super = true ∧ table.isSubtype super sub = false

/-- The declared type under the brackets and wildcards of the first type is a proper subtype of the one
under those of the second. -/
def IsNarrower (table : TypeTable) (type container : TypeRef) : Prop :=
  ∃ sub super, type.baseName? = some sub ∧ container.baseName? = some super ∧ table.IsBelow sub super

theorem isNarrower_iff {container : TypeRef} (htype : type.baseName? = some sub)
    (hcontainer : container.baseName? = some super) :
    table.IsNarrower type container ↔ table.IsBelow sub super := by
  constructor
  · rintro ⟨other, above, hother, habove, hbelow⟩
    cases htype.symm.trans hother
    cases hcontainer.symm.trans habove
    exact hbelow
  · intro hbelow
    exact ⟨sub, super, htype, hcontainer, hbelow⟩

/-- No name lists the type, so only the type itself is below it. -/
theorem eq_of_isSubtype_of_unlisted (hunlisted : ∀ name, super ∉ table.supertypes name)
    (hobject : super ≠ object) (hsub : table.isSubtype sub super = true) : sub = super := by
  obtain rfl | hsuper | hchain := isSubtype_iff.mp hsub
  · rfl
  · exact absurd hsuper hobject
  · obtain ⟨last, _, hlists⟩ := Relation.TransGen.tail'_iff.mp hchain
    exact absurd hlists (hunlisted last)

theorem exists_entry_of_mem_supertypes (hmem : super ∈ table.supertypes name) :
    ∃ entry ∈ table.entries, super ∈ entry.2 := by
  rw [supertypes] at hmem
  cases hget : table.get? name with
  | none =>
      rw [hget] at hmem
      cases hmem
  | some listed =>
      rw [hget] at hmem
      exact ⟨(name, listed), Registry.get?_eq_some_iff.mp hget, hmem⟩

/-! ### Reading into a declared type -/

theorem not_isBelow_iff (hsub : table.isSubtype sub super = true) :
    ¬ table.IsBelow sub super ↔ table.isSubtype super sub = true := by
  rw [IsBelow, not_and, Bool.not_eq_false]
  exact ⟨fun habove => habove hsub, fun habove _ => habove⟩

theorem named_assigns_declared_iff {arguments : List TypeRef} :
    table.Assigns (named super) (declared sub arguments) ↔ table.isSubtype super sub = true := by
  rw [← isAssignable_iff, named, isAssignable_declared]
  exact ⟨fun hassignable => hassignable.1, fun hsub => ⟨hsub, .inl (.inl rfl)⟩⟩

theorem named_assigns_extending_iff {bound : TypeRef} :
    table.Assigns (named super) (extending bound) ↔ table.Assigns (named super) bound := by
  constructor
  · intro hassigns
    cases hassigns with
    | toBound _ _ hbound => exact hbound
  · exact .toBound (isReference_declared super []) rfl

/-- What is assignable to a declared type that takes no arrays is a declared type below it, maybe the bound
of wildcards. -/
theorem Assigns.exists_baseName (hname : name ∉ arraySupertypes) :
    (type : TypeRef) → table.Assigns type (named name) →
      ∃ sub, type.baseName? = some sub ∧ table.isSubtype sub name = true ∧
        ∀ super, table.Assigns (named super) type ↔ table.isSubtype super sub = true
  | .primitive base, hassigns => by cases hassigns
  | .declared sub arguments, hassigns =>
      ⟨sub, rfl, hassigns.isSubtype_of_declared, fun _ => named_assigns_declared_iff⟩
  | .array component, hassigns => absurd hassigns.mem_of_array hname
  | .anything, hassigns => by
      rw [hassigns.eq_object_of_anything] at hname
      exact absurd List.mem_cons_self hname
  | .extending bound, hassigns => by
      obtain ⟨sub, hsub, hbelow, hreads⟩ := exists_baseName hname bound hassigns.of_extending
      exact ⟨sub, hsub, hbelow, fun super => named_assigns_extending_iff.trans (hreads super)⟩

theorem named_assigns_iff (hname : name ∉ arraySupertypes) (hassigns : table.Assigns type (named name)) :
    table.Assigns (named name) type ↔ ¬ table.IsNarrower type (named name) := by
  obtain ⟨sub, hsub, hbelow, hreads⟩ := Assigns.exists_baseName hname type hassigns
  rw [hreads, isNarrower_iff hsub rfl, not_isBelow_iff hbelow]

theorem array_assigns_iff {left right : TypeRef} :
    table.Assigns (TypeRef.array left) (TypeRef.array right) ↔ table.Assigns left right := by
  constructor
  · intro hassigns
    cases hassigns with
    | array hcomponent => exact hcomponent
  · exact .array

end TypeTable

namespace TypeRule

open TypeTable

variable {table : TypeTable} {rule : TypeRule} {type : TypeRef}

/-- The rule is not about a declared type that every array can be assigned to. -/
def TakesNoArrays (rule : TypeRule) : Prop :=
  ∀ name ∈ TypeRef.arraySupertypes, rule ≠ assignable name ∧ rule ≠ arrayOf name

theorem containerType_assignable_iff (hrule : rule.TakesNoArrays)
    (haccepts : rule.accepts table type = true) :
    table.isAssignable rule.containerType type = true ↔
      ¬ table.IsNarrower type rule.containerType := by
  rw [isAssignable_iff]
  cases rule with
  | primitive base =>
      obtain rfl := beq_iff_eq.mp haccepts
      refine iff_of_true (.primitive base) ?_
      rintro ⟨sub, super, hsub, _⟩
      cases hsub
  | primitiveArray base =>
      cases type with
      | array component =>
          obtain rfl := beq_iff_eq.mp haccepts
          refine iff_of_true (.array (.primitive base)) ?_
          rintro ⟨sub, super, hsub, _⟩
          cases hsub
      | _ => cases haccepts
  | assignable name =>
      have hname : name ∉ TypeRef.arraySupertypes := fun hmem => (hrule name hmem).1 rfl
      exact named_assigns_iff hname (isAssignable_iff.mp haccepts)
  | arrayOf name =>
      have hname : name ∉ TypeRef.arraySupertypes := fun hmem => (hrule name hmem).2 rfl
      obtain ⟨component, rfl, hcomponent⟩ := accepts_arrayOf_iff.mp haccepts
      exact array_assigns_iff.trans (named_assigns_iff hname hcomponent)
  | collection raw element =>
      obtain ⟨name, arguments, rfl, hraw, _⟩ := accepts_collection_iff.mp haccepts
      rw [containerType, named_assigns_declared_iff, isNarrower_iff rfl rfl, not_isBelow_iff hraw]

end TypeRule

namespace Kind

theorem takesNoArrays_of_uncast {kind : Kind} (huncast : kind.needsCast = false) :
    kind.rule.TakesNoArrays := by
  unfold TypeRule.TakesNoArrays
  revert huncast
  cases kind <;> decide

end Kind

/-- Without a cast a field is assigned what the getter gives, as it is. -/
theorem Java.readLine_of_uncast {field : FieldBinding} (huncast : field.kind.needsCast = false) :
    readLine field = "      target." ++ field.name ++ " = bundle." ++ field.kind.getter ++
      "(\"" ++ escape field.key ++ "\");" := by
  have hcast : Java.cast field = "" := by rw [Java.cast, huncast, if_neg Bool.false_ne_true]
  unfold readLine
  generalize field.kind.getter = getter
  generalize escape field.key = key
  simp [hcast, ← String.toList_inj]

/-- **Which reads without a cast are well typed.** Let a field be of a kind that needs no cast, and of a type
that the kind takes. Its value is assigned as the getter gives it. In every table the container's type can be
assigned to the type of the field unless that is narrower: unless, under the same brackets, the field's
declared type is a proper subtype of the container's. -/
theorem uncast_read_wellTyped_iff (table : TypeTable) {field : FieldBinding}
    (huncast : field.kind.needsCast = false)
    (haccepts : field.kind.accepts table field.type = true) :
    Java.readLine field = "      target." ++ field.name ++ " = bundle." ++ field.kind.getter ++
      "(\"" ++ Java.escape field.key ++ "\");" ∧
    (table.isAssignable field.kind.rule.containerType field.type = true ↔
      ¬ table.IsNarrower field.type field.kind.rule.containerType) :=
  ⟨Java.readLine_of_uncast huncast,
    TypeRule.containerType_assignable_iff (Kind.takesNoArrays_of_uncast huncast) haccepts⟩

/-- A list of strings is read into a list that may hold any kind of strings. -/
theorem list_of_strings_read :
    let table := TypeTable.platform
    let type := TypeRef.declared TypeRef.arrayList [.extending (.named TypeRef.string)]
    let field : FieldBinding := ⟨"names", .stringArrayList, "names", type, true, ""⟩
    field.kind.needsCast = false ∧
      field.kind.accepts table field.type = true ∧
      Java.readLine field = "      target.names = bundle.getStringArrayList(\"names\");" ∧
      table.isAssignable (.named TypeRef.arrayList) type = true := by
  intro table type field
  have haccepts : field.kind.accepts table field.type = true := by
    refine TypeRule.accepts_collection_iff.mpr ⟨_, _, rfl, TypeTable.isSubtype_self _, ?_⟩
    intro argument hmem
    obtain rfl := List.mem_singleton.mp hmem
    exact .fromBound (TypeRef.isReference_declared _ [])
      (.unchecked (TypeTable.isSubtype_self _) (.inl rfl))
  obtain ⟨hread, hassignable⟩ := @uncast_read_wellTyped_iff table field rfl haccepts
  refine ⟨rfl, haccepts, hread.trans (by decide +kernel), hassignable.mpr ?_⟩
  rintro ⟨sub, super, hsub, hsuper, _, habove⟩
  cases hsub
  cases hsuper
  rw [TypeTable.isSubtype_self] at habove
  cases habove

/-- A class of its own that extends the list of strings is taken, without a cast, for what the getter gives;
but not every list is of that class. -/
theorem list_of_names_not_readable :
    let table := TypeTable.platform.declare "app.Names" [TypeRef.arrayList]
    let type := TypeRef.named "app.Names"
    Kind.stringArrayList.needsCast = false ∧
      type.isWildcard = false ∧
      Kind.stringArrayList.accepts table type = true ∧
      table.isAssignable Kind.stringArrayList.rule.containerType type = false := by
  intro table type
  have hlists : table.Lists "app.Names" TypeRef.arrayList := by
    rw [TypeTable.Lists, TypeTable.supertypes_declare, if_pos rfl]
    exact List.mem_singleton_self _
  have haccepts : Kind.stringArrayList.accepts table type = true :=
    TypeRule.accepts_collection_iff.mpr ⟨_, _, rfl,
      TypeTable.isSubtype_of_transGen (.single hlists), List.forall_mem_nil _⟩
  have hunlisted : ∀ name, "app.Names" ∉ table.supertypes name := by
    intro name hmem
    obtain ⟨entry, hentry, hlisted⟩ := TypeTable.exists_entry_of_mem_supertypes hmem
    have hnone : ∀ entry ∈ table.entries, "app.Names" ∉ entry.2 := by decide +kernel
    exact hnone entry hentry hlisted
  refine ⟨rfl, rfl, haccepts, Bool.eq_false_iff.mpr ?_⟩
  intro hassignable
  have hsub := TypeTable.named_assigns_declared_iff.mp (TypeTable.isAssignable_iff.mp hassignable)
  exact absurd (TypeTable.eq_of_isSubtype_of_unlisted hunlisted (by decide) hsub) (by decide)

end BundleBinding
