import BundleBinding.Proofs.LoadedPrograms

/-!
# Calls on an index

The checks of an index sit in different places: a name is checked where its type is declared and the owner
of an element where the element joins, but the owner of a method only where its parameters join, before it.
So whatever calls were made, refused ones included, what an index holds is in order, up to methods without
parameters: one of these is kept under any owner.
-/

namespace BundleBinding

namespace ProgramIndex

variable {index next : ProgramIndex}

inductive Call where
  | addType (declaration : TypeDeclaration)
  | addElement (element : Element)
  | addMethod (owner : String) (method : Method)

/-- The index after a call. A declaration or an element that is refused leaves no trace. -/
def perform (index : ProgramIndex) : Call → ProgramIndex
  | .addType declaration => (index.addType declaration).toOption.getD index
  | .addElement element => (index.addElement element).toOption.getD index
  | .addMethod owner method => (index.addMethod owner method).1

def ofCalls (calls : List Call) : ProgramIndex :=
  calls.foldl perform empty

theorem Loaded.perform (hloaded : Loaded index) (call : Call) : Loaded (index.perform call) := by
  cases call with
  | addType declaration =>
      cases hadd : index.addType declaration with
      | error fault => rwa [ProgramIndex.perform, hadd]
      | ok next =>
          rw [ProgramIndex.perform, hadd]
          exact hloaded.addType hadd
  | addElement element =>
      cases hadd : index.addElement element with
      | error fault => rwa [ProgramIndex.perform, hadd]
      | ok next =>
          rw [ProgramIndex.perform, hadd]
          exact hloaded.addElement hadd
  | addMethod owner method => exact hloaded.addMethod owner method

theorem loaded_ofCalls (calls : List Call) : Loaded (ofCalls calls) := by
  suffices hfold : ∀ index, Loaded index → Loaded (calls.foldl ProgramIndex.perform index) from
    hfold empty .empty
  induction calls with
  | nil => exact fun _ hloaded => hloaded
  | cons call calls ih => exact fun _ hloaded => ih _ (hloaded.perform call)

/-! ### Checks -/

/-- What the checks of all calls come to. -/
structure Checked (index : ProgramIndex) : Prop where
  qualified : ∀ name ∈ index.types.keys, Name.isQualified name = true
  elements_owned : ∀ element ∈ index.elements,
    Name.isIdentifier element.name.toList = true ∧ element.enclosure.owner ∈ index.types.keys
  methods_owned : ∀ owner, ∀ method ∈ index.methodsOf owner,
    method.owner = owner ∧ (method.parameters ≠ [] → owner ∈ index.types.keys)

theorem checked_empty : Checked empty where
  qualified := fun _ hmem => absurd hmem List.not_mem_nil
  elements_owned := fun _ hmem => absurd hmem List.not_mem_nil
  methods_owned := fun _ _ hmem => absurd hmem List.not_mem_nil

theorem isQualified_of_check {name : String} {done : Unit}
    (hcheck : checkQualified name = .ok done) : Name.isQualified name = true := by
  rw [checkQualified] at hcheck
  split at hcheck
  · assumption
  · cases hcheck

theorem isIdentifier_of_check {name : String} {done : Unit}
    (hcheck : checkIdentifier name = .ok done) : Name.isIdentifier name.toList = true := by
  rw [checkIdentifier] at hcheck
  split at hcheck
  · assumption
  · cases hcheck

theorem addType_frame {declaration : TypeDeclaration} (hadd : index.addType declaration = .ok next) :
    Name.isQualified declaration.name = true ∧ next.elements = index.elements ∧
      next.methods = index.methods := by
  obtain ⟨_, hcheck, hadd⟩ := bind_eq_ok_iff.mp hadd
  obtain ⟨_, _, hadd⟩ := bind_eq_ok_iff.mp hadd
  split at hadd
  · cases hadd
  · cases hadd
    exact ⟨isQualified_of_check hcheck, rfl, rfl⟩

theorem Checked.addType {declaration : TypeDeclaration} (hindex : index.Checked)
    (hadd : index.addType declaration = .ok next) : next.Checked := by
  obtain ⟨htypes, _⟩ := addType_ok hadd
  obtain ⟨hqualified, helements, hmethods⟩ := addType_frame hadd
  have hkeys : ∀ name, name ∈ next.types.keys ↔ name = declaration.name ∨ name ∈ index.types.keys := by
    intro name
    rw [htypes, Registry.keys_insert]
    split
    · next hmem => exact ⟨.inr, fun hname => hname.elim (fun heq => heq ▸ hmem) id⟩
    · rw [List.mem_append, List.mem_singleton, or_comm]
  constructor
  · intro name hmem
    rcases (hkeys name).mp hmem with rfl | hmem
    · exact hqualified
    · exact hindex.qualified name hmem
  · rw [helements]
    intro element hmem
    obtain ⟨hname, howner⟩ := hindex.elements_owned element hmem
    exact ⟨hname, (hkeys _).mpr (.inr howner)⟩
  · intro owner method hmem
    rw [methodsOf, hmethods] at hmem
    obtain ⟨howner, hdeclared⟩ := hindex.methods_owned owner method hmem
    exact ⟨howner, fun hsome => (hkeys owner).mpr (.inr (hdeclared hsome))⟩

theorem owner_of_addElement {element : Element} (hadd : index.addElement element = .ok next) :
    Name.isIdentifier element.name.toList = true ∧ element.enclosure.owner ∈ index.types.keys := by
  obtain ⟨_, hcheck, hadd⟩ := bind_eq_ok_iff.mp hadd
  refine ⟨isIdentifier_of_check hcheck, ?_⟩
  simp only at hadd
  split at hadd
  · cases hadd
  · next howner => simpa [Registry.contains] using howner

theorem Checked.addElement {element : Element} (hindex : index.Checked)
    (hadd : index.addElement element = .ok next) : next.Checked := by
  have howner := owner_of_addElement hadd
  rw [addElement_ok hadd]
  refine ⟨hindex.qualified, ?_, hindex.methods_owned⟩
  intro other hmem
  rcases List.mem_append.mp hmem with hmem | hmem
  · exact hindex.elements_owned other hmem
  · rwa [List.mem_singleton.mp hmem]

theorem Checked.addElements (hindex : index.Checked) (elements : List Element) :
    (index.addElements elements).1.Checked := by
  fun_induction ProgramIndex.addElements index elements with
  | case1 => exact hindex
  | case2 index element elements next hadd ih => exact ih (hindex.addElement hadd)
  | case3 => exact hindex

/-- Elements that all join have declared owners. -/
theorem owner_of_addElements {elements : List Element} (hjoined : (index.addElements elements).2 = none)
    {element : Element} (hmem : element ∈ elements) : element.enclosure.owner ∈ index.types.keys := by
  induction elements generalizing index with
  | nil => exact absurd hmem List.not_mem_nil
  | cons first elements ih =>
      cases hadd : index.addElement first with
      | error fault =>
          rw [ProgramIndex.addElements, hadd] at hjoined
          cases hjoined
      | ok next =>
          rw [ProgramIndex.addElements, hadd] at hjoined
          rcases List.mem_cons.mp hmem with rfl | hmem
          · exact (owner_of_addElement hadd).2
          · have howner := ih hjoined hmem
            rwa [addElement_ok hadd] at howner

theorem owner_of_mem_elements {method : Method} {element : Element}
    (hmem : element ∈ method.elements) : element.enclosure.owner = method.owner := by
  obtain ⟨_, _, rfl⟩ := List.mem_map.mp hmem
  rfl

theorem exists_mem_elements {method : Method} (hsome : method.parameters ≠ []) :
    ∃ element, element ∈ method.elements := by
  apply List.exists_mem_of_ne_nil
  intro hnone
  apply hsome
  simpa [Method.elements] using hnone

theorem methodsOf_insert (index : ProgramIndex) (owner other : String) (methods : List Method) :
    ({ index with methods := index.methods.insert owner methods } : ProgramIndex).methodsOf other =
      if other = owner then methods else index.methodsOf other := by
  rw [methodsOf, Registry.get?_insert]
  split
  · rfl
  · rfl

theorem Checked.addMethod (hindex : index.Checked) (owner : String) (method : Method) :
    (index.addMethod owner method).1.Checked := by
  unfold ProgramIndex.addMethod
  split
  · exact hindex
  · have hjoined := hindex.addElements ({ method with owner := owner } : Method).elements
    have htypes := (index.addElements_types ({ method with owner := owner } : Method).elements).1
    simp only
    split
    · next heq =>
        rw [heq] at hjoined
        exact hjoined
    · next filled heq =>
        have howned := @owner_of_addElements index ({ method with owner := owner } : Method).elements
        rw [heq] at hjoined htypes howned
        refine ⟨hjoined.qualified, hjoined.elements_owned, ?_⟩
        intro other stored hmem
        rw [methodsOf_insert] at hmem
        split at hmem
        · next hother =>
            subst hother
            rcases List.mem_append.mp hmem with hmem | hmem
            · exact hjoined.methods_owned other stored hmem
            · -- The parameters of the method have joined, so one of them has had its owner checked.
              rw [List.mem_singleton.mp hmem]
              refine ⟨rfl, fun hsome => ?_⟩
              obtain ⟨element, helement⟩ := @exists_mem_elements { method with owner := other } hsome
              have howner := howned rfl helement
              rw [owner_of_mem_elements helement] at howner
              exact htypes ▸ howner
        · exact hjoined.methods_owned other stored hmem

theorem Loaded.checked (hloaded : Loaded index) : index.Checked := by
  induction hloaded with
  | empty => exact checked_empty
  | addType _ hadd ih => exact ih.addType hadd
  | addElement _ hadd ih => exact ih.addElement hadd
  | addMethod owner method _ ih => exact ih.addMethod owner method

/-- Nothing looks at the owner of a method without parameters. -/
theorem mem_methodsOf_addMethod {owner : String} {method : Method}
    (hname : Name.isIdentifier method.name.toList = true) (hnone : method.parameters = []) :
    { method with owner := owner } ∈ (index.addMethod owner method).1.methodsOf owner := by
  have helements : ({ method with owner := owner } : Method).elements = [] := by
    rw [Method.elements, hnone]
    rfl
  have hcheck : checkIdentifier method.name = .ok () := by
    rw [checkIdentifier, if_pos hname]
    rfl
  simp only [ProgramIndex.addMethod, hcheck, helements, ProgramIndex.addElements, methodsOf_insert,
    if_true]
  exact List.mem_append_right _ (List.mem_singleton_self _)

theorem Consistent.map_name_values (hindex : index.Consistent) :
    index.types.values.map TypeDeclaration.name = index.types.keys := by
  rw [Registry.values, Registry.keys, List.map_map]
  apply List.map_congr_left
  intro entry hmem
  exact hindex.name_eq entry.1 entry.2 (Registry.get?_eq_some_iff.mpr hmem)

theorem Consistent.exists_declaration_iff (hindex : index.Consistent) (name : String) :
    (∃ declaration ∈ index.types.values, declaration.name = name) ↔ name ∈ index.types.keys := by
  rw [← hindex.map_name_values, List.mem_map]

theorem Consistent.get?_of_mem_values (hindex : index.Consistent) {declaration : TypeDeclaration}
    (hmem : declaration ∈ index.types.values) :
    index.types.get? declaration.name = some declaration := by
  obtain ⟨name, hget⟩ := Registry.mem_values_iff.mp hmem
  rwa [hindex.name_eq name declaration hget]

end ProgramIndex

open ProgramIndex (ofCalls)

/-- **Calls keep an index in order.** Whatever calls were made on a new index, each declared type has a valid
name, which no other has, and the hierarchy lists its superclass and then its interfaces; each element has a
valid name and a declared owner; each method is kept under the owner that it carries, and that owner is
declared if the method has a parameter. A method without parameters is kept under any owner. -/
theorem calls_keep_order (calls : List ProgramIndex.Call) :
    (∀ declaration ∈ (ofCalls calls).types.values, Name.isQualified declaration.name = true) ∧
    ((ofCalls calls).types.values.map TypeDeclaration.name).Nodup ∧
    (∀ declaration ∈ (ofCalls calls).types.values,
      (ofCalls calls).hierarchy.supertypes declaration.name =
        declaration.superclass.toList ++ declaration.interfaces) ∧
    (∀ element ∈ (ofCalls calls).elements, Name.isIdentifier element.name.toList = true ∧
      ∃ declaration ∈ (ofCalls calls).types.values, declaration.name = element.enclosure.owner) ∧
    (∀ owner, ∀ method ∈ (ofCalls calls).methodsOf owner, method.owner = owner ∧
      (method.parameters ≠ [] →
        ∃ declaration ∈ (ofCalls calls).types.values, declaration.name = owner)) ∧
    (∀ owner (method : Method), Name.isIdentifier method.name.toList = true →
      method.parameters = [] →
      { method with owner := owner } ∈
        (ofCalls (calls ++ [.addMethod owner method])).methodsOf owner) := by
  have hconsistent := (ProgramIndex.loaded_ofCalls calls).consistent
  have hchecked := (ProgramIndex.loaded_ofCalls calls).checked
  simp only [hconsistent.exists_declaration_iff]
  refine ⟨?_, ?_, ?_, hchecked.elements_owned, hchecked.methods_owned, ?_⟩
  · intro declaration hmem
    apply hchecked.qualified
    rw [← hconsistent.map_name_values]
    exact List.mem_map_of_mem hmem
  · rw [hconsistent.map_name_values]
    exact (ofCalls calls).types.nodup
  · intro declaration hmem
    exact hconsistent.supertypes_eq _ declaration (hconsistent.get?_of_mem_values hmem)
  · intro owner method hname hnone
    rw [ofCalls, List.foldl_append]
    exact ProgramIndex.mem_methodsOf_addMethod hname hnone

theorem orphan_method_kept :
    (ofCalls [.addMethod "app.Missing" ⟨"", "open", .named TypeRef.bundle, []⟩]).methodsOf
        "app.Missing" = [⟨"app.Missing", "open", .named TypeRef.bundle, []⟩] ∧
      (ofCalls [.addMethod "app.Missing" ⟨"", "open", .named TypeRef.bundle, []⟩]).types.values =
        [] := by
  decide

end BundleBinding
