import BundleBinding.Program.Text
import BundleBinding.Proofs.SubtypeSearch
import BundleBinding.Proofs.SuperclassChain
import BundleBinding.Proofs.Traversal

/-!
# Loaded programs

An index keeps its types and what it knows of supertypes apart. Both are written by the declaration of a
type, which refuses a name that is there already, so they agree on every declared type, platform types that
a program declares anew included. Hence the superclass chains that binding follows are chains of the
hierarchy as well.
-/

namespace BundleBinding

namespace ProgramIndex

/-- The indexes that a program can be loaded into. A method that is refused may have left some of its
parameters. -/
inductive Loaded : ProgramIndex → Prop
  | empty : Loaded empty
  | addType {index next : ProgramIndex} {declaration : TypeDeclaration} (hloaded : Loaded index)
      (hadd : index.addType declaration = .ok next) : Loaded next
  | addElement {index next : ProgramIndex} {element : Element} (hloaded : Loaded index)
      (hadd : index.addElement element = .ok next) : Loaded next
  | addMethod {index : ProgramIndex} (owner : String) (method : Method) (hloaded : Loaded index) :
      Loaded (index.addMethod owner method).1

theorem Loaded.addMethods {index next : ProgramIndex} {owner : String} {methods : List Method}
    (hloaded : Loaded index) (hadd : addMethods owner methods index = .ok next) : Loaded next := by
  refine foldlM_keeps ?_ hadd hloaded
  intro index method next hloaded hadd
  have hnext := hloaded.addMethod owner method
  split at hadd
  · cases hadd
  · next hadded =>
      cases hadd
      rwa [hadded] at hnext

theorem Loaded.addTypeText {index next : ProgramIndex} {type : TypeText} (hloaded : Loaded index)
    (hadd : index.addTypeText type = .ok next) : Loaded next := by
  obtain ⟨declared, hdeclared, hadd⟩ := bind_eq_ok_iff.mp hadd
  obtain ⟨filled, hfilled, hadd⟩ := bind_eq_ok_iff.mp hadd
  have hfields : Loaded filled := by
    refine foldlM_keeps ?_ hfilled (hloaded.addType hdeclared)
    exact fun _ _ _ hloaded hadd => hloaded.addElement hadd
  exact hfields.addMethods hadd

theorem loaded_of_ofText {input : String} {index : ProgramIndex}
    (hread : ofText input = .ok index) : Loaded index := by
  obtain ⟨types, _, hindex⟩ := bind_eq_ok_iff.mp hread
  have hfold : types.foldlM ProgramIndex.addTypeText ProgramIndex.empty = .ok index := by
    cases hadded : types.foldlM ProgramIndex.addTypeText ProgramIndex.empty with
    | error fault =>
        rw [hadded] at hindex
        cases hindex
    | ok next =>
        rw [hadded] at hindex
        cases hindex
        rfl
  exact foldlM_keeps (fun _ _ _ hloaded hadd => hloaded.addTypeText hadd) hfold .empty

/-! ### Types and supertypes -/

variable {index next : ProgramIndex}

/-- Each declaration is kept under its name, and the hierarchy lists its supertypes. -/
structure Consistent (index : ProgramIndex) : Prop where
  name_eq : ∀ name declaration, index.types.get? name = some declaration → declaration.name = name
  supertypes_eq : ∀ name declaration, index.types.get? name = some declaration →
    index.hierarchy.supertypes name = declaration.supertypes

theorem consistent_empty : Consistent empty := by
  constructor
  all_goals
    intro name declaration hget
    cases hget

theorem Consistent.of_eq (hindex : index.Consistent) (htypes : next.types = index.types)
    (hhierarchy : next.hierarchy = index.hierarchy) : next.Consistent := by
  constructor
  · rw [htypes]
    exact hindex.name_eq
  · rw [htypes, hhierarchy]
    exact hindex.supertypes_eq

theorem addType_ok {declaration : TypeDeclaration} (hadd : index.addType declaration = .ok next) :
    next.types = index.types.insert declaration.name declaration ∧
      next.hierarchy = index.hierarchy.declare declaration.name declaration.supertypes := by
  obtain ⟨_, _, hadd⟩ := bind_eq_ok_iff.mp hadd
  obtain ⟨_, _, hadd⟩ := bind_eq_ok_iff.mp hadd
  split at hadd
  · cases hadd
  · cases hadd
    exact ⟨rfl, rfl⟩

theorem Consistent.addType {declaration : TypeDeclaration} (hindex : index.Consistent)
    (hadd : index.addType declaration = .ok next) : next.Consistent := by
  obtain ⟨htypes, hhierarchy⟩ := addType_ok hadd
  constructor
  · intro name other hget
    rw [htypes, Registry.get?_insert] at hget
    split at hget
    · next hname =>
        cases hget
        exact hname.symm
    · exact hindex.name_eq name other hget
  · intro name other hget
    rw [htypes, Registry.get?_insert] at hget
    rw [hhierarchy, TypeTable.supertypes_declare]
    split at hget
    · next hname =>
        cases hget
        rw [if_pos hname]
    · next hname =>
        rw [if_neg hname]
        exact hindex.supertypes_eq name other hget

theorem addElement_ok {element : Element} (hadd : index.addElement element = .ok next) :
    next = { index with elements := index.elements ++ [element] } := by
  obtain ⟨_, _, hadd⟩ := bind_eq_ok_iff.mp hadd
  simp only at hadd
  split at hadd
  · cases hadd
  · cases hadd
    rfl

theorem addElements_types (index : ProgramIndex) (elements : List Element) :
    (index.addElements elements).1.types = index.types ∧
      (index.addElements elements).1.hierarchy = index.hierarchy := by
  fun_induction addElements index elements with
  | case1 => exact ⟨rfl, rfl⟩
  | case2 index element elements next hadd ih =>
      rw [addElement_ok hadd] at ih ⊢
      exact ih
  | case3 => exact ⟨rfl, rfl⟩

theorem addMethod_types (index : ProgramIndex) (owner : String) (method : Method) :
    (index.addMethod owner method).1.types = index.types ∧
      (index.addMethod owner method).1.hierarchy = index.hierarchy := by
  unfold addMethod
  split
  · exact ⟨rfl, rfl⟩
  · have hframe := index.addElements_types ({ method with owner := owner } : Method).elements
    simp only
    split
    · next heq =>
        rw [heq] at hframe
        exact hframe
    · next heq =>
        rw [heq] at hframe
        exact hframe

theorem Loaded.consistent (hloaded : Loaded index) : index.Consistent := by
  induction hloaded with
  | empty => exact consistent_empty
  | addType _ hadd ih => exact ih.addType hadd
  | addElement _ hadd ih =>
      rw [addElement_ok hadd]
      exact ih.of_eq rfl rfl
  | addMethod owner method _ ih =>
      obtain ⟨htypes, hhierarchy⟩ := addMethod_types _ owner method
      exact ih.of_eq htypes hhierarchy

/-! ### Superclasses in the hierarchy -/

open Relation (TransGen)

theorem Consistent.get?_of_type? {name : String} {declaration : TypeDeclaration} (hindex : index.Consistent)
    (htype : index.model.type? name = some declaration) :
    index.types.get? name = some declaration := by
  obtain ⟨key, hget⟩ := Registry.mem_values_iff.mp (ProgramModel.mem_of_type? htype)
  rw [← ProgramModel.name_of_type? htype, hindex.name_eq key declaration hget, hget]

theorem Consistent.lists_of_extends {name superclass : String} (hindex : index.Consistent)
    (hextends : index.model.Extends name superclass) : index.hierarchy.Lists name superclass := by
  obtain ⟨declared, hdeclared, rfl⟩ := Option.map_eq_some_iff.mp hextends
  obtain ⟨declaration, htype, hsuper⟩ := Option.bind_eq_some_iff.mp hdeclared
  obtain ⟨written, hwritten, hsupertype⟩ := Option.bind_eq_some_iff.mp hsuper
  have hname : declared.name = written := ProgramModel.name_of_type? hsupertype
  rw [TypeTable.Lists, hindex.supertypes_eq name declaration (hindex.get?_of_type? htype),
    TypeDeclaration.supertypes, hwritten, hname]
  exact List.mem_append_left _ List.mem_cons_self

theorem Consistent.isSubtype_of_transGen {name above : String} (hindex : index.Consistent)
    (hchain : TransGen index.model.Extends name above) :
    index.hierarchy.isSubtype name above = true := by
  have hlists : TransGen index.hierarchy.Lists name above :=
    hchain.lift id fun _ _ hextends => hindex.lists_of_extends hextends
  exact TypeTable.isSubtype_of_transGen hlists

end ProgramIndex

end BundleBinding
