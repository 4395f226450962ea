import BundleBinding.Java.Source
import BundleBinding.Proofs.LoadedPrograms
import BundleBinding.Proofs.Resolution

/-!
# Delegation between generated classes

A class names the binder of the parent by the parent's host alone and knows nothing of the file that is
generated for it. The name is that of a class of the same run all the same, which is generated before; and
since parents are found along superclasses of the program, the target can be passed on to it.
-/

namespace BundleBinding

/-- The name by which other classes call the class of a file. -/
def GeneratedFile.qualifiedName (file : GeneratedFile) : String :=
  if file.package.isEmpty then file.typeName else file.package ++ "." ++ file.typeName

namespace Java

variable {suffix : String} {spec parent : BindingSpec}

theorem qualifiedName_generate (suffix : String) (spec : BindingSpec) :
    (generate suffix spec).qualifiedName = binderName suffix spec.host := rfl

/-- A method over a target of the given class that first passes it on to another class. -/
def delegatingMethod (name target delegate : String) (body : List String) : List String :=
  ["  public static void " ++ name ++ "(" ++ target ++ " target, " ++ container ++ " bundle) \x7b",
   "    " ++ delegate ++ "." ++ name ++ "(target, bundle);"] ++ body ++ ["  \x7d"]

/-- The source of a class whose two methods pass their target on to the same class. -/
def delegatingSource (suffix : String) (spec : BindingSpec) (delegate : String) : String :=
  let opening :=
    ["// Generated by bundlewire. Do not modify."] ++
    (if spec.package.isEmpty then [] else ["package " ++ spec.package ++ ";", ""]) ++
    ["import " ++ TypeRef.bundle ++ ";", "",
     "public class " ++ binderSimpleName suffix spec.host ++ " \x7b"]
  let reads := delegatingMethod "bind" spec.classPath delegate (spec.fields.flatMap readLines)
  let writes := delegatingMethod "pack" spec.classPath delegate (spec.fields.map writeLine)
  String.join ((opening ++ reads ++ [""] ++ writes ++ ["\x7d"]).map (· ++ "\n"))

theorem methodLines_of_parent (hparent : spec.parent = some parent) (name : String)
    (body : List String) :
    methodLines name suffix spec body =
      delegatingMethod name spec.classPath (generate suffix parent).qualifiedName body := by
  rw [methodLines, delegatingMethod, qualifiedName_generate, hparent, Option.toList_some,
    List.map_singleton, List.singleton_append]

theorem source_generate_of_parent (hparent : spec.parent = some parent) :
    (generate suffix spec).source =
      delegatingSource suffix spec (generate suffix parent).qualifiedName := by
  rw [generate, lines, methodLines_of_parent hparent, methodLines_of_parent hparent,
    delegatingSource]

theorem generateAll_append (suffix : String) (specs others : List BindingSpec) :
    generateAll suffix (specs ++ others) = generateAll suffix specs ++ generateAll suffix others :=
  List.map_append

theorem generateAll_cons (suffix : String) (spec : BindingSpec) (specs : List BindingSpec) :
    generateAll suffix (spec :: specs) = generate suffix spec :: generateAll suffix specs :=
  List.map_cons

end Java

namespace ProgramModel

open Relation (TransGen)

variable {model : ProgramModel} {reserved : List String} {spec parent : BindingSpec}

/-- The host of the parent stands above the host in the program, cycles or not. -/
theorem transGen_of_parent (hmem : spec ∈ (model.resolve reserved).specs.values)
    (hparent : spec.parent = some parent) : TransGen model.Extends spec.host parent.host := by
  have hget := get?_host_of_mem_values hmem
  have hrule := (model.linked_consistent reserved).parent_rule spec.host spec hget
  rw [hparent] at hrule
  cases hrule with
  | linked hsearch hstored =>
      have hclimb := model.climbsTo_parentSearch (model.scan reserved).isBound spec.host
      rw [linkSearch] at hsearch
      rw [hsearch] at hclimb
      rw [linked_host_eq hstored]
      exact hclimb.transGen.2

theorem exists_split_of_parent (hmem : spec ∈ (model.resolve reserved).specs.values)
    (hparent : spec.parent = some parent) :
    ∃ before between after,
      (model.resolve reserved).specs.values = before ++ parent :: (between ++ spec :: after) := by
  obtain ⟨earlier, after, hsplit⟩ := List.append_of_mem hmem
  have hfirst := (model.linked_wellFormed reserved).parents_first earlier spec after hsplit
  obtain ⟨before, between, rfl⟩ := List.append_of_mem (hfirst parent hparent)
  exact ⟨before, between, after, by rw [hsplit, List.append_assoc, List.cons_append]⟩

end ProgramModel

/-- **Generated classes delegate to generated classes.** In whatever way a program was loaded, if a
specification has a parent, then the file of the parent comes earlier among the generated files; the class
that both methods of the specification pass their target on to is the one in that file; and the host is a
subtype of the parent's host. -/
theorem delegation_closed {index : ProgramIndex} (hloaded : index.Loaded) (reserved : List String)
    (suffix : String) {spec parent : BindingSpec}
    (hmem : spec ∈ (index.model.resolve reserved).specs.values)
    (hparent : spec.parent = some parent) :
    (∃ before between after,
      (index.model.resolve reserved).specs.values =
        before ++ parent :: (between ++ spec :: after) ∧
      Java.generateAll suffix (index.model.resolve reserved).specs.values =
        Java.generateAll suffix before ++ Java.generate suffix parent ::
          (Java.generateAll suffix between ++
            Java.generate suffix spec :: Java.generateAll suffix after)) ∧
    (Java.generate suffix spec).source =
      Java.delegatingSource suffix spec (Java.generate suffix parent).qualifiedName ∧
    index.hierarchy.isSubtype spec.host parent.host = true := by
  refine ⟨?_, Java.source_generate_of_parent hparent, ?_⟩
  · obtain ⟨before, between, after, hsplit⟩ := ProgramModel.exists_split_of_parent hmem hparent
    refine ⟨before, between, after, hsplit, ?_⟩
    rw [hsplit, Java.generateAll_append, Java.generateAll_cons, Java.generateAll_append,
      Java.generateAll_cons]
  · exact hloaded.consistent.isSubtype_of_transGen
      (ProgramModel.transGen_of_parent hmem hparent)

/-- A nested class two steps below a bound class, with an unbound class between them. -/
def nestedLeaf : Except ModelFault ProgramIndex := do
  let index ← ProgramIndex.empty.addType ⟨"app.Base", .classType, [], none, []⟩
  let index ← index.addType ⟨"app.Middle", .classType, [], some "app.Base", []⟩
  let index ← index.addType ⟨"app.Outer.Leaf", .classType, [], some "app.Middle", []⟩
  let index ← index.addElement
    ⟨"count", .primitive .int, [], [⟨"IntValue", some "base", none⟩], .type "app.Base"⟩
  index.addElement
    ⟨"count", .primitive .int, [], [⟨"IntValue", some "leaf", none⟩], .type "app.Outer.Leaf"⟩

def nestedLeafIndex : ProgramIndex :=
  nestedLeaf.toOption.getD ProgramIndex.empty

theorem loaded_nestedLeafIndex : nestedLeafIndex.Loaded := by
  have hindex : nestedLeaf = .ok nestedLeafIndex := rfl
  obtain ⟨_, hbase, hindex⟩ := bind_eq_ok_iff.mp hindex
  obtain ⟨_, hmiddle, hindex⟩ := bind_eq_ok_iff.mp hindex
  obtain ⟨_, hleaf, hindex⟩ := bind_eq_ok_iff.mp hindex
  obtain ⟨_, hfirst, hsecond⟩ := bind_eq_ok_iff.mp hindex
  have htypes := ((ProgramIndex.Loaded.empty.addType hbase).addType hmiddle).addType hleaf
  exact (htypes.addElement hfirst).addElement hsecond

theorem nested_leaf_delegates :
    nestedLeafIndex.Loaded ∧ ∃ spec parent,
      spec ∈ (nestedLeafIndex.model.resolve []).specs.values ∧ spec.parent = some parent ∧
      (Java.generate "_Binder" spec).source =
        Java.delegatingSource "_Binder" spec "app.Base_Binder" ∧
      nestedLeafIndex.hierarchy.isSubtype "app.Outer.Leaf" "app.Base" = true := by
  have hchain :
      nestedLeafIndex.model.SuperclassChain "app.Outer.Leaf" ["app.Middle", "app.Base"] :=
    .step (by decide) (.step (by decide) (.top (by decide)))
  have hnearest : ["app.Middle", "app.Base"].find? (nestedLeafIndex.model.isBound []) =
      some "app.Base" := by decide
  obtain ⟨spec, hspec⟩ := @ProgramModel.exists_spec_of_isBound nestedLeafIndex.model []
    "app.Outer.Leaf" (by decide)
  obtain ⟨parent, hstored⟩ := @ProgramModel.exists_spec_of_isBound nestedLeafIndex.model []
    "app.Base" (by decide)
  have hmem : spec ∈ (nestedLeafIndex.model.resolve []).specs.values :=
    Registry.mem_values_iff.mpr ⟨_, hspec⟩
  have hparent : spec.parent = some parent := by
    rw [ProgramModel.linked_parent_eq hchain hspec, hnearest, Option.bind_some, hstored]
  have hname : (Java.generate "_Binder" parent).qualifiedName = "app.Base_Binder" := by
    have hflat : (Name.classPath "app.Base").map (fun c => if c = '.' then '$' else c) = "Base" := by
      rw [← String.toList_inj, String.toList_map]
      decide
    rw [Java.qualifiedName_generate, ProgramModel.linked_host_eq hstored, Java.binderName,
      Java.binderSimpleName, hflat]
    decide
  obtain ⟨_, hsource, hsubtype⟩ :=
    delegation_closed loaded_nestedLeafIndex [] "_Binder" hmem hparent
  rw [hname] at hsource
  rw [ProgramModel.linked_host_eq hspec, ProgramModel.linked_host_eq hstored] at hsubtype
  exact ⟨loaded_nestedLeafIndex, spec, parent, hmem, hparent, hsource, hsubtype⟩

end BundleBinding
