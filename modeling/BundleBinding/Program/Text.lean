import BundleBinding.Program.Index
import BundleBinding.Yaml.Document

/-!
Program texts: YAML documents that declare types with their fields and methods. The members of a
mapping are read in the order in which they are written, and the first that cannot be read decides;
only then does it count that the text is broken further on.
-/

namespace BundleBinding

inductive ProgramTextFault where
  | malformed
  | badType (input : String) (error : TypeSyntaxError)

namespace ProgramTextFault

def fault : ProgramTextFault → Fault
  | malformed => .programText Fault.elided
  | badType input error => .programText (Fault.ofTypeSyntax input error).message

end ProgramTextFault

structure FieldText where
  name : String
  type : TypeRef
  modifiers : List Modifier
  annotations : List Annotation

structure TypeText where
  declaration : TypeDeclaration
  fields : List FieldText
  methods : List Method

namespace FieldText

def element (owner : String) (field : FieldText) : Element :=
  ⟨field.name, field.type, field.modifiers, field.annotations, .type owner⟩

end FieldText

namespace ProgramText

open Yaml (Document Node)

abbrev Reading := Except ProgramTextFault

def require {α : Type} : Option α → Reading α
  | some value => pure value
  | none => throw .malformed

variable {α σ : Type}

/-- Reads the members of a mapping, each with `member`, which is asked only for known names and
for each at most once. Other names are refused unless the mapping is open. -/
def members (document : Document) (known : List String) (isOpen : Bool)
    (member : σ → String → Node → Reading σ) (start : σ) (node : Node) : Reading σ := do
  let entries ← require (document.entries? node)
  let step (state : σ × List String) (entry : Node × Node) : Reading (σ × List String) := do
    let name ← require (document.text? entry.1)
    if name ∈ known then
      if name ∈ state.2 then throw .malformed
      return (← member state.1 name entry.2, name :: state.2)
    else if isOpen then
      return state
    else
      throw .malformed
  return (← entries.foldlM step (start, [])).1

def items (document : Document) (item : Node → Reading α) (node : Node) : Reading (List α) := do
  (← require (document.items? node)).mapM item

def text (document : Document) (node : Node) : Reading String :=
  require (document.text? node)

def optionalText (document : Document) (node : Node) : Reading (Option String) :=
  require (document.optionalText? node)

def type (document : Document) (node : Node) : Reading TypeRef := do
  let input ← text document node
  (TypeRef.parse input).mapError (.badType input)

def modifier (document : Document) (node : Node) : Reading Modifier :=
  require ((document.word? node).bind Modifier.ofKeyword?)

def form (document : Document) (node : Node) : Reading TypeForm :=
  require ((document.word? node).bind TypeForm.ofKeyword?)

/-! Each kind of mapping is read into a draft, in which required members may still be missing. -/

structure AnnotationDraft where
  name : Option String
  value : Option String
  description : Option String

def mark (document : Document) (node : Node) : Reading Annotation := do
  let member (draft : AnnotationDraft) (name : String) (node : Node) :
      Reading AnnotationDraft := do
    match name with
    | "name" => return { draft with name := ← text document node }
    | "value" => return { draft with value := ← optionalText document node }
    | _ => return { draft with description := ← optionalText document node }
  let draft ← members document ["name", "value", "desc"] true member ⟨none, none, none⟩ node
  return ⟨← require draft.name, draft.value, draft.description⟩

def annotations (document : Document) (node : Node) : Reading (List Annotation) :=
  items document (mark document) node

def modifiers (document : Document) (node : Node) : Reading (List Modifier) :=
  items document (modifier document) node

structure FieldDraft where
  name : Option String
  type : Option TypeRef
  modifiers : List Modifier
  annotations : List Annotation

def field (document : Document) (node : Node) : Reading FieldText := do
  let member (draft : FieldDraft) (name : String) (node : Node) : Reading FieldDraft := do
    match name with
    | "name" => return { draft with name := ← text document node }
    | "type" => return { draft with type := ← type document node }
    | "modifiers" => return { draft with modifiers := ← modifiers document node }
    | _ => return { draft with annotations := ← annotations document node }
  let known := ["name", "type", "modifiers", "annotations"]
  let draft ← members document known false member ⟨none, none, [], []⟩ node
  return ⟨← require draft.name, ← require draft.type, draft.modifiers, draft.annotations⟩

structure ParameterDraft where
  name : Option String
  type : Option TypeRef
  annotations : List Annotation

def parameter (document : Document) (node : Node) : Reading Parameter := do
  let member (draft : ParameterDraft) (name : String) (node : Node) : Reading ParameterDraft := do
    match name with
    | "name" => return { draft with name := ← optionalText document node }
    | "type" => return { draft with type := ← type document node }
    | _ => return { draft with annotations := ← annotations document node }
  let known := ["name", "type", "annotations"]
  let draft ← members document known false member ⟨none, none, []⟩ node
  return ⟨draft.name, ← require draft.type, draft.annotations⟩

structure MethodDraft where
  owner : String
  name : Option String
  returns : Option TypeRef
  parameters : List Parameter

def method (document : Document) (node : Node) : Reading Method := do
  let member (draft : MethodDraft) (name : String) (node : Node) : Reading MethodDraft := do
    match name with
    | "owner" => return { draft with owner := ← text document node }
    | "name" => return { draft with name := ← text document node }
    | "returns" => return { draft with returns := ← type document node }
    | _ => return { draft with parameters := ← items document (parameter document) node }
  let known := ["owner", "name", "returns", "parameters"]
  let draft ← members document known false member ⟨"", none, none, []⟩ node
  return ⟨draft.owner, ← require draft.name, ← require draft.returns, draft.parameters⟩

structure TypeDraft where
  name : Option String
  form : TypeForm
  modifiers : List Modifier
  superclass : Option String
  interfaces : List String
  fields : List FieldText
  methods : List Method

def declaredType (document : Document) (node : Node) : Reading TypeText := do
  let member (draft : TypeDraft) (name : String) (node : Node) : Reading TypeDraft := do
    match name with
    | "name" => return { draft with name := ← text document node }
    | "kind" => return { draft with form := ← form document node }
    | "modifiers" => return { draft with modifiers := ← modifiers document node }
    | "superclass" => return { draft with superclass := ← optionalText document node }
    | "interfaces" => return { draft with interfaces := ← items document (text document) node }
    | "fields" => return { draft with fields := ← items document (field document) node }
    | _ => return { draft with methods := ← items document (method document) node }
  let known := ["name", "kind", "modifiers", "superclass", "interfaces", "fields", "methods"]
  let draft ← members document known false member ⟨none, .classType, [], none, [], [], []⟩ node
  return ⟨⟨← require draft.name, draft.form, draft.modifiers, draft.superclass, draft.interfaces⟩,
    draft.fields, draft.methods⟩

def read (input : String) : Reading (List TypeText) := do
  let document := Document.ofText input
  let member (_ : List TypeText) (_ : String) (node : Node) : Reading (List TypeText) :=
    items document (declaredType document) node
  let types ←
    match document.root with
    | some node => members document ["types"] false member [] node
    | none => pure []
  if document.isSound then return types else throw .malformed

end ProgramText

namespace ProgramIndex

def addMethods (owner : String) (methods : List Method) (index : ProgramIndex) :
    Except ModelFault ProgramIndex :=
  methods.foldlM (fun index method =>
    match index.addMethod owner method with
    | (_, some fault) => throw fault
    | (index, none) => pure index) index

def addTypeText (index : ProgramIndex) (type : TypeText) : Except ModelFault ProgramIndex := do
  let owner := type.declaration.name
  let index ← index.addType type.declaration
  let index ← type.fields.foldlM (fun index field => index.addElement (field.element owner)) index
  index.addMethods owner type.methods

/-- The program that a text declares. The whole text is read before anything of it is checked. -/
def ofText (input : String) : Except Fault ProgramIndex := do
  let types ← (ProgramText.read input).mapError ProgramTextFault.fault
  (types.foldlM addTypeText empty).mapError .invalidProgram

end ProgramIndex

end BundleBinding
