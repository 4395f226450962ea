import BundleBinding.Fault

/-!
Program indexes: program models that are built up and checked step by step, with the methods of each
type and the supertype facts that the declarations add to those of the platform.

Each step answers with the index after it. A method joins with its parameters one after the other,
and a parameter that is refused leaves those before it in the index.
-/

namespace BundleBinding

namespace Name

def isIdentifierStart (c : Char) : Bool :=
  c.isAlpha || c == '_' || c == '$'

/-- An identifier of ASCII letters, digits, `_` and `$` that does not begin with a digit. -/
def isIdentifier : List Char → Bool
  | [] => false
  | c :: rest => isIdentifierStart c && rest.all fun c => isIdentifierStart c || c.isDigit

/-- Identifiers joined by periods. -/
def isQualified (name : String) : Bool :=
  (segments name.toList).all isIdentifier

end Name

structure ProgramIndex where
  types : Registry String TypeDeclaration
  elements : List Element
  methods : Registry String (List Method)
  hierarchy : TypeTable
  deriving Repr

namespace ProgramIndex

def empty : ProgramIndex :=
  ⟨Registry.empty, [], Registry.empty, TypeTable.platform⟩

def model (index : ProgramIndex) : ProgramModel :=
  ⟨index.types.values, index.elements⟩

def checkQualified (name : String) : Except ModelFault Unit :=
  if Name.isQualified name then pure () else throw (.badQualifiedName name)

def checkIdentifier (name : String) : Except ModelFault Unit :=
  if Name.isIdentifier name.toList then pure () else throw (.badIdentifier name)

def addType (index : ProgramIndex) (declaration : TypeDeclaration) :
    Except ModelFault ProgramIndex := do
  checkQualified declaration.name
  declaration.supertypes.forM checkQualified
  if index.types.contains declaration.name then
    throw (.declaredTwice declaration.name)
  pure { index with
    types := index.types.insert declaration.name declaration
    hierarchy := index.hierarchy.declare declaration.name declaration.supertypes }

def addElement (index : ProgramIndex) (element : Element) : Except ModelFault ProgramIndex := do
  checkIdentifier element.name
  let owner := element.enclosure.owner
  if !index.types.contains owner then
    throw (.undeclaredOwner element.name owner)
  pure { index with elements := index.elements ++ [element] }

/-- Adds elements until one is refused; the index holds those before it. -/
def addElements (index : ProgramIndex) : List Element → ProgramIndex × Option ModelFault
  | [] => (index, none)
  | element :: elements =>
      match index.addElement element with
      | .ok index => index.addElements elements
      | .error fault => (index, some fault)

def methodsOf (index : ProgramIndex) (owner : String) : List Method :=
  (index.methods.get? owner).getD []

/-- Adds a method of the given type, its parameters first. -/
def addMethod (index : ProgramIndex) (owner : String) (method : Method) :
    ProgramIndex × Option ModelFault :=
  match checkIdentifier method.name with
  | .error fault => (index, some fault)
  | .ok () =>
      let method := { method with owner := owner }
      match index.addElements method.elements with
      | (index, some fault) => (index, some fault)
      | (index, none) =>
          let methods := index.methods.insert owner (index.methodsOf owner ++ [method])
          ({ index with methods := methods }, none)

def service (index : ProgramIndex) (name : String) : Except ModelFault ServiceInterface :=
  match index.types.get? name with
  | some declaration => pure ⟨declaration.name, declaration.form, index.methodsOf name⟩
  | none => throw (.unknownType name)

end ProgramIndex

end BundleBinding
