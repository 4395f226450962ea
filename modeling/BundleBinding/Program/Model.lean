import BundleBinding.Annotation
import BundleBinding.Unvisited

/-!
Programs as the resolver sees them: type declarations, and the annotated fields and parameters that
they enclose.
-/

namespace BundleBinding

inductive TypeForm where
  | classType
  | interfaceType
  | enumType
  | annotationType
  | recordType
  deriving Repr, DecidableEq

inductive Modifier where
  | publicMember
  | protectedMember
  | privateMember
  | staticMember
  | finalMember
  | abstractMember
  | transientMember
  | volatileMember
  deriving Repr, DecidableEq

namespace TypeForm

def all : List TypeForm :=
  [.classType, .interfaceType, .enumType, .annotationType, .recordType]

def keyword : TypeForm → String
  | .classType => "class"
  | .interfaceType => "interface"
  | .enumType => "enum"
  | .annotationType => "annotation"
  | .recordType => "record"

def ofKeyword? (word : String) : Option TypeForm :=
  all.find? fun form => form.keyword == word

end TypeForm

namespace Modifier

def all : List Modifier :=
  [.publicMember, .protectedMember, .privateMember, .staticMember, .finalMember, .abstractMember,
   .transientMember, .volatileMember]

def keyword : Modifier → String
  | .publicMember => "public"
  | .protectedMember => "protected"
  | .privateMember => "private"
  | .staticMember => "static"
  | .finalMember => "final"
  | .abstractMember => "abstract"
  | .transientMember => "transient"
  | .volatileMember => "volatile"

def ofKeyword? (word : String) : Option Modifier :=
  all.find? fun modifier => modifier.keyword == word

end Modifier

structure TypeDeclaration where
  name : String
  form : TypeForm
  modifiers : List Modifier
  superclass : Option String
  interfaces : List String
  deriving Repr, DecidableEq

namespace TypeDeclaration

def hasModifier (declaration : TypeDeclaration) (modifier : Modifier) : Bool :=
  decide (modifier ∈ declaration.modifiers)

def supertypes (declaration : TypeDeclaration) : List String :=
  declaration.superclass.toList ++ declaration.interfaces

end TypeDeclaration

/-- Where an element lives: as a field in a type, or as a parameter of a method of a type. -/
inductive Enclosure where
  | type (owner : String)
  | method (owner name : String)
  deriving Repr, DecidableEq

namespace Enclosure

def owner : Enclosure → String
  | type owner => owner
  | method owner _ => owner

end Enclosure

structure Element where
  name : String
  type : TypeRef
  modifiers : List Modifier
  annotations : List Annotation
  enclosure : Enclosure
  deriving Repr

namespace Element

def hasModifier (element : Element) (modifier : Modifier) : Bool :=
  decide (modifier ∈ element.modifiers)

/-- Does the element bear an annotation of that name? Names are compared by their simple names. -/
def hasAnnotation (element : Element) (name : String) : Bool :=
  isAnnotatedWith element.annotations (Name.simple name)

/-- The type whose field this is; a parameter is no field. -/
def host? (element : Element) : Option String :=
  match element.enclosure with
  | .type owner => some owner
  | .method _ _ => none

end Element

/-- Declared types and annotated elements, each in the order of declaration. -/
structure ProgramModel where
  types : List TypeDeclaration
  elements : List Element
  deriving Repr

namespace ProgramModel

def type? (model : ProgramModel) (name : String) : Option TypeDeclaration :=
  model.types.find? fun declaration => declaration.name == name

theorem name_of_type? {model : ProgramModel} {name : String} {declaration : TypeDeclaration}
    (h : model.type? name = some declaration) : declaration.name = name := by
  simpa using List.find?_some h

theorem mem_of_type? {model : ProgramModel} {name : String} {declaration : TypeDeclaration}
    (h : model.type? name = some declaration) : declaration ∈ model.types :=
  List.mem_of_find?_eq_some h

def superclass? (model : ProgramModel) (declaration : TypeDeclaration) : Option TypeDeclaration :=
  declaration.superclass.bind model.type?

theorem mem_of_superclass? {model : ProgramModel} {declaration superclass : TypeDeclaration}
    (h : model.superclass? declaration = some superclass) : superclass ∈ model.types := by
  obtain ⟨name, _, hname⟩ := Option.bind_eq_some_iff.mp h
  exact mem_of_type? hname

def annotatedWith (model : ProgramModel) (name : String) : List Element :=
  model.elements.filter fun element => element.hasAnnotation name

end ProgramModel

end BundleBinding
