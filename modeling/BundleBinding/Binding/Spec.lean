import BundleBinding.Annotation

/-!
Binding specifications: the fields of one host type and the keys they are bound to, with a link to
the specification of the nearest bound superclass.
-/

namespace BundleBinding

/-- How one field maps to one key of the container. -/
structure FieldBinding where
  name : String
  kind : Kind
  key : String
  type : TypeRef
  required : Bool
  /-- Free text from the annotation, empty when absent. -/
  description : String
  deriving Repr, DecidableEq

def fieldWithKey? (fields : List FieldBinding) (key : String) : Option FieldBinding :=
  fields.find? fun field => field.key == key

def fieldWithName? (fields : List FieldBinding) (name : String) : Option FieldBinding :=
  fields.find? fun field => field.name == name

structure BindingSpec where
  host : String
  fields : List FieldBinding
  parent : Option BindingSpec
  deriving Repr, Inhabited

namespace BindingSpec

def blank (host : String) : BindingSpec :=
  ⟨host, [], none⟩

def addField (spec : BindingSpec) (field : FieldBinding) : BindingSpec :=
  { spec with fields := spec.fields ++ [field] }

def withParent (spec parent : BindingSpec) : BindingSpec :=
  { spec with parent := some parent }

/-- The specifications above this one, the nearest first. -/
def ancestors : BindingSpec → List BindingSpec
  | ⟨_, _, none⟩ => []
  | ⟨_, _, some parent⟩ => parent :: parent.ancestors

def simpleName (spec : BindingSpec) : String :=
  Name.simple spec.host

def package (spec : BindingSpec) : String :=
  Name.package spec.host

def classPath (spec : BindingSpec) : String :=
  Name.classPath spec.host

end BindingSpec

end BundleBinding
