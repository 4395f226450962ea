import BundleBinding.Program.Model

/-!
Methods of service interfaces.
-/

namespace BundleBinding

/-- The identity of a method: overloads differ in their parameter types. -/
structure MethodId where
  owner : String
  name : String
  parameterTypes : List TypeRef
  deriving Repr, DecidableEq

namespace MethodId

def render (id : MethodId) : String :=
  let qualified := if id.owner.isEmpty then id.name else id.owner ++ "." ++ id.name
  qualified ++ "(" ++ ", ".intercalate (id.parameterTypes.map TypeRef.render) ++ ")"

end MethodId

structure Parameter where
  name : Option String
  type : TypeRef
  annotations : List Annotation
  deriving Repr, DecidableEq

structure Method where
  owner : String
  name : String
  returns : TypeRef
  parameters : List Parameter
  deriving Repr, DecidableEq

namespace Method

def id (method : Method) : MethodId :=
  ⟨method.owner, method.name, method.parameters.map Parameter.type⟩

/-- The parameters as elements enclosed by the method; one without a name is called after its
position. -/
def elements (method : Method) : List Element :=
  method.parameters.zipIdx.map fun (parameter, position) =>
    { name := parameter.name.getD ("arg" ++ toString position)
      type := parameter.type
      modifiers := []
      annotations := parameter.annotations
      enclosure := .method method.owner method.name }

end Method

/-- A type whose methods can be called through a binder. -/
structure ServiceInterface where
  name : String
  form : TypeForm
  methods : List Method
  deriving Repr, DecidableEq

namespace ServiceInterface

/-- The interface with one more method, which it then owns. -/
def add (service : ServiceInterface) (method : Method) : ServiceInterface :=
  { service with methods := service.methods ++ [{ method with owner := service.name }] }

def method? (service : ServiceInterface) (name : String) : Option Method :=
  service.methods.find? fun method => method.name == name

end ServiceInterface

end BundleBinding
