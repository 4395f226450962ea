import BundleBinding.Kind

/-!
Annotations as they are written on fields and parameters, and what they mean for bindings.
-/

namespace BundleBinding

structure Annotation where
  name : String
  value : Option String
  description : Option String
  deriving Repr, DecidableEq

/-- What an annotation of the catalog declares: a kind, a key if it has a value, and a description,
empty when absent. -/
structure DeclaredBinding where
  kind : Kind
  key : Option String
  description : String
  deriving Repr, DecidableEq

namespace Annotation

def simpleName (mark : Annotation) : String :=
  Name.simple mark.name

def binding? (mark : Annotation) : Option DeclaredBinding :=
  (Kind.ofMarker? mark.name).map fun kind =>
    ⟨kind, mark.value, mark.description.getD ""⟩

end Annotation

/-- The bindings that annotations declare, in their order. -/
def declaredBindings (annotations : List Annotation) : List DeclaredBinding :=
  annotations.filterMap Annotation.binding?

def isAnnotatedWith (annotations : List Annotation) (simpleName : String) : Bool :=
  annotations.any fun mark => mark.simpleName == simpleName

/-- The marker that turns a missing value into a failure. -/
def requiredMarker : String :=
  "Required"

def isRequired (annotations : List Annotation) : Bool :=
  isAnnotatedWith annotations requiredMarker

end BundleBinding
