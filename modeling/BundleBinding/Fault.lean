import BundleBinding.Program.Method
import BundleBinding.Type.Syntax

/-!
Failures of requests: each has a cause, a numbered message and a suggestion. Problems of single
bindings are no failures; they are diagnostics.
-/

namespace BundleBinding

/-- What breaks a program model beyond its form. -/
inductive ModelFault where
  | badQualifiedName (name : String)
  | badIdentifier (name : String)
  | declaredTwice (name : String)
  | undeclaredOwner (element owner : String)
  | unknownType (name : String)
  | other (reason : String)
  deriving Repr, DecidableEq

namespace ModelFault

def reason : ModelFault → String
  | badQualifiedName name => "'" ++ name ++ "' is not a valid qualified name"
  | badIdentifier name => "'" ++ name ++ "' is not a valid identifier"
  | declaredTwice name => "type '" ++ name ++ "' is declared twice"
  | undeclaredOwner element owner =>
      "'" ++ element ++ "' belongs to undeclared type '" ++ owner ++ "'"
  | unknownType name => "unknown type '" ++ name ++ "'"
  | other reason => reason

end ModelFault

/-- What breaks the signature of a method at one of its parameters. -/
inductive ParameterFault where
  | unannotated
  | severalAnnotations
  | typeRejected (marker expected actual : String)
  | noKey (marker : String)
  deriving Repr, DecidableEq

inductive Fault where
  | programText (details : String)
  | invalidProgram (fault : ModelFault)
  | typeText (input reason : String)
  | configuration (reason : String)
  | unreadable (reason : String)
  | returnType (method : MethodId) (expected actual : String)
  | parameter (method : MethodId) (position : Nat) (fault : ParameterFault)
  | argumentCount (expected actual : Nat)
  | missingRequired (key : String)
  | argumentKind (position : Nat) (key : String) (expected actual : Kind)
  | invalidArgument (key reason : String)
  | notAnInterface (service : String)
  | unknownMethod (service method : String)
  | alreadyInstalled
  | resolutionFailed (count : Nat)
  deriving Repr, DecidableEq

namespace Fault

/-- Stands in messages for what a text reader has to say about a broken text. -/
def elided : String :=
  "<details>"

def ofTypeSyntax (input : String) (error : TypeSyntaxError) : Fault :=
  typeText input error.reason

def missingFile : String :=
  "No such file or directory (os error 2)"

def parameterMessage (method : MethodId) (position : Nat) (fault : ParameterFault) : String :=
  let text :=
    match fault with
    | .unannotated => "[BW-011] No binding annotation found."
    | .severalAnnotations => "[BW-012] Multiple binding annotations found, only one allowed."
    | .typeRejected marker expected actual =>
        "[BW-013] @" ++ marker ++ " requires " ++ expected ++ ", found " ++ actual ++ "."
    | .noKey marker => "[BW-014] @" ++ marker ++ " has no key."
  text ++ " (parameter #" ++ toString position ++ " of " ++ method.render ++ ")"

def message : Fault → String
  | programText details => "[BW-001] Failed to parse program model: " ++ details
  | invalidProgram fault => "[BW-002] Invalid program model: " ++ fault.reason
  | typeText input reason => "[BW-003] Invalid type '" ++ input ++ "': " ++ reason
  | configuration reason => "[BW-004] Configuration error: " ++ reason
  | unreadable reason => "[BW-005] IO error: " ++ reason
  | returnType method expected actual =>
      "[BW-010] Method " ++ method.render ++ " must return " ++ expected ++ ", found " ++ actual
  | parameter method position fault => parameterMessage method position fault
  | argumentCount expected actual =>
      "[BW-020] Argument count (" ++ toString actual ++ ") doesn't match expected count (" ++
        toString expected ++ ")"
  | missingRequired key => "[BW-021] Missing required value for key '" ++ key ++ "'"
  | argumentKind position key expected actual =>
      "[BW-022] Argument #" ++ toString position ++ " for key '" ++ key ++ "' must be " ++
        expected.name ++ ", found " ++ actual.name
  | invalidArgument key reason =>
      "[BW-023] Invalid argument for key '" ++ key ++ "': " ++ reason
  | notAnInterface service => "[BW-030] '" ++ service ++ "' is not an interface"
  | unknownMethod service method =>
      "[BW-031] Service '" ++ service ++ "' has no method '" ++ method ++ "'"
  | alreadyInstalled => "[BW-032] A default binder is already installed"
  | resolutionFailed count =>
      "[BW-033] Binding resolution failed with " ++ toString count ++ " error(s)"

def suggestion : Fault → String
  | programText _ => "Check YAML syntax: indentation and quoting"
  | invalidProgram _ => "Use fully qualified names like com.example.LoginActivity"
  | typeText _ _ =>
      "Write types as int, java.lang.String[] or java.util.ArrayList<java.lang.String>"
  | configuration _ => "Check bundlewire.toml syntax"
  | unreadable _ => "Check file path and permissions"
  | returnType _ _ _ => "Declare the method as returning android.os.Bundle"
  | parameter _ _ .unannotated =>
      "Annotate every parameter with one binding annotation such as @IntValue(\"key\")"
  | parameter _ _ .severalAnnotations => "Keep a single binding annotation per parameter"
  | parameter _ _ (.typeRejected _ _ _) =>
      "Change the parameter type or pick the annotation matching its type"
  | parameter _ _ (.noKey _) => "Give the annotation a key: @StringValue(\"key\")"
  | argumentCount _ _ => "Pass exactly one argument per method parameter"
  | missingRequired _ => "Pass a value or drop @Required from the parameter"
  | argumentKind _ _ _ _ => "Pass a value of the kind the parameter annotation declares"
  | invalidArgument _ _ =>
      "Check the JSON shape of the argument (arrays for *Array kinds, objects for parcelables)"
  | notAnInterface _ => "Only interfaces can be turned into services"
  | unknownMethod _ _ => "Check the method name on the service interface"
  | alreadyInstalled => "Install the default binder once at startup"
  | resolutionFailed _ => "Fix the reported diagnostics and rerun"

end Fault

end BundleBinding
