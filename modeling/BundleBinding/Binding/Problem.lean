import BundleBinding.Binding.Spec
import BundleBinding.Diagnostic

/-!
What can be wrong with a binding or with the type that encloses it, and the diagnostic that says so.
-/

namespace BundleBinding

inductive BindingProblem where
  | unknownHost (kind : Kind) (host : String)
  | inaccessible (kind : Kind)
  | notInClass (kind : Kind)
  | privateHost (kind : Kind)
  | reservedNamespace (kind : Kind) (namespaceName host : String)
  | noKey (kind : Kind)
  | keyTaken (kind : Kind) (key : String) (owner : FieldBinding)
  /-- The field is bound already, as `owner`. -/
  | fieldTaken (kind : Kind) (host : String) (owner : FieldBinding)
  | chainLoopsThrough (host parent : String)
  | chainLoopsBack (host : String)
  | unwritable (host details : String)
  deriving Repr, DecidableEq

namespace BindingProblem

def code : BindingProblem → DiagnosticCode
  | unknownHost _ _ => .unparsableBinding
  | inaccessible _ => .inaccessibleField
  | notInClass _ => .notInClass
  | privateHost _ => .privateHost
  | reservedNamespace _ _ _ => .reservedNamespace
  | noKey _ => .unparsableBinding
  | keyTaken _ _ _ => .duplicateKey
  | fieldTaken _ _ _ => .duplicateName
  | chainLoopsThrough _ _ => .superclassCycle
  | chainLoopsBack _ => .superclassCycle
  | unwritable _ _ => .writeFailed

def message : BindingProblem → String
  | unknownHost kind host =>
      "Unable to parse @" ++ kind.marker ++ " binding: enclosing type '" ++ host ++
        "' is not part of the program"
  | inaccessible kind => "@" ++ kind.marker ++ " fields must not be private or static"
  | notInClass kind => "@" ++ kind.marker ++ " fields may only be contained in classes"
  | privateHost kind =>
      "@" ++ kind.marker ++ " fields may not be contained in private classes"
  | reservedNamespace kind namespaceName host =>
      "@" ++ kind.marker ++ "-annotated class incorrectly in framework package '" ++
        namespaceName ++ "'. (" ++ host ++ ")"
  | noKey kind => "Unable to parse @" ++ kind.marker ++ " binding: no key given"
  | keyTaken kind key owner =>
      "Attempt to use @" ++ kind.marker ++ " for an already bound key '" ++ key ++ "' on '" ++
        owner.name ++ "'"
  | fieldTaken kind host owner =>
      "Attempt to use @" ++ kind.marker ++ " for a field already bound by @" ++
        owner.kind.marker ++ " ('" ++ host ++ "." ++ owner.name ++ "')"
  | chainLoopsThrough host parent =>
      "Superclass chain of " ++ host ++ " loops through " ++ parent ++ "; linked without a parent"
  | chainLoopsBack host => "Superclass chain of " ++ host ++ " loops back on itself"
  | unwritable host details =>
      "Unable to write binding for type " ++ host ++ ": " ++ details

def report (problem : BindingProblem) (host : String) (element : Option String) : Diagnostic :=
  ⟨.error, problem.code, problem.message, host, element⟩

end BindingProblem

end BundleBinding
