/-!
Diagnostics: numbered reports about a type or one of its elements. A pass collects them and goes on,
so that it shows every problem of a program at once.
-/

namespace BundleBinding

inductive Severity where
  | error
  | warning
  | note
  deriving Repr, DecidableEq

def Severity.label : Severity → String
  | .error => "error"
  | .warning => "warning"
  | .note => "note"

inductive DiagnosticCode where
  /-- The enclosing type is unknown, or the annotation has no key. -/
  | unparsableBinding
  | inaccessibleField
  | notInClass
  | privateHost
  | reservedNamespace
  | duplicateKey
  | duplicateName
  | superclassCycle
  | writeFailed
  deriving Repr, DecidableEq

namespace DiagnosticCode

def number : DiagnosticCode → String
  | unparsableBinding => "BW-100"
  | inaccessibleField => "BW-101"
  | notInClass => "BW-102"
  | privateHost => "BW-103"
  | reservedNamespace => "BW-104"
  | duplicateKey => "BW-110"
  | duplicateName => "BW-111"
  | superclassCycle => "BW-120"
  | writeFailed => "BW-130"

def help : DiagnosticCode → String
  | unparsableBinding =>
      "Give the annotation a key and make sure its class is part of the program"
  | inaccessibleField => "Drop 'private'/'static' from the field"
  | notInClass => "Move the field into a class"
  | privateHost => "Make the enclosing class at least package-private"
  | reservedNamespace => "Move the class out of the framework package"
  | duplicateKey => "Use a distinct key for each field of a class"
  | duplicateName => "Keep a single binding annotation per field"
  | superclassCycle => "Break the cycle in the superclass declarations"
  | writeFailed => "Check the output directory is writable"

end DiagnosticCode

structure Diagnostic where
  severity : Severity
  code : DiagnosticCode
  message : String
  host : String
  /-- The offending element; none for a report about the whole type. -/
  element : Option String
  deriving Repr, DecidableEq

namespace Diagnostic

def location (diagnostic : Diagnostic) : String :=
  match diagnostic.element with
  | some element => diagnostic.host ++ "." ++ element
  | none => diagnostic.host

def render (diagnostic : Diagnostic) : String :=
  diagnostic.severity.label ++ "[" ++ diagnostic.code.number ++ "] " ++ diagnostic.location ++
    ": " ++ diagnostic.message

def isError (diagnostic : Diagnostic) : Bool :=
  diagnostic.severity == .error

end Diagnostic

def errorCount (diagnostics : List Diagnostic) : Nat :=
  diagnostics.countP Diagnostic.isError

def withCode (diagnostics : List Diagnostic) (code : DiagnosticCode) : List Diagnostic :=
  diagnostics.filter fun diagnostic => diagnostic.code == code

end BundleBinding
