import BundleBinding.Binding.Problem
import BundleBinding.Program.Model

/-!
Collecting bindings. The annotated fields of a program are visited kind by kind, and within a kind
in the order of declaration. A visit either adds a field to the draft of its host or reports why
not; of two bindings that clash in a host the first one visited stays.
-/

namespace BundleBinding

/-- One visit of a scan: a field of `host` that bears the annotation of `kind`. -/
structure Candidate where
  kind : Kind
  host : String
  element : Element
  deriving Repr

/-- The fields of the program by kinds in catalog order, each as often as it bears a kind's
annotation; parameters are left to the methods they belong to. -/
def ProgramModel.candidates (model : ProgramModel) : List Candidate :=
  Kind.all.flatMap fun kind =>
    (model.annotatedWith kind.marker).filterMap fun element =>
      element.host?.map fun host => ⟨kind, host, element⟩

namespace Candidate

/-- The annotation that counts: the first one that declares the kind. -/
def binding? (candidate : Candidate) : Option DeclaredBinding :=
  (declaredBindings candidate.element.annotations).find? fun binding =>
    binding.kind == candidate.kind

def accessProblems (candidate : Candidate) (host : TypeDeclaration) : List BindingProblem :=
  let element := candidate.element
  (if element.hasModifier .privateMember || element.hasModifier .staticMember then
    [.inaccessible candidate.kind] else []) ++
  (if host.form != .classType then [.notInClass candidate.kind] else []) ++
  (if host.hasModifier .privateMember then [.privateHost candidate.kind] else [])

def reservedPrefix? (reserved : List String) (name : String) : Option String :=
  reserved.find? fun namespaceName => namespaceName.toList.isPrefixOf name.toList

def namespaceProblems (candidate : Candidate) (reserved : List String) : List BindingProblem :=
  match reservedPrefix? reserved candidate.host with
  | some namespaceName => [.reservedNamespace candidate.kind namespaceName candidate.host]
  | none => []

/-- The field that the candidate binds, whatever is bound already; else every problem that the field
has by itself. -/
def field (candidate : Candidate) (model : ProgramModel) (reserved : List String) :
    Except (List BindingProblem) FieldBinding :=
  match model.type? candidate.host with
  | none => throw [.unknownHost candidate.kind candidate.host]
  | some host =>
      match candidate.accessProblems host ++ candidate.namespaceProblems reserved with
      | [] =>
          match candidate.binding? with
          | some ⟨_, some key, description⟩ =>
              pure
                { name := candidate.element.name
                  kind := candidate.kind
                  key := key
                  type := candidate.element.type
                  required := isRequired candidate.element.annotations
                  description := description }
          | _ => throw [.noKey candidate.kind]
      | problems => throw problems

/-- Why a field cannot join the fields already bound in its host. -/
def clash? (host : String) (bound : List FieldBinding) (field : FieldBinding) :
    Option BindingProblem :=
  match fieldWithKey? bound field.key with
  | some owner => some (.keyTaken field.kind field.key owner)
  | none => (fieldWithName? bound field.name).map (.fieldTaken field.kind host)

end Candidate

/-- What a scan has found: a draft for every host that a binding was offered to, hosts in the order of
their first offer, the hosts with a bound field, and the reports. -/
structure Scan where
  drafts : Registry String BindingSpec
  bound : List String
  diagnostics : List Diagnostic
  deriving Repr

namespace Scan

def empty : Scan :=
  ⟨Registry.empty, [], []⟩

def draftOf (scan : Scan) (host : String) : BindingSpec :=
  (scan.drafts.get? host).getD (.blank host)

def fieldsOf (scan : Scan) (host : String) : List FieldBinding :=
  (scan.draftOf host).fields

def report (scan : Scan) (candidate : Candidate) (problems : List BindingProblem) : Scan :=
  let reports := problems.map fun problem =>
    problem.report candidate.host (some candidate.element.name)
  { scan with diagnostics := scan.diagnostics ++ reports }

def openDraft (scan : Scan) (host : String) : Scan :=
  { scan with drafts := scan.drafts.insert host (scan.draftOf host) }

def bind (scan : Scan) (host : String) (field : FieldBinding) : Scan :=
  { scan with
    drafts := scan.drafts.insert host ((scan.draftOf host).addField field)
    bound := scan.bound.insert host }

/-- A binding is offered to its host; the draft is there before it is known whether the binding
clashes with one that the host has. -/
def offer (scan : Scan) (candidate : Candidate) (field : FieldBinding) : Scan :=
  let scan := scan.openDraft candidate.host
  match Candidate.clash? candidate.host (scan.fieldsOf candidate.host) field with
  | some problem => scan.report candidate [problem]
  | none => scan.bind candidate.host field

def visit (model : ProgramModel) (reserved : List String) (scan : Scan) (candidate : Candidate) :
    Scan :=
  match candidate.field model reserved with
  | .error problems => scan.report candidate problems
  | .ok field => scan.offer candidate field

end Scan

def ProgramModel.scan (model : ProgramModel) (reserved : List String) : Scan :=
  model.candidates.foldl (Scan.visit model reserved) Scan.empty

end BundleBinding
