import BundleBinding.Binding.Scan

/-!
Linking. Each host's specification gets the specification of its nearest bound superclass as its
parent. Hosts wait in a queue: one whose parent is not finished goes to the back, and when every
waiting host has gone to the back once without progress, the host in front is linked without a
parent and its chain reported.
-/

namespace BundleBinding

/-- What stands above a type in its superclass chain. -/
inductive ParentSearch where
  /-- The chain ends without a bound type. -/
  | absent
  | found (parent : String)
  /-- The chain comes back on itself before a bound type. -/
  | cyclic
  deriving Repr, DecidableEq

namespace ProgramModel

/-- Follows the superclass chain above a declaration up to the first bound type. The names in
`visited` have been met. -/
def climb (model : ProgramModel) (isBound : String → Bool) (visited : List String)
    (declaration : TypeDeclaration) : ParentSearch :=
  match h : model.superclass? declaration with
  | none => .absent
  | some superclass =>
      if hvisited : superclass.name ∈ visited then .cyclic
      else if isBound superclass.name then .found superclass.name
      else
        have : (unvisited TypeDeclaration.name model.types (superclass.name :: visited)).length <
            (unvisited TypeDeclaration.name model.types visited).length :=
          length_unvisited_cons_lt (mem_of_superclass? h) hvisited
        model.climb isBound (superclass.name :: visited) superclass
termination_by (unvisited TypeDeclaration.name model.types visited).length

def parentSearch (model : ProgramModel) (isBound : String → Bool) (host : String) : ParentSearch :=
  match model.type? host with
  | none => .absent
  | some declaration => model.climb isBound [host] declaration

end ProgramModel

/-- A host that waits for its specification, with its draft. -/
abbrev Waiting := String × BindingSpec

/-- The state of linking: waiting hosts, finished specifications in the order in which they were
finished, the number of hosts put back since the last one finished, and the reports. -/
structure Linking where
  queue : List Waiting
  specs : Registry String BindingSpec
  stalled : Nat
  diagnostics : List Diagnostic
  deriving Repr

namespace Linking

def finish (linking : Linking) (rest : List Waiting) (host : String) (spec : BindingSpec)
    (problem : Option BindingProblem) : Linking :=
  { queue := rest
    specs := linking.specs.insert host spec
    stalled := 0
    diagnostics := linking.diagnostics ++
      (problem.map fun problem => problem.report host none).toList }

def putBack (linking : Linking) (rest : List Waiting) (host : String) (draft : BindingSpec) :
    Linking :=
  { linking with queue := rest ++ [(host, draft)], stalled := linking.stalled + 1 }

/-- Treats the first host of the queue, `rest` being those behind it. -/
def step (search : String → ParentSearch) (linking : Linking) (host : String)
    (draft : BindingSpec) (rest : List Waiting) : Linking :=
  match search host with
  | .absent => linking.finish rest host draft none
  | .cyclic => linking.finish rest host draft (some (.chainLoopsBack host))
  | .found parent =>
      match linking.specs.get? parent with
      | some spec => linking.finish rest host (draft.withParent spec) none
      | none =>
          if linking.stalled < rest.length then linking.putBack rest host draft
          else linking.finish rest host draft (some (.chainLoopsThrough host parent))

theorem step_decreasing (search : String → ParentSearch) (linking : Linking) (host : String)
    (draft : BindingSpec) (rest : List Waiting) :
    (linking.step search host draft rest).queue.length < rest.length + 1 ∨
      ((linking.step search host draft rest).queue.length = rest.length + 1 ∧
        (linking.step search host draft rest).queue.length -
            (linking.step search host draft rest).stalled <
          rest.length + 1 - linking.stalled) := by
  unfold step
  split
  · simp [finish]
  · simp [finish]
  · split
    · simp [finish]
    · split
      · simp [putBack]
        omega
      · simp [finish]

def run (search : String → ParentSearch) (linking : Linking) : Linking :=
  match _h : linking.queue with
  | [] => linking
  | (host, draft) :: rest => (linking.step search host draft rest).run search
termination_by (linking.queue.length, linking.queue.length - linking.stalled)
decreasing_by
  rw [_h, List.length_cons]
  rcases step_decreasing search linking host draft rest with hlt | ⟨heq, hlt⟩
  · exact Prod.Lex.left _ _ hlt
  · rw [heq] at hlt ⊢
    exact Prod.Lex.right _ hlt

end Linking

/-- The outcome of resolving a program: specifications, parents before their children, and all
reports in the order in which they arose. -/
structure Resolution where
  specs : Registry String BindingSpec
  diagnostics : List Diagnostic
  deriving Repr

namespace Resolution

def isSuccess (resolution : Resolution) : Bool :=
  errorCount resolution.diagnostics == 0

end Resolution

namespace Scan

def isBound (scan : Scan) (host : String) : Bool :=
  decide (host ∈ scan.bound)

def linking (scan : Scan) : Linking :=
  ⟨scan.drafts.entries, Registry.empty, 0, scan.diagnostics⟩

def link (scan : Scan) (model : ProgramModel) : Resolution :=
  let finished := scan.linking.run (model.parentSearch scan.isBound)
  ⟨finished.specs, finished.diagnostics⟩

end Scan

/-- Resolves the bindings of a program. Hosts may not live in the reserved namespaces. -/
def ProgramModel.resolve (model : ProgramModel) (reserved : List String) : Resolution :=
  (model.scan reserved).link model

end BundleBinding
