import BundleBinding.Proofs.HostScan

/-!
# Offers

The bindings that the fields of one type offer to it, taken from the program without a scan: kind by
kind, and for each kind in the order of declaration, the fields that may be bound and whose first
annotation of the kind has a key.
-/

namespace BundleBinding

namespace Kind

theorem find?_marker (kind : Kind) :
    all.find? (fun other => other.marker == kind.marker) = some kind := by
  cases kind <;> decide

theorem simple_marker (kind : Kind) : Name.simple kind.marker = kind.marker := by
  cases kind <;> decide

theorem ofMarker?_eq_some_iff {marker : String} {kind : Kind} :
    ofMarker? marker = some kind ↔ Name.simple marker = kind.marker := by
  rw [ofMarker?]
  constructor
  · intro hfind
    have hmarker := List.find?_some hfind
    rw [beq_iff_eq] at hmarker
    exact hmarker.symm
  · intro hmarker
    rw [hmarker, find?_marker]

end Kind

namespace Element

/-- The first annotation of a kind. -/
def markOf? (element : Element) (kind : Kind) : Option Annotation :=
  element.annotations.find? fun mark => mark.simpleName == kind.marker

/-- A field that may be bound in its type. -/
structure Fits (element : Element) (host : TypeDeclaration) (reserved : List String) : Prop where
  enclosed : element.enclosure = .type host.name
  not_private : .privateMember ∉ element.modifiers
  not_static : .staticMember ∉ element.modifiers
  host_class : host.form = .classType
  host_not_private : .privateMember ∉ host.modifiers
  not_reserved : ∀ namespaceName ∈ reserved, ¬ namespaceName.toList <+: host.name.toList

theorem fits_iff {element : Element} {host : TypeDeclaration} {reserved : List String} :
    element.Fits host reserved ↔
      (element.enclosure = .type host.name ∧ .privateMember ∉ element.modifiers ∧
        .staticMember ∉ element.modifiers) ∧
      (host.form = .classType ∧ .privateMember ∉ host.modifiers) ∧
      ∀ namespaceName ∈ reserved, ¬ namespaceName.toList <+: host.name.toList := by
  constructor
  · rintro ⟨henclosed, hprivate, hstatic, hclass, hhost, hreserved⟩
    exact ⟨⟨henclosed, hprivate, hstatic⟩, ⟨hclass, hhost⟩, hreserved⟩
  · rintro ⟨⟨henclosed, hprivate, hstatic⟩, ⟨hclass, hhost⟩, hreserved⟩
    exact ⟨henclosed, hprivate, hstatic, hclass, hhost, hreserved⟩

instance (element : Element) (host : TypeDeclaration) (reserved : List String) :
    Decidable (element.Fits host reserved) :=
  decidable_of_iff _ fits_iff.symm

/-- The binding that a field offers to its type by its annotation of a kind. -/
def offer? (element : Element) (kind : Kind) (host : TypeDeclaration) (reserved : List String) :
    Option FieldBinding :=
  if element.Fits host reserved then
    (element.markOf? kind).bind fun mark =>
      mark.value.map fun key =>
        { name := element.name
          kind := kind
          key := key
          type := element.type
          required := isRequired element.annotations
          description := mark.description.getD "" }
  else none

/-- The visit of a scan to a field of a type that bears the annotation of a kind. -/
def candidate? (element : Element) (kind : Kind) (host : String) : Option Candidate :=
  if element.enclosure = .type host ∧ element.hasAnnotation kind.marker = true then
    some ⟨kind, host, element⟩
  else none

theorem hasAnnotation_marker (element : Element) (kind : Kind) :
    element.hasAnnotation kind.marker = (element.markOf? kind).isSome := by
  unfold hasAnnotation
  rw [Kind.simple_marker, isAnnotatedWith, markOf?, List.isSome_find?]

end Element

/-- The bindings offered to a type, in the order of a scan. -/
def ProgramModel.offers (model : ProgramModel) (reserved : List String) (host : TypeDeclaration) :
    List FieldBinding :=
  Kind.all.flatMap fun kind =>
    model.elements.filterMap fun element => element.offer? kind host reserved

theorem ProgramModel.candidatesOf_eq (model : ProgramModel) (host : String) :
    model.candidatesOf host =
      Kind.all.flatMap fun kind =>
        model.elements.filterMap fun element => element.candidate? kind host := by
  rw [candidatesOf, candidates, List.filter_flatMap]
  congr 1
  funext kind
  rw [annotatedWith, List.filterMap_filter, List.filter_filterMap]
  congr 1
  funext element
  rw [Element.candidate?, Element.host?]
  cases element.enclosure with
  | type owner =>
      by_cases hbears : element.hasAnnotation kind.marker = true
      · by_cases howner : owner = host <;> simp [hbears, howner]
      · simp [hbears]
  | method owner name => simp

namespace Candidate

variable {model : ProgramModel} {reserved : List String}

/-- The annotation that counts for a candidate is the first of its kind. -/
theorem binding?_eq (candidate : Candidate) :
    candidate.binding? = (candidate.element.markOf? candidate.kind).map fun mark =>
      ⟨candidate.kind, mark.value, mark.description.getD ""⟩ := by
  have hkind : ∀ mark : Annotation,
      (mark.binding?.any fun binding => binding.kind == candidate.kind) =
        (mark.simpleName == candidate.kind.marker) := by
    intro mark
    rw [Bool.eq_iff_iff, beq_iff_eq, Annotation.simpleName, ← Kind.ofMarker?_eq_some_iff,
      Annotation.binding?]
    cases Kind.ofMarker? mark.name <;> simp
  rw [binding?, declaredBindings, List.find?_filterMap, Element.markOf?]
  simp only [hkind]
  cases hfind : candidate.element.annotations.find? fun mark =>
      mark.simpleName == candidate.kind.marker with
  | none => rfl
  | some mark =>
      have hmarker := List.find?_some hfind
      rw [beq_iff_eq] at hmarker
      rw [Option.bind_some, Option.map_some, Annotation.binding?,
        Kind.ofMarker?_eq_some_iff.mpr hmarker, Option.map_some]

theorem accessProblems_eq_nil_iff {candidate : Candidate} {host : TypeDeclaration} :
    candidate.accessProblems host = [] ↔
      (.privateMember ∉ candidate.element.modifiers ∧
        .staticMember ∉ candidate.element.modifiers) ∧
      host.form = .classType ∧ .privateMember ∉ host.modifiers := by
  simp [accessProblems, Element.hasModifier, TypeDeclaration.hasModifier, and_assoc]

theorem namespaceProblems_eq_nil_iff {candidate : Candidate} :
    candidate.namespaceProblems reserved = [] ↔
      ∀ namespaceName ∈ reserved, ¬ namespaceName.toList <+: candidate.host.toList := by
  have hnone : candidate.namespaceProblems reserved = [] ↔
      reservedPrefix? reserved candidate.host = none := by
    rw [namespaceProblems]
    cases reservedPrefix? reserved candidate.host <;> simp
  rw [hnone, reservedPrefix?, List.find?_eq_none]
  simp only [List.isPrefixOf_iff_prefix]

theorem problems_eq_nil_iff {candidate : Candidate} {host : TypeDeclaration}
    (henclosed : candidate.element.enclosure = .type host.name)
    (hname : candidate.host = host.name) :
    candidate.accessProblems host ++ candidate.namespaceProblems reserved = [] ↔
      candidate.element.Fits host reserved := by
  rw [List.append_eq_nil_iff, accessProblems_eq_nil_iff, namespaceProblems_eq_nil_iff, hname,
    Element.fits_iff]
  simp only [henclosed, true_and, and_assoc]

/-- The binding that a candidate offers, whatever else is bound. -/
def ownField? (model : ProgramModel) (reserved : List String) (candidate : Candidate) :
    Option FieldBinding :=
  (candidate.field model reserved).toOption

/-- The problems that a candidate has, whatever else is bound. -/
def ownProblems (model : ProgramModel) (reserved : List String) (candidate : Candidate) :
    List BindingProblem :=
  match candidate.field model reserved with
  | .error problems => problems
  | .ok _ => []

theorem ownField?_of_error {candidate : Candidate} {problems : List BindingProblem}
    (hfield : candidate.field model reserved = .error problems) :
    candidate.ownField? model reserved = none := by
  rw [ownField?, hfield]
  rfl

theorem ownField?_of_ok {candidate : Candidate} {field : FieldBinding}
    (hfield : candidate.field model reserved = .ok field) :
    candidate.ownField? model reserved = some field := by
  rw [ownField?, hfield]
  rfl

theorem ownProblems_of_error {candidate : Candidate} {problems : List BindingProblem}
    (hfield : candidate.field model reserved = .error problems) :
    candidate.ownProblems model reserved = problems := by
  simp only [ownProblems, hfield]

theorem ownField?_eq_offer? {candidate : Candidate} {host : TypeDeclaration}
    (hhost : model.type? candidate.host = some host)
    (henclosed : candidate.element.enclosure = .type candidate.host) :
    candidate.ownField? model reserved =
      candidate.element.offer? candidate.kind host reserved := by
  have hname := ProgramModel.name_of_type? hhost
  have hproblems : candidate.accessProblems host ++ candidate.namespaceProblems reserved = [] ↔
      candidate.element.Fits host reserved :=
    problems_eq_nil_iff (hname ▸ henclosed) hname.symm
  simp only [ownField?, field, hhost, Element.offer?]
  by_cases hfits : candidate.element.Fits host reserved
  · rw [if_pos hfits, hproblems.mpr hfits, binding?_eq]
    cases candidate.element.markOf? candidate.kind with
    | none => rfl
    | some mark =>
        obtain ⟨name, value, description⟩ := mark
        cases value <;> rfl
  · rw [if_neg hfits]
    cases hcases : candidate.accessProblems host ++ candidate.namespaceProblems reserved with
    | nil => exact absurd (hproblems.mp hcases) hfits
    | cons problem problems => rfl

end Candidate

namespace ProgramModel

variable {model : ProgramModel} {reserved : List String} {name : String} {host : TypeDeclaration}

theorem enclosure_of_mem_candidatesOf {candidate : Candidate}
    (hmem : candidate ∈ model.candidatesOf name) :
    candidate.host = name ∧ candidate.element.enclosure = .type name := by
  rw [candidatesOf_eq, List.mem_flatMap] at hmem
  obtain ⟨kind, _, hmem⟩ := hmem
  obtain ⟨element, _, hcandidate⟩ := List.mem_filterMap.mp hmem
  rw [Element.candidate?] at hcandidate
  split at hcandidate
  · next hbears =>
      cases hcandidate
      exact ⟨rfl, hbears.1⟩
  · cases hcandidate

/-- A field that no visit goes to offers nothing. -/
theorem bind_ownField?_candidate? (hhost : model.type? name = some host) (element : Element)
    (kind : Kind) :
    (element.candidate? kind name).bind (Candidate.ownField? model reserved) =
      element.offer? kind host reserved := by
  rw [Element.candidate?]
  split
  · next hbears => exact Candidate.ownField?_eq_offer? hhost hbears.1
  · next hnone =>
      rw [Option.bind_none, Element.offer?]
      split
      · next hfits =>
          have henclosed : element.enclosure = .type name := name_of_type? hhost ▸ hfits.enclosed
          have hmark : element.markOf? kind = none := by
            rw [← Option.not_isSome_iff_eq_none, ← element.hasAnnotation_marker]
            exact fun hbears => hnone ⟨henclosed, hbears⟩
          rw [hmark, Option.bind_none]
      · rfl

/-- The offers to a type are what the candidates of the type bind by themselves. -/
theorem filterMap_candidatesOf (hhost : model.type? name = some host) :
    (model.candidatesOf name).filterMap (Candidate.ownField? model reserved) =
      model.offers reserved host := by
  rw [candidatesOf_eq, List.filterMap_flatMap, offers]
  congr 1
  funext kind
  rw [List.filterMap_filterMap]
  congr 1
  funext element
  exact bind_ownField?_candidate? hhost element kind

end ProgramModel

end BundleBinding
