import BundleBinding.Proofs.DiscoveryOrder
import BundleBinding.Proofs.ScanReports
import BundleBinding.Proofs.Signatures

/-!
# Several annotations on one field

A field with annotations of two kinds is visited for each of them. The first visit that finds no problem binds
the field, and then its name is taken for the others. A second annotation of one kind is no visit of its own:
the scan reads the first one only, and says nothing about those behind it. A method is refused for both.
-/

namespace BundleBinding

/-! ### Annotations of different kinds -/

namespace Candidate

variable {model : ProgramModel} {reserved : List String} {candidate : Candidate}
  {bound added : List FieldBinding} {problems : List BindingProblem}

theorem Finds.problems_ne_nil (hfinds : candidate.Finds model reserved bound problems added)
    (htaken : candidate.element.name ∈ bound.map FieldBinding.name) : problems ≠ [] := by
  cases hfinds with
  | unknownHost => exact List.cons_ne_nil _ _
  | flawed _ _ hne => exact hne
  | noKey => exact List.cons_ne_nil _ _
  | refused => exact List.cons_ne_nil _ _
  | binds _ _ _ _ hfree =>
      obtain ⟨owner, hmem, hname⟩ := List.mem_map.mp htaken
      exact absurd hname (hfree owner hmem).2

theorem Finds.name_mem (hfinds : candidate.Finds model reserved bound [] added) :
    candidate.element.name ∈ (bound ++ added).map FieldBinding.name := by
  cases hfinds with
  | flawed _ _ hne => exact absurd rfl hne
  | binds =>
      rw [List.map_append]
      exact List.mem_append_right _ List.mem_cons_self

end Candidate

namespace Findings

variable {model : ProgramModel} {reserved : List String}
  {bound final : String → List FieldBinding} {findings : List (Candidate × List BindingProblem)}

theorem problems_ne_nil (hfindings : Findings model reserved bound findings final) {host : String}
    {name : String} (htaken : name ∈ (bound host).map FieldBinding.name) :
    ∀ finding ∈ findings, finding.1.host = host → finding.1.element.name = name →
      finding.2 ≠ [] := by
  induction hfindings with
  | done => exact fun finding hmem => absurd hmem List.not_mem_nil
  | @visit bound final candidate problems added findings hfinds hrest ih =>
      refine List.forall_mem_cons.mpr ⟨?_, ih ?_⟩
      · rintro rfl rfl
        exact hfinds.problems_ne_nil htaken
      · by_cases hhost : host = candidate.host
        · subst hhost
          rw [Function.update_self, List.map_append]
          exact List.mem_append_left _ htaken
        · rwa [Function.update_of_ne hhost]

/-- If two visits are to fields of one host with one name, not both of them find no problem. -/
def NotBothBound (first second : Candidate × List BindingProblem) : Prop :=
  first.1.host = second.1.host → first.1.element.name = second.1.element.name →
    first.2 ≠ [] ∨ second.2 ≠ []

instance : Std.Symm NotBothBound :=
  ⟨fun _ _ hnot hhost hname => (hnot hhost.symm hname.symm).symm⟩

theorem pairwise_notBothBound (hfindings : Findings model reserved bound findings final) :
    findings.Pairwise NotBothBound := by
  induction hfindings with
  | done => exact List.Pairwise.nil
  | @visit bound final candidate problems added findings hfinds hrest ih =>
      refine List.pairwise_cons.mpr ⟨?_, ih⟩
      intro finding hmem hhost hname
      by_cases hproblems : problems = []
      · subst hproblems
        right
        refine hrest.problems_ne_nil ?_ finding hmem hhost.symm hname.symm
        rw [Function.update_self]
        exact hfinds.name_mem
      · exact .inl hproblems

end Findings

namespace ProgramModel

variable {model : ProgramModel} {reserved : List String}

theorem mem_candidates {element : Element} {host : String} {mark : Annotation} {kind : Kind}
    (helement : element ∈ model.elements) (hhost : element.enclosure = .type host)
    (hmark : mark ∈ element.annotations) (hkind : mark.Declares kind) :
    ⟨kind, host, element⟩ ∈ model.candidates := by
  rw [candidates, List.mem_flatMap]
  refine ⟨kind, kind.mem_all, List.mem_filterMap.mpr ⟨element, ?_, ?_⟩⟩
  · rw [annotatedWith, List.mem_filter, element.hasAnnotation_marker_iff]
    exact ⟨helement, mark, hmark, hkind⟩
  · rw [Element.host?, hhost, Option.map_some]

theorem mem_diagnostics_of_finding {findings : List (Candidate × List BindingProblem)}
    (hreports : (model.scan reserved).diagnostics = reportsOf findings) {candidate : Candidate}
    {problems : List BindingProblem} (hmem : (candidate, problems) ∈ findings)
    {problem : BindingProblem} (hproblem : problem ∈ problems) :
    problem.report candidate.host (some candidate.element.name) ∈
      (model.resolve reserved).diagnostics := by
  have hscan : problem.report candidate.host (some candidate.element.name) ∈
      (model.scan reserved).diagnostics := by
    rw [hreports, reportsOf, List.mem_flatMap]
    exact ⟨_, hmem, List.mem_map_of_mem hproblem⟩
  rw [← model.filter_linked_diagnostics reserved] at hscan
  exact List.mem_of_mem_filter hscan

theorem exists_report_of_kinds {element : Element} {host : String}
    (helement : element ∈ model.elements) (hhost : element.enclosure = .type host)
    {mark other : Annotation} {kind otherKind : Kind} (hmark : mark ∈ element.annotations)
    (hother : other ∈ element.annotations) (hkind : mark.Declares kind)
    (hotherKind : other.Declares otherKind) (hne : kind ≠ otherKind) :
    ∃ problem : BindingProblem,
      problem.report host (some element.name) ∈ (model.resolve reserved).diagnostics := by
  obtain ⟨findings, hfindings, hfst, hreports⟩ := model.exists_findings reserved
  have hfinding : ∀ {mark kind}, mark ∈ element.annotations → mark.Declares kind →
      ∃ problems, ((⟨kind, host, element⟩ : Candidate), problems) ∈ findings := by
    intro mark kind hmark hkind
    have hcandidate := mem_candidates helement hhost hmark hkind
    rw [← hfst, List.mem_map] at hcandidate
    obtain ⟨⟨_, problems⟩, hmem, rfl⟩ := hcandidate
    exact ⟨problems, hmem⟩
  obtain ⟨first, hfirst⟩ := hfinding hmark hkind
  obtain ⟨second, hsecond⟩ := hfinding hother hotherKind
  have hproblems : first ≠ [] ∨ second ≠ [] := by
    refine hfindings.pairwise_notBothBound.forall hfirst hsecond ?_ rfl rfl
    intro heq
    exact hne (congrArg (fun finding => finding.1.kind) heq)
  rcases hproblems with hproblems | hproblems
  · obtain ⟨problem, hproblem⟩ := List.exists_mem_of_ne_nil _ hproblems
    exact ⟨problem, mem_diagnostics_of_finding hreports hfirst hproblem⟩
  · obtain ⟨problem, hproblem⟩ := List.exists_mem_of_ne_nil _ hproblems
    exact ⟨problem, mem_diagnostics_of_finding hreports hsecond hproblem⟩

end ProgramModel

/-! ### Annotations of one kind -/

/-- A scan cannot tell the elements apart: it reads of the annotations the first of each kind, and whether a
value is required. -/
structure Element.Alike (first second : Element) : Prop where
  name_eq : first.name = second.name
  type_eq : first.type = second.type
  modifiers_eq : first.modifiers = second.modifiers
  enclosure_eq : first.enclosure = second.enclosure
  markOf?_eq : ∀ kind, first.markOf? kind = second.markOf? kind
  required_eq : isRequired first.annotations = isRequired second.annotations

theorem Element.Alike.refl (element : Element) : element.Alike element :=
  ⟨rfl, rfl, rfl, rfl, fun _ => rfl, rfl⟩

structure Candidate.Alike (first second : Candidate) : Prop where
  kind_eq : first.kind = second.kind
  host_eq : first.host = second.host
  element_alike : first.element.Alike second.element

section Alike

variable {first second : ProgramModel} {reserved : List String}

theorem Candidate.Alike.field_eq {left right : Candidate} (halike : left.Alike right)
    (htypes : first.type? = second.type?) :
    left.field first reserved = right.field second reserved := by
  obtain ⟨kind, host, element⟩ := left
  obtain ⟨_, _, other⟩ := right
  obtain ⟨hkind, hhost, helement⟩ := halike
  cases hkind
  cases hhost
  change element.Alike other at helement
  simp only [field, binding?_eq, accessProblems, namespaceProblems, Element.hasModifier,
    htypes, helement.name_eq, helement.type_eq, helement.modifiers_eq, helement.markOf?_eq,
    helement.required_eq]
  rfl

theorem Candidate.Alike.visit_eq {left right : Candidate} (halike : left.Alike right)
    (htypes : first.type? = second.type?) (scan : Scan) :
    scan.visit first reserved left = scan.visit second reserved right := by
  simp only [Scan.visit_eq, Candidate.verdict, halike.field_eq htypes, halike.host_eq, Scan.report,
    halike.element_alike.name_eq]

theorem foldl_visit_eq {lefts rights : List Candidate}
    (halike : List.Forall₂ Candidate.Alike lefts rights) (htypes : first.type? = second.type?)
    (scan : Scan) :
    lefts.foldl (Scan.visit first reserved) scan =
      rights.foldl (Scan.visit second reserved) scan := by
  induction halike generalizing scan with
  | nil => rfl
  | cons hfirst _ ih =>
      rw [List.foldl_cons, List.foldl_cons, hfirst.visit_eq htypes]
      exact ih _

theorem candidates_alike (halike : List.Forall₂ Element.Alike first.elements second.elements) :
    List.Forall₂ Candidate.Alike first.candidates second.candidates := by
  rw [ProgramModel.candidates, ProgramModel.candidates]
  refine List.rel_flatMap (List.forall₂_same.mpr fun kind _ => rfl) ?_
  rintro kind _ rfl
  simp only [ProgramModel.annotatedWith, List.filterMap_filter]
  refine List.rel_filterMap ?_ halike
  intro left right helement
  simp only [Element.hasAnnotation_marker, helement.markOf?_eq, Element.host?,
    helement.enclosure_eq]
  by_cases hmarked : (right.markOf? kind).isSome = true
  · rw [if_pos hmarked, if_pos hmarked]
    cases right.enclosure with
    | type host => exact .some ⟨rfl, rfl, helement⟩
    | method owner name => exact .none
  · rw [if_neg hmarked, if_neg hmarked]
    exact .none

theorem climb_congr (htypes : first.type? = second.type?) (isBound : String → Bool)
    (visited : List String) (declaration : TypeDeclaration) :
    first.climb isBound visited declaration = second.climb isBound visited declaration := by
  have hsuper : first.superclass? = second.superclass? := by
    funext declaration
    rw [ProgramModel.superclass?, ProgramModel.superclass?, htypes]
  fun_induction ProgramModel.climb first isBound visited declaration with
  | case1 visited declaration hnone =>
      rw [hsuper] at hnone
      rw [ProgramModel.climb_of_none hnone]
  | case2 visited declaration superclass hsome hvisited =>
      rw [hsuper] at hsome
      rw [ProgramModel.climb_of_some hsome, if_pos hvisited]
  | case3 visited declaration superclass hsome hvisited hbound =>
      rw [hsuper] at hsome
      rw [ProgramModel.climb_of_some hsome, if_neg hvisited, if_pos hbound]
  | case4 visited declaration superclass hsome hvisited hbound _ ih =>
      rw [hsuper] at hsome
      rw [ih, ProgramModel.climb_of_some hsome, if_neg hvisited, if_neg hbound]

theorem parentSearch_congr (htypes : first.type? = second.type?) (isBound : String → Bool) :
    first.parentSearch isBound = second.parentSearch isBound := by
  funext host
  rw [ProgramModel.parentSearch, ProgramModel.parentSearch, htypes]
  cases second.type? host with
  | none => rfl
  | some declaration => exact climb_congr htypes isBound [host] declaration

theorem resolve_eq_of_alike (htypes : first.type? = second.type?)
    (halike : List.Forall₂ Element.Alike first.elements second.elements) :
    first.resolve reserved = second.resolve reserved := by
  have hscan : first.scan reserved = second.scan reserved :=
    foldl_visit_eq (candidates_alike halike) htypes Scan.empty
  rw [ProgramModel.resolve, ProgramModel.resolve, hscan, Scan.link, Scan.link,
    parentSearch_congr htypes]

end Alike

namespace Element

variable {before after : List Annotation} {mark again : Annotation} {kind : Kind}

/-- A later copy does not change what is found first. -/
theorem find?_of_repeated {selects : Annotation → Bool} (hmem : mark ∈ before)
    (hsame : selects again = selects mark) :
    (before ++ again :: after).find? selects = (before ++ after).find? selects := by
  rw [List.find?_append, List.find?_append]
  cases hfound : before.find? selects with
  | some found => rfl
  | none =>
      have hrejected := List.find?_eq_none.mp hfound mark hmem
      rw [List.find?_cons_of_neg (by rwa [hsame])]

theorem isRequired_of_binding (hagain : again.IsBinding) :
    isRequired (before ++ again :: after) = isRequired (before ++ after) := by
  obtain ⟨kind, hkind⟩ := hagain
  have hmarker : (again.simpleName == requiredMarker) = false := by
    rw [hkind]
    cases kind <;> decide
  simp only [isRequired, isAnnotatedWith, List.any_append, List.any_cons, hmarker, Bool.false_or]

theorem alike_of_repeated {element : Element}
    (hannotations : element.annotations = before ++ again :: after)
    (hmem : mark ∈ before) (hmark : mark.Declares kind) (hagain : again.Declares kind) :
    Alike { element with annotations := before ++ after } element where
  name_eq := rfl
  type_eq := rfl
  modifiers_eq := rfl
  enclosure_eq := rfl
  markOf?_eq := by
    intro other
    rw [markOf?, markOf?, hannotations, find?_of_repeated hmem (by rw [hmark, hagain])]
  required_eq := by rw [hannotations, isRequired_of_binding ⟨kind, hagain⟩]

end Element

theorem resolve_eq_of_repeated {model : ProgramModel} {earlier later : List Element}
    {element : Element} {before after : List Annotation} {mark again : Annotation} {kind : Kind}
    (helements : model.elements = earlier ++ element :: later)
    (hannotations : element.annotations = before ++ again :: after) (hmem : mark ∈ before)
    (hmark : mark.Declares kind) (hagain : again.Declares kind) (reserved : List String) :
    ProgramModel.resolve
        { model with
          elements := earlier ++ { element with annotations := before ++ after } :: later }
        reserved =
      model.resolve reserved := by
  have hrefl : ∀ elements : List Element, List.Forall₂ Element.Alike elements elements :=
    fun elements => List.forall₂_same.mpr fun element _ => .refl element
  refine resolve_eq_of_alike (by rfl) ?_
  rw [helements]
  exact List.rel_append (hrefl earlier)
    (.cons (Element.alike_of_repeated hannotations hmem hmark hagain) (hrefl later))

/-! ### Fields and methods -/

theorem Method.not_compiled_of_severalBindings {method : Method} {parameter : Parameter}
    (hmem : parameter ∈ method.parameters) (hseveral : SeveralBindings parameter.annotations)
    (table : TypeTable) : ∃ fault, Factory.compile table method = .error fault := by
  cases hcompile : Factory.compile table method with
  | error fault => exact ⟨fault, rfl⟩
  | ok factory =>
      obtain ⟨kind, key, hbinds⟩ := Factory.forall_bindsAs_of_compile hcompile parameter hmem
      exact absurd hbinds (Parameter.not_bindsAs_of_offends (.severalAnnotations hseveral))

/-- **Annotations of two kinds on a field are reported, a second one of a kind is not read.** A parameter with
two annotations of the catalog, whatever their kinds, keeps its method from being compiled. -/
theorem annotations_of_two_kinds_reported (model : ProgramModel) (reserved : List String) :
    (∀ element ∈ model.elements, ∀ host, element.enclosure = .type host →
      ∀ mark ∈ element.annotations, ∀ other ∈ element.annotations, ∀ kind otherKind,
        mark.Declares kind → other.Declares otherKind → kind ≠ otherKind →
        ∃ report ∈ (model.resolve reserved).diagnostics,
          report.severity = .error ∧ report.host = host ∧ report.element = some element.name) ∧
    (∀ earlier element later, model.elements = earlier ++ element :: later →
      ∀ before again after, element.annotations = before ++ again :: after →
      ∀ mark ∈ before, ∀ kind, mark.Declares kind → again.Declares kind →
        ProgramModel.resolve
            { model with
              elements := earlier ++ { element with annotations := before ++ after } :: later }
            reserved =
          model.resolve reserved) ∧
    ∀ (method : Method) (table : TypeTable), ∀ parameter ∈ method.parameters,
      SeveralBindings parameter.annotations →
        ∃ fault, Factory.compile table method = .error fault := by
  refine ⟨?_, ?_, ?_⟩
  · intro element helement host hhost mark hmark other hother kind otherKind hkind hotherKind hne
    obtain ⟨problem, hreport⟩ := ProgramModel.exists_report_of_kinds helement hhost hmark hother
      hkind hotherKind hne
    exact ⟨_, hreport, rfl, rfl, rfl⟩
  · intro earlier element later helements before again after hannotations mark hmem kind hmark hagain
    exact resolve_eq_of_repeated helements hannotations hmem hmark hagain reserved
  · intro method table parameter hmem hseveral
    exact Method.not_compiled_of_severalBindings hmem hseveral table

def twoKeys : List Annotation :=
  [⟨"IntValue", some "first", none⟩, ⟨"IntValue", some "second", none⟩]

def fieldWithTwoKeys : ProgramModel where
  types := [⟨"Login", .classType, [], none, []⟩]
  elements := [⟨"count", .primitive .int, [], twoKeys, .type "Login"⟩]

def methodWithTwoKeys : Method where
  owner := "Api"
  name := "open"
  returns := .named TypeRef.bundle
  parameters := [⟨none, .primitive .int, twoKeys⟩]

theorem second_key_dropped :
    SeveralBindings twoKeys ∧ (fieldWithTwoKeys.resolve []).diagnostics = [] ∧
    ((fieldWithTwoKeys.scan []).fieldsOf "Login").map FieldBinding.key = ["first"] ∧
    Factory.compile TypeTable.platform methodWithTwoKeys =
      .error (.parameter methodWithTwoKeys.id 0 .severalAnnotations) := by
  have hends : ∀ name, fieldWithTwoKeys.ChainEnds name := by
    apply ProgramModel.chainEnds_of_forall_types
    intro declaration hmem
    rw [List.mem_singleton.mp hmem]
    exact ⟨[], .top (by decide)⟩
  refine ⟨⟨_, _, List.Sublist.refl _, ⟨.int, rfl⟩, ⟨.int, rfl⟩⟩, ?_, by decide, by decide⟩
  rw [ProgramModel.resolve_eq, ProgramModel.linked_diagnostics_of_chainEnds hends]
  decide

end BundleBinding
