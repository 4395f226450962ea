import BundleBinding.Proofs.KeepFirst
import BundleBinding.Proofs.Offers
import BundleBinding.Proofs.Resolution
import Mathlib.Algebra.BigOperators.Group.Finset.Basic
import Mathlib.Algebra.BigOperators.Group.Finset.Piecewise

/-!
# What a scan reports

Every pair of a kind and a field with an annotation of the kind is visited once. A visit either adds a
field to the host or says why not, and what it says goes by the field, its type and the fields that the host
has by then.
-/

open scoped BigOperators

namespace BundleBinding

/-- The first item of a list of which something holds. -/
def IsFirst {α : Type} (holds : α → Prop) (items : List α) (item : α) : Prop :=
  ∃ before after, items = before ++ item :: after ∧ holds item ∧ ∀ other ∈ before, ¬ holds other

theorem isFirst_iff_find? {α : Type} {holds : α → Prop} {test : α → Bool}
    (htest : ∀ item, test item = true ↔ holds item) {items : List α} {item : α} :
    IsFirst holds items item ↔ items.find? test = some item := by
  rw [List.find?_eq_some_iff_append]
  constructor
  · rintro ⟨before, after, hitems, hitem, hbefore⟩
    refine ⟨(htest item).mpr hitem, before, after, hitems, ?_⟩
    intro other hmem
    rw [Bool.not_eq_true', Bool.eq_false_iff, Ne, htest]
    exact hbefore other hmem
  · rintro ⟨hitem, before, after, hitems, hbefore⟩
    refine ⟨before, after, hitems, (htest item).mp hitem, ?_⟩
    intro other hmem hother
    have hnone := hbefore other hmem
    rw [(htest other).mpr hother] at hnone
    cases hnone

/-- The pairs of a kind and a field that bears the annotation of the kind: kinds in catalog order, and for
each the fields in the order of declaration. -/
def ProgramModel.markedFields (model : ProgramModel) : List Candidate :=
  Kind.all.flatMap fun kind =>
    model.elements.filterMap fun element =>
      match element.enclosure with
      | .type host =>
          if ∃ mark ∈ element.annotations, mark.simpleName = kind.marker then
            some ⟨kind, host, element⟩
          else none
      | .method _ _ => none

theorem Element.hasAnnotation_marker_iff (element : Element) (kind : Kind) :
    element.hasAnnotation kind.marker = true ↔
      ∃ mark ∈ element.annotations, mark.simpleName = kind.marker := by
  rw [hasAnnotation_marker, markOf?, List.find?_isSome]
  simp only [beq_iff_eq]

theorem ProgramModel.candidates_eq (model : ProgramModel) : model.candidates = model.markedFields := by
  rw [candidates, markedFields]
  congr 1
  funext kind
  rw [annotatedWith, List.filterMap_filter]
  congr 1
  funext element
  simp only [element.hasAnnotation_marker_iff, Element.host?]
  cases element.enclosure with
  | type host => rfl
  | method owner name => exact ite_self none

namespace Candidate

variable {model : ProgramModel} {reserved : List String} {candidate : Candidate}
  {host : TypeDeclaration} {bound : List FieldBinding} {mark : Annotation}

/-- What can be wrong with a field or with its type before its annotation is read. -/
inductive Flaw (candidate : Candidate) (host : TypeDeclaration) (reserved : List String) :
    BindingProblem → Prop
  | inaccessible
      (hfield : .privateMember ∈ candidate.element.modifiers ∨
        .staticMember ∈ candidate.element.modifiers) :
      Flaw candidate host reserved (.inaccessible candidate.kind)
  | notInClass (hform : host.form ≠ .classType) :
      Flaw candidate host reserved (.notInClass candidate.kind)
  | privateHost (hhost : .privateMember ∈ host.modifiers) :
      Flaw candidate host reserved (.privateHost candidate.kind)
  | reservedNamespace {namespaceName : String}
      (hfirst : IsFirst (fun name => name.toList <+: candidate.host.toList) reserved namespaceName) :
      Flaw candidate host reserved
        (.reservedNamespace candidate.kind namespaceName candidate.host)

/-- All flaws, none twice, in the order of their codes. -/
structure ListsFlaws (candidate : Candidate) (host : TypeDeclaration) (reserved : List String)
    (problems : List BindingProblem) : Prop where
  mem_iff : ∀ problem, problem ∈ problems ↔ candidate.Flaw host reserved problem
  codes_sublist : (problems.map BindingProblem.code).Sublist
    [.inaccessibleField, .notInClass, .privateHost, .reservedNamespace]

theorem reservedPrefix?_eq_some_iff {name namespaceName : String} :
    reservedPrefix? reserved name = some namespaceName ↔
      IsFirst (fun other => other.toList <+: name.toList) reserved namespaceName :=
  (isFirst_iff_find? fun _ => List.isPrefixOf_iff_prefix).symm

theorem mem_namespaceProblems_iff {problem : BindingProblem} :
    problem ∈ candidate.namespaceProblems reserved ↔
      ∃ namespaceName, reservedPrefix? reserved candidate.host = some namespaceName ∧
        problem = .reservedNamespace candidate.kind namespaceName candidate.host := by
  rw [namespaceProblems]
  cases reservedPrefix? reserved candidate.host with
  | none => simp
  | some namespaceName => simp

theorem mem_accessProblems_iff {problem : BindingProblem} :
    problem ∈ candidate.accessProblems host ↔
      ((.privateMember ∈ candidate.element.modifiers ∨ .staticMember ∈ candidate.element.modifiers) ∧
          problem = .inaccessible candidate.kind ∨
        host.form ≠ .classType ∧ problem = .notInClass candidate.kind) ∨
      .privateMember ∈ host.modifiers ∧ problem = .privateHost candidate.kind := by
  simp only [accessProblems, Element.hasModifier, TypeDeclaration.hasModifier, List.mem_append,
    List.mem_ite_nil_right, List.mem_singleton, Bool.or_eq_true, decide_eq_true_eq, bne_iff_ne, ne_eq]

theorem mem_problems_iff {problem : BindingProblem} :
    problem ∈ candidate.accessProblems host ++ candidate.namespaceProblems reserved ↔
      candidate.Flaw host reserved problem := by
  rw [List.mem_append, mem_accessProblems_iff, mem_namespaceProblems_iff]
  constructor
  · rintro (((⟨hfield, rfl⟩ | ⟨hform, rfl⟩) | ⟨hhost, rfl⟩) | ⟨namespaceName, hfirst, rfl⟩)
    · exact .inaccessible hfield
    · exact .notInClass hform
    · exact .privateHost hhost
    · exact .reservedNamespace (reservedPrefix?_eq_some_iff.mp hfirst)
  · intro hflaw
    cases hflaw with
    | inaccessible hfield => exact .inl (.inl (.inl ⟨hfield, rfl⟩))
    | notInClass hform => exact .inl (.inl (.inr ⟨hform, rfl⟩))
    | privateHost hhost => exact .inl (.inr ⟨hhost, rfl⟩)
    | reservedNamespace hfirst => exact .inr ⟨_, reservedPrefix?_eq_some_iff.mpr hfirst, rfl⟩

theorem codes_problems_sublist (candidate : Candidate) (host : TypeDeclaration)
    (reserved : List String) :
    ((candidate.accessProblems host ++ candidate.namespaceProblems reserved).map
      BindingProblem.code).Sublist
      [.inaccessibleField, .notInClass, .privateHost, .reservedNamespace] := by
  have hoptional : ∀ (condition : Prop) [Decidable condition] (problem : BindingProblem),
      ((if condition then [problem] else []).map BindingProblem.code).Sublist [problem.code] := by
    intro condition _ problem
    by_cases hcondition : condition
    · rw [if_pos hcondition]
      exact List.Sublist.refl _
    · rw [if_neg hcondition]
      exact List.nil_sublist _
  have hnamespace : ((candidate.namespaceProblems reserved).map BindingProblem.code).Sublist
      [.reservedNamespace] := by
    rw [namespaceProblems]
    cases reservedPrefix? reserved candidate.host with
    | none => exact List.nil_sublist _
    | some _ => exact List.Sublist.refl _
  rw [accessProblems, List.map_append, List.map_append, List.map_append]
  exact (((hoptional _ _).append (hoptional _ _)).append (hoptional _ _)).append hnamespace

theorem listsFlaws (candidate : Candidate) (host : TypeDeclaration) (reserved : List String) :
    candidate.ListsFlaws host reserved
      (candidate.accessProblems host ++ candidate.namespaceProblems reserved) :=
  ⟨fun _ => mem_problems_iff, candidate.codes_problems_sublist host reserved⟩

/-- The annotation that counts. -/
def FirstMark (candidate : Candidate) (mark : Annotation) : Prop :=
  IsFirst (fun other => other.simpleName = candidate.kind.marker) candidate.element.annotations mark

theorem firstMark_iff : candidate.FirstMark mark ↔
    candidate.element.markOf? candidate.kind = some mark :=
  isFirst_iff_find? fun _ => beq_iff_eq

/-- The field that a candidate is bound as by an annotation with a key. -/
def bindingBy (candidate : Candidate) (mark : Annotation) (key : String) : FieldBinding where
  name := candidate.element.name
  kind := candidate.kind
  key := key
  type := candidate.element.type
  required := isRequired candidate.element.annotations
  description := mark.description.getD ""

/-- The rules by which a visit finds problems or adds a field, for the fields that the host has. -/
inductive Finds (model : ProgramModel) (reserved : List String) (candidate : Candidate)
    (bound : List FieldBinding) : List BindingProblem → List FieldBinding → Prop
  | unknownHost (hhost : model.type? candidate.host = none) :
      Finds model reserved candidate bound [.unknownHost candidate.kind candidate.host] []
  | flawed {host : TypeDeclaration} {problems : List BindingProblem}
      (hhost : model.type? candidate.host = some host)
      (hflaws : candidate.ListsFlaws host reserved problems) (hne : problems ≠ []) :
      Finds model reserved candidate bound problems []
  | noKey {host : TypeDeclaration} {mark : Annotation}
      (hhost : model.type? candidate.host = some host)
      (hsound : ∀ problem, ¬ candidate.Flaw host reserved problem)
      (hmark : candidate.FirstMark mark) (hkey : mark.value = none) :
      Finds model reserved candidate bound [.noKey candidate.kind] []
  | refused {host : TypeDeclaration} {mark : Annotation} {key : String} {problem : BindingProblem}
      (hhost : model.type? candidate.host = some host)
      (hsound : ∀ problem, ¬ candidate.Flaw host reserved problem)
      (hmark : candidate.FirstMark mark) (hkey : mark.value = some key)
      (hrefusal : Refusal candidate.host bound (candidate.bindingBy mark key) problem) :
      Finds model reserved candidate bound [problem] []
  | binds {host : TypeDeclaration} {mark : Annotation} {key : String}
      (hhost : model.type? candidate.host = some host)
      (hsound : ∀ problem, ¬ candidate.Flaw host reserved problem)
      (hmark : candidate.FirstMark mark) (hkey : mark.value = some key)
      (hfree : (candidate.bindingBy mark key).IsFreeIn bound) :
      Finds model reserved candidate bound [] [candidate.bindingBy mark key]

/-- A visit adds a field exactly if it finds no problem. -/
theorem Finds.length_added {problems : List BindingProblem} {added : List FieldBinding}
    (hfinds : candidate.Finds model reserved bound problems added) :
    added.length = if problems.isEmpty then 1 else 0 := by
  cases hfinds with
  | flawed _ _ hne => rw [List.isEmpty_eq_false_iff.mpr hne]; rfl
  | unknownHost => rfl
  | noKey => rfl
  | refused => rfl
  | binds => rfl

theorem field_of_unknown (hhost : model.type? candidate.host = none) :
    candidate.field model reserved = .error [.unknownHost candidate.kind candidate.host] := by
  simp only [field, hhost]
  rfl

theorem field_of_flawed (hhost : model.type? candidate.host = some host)
    (hne : candidate.accessProblems host ++ candidate.namespaceProblems reserved ≠ []) :
    candidate.field model reserved =
      .error (candidate.accessProblems host ++ candidate.namespaceProblems reserved) := by
  simp only [field, hhost]
  cases hproblems : candidate.accessProblems host ++ candidate.namespaceProblems reserved with
  | nil => exact absurd hproblems hne
  | cons problem problems => rfl

theorem field_of_sound (hhost : model.type? candidate.host = some host)
    (hsound : candidate.accessProblems host ++ candidate.namespaceProblems reserved = [])
    (hmark : candidate.element.markOf? candidate.kind = some mark) :
    candidate.field model reserved =
      match mark.value with
      | some key => .ok (candidate.bindingBy mark key)
      | none => .error [.noKey candidate.kind] := by
  simp only [field, hhost, hsound, binding?_eq, hmark, Option.map_some]
  cases mark.value <;> rfl

theorem finds_verdict (model : ProgramModel) (reserved : List String)
    (hmark : candidate.element.markOf? candidate.kind = some mark)
    (bound : List FieldBinding) :
    match candidate.verdict model reserved bound with
    | .error problems => candidate.Finds model reserved bound problems []
    | .ok field => candidate.Finds model reserved bound [] [field] := by
  have hfirst : candidate.FirstMark mark := firstMark_iff.mpr hmark
  rw [verdict]
  cases hhost : model.type? candidate.host with
  | none =>
      rw [field_of_unknown hhost]
      exact .unknownHost hhost
  | some host =>
      by_cases hproblems :
          candidate.accessProblems host ++ candidate.namespaceProblems reserved = []
      · have hsound : ∀ problem, ¬ candidate.Flaw host reserved problem := by
          intro problem hflaw
          have hmem := mem_problems_iff.mpr hflaw
          rw [hproblems] at hmem
          cases hmem
        rw [field_of_sound hhost hproblems hmark]
        cases hkey : mark.value with
        | none => exact .noKey hhost hsound hfirst hkey
        | some key =>
            simp only
            cases hclash : clash? candidate.host bound (candidate.bindingBy mark key) with
            | none =>
                exact .binds hhost hsound hfirst hkey (clash?_eq_none_iff.mp hclash)
            | some problem =>
                exact .refused hhost hsound hfirst hkey (refusal_of_clash? hclash)
      · rw [field_of_flawed hhost hproblems]
        exact .flawed hhost (candidate.listsFlaws host reserved) hproblems

end Candidate

/-! ### A whole scan -/

/-- What the visits of a scan find, one after the other, when every host has certain fields at first and
certain fields at last. -/
inductive Findings (model : ProgramModel) (reserved : List String) :
    (String → List FieldBinding) → List (Candidate × List BindingProblem) →
      (String → List FieldBinding) → Prop
  | done (bound : String → List FieldBinding) : Findings model reserved bound [] bound
  | visit {bound final : String → List FieldBinding} {candidate : Candidate}
      {problems : List BindingProblem} {added : List FieldBinding}
      {findings : List (Candidate × List BindingProblem)}
      (hfinds : candidate.Finds model reserved (bound candidate.host) problems added)
      (hrest : Findings model reserved
        (Function.update bound candidate.host (bound candidate.host ++ added)) findings final) :
      Findings model reserved bound ((candidate, problems) :: findings) final

/-- The reports of what was found, in the order in which it was found. -/
def reportsOf (findings : List (Candidate × List BindingProblem)) : List Diagnostic :=
  findings.flatMap fun (candidate, problems) => candidate.reports problems

namespace Findings

variable {model : ProgramModel} {reserved : List String}
  {bound final : String → List FieldBinding} {findings : List (Candidate × List BindingProblem)}

theorem prefix_final (hfindings : Findings model reserved bound findings final) (host : String) :
    bound host <+: final host := by
  induction hfindings with
  | done bound => exact List.prefix_refl _
  | @visit bound final candidate problems added findings hfinds hrest ih =>
      refine List.IsPrefix.trans ?_ ih
      by_cases hhost : host = candidate.host
      · subst hhost
        rw [Function.update_self]
        exact List.prefix_append _ _
      · rw [Function.update_of_ne hhost]

theorem sum_length_update (bound : String → List FieldBinding) {hosts : Finset String}
    {host : String} (hhost : host ∈ hosts) (added : List FieldBinding) :
    ∑ other ∈ hosts, (Function.update bound host (bound host ++ added) other).length =
      ∑ other ∈ hosts, (bound other).length + added.length := by
  have hupdate : (fun other => (Function.update bound host (bound host ++ added) other).length) =
      Function.update (fun other => (bound other).length) host
        ((bound host).length + added.length) := by
    funext other
    by_cases heq : other = host
    · subst heq
      rw [Function.update_self, Function.update_self, List.length_append]
    · rw [Function.update_of_ne heq, Function.update_of_ne heq]
  rw [hupdate, Finset.sum_update_of_mem hhost, Finset.sdiff_singleton_eq_erase,
    ← Finset.add_sum_erase hosts (fun other => (bound other).length) hhost]
  omega

/-- As many fields are added as visits find no problem. -/
theorem sum_length_final (hfindings : Findings model reserved bound findings final)
    {hosts : Finset String} (hhosts : ∀ host ∉ hosts, final host = []) :
    ∑ host ∈ hosts, (final host).length =
      ∑ host ∈ hosts, (bound host).length +
        findings.countP fun finding => finding.2.isEmpty := by
  induction hfindings with
  | done bound => rfl
  | @visit bound final candidate problems added findings hfinds hrest ih =>
      have hsum : ∑ host ∈ hosts,
          (Function.update bound candidate.host (bound candidate.host ++ added) host).length =
            ∑ host ∈ hosts, (bound host).length + added.length := by
        by_cases hhost : candidate.host ∈ hosts
        · exact sum_length_update bound hhost added
        · -- A field of a host stays to the end, so none was added to a host that has none then.
          have hstart := hrest.prefix_final candidate.host
          rw [hhosts _ hhost, Function.update_self, List.prefix_nil, List.append_eq_nil_iff] at hstart
          obtain ⟨-, rfl⟩ := hstart
          rw [List.append_nil, Function.update_eq_self]
          rfl
      rw [ih hhosts, hsum, hfinds.length_added, List.countP_cons, Nat.add_assoc, Nat.add_comm (ite _ _ _)]

end Findings

namespace Scan

variable {model : ProgramModel} {reserved : List String}

theorem fieldsOf_bind (scan : Scan) (host : String) (field : FieldBinding) :
    (scan.bind host field).fieldsOf =
      Function.update scan.fieldsOf host (scan.fieldsOf host ++ [field]) := by
  funext other
  by_cases hother : other = host
  · subst hother
    rw [Function.update_self, fieldsOf_bind_self]
  · rw [Function.update_of_ne hother, fieldsOf_bind_of_ne hother]

theorem exists_findings (scan : Scan) {candidates : List Candidate}
    (hmarked : ∀ candidate ∈ candidates, ∃ mark,
      candidate.element.markOf? candidate.kind = some mark) :
    ∃ findings,
      Findings model reserved scan.fieldsOf findings
        (candidates.foldl (Scan.visit model reserved) scan).fieldsOf ∧
      findings.map Prod.fst = candidates ∧
      (candidates.foldl (Scan.visit model reserved) scan).diagnostics =
        scan.diagnostics ++ reportsOf findings := by
  induction candidates generalizing scan with
  | nil => exact ⟨[], .done _, rfl, (List.append_nil _).symm⟩
  | cons candidate candidates ih =>
      obtain ⟨⟨mark, hmark⟩, hothers⟩ := List.forall_mem_cons.mp hmarked
      have hfinds := Candidate.finds_verdict model reserved hmark (scan.fieldsOf candidate.host)
      obtain ⟨findings, hfindings, hfst, hreports⟩ := ih (scan.visit model reserved candidate) hothers
      rw [visit_eq] at hfindings hreports
      rw [List.foldl_cons, visit_eq]
      cases hverdict : candidate.verdict model reserved (scan.fieldsOf candidate.host) with
      | error problems =>
          simp only [hverdict] at hfinds hfindings hreports ⊢
          refine ⟨(candidate, problems) :: findings, .visit hfinds ?_, congrArg _ hfst, ?_⟩
          · rw [List.append_nil, Function.update_eq_self]
            exact hfindings
          · rw [hreports, reportsOf, reportsOf, List.flatMap_cons, ← List.append_assoc]
            rfl
      | ok field =>
          simp only [hverdict] at hfinds hfindings hreports ⊢
          refine ⟨(candidate, []) :: findings, .visit hfinds ?_, congrArg _ hfst, ?_⟩
          · rw [← fieldsOf_bind]
            exact hfindings
          · rw [hreports]
            rfl

end Scan

namespace ProgramModel

variable {model : ProgramModel} {reserved : List String}

theorem exists_markOf?_of_mem_candidates {candidate : Candidate}
    (hmem : candidate ∈ model.candidates) :
    ∃ mark, candidate.element.markOf? candidate.kind = some mark := by
  obtain ⟨kind, _, hmem⟩ := List.mem_flatMap.mp hmem
  obtain ⟨element, helement, hcandidate⟩ := List.mem_filterMap.mp hmem
  obtain ⟨host, _, rfl⟩ := Option.map_eq_some_iff.mp hcandidate
  rw [annotatedWith, List.mem_filter, Element.hasAnnotation_marker, Option.isSome_iff_exists]
    at helement
  exact helement.2

theorem exists_findings (model : ProgramModel) (reserved : List String) :
    ∃ findings,
      Findings model reserved (fun _ => []) findings (model.scan reserved).fieldsOf ∧
      findings.map Prod.fst = model.candidates ∧
      (model.scan reserved).diagnostics = reportsOf findings :=
  Scan.empty.exists_findings fun _ => exists_markOf?_of_mem_candidates

theorem filter_linked_diagnostics (model : ProgramModel) (reserved : List String) :
    (model.linked reserved).diagnostics.filter (fun report => report.code != .superclassCycle) =
      (model.scan reserved).diagnostics := by
  rw [filter_linked]
  · rw [List.filter_eq_self]
    intro report hmem
    exact bne_iff_ne.mpr (code_ne_of_mem_scan hmem)
  · intro report hcode
    rw [hcode, bne_self_eq_false]

theorem sum_length_fields (model : ProgramModel) (reserved : List String) :
    ((model.resolve reserved).specs.values.map fun spec => spec.fields.length).sum =
      ∑ host ∈ ((model.resolve reserved).specs.values.map BindingSpec.host).toFinset,
        ((model.scan reserved).fieldsOf host).length := by
  have hformed := model.linked_wellFormed reserved
  rw [List.sum_toFinset _ hformed.nodup_hosts, List.map_map]
  congr 1
  apply List.map_congr_left
  intro spec hmem
  rw [hformed.fields_eq spec hmem]
  rfl

end ProgramModel

/-- **The reports of a scan are exact.** Apart from those on cycles, a resolution reports what the visits to
the marked fields find, in the order of the visits. The fields that the visits add are those of the
specifications; so there are as many as visits that find no problem, and where nothing but cycles is
reported, as many as marked fields. -/
theorem scan_reports (model : ProgramModel) (reserved : List String) :
    ∃ findings final,
      Findings model reserved (fun _ => []) findings final ∧
      findings.map Prod.fst = model.markedFields ∧
      (model.resolve reserved).diagnostics.filter (fun report => report.code != .superclassCycle) =
        reportsOf findings ∧
      (∀ host, final host ≠ [] ↔
        host ∈ (model.resolve reserved).specs.values.map BindingSpec.host) ∧
      (∀ spec ∈ (model.resolve reserved).specs.values, spec.fields = final spec.host) ∧
      ((model.resolve reserved).specs.values.map fun spec => spec.fields.length).sum =
        (findings.countP fun finding => finding.2.isEmpty) ∧
      ((∀ report ∈ (model.resolve reserved).diagnostics, report.code = .superclassCycle) →
        ((model.resolve reserved).specs.values.map fun spec => spec.fields.length).sum =
          model.markedFields.length) := by
  obtain ⟨findings, hfindings, hfst, hreports⟩ := model.exists_findings reserved
  have hformed := model.linked_wellFormed reserved
  have hfiltered : (model.resolve reserved).diagnostics.filter
      (fun report => report.code != .superclassCycle) = reportsOf findings := by
    rw [← hreports]
    exact model.filter_linked_diagnostics reserved
  have hsum : ((model.resolve reserved).specs.values.map fun spec => spec.fields.length).sum =
      findings.countP fun finding => finding.2.isEmpty := by
    rw [model.sum_length_fields reserved, hfindings.sum_length_final, Finset.sum_eq_zero, zero_add]
    · exact fun _ _ => rfl
    · intro host hhost
      rw [List.mem_toFinset, hformed.mem_hosts_iff] at hhost
      exact not_not.mp hhost
  rw [← model.candidates_eq]
  refine ⟨findings, _, hfindings, hfst, hfiltered, fun host => (hformed.mem_hosts_iff host).symm,
    hformed.fields_eq, hsum, ?_⟩
  intro hcycles
  have hnone : reportsOf findings = [] := by
    rw [← hfiltered, List.filter_eq_nil_iff]
    intro report hmem
    rw [hcycles report hmem, bne_self_eq_false]
    exact Bool.false_ne_true
  rw [hsum, ← hfst, List.length_map, List.countP_eq_length]
  rintro ⟨candidate, problems⟩ hmem
  have hproblems := List.flatMap_eq_nil_iff.mp hnone _ hmem
  rw [List.isEmpty_iff]
  exact List.map_eq_nil_iff.mp hproblems

end BundleBinding
