import BundleBinding.Binding.Linking
import Mathlib.Tactic.ByContra

/-!
# The drafts of a scan

A draft is opened for a host before it is known whether the binding offered to it clashes, and the host
counts as bound only when a field has joined. Both come to the same between two visits: a fresh draft
has nothing to clash with, so a host has a draft exactly when it has a bound field.
-/

namespace BundleBinding

namespace Candidate

theorem clash?_nil (host : String) (field : FieldBinding) : clash? host [] field = none := rfl

theorem code_of_clash? {host : String} {bound : List FieldBinding} {field : FieldBinding}
    {problem : BindingProblem} (hclash : clash? host bound field = some problem) :
    problem.code = .duplicateKey ∨ problem.code = .duplicateName := by
  unfold clash? at hclash
  split at hclash
  · cases hclash
    exact .inl rfl
  · obtain ⟨owner, _, rfl⟩ := Option.map_eq_some_iff.mp hclash
    exact .inr rfl

/-- The codes of what can be wrong with a field by itself. -/
def fieldCodes : List DiagnosticCode :=
  [.unparsableBinding, .inaccessibleField, .notInClass, .privateHost, .reservedNamespace]

theorem code_of_accessProblems {candidate : Candidate} {host : TypeDeclaration}
    {problem : BindingProblem} (hmem : problem ∈ candidate.accessProblems host) :
    problem.code ∈ fieldCodes := by
  simp only [accessProblems, List.mem_append] at hmem
  rcases hmem with (hmem | hmem) | hmem <;> split at hmem <;>
    simp only [List.mem_singleton, List.not_mem_nil] at hmem <;> subst hmem <;>
    simp [fieldCodes, BindingProblem.code]

theorem code_of_namespaceProblems {candidate : Candidate} {reserved : List String}
    {problem : BindingProblem} (hmem : problem ∈ candidate.namespaceProblems reserved) :
    problem.code ∈ fieldCodes := by
  unfold namespaceProblems at hmem
  split at hmem <;> simp only [List.mem_singleton, List.not_mem_nil] at hmem
  subst hmem
  simp [fieldCodes, BindingProblem.code]

theorem code_of_field_error {candidate : Candidate} {model : ProgramModel}
    {reserved : List String} {problems : List BindingProblem}
    (herror : candidate.field model reserved = .error problems) {problem : BindingProblem}
    (hmem : problem ∈ problems) : problem.code ∈ fieldCodes := by
  unfold field at herror
  split at herror
  · cases herror
    rw [List.mem_singleton.mp hmem]
    simp [fieldCodes, BindingProblem.code]
  · split at herror
    · split at herror
      · cases herror
      · cases herror
        rw [List.mem_singleton.mp hmem]
        simp [fieldCodes, BindingProblem.code]
    · cases herror
      rcases List.mem_append.mp hmem with hmem | hmem
      · exact code_of_accessProblems hmem
      · exact code_of_namespaceProblems hmem

/-- What a visit comes to where a host has these fields: a further field of the host, or problems. -/
def verdict (candidate : Candidate) (model : ProgramModel) (reserved : List String)
    (bound : List FieldBinding) : Except (List BindingProblem) FieldBinding :=
  match candidate.field model reserved with
  | .error problems => .error problems
  | .ok field =>
      match clash? candidate.host bound field with
      | some problem => .error [problem]
      | none => .ok field

theorem code_ne_of_verdict_error {candidate : Candidate} {model : ProgramModel}
    {reserved : List String} {bound : List FieldBinding} {problems : List BindingProblem}
    (herror : candidate.verdict model reserved bound = .error problems) {problem : BindingProblem}
    (hmem : problem ∈ problems) : problem.code ≠ .superclassCycle := by
  unfold verdict at herror
  intro hcycle
  split at herror
  · next hfield =>
      cases herror
      have hcode := code_of_field_error hfield hmem
      rw [hcycle] at hcode
      exact absurd hcode (by decide)
  · split at herror
    · next hclash =>
        cases herror
        rw [List.mem_singleton.mp hmem] at hcycle
        rcases code_of_clash? hclash with hcode | hcode <;> cases hcode.symm.trans hcycle
    · cases herror

end Candidate

namespace Scan

variable {model : ProgramModel} {reserved : List String} {scan : Scan}

/-- What holds of a scan between two visits. -/
structure Consistent (scan : Scan) : Prop where
  mem_bound_iff : ∀ host, host ∈ scan.bound ↔ host ∈ scan.drafts.keys
  host_eq : ∀ host draft, scan.drafts.get? host = some draft → draft.host = host
  parent_eq : ∀ host draft, scan.drafts.get? host = some draft → draft.parent = none
  fields_ne_nil : ∀ host draft, scan.drafts.get? host = some draft → draft.fields ≠ []

theorem consistent_empty : Scan.empty.Consistent where
  mem_bound_iff := by simp [Scan.empty]
  host_eq := by simp [Scan.empty]
  parent_eq := by simp [Scan.empty]
  fields_ne_nil := by simp [Scan.empty]

theorem draftOf_of_get? {host : String} {draft : BindingSpec}
    (hget : scan.drafts.get? host = some draft) : scan.draftOf host = draft := by
  rw [draftOf, hget, Option.getD_some]

theorem draftOf_of_not_mem {host : String} (hhost : host ∉ scan.drafts.keys) :
    scan.draftOf host = .blank host := by
  rw [draftOf, Registry.get?_eq_none_iff.mpr hhost, Option.getD_none]

theorem Consistent.fieldsOf_ne_nil_iff (hscan : scan.Consistent) {host : String} :
    scan.fieldsOf host ≠ [] ↔ host ∈ scan.drafts.keys := by
  rw [fieldsOf]
  constructor
  · intro hne
    by_contra hhost
    rw [draftOf_of_not_mem hhost] at hne
    exact hne rfl
  · intro hhost
    obtain ⟨draft, hget⟩ := Registry.mem_keys_iff.mp hhost
    rw [draftOf_of_get? hget]
    exact hscan.fields_ne_nil host draft hget

theorem Consistent.isBound_iff (hscan : scan.Consistent) {host : String} :
    scan.isBound host = true ↔ host ∈ scan.drafts.keys := by
  rw [isBound, decide_eq_true_eq, hscan.mem_bound_iff]

theorem Consistent.draftOf_host (hscan : scan.Consistent) (host : String) :
    (scan.draftOf host).host = host := by
  cases hget : scan.drafts.get? host with
  | none => rw [draftOf_of_not_mem (Registry.get?_eq_none_iff.mp hget), BindingSpec.blank]
  | some draft => rw [draftOf_of_get? hget, hscan.host_eq host draft hget]

theorem Consistent.draftOf_parent (hscan : scan.Consistent) (host : String) :
    (scan.draftOf host).parent = none := by
  cases hget : scan.drafts.get? host with
  | none => rw [draftOf_of_not_mem (Registry.get?_eq_none_iff.mp hget), BindingSpec.blank]
  | some draft => rw [draftOf_of_get? hget, hscan.parent_eq host draft hget]

/-! ### Visits -/

@[simp]
theorem fieldsOf_openDraft (scan : Scan) (opened host : String) :
    (scan.openDraft opened).fieldsOf host = scan.fieldsOf host := by
  simp only [fieldsOf, draftOf, openDraft, Registry.get?_insert]
  split
  · next heq => subst heq; rfl
  · rfl

@[simp]
theorem bind_openDraft (scan : Scan) (host : String) (field : FieldBinding) :
    (scan.openDraft host).bind host field = scan.bind host field := by
  have hdraft : (scan.openDraft host).draftOf host = scan.draftOf host := by
    rw [draftOf, openDraft, Registry.get?_insert_self, Option.getD_some]
  simp only [bind, hdraft]
  simp only [openDraft, Registry.insert_insert]

/-- A binding that clashes finds the draft of its host there already. -/
theorem openDraft_of_clash? {host : String} {field : FieldBinding} {problem : BindingProblem}
    (hclash : Candidate.clash? host (scan.fieldsOf host) field = some problem) :
    scan.openDraft host = scan := by
  cases hget : scan.drafts.get? host with
  | none =>
      rw [fieldsOf, draftOf_of_not_mem (Registry.get?_eq_none_iff.mp hget), BindingSpec.blank,
        Candidate.clash?_nil] at hclash
      cases hclash
  | some draft => rw [openDraft, draftOf_of_get? hget, Registry.insert_of_get? hget]

/-- The two ends of an offer, neither with an open draft left behind. -/
theorem offer_eq (scan : Scan) (candidate : Candidate) (field : FieldBinding) :
    scan.offer candidate field =
      match Candidate.clash? candidate.host (scan.fieldsOf candidate.host) field with
      | some problem => scan.report candidate [problem]
      | none => scan.bind candidate.host field := by
  simp only [offer, fieldsOf_openDraft, bind_openDraft]
  cases hclash : Candidate.clash? candidate.host (scan.fieldsOf candidate.host) field with
  | none => rfl
  | some problem => rw [openDraft_of_clash? hclash]

theorem Consistent.report (hscan : scan.Consistent) (candidate : Candidate)
    (problems : List BindingProblem) : (scan.report candidate problems).Consistent :=
  ⟨hscan.mem_bound_iff, hscan.host_eq, hscan.parent_eq, hscan.fields_ne_nil⟩

theorem get?_bind {host other : String} {field : FieldBinding} {draft : BindingSpec}
    (hget : (scan.bind host field).drafts.get? other = some draft) :
    (other = host ∧ draft = (scan.draftOf host).addField field) ∨
      scan.drafts.get? other = some draft := by
  simp only [bind, Registry.get?_insert] at hget
  split at hget
  · next heq => exact .inl ⟨heq, (Option.some.inj hget).symm⟩
  · exact .inr hget

theorem Consistent.bind (hscan : scan.Consistent) (host : String) (field : FieldBinding) :
    (scan.bind host field).Consistent where
  mem_bound_iff := by
    intro other
    simp only [Scan.bind, List.mem_insert_iff, hscan.mem_bound_iff, Registry.mem_keys_iff,
      Registry.get?_insert]
    by_cases heq : other = host <;> simp [heq]
  host_eq := by
    intro other draft hget
    rcases get?_bind hget with ⟨rfl, rfl⟩ | hget
    · exact hscan.draftOf_host other
    · exact hscan.host_eq other draft hget
  parent_eq := by
    intro other draft hget
    rcases get?_bind hget with ⟨rfl, rfl⟩ | hget
    · exact hscan.draftOf_parent other
    · exact hscan.parent_eq other draft hget
  fields_ne_nil := by
    intro other draft hget
    rcases get?_bind hget with ⟨rfl, rfl⟩ | hget
    · simp [BindingSpec.addField]
    · exact hscan.fields_ne_nil other draft hget

/-- A visit goes by the fields that the host has, whatever else the scan has found. -/
theorem visit_eq (scan : Scan) (candidate : Candidate) :
    scan.visit model reserved candidate =
      match candidate.verdict model reserved (scan.fieldsOf candidate.host) with
      | .error problems => scan.report candidate problems
      | .ok field => scan.bind candidate.host field := by
  rw [visit, Candidate.verdict]
  cases hfield : candidate.field model reserved with
  | error problems => rfl
  | ok field =>
      simp only [offer_eq]
      cases Candidate.clash? candidate.host (scan.fieldsOf candidate.host) field <;> rfl

theorem visit_of_error {candidate : Candidate} {problems : List BindingProblem}
    (hfield : candidate.field model reserved = .error problems) (scan : Scan) :
    scan.visit model reserved candidate = scan.report candidate problems := by
  simp only [visit_eq, Candidate.verdict, hfield]

theorem visit_of_clash {candidate : Candidate} {field : FieldBinding} {problem : BindingProblem}
    (hfield : candidate.field model reserved = .ok field)
    (hclash : Candidate.clash? candidate.host (scan.fieldsOf candidate.host) field = some problem) :
    scan.visit model reserved candidate = scan.report candidate [problem] := by
  simp only [visit_eq, Candidate.verdict, hfield, hclash]

theorem visit_of_no_clash {candidate : Candidate} {field : FieldBinding}
    (hfield : candidate.field model reserved = .ok field)
    (hclash : Candidate.clash? candidate.host (scan.fieldsOf candidate.host) field = none) :
    scan.visit model reserved candidate = scan.bind candidate.host field := by
  simp only [visit_eq, Candidate.verdict, hfield, hclash]

theorem Consistent.visit (hscan : scan.Consistent) (candidate : Candidate) :
    (scan.visit model reserved candidate).Consistent := by
  rw [visit_eq]
  split
  · exact hscan.report candidate _
  · exact hscan.bind candidate.host _

theorem Consistent.foldl_visit (hscan : scan.Consistent) (candidates : List Candidate) :
    (candidates.foldl (Scan.visit model reserved) scan).Consistent := by
  induction candidates generalizing scan with
  | nil => exact hscan
  | cons candidate candidates ih => exact ih (hscan.visit candidate)

/-- A scan reports what is wrong with fields, never a cycle. -/
theorem code_ne_of_mem_visit {candidate : Candidate} {report : Diagnostic}
    (hscan : ∀ report ∈ scan.diagnostics, report.code ≠ .superclassCycle)
    (hmem : report ∈ (scan.visit model reserved candidate).diagnostics) :
    report.code ≠ .superclassCycle := by
  rw [visit_eq] at hmem
  split at hmem
  · next problems herror =>
      rcases List.mem_append.mp hmem with hmem | hmem
      · exact hscan report hmem
      · obtain ⟨problem, hproblem, rfl⟩ := List.mem_map.mp hmem
        exact Candidate.code_ne_of_verdict_error herror hproblem
  · exact hscan report hmem

theorem code_ne_of_mem_foldl_visit (candidates : List Candidate)
    (hscan : ∀ report ∈ scan.diagnostics, report.code ≠ .superclassCycle) :
    ∀ report ∈ (candidates.foldl (Scan.visit model reserved) scan).diagnostics,
      report.code ≠ .superclassCycle := by
  induction candidates generalizing scan with
  | nil => exact hscan
  | cons candidate candidates ih => exact ih fun report => code_ne_of_mem_visit hscan

end Scan

namespace ProgramModel

theorem code_ne_of_mem_scan {model : ProgramModel} {reserved : List String} {report : Diagnostic}
    (hmem : report ∈ (model.scan reserved).diagnostics) : report.code ≠ .superclassCycle :=
  Scan.code_ne_of_mem_foldl_visit model.candidates (by simp [Scan.empty]) report hmem

theorem scan_consistent (model : ProgramModel) (reserved : List String) :
    (model.scan reserved).Consistent :=
  Scan.consistent_empty.foldl_visit model.candidates

end ProgramModel

end BundleBinding
