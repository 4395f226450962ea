import BundleBinding.Proofs.KeepFirst
import BundleBinding.Proofs.Offers
import BundleBinding.Proofs.Resolution

/-!
# The fields of a host

The fields of a specification are the first of the bindings offered to its type. Each binding that is
refused has one report, which cites a field that stays.
-/

namespace BundleBinding

/-- A report that a binding clashes with one of its host. -/
def Diagnostic.isClash (report : Diagnostic) : Bool :=
  report.code == .duplicateKey || report.code == .duplicateName

/-- A report about a field that is neither of a clash nor of a cycle. -/
def Diagnostic.isOwn (report : Diagnostic) : Bool :=
  !report.isClash && report.code != .superclassCycle

theorem Diagnostic.not_isClash_of_mem {report : Diagnostic}
    (hcode : report.code ∈ Candidate.fieldCodes) : report.isClash = false := by
  rw [isClash]
  generalize report.code = code at hcode
  revert code
  decide

theorem Diagnostic.isOwn_of_mem {report : Diagnostic}
    (hcode : report.code ∈ Candidate.fieldCodes) : report.isOwn = true := by
  rw [isOwn, not_isClash_of_mem hcode]
  generalize report.code = code at hcode
  revert code
  decide

theorem Candidate.code_of_mem_reports {candidate : Candidate} {model : ProgramModel}
    {reserved : List String} {problems : List BindingProblem}
    (hfield : candidate.field model reserved = .error problems) {report : Diagnostic}
    (hmem : report ∈ candidate.reports problems) : report.code ∈ fieldCodes := by
  obtain ⟨problem, hproblem, rfl⟩ := List.mem_map.mp hmem
  exact code_of_field_error hfield hproblem

/-- How the fields of a host grow from `kept` to `final` when its candidates are visited, and what is
reported on the way. -/
inductive HostVisits (model : ProgramModel) (reserved : List String) (host : String) :
    List FieldBinding → List Candidate → List FieldBinding → List Diagnostic → Prop
  | done (kept : List FieldBinding) : HostVisits model reserved host kept [] kept []
  | unfit {kept final : List FieldBinding} {candidate : Candidate} {candidates : List Candidate}
      {problems : List BindingProblem} {reports : List Diagnostic}
      (hfield : candidate.field model reserved = .error problems)
      (hrest : HostVisits model reserved host kept candidates final reports) :
      HostVisits model reserved host kept (candidate :: candidates) final
        (candidate.reports problems ++ reports)
  | keep {kept final : List FieldBinding} {candidate : Candidate} {candidates : List Candidate}
      {offer : FieldBinding} {reports : List Diagnostic}
      (hfield : candidate.field model reserved = .ok offer) (hfree : offer.IsFreeIn kept)
      (hrest : HostVisits model reserved host (kept ++ [offer]) candidates final reports) :
      HostVisits model reserved host kept (candidate :: candidates) final reports
  | refuse {kept final : List FieldBinding} {candidate : Candidate} {candidates : List Candidate}
      {offer : FieldBinding} {problem : BindingProblem} {reports : List Diagnostic}
      (hfield : candidate.field model reserved = .ok offer)
      (hrefusal : Refusal host kept offer problem)
      (hrest : HostVisits model reserved host kept candidates final reports) :
      HostVisits model reserved host kept (candidate :: candidates) final
        (problem.report host (some offer.name) :: reports)

theorem Candidate.name_of_field_ok {candidate : Candidate} {model : ProgramModel}
    {reserved : List String} {offer : FieldBinding}
    (hfield : candidate.field model reserved = .ok offer) : offer.name = candidate.element.name := by
  unfold field at hfield
  split at hfield
  · cases hfield
  · split at hfield
    · split at hfield
      · cases hfield
        rfl
      · cases hfield
    · cases hfield

theorem exists_hostVisits (model : ProgramModel) (reserved : List String)
    {host : String} (candidates : List Candidate) (scan : Scan)
    (hhost : ∀ candidate ∈ candidates, candidate.host = host) :
    ∃ reports,
      HostVisits model reserved host (scan.fieldsOf host) candidates
        ((candidates.foldl (Scan.visit model reserved) scan).fieldsOf host) reports ∧
      reportsOn (candidates.foldl (Scan.visit model reserved) scan).diagnostics host =
        reportsOn scan.diagnostics host ++ reports := by
  induction candidates generalizing scan with
  | nil => exact ⟨[], .done _, (List.append_nil _).symm⟩
  | cons candidate candidates ih =>
      -- The scan that the first visit leaves is the one that the others start from.
      have hfirst : candidate.host = host := hhost candidate List.mem_cons_self
      obtain ⟨reports, hvisits, hreports⟩ := ih (scan.visit model reserved candidate)
        fun other hmem => hhost other (List.mem_cons_of_mem candidate hmem)
      subst hfirst
      rw [List.foldl_cons, hreports]
      cases hfield : candidate.field model reserved with
      | error problems =>
          rw [Scan.visit_of_error hfield] at hvisits ⊢
          refine ⟨candidate.reports problems ++ reports, .unfit hfield hvisits, ?_⟩
          rw [Scan.reportsOn_report_self, List.append_assoc]
      | ok offer =>
          cases hclash : Candidate.clash? candidate.host (scan.fieldsOf candidate.host) offer with
          | none =>
              rw [Scan.visit_of_no_clash hfield hclash, Scan.fieldsOf_bind_self] at hvisits
              rw [Scan.visit_of_no_clash hfield hclash]
              exact ⟨reports, .keep hfield (Candidate.clash?_eq_none_iff.mp hclash) hvisits, rfl⟩
          | some problem =>
              rw [Scan.visit_of_clash hfield hclash] at hvisits ⊢
              refine ⟨_, .refuse hfield (Candidate.refusal_of_clash? hclash) hvisits, ?_⟩
              rw [Scan.reportsOn_report_self, List.append_assoc,
                Candidate.name_of_field_ok hfield]
              rfl

/-- The visits to a host in the scan of a program. -/
theorem ProgramModel.hostVisits (model : ProgramModel) (reserved : List String) (host : String) :
    HostVisits model reserved host [] (model.candidatesOf host)
      ((model.scan reserved).fieldsOf host)
      (reportsOn (model.scan reserved).diagnostics host) := by
  have hagree := model.scan_agreeOn reserved host
  obtain ⟨reports, hvisits, hreports⟩ := exists_hostVisits model reserved
    (model.candidatesOf host) Scan.empty
    fun candidate hmem => (ProgramModel.enclosure_of_mem_candidatesOf hmem).1
  rw [hagree.fields_eq, hagree.reports_eq, hreports]
  exact hvisits

section

variable {model : ProgramModel} {reserved : List String} {host : String}

theorem HostVisits.final_eq {kept final : List FieldBinding} {candidates : List Candidate}
    {reports : List Diagnostic}
    (hvisits : HostVisits model reserved host kept candidates final reports) :
    final = keepFirst kept (candidates.filterMap (Candidate.ownField? model reserved)) := by
  induction hvisits with
  | done kept => rfl
  | unfit hfield hrest ih =>
      rw [ih, List.filterMap_cons_none (Candidate.ownField?_of_error hfield)]
  | keep hfield hfree hrest ih =>
      rw [ih, List.filterMap_cons_some (Candidate.ownField?_of_ok hfield),
        keepFirst_cons_of_free hfree]
  | refuse hfield hrefusal hrest ih =>
      rw [ih, List.filterMap_cons_some (Candidate.ownField?_of_ok hfield),
        keepFirst_cons_of_not_free hrefusal.not_free]

/-- The reports of clashes are the refusals. -/
theorem HostVisits.refusals {kept final : List FieldBinding} {candidates : List Candidate}
    {reports : List Diagnostic}
    (hvisits : HostVisits model reserved host kept candidates final reports) :
    Refusals host kept (candidates.filterMap (Candidate.ownField? model reserved))
      (reports.filter Diagnostic.isClash) := by
  induction hvisits with
  | done kept => exact .done kept
  | @unfit _ _ candidate _ problems _ hfield hrest ih =>
      have hnone : (candidate.reports problems).filter Diagnostic.isClash = [] := by
        rw [List.filter_eq_nil_iff]
        intro report hmem
        rw [Diagnostic.not_isClash_of_mem (Candidate.code_of_mem_reports hfield hmem)]
        exact Bool.false_ne_true
      rw [List.filterMap_cons_none (Candidate.ownField?_of_error hfield), List.filter_append,
        hnone, List.nil_append]
      exact ih
  | keep hfield hfree hrest ih =>
      rw [List.filterMap_cons_some (Candidate.ownField?_of_ok hfield)]
      exact .keep hfree ih
  | @refuse _ _ _ _ offer problem _ hfield hrefusal hrest ih =>
      have hclash : (problem.report host (some offer.name)).isClash = true := by
        cases hrefusal <;> rfl
      rw [List.filterMap_cons_some (Candidate.ownField?_of_ok hfield),
        List.filter_cons_of_pos hclash]
      exact .refuse hrefusal ih

/-- The other reports are of candidates that offer nothing. -/
theorem HostVisits.others {kept final : List FieldBinding} {candidates : List Candidate}
    {reports : List Diagnostic}
    (hvisits : HostVisits model reserved host kept candidates final reports) :
    reports.filter Diagnostic.isOwn =
      (candidates.filter fun candidate => (candidate.ownField? model reserved).isNone).flatMap
        fun candidate => candidate.reports (candidate.ownProblems model reserved) := by
  induction hvisits with
  | done kept => rfl
  | @unfit _ _ candidate _ problems _ hfield hrest ih =>
      have hall : (candidate.reports problems).filter Diagnostic.isOwn =
          candidate.reports problems := by
        rw [List.filter_eq_self]
        intro report hmem
        exact Diagnostic.isOwn_of_mem (Candidate.code_of_mem_reports hfield hmem)
      rw [List.filter_append, hall, ih, List.filter_cons_of_pos, List.flatMap_cons,
        Candidate.ownProblems_of_error hfield]
      rw [Candidate.ownField?_of_error hfield, Option.isNone_none]
  | keep hfield hfree hrest ih =>
      rw [ih, List.filter_cons_of_neg]
      rw [Candidate.ownField?_of_ok hfield, Option.isNone_some]
      exact Bool.false_ne_true
  | @refuse _ _ _ _ offer problem _ hfield hrefusal hrest ih =>
      have hclash : (problem.report host (some offer.name)).isOwn = false := by
        cases hrefusal <;> rfl
      rw [List.filter_cons_of_neg (by rw [hclash]; exact Bool.false_ne_true), ih,
        List.filter_cons_of_neg]
      rw [Candidate.ownField?_of_ok hfield, Option.isNone_some]
      exact Bool.false_ne_true

end

/-! ### The specification of a host -/

/-- The reports that refuse bindings of a type. -/
def Resolution.clashesOn (resolution : Resolution) (host : String) : List Diagnostic :=
  (reportsOn resolution.diagnostics host).filter Diagnostic.isClash

/-- The reports about fields of a type that refuse no binding. -/
def Resolution.ownReportsOn (resolution : Resolution) (host : String) : List Diagnostic :=
  (reportsOn resolution.diagnostics host).filter Diagnostic.isOwn

namespace ProgramModel

variable {model : ProgramModel} {reserved : List String} {name : String} {host : TypeDeclaration}

theorem filter_reportsOn_linked (model : ProgramModel) (reserved : List String) (name : String)
    {selects : Diagnostic → Bool}
    (hcycle : ∀ report : Diagnostic, report.code = .superclassCycle → selects report = false) :
    (reportsOn (model.linked reserved).diagnostics name).filter selects =
      (reportsOn (model.scan reserved).diagnostics name).filter selects := by
  rw [reportsOn, reportsOn, List.filter_filter, List.filter_filter]
  apply filter_linked
  intro report hcode
  rw [hcycle report hcode, Bool.false_and]

theorem fieldsOf_scan_eq (hhost : model.type? name = some host) :
    (model.scan reserved).fieldsOf name = keepFirst [] (model.offers reserved host) := by
  rw [(model.hostVisits reserved name).final_eq, filterMap_candidatesOf hhost]

theorem exists_spec_iff_offers (hhost : model.type? name = some host) :
    (∃ spec, (model.resolve reserved).specs.get? name = some spec) ↔
      model.offers reserved host ≠ [] := by
  rw [← keepFirst_nil_ne_nil_iff, ← fieldsOf_scan_eq hhost,
    (model.scan_consistent reserved).fieldsOf_ne_nil_iff, ← isBound_iff]
  constructor
  · rintro ⟨spec, hget⟩
    exact isBound_of_spec hget
  · exact exists_spec_of_isBound

theorem refusals_resolve (reserved : List String) (hhost : model.type? name = some host) :
    Refusals name [] (model.offers reserved host) ((model.resolve reserved).clashesOn name) := by
  have hrefusals := (model.hostVisits reserved name).refusals
  rw [filterMap_candidatesOf hhost] at hrefusals
  have hcycle : ∀ report : Diagnostic, report.code = .superclassCycle → report.isClash = false := by
    intro report hcode
    rw [Diagnostic.isClash, hcode]
    rfl
  rw [Resolution.clashesOn, resolve_eq, filter_reportsOn_linked model reserved name hcycle]
  exact hrefusals

theorem ownReportsOn_resolve (hhost : model.type? name = some host) :
    (model.resolve reserved).ownReportsOn name =
      ((model.candidatesOf name).filter fun candidate =>
          (candidate.element.offer? candidate.kind host reserved).isNone).flatMap
        fun candidate => candidate.reports (candidate.ownProblems model reserved) := by
  have hcycle : ∀ report : Diagnostic, report.code = .superclassCycle → report.isOwn = false := by
    intro report hcode
    rw [Diagnostic.isOwn, hcode, bne_self_eq_false, Bool.and_false]
  rw [Resolution.ownReportsOn, resolve_eq, filter_reportsOn_linked model reserved name hcycle,
    (model.hostVisits reserved name).others]
  congr 1
  apply List.filter_congr
  intro candidate hmem
  obtain ⟨rfl, henclosed⟩ := enclosure_of_mem_candidatesOf hmem
  rw [Candidate.ownField?_eq_offer? hhost henclosed]

end ProgramModel

/-- **The first offers stay.** A type has a specification exactly when some field offers it a binding.
Its fields are then the offers of which no earlier field has the key or the name; each offer that is
not kept is refused by one report, which cites the field that has its key or else the one that has its
name; and every other report about its fields is of a field that offers nothing by that annotation. -/
theorem first_offers_stay {model : ProgramModel} {reserved : List String} {name : String}
    {host : TypeDeclaration} (hhost : model.type? name = some host) :
    ((∃ spec, (model.resolve reserved).specs.get? name = some spec) ↔
      model.offers reserved host ≠ []) ∧
    (∀ spec, (model.resolve reserved).specs.get? name = some spec →
      spec.fields = keepFirst [] (model.offers reserved host) ∧
      spec.fields.Sublist (model.offers reserved host) ∧
      (spec.fields.map FieldBinding.key).Nodup ∧
      (spec.fields.map FieldBinding.name).Nodup ∧
      ∀ report ∈ (model.resolve reserved).clashesOn name,
        ∃ offer ∈ model.offers reserved host, ∃ before problem, before <+: spec.fields ∧
          Refusal name before offer problem ∧
          report = problem.report name (some offer.name)) ∧
    Refusals name [] (model.offers reserved host) ((model.resolve reserved).clashesOn name) ∧
    (model.resolve reserved).ownReportsOn name =
      ((model.candidatesOf name).filter fun candidate =>
          (candidate.element.offer? candidate.kind host reserved).isNone).flatMap
        fun candidate => candidate.reports (candidate.ownProblems model reserved) := by
  have hrefusals := ProgramModel.refusals_resolve reserved hhost
  refine ⟨ProgramModel.exists_spec_iff_offers hhost, ?_, hrefusals,
    ProgramModel.ownReportsOn_resolve hhost⟩
  intro spec hget
  have hfields : spec.fields = keepFirst [] (model.offers reserved host) := by
    rw [ProgramModel.linked_fields_eq hget, ProgramModel.fieldsOf_scan_eq hhost]
  have hdistinct : Distinct spec.fields := by
    rw [hfields]
    exact Distinct.keepFirst List.Pairwise.nil _
  refine ⟨hfields, ?_, hdistinct.nodup_keys, hdistinct.nodup_names, ?_⟩
  · rw [hfields]
    exact keepFirst_nil_sublist _
  · rw [hfields]
    exact hrefusals.exists_refusal

/-- Two fields with the same two annotations: each loses one of them and keeps the other. -/
def crossedFields : ProgramModel where
  types := [⟨"Login", .classType, [], none, []⟩]
  elements :=
    ["user", "token"].map fun name =>
      ⟨name, .primitive .int, [],
        [⟨"IntValue", some "number", none⟩, ⟨"StringValue", some "text", none⟩], .type "Login"⟩

theorem login_fields :
    crossedFields.type? "Login" = some ⟨"Login", .classType, [], none, []⟩ ∧
    ∃ spec, (crossedFields.resolve []).specs.get? "Login" = some spec ∧
      spec.fields.map (fun field => (field.name, field.key)) =
        [("user", "number"), ("token", "text")] := by
  have hhost : crossedFields.type? "Login" = some ⟨"Login", .classType, [], none, []⟩ := by decide
  obtain ⟨hspec, hfields, _⟩ := first_offers_stay hhost
  have hoffers : crossedFields.offers [] ⟨"Login", .classType, [], none, []⟩ ≠ [] := by decide
  obtain ⟨spec, hget⟩ := hspec.mpr hoffers
  refine ⟨hhost, spec, hget, ?_⟩
  rw [(hfields spec hget).1]
  decide

end BundleBinding
