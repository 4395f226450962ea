import BundleBinding.Proofs.ScanDrafts

/-!
# One host of a scan

A visit reads and writes only what the scan holds about the host of its candidate. So what is found
about a host comes from the candidates of that host alone, whatever was visited between them.
-/

namespace BundleBinding

/-- The reports about a type and its fields. -/
def reportsOn (diagnostics : List Diagnostic) (host : String) : List Diagnostic :=
  diagnostics.filter fun report => report.host == host

theorem reportsOn_append (first second : List Diagnostic) (host : String) :
    reportsOn (first ++ second) host = reportsOn first host ++ reportsOn second host :=
  List.filter_append first second

theorem reportsOn_of_forall_eq {diagnostics : List Diagnostic} {host : String}
    (hhost : ∀ report ∈ diagnostics, report.host = host) :
    reportsOn diagnostics host = diagnostics := by
  rw [reportsOn, List.filter_eq_self]
  intro report hmem
  rw [hhost report hmem, beq_self_eq_true]

theorem reportsOn_of_forall_ne {diagnostics : List Diagnostic} {host : String}
    (hhost : ∀ report ∈ diagnostics, report.host ≠ host) : reportsOn diagnostics host = [] := by
  rw [reportsOn, List.filter_eq_nil_iff]
  intro report hmem heq
  exact hhost report hmem (beq_iff_eq.mp heq)

/-- The visits of a scan that concern one host. -/
def ProgramModel.candidatesOf (model : ProgramModel) (host : String) : List Candidate :=
  model.candidates.filter fun candidate => candidate.host == host

/-- The reports of a candidate's problems. -/
def Candidate.reports (candidate : Candidate) (problems : List BindingProblem) :
    List Diagnostic :=
  problems.map fun problem => problem.report candidate.host (some candidate.element.name)

theorem Candidate.host_of_mem_reports {candidate : Candidate} {problems : List BindingProblem}
    {report : Diagnostic} (hmem : report ∈ candidate.reports problems) :
    report.host = candidate.host := by
  obtain ⟨problem, _, rfl⟩ := List.mem_map.mp hmem
  rfl

namespace Scan

variable {model : ProgramModel} {reserved : List String} {scan : Scan} {host : String}

theorem fieldsOf_bind_self (scan : Scan) (host : String) (field : FieldBinding) :
    (scan.bind host field).fieldsOf host = scan.fieldsOf host ++ [field] := by
  rw [fieldsOf, draftOf, bind, Registry.get?_insert_self, Option.getD_some]
  rfl

theorem fieldsOf_bind_of_ne {bound : String} (hne : host ≠ bound) (field : FieldBinding) :
    (scan.bind bound field).fieldsOf host = scan.fieldsOf host := by
  rw [fieldsOf, draftOf, bind, Registry.get?_insert_of_ne _ _ hne]
  rfl

theorem reportsOn_report_self (scan : Scan) (candidate : Candidate)
    (problems : List BindingProblem) :
    reportsOn (scan.report candidate problems).diagnostics candidate.host =
      reportsOn scan.diagnostics candidate.host ++ candidate.reports problems := by
  have hreports : reportsOn (candidate.reports problems) candidate.host =
      candidate.reports problems :=
    reportsOn_of_forall_eq fun _ => Candidate.host_of_mem_reports
  calc reportsOn (scan.report candidate problems).diagnostics candidate.host
      = reportsOn scan.diagnostics candidate.host ++
          reportsOn (candidate.reports problems) candidate.host := reportsOn_append _ _ _
    _ = reportsOn scan.diagnostics candidate.host ++ candidate.reports problems := by
        rw [hreports]

theorem reportsOn_report_of_ne {candidate : Candidate} (hne : candidate.host ≠ host)
    (problems : List BindingProblem) :
    reportsOn (scan.report candidate problems).diagnostics host =
      reportsOn scan.diagnostics host := by
  have hreports : reportsOn (candidate.reports problems) host = [] := by
    apply reportsOn_of_forall_ne
    intro report hmem
    rw [Candidate.host_of_mem_reports hmem]
    exact hne
  calc reportsOn (scan.report candidate problems).diagnostics host
      = reportsOn scan.diagnostics host ++ reportsOn (candidate.reports problems) host :=
        reportsOn_append _ _ _
    _ = reportsOn scan.diagnostics host := by rw [hreports, List.append_nil]

/-- Two scans that have found the same about a host. -/
structure AgreeOn (host : String) (first second : Scan) : Prop where
  fields_eq : first.fieldsOf host = second.fieldsOf host
  reports_eq : reportsOn first.diagnostics host = reportsOn second.diagnostics host

theorem AgreeOn.trans {first second third : Scan} (hleft : AgreeOn host first second)
    (hright : AgreeOn host second third) : AgreeOn host first third :=
  ⟨hleft.fields_eq.trans hright.fields_eq, hleft.reports_eq.trans hright.reports_eq⟩

theorem agreeOn_visit_of_ne {candidate : Candidate} (hne : candidate.host ≠ host) :
    AgreeOn host (scan.visit model reserved candidate) scan := by
  rw [visit_eq]
  cases candidate.verdict model reserved (scan.fieldsOf candidate.host) with
  | error problems => exact ⟨rfl, reportsOn_report_of_ne hne problems⟩
  | ok field => exact ⟨fieldsOf_bind_of_ne (Ne.symm hne) field, rfl⟩

theorem AgreeOn.visit {first second : Scan} {candidate : Candidate}
    (hagree : AgreeOn candidate.host first second) :
    AgreeOn candidate.host (first.visit model reserved candidate)
      (second.visit model reserved candidate) := by
  rw [visit_eq, visit_eq, hagree.fields_eq]
  cases candidate.verdict model reserved (second.fieldsOf candidate.host) with
  | error problems =>
      refine ⟨hagree.fields_eq, ?_⟩
      simp only [reportsOn_report_self, hagree.reports_eq]
  | ok field =>
      refine ⟨?_, hagree.reports_eq⟩
      simp only [fieldsOf_bind_self, hagree.fields_eq]

/-- Visits that concern other hosts can be left out. -/
theorem AgreeOn.foldl_visit_filter {first second : Scan} (hagree : AgreeOn host first second)
    (candidates : List Candidate) :
    AgreeOn host (candidates.foldl (Scan.visit model reserved) first)
      ((candidates.filter fun candidate => candidate.host == host).foldl
        (Scan.visit model reserved) second) := by
  induction candidates generalizing first second with
  | nil => exact hagree
  | cons candidate candidates ih =>
      by_cases hhost : candidate.host = host
      · rw [List.filter_cons_of_pos (by rwa [beq_iff_eq])]
        subst hhost
        exact ih hagree.visit
      · rw [List.filter_cons_of_neg (by rwa [beq_iff_eq])]
        exact ih ((agreeOn_visit_of_ne hhost).trans hagree)

end Scan

/-- The scan of a program agrees on a host with the scan of that host's candidates. -/
theorem ProgramModel.scan_agreeOn (model : ProgramModel) (reserved : List String) (host : String) :
    Scan.AgreeOn host (model.scan reserved)
      ((model.candidatesOf host).foldl (Scan.visit model reserved) Scan.empty) :=
  Scan.AgreeOn.foldl_visit_filter ⟨rfl, rfl⟩ model.candidates

end BundleBinding
