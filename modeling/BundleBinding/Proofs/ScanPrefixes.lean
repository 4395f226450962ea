import BundleBinding.Proofs.HostScan
import BundleBinding.Proofs.NearestBound

/-!
# Prefixes of a scan

Linking takes its parents from the hosts that count as bound and its queue from the drafts. The two agree
after any number of visits, because a fresh draft has nothing that a binding could clash with. So a parent
that is waited for is a host that waits too or is finished, after any number of steps, and no specification
is without fields.
-/

namespace BundleBinding

theorem Candidate.field_of_verdict {candidate : Candidate} {model : ProgramModel}
    {reserved : List String} {bound : List FieldBinding} {field : FieldBinding}
    (hverdict : candidate.verdict model reserved bound = .ok field) :
    candidate.field model reserved = .ok field := by
  rw [verdict] at hverdict
  split at hverdict
  · cases hverdict
  · next hfield =>
      split at hverdict
      · cases hverdict
      · cases hverdict
        exact hfield

namespace Scan

variable {model : ProgramModel} {reserved : List String} {scan : Scan}

theorem visit_of_verdict_error {candidate : Candidate} {problems : List BindingProblem}
    (hverdict : candidate.verdict model reserved (scan.fieldsOf candidate.host) = .error problems) :
    scan.visit model reserved candidate = scan.report candidate problems := by
  rw [visit_eq, hverdict]

theorem visit_of_verdict_ok {candidate : Candidate} {field : FieldBinding}
    (hverdict : candidate.verdict model reserved (scan.fieldsOf candidate.host) = .ok field) :
    scan.visit model reserved candidate = scan.bind candidate.host field := by
  rw [visit_eq, hverdict]

/-- The candidates whose bindings join their hosts when all are visited in turn, with these bindings. -/
def joined (model : ProgramModel) (reserved : List String) (scan : Scan) :
    List Candidate → List (Candidate × FieldBinding)
  | [] => []
  | candidate :: candidates =>
      let later := (scan.visit model reserved candidate).joined model reserved candidates
      match candidate.verdict model reserved (scan.fieldsOf candidate.host) with
      | .ok field => (candidate, field) :: later
      | .error _ => later

theorem joined_cons_of_error {candidate : Candidate} {problems : List BindingProblem}
    (hverdict : candidate.verdict model reserved (scan.fieldsOf candidate.host) = .error problems)
    (candidates : List Candidate) :
    scan.joined model reserved (candidate :: candidates) =
      (scan.report candidate problems).joined model reserved candidates := by
  rw [joined, hverdict, visit_of_verdict_error hverdict]

theorem joined_cons_of_ok {candidate : Candidate} {field : FieldBinding}
    (hverdict : candidate.verdict model reserved (scan.fieldsOf candidate.host) = .ok field)
    (candidates : List Candidate) :
    scan.joined model reserved (candidate :: candidates) =
      (candidate, field) :: (scan.bind candidate.host field).joined model reserved candidates := by
  rw [joined, hverdict, visit_of_verdict_ok hverdict]

theorem joined_sublist (scan : Scan) (candidates : List Candidate) :
    ((scan.joined model reserved candidates).map Prod.fst).Sublist candidates := by
  induction candidates generalizing scan with
  | nil => exact List.Sublist.slnil
  | cons candidate candidates ih =>
      cases hverdict : candidate.verdict model reserved (scan.fieldsOf candidate.host) with
      | error problems =>
          rw [joined_cons_of_error hverdict]
          exact (ih _).cons candidate
      | ok field =>
          rw [joined_cons_of_ok hverdict]
          exact (ih _).cons_cons candidate

theorem field_of_mem_joined {candidates : List Candidate} {entry : Candidate × FieldBinding}
    (hmem : entry ∈ scan.joined model reserved candidates) :
    entry.1.field model reserved = .ok entry.2 := by
  induction candidates generalizing scan with
  | nil => cases hmem
  | cons candidate candidates ih =>
      cases hverdict : candidate.verdict model reserved (scan.fieldsOf candidate.host) with
      | error problems =>
          rw [joined_cons_of_error hverdict] at hmem
          exact ih hmem
      | ok field =>
          rw [joined_cons_of_ok hverdict] at hmem
          rcases List.mem_cons.mp hmem with rfl | hmem
          · exact Candidate.field_of_verdict hverdict
          · exact ih hmem

/-- Each host has the bindings that joined it, in the order of the visits. -/
theorem fieldsOf_foldl_visit (scan : Scan) (candidates : List Candidate) (host : String) :
    (candidates.foldl (Scan.visit model reserved) scan).fieldsOf host =
      scan.fieldsOf host ++
        ((scan.joined model reserved candidates).filter fun entry => entry.1.host == host).map
          Prod.snd := by
  induction candidates generalizing scan with
  | nil => exact (List.append_nil _).symm
  | cons candidate candidates ih =>
      cases hverdict : candidate.verdict model reserved (scan.fieldsOf candidate.host) with
      | error problems =>
          rw [List.foldl_cons, visit_of_verdict_error hverdict, joined_cons_of_error hverdict]
          exact ih _
      | ok field =>
          rw [List.foldl_cons, visit_of_verdict_ok hverdict, joined_cons_of_ok hverdict, ih]
          by_cases hhost : candidate.host = host
          · have hentry : (candidate.host == host) = true := beq_iff_eq.mpr hhost
            rw [List.filter_cons, if_pos hentry, List.map_cons, List.append_cons, ← hhost,
              fieldsOf_bind_self]
          · have hentry : ¬ (candidate.host == host) = true := mt beq_iff_eq.mp hhost
            rw [List.filter_cons, if_neg hentry, fieldsOf_bind_of_ne (Ne.symm hhost)]

/-- Drafts stand in the order in which the first binding joined each. -/
theorem keys_foldl_visit {earlier : List String} (hkeys : scan.drafts.keys = earlier.eraseDups)
    (candidates : List Candidate) :
    (candidates.foldl (Scan.visit model reserved) scan).drafts.keys =
      (earlier ++ (scan.joined model reserved candidates).map fun entry => entry.1.host).eraseDups := by
  induction candidates generalizing scan earlier with
  | nil => rwa [joined, List.map_nil, List.append_nil]
  | cons candidate candidates ih =>
      cases hverdict : candidate.verdict model reserved (scan.fieldsOf candidate.host) with
      | error problems =>
          rw [List.foldl_cons, visit_of_verdict_error hverdict, joined_cons_of_error hverdict]
          exact ih hkeys
      | ok field =>
          -- A further field of a host that is there leaves the keys as they are, and so does `eraseDups`.
          rw [List.foldl_cons, visit_of_verdict_ok hverdict, joined_cons_of_ok hverdict, List.map_cons,
            List.append_cons]
          exact ih (Registry.keys_insert_of_eraseDups hkeys _ _)

/-! ### Linking what a scan has found -/

theorem ne_of_search {host parent : String} (hfound : scan.search model host = .found parent) :
    parent ≠ host := by
  rw [search, ProgramModel.parentSearch] at hfound
  split at hfound
  · cases hfound
  · -- The climb has the host among the visited names from the start.
    rintro rfl
    exact ProgramModel.not_mem_visited_of_climb hfound (List.mem_singleton_self _)

end Scan

namespace Linking

variable {search : String → ParentSearch} {drafts : Registry String BindingSpec}
  {reports : List Diagnostic} {linking : Linking}

theorem Consistent.advance (hlinking : Consistent search drafts reports linking)
    (hfound : ∀ host parent, search host = .found parent → parent ∈ drafts.keys)
    (hplain : ∀ host draft, drafts.get? host = some draft → draft.parent = none) :
    Consistent search drafts reports (linking.advance search) := by
  unfold Linking.advance
  split
  · exact hlinking
  · next hqueue => exact hlinking.step hfound hplain (step_step hqueue)

theorem Consistent.iterate_advance (hlinking : Consistent search drafts reports linking)
    (hfound : ∀ host parent, search host = .found parent → parent ∈ drafts.keys)
    (hplain : ∀ host draft, drafts.get? host = some draft → draft.parent = none) (steps : Nat) :
    Consistent search drafts reports ((Linking.advance search)^[steps] linking) := by
  induction steps with
  | zero => exact hlinking
  | succ steps ih =>
      rw [Function.iterate_succ_apply']
      exact ih.advance hfound hplain

theorem Consistent.fields_ne_nil (hlinking : Consistent search drafts reports linking)
    (hdrafts : ∀ host draft, drafts.get? host = some draft → draft.fields ≠ []) {spec : BindingSpec}
    (hmem : spec ∈ linking.specs.values) : spec.fields ≠ [] := by
  obtain ⟨host, hget⟩ := Registry.mem_values_iff.mp hmem
  obtain ⟨draft, hdraft, -, hfields⟩ := hlinking.draft_of_spec host spec hget
  rw [hfields]
  exact hdrafts host draft hdraft

end Linking

namespace Scan

variable {scan : Scan} (model : ProgramModel)

/-- Linking after so many steps. -/
def linkingAfter (scan : Scan) (steps : Nat) : Linking :=
  (Linking.advance (scan.search model))^[steps] scan.linking

variable {model}

theorem Consistent.linkingAfter (hscan : scan.Consistent) (steps : Nat) :
    Linking.Consistent (scan.search model) scan.drafts scan.diagnostics
      (scan.linkingAfter model steps) :=
  Linking.Consistent.iterate_advance (.start rfl) (fun _ _ => hscan.mem_keys_of_search) hscan.parent_eq
    steps

theorem Consistent.queued_or_finished (hscan : scan.Consistent) {host parent : String}
    (hfound : scan.search model host = .found parent) (steps : Nat) :
    parent ∈ (scan.linkingAfter model steps).queue.map Prod.fst ∨
      parent ∈ (scan.linkingAfter model steps).specs.keys := by
  have hkey := hscan.mem_keys_of_search hfound
  have hperm := (@Consistent.linkingAfter scan model hscan steps).keys_perm
  exact (List.mem_append.mp (hperm.mem_iff.mpr hkey)).symm

end Scan

namespace ProgramModel

variable (model : ProgramModel) (reserved : List String)

/-- What a scan has found after so many visits. -/
def scanAfter (visits : Nat) : Scan :=
  (model.candidates.take visits).foldl (Scan.visit model reserved) Scan.empty

/-- The candidates whose bindings have joined their hosts by then, with these bindings. -/
def joinedAfter (visits : Nat) : List (Candidate × FieldBinding) :=
  Scan.empty.joined model reserved (model.candidates.take visits)

variable {model reserved}

theorem scanAfter_length : model.scanAfter reserved model.candidates.length = model.scan reserved := by
  rw [scanAfter, List.take_length, scan]

theorem scanAfter_consistent (visits : Nat) : (model.scanAfter reserved visits).Consistent :=
  Scan.consistent_empty.foldl_visit _

theorem fieldsOf_scanAfter (visits : Nat) (host : String) :
    (model.scanAfter reserved visits).fieldsOf host =
      ((model.joinedAfter reserved visits).filter fun entry => entry.1.host == host).map Prod.snd :=
  Scan.fieldsOf_foldl_visit Scan.empty _ host

theorem keys_scanAfter (visits : Nat) :
    (model.scanAfter reserved visits).drafts.keys =
      ((model.joinedAfter reserved visits).map fun entry => entry.1.host).eraseDups :=
  @Scan.keys_foldl_visit model reserved Scan.empty [] rfl _

theorem fields_ne_nil_of_mem_resolve {spec : BindingSpec}
    (hmem : spec ∈ (model.resolve reserved).specs.values) : spec.fields ≠ [] :=
  (model.linked_consistent reserved).fields_ne_nil (model.scan_consistent reserved).fields_ne_nil hmem

theorem mem_resolve_of_mem_ancestors {spec ancestor : BindingSpec}
    (hmem : spec ∈ (model.resolve reserved).specs.values) (hancestor : ancestor ∈ spec.ancestors) :
    ancestor ∈ (model.resolve reserved).specs.values := by
  obtain ⟨before, after, hsplit⟩ := List.append_of_mem hmem
  have hsub := (model.linked_wellFormed reserved).parents_first.reverse_ancestors_sublist hsplit
  rw [hsplit]
  exact List.mem_append_left _ (hsub.subset (List.mem_reverse.mpr hancestor))

end ProgramModel

/-- What a scan has found where these bindings have joined their hosts, in this order. -/
structure Scan.Follows (scan : Scan) (joined : List (Candidate × FieldBinding)) : Prop where
  mem_bound_iff : ∀ host, host ∈ scan.bound ↔ host ∈ scan.drafts.keys
  keys_eq : scan.drafts.keys = (joined.map fun entry => entry.1.host).eraseDups
  host_eq : ∀ host draft, scan.drafts.get? host = some draft → draft.host = host
  fields_eq : ∀ host draft, scan.drafts.get? host = some draft →
    draft.fields = (joined.filter fun entry => entry.1.host == host).map Prod.snd
  fields_ne_nil : ∀ host draft, scan.drafts.get? host = some draft → draft.fields ≠ []

theorem ProgramModel.scanAfter_follows (model : ProgramModel) (reserved : List String) (visits : Nat) :
    (model.scanAfter reserved visits).Follows (model.joinedAfter reserved visits) := by
  have hscan : (model.scanAfter reserved visits).Consistent := scanAfter_consistent visits
  refine
    { mem_bound_iff := hscan.mem_bound_iff
      keys_eq := keys_scanAfter visits
      host_eq := hscan.host_eq
      fields_eq := ?_
      fields_ne_nil := hscan.fields_ne_nil }
  intro host draft hget
  rw [← fieldsOf_scanAfter, Scan.fieldsOf, Scan.draftOf_of_get? hget]

/-- **Linking can rest on the scan.** After any number of visits the hosts that count as bound are those with
a draft; each draft is kept under its host and has the fields that joined it, at least one, and the drafts
stand in the order in which these joined first. So in linking what was found by then, after any number of
steps, a parent that the search gives for a host is another host that is queued or finished. No
specification without fields comes of it, and none is among the ancestors of another. -/
theorem scan_prefixes_in_order (model : ProgramModel) (reserved : List String) :
    (∀ visits, (model.scanAfter reserved visits).Follows (model.joinedAfter reserved visits) ∧
      ((model.joinedAfter reserved visits).map Prod.fst).Sublist (model.candidates.take visits) ∧
      (∀ entry ∈ model.joinedAfter reserved visits, entry.1.field model reserved = .ok entry.2) ∧
      (∀ host parent, (model.scanAfter reserved visits).search model host = .found parent →
        parent ≠ host ∧ ∀ steps,
          parent ∈ ((model.scanAfter reserved visits).linkingAfter model steps).queue.map Prod.fst ∨
            parent ∈ ((model.scanAfter reserved visits).linkingAfter model steps).specs.keys) ∧
      ∀ steps, ∀ spec ∈ ((model.scanAfter reserved visits).linkingAfter model steps).specs.values,
        spec.fields ≠ []) ∧
    model.scanAfter reserved model.candidates.length = model.scan reserved ∧
    ∀ spec ∈ (model.resolve reserved).specs.values,
      spec.fields ≠ [] ∧ ∀ ancestor ∈ spec.ancestors, ancestor.fields ≠ [] := by
  refine ⟨fun visits => ?_, model.scanAfter_length, fun spec hmem => ⟨?_, fun ancestor hancestor => ?_⟩⟩
  · have hscan : (model.scanAfter reserved visits).Consistent := ProgramModel.scanAfter_consistent visits
    refine ⟨model.scanAfter_follows reserved visits, Scan.joined_sublist _ _,
      fun _ => Scan.field_of_mem_joined, fun host parent hfound => ⟨Scan.ne_of_search hfound, ?_⟩, ?_⟩
    · exact hscan.queued_or_finished hfound
    · exact fun steps spec hmem => (hscan.linkingAfter steps).fields_ne_nil hscan.fields_ne_nil hmem
  · exact ProgramModel.fields_ne_nil_of_mem_resolve hmem
  · exact ProgramModel.fields_ne_nil_of_mem_resolve
      (ProgramModel.mem_resolve_of_mem_ancestors hmem hancestor)

end BundleBinding
