import BundleBinding.Proofs.Ancestors
import BundleBinding.Proofs.LinkingSteps
import Mathlib.Data.List.Perm.Basic

/-!
# What linking keeps

Every host is finished or waits, and once. The hosts put back since the last one was finished are the
last of the queue, and each of them still waits for its parent; so when the host in front is to be
given up, all of the queue waits for some of the queue, and no chain of parents leads out of it. That
is why a host whose parents lead to a host without one is never given up.
-/

namespace BundleBinding

/-- Going from parent to parent, a search comes to a host without one. -/
inductive Rooted (search : String → ParentSearch) : String → Prop
  | top {host : String} (hsearch : search host = .absent) : Rooted search host
  | child {host parent : String} (hsearch : search host = .found parent)
      (hparent : Rooted search parent) : Rooted search host

theorem not_rooted_of_cyclic {search : String → ParentSearch} {host : String}
    (hsearch : search host = .cyclic) : ¬ Rooted search host := by
  intro hrooted
  cases hrooted with
  | top htop => rw [hsearch] at htop; cases htop
  | child hchild => rw [hsearch] at hchild; cases hchild

/-- Among hosts that all have their parents among themselves, none is rooted. -/
theorem not_rooted_of_closed {search : String → ParentSearch} {hosts : List String}
    (hclosed : ∀ host ∈ hosts, ∃ parent ∈ hosts, search host = .found parent) {host : String}
    (hmem : host ∈ hosts) : ¬ Rooted search host := by
  intro hrooted
  induction hrooted with
  | top htop =>
      obtain ⟨parent, _, hfound⟩ := hclosed _ hmem
      rw [htop] at hfound
      cases hfound
  | child hchild _ ih =>
      obtain ⟨parent, hparent, hfound⟩ := hclosed _ hmem
      rw [hchild] at hfound
      cases hfound
      exact ih hparent

namespace Linking

variable {search : String → ParentSearch} {drafts : Registry String BindingSpec}
  {reports : List Diagnostic} {linking next : Linking}

/-- The host has a parent that is not finished. -/
def WaitsForParent (search : String → ParentSearch) (linking : Linking) (host : String) : Prop :=
  ∃ parent, search host = .found parent ∧ linking.specs.get? parent = none

/-- How the parent of a finished host follows from the search. Only a host that is not rooted is cut
off from the parent it may have. -/
inductive ParentRule (search : String → ParentSearch) (specs : Registry String BindingSpec)
    (host : String) : Option BindingSpec → Prop
  | top (hsearch : search host = .absent) : ParentRule search specs host none
  | linked {parent : String} {spec : BindingSpec} (hsearch : search host = .found parent)
      (hparent : specs.get? parent = some spec) : ParentRule search specs host (some spec)
  | cut (hcut : ¬ Rooted search host) : ParentRule search specs host none

def IsCycleReport (report : Diagnostic) : Prop :=
  report.code = .superclassCycle

/-- What linking keeps, from the drafts and the reports that it starts with. -/
structure Consistent (search : String → ParentSearch) (drafts : Registry String BindingSpec)
    (reports : List Diagnostic) (linking : Linking) : Prop where
  keys_perm : (linking.specs.keys ++ linking.queue.map Prod.fst).Perm drafts.keys
  draft_of_mem_queue : ∀ host draft, (host, draft) ∈ linking.queue → drafts.get? host = some draft
  draft_of_spec : ∀ host spec, linking.specs.get? host = some spec →
    ∃ draft, drafts.get? host = some draft ∧ spec.host = draft.host ∧ spec.fields = draft.fields
  parents_first : ParentsFirst linking.specs.values
  parent_rule : ∀ host spec, linking.specs.get? host = some spec →
    ParentRule search linking.specs host spec.parent
  put_back : ∃ back, back <:+ linking.queue ∧ back.length = linking.stalled ∧
    ∀ waiting ∈ back, linking.WaitsForParent search waiting.1
  new_reports : ∃ cycles, linking.diagnostics = reports ++ cycles ∧
    ∀ report ∈ cycles, IsCycleReport report ∧ report.element = none ∧
      report.host ∈ drafts.keys ∧ ¬ Rooted search report.host
  rooted_or_reported : ∀ host ∈ linking.specs.keys,
    Rooted search host ∨ ∃ report ∈ linking.diagnostics, IsCycleReport report

theorem Consistent.start (hstart : linking = ⟨drafts.entries, Registry.empty, 0, reports⟩) :
    Consistent search drafts reports linking := by
  subst hstart
  refine ⟨.refl _, ?_, ?_, parentsFirst_nil, ?_, ⟨[], List.nil_suffix, rfl, ?_⟩,
    ⟨[], ?_, ?_⟩, ?_⟩
  · exact fun host draft hmem => Registry.get?_eq_some_iff.mpr hmem
  all_goals simp

theorem Consistent.nodup_keys (hlinking : Consistent search drafts reports linking) :
    (linking.specs.keys ++ linking.queue.map Prod.fst).Nodup :=
  hlinking.keys_perm.nodup_iff.mpr drafts.nodup

theorem Consistent.not_finished (hlinking : Consistent search drafts reports linking)
    {host : String} {draft : BindingSpec} {rest : List Waiting}
    (hqueue : linking.queue = (host, draft) :: rest) : host ∉ linking.specs.keys := by
  intro hmem
  have hdisjoint := (List.nodup_append.mp hlinking.nodup_keys).2.2
  exact hdisjoint host hmem host (by simp [hqueue]) rfl

theorem Finishes.content {host : String} {draft spec : BindingSpec} {behind : Nat}
    {problem : Option BindingProblem}
    (hspec : Finishes search linking host draft behind spec problem) :
    spec.host = draft.host ∧ spec.fields = draft.fields := by
  cases hspec <;> exact ⟨rfl, rfl⟩

/-- When a host is to be given up, the whole queue waits for parents in the queue. -/
theorem Consistent.queue_closed (hlinking : Consistent search drafts reports linking)
    (hfound : ∀ host parent, search host = .found parent → parent ∈ drafts.keys)
    {host parent : String} {draft : BindingSpec} {rest : List Waiting}
    (hqueue : linking.queue = (host, draft) :: rest) (hsearch : search host = .found parent)
    (hparent : linking.specs.get? parent = none) (hstalled : rest.length ≤ linking.stalled) :
    ∀ waiting ∈ linking.queue.map Prod.fst,
      ∃ parent ∈ linking.queue.map Prod.fst, search waiting = .found parent := by
  obtain ⟨back, hsuffix, hlength, hback⟩ := hlinking.put_back
  have hrest : rest <:+ back := by
    rw [hqueue] at hsuffix
    exact List.suffix_of_suffix_length_le (List.suffix_cons _ _) hsuffix (hlength ▸ hstalled)
  have hwaits : ∀ waiting ∈ linking.queue, linking.WaitsForParent search waiting.1 := by
    intro waiting hmem
    rw [hqueue] at hmem
    rcases List.mem_cons.mp hmem with rfl | hmem
    · exact ⟨parent, hsearch, hparent⟩
    · exact hback waiting (hrest.subset hmem)
  intro waiting hmem
  obtain ⟨entry, hentry, rfl⟩ := List.mem_map.mp hmem
  obtain ⟨awaited, hawaited, hnone⟩ := hwaits entry hentry
  refine ⟨awaited, ?_, hawaited⟩
  have hkey := hlinking.keys_perm.mem_iff.mpr (hfound _ _ hawaited)
  exact (List.mem_append.mp hkey).resolve_left (Registry.get?_eq_none_iff.mp hnone)

/-- A host that is reported is not rooted. -/
theorem Consistent.not_rooted_of_problem (hlinking : Consistent search drafts reports linking)
    (hfound : ∀ host parent, search host = .found parent → parent ∈ drafts.keys)
    {host : String} {draft spec : BindingSpec} {rest : List Waiting} {problem : BindingProblem}
    (hqueue : linking.queue = (host, draft) :: rest)
    (hspec : Finishes search linking host draft rest.length spec (some problem)) :
    problem.code = .superclassCycle ∧ ¬ Rooted search host := by
  cases hspec with
  | looped hsearch => exact ⟨rfl, not_rooted_of_cyclic hsearch⟩
  | stuck hsearch hparent hstalled =>
      refine ⟨rfl, not_rooted_of_closed
        (hlinking.queue_closed hfound hqueue hsearch hparent hstalled) ?_⟩
      rw [hqueue]
      exact List.mem_cons_self

theorem Step.put_back (hlinking : Consistent search drafts reports linking)
    (hstep : Step search linking next) :
    ∃ back, back <:+ next.queue ∧ back.length = next.stalled ∧
      ∀ waiting ∈ back, next.WaitsForParent search waiting.1 := by
  cases hstep with
  | finish => exact ⟨[], List.nil_suffix, rfl, by simp⟩
  | @putBack host parent draft rest hqueue hsearch hparent hstalled =>
      obtain ⟨back, hsuffix, hlength, hback⟩ := hlinking.put_back
      rw [hqueue] at hsuffix
      obtain ⟨fresh, hrest⟩ := List.suffix_of_suffix_length_le hsuffix
        (List.suffix_cons _ _) (hlength.trans_le hstalled.le)
      refine ⟨back ++ [(host, draft)], ⟨fresh, ?_⟩, ?_, ?_⟩
      · rw [← List.append_assoc, hrest, Linking.putBack]
      · rw [List.length_append, hlength, List.length_singleton, Linking.putBack]
      · intro waiting hmem
        rcases List.mem_append.mp hmem with hmem | hmem
        · exact hback waiting hmem
        · rw [List.mem_singleton.mp hmem]
          exact ⟨parent, hsearch, hparent⟩

/-- A finished host keeps its specification. -/
theorem Step.get?_specs (hlinking : Consistent search drafts reports linking)
    (hstep : Step search linking next) {host : String} {spec : BindingSpec}
    (hget : linking.specs.get? host = some spec) : next.specs.get? host = some spec := by
  cases hstep with
  | putBack => exact hget
  | @finish finished draft _ rest problem hqueue =>
      have hne : host ≠ finished := by
        rintro rfl
        exact hlinking.not_finished hqueue (Registry.mem_keys_iff.mpr ⟨spec, hget⟩)
      rw [Linking.finish, Registry.get?_insert_of_ne _ _ hne, hget]

theorem ParentRule.mono {host : String} {parent : Option BindingSpec}
    {specs later : Registry String BindingSpec}
    (hlater : ∀ host spec, specs.get? host = some spec → later.get? host = some spec)
    (hrule : ParentRule search specs host parent) : ParentRule search later host parent := by
  cases hrule with
  | top hsearch => exact .top hsearch
  | linked hsearch hparent => exact .linked hsearch (hlater _ _ hparent)
  | cut hcut => exact .cut hcut

/-- The parent that a host is finished with is the one that the search asks for. -/
theorem Consistent.parentRule_of_finishes (hlinking : Consistent search drafts reports linking)
    (hfound : ∀ host parent, search host = .found parent → parent ∈ drafts.keys)
    {host : String} {draft spec : BindingSpec} {rest : List Waiting}
    {problem : Option BindingProblem} (hqueue : linking.queue = (host, draft) :: rest)
    (hplain : draft.parent = none)
    (hspec : Finishes search linking host draft rest.length spec problem) :
    ParentRule search linking.specs host spec.parent := by
  cases problem with
  | some problem =>
      have hcut := (hlinking.not_rooted_of_problem hfound hqueue hspec).2
      cases hspec <;> exact hplain ▸ .cut hcut
  | none =>
      cases hspec with
      | top hsearch => exact hplain ▸ .top hsearch
      | linked hsearch hparent => exact .linked hsearch hparent

theorem Consistent.rooted_or_reported_of_finishes
    (hlinking : Consistent search drafts reports linking)
    (hfound : ∀ host parent, search host = .found parent → parent ∈ drafts.keys)
    {host : String} {draft spec : BindingSpec} {rest : List Waiting}
    {problem : Option BindingProblem} (hqueue : linking.queue = (host, draft) :: rest)
    (hspec : Finishes search linking host draft rest.length spec problem) :
    Rooted search host ∨
      ∃ report ∈ (linking.finish rest host spec problem).diagnostics, IsCycleReport report := by
  cases problem with
  | some problem =>
      right
      refine ⟨problem.report host none, ?_,
        (hlinking.not_rooted_of_problem hfound hqueue hspec).1⟩
      simp [finish]
  | none =>
      cases hspec with
      | top hsearch => exact .inl (.top hsearch)
      | linked hsearch hparent =>
          rcases hlinking.rooted_or_reported _ (Registry.mem_keys_iff.mpr ⟨_, hparent⟩) with
            hrooted | ⟨report, hmem, hcycle⟩
          · exact .inl (.child hsearch hrooted)
          · exact .inr ⟨report, List.mem_append_left _ hmem, hcycle⟩

theorem ParentRule.mem_values {host : String} {parent : BindingSpec}
    {specs : Registry String BindingSpec}
    (hrule : ParentRule search specs host (some parent)) : parent ∈ specs.values := by
  cases hrule with
  | linked _ hparent => exact Registry.mem_values_iff.mpr ⟨_, hparent⟩

theorem Consistent.new_reports_of_finishes (hlinking : Consistent search drafts reports linking)
    (hfound : ∀ host parent, search host = .found parent → parent ∈ drafts.keys)
    {host : String} {draft spec : BindingSpec} {rest : List Waiting}
    {problem : Option BindingProblem} (hqueue : linking.queue = (host, draft) :: rest)
    (hspec : Finishes search linking host draft rest.length spec problem) :
    ∃ cycles, (linking.finish rest host spec problem).diagnostics = reports ++ cycles ∧
      ∀ report ∈ cycles, IsCycleReport report ∧ report.element = none ∧
        report.host ∈ drafts.keys ∧ ¬ Rooted search report.host := by
  obtain ⟨cycles, hdiagnostics, hcycles⟩ := hlinking.new_reports
  refine ⟨cycles ++ (problem.map fun problem => problem.report host none).toList, ?_, ?_⟩
  · rw [Linking.finish, hdiagnostics, List.append_assoc]
  · intro report hmem
    rcases List.mem_append.mp hmem with hmem | hmem
    · exact hcycles report hmem
    · simp only [Option.mem_toList, Option.map_eq_some_iff] at hmem
      obtain ⟨problem, rfl, rfl⟩ := hmem
      obtain ⟨hcode, hcut⟩ := hlinking.not_rooted_of_problem hfound hqueue hspec
      have hdraft := hlinking.draft_of_mem_queue host draft (hqueue ▸ List.mem_cons_self)
      exact ⟨hcode, rfl, Registry.mem_keys_iff.mpr ⟨draft, hdraft⟩, hcut⟩

/-- A finished host is the new one or an old one with its old specification. -/
theorem get?_finish {host other : String} {spec found : BindingSpec} {rest : List Waiting}
    {problem : Option BindingProblem}
    (hget : (linking.finish rest host spec problem).specs.get? other = some found) :
    (other = host ∧ found = spec) ∨ linking.specs.get? other = some found := by
  rw [Linking.finish, Registry.get?_insert] at hget
  split at hget
  · next heq => exact .inl ⟨heq, (Option.some.inj hget).symm⟩
  · exact .inr hget

theorem Consistent.finish (hlinking : Consistent search drafts reports linking)
    (hfound : ∀ host parent, search host = .found parent → parent ∈ drafts.keys)
    (hplain : ∀ host draft, drafts.get? host = some draft → draft.parent = none)
    {host : String} {draft spec : BindingSpec} {rest : List Waiting}
    {problem : Option BindingProblem} (hqueue : linking.queue = (host, draft) :: rest)
    (hspec : Finishes search linking host draft rest.length spec problem) :
    Consistent search drafts reports (linking.finish rest host spec problem) := by
  have hstep : Step search linking (linking.finish rest host spec problem) :=
    .finish hqueue hspec
  have hnew := hlinking.not_finished hqueue
  have hdraft := hlinking.draft_of_mem_queue host draft (hqueue ▸ List.mem_cons_self)
  have hrule := hlinking.parentRule_of_finishes hfound hqueue (hplain host draft hdraft) hspec
  have hlater : ∀ host spec, linking.specs.get? host = some spec →
      (linking.finish rest _ _ problem).specs.get? host = some spec :=
    fun _ _ hget => hstep.get?_specs hlinking hget
  refine
    { keys_perm := ?_
      draft_of_mem_queue := ?_
      draft_of_spec := ?_
      parents_first := ?_
      parent_rule := ?_
      put_back := hstep.put_back hlinking
      new_reports := hlinking.new_reports_of_finishes hfound hqueue hspec
      rooted_or_reported := ?_ }
  · have hperm := hlinking.keys_perm
    rw [hqueue, List.map_cons] at hperm
    rw [Linking.finish, Registry.keys_insert_of_not_mem _ _ hnew, List.append_assoc]
    exact hperm
  · intro other waiting hmem
    exact hlinking.draft_of_mem_queue other waiting (hqueue ▸ List.mem_cons_of_mem _ hmem)
  · intro other found hget
    rcases get?_finish hget with ⟨rfl, rfl⟩ | hget
    · exact ⟨draft, hdraft, hspec.content⟩
    · exact hlinking.draft_of_spec other found hget
  · rw [Linking.finish, Registry.values_insert_of_not_mem _ _ hnew]
    refine hlinking.parents_first.concat fun parent hparent => ?_
    exact (hparent ▸ hrule).mem_values
  · intro other found hget
    rcases get?_finish hget with ⟨rfl, rfl⟩ | hget
    · exact hrule.mono hlater
    · exact (hlinking.parent_rule other found hget).mono hlater
  · intro other hmem
    rw [Linking.finish, Registry.keys_insert_of_not_mem _ _ hnew] at hmem
    rcases List.mem_append.mp hmem with hmem | hmem
    · refine (hlinking.rooted_or_reported other hmem).imp_right ?_
      rintro ⟨report, hreport, hcycle⟩
      exact ⟨report, List.mem_append_left _ hreport, hcycle⟩
    · rw [List.mem_singleton.mp hmem]
      exact hlinking.rooted_or_reported_of_finishes hfound hqueue hspec

theorem Consistent.step (hlinking : Consistent search drafts reports linking)
    (hfound : ∀ host parent, search host = .found parent → parent ∈ drafts.keys)
    (hplain : ∀ host draft, drafts.get? host = some draft → draft.parent = none)
    (hstep : Step search linking next) : Consistent search drafts reports next := by
  have hback := hstep.put_back hlinking
  cases hstep with
  | finish hqueue hspec => exact hlinking.finish hfound hplain hqueue hspec
  | @putBack host parent draft rest hqueue =>
      have hperm : (rest ++ [(host, draft)]).Perm linking.queue := by
        rw [hqueue]
        exact List.perm_append_singleton _ rest
      exact
        { keys_perm := ((hperm.map Prod.fst).append_left _).trans hlinking.keys_perm
          draft_of_mem_queue := fun other waiting hmem =>
            hlinking.draft_of_mem_queue other waiting (hperm.mem_iff.mp hmem)
          draft_of_spec := hlinking.draft_of_spec
          parents_first := hlinking.parents_first
          parent_rule := hlinking.parent_rule
          put_back := hback
          new_reports := hlinking.new_reports
          rooted_or_reported := hlinking.rooted_or_reported }

theorem Consistent.run (hlinking : Consistent search drafts reports linking)
    (hfound : ∀ host parent, search host = .found parent → parent ∈ drafts.keys)
    (hplain : ∀ host draft, drafts.get? host = some draft → draft.parent = none) :
    Consistent search drafts reports (linking.run search) :=
  run_induction linking hlinking fun _ _ hstep hconsistent =>
    hconsistent.step hfound hplain hstep

end Linking

end BundleBinding
