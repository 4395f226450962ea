import BundleBinding.Proofs.StalledQueues

/-!
# Reports of stalled queues

Which hosts linking gives up because all of the queue waits: one of each cycle of nearest bound superclasses,
and it may be that hosts below a cycle are given up before, since it is the host in front that is taken.
-/

namespace BundleBinding

open Relation (ReflTransGen TransGen)

namespace ProgramModel

variable {model : ProgramModel} {reserved : List String}

theorem awaits_linkSearch (model : ProgramModel) (reserved : List String) :
    Linking.Awaits (model.linkSearch reserved) = model.NearestBound reserved := by
  funext host parent
  exact propext linkSearch_eq_found_iff

theorem isFound_linkSearch_iff {host : String} :
    (model.linkSearch reserved host).isFound = true ↔
      ∃ parent, model.NearestBound reserved host parent := by
  simp only [← linkSearch_eq_found_iff]
  cases model.linkSearch reserved host <;> simp [ParentSearch.isFound]

instance (host : String) : Decidable (∃ parent, model.NearestBound reserved host parent) :=
  decidable_of_iff _ isFound_linkSearch_iff

/-- The reports of cycles against hosts with a nearest bound superclass. -/
def stallReports (model : ProgramModel) (reserved : List String) : List Diagnostic :=
  (model.resolve reserved).diagnostics.filter fun report =>
    decide (report.code = .superclassCycle) &&
      decide (∃ parent, model.NearestBound reserved report.host parent)

def givenUp (model : ProgramModel) (reserved : List String) : List String :=
  (model.stallReports reserved).map Diagnostic.host

theorem stallReports_eq (model : ProgramModel) (reserved : List String) :
    model.stallReports reserved =
      (model.linked reserved).stallReports (model.linkSearch reserved) := by
  rw [stallReports, Linking.stallReports, resolve_eq]
  simp only [← isFound_linkSearch_iff, Bool.decide_eq_true]
  rfl

theorem givenUp_eq (model : ProgramModel) (reserved : List String) :
    model.givenUp reserved = (model.linked reserved).givenUp (model.linkSearch reserved) := by
  rw [givenUp, stallReports_eq, Linking.givenUp]

theorem linked_stallsAtCycles (model : ProgramModel) (reserved : List String) :
    Linking.StallsAtCycles (model.linkSearch reserved) (model.linked reserved) := by
  have hscan := model.scan_consistent reserved
  have hstart : Linking.StallsAtCycles (model.linkSearch reserved) (model.scan reserved).linking :=
    .start rfl fun _ => code_ne_of_mem_scan
  exact hstart.run (.start rfl) (fun _ _ => isBound_of_linkSearch) hscan.parent_eq

theorem finished_of_onCycle {host : String}
    (hcycle : Linking.OnCycle (model.linkSearch reserved) host) :
    host ∈ (model.linked reserved).specs.keys := by
  obtain ⟨below, -, hawaits⟩ := TransGen.tail'_iff.mp hcycle
  exact (model.linked_keys_perm reserved).mem_iff.mpr (isBound_of_linkSearch hawaits)

/-- Where every bound host has a nearest bound superclass, linking begins by giving up the host that was found
last, whether it lies on a cycle or not. -/
theorem mem_givenUp_of_last {front : List String} {last : String}
    (hkeys : (model.scan reserved).drafts.keys = front ++ [last])
    (hall : ∀ host ∈ (model.scan reserved).drafts.keys, ∃ parent,
      model.NearestBound reserved host parent) : last ∈ model.givenUp reserved := by
  obtain ⟨parent, hparent⟩ := hall last (by simp [hkeys])
  have hsearch := linkSearch_eq_found_iff.mpr hparent
  obtain ⟨waiting, others, hentries, -, hlast⟩ := List.map_eq_append_iff.mp hkeys
  obtain ⟨⟨host, draft⟩, rfl, rfl⟩ := List.map_eq_singleton_iff.mp hlast
  have hwaits : ∀ entry ∈ waiting,
      (model.scan reserved).linking.WaitsForParent (model.linkSearch reserved) entry.1 := by
    intro entry hmem
    have hkey : entry.1 ∈ (model.scan reserved).drafts.keys := by
      rw [Registry.keys, hentries]
      exact List.mem_map_of_mem (List.mem_append_left _ hmem)
    obtain ⟨awaited, hawaited⟩ := hall entry.1 hkey
    exact ⟨awaited, linkSearch_eq_found_iff.mpr hawaited, rfl⟩
  have hrun := Linking.run_eq_of_waiting hentries rfl hwaits hsearch rfl
  have hreport : (BindingProblem.chainLoopsThrough host parent).report host none ∈
      (model.resolve reserved).diagnostics := by
    rw [resolve_eq, linked, hrun]
    apply Linking.mem_diagnostics_run
    exact List.mem_append_right _ List.mem_cons_self
  refine List.mem_map.mpr ⟨_, List.mem_filter.mpr ⟨hreport, ?_⟩, rfl⟩
  rw [Bool.and_eq_true, decide_eq_true_eq, decide_eq_true_eq]
  exact ⟨rfl, parent, hparent⟩

end ProgramModel

/-- **One host of each cycle is given up, and maybe some below.** A host is reported for a stalled queue only
if its nearest bound superclasses lead to a cycle. Each cycle has exactly one of its hosts reported, and hosts
below it only before this one. So there are as many reports as cycles if no host off the cycles is reported,
and more by the number of these hosts otherwise. -/
theorem stalled_hosts_lead_to_cycles (model : ProgramModel) (reserved : List String) :
    (∀ report ∈ model.stallReports reserved, ∃ parent,
      model.NearestBound reserved report.host parent ∧
        report = (BindingProblem.chainLoopsThrough report.host parent).report report.host none) ∧
    (∀ cycle ∈ cyclesOf (model.NearestBound reserved),
      ∃! host, host ∈ cycle ∧ host ∈ model.givenUp reserved) ∧
    (∀ host ∈ model.givenUp reserved, ∃ member,
      ReflTransGen (model.NearestBound reserved) host member ∧
        TransGen (model.NearestBound reserved) member member) ∧
    ((model.givenUp reserved).Pairwise fun earlier later =>
      ¬ ReflTransGen (model.NearestBound reserved) later earlier) ∧
    (model.givenUp reserved).length =
      (cyclesOf (model.NearestBound reserved)).encard +
        {host | host ∈ model.givenUp reserved ∧
          ¬ TransGen (model.NearestBound reserved) host host}.encard := by
  have hstalls := model.linked_stallsAtCycles reserved
  rw [model.stallReports_eq reserved, model.givenUp_eq reserved,
    ← model.awaits_linkSearch reserved]
  refine ⟨hstalls.reported, ?_, hstalls.leads, hstalls.ordered, ?_⟩
  · exact fun cycle => hstalls.existsUnique_givenUp fun host => ProgramModel.finished_of_onCycle
  · exact hstalls.length_givenUp fun host => ProgramModel.finished_of_onCycle

/-- Two classes that extend each other, found before a third one that extends one of them. -/
def branchBehindCycle : ProgramModel where
  types :=
    [⟨"Left", .classType, [], some "Right", []⟩, ⟨"Right", .classType, [], some "Left", []⟩,
     ⟨"Branch", .classType, [], some "Left", []⟩]
  elements :=
    ["Left", "Right", "Branch"].map fun host =>
      ⟨"count", .primitive .int, [], [⟨"IntValue", some host, none⟩], .type host⟩

theorem branch_given_up :
    "Branch" ∈ branchBehindCycle.givenUp [] ∧
      ¬ TransGen (branchBehindCycle.NearestBound []) "Branch" "Branch" := by
  have hleft : branchBehindCycle.NearestBound [] "Left" "Right" :=
    ⟨by decide, .found (by decide) (by decide)⟩
  have hright : branchBehindCycle.NearestBound [] "Right" "Left" :=
    ⟨by decide, .found (by decide) (by decide)⟩
  have hbranch : branchBehindCycle.NearestBound [] "Branch" "Left" :=
    ⟨by decide, .found (by decide) (by decide)⟩
  have hkeys : (branchBehindCycle.scan []).drafts.keys = ["Left", "Right"] ++ ["Branch"] := by
    decide
  constructor
  · apply ProgramModel.mem_givenUp_of_last hkeys
    simp only [hkeys, List.cons_append, List.nil_append, List.forall_mem_cons]
    exact ⟨⟨_, hleft⟩, ⟨_, hright⟩, ⟨_, hbranch⟩, List.forall_mem_nil _⟩
  · -- From the branch only the two classes of the cycle are reached.
    have hclosed : ∀ host ∈ ["Left", "Right"], ∃ parent ∈ ["Left", "Right"],
        branchBehindCycle.linkSearch [] host = .found parent := by
      simp only [ProgramModel.linkSearch_eq_found_iff, List.forall_mem_cons]
      exact ⟨⟨_, by decide, hleft⟩, ⟨_, by decide, hright⟩, List.forall_mem_nil _⟩
    intro hcycle
    obtain ⟨next, hnext, hreach⟩ := TransGen.head'_iff.mp hcycle
    rw [hnext.unique hbranch, ← ProgramModel.awaits_linkSearch] at hreach
    exact absurd (Linking.reachable_mem_of_closed hclosed (by decide) hreach) (by decide)

end BundleBinding
