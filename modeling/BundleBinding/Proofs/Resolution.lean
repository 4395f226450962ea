import BundleBinding.Proofs.LinkingInvariant
import BundleBinding.Proofs.ScanDrafts
import BundleBinding.Proofs.SuperclassChain

/-!
# Parents and cycles

What a resolution says about the superclasses of its hosts. A host whose chain ends has the first bound
type above it as its parent, whatever cycles there are elsewhere and in whichever order the hosts were
found. Cycles are reported for hosts whose chains come back on themselves and for no others, and a
resolution without such a report has none to report.
-/

namespace BundleBinding

/-- A search for parents leads to a host without one exactly where the superclass chain ends. -/
theorem ProgramModel.rooted_parentSearch_iff {model : ProgramModel} {isBound : String → Bool}
    {host : String} : Rooted (model.parentSearch isBound) host ↔ model.ChainEnds host := by
  constructor
  · intro hrooted
    induction hrooted with
    | @top host hsearch =>
        have hclimb := model.climbsTo_parentSearch isBound host
        exact (hsearch ▸ hclimb).chainEnds
    | @child host parent hsearch _ ih =>
        have hclimb := model.climbsTo_parentSearch isBound host
        exact ih.of_transGen (hsearch ▸ hclimb).transGen.2
  · rintro ⟨above, hchain⟩
    -- The chain above the parent is shorter than the chain above the host.
    induction hlength : above.length using Nat.strongRecOn generalizing host above with
    | ind length ih =>
        have hclimb := model.climbsTo_parentSearch isBound host
        have hsearch := hchain.parentSearch_eq isBound
        cases hfirst : above.find? isBound with
        | none =>
            rw [nearestBound, hfirst] at hsearch
            exact .top hsearch
        | some parent =>
            rw [nearestBound, hfirst] at hsearch
            obtain ⟨higher, hhigher, hlt⟩ :=
              hchain.shorter_of_transGen (hsearch ▸ hclimb).transGen.2
            exact .child hsearch (ih higher.length (hlength ▸ hlt) higher hhigher rfl)

namespace Scan

variable {model : ProgramModel} {scan : Scan}

/-- The search for parents among the hosts that count as bound. -/
def search (scan : Scan) (model : ProgramModel) : String → ParentSearch :=
  model.parentSearch scan.isBound

theorem Consistent.mem_keys_of_search (hscan : scan.Consistent) {host parent : String}
    (hfound : scan.search model host = .found parent) : parent ∈ scan.drafts.keys := by
  have hclimb := model.climbsTo_parentSearch scan.isBound host
  rw [search] at hfound
  exact hscan.isBound_iff.mp (hfound ▸ hclimb).transGen.1

end Scan

namespace ProgramModel

variable (model : ProgramModel) (reserved : List String)

/-- Some field of the host is bound when the scan is over. -/
def isBound (host : String) : Bool :=
  !((model.scan reserved).fieldsOf host).isEmpty

/-- The search for parents that the program is linked with. -/
def linkSearch : String → ParentSearch :=
  model.parentSearch (model.scan reserved).isBound

/-- The end of linking. -/
def linked : Linking :=
  (model.scan reserved).linking.run (model.linkSearch reserved)

variable {model reserved}

theorem isBound_iff {host : String} :
    model.isBound reserved host = true ↔ host ∈ (model.scan reserved).drafts.keys := by
  rw [← (model.scan_consistent reserved).fieldsOf_ne_nil_iff, isBound, Bool.not_eq_true',
    List.isEmpty_eq_false_iff]

theorem isBound_eq (model : ProgramModel) (reserved : List String) :
    (model.scan reserved).isBound = model.isBound reserved := by
  funext host
  rw [Bool.eq_iff_iff, (model.scan_consistent reserved).isBound_iff, isBound_iff]

theorem resolve_eq (model : ProgramModel) (reserved : List String) :
    model.resolve reserved =
      ⟨(model.linked reserved).specs, (model.linked reserved).diagnostics⟩ := rfl

theorem isBound_of_linkSearch {host parent : String}
    (hsearch : model.linkSearch reserved host = .found parent) :
    parent ∈ (model.scan reserved).drafts.keys :=
  (model.scan_consistent reserved).mem_keys_of_search hsearch

theorem linked_consistent (model : ProgramModel) (reserved : List String) :
    Linking.Consistent (model.linkSearch reserved) (model.scan reserved).drafts
      (model.scan reserved).diagnostics (model.linked reserved) :=
  Linking.Consistent.run (.start rfl) (fun _ _ => isBound_of_linkSearch)
    (model.scan_consistent reserved).parent_eq

/-- Apart from cycles, linking reports nothing. -/
theorem filter_linked (model : ProgramModel) (reserved : List String) {selects : Diagnostic → Bool}
    (hcycle : ∀ report : Diagnostic, report.code = .superclassCycle → selects report = false) :
    (model.linked reserved).diagnostics.filter selects =
      (model.scan reserved).diagnostics.filter selects := by
  obtain ⟨cycles, hdiagnostics, hcycles⟩ := (model.linked_consistent reserved).new_reports
  have hnone : cycles.filter selects = [] := by
    rw [List.filter_eq_nil_iff]
    intro report hmem
    rw [hcycle report (hcycles report hmem).1]
    exact Bool.false_ne_true
  rw [hdiagnostics, List.filter_append, hnone, List.append_nil]

theorem linked_keys_perm (model : ProgramModel) (reserved : List String) :
    (model.linked reserved).specs.keys.Perm (model.scan reserved).drafts.keys := by
  have hperm := (model.linked_consistent reserved).keys_perm
  rwa [linked, Linking.queue_run, List.map_nil, List.append_nil] at hperm

/-- Where no host extends a type of the program, the drafts are the specifications. -/
theorem specs_resolve_of_top
    (htop : ∀ host ∈ (model.scan reserved).drafts.keys, model.superclassOf? host = none) :
    (model.resolve reserved).specs = (model.scan reserved).drafts := by
  apply Registry.ext
  refine Linking.entries_run_of_absent ?_ (model.scan reserved).drafts.nodup
  intro waiting hmem
  have hchain : model.SuperclassChain waiting.1 [] :=
    .top (htop waiting.1 (List.mem_map_of_mem hmem))
  exact hchain.parentSearch_eq _

theorem exists_spec_of_isBound {host : String} (hbound : model.isBound reserved host = true) :
    ∃ spec, (model.linked reserved).specs.get? host = some spec :=
  Registry.mem_keys_iff.mp ((model.linked_keys_perm reserved).mem_iff.mpr (isBound_iff.mp hbound))

theorem isBound_of_spec {host : String} {spec : BindingSpec}
    (hget : (model.linked reserved).specs.get? host = some spec) :
    model.isBound reserved host = true :=
  isBound_iff.mpr
    ((model.linked_keys_perm reserved).mem_iff.mp (Registry.mem_keys_iff.mpr ⟨spec, hget⟩))

theorem linked_host_eq {host : String} {spec : BindingSpec}
    (hget : (model.linked reserved).specs.get? host = some spec) : spec.host = host := by
  obtain ⟨draft, hdraft, hhost, _⟩ := (model.linked_consistent reserved).draft_of_spec host spec hget
  rw [hhost, (model.scan_consistent reserved).host_eq host draft hdraft]

theorem linked_fields_eq {host : String} {spec : BindingSpec}
    (hget : (model.linked reserved).specs.get? host = some spec) :
    spec.fields = (model.scan reserved).fieldsOf host := by
  obtain ⟨draft, hdraft, _, hfields⟩ :=
    (model.linked_consistent reserved).draft_of_spec host spec hget
  rw [hfields, Scan.fieldsOf, Scan.draftOf_of_get? hdraft]

theorem linked_parent_eq {host : String} {above : List String} {spec : BindingSpec}
    (hchain : model.SuperclassChain host above)
    (hget : (model.linked reserved).specs.get? host = some spec) :
    spec.parent =
      (above.find? (model.isBound reserved)).bind (model.linked reserved).specs.get? := by
  have hsearch : model.linkSearch reserved host = nearestBound (model.isBound reserved) above := by
    rw [linkSearch, isBound_eq, hchain.parentSearch_eq]
  have hrooted : Rooted (model.linkSearch reserved) host :=
    rooted_parentSearch_iff.mpr ⟨above, hchain⟩
  have hrule := (model.linked_consistent reserved).parent_rule host spec hget
  rw [nearestBound] at hsearch
  generalize spec.parent = parent at hrule
  cases hfirst : above.find? (model.isBound reserved) with
  | none =>
      rw [hfirst] at hsearch
      cases hrule with
      | top => rfl
      | linked hfound => rw [hsearch] at hfound; cases hfound
      | cut hcut => exact absurd hrooted hcut
  | some nearest =>
      rw [hfirst] at hsearch
      cases hrule with
      | top habsent => rw [hsearch] at habsent; cases habsent
      | linked hfound hparent =>
          rw [hsearch] at hfound
          cases hfound
          exact hparent.symm
      | cut hcut => exact absurd hrooted hcut

theorem bound_of_cycle_report {report : Diagnostic}
    (hmem : report ∈ (model.linked reserved).diagnostics)
    (hcycle : report.code = .superclassCycle) :
    model.isBound reserved report.host = true ∧ ¬ model.ChainEnds report.host := by
  obtain ⟨cycles, hdiagnostics, hcycles⟩ := (model.linked_consistent reserved).new_reports
  rw [hdiagnostics] at hmem
  rcases List.mem_append.mp hmem with hmem | hmem
  · exact absurd hcycle (code_ne_of_mem_scan hmem)
  · obtain ⟨_, _, hhost, hcut⟩ := hcycles report hmem
    exact ⟨isBound_iff.mpr hhost, fun hends => hcut (rooted_parentSearch_iff.mpr hends)⟩

theorem chainEnds_or_reported {host : String} (hbound : model.isBound reserved host = true) :
    model.ChainEnds host ∨
      ∃ report ∈ (model.linked reserved).diagnostics, report.code = .superclassCycle := by
  have hkey := (model.linked_keys_perm reserved).mem_iff.mpr (isBound_iff.mp hbound)
  exact ((model.linked_consistent reserved).rooted_or_reported host hkey).imp_left
    rooted_parentSearch_iff.mp

theorem linked_nodup_hosts (model : ProgramModel) (reserved : List String) :
    ((model.linked reserved).specs.values.map BindingSpec.host).Nodup := by
  have hhosts : (model.linked reserved).specs.values.map BindingSpec.host =
      (model.linked reserved).specs.keys := by
    rw [Registry.values, Registry.keys, List.map_map]
    apply List.map_congr_left
    intro entry hentry
    exact linked_host_eq (Registry.get?_eq_some_iff.mpr hentry)
  rw [hhosts]
  exact (model.linked reserved).specs.nodup

theorem get?_host_of_mem_values {spec : BindingSpec}
    (hmem : spec ∈ (model.linked reserved).specs.values) :
    (model.linked reserved).specs.get? spec.host = some spec := by
  obtain ⟨host, hget⟩ := Registry.mem_values_iff.mp hmem
  rw [linked_host_eq hget, hget]

end ProgramModel

/-! ### What a resolution says -/

/-- **The nearest bound superclass is the parent.** Where the chain above a bound host ends, the host
gets the specification of the first bound type of the chain as its parent, or none if there is no such
type, and no cycle is reported against it. -/
theorem parent_eq_nearest_bound {model : ProgramModel} {reserved : List String} {host : String}
    {above : List String} (hbound : model.isBound reserved host = true)
    (hchain : model.SuperclassChain host above) :
    ∃ spec, (model.resolve reserved).specs.get? host = some spec ∧
      (∀ parent, above.find? (model.isBound reserved) = some parent →
        ∃ parentSpec, (model.resolve reserved).specs.get? parent = some parentSpec ∧
          spec.parent = some parentSpec) ∧
      (above.find? (model.isBound reserved) = none → spec.parent = none) ∧
      ∀ report ∈ (model.resolve reserved).diagnostics,
        report.code = .superclassCycle → report.host ≠ host := by
  obtain ⟨spec, hget⟩ := ProgramModel.exists_spec_of_isBound hbound
  have hparent := ProgramModel.linked_parent_eq hchain hget
  refine ⟨spec, hget, ?_, ?_, ?_⟩
  · intro parent hfirst
    obtain ⟨parentSpec, hparentSpec⟩ :=
      ProgramModel.exists_spec_of_isBound (List.find?_some hfirst)
    refine ⟨parentSpec, hparentSpec, ?_⟩
    rw [hparent, hfirst, Option.bind_some, hparentSpec]
  · intro hfirst
    rw [hparent, hfirst, Option.bind_none]
  · rintro report hmem hcycle rfl
    exact (ProgramModel.bound_of_cycle_report hmem hcycle).2 ⟨above, hchain⟩

/-- A chain that ends outside the program, beside two classes that extend each other. -/
def chainBesideCycle : ProgramModel where
  types :=
    [⟨"Leaf", .classType, [], some "Middle", []⟩, ⟨"Middle", .classType, [], some "Root", []⟩,
     ⟨"Root", .classType, [], some "Elsewhere", []⟩, ⟨"Left", .classType, [], some "Right", []⟩,
     ⟨"Right", .classType, [], some "Left", []⟩]
  elements :=
    ["Leaf", "Left", "Right", "Root"].map fun host =>
      ⟨"count", .primitive .int, [], [⟨"IntValue", some host, none⟩], .type host⟩

theorem leaf_parent_eq_root :
    chainBesideCycle.isBound [] "Leaf" = true ∧
    chainBesideCycle.SuperclassChain "Leaf" ["Middle", "Root"] ∧
    ∃ spec, (chainBesideCycle.resolve []).specs.get? "Leaf" = some spec ∧
      spec.parent.map BindingSpec.host = some "Root" := by
  have hbound : chainBesideCycle.isBound [] "Leaf" = true := by decide
  have hchain : chainBesideCycle.SuperclassChain "Leaf" ["Middle", "Root"] :=
    .step (by decide) (.step (by decide) (.top (by decide)))
  obtain ⟨spec, hget, hparent, _⟩ := parent_eq_nearest_bound hbound hchain
  obtain ⟨parent, hstored, hlinked⟩ := hparent "Root" (by decide)
  refine ⟨hbound, hchain, spec, hget, ?_⟩
  rw [hlinked, Option.map_some, ProgramModel.linked_host_eq hstored]

/-- **Cycle reports are sound and complete.** A cycle is reported only against a type whose chain comes
back on itself; if the chain of a bound host does, some cycle is reported; and so none is reported
exactly when the chains of all bound hosts end. -/
theorem cycle_reported_iff (model : ProgramModel) (reserved : List String) :
    (∀ report ∈ (model.resolve reserved).diagnostics,
      report.code = .superclassCycle → model.ChainRevisits report.host) ∧
    ((∃ host, model.isBound reserved host = true ∧ model.ChainRevisits host) →
      ∃ report ∈ (model.resolve reserved).diagnostics, report.code = .superclassCycle) ∧
    ((∀ report ∈ (model.resolve reserved).diagnostics, report.code ≠ .superclassCycle) ↔
      ∀ host, model.isBound reserved host = true → model.ChainEnds host) := by
  refine ⟨?_, ?_, ?_, ?_⟩
  · intro report hmem hcycle
    exact ProgramModel.not_chainEnds_iff.mp (ProgramModel.bound_of_cycle_report hmem hcycle).2
  · rintro ⟨host, hbound, hrevisits⟩
    refine (ProgramModel.chainEnds_or_reported hbound).resolve_left ?_
    exact ProgramModel.not_chainEnds_iff.mpr hrevisits
  · intro hnone host hbound
    refine (ProgramModel.chainEnds_or_reported hbound).resolve_right ?_
    rintro ⟨report, hmem, hcycle⟩
    exact hnone report hmem hcycle
  · intro hends report hmem hcycle
    obtain ⟨hbound, hcut⟩ := ProgramModel.bound_of_cycle_report hmem hcycle
    exact hcut (hends report.host hbound)

/-- A resolution that is in order, for the fields that a scan has bound. -/
structure Resolution.WellFormed (resolution : Resolution) (scan : Scan) : Prop where
  nodup_hosts : (resolution.specs.values.map BindingSpec.host).Nodup
  mem_hosts_iff : ∀ host,
    host ∈ resolution.specs.values.map BindingSpec.host ↔ scan.fieldsOf host ≠ []
  stored : ∀ spec ∈ resolution.specs.values, resolution.specs.get? spec.host = some spec
  fields_eq : ∀ spec ∈ resolution.specs.values, spec.fields = scan.fieldsOf spec.host
  parent_stored : ∀ spec ∈ resolution.specs.values, ∀ parent, spec.parent = some parent →
    resolution.specs.get? parent.host = some parent
  parents_first : ParentsFirst resolution.specs.values
  ancestors_finite : ∀ spec ∈ resolution.specs.values,
    spec.ancestors.length < resolution.specs.size
  nodup_ancestors : ∀ spec ∈ resolution.specs.values,
    (spec.host :: spec.ancestors.map BindingSpec.host).Nodup

theorem ProgramModel.linked_wellFormed (model : ProgramModel) (reserved : List String) :
    (model.resolve reserved).WellFormed (model.scan reserved) := by
  have hfirst : ParentsFirst (model.linked reserved).specs.values :=
    (model.linked_consistent reserved).parents_first
  have hnodup := model.linked_nodup_hosts reserved
  refine
    { nodup_hosts := hnodup
      mem_hosts_iff := ?_
      stored := fun spec hmem => get?_host_of_mem_values hmem
      fields_eq := fun spec hmem => linked_fields_eq (get?_host_of_mem_values hmem)
      parent_stored := ?_
      parents_first := hfirst
      ancestors_finite := ?_
      nodup_ancestors := fun spec hmem => hfirst.nodup_host_ancestors hnodup hmem }
  · intro host
    rw [(model.scan_consistent reserved).fieldsOf_ne_nil_iff, List.mem_map]
    constructor
    · rintro ⟨spec, hmem, rfl⟩
      exact isBound_iff.mp (isBound_of_spec (get?_host_of_mem_values hmem))
    · intro hkey
      obtain ⟨spec, hget⟩ := exists_spec_of_isBound (isBound_iff.mpr hkey)
      exact ⟨spec, Registry.mem_values_iff.mpr ⟨host, hget⟩, linked_host_eq hget⟩
  · intro spec hmem parent hparent
    obtain ⟨before, after, hsplit⟩ := List.append_of_mem hmem
    have hbefore := hfirst before spec after hsplit parent hparent
    have hmember : parent ∈ (model.linked reserved).specs.values :=
      hsplit ▸ List.mem_append_left _ hbefore
    exact get?_host_of_mem_values hmember
  · intro spec hmem
    have hlt := hfirst.length_ancestors_lt hmem
    rwa [Registry.values, List.length_map] at hlt

/-- **Every program resolves in order.** Linking comes to an empty queue, after at most one step for
every pair of bound hosts and one for every host; and then every bound host has one specification, with
the fields bound in it, behind that of its parent. -/
theorem resolve_wellFormed (model : ProgramModel) (reserved : List String) :
    (∃ steps ≤ Linking.stepBound (model.scan reserved).drafts.size, ∃ finished,
      (Linking.advance (model.linkSearch reserved))^[steps] (model.scan reserved).linking =
        finished ∧ finished.queue = [] ∧
      model.resolve reserved = ⟨finished.specs, finished.diagnostics⟩) ∧
    (model.resolve reserved).WellFormed (model.scan reserved) := by
  have hbelow : (model.scan reserved).linking.StallsBelow := .inl rfl
  obtain ⟨steps, hsteps, hrun⟩ :=
    Linking.exists_iterate_advance_eq_run (model.linkSearch reserved) hbelow
  refine ⟨⟨steps, hsteps, model.linked reserved, hrun, ?_, ?_⟩, model.linked_wellFormed reserved⟩
  · exact Linking.queue_run _ _
  · exact model.resolve_eq reserved

end BundleBinding
