import BundleBinding.Proofs.HostFields

/-!
# The order of discovery

What a resolution says about a type depends on the fields of that type, in their order, and on its
superclass chain. Where the chains end, it does not matter how the fields of several types come between
each other or between the parameters of methods.
-/

namespace BundleBinding

theorem BindingSpec.eq_of_parts_eq {left right : BindingSpec} (hhost : left.host = right.host)
    (hfields : left.fields = right.fields) (hparent : left.parent = right.parent) :
    left = right := by
  obtain ⟨_, _, _⟩ := left
  obtain ⟨_, _, _⟩ := right
  cases hhost
  cases hfields
  cases hparent
  rfl

namespace ProgramModel

/-- The fields of a type among the elements, in the order in which they were found. -/
def fieldsIn (model : ProgramModel) (host : String) : List Element :=
  model.elements.filter fun element => element.host? == some host

/-- Two programs that differ at most in how the fields of different types come between each other, and
in their parameters. -/
structure SameFields (first second : ProgramModel) : Prop where
  types_eq : first.type? = second.type?
  fields_eq : ∀ host, first.fieldsIn host = second.fieldsIn host

variable {first second model : ProgramModel} {reserved : List String}

/-! ### The scan -/

theorem filterMap_candidate?_fieldsIn (model : ProgramModel) (kind : Kind) (host : String) :
    (model.fieldsIn host).filterMap (fun element => element.candidate? kind host) =
      model.elements.filterMap fun element => element.candidate? kind host := by
  rw [fieldsIn, List.filterMap_filter]
  congr 1
  funext element
  rw [Element.candidate?, Element.host?]
  cases element.enclosure with
  | type owner => by_cases howner : owner = host <;> simp [howner]
  | method owner name => simp

theorem SameFields.candidatesOf_eq (hsame : first.SameFields second) (host : String) :
    first.candidatesOf host = second.candidatesOf host := by
  simp only [ProgramModel.candidatesOf_eq, ← filterMap_candidate?_fieldsIn, hsame.fields_eq]

theorem SameFields.visit_eq (hsame : first.SameFields second) :
    Scan.visit first reserved = Scan.visit second reserved := by
  funext scan candidate
  simp only [Scan.visit, Candidate.field, hsame.types_eq]

/-- The scans find the same about each type. -/
theorem SameFields.scan_agreeOn (hsame : first.SameFields second) (reserved : List String)
    (host : String) : Scan.AgreeOn host (first.scan reserved) (second.scan reserved) := by
  have hfirst := first.scan_agreeOn reserved host
  have hsecond := second.scan_agreeOn reserved host
  rw [hsame.candidatesOf_eq, hsame.visit_eq] at hfirst
  exact ⟨hfirst.fields_eq.trans hsecond.fields_eq.symm,
    hfirst.reports_eq.trans hsecond.reports_eq.symm⟩

theorem SameFields.isBound_eq (hsame : first.SameFields second) (reserved : List String) :
    first.isBound reserved = second.isBound reserved := by
  funext host
  rw [isBound, isBound, (hsame.scan_agreeOn reserved host).fields_eq]

end ProgramModel

/-- Lists of reports that say the same about each type hold the same reports. -/
theorem perm_of_reportsOn_eq {left right : List Diagnostic}
    (hreports : ∀ host, reportsOn left host = reportsOn right host) : left.Perm right := by
  rw [List.perm_iff_count]
  intro report
  have hcount : ∀ diagnostics : List Diagnostic,
      (reportsOn diagnostics report.host).count report = diagnostics.count report := by
    intro diagnostics
    rw [reportsOn, List.count_filter]
    exact beq_self_eq_true report.host
  rw [← hcount left, ← hcount right, hreports]

namespace ProgramModel

variable {first second model : ProgramModel} {reserved : List String}

/-! ### Linking -/

theorem SameFields.superclassOf?_eq (hsame : first.SameFields second) (name : String) :
    first.superclassOf? name = second.superclassOf? name := by
  have hsuper : first.superclass? = second.superclass? := by
    funext declaration
    rw [superclass?, superclass?, hsame.types_eq]
  rw [superclassOf?, superclassOf?, hsame.types_eq, hsuper]

theorem SameFields.superclassChain (hsame : first.SameFields second) {name : String}
    {above : List String} (hchain : first.SuperclassChain name above) :
    second.SuperclassChain name above := by
  induction hchain with
  | top htop => exact .top ((hsame.superclassOf?_eq _).symm.trans htop)
  | step hsuper _ ih => exact .step ((hsame.superclassOf?_eq _).symm.trans hsuper) ih

theorem SameFields.chainEnds (hsame : first.SameFields second) {name : String}
    (hends : first.ChainEnds name) : second.ChainEnds name := by
  obtain ⟨above, hchain⟩ := hends
  exact ⟨above, hsame.superclassChain hchain⟩

theorem linked_get?_eq_none_iff {host : String} :
    (model.linked reserved).specs.get? host = none ↔ model.isBound reserved host = false := by
  constructor
  · intro hnone
    rw [Bool.eq_false_iff]
    intro hbound
    obtain ⟨spec, hget⟩ := exists_spec_of_isBound hbound
    rw [hnone] at hget
    cases hget
  · intro hunbound
    rw [Option.eq_none_iff_forall_ne_some]
    intro spec hget
    rw [isBound_of_spec hget] at hunbound
    cases hunbound

/-- A type has the same specification in both programs if the types above it have. -/
theorem SameFields.linked_get?_eq (hsame : first.SameFields second) {host : String}
    {above : List String} (hchain : first.SuperclassChain host above)
    (habove : ∀ name ∈ above,
      (first.linked reserved).specs.get? name = (second.linked reserved).specs.get? name) :
    (first.linked reserved).specs.get? host = (second.linked reserved).specs.get? host := by
  cases hfirst : (first.linked reserved).specs.get? host with
  | none =>
      rw [linked_get?_eq_none_iff, hsame.isBound_eq] at hfirst
      exact (linked_get?_eq_none_iff.mpr hfirst).symm
  | some left =>
      have hbound := isBound_of_spec hfirst
      rw [hsame.isBound_eq] at hbound
      obtain ⟨right, hsecond⟩ := exists_spec_of_isBound hbound
      rw [hsecond]
      have hhost : left.host = right.host := by
        rw [linked_host_eq hfirst, linked_host_eq hsecond]
      have hfields : left.fields = right.fields := by
        rw [linked_fields_eq hfirst, linked_fields_eq hsecond,
          (hsame.scan_agreeOn reserved host).fields_eq]
      have hparent : left.parent = right.parent := by
        rw [linked_parent_eq hchain hfirst, linked_parent_eq (hsame.superclassChain hchain) hsecond,
          hsame.isBound_eq]
        cases hnearest : above.find? (second.isBound reserved) with
        | none => rfl
        | some parent => exact habove parent (List.mem_of_find?_eq_some hnearest)
      rw [BindingSpec.eq_of_parts_eq hhost hfields hparent]

theorem SameFields.linked_get?_eq_of_chain (hsame : first.SameFields second) {host : String}
    {above : List String} (hchain : first.SuperclassChain host above) :
    ∀ name ∈ host :: above,
      (first.linked reserved).specs.get? name = (second.linked reserved).specs.get? name := by
  induction hchain with
  | top htop =>
      intro name hmem
      rw [List.mem_singleton.mp hmem]
      exact hsame.linked_get?_eq (.top htop) fun name hmem => absurd hmem List.not_mem_nil
  | step hsuper hchain ih =>
      intro name hmem
      rcases List.mem_cons.mp hmem with rfl | hmem
      · exact hsame.linked_get?_eq (.step hsuper hchain) ih
      · exact ih name hmem

/-- Where all chains end, linking has nothing to report. -/
theorem linked_diagnostics_of_chainEnds (hends : ∀ name, model.ChainEnds name) :
    (model.linked reserved).diagnostics = (model.scan reserved).diagnostics := by
  obtain ⟨cycles, hdiagnostics, hcycles⟩ := (model.linked_consistent reserved).new_reports
  have hnone : cycles = [] := by
    rw [List.eq_nil_iff_forall_not_mem]
    intro report hmem
    exact (hcycles report hmem).2.2.2 (rooted_parentSearch_iff.mpr (hends report.host))
  rw [hdiagnostics, hnone, List.append_nil]

theorem chainEnds_of_forall_types (hends : ∀ declaration ∈ model.types,
    model.ChainEnds declaration.name) (name : String) : model.ChainEnds name := by
  cases htype : model.type? name with
  | none =>
      refine ⟨[], .top ?_⟩
      rw [superclassOf?, htype, Option.bind_none, Option.map_none]
  | some declaration =>
      rw [← name_of_type? htype]
      exact hends declaration (mem_of_type? htype)

end ProgramModel

/-- **The order of discovery does not matter.** Where every superclass chain ends, programs with the same
types and the same fields in each type, in their order, resolve alike however these fields come between
each other: every type has the same specification, with the same specifications above it, or none, and the
same reports are made. -/
theorem discovery_order_irrelevant {first second : ProgramModel} (reserved : List String)
    (hsame : first.SameFields second)
    (hends : ∀ declaration ∈ first.types, first.ChainEnds declaration.name) :
    (∀ host, (first.resolve reserved).specs.get? host =
      (second.resolve reserved).specs.get? host) ∧
    (first.resolve reserved).diagnostics.Perm (second.resolve reserved).diagnostics := by
  have hfirst : ∀ name, first.ChainEnds name := ProgramModel.chainEnds_of_forall_types hends
  -- The chains of both programs are the same, so that they end in the second too.
  have hsecond : ∀ name, second.ChainEnds name := fun name => hsame.chainEnds (hfirst name)
  refine ⟨?_, ?_⟩
  · intro host
    obtain ⟨above, hchain⟩ := hfirst host
    exact hsame.linked_get?_eq_of_chain hchain host List.mem_cons_self
  · rw [ProgramModel.resolve_eq, ProgramModel.resolve_eq]
    simp only [ProgramModel.linked_diagnostics_of_chainEnds hfirst,
      ProgramModel.linked_diagnostics_of_chainEnds hsecond]
    exact perm_of_reportsOn_eq fun host => (hsame.scan_agreeOn reserved host).reports_eq

/-- A class below another, their fields and a parameter being found in this order. One field of the lower
class is private and one has the key of another. -/
def layered (order : List (Enclosure × String × List Modifier)) : ProgramModel where
  types := [⟨"Leaf", .classType, [], some "Root", []⟩, ⟨"Root", .classType, [], none, []⟩]
  elements := order.map fun (enclosure, name, modifiers) =>
    ⟨name, .primitive .int, modifiers, [⟨"IntValue", some "number", none⟩], enclosure⟩

def leafFirst : ProgramModel :=
  layered
    [(.type "Leaf", "count", []), (.type "Leaf", "size", []), (.method "Root" "open", "mode", []),
     (.type "Leaf", "hidden", [.privateMember]), (.type "Root", "total", [])]

def rootFirst : ProgramModel :=
  layered
    [(.type "Root", "total", []), (.type "Leaf", "count", []), (.type "Leaf", "size", []),
     (.type "Leaf", "hidden", [.privateMember]), (.method "Root" "open", "mode", [])]

theorem leafFirst_sameFields : leafFirst.SameFields rootFirst where
  types_eq := rfl
  fields_eq := by
    intro host
    by_cases hleaf : host = "Leaf"
    · rw [hleaf]
      rfl
    · by_cases hroot : host = "Root"
      · rw [hroot]
        rfl
      · simp [ProgramModel.fieldsIn, leafFirst, rootFirst, layered, Element.host?, Ne.symm hleaf,
          Ne.symm hroot]

theorem leaf_resolves_alike :
    leafFirst.SameFields rootFirst ∧
    (∀ declaration ∈ leafFirst.types, leafFirst.ChainEnds declaration.name) ∧
    (leafFirst.resolve []).specs.get? "Leaf" = (rootFirst.resolve []).specs.get? "Leaf" ∧
    (leafFirst.resolve []).diagnostics.Perm (rootFirst.resolve []).diagnostics := by
  have hends : ∀ declaration ∈ leafFirst.types, leafFirst.ChainEnds declaration.name := by
    have hroot : leafFirst.SuperclassChain "Root" [] := .top (by decide)
    have hleaf : leafFirst.SuperclassChain "Leaf" ["Root"] := .step (by decide) hroot
    intro declaration hmem
    rcases List.mem_cons.mp hmem with rfl | hmem
    · exact ⟨_, hleaf⟩
    · rw [List.mem_singleton.mp hmem]
      exact ⟨_, hroot⟩
  obtain ⟨hspecs, hreports⟩ := discovery_order_irrelevant [] leafFirst_sameFields hends
  exact ⟨leafFirst_sameFields, hends, hspecs "Leaf", hreports⟩

end BundleBinding
