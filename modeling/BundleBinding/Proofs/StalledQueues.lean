import BundleBinding.Proofs.NearestBound
import Mathlib.Data.Set.Card

/-!
# Stalled queues

When all of the queue waits for some of the queue, the host in front is given up: it is finished without its
parent and reported. It need not lie on a cycle itself, but its nearest bound superclasses lead to one. All
hosts that it waits for, directly or not, are still in the queue, so none of them was given up before; and on
a cycle a host that is not given up is finished only after the one above it. So it is one host of each cycle.
-/

namespace BundleBinding

open Relation (ReflTransGen TransGen)

def ParentSearch.isFound : ParentSearch → Bool
  | .found _ => true
  | _ => false

/-- The cycles of a relation by which each type has one type above it, as sets of types. -/
def cyclesOf (above : String → String → Prop) : Set (Set String) :=
  {cycle | ∃ host, TransGen above host host ∧ cycle = {member | TransGen above host member}}

namespace Linking

variable {search : String → ParentSearch} {drafts : Registry String BindingSpec}
  {reports : List Diagnostic} {linking next : Linking}

def Awaits (search : String → ParentSearch) (host parent : String) : Prop :=
  search host = .found parent

/-- Going from parent to parent, a search comes back to the host. -/
def OnCycle (search : String → ParentSearch) (host : String) : Prop :=
  TransGen (Awaits search) host host

/-! ### Cycles -/

section Cycles

variable {host parent other : String}

theorem OnCycle.back_of_awaits (hcycle : OnCycle search host) (hawaits : Awaits search host parent) :
    TransGen (Awaits search) parent host := by
  obtain ⟨next, hnext, hback⟩ := TransGen.head'_iff.mp hcycle
  rw [Awaits, hawaits] at hnext
  cases hnext
  exact TransGen.trans_right hback hcycle

theorem OnCycle.back_of_transGen (hcycle : OnCycle search host)
    (hreach : TransGen (Awaits search) host other) : TransGen (Awaits search) other host := by
  induction hreach with
  | single hawaits => exact hcycle.back_of_awaits hawaits
  | tail hreach hawaits ih => exact (OnCycle.back_of_awaits (ih.trans hreach) hawaits).trans ih

theorem OnCycle.of_transGen (hcycle : OnCycle search host)
    (hreach : TransGen (Awaits search) host other) : OnCycle search other :=
  (hcycle.back_of_transGen hreach).trans hreach

/-- The hosts above a host on a cycle are those of the cycle. -/
theorem OnCycle.setOf_transGen_eq (hcycle : OnCycle search host)
    (hreach : TransGen (Awaits search) host other) :
    {member | TransGen (Awaits search) other member} =
      {member | TransGen (Awaits search) host member} := by
  ext member
  exact ⟨hreach.trans, (hcycle.back_of_transGen hreach).trans⟩

theorem reachable_mem_of_closed {hosts : List String}
    (hclosed : ∀ host ∈ hosts, ∃ parent ∈ hosts, search host = .found parent) (hmem : host ∈ hosts)
    (hreach : ReflTransGen (Awaits search) host other) : other ∈ hosts := by
  induction hreach with
  | refl => exact hmem
  | tail _ hawaits ih =>
      obtain ⟨parent, hparent, hsearch⟩ := hclosed _ ih
      rw [Awaits, hsearch] at hawaits
      cases hawaits
      exact hparent

/-- Finitely many hosts that wait for each other lead to a cycle: else one of those reached would be above all
others, and it waits for none of them. -/
theorem exists_cycle_of_closed {hosts : List String}
    (hclosed : ∀ host ∈ hosts, ∃ parent ∈ hosts, search host = .found parent) (hmem : host ∈ hosts) :
    ∃ member, ReflTransGen (Awaits search) host member ∧ OnCycle search member := by
  by_contra hnone
  have hwell : WellFounded
      fun first second : {other // other ∈ hosts ∧ ReflTransGen (Awaits search) host other} =>
        TransGen (Awaits search) second.1 first.1 := by
    refine @Finite.wellFounded_of_trans_of_irrefl _ ?_ _ ?_ ?_
    · exact (List.finite_toSet hosts).subset fun _ hreached => hreached.1
    · exact ⟨fun _ _ _ hfirst hsecond => hsecond.trans hfirst⟩
    · exact ⟨fun reached hcycle => hnone ⟨reached.1, reached.2.2, hcycle⟩⟩
  obtain ⟨top, -, htop⟩ := hwell.has_min Set.univ ⟨⟨host, hmem, .refl⟩, trivial⟩
  obtain ⟨parent, hparent, hsearch⟩ := hclosed top.1 top.2.1
  exact htop ⟨parent, hparent, top.2.2.tail hsearch⟩ trivial (.single hsearch)

end Cycles

/-! ### Hosts given up -/

def isStall (search : String → ParentSearch) (report : Diagnostic) : Bool :=
  decide (report.code = .superclassCycle) && (search report.host).isFound

/-- The reports of hosts that the search finds a parent for. Where a chain comes back on itself there is a
report with the same code, but no parent is found. -/
def stallReports (search : String → ParentSearch) (linking : Linking) : List Diagnostic :=
  linking.diagnostics.filter (isStall search)

def givenUp (search : String → ParentSearch) (linking : Linking) : List String :=
  (linking.stallReports search).map Diagnostic.host

/-- What linking keeps about the hosts that it gives up. -/
structure StallsAtCycles (search : String → ParentSearch) (linking : Linking) : Prop where
  finished : ∀ host ∈ linking.givenUp search, host ∈ linking.specs.keys
  reported : ∀ report ∈ linking.stallReports search, ∃ parent,
    Awaits search report.host parent ∧
      report = (BindingProblem.chainLoopsThrough report.host parent).report report.host none
  leads : ∀ host ∈ linking.givenUp search, ∃ member,
    ReflTransGen (Awaits search) host member ∧ OnCycle search member
  covered : ∀ host ∈ linking.specs.keys, OnCycle search host →
    ∃ member ∈ linking.givenUp search, TransGen (Awaits search) host member
  ordered : (linking.givenUp search).Pairwise fun earlier later =>
    ¬ ReflTransGen (Awaits search) later earlier

section Finish

variable {host : String} {draft spec : BindingSpec} {rest : List Waiting}
  {problem : Option BindingProblem}

theorem stallReports_finish :
    (linking.finish rest host spec problem).stallReports search =
      linking.stallReports search ++
        (problem.map fun problem => problem.report host none).toList.filter (isStall search) :=
  List.filter_append _ _

theorem keys_finish (hlinking : Consistent search drafts reports linking)
    (hqueue : linking.queue = (host, draft) :: rest) (spec : BindingSpec)
    (problem : Option BindingProblem) :
    (linking.finish rest host spec problem).specs.keys = linking.specs.keys ++ [host] :=
  Registry.keys_insert_of_not_mem _ _ (hlinking.not_finished hqueue)

/-- A finished host has its parent finished if it has one, or else it is given up. -/
theorem Finishes.linked_or_givenUp
    (hspec : Finishes search linking host draft rest.length spec problem) :
    ((linking.finish rest host spec problem).stallReports search = linking.stallReports search ∧
      ∀ parent, Awaits search host parent → parent ∈ linking.specs.keys) ∨
    ∃ parent, Awaits search host parent ∧ linking.specs.get? parent = none ∧
      rest.length ≤ linking.stalled ∧
      (linking.finish rest host spec problem).stallReports search =
        linking.stallReports search ++
          [(BindingProblem.chainLoopsThrough host parent).report host none] := by
  rw [stallReports_finish]
  cases hspec with
  | top hsearch =>
      refine .inl ⟨List.append_nil _, fun parent hawaits => ?_⟩
      rw [Awaits, hsearch] at hawaits
      cases hawaits
  | looped hsearch =>
      refine .inl ⟨?_, fun parent hawaits => ?_⟩
      · simp [isStall, BindingProblem.report, hsearch, ParentSearch.isFound]
      · rw [Awaits, hsearch] at hawaits
        cases hawaits
  | linked hsearch hparent =>
      refine .inl ⟨List.append_nil _, fun parent hawaits => ?_⟩
      rw [Awaits, hsearch] at hawaits
      cases hawaits
      exact Registry.mem_keys_iff.mpr ⟨_, hparent⟩
  | @stuck parent hsearch hparent hstalled =>
      refine .inr ⟨parent, hsearch, hparent, hstalled, ?_⟩
      simp [isStall, BindingProblem.report, BindingProblem.code, hsearch, ParentSearch.isFound]

theorem StallsAtCycles.finish_linked (hstalls : StallsAtCycles search linking)
    (hlinking : Consistent search drafts reports linking)
    (hqueue : linking.queue = (host, draft) :: rest)
    (hreports : (linking.finish rest host spec problem).stallReports search =
      linking.stallReports search)
    (hparents : ∀ parent, Awaits search host parent → parent ∈ linking.specs.keys) :
    StallsAtCycles search (linking.finish rest host spec problem) := by
  have hgivenUp : (linking.finish rest host spec problem).givenUp search =
      linking.givenUp search := congrArg (List.map Diagnostic.host) hreports
  have hkeys := keys_finish hlinking hqueue spec problem
  constructor
  · rw [hgivenUp, hkeys]
    exact fun other hmem => List.mem_append_left _ (hstalls.finished other hmem)
  · rw [hreports]
    exact hstalls.reported
  · rw [hgivenUp]
    exact hstalls.leads
  · rw [hgivenUp, hkeys]
    refine List.forall_mem_append.mpr ⟨hstalls.covered, List.forall_mem_singleton.mpr ?_⟩
    intro hcycle
    obtain ⟨parent, hawaits, -⟩ := TransGen.head'_iff.mp hcycle
    have hparent := hcycle.of_transGen (.single hawaits)
    obtain ⟨member, hmember, hreach⟩ := hstalls.covered parent (hparents parent hawaits) hparent
    exact ⟨member, hmember, .head hawaits hreach⟩
  · rw [hgivenUp]
    exact hstalls.ordered

theorem StallsAtCycles.finish_givenUp (hstalls : StallsAtCycles search linking)
    (hlinking : Consistent search drafts reports linking)
    (hfound : ∀ host parent, search host = .found parent → parent ∈ drafts.keys)
    (hqueue : linking.queue = (host, draft) :: rest) {parent : String}
    (hawaits : Awaits search host parent) (hparent : linking.specs.get? parent = none)
    (hstalled : rest.length ≤ linking.stalled)
    (hreports : (linking.finish rest host spec problem).stallReports search =
      linking.stallReports search ++
        [(BindingProblem.chainLoopsThrough host parent).report host none]) :
    StallsAtCycles search (linking.finish rest host spec problem) := by
  have hclosed := hlinking.queue_closed hfound hqueue hawaits hparent hstalled
  have hhost : host ∈ linking.queue.map Prod.fst := by
    rw [hqueue]
    exact List.mem_cons_self
  have hgivenUp : (linking.finish rest host spec problem).givenUp search =
      linking.givenUp search ++ [host] := by
    rw [givenUp, hreports, List.map_append]
    rfl
  have hkeys := keys_finish hlinking hqueue spec problem
  constructor
  · rw [hgivenUp, hkeys]
    refine List.forall_mem_append.mpr ⟨?_, fun other hmem => List.mem_append_right _ hmem⟩
    exact fun other hmem => List.mem_append_left _ (hstalls.finished other hmem)
  · rw [hreports]
    refine List.forall_mem_append.mpr ⟨hstalls.reported, List.forall_mem_singleton.mpr ?_⟩
    exact ⟨parent, hawaits, rfl⟩
  · rw [hgivenUp]
    refine List.forall_mem_append.mpr ⟨hstalls.leads, List.forall_mem_singleton.mpr ?_⟩
    exact exists_cycle_of_closed hclosed hhost
  · rw [hgivenUp, hkeys]
    refine List.forall_mem_append.mpr ⟨?_, List.forall_mem_singleton.mpr ?_⟩
    · intro other hmem hcycle
      obtain ⟨member, hmember, hreach⟩ := hstalls.covered other hmem hcycle
      exact ⟨member, List.mem_append_left _ hmember, hreach⟩
    · exact fun hcycle => ⟨host, List.mem_append_right _ List.mem_cons_self, hcycle⟩
  · rw [hgivenUp, List.pairwise_append]
    refine ⟨hstalls.ordered, List.pairwise_singleton _ _, ?_⟩
    intro earlier hearlier later hlater hreach
    rw [List.mem_singleton.mp hlater] at hreach
    -- What is given up is finished, and all that is reached from the host is still in the queue.
    have hdisjoint := (List.nodup_append.mp hlinking.nodup_keys).2.2
    exact hdisjoint earlier (hstalls.finished earlier hearlier) earlier
      (reachable_mem_of_closed hclosed hhost hreach) rfl

end Finish

theorem StallsAtCycles.start (hstart : linking = ⟨drafts.entries, Registry.empty, 0, reports⟩)
    (hcodes : ∀ report ∈ reports, report.code ≠ .superclassCycle) :
    StallsAtCycles search linking := by
  subst hstart
  have hnone : reports.filter (isStall search) = [] := by
    rw [List.filter_eq_nil_iff]
    intro report hmem
    simp [isStall, hcodes report hmem]
  constructor <;> simp [givenUp, stallReports, hnone]

theorem StallsAtCycles.step (hstalls : StallsAtCycles search linking)
    (hlinking : Consistent search drafts reports linking)
    (hfound : ∀ host parent, search host = .found parent → parent ∈ drafts.keys)
    (hstep : Step search linking next) : StallsAtCycles search next := by
  cases hstep with
  | putBack =>
      exact ⟨hstalls.finished, hstalls.reported, hstalls.leads, hstalls.covered, hstalls.ordered⟩
  | finish hqueue hspec =>
      rcases hspec.linked_or_givenUp with
        ⟨hreports, hparents⟩ | ⟨parent, hawaits, hparent, hstalled, hreports⟩
      · exact hstalls.finish_linked hlinking hqueue hreports hparents
      · exact hstalls.finish_givenUp hlinking hfound hqueue hawaits hparent hstalled hreports

theorem StallsAtCycles.run (hstalls : StallsAtCycles search linking)
    (hlinking : Consistent search drafts reports linking)
    (hfound : ∀ host parent, search host = .found parent → parent ∈ drafts.keys)
    (hplain : ∀ host draft, drafts.get? host = some draft → draft.parent = none) :
    StallsAtCycles search (linking.run search) := by
  refine (run_induction
    (motive := fun linking =>
      StallsAtCycles search linking ∧ Consistent search drafts reports linking)
    linking ⟨hstalls, hlinking⟩ ?_).1
  rintro linking next hstep ⟨hstalls, hlinking⟩
  exact ⟨hstalls.step hlinking hfound hstep, hlinking.step hfound hplain hstep⟩

/-! ### One host of each cycle -/

namespace StallsAtCycles

theorem eq_of_reach (hstalls : StallsAtCycles search linking) {first second : String}
    (hfirst : first ∈ linking.givenUp search) (hsecond : second ∈ linking.givenUp search)
    (hreach : ReflTransGen (Awaits search) first second)
    (hback : ReflTransGen (Awaits search) second first) : first = second := by
  refine List.Pairwise.forall_of_forall_of_flip
    (R := fun first second => ReflTransGen (Awaits search) first second →
      ReflTransGen (Awaits search) second first → first = second)
    ?_ ?_ ?_ hfirst hsecond hreach hback
  · exact fun _ _ _ _ => rfl
  · exact hstalls.ordered.imp fun hnot _ hback => absurd hback hnot
  · exact hstalls.ordered.imp fun hnot hreach _ => absurd hreach hnot

theorem nodup_givenUp (hstalls : StallsAtCycles search linking) :
    (linking.givenUp search).Nodup := by
  refine hstalls.ordered.imp ?_
  rintro host _ hnot rfl
  exact hnot .refl

theorem existsUnique_givenUp (hstalls : StallsAtCycles search linking)
    (hall : ∀ host, OnCycle search host → host ∈ linking.specs.keys) {cycle : Set String}
    (hcycle : cycle ∈ cyclesOf (Awaits search)) :
    ∃! host, host ∈ cycle ∧ host ∈ linking.givenUp search := by
  obtain ⟨host, hhost, rfl⟩ := hcycle
  obtain ⟨member, hmember, hreach⟩ := hstalls.covered host (hall host hhost) hhost
  refine ⟨member, ⟨hreach, hmember⟩, ?_⟩
  rintro other ⟨hother, hgivenUp⟩
  have hforth := (OnCycle.back_of_transGen hhost hother).trans hreach
  have hback := (OnCycle.back_of_transGen hhost hreach).trans hother
  exact hstalls.eq_of_reach hgivenUp hmember hforth.to_reflTransGen hback.to_reflTransGen

/-- A host that is given up on a cycle stands for the cycle. -/
theorem encard_cycles (hstalls : StallsAtCycles search linking)
    (hall : ∀ host, OnCycle search host → host ∈ linking.specs.keys) :
    (cyclesOf (Awaits search)).encard =
      {host | host ∈ linking.givenUp search ∧ OnCycle search host}.encard := by
  have himage : cyclesOf (Awaits search) =
      (fun host => {member | TransGen (Awaits search) host member}) ''
        {host | host ∈ linking.givenUp search ∧ OnCycle search host} := by
    ext cycle
    constructor
    · rintro ⟨host, hhost, rfl⟩
      obtain ⟨member, hmember, hreach⟩ := hstalls.covered host (hall host hhost) hhost
      exact ⟨member, ⟨hmember, OnCycle.of_transGen hhost hreach⟩,
        OnCycle.setOf_transGen_eq hhost hreach⟩
    · rintro ⟨host, ⟨_, hhost⟩, rfl⟩
      exact ⟨host, hhost, rfl⟩
  rw [himage]
  apply Set.InjOn.encard_image
  rintro first ⟨hfirst, hfirstCycle⟩ second ⟨hsecond, hsecondCycle⟩ heq
  have hreach : TransGen (Awaits search) first second :=
    (Set.ext_iff.mp heq second).mpr hsecondCycle
  have hback := hfirstCycle.back_of_transGen hreach
  exact hstalls.eq_of_reach hfirst hsecond hreach.to_reflTransGen hback.to_reflTransGen

theorem length_givenUp (hstalls : StallsAtCycles search linking)
    (hall : ∀ host, OnCycle search host → host ∈ linking.specs.keys) :
    (linking.givenUp search).length =
      (cyclesOf (Awaits search)).encard +
        {host | host ∈ linking.givenUp search ∧ ¬ OnCycle search host}.encard := by
  calc ((linking.givenUp search).length : ℕ∞)
      = {host | host ∈ linking.givenUp search}.encard := by
        rw [← List.toFinset_card_of_nodup hstalls.nodup_givenUp,
          ← Set.encard_coe_eq_coe_finsetCard, List.coe_toFinset]
    _ = ({host | host ∈ linking.givenUp search} ∩ {host | OnCycle search host}).encard +
          ({host | host ∈ linking.givenUp search} \ {host | OnCycle search host}).encard := by
        rw [add_comm, Set.encard_sdiff_add_encard_inter]
    _ = _ := by rw [hstalls.encard_cycles hall]; rfl

end StallsAtCycles

/-! ### The last of a queue -/

theorem mem_diagnostics_run {report : Diagnostic} (hmem : report ∈ linking.diagnostics) :
    report ∈ (linking.run search).diagnostics := by
  refine run_induction (motive := fun linking => report ∈ linking.diagnostics) linking hmem ?_
  intro linking next hstep hmem
  cases hstep with
  | finish => exact List.mem_append_left _ hmem
  | putBack => exact hmem

/-- If all of a queue waits, the last host of it is given up before any other is finished. -/
theorem run_eq_of_waiting {front back : List Waiting} {host parent : String} {draft : BindingSpec}
    (hqueue : linking.queue = front ++ (host, draft) :: back)
    (hstalled : linking.stalled = back.length)
    (hwaits : ∀ waiting ∈ front, linking.WaitsForParent search waiting.1)
    (hsearch : search host = .found parent) (hparent : linking.specs.get? parent = none) :
    linking.run search =
      (linking.finish (back ++ front) host draft (some (.chainLoopsThrough host parent))).run
        search := by
  induction front generalizing linking back with
  | nil =>
      have hstep : linking.step search host draft back =
          linking.finish back host draft (some (.chainLoopsThrough host parent)) := by
        simp [step, hsearch, hparent, hstalled]
      rw [List.append_nil, run_of_queue hqueue, hstep]
  | cons waiting front ih =>
      obtain ⟨other, otherDraft⟩ := waiting
      rw [List.cons_append] at hqueue
      obtain ⟨awaited, hawaited, hnone⟩ := hwaits _ List.mem_cons_self
      have hlt : linking.stalled < (front ++ (host, draft) :: back).length := by
        simp only [hstalled, List.length_append, List.length_cons]
        omega
      have hstep : linking.step search other otherDraft (front ++ (host, draft) :: back) =
          linking.putBack (front ++ (host, draft) :: back) other otherDraft := by
        simp only [step, hawaited, hnone, hlt, if_true]
      rw [run_of_queue hqueue, hstep, @ih _ (back ++ [(other, otherDraft)])]
      · simp [finish, putBack]
      · simp [putBack]
      · simp [putBack, hstalled]
      · exact fun waiting hmem => hwaits waiting (List.mem_cons_of_mem _ hmem)
      · exact hparent

end Linking

end BundleBinding
