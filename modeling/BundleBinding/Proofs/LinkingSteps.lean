import BundleBinding.Binding.Linking
import Mathlib.Tactic.Ring
import Mathlib.Logic.Function.Iterate

/-!
# The steps of linking

One step finishes the host in front of the queue by one of four rules, or puts it to the back. What
every step keeps holds when the run is over; and the run is over soon, since the hosts put back in a
row are fewer than those that wait.
-/

namespace BundleBinding

namespace Linking

variable {search : String → ParentSearch} {linking next : Linking}

/-- The rules by which the host in front gets its specification, `behind` hosts waiting behind it. -/
inductive Finishes (search : String → ParentSearch) (linking : Linking) (host : String)
    (draft : BindingSpec) (behind : Nat) : BindingSpec → Option BindingProblem → Prop
  | top (hsearch : search host = .absent) : Finishes search linking host draft behind draft none
  | looped (hsearch : search host = .cyclic) :
      Finishes search linking host draft behind draft (some (.chainLoopsBack host))
  | linked {parent : String} {spec : BindingSpec} (hsearch : search host = .found parent)
      (hparent : linking.specs.get? parent = some spec) :
      Finishes search linking host draft behind (draft.withParent spec) none
  | stuck {parent : String} (hsearch : search host = .found parent)
      (hparent : linking.specs.get? parent = none) (hstalled : behind ≤ linking.stalled) :
      Finishes search linking host draft behind draft (some (.chainLoopsThrough host parent))

inductive Step (search : String → ParentSearch) (linking : Linking) : Linking → Prop
  | finish {host : String} {draft spec : BindingSpec} {rest : List Waiting}
      {problem : Option BindingProblem} (hqueue : linking.queue = (host, draft) :: rest)
      (hspec : Finishes search linking host draft rest.length spec problem) :
      Step search linking (linking.finish rest host spec problem)
  | putBack {host parent : String} {draft : BindingSpec} {rest : List Waiting}
      (hqueue : linking.queue = (host, draft) :: rest) (hsearch : search host = .found parent)
      (hparent : linking.specs.get? parent = none) (hstalled : linking.stalled < rest.length) :
      Step search linking (linking.putBack rest host draft)

theorem step_step {host : String} {draft : BindingSpec} {rest : List Waiting}
    (hqueue : linking.queue = (host, draft) :: rest) :
    Step search linking (linking.step search host draft rest) := by
  unfold step
  split
  · next hsearch => exact .finish hqueue (.top hsearch)
  · next hsearch => exact .finish hqueue (.looped hsearch)
  · next parent hsearch =>
      split
      · next spec hparent => exact .finish hqueue (.linked hsearch hparent)
      · next hparent =>
          split
          · next hstalled => exact .putBack hqueue hsearch hparent hstalled
          · next hstalled =>
              exact .finish hqueue (.stuck hsearch hparent (Nat.le_of_not_lt hstalled))

theorem run_of_queue {host : String} {draft : BindingSpec} {rest : List Waiting}
    (hqueue : linking.queue = (host, draft) :: rest) :
    linking.run search = (linking.step search host draft rest).run search := by
  rw [run]
  split
  · next hnil => rw [hqueue] at hnil; cases hnil
  · next other otherDraft others hcons =>
      rw [hqueue] at hcons
      cases hcons
      rfl

/-- What holds at the start and is kept by every step holds at the end. -/
theorem run_induction {motive : Linking → Prop} (linking : Linking) (hstart : motive linking)
    (hstep : ∀ linking next, Step search linking next → motive linking → motive next) :
    motive (linking.run search) := by
  fun_induction run search linking with
  | case1 linking hqueue => exact hstart
  | case2 linking host draft rest hqueue ih =>
      exact ih (hstep linking _ (step_step hqueue) hstart)

theorem queue_run (search : String → ParentSearch) (linking : Linking) :
    (linking.run search).queue = [] := by
  fun_induction run search linking with
  | case1 linking hqueue => exact hqueue
  | case2 linking host draft rest hqueue ih => exact ih

/-- Hosts with nothing bound above them are finished in the order in which they wait. -/
theorem entries_run_of_absent (habsent : ∀ waiting ∈ linking.queue, search waiting.1 = .absent)
    (hnodup : ((linking.specs.entries ++ linking.queue).map Prod.fst).Nodup) :
    (linking.run search).specs.entries = linking.specs.entries ++ linking.queue := by
  fun_induction run search linking with
  | case1 linking hqueue => rw [hqueue, List.append_nil]
  | case2 linking host draft rest hqueue ih =>
      have hstep : linking.step search host draft rest = linking.finish rest host draft none := by
        rw [step, habsent (host, draft) (hqueue ▸ List.mem_cons_self)]
      have hnew : host ∉ linking.specs.keys := by
        rw [hqueue, List.map_append, List.map_cons] at hnodup
        intro hmem
        exact (List.nodup_append.mp hnodup).2.2 host hmem host List.mem_cons_self rfl
      have hentries : (linking.finish rest host draft none).specs.entries =
          linking.specs.entries ++ [(host, draft)] :=
        linking.specs.entries_insert_of_not_mem draft hnew
      rw [hstep] at ih ⊢
      rw [hqueue, List.append_cons, ← hentries] at hnodup ⊢
      refine ih ?_ hnodup
      intro waiting hmem
      exact habsent waiting (hqueue ▸ List.mem_cons_of_mem _ hmem)

/-! ### The length of a run -/

/-- One step, if there is one to make. -/
def advance (search : String → ParentSearch) (linking : Linking) : Linking :=
  match linking.queue with
  | [] => linking
  | (host, draft) :: rest => linking.step search host draft rest

/-- The steps that `count` waiting hosts can take: each pass over the queue finishes one of them. -/
def stepBound (count : Nat) : Nat :=
  count * (count + 1) / 2

theorem stepBound_succ (count : Nat) : stepBound (count + 1) = stepBound count + (count + 1) := by
  have hexpand : (count + 1) * (count + 1 + 1) = count * (count + 1) + 2 * (count + 1) := by ring
  unfold stepBound
  rw [hexpand]
  omega

/-- The hosts put back in a row never make up the whole queue. -/
def StallsBelow (linking : Linking) : Prop :=
  linking.stalled = 0 ∨ linking.stalled < linking.queue.length

theorem Step.stallsBelow (hstep : Step search linking next) : next.StallsBelow := by
  cases hstep with
  | finish => exact .inl rfl
  | putBack _ _ _ hstalled =>
      right
      simp only [Linking.putBack, List.length_append, List.length_singleton]
      omega

theorem Step.stepBound_lt (hbelow : linking.StallsBelow) (hstep : Step search linking next) :
    stepBound next.queue.length + linking.stalled + 1 ≤
      stepBound linking.queue.length + next.stalled := by
  cases hstep with
  | finish hqueue =>
      rw [StallsBelow, hqueue, List.length_cons] at hbelow
      rw [hqueue, List.length_cons, stepBound_succ]
      simp only [Linking.finish]
      omega
  | putBack hqueue =>
      rw [hqueue, List.length_cons]
      simp only [Linking.putBack, List.length_append, List.length_singleton]
      omega

/-- **Linking ends.** The run is a number of single steps, at most one for every pair of hosts and
one for every host. -/
theorem exists_iterate_advance_eq_run (search : String → ParentSearch)
    (hbelow : linking.StallsBelow) :
    ∃ steps, steps + linking.stalled ≤ stepBound linking.queue.length ∧
      (advance search)^[steps] linking = linking.run search := by
  fun_induction run search linking with
  | case1 linking hqueue =>
      refine ⟨0, ?_, rfl⟩
      rw [StallsBelow, hqueue, List.length_nil] at hbelow
      omega
  | case2 linking host draft rest hqueue ih =>
      have hstep : Step search linking (linking.step search host draft rest) :=
        step_step hqueue
      obtain ⟨steps, hsteps, hrun⟩ := ih hstep.stallsBelow
      have hbound := hstep.stepBound_lt hbelow
      refine ⟨steps + 1, by omega, ?_⟩
      rw [Function.iterate_succ_apply, advance, hqueue]
      exact hrun

end Linking

end BundleBinding
