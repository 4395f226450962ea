import Mathlib.Control.Monad.Basic
import Mathlib.Data.List.Forall2

/-!
# Computations that may fail

What it takes for a sequence of computations to succeed, and what a repeated one keeps.
-/

namespace BundleBinding

variable {α β ε : Type}

theorem bind_eq_ok_iff {result : Except ε α} {next : α → Except ε β} {value : β} :
    (result >>= next) = .ok value ↔ ∃ first, result = .ok first ∧ next first = .ok value := by
  cases result with
  | error fault => exact iff_of_false nofun (by rintro ⟨first, hfirst, _⟩; cases hfirst)
  | ok first =>
      constructor
      · exact fun hnext => ⟨first, rfl, hnext⟩
      · rintro ⟨_, hfirst, hnext⟩
        cases hfirst
        exact hnext

theorem bind_eq_error_iff {result : Except ε α} {next : α → Except ε β} {fault : ε} :
    (result >>= next) = .error fault ↔
      result = .error fault ∨ ∃ first, result = .ok first ∧ next first = .error fault := by
  cases result with
  | error other =>
      constructor
      · exact fun hother => .inl (by cases hother; rfl)
      · rintro (hother | ⟨_, hfirst, _⟩)
        · cases hother
          rfl
        · cases hfirst
  | ok first =>
      constructor
      · exact fun hnext => .inr ⟨first, rfl, hnext⟩
      · rintro (hfirst | ⟨_, hfirst, hnext⟩)
        · cases hfirst
        · cases hfirst
          exact hnext

theorem mapM_eq_ok_iff {step : α → Except ε β} {items : List α} {values : List β} :
    items.mapM step = .ok values ↔
      List.Forall₂ (fun item value => step item = .ok value) items values := by
  induction items generalizing values with
  | nil =>
      rw [List.forall₂_nil_left_iff]
      exact ⟨fun hvalues => (Except.ok.inj hvalues).symm, fun hvalues => hvalues ▸ rfl⟩
  | cons item items ih =>
      rw [List.mapM_cons, bind_eq_ok_iff]
      constructor
      · rintro ⟨value, hvalue, hothers⟩
        obtain ⟨others, hmapped, hvalues⟩ := bind_eq_ok_iff.mp hothers
        cases hvalues
        exact .cons hvalue (ih.mp hmapped)
      · intro hforall
        cases hforall with
        | cons hvalue hothers => exact ⟨_, hvalue, bind_eq_ok_iff.mpr ⟨_, ih.mpr hothers, rfl⟩⟩

/-- The failure is that of the first item that fails. -/
theorem mapM_eq_error_iff {step : α → Except ε β} {items : List α} {fault : ε} :
    items.mapM step = .error fault ↔
      ∃ before item after, items = before ++ item :: after ∧
        (∀ earlier ∈ before, ∃ value, step earlier = .ok value) ∧ step item = .error fault := by
  induction items with
  | nil =>
      apply iff_of_false nofun
      rintro ⟨before, item, after, hitems, _⟩
      cases before <;> cases hitems
  | cons first items ih =>
      rw [List.mapM_cons, bind_eq_error_iff]
      constructor
      · rintro (hfirst | ⟨value, hvalue, hothers⟩)
        · exact ⟨[], first, items, rfl, fun _ hmem => absurd hmem List.not_mem_nil, hfirst⟩
        · obtain hitems | ⟨_, _, hvalues⟩ := bind_eq_error_iff.mp hothers
          · obtain ⟨before, item, after, rfl, hbefore, hitem⟩ := ih.mp hitems
            refine ⟨first :: before, item, after, rfl, ?_, hitem⟩
            exact List.forall_mem_cons.mpr ⟨⟨value, hvalue⟩, hbefore⟩
          · cases hvalues
      · rintro ⟨before, item, after, hitems, hbefore, hitem⟩
        cases before with
        | nil =>
            cases hitems
            exact .inl hitem
        | cons earlier before =>
            cases hitems
            obtain ⟨⟨value, hvalue⟩, hbefore⟩ := List.forall_mem_cons.mp hbefore
            right
            refine ⟨value, hvalue, bind_eq_error_iff.mpr (.inl ?_)⟩
            exact ih.mpr ⟨before, item, after, rfl, hbefore, hitem⟩

theorem exists_error_of_mapM {step : α → Except ε β} {items : List α} {fault : ε}
    (hmapped : items.mapM step = .error fault) : ∃ item ∈ items, step item = .error fault := by
  obtain ⟨before, item, after, rfl, _, hitem⟩ := mapM_eq_error_iff.mp hmapped
  exact ⟨item, List.mem_append_right before List.mem_cons_self, hitem⟩

theorem mapM_zipIdx_eq_error_iff {step : α × Nat → Except ε β} {items : List α} {fault : ε} :
    items.zipIdx.mapM step = .error fault ↔
      ∃ before item after, items = before ++ item :: after ∧
        (∀ position earlier, before[position]? = some earlier →
          ∃ value, step (earlier, position) = .ok value) ∧
        step (item, before.length) = .error fault := by
  rw [mapM_eq_error_iff]
  constructor
  · rintro ⟨before, item, after, hitems, hbefore, hitem⟩
    obtain ⟨earlier, others, rfl, rfl, hothers⟩ := List.zipIdx_eq_append_iff.mp hitems
    obtain ⟨first, later, rfl, rfl, rfl⟩ := List.zipIdx_eq_cons_iff.mp hothers.symm
    rw [Nat.zero_add] at hitem
    refine ⟨earlier, first, later, rfl, ?_, hitem⟩
    intro position other hother
    exact hbefore (other, position) (List.mem_zipIdx_iff_getElem?.mpr hother)
  · rintro ⟨before, item, after, rfl, hbefore, hitem⟩
    refine ⟨before.zipIdx, (item, before.length), after.zipIdx (before.length + 1), ?_, ?_, hitem⟩
    · rw [List.zipIdx_append, List.zipIdx_cons, Nat.zero_add]
    · rintro ⟨earlier, position⟩ hmem
      exact hbefore position earlier (List.mem_zipIdx_iff_getElem?.mp hmem)

theorem foldlM_keeps {step : β → α → Except ε β} {keeps : β → Prop}
    (hstep : ∀ state item next, keeps state → step state item = .ok next → keeps next)
    {items : List α} {start final : β} (hfold : items.foldlM step start = .ok final)
    (hstart : keeps start) : keeps final := by
  induction items generalizing start with
  | nil =>
      cases hfold
      exact hstart
  | cons item items ih =>
      rw [List.foldlM_cons] at hfold
      obtain ⟨next, hnext, hothers⟩ := bind_eq_ok_iff.mp hfold
      exact ih hothers (hstep start item next hstart hnext)

end BundleBinding
