import BundleBinding.Binding.Scan

/-!
# Keeping the first

Of several bindings the first for each key and each name stay. One that is refused reserves neither
its key nor its name, and what refuses it stays to the end.
-/

namespace BundleBinding

/-- Nothing in a list of bindings has the key or the name of this one. -/
def FieldBinding.IsFreeIn (field : FieldBinding) (kept : List FieldBinding) : Prop :=
  ∀ owner ∈ kept, owner.key ≠ field.key ∧ owner.name ≠ field.name

instance (field : FieldBinding) (kept : List FieldBinding) : Decidable (field.IsFreeIn kept) :=
  inferInstanceAs (Decidable (∀ owner ∈ kept, owner.key ≠ field.key ∧ owner.name ≠ field.name))

/-- The bindings that stay when further ones are offered, each of which joins if it is free in those
kept so far. -/
def keepFirst (kept : List FieldBinding) : List FieldBinding → List FieldBinding
  | [] => kept
  | offer :: offers =>
      if offer.IsFreeIn kept then keepFirst (kept ++ [offer]) offers else keepFirst kept offers

theorem keepFirst_cons_of_free {kept : List FieldBinding} {offer : FieldBinding}
    (hfree : offer.IsFreeIn kept) (offers : List FieldBinding) :
    keepFirst kept (offer :: offers) = keepFirst (kept ++ [offer]) offers := by
  rw [keepFirst, if_pos hfree]

theorem keepFirst_cons_of_not_free {kept : List FieldBinding} {offer : FieldBinding}
    (hfree : ¬ offer.IsFreeIn kept) (offers : List FieldBinding) :
    keepFirst kept (offer :: offers) = keepFirst kept offers := by
  rw [keepFirst, if_neg hfree]

theorem keepFirst_eq_append (kept offers : List FieldBinding) :
    ∃ added, keepFirst kept offers = kept ++ added ∧ added.Sublist offers := by
  induction offers generalizing kept with
  | nil => exact ⟨[], (List.append_nil kept).symm, List.Sublist.refl []⟩
  | cons offer offers ih =>
      by_cases hfree : offer.IsFreeIn kept
      · obtain ⟨added, hadded, hsub⟩ := ih (kept ++ [offer])
        refine ⟨offer :: added, ?_, hsub.cons_cons offer⟩
        rw [keepFirst_cons_of_free hfree, hadded, List.append_assoc, List.singleton_append]
      · obtain ⟨added, hadded, hsub⟩ := ih kept
        refine ⟨added, ?_, hsub.cons offer⟩
        rw [keepFirst_cons_of_not_free hfree, hadded]

theorem prefix_keepFirst (kept offers : List FieldBinding) : kept <+: keepFirst kept offers := by
  obtain ⟨added, hadded, _⟩ := keepFirst_eq_append kept offers
  exact ⟨added, hadded.symm⟩

theorem keepFirst_nil_sublist (offers : List FieldBinding) :
    (keepFirst [] offers).Sublist offers := by
  obtain ⟨added, hadded, hsub⟩ := keepFirst_eq_append [] offers
  rwa [hadded, List.nil_append]

theorem keepFirst_nil_ne_nil_iff (offers : List FieldBinding) :
    keepFirst [] offers ≠ [] ↔ offers ≠ [] := by
  cases offers with
  | nil => rfl
  | cons offer offers =>
      have hfree : offer.IsFreeIn [] := fun owner hmem => absurd hmem List.not_mem_nil
      have hmem : offer ∈ keepFirst [] (offer :: offers) := by
        rw [keepFirst_cons_of_free hfree]
        exact (prefix_keepFirst ([] ++ [offer]) offers).subset (List.mem_singleton_self offer)
      exact iff_of_true (List.ne_nil_of_mem hmem) (List.cons_ne_nil offer offers)

/-- Bindings that share neither keys nor names. -/
def Distinct (fields : List FieldBinding) : Prop :=
  fields.Pairwise fun first second => first.key ≠ second.key ∧ first.name ≠ second.name

theorem Distinct.keepFirst {kept : List FieldBinding} (hkept : Distinct kept)
    (offers : List FieldBinding) : Distinct (keepFirst kept offers) := by
  induction offers generalizing kept with
  | nil => exact hkept
  | cons offer offers ih =>
      by_cases hfree : offer.IsFreeIn kept
      · rw [keepFirst_cons_of_free hfree]
        apply ih
        refine List.pairwise_append.mpr ⟨hkept, List.pairwise_singleton _ offer, ?_⟩
        intro owner hmem last hlast
        rw [List.mem_singleton.mp hlast]
        exact hfree owner hmem
      · rw [keepFirst_cons_of_not_free hfree]
        exact ih hkept

theorem Distinct.nodup_keys {fields : List FieldBinding} (hfields : Distinct fields) :
    (fields.map FieldBinding.key).Nodup :=
  List.pairwise_map.mpr (hfields.imp fun hne => hne.1)

theorem Distinct.nodup_names {fields : List FieldBinding} (hfields : Distinct fields) :
    (fields.map FieldBinding.name).Nodup :=
  List.pairwise_map.mpr (hfields.imp fun hne => hne.2)

/-! ### Refusals -/

/-- Why a binding cannot join: a kept field has its key, or else one has its name. -/
inductive Refusal (host : String) (kept : List FieldBinding) (offer : FieldBinding) :
    BindingProblem → Prop
  | keyTaken {owner : FieldBinding} (hmem : owner ∈ kept) (hkey : owner.key = offer.key) :
      Refusal host kept offer (.keyTaken offer.kind offer.key owner)
  | nameTaken {owner : FieldBinding} (hfree : ∀ field ∈ kept, field.key ≠ offer.key)
      (hmem : owner ∈ kept) (hname : owner.name = offer.name) :
      Refusal host kept offer (.fieldTaken offer.kind host owner)

/-- One report for each binding that is not kept, in the order of the offers. -/
inductive Refusals (host : String) : List FieldBinding → List FieldBinding → List Diagnostic → Prop
  | done (kept : List FieldBinding) : Refusals host kept [] []
  | keep {kept offers : List FieldBinding} {offer : FieldBinding} {reports : List Diagnostic}
      (hfree : offer.IsFreeIn kept) (hrest : Refusals host (kept ++ [offer]) offers reports) :
      Refusals host kept (offer :: offers) reports
  | refuse {kept offers : List FieldBinding} {offer : FieldBinding} {problem : BindingProblem}
      {reports : List Diagnostic} (hrefusal : Refusal host kept offer problem)
      (hrest : Refusals host kept offers reports) :
      Refusals host kept (offer :: offers) (problem.report host (some offer.name) :: reports)

theorem Refusal.not_free {host : String} {kept : List FieldBinding} {offer : FieldBinding}
    {problem : BindingProblem} (hrefusal : Refusal host kept offer problem) :
    ¬ offer.IsFreeIn kept := by
  intro hfree
  cases hrefusal with
  | keyTaken hmem hkey => exact (hfree _ hmem).1 hkey
  | nameTaken _ hmem hname => exact (hfree _ hmem).2 hname

/-- What refuses a binding stays to the end. -/
theorem Refusals.exists_refusal {host : String} {kept offers : List FieldBinding}
    {reports : List Diagnostic} (hrefusals : Refusals host kept offers reports) :
    ∀ report ∈ reports, ∃ offer ∈ offers, ∃ before problem, before <+: keepFirst kept offers ∧
      Refusal host before offer problem ∧ report = problem.report host (some offer.name) := by
  induction hrefusals with
  | done kept => exact fun report hmem => absurd hmem List.not_mem_nil
  | @keep kept offers offer reports hfree hrest ih =>
      intro report hmem
      obtain ⟨refused, hrefused, before, problem, hbefore, hrefusal⟩ := ih report hmem
      rw [keepFirst_cons_of_free hfree]
      exact ⟨refused, List.mem_cons_of_mem offer hrefused, before, problem, hbefore, hrefusal⟩
  | @refuse kept offers offer problem reports hrefusal hrest ih =>
      intro report hmem
      rw [keepFirst_cons_of_not_free hrefusal.not_free]
      rcases List.mem_cons.mp hmem with rfl | hmem
      · exact ⟨offer, List.mem_cons_self, kept, problem, prefix_keepFirst kept offers, hrefusal, rfl⟩
      · obtain ⟨refused, hrefused, rest⟩ := ih report hmem
        exact ⟨refused, List.mem_cons_of_mem offer hrefused, rest⟩

theorem Candidate.clash?_eq_none_iff {host : String} {kept : List FieldBinding}
    {offer : FieldBinding} : clash? host kept offer = none ↔ offer.IsFreeIn kept := by
  rw [clash?, fieldWithKey?, fieldWithName?]
  constructor
  · intro hclash owner hmem
    split at hclash
    · cases hclash
    · next hkey =>
        rw [Option.map_eq_none_iff, List.find?_eq_none] at hclash
        rw [List.find?_eq_none] at hkey
        exact ⟨fun heq => hkey owner hmem (beq_iff_eq.mpr heq),
          fun heq => hclash owner hmem (beq_iff_eq.mpr heq)⟩
  · intro hfree
    have hkey : kept.find? (fun field => field.key == offer.key) = none :=
      List.find?_eq_none.mpr fun owner hmem heq => (hfree owner hmem).1 (beq_iff_eq.mp heq)
    have hname : kept.find? (fun field => field.name == offer.name) = none :=
      List.find?_eq_none.mpr fun owner hmem heq => (hfree owner hmem).2 (beq_iff_eq.mp heq)
    rw [hkey, hname]
    rfl

theorem Candidate.refusal_of_clash? {host : String} {kept : List FieldBinding}
    {offer : FieldBinding} {problem : BindingProblem}
    (hclash : clash? host kept offer = some problem) : Refusal host kept offer problem := by
  rw [clash?, fieldWithKey?, fieldWithName?] at hclash
  split at hclash
  · next owner hkey =>
      cases hclash
      have heq := List.find?_some hkey
      exact .keyTaken (List.mem_of_find?_eq_some hkey) (beq_iff_eq.mp heq)
  · next hkey =>
      obtain ⟨owner, hname, rfl⟩ := Option.map_eq_some_iff.mp hclash
      have heq := List.find?_some hname
      refine .nameTaken ?_ (List.mem_of_find?_eq_some hname) (beq_iff_eq.mp heq)
      intro field hmem hfield
      exact List.find?_eq_none.mp hkey field hmem (beq_iff_eq.mpr hfield)

end BundleBinding
