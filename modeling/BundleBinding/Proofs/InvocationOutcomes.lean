import BundleBinding.Proofs.FilledBundles
import BundleBinding.Proofs.JsonArguments

/-!
# Outcomes of invocations

An invocation fails for the number of its arguments, or else for the first argument that its handler does
not take. If it succeeds, the keys stand in the order in which they were first written, and under each of
them is what was written last.
-/

namespace BundleBinding

namespace Registry

variable {κ α : Type} [DecidableEq κ]

theorem keys_insertAll_empty (entries : List (κ × α)) :
    (empty.insertAll entries).keys = (entries.map Prod.fst).eraseDups := by
  induction entries using List.reverseRecOn with
  | nil => rfl
  | append_singleton entries entry ih =>
      rw [insertAll, List.foldl_concat, ← insertAll, keys_insert_of_eraseDups ih, List.map_append,
        List.map_singleton]

theorem get?_insertAll_empty_eq_some_iff {entries : List (κ × α)} {key : κ} {value : α} :
    (empty.insertAll entries).get? key = some value ↔
      ∃ before after, entries = before ++ (key, value) :: after ∧
        ∀ later ∈ after, later.1 ≠ key := by
  rw [get?_insertAll, get?_empty, Option.or_none, List.lookup_eq_some_iff]
  constructor
  · rintro ⟨after, before, hreverse, hafter⟩
    refine ⟨before.reverse, after.reverse, ?_, ?_⟩
    · rw [← List.reverse_reverse entries, hreverse, List.reverse_append, List.reverse_cons,
        List.append_assoc, List.singleton_append]
    · intro later hmem
      exact (bne_iff_ne.mp (hafter later (List.mem_reverse.mp hmem))).symm
  · rintro ⟨before, after, rfl, hafter⟩
    refine ⟨after.reverse, before.reverse, ?_, ?_⟩
    · rw [List.reverse_append, List.reverse_cons, List.append_assoc, List.singleton_append]
    · intro later hmem
      exact bne_iff_ne.mpr (hafter later (List.mem_reverse.mp hmem)).symm

end Registry

namespace Handler

variable {handler : Handler} {argument : Option Value} {fault : Fault}

/-- What is reported for an argument that a handler does not take. -/
inductive Refuses (handler : Handler) : Option Value → Fault → Prop
  | absent (hrequired : handler.required = true) :
      Refuses handler none (.missingRequired handler.key)
  | unfit {value : Value} (hunfit : value.toKind? handler.kind = none) :
      Refuses handler (some value)
        (.argumentKind handler.position handler.key handler.kind value.kind)

theorem prepare_eq_error_iff :
    handler.prepare argument = .error fault ↔ handler.Refuses argument fault := by
  constructor
  · intro hprepare
    cases argument with
    | none =>
        rw [prepare] at hprepare
        split at hprepare
        · next hrequired =>
            cases hprepare
            exact .absent hrequired
        · cases hprepare
    | some value =>
        simp only [prepare] at hprepare
        split at hprepare
        · cases hprepare
        · next hunfit =>
            cases hprepare
            exact .unfit hunfit
  · intro hrefuses
    cases hrefuses with
    | absent hrequired =>
        rw [prepare, hrequired]
        rfl
    | unfit hunfit =>
        simp only [prepare, hunfit]
        rfl

theorem exists_takes_iff :
    (∃ prepared, handler.Takes argument prepared) ↔
      (∀ value, argument = some value →
        ∃ converted, value.toKind? handler.kind = some converted) ∧
      (handler.required = true → argument ≠ none) := by
  constructor
  · rintro ⟨prepared, htakes⟩
    cases htakes with
    | absent hoptional => simp [hoptional]
    | present hfits => simp [hfits]
  · rintro ⟨hfits, hrequired⟩
    cases argument with
    | none => exact ⟨none, .absent (Bool.eq_false_iff.mpr fun h => hrequired h rfl)⟩
    | some value =>
        obtain ⟨converted, hconverted⟩ := hfits value rfl
        exact ⟨some converted, .present hconverted⟩

theorem Refuses.not_takes (hrefuses : handler.Refuses argument fault) :
    ¬ ∃ prepared, handler.Takes argument prepared := by
  rintro ⟨prepared, htakes⟩
  have hprepare := prepare_eq_ok_iff.mpr htakes
  rw [prepare_eq_error_iff.mpr hrefuses] at hprepare
  cases hprepare

end Handler

namespace Factory

variable {factory : Factory} {listeners : List Listener} {handlers : List Handler}
  {arguments : List (Option Value)} {prepared : List (Handler × Option Value)} {fault : Fault}
  {bundle : Bundle}

/-- How an invocation fails. The number of arguments goes before what they are, and the first argument that
is not taken before those behind it. -/
inductive FailsOn (factory : Factory) (arguments : List (Option Value)) : Fault → Prop
  | count (hcount : arguments.length ≠ factory.handlers.length) :
      FailsOn factory arguments
        (.argumentCount factory.handlers.length arguments.length)
  | argument {before after : List (Handler × Option Value)} {handler : Handler}
      {argument : Option Value} {fault : Fault}
      (hcount : arguments.length = factory.handlers.length)
      (hcalls : factory.handlers.zip arguments = before ++ (handler, argument) :: after)
      (hbefore : ∀ earlier ∈ before, ∃ prepared, earlier.1.Takes earlier.2 prepared)
      (hrefuses : handler.Refuses argument fault) :
      FailsOn factory arguments fault

/-- One argument of an invocation, beside its handler. -/
def prepareCall (call : Handler × Option Value) : Except Fault (Handler × Option Value) := do
  pure (call.1, ← call.1.prepare call.2)

theorem prepareCall_eq_error_iff {call : Handler × Option Value} :
    prepareCall call = .error fault ↔ call.1.Refuses call.2 fault := by
  rw [prepareCall, bind_eq_error_iff, Handler.prepare_eq_error_iff]
  exact or_iff_left fun ⟨_, _, hpair⟩ => nomatch hpair

theorem exists_prepareCall_iff {call : Handler × Option Value} :
    (∃ pair, prepareCall call = .ok pair) ↔ ∃ value, call.1.Takes call.2 value := by
  simp only [prepareCall, bind_eq_ok_iff, Handler.prepare_eq_ok_iff]
  constructor
  · rintro ⟨_, value, htakes, _⟩
    exact ⟨value, htakes⟩
  · rintro ⟨value, htakes⟩
    exact ⟨_, value, htakes, rfl⟩

theorem prepare_eq_error_iff :
    factory.prepare arguments = .error fault ↔ factory.FailsOn arguments fault := by
  by_cases hcount : arguments.length = factory.handlers.length
  · rw [prepare, checkCount_of_eq hcount]
    change (factory.handlers.zip arguments).mapM prepareCall = .error fault ↔ _
    rw [mapM_eq_error_iff]
    constructor
    · rintro ⟨before, ⟨handler, argument⟩, after, hcalls, hbefore, hcall⟩
      refine .argument hcount hcalls ?_ (prepareCall_eq_error_iff.mp hcall)
      exact fun earlier hmem => exists_prepareCall_iff.mp (hbefore earlier hmem)
    · intro hfails
      cases hfails with
      | count hne => exact absurd hcount hne
      | argument _ hcalls hbefore hrefuses =>
          refine ⟨_, _, _, hcalls, ?_, prepareCall_eq_error_iff.mpr hrefuses⟩
          exact fun earlier hmem => exists_prepareCall_iff.mpr (hbefore earlier hmem)
  · rw [prepare, checkCount_of_ne hcount]
    constructor
    · intro hfault
      cases hfault
      exact .count hcount
    · intro hfails
      cases hfails with
      | count => rfl
      | argument heq => exact absurd heq hcount

theorem result_eq_error_iff :
    (factory.invoke listeners arguments).result = .error fault ↔
      factory.FailsOn arguments fault := by
  rw [← prepare_eq_error_iff, invoke]
  cases factory.prepare arguments with
  | error other => simp only [Except.error.injEq]
  | ok prepared =>
      constructor
      · intro hresult
        cases hresult
      · intro hprepare
        cases hprepare

/-! ### What is written -/

/-- The entry that an argument calls for, if it is present and fits. -/
def keyedValue? (call : Handler × Option Value) : Option (String × Value) :=
  call.2.bind fun value => (value.toKind? call.1.kind).map fun converted => (call.1.key, converted)

theorem keyedValue?_eq_some_iff {call : Handler × Option Value} {key : String} {value : Value} :
    keyedValue? call = some (key, value) ↔
      ∃ argument, call.2 = some argument ∧ argument.toKind? call.1.kind = some value ∧
        call.1.key = key := by
  simp only [keyedValue?, Option.bind_eq_some_iff, Option.map_eq_some_iff, Prod.mk.injEq]
  constructor
  · rintro ⟨argument, hargument, converted, hfits, hkey, rfl⟩
    exact ⟨argument, hargument, hfits, hkey⟩
  · rintro ⟨argument, hargument, hfits, hkey⟩
    exact ⟨argument, hargument, value, hfits, hkey, rfl⟩

theorem keyedValue?_of_fits {handler : Handler} {value converted : Value}
    (hfits : value.toKind? handler.kind = some converted) :
    keyedValue? (handler, some value) = some (handler.key, converted) :=
  keyedValue?_eq_some_iff.mpr ⟨value, rfl, hfits, rfl⟩

theorem Passes.keyed_written (hpasses : Passes handlers arguments prepared) :
    (written prepared).map keyed = (handlers.zip arguments).filterMap keyedValue? := by
  induction hpasses with
  | nil => rfl
  | cons htakes _ ih =>
      cases htakes with
      | absent => exact ih
      | present hfits =>
          rw [List.zip_cons_cons, List.filterMap_cons_some (keyedValue?_of_fits hfits), ← ih]
          rfl

theorem Passes.map_fst_entries (hpasses : Passes handlers arguments prepared) :
    ((handlers.zip arguments).filterMap keyedValue?).map Prod.fst =
      ((handlers.zip arguments).filter fun call => call.2.isSome).map fun call => call.1.key := by
  induction hpasses with
  | nil => rfl
  | cons htakes _ ih =>
      cases htakes with
      | absent => exact ih
      | present hfits =>
          rw [List.zip_cons_cons, List.filterMap_cons_some (keyedValue?_of_fits hfits),
            List.filter_cons_of_pos rfl, List.map_cons, List.map_cons, ih]

theorem Passes.exists_takes (hpasses : Passes handlers arguments prepared) :
    ∀ call ∈ handlers.zip arguments, ∃ value, call.1.Takes call.2 value := by
  induction hpasses with
  | nil => exact fun call hmem => absurd hmem List.not_mem_nil
  | cons htakes _ ih => exact List.forall_mem_cons.mpr ⟨⟨_, htakes⟩, ih⟩

theorem exists_keyedValue?_of_takes {call : Handler × Option Value}
    (htakes : ∃ value, call.1.Takes call.2 value) (hpresent : call.2.isSome = true) :
    ∃ value, keyedValue? call = some (call.1.key, value) := by
  obtain ⟨argument, hargument⟩ := Option.isSome_iff_exists.mp hpresent
  obtain ⟨converted, hfits⟩ := (Handler.exists_takes_iff.mp htakes).1 argument hargument
  exact ⟨converted, keyedValue?_eq_some_iff.mpr ⟨argument, hargument, hfits, rfl⟩⟩

/-- The last entry under a key is that of the last argument that is present under it. -/
theorem last_entry_iff {calls : List (Handler × Option Value)}
    (htakes : ∀ call ∈ calls, ∃ value, call.1.Takes call.2 value) {key : String} {value : Value} :
    (∃ before after, calls.filterMap keyedValue? = before ++ (key, value) :: after ∧
        ∀ later ∈ after, later.1 ≠ key) ↔
      ∃ before handler argument after, calls = before ++ (handler, some argument) :: after ∧
        handler.key = key ∧ argument.toKind? handler.kind = some value ∧
        ∀ later ∈ after, later.2.isSome = true → later.1.key ≠ key := by
  constructor
  · rintro ⟨before, after, hentries, hafter⟩
    obtain ⟨first, others, rfl, rfl, hothers⟩ := List.filterMap_eq_append_iff.mp hentries
    obtain ⟨between, ⟨handler, _⟩, behind, rfl, _, hcall, rfl⟩ :=
      List.filterMap_eq_cons_iff.mp hothers
    obtain ⟨argument, rfl, hfits, hkey⟩ := keyedValue?_eq_some_iff.mp hcall
    refine ⟨first ++ between, handler, argument, behind, ?_, hkey, hfits, ?_⟩
    · rw [List.append_assoc]
    · intro later hmem hpresent
      have hlater := htakes later (by simp [hmem])
      obtain ⟨written, hwritten⟩ := exists_keyedValue?_of_takes hlater hpresent
      exact hafter _ (List.mem_filterMap.mpr ⟨later, hmem, hwritten⟩)
  · rintro ⟨before, handler, argument, after, rfl, rfl, hfits, hafter⟩
    refine ⟨before.filterMap keyedValue?, after.filterMap keyedValue?, ?_, ?_⟩
    · rw [List.filterMap_append, List.filterMap_cons_some (keyedValue?_of_fits hfits)]
    · rintro ⟨other, written⟩ hmem
      obtain ⟨later, hlater, hentry⟩ := List.mem_filterMap.mp hmem
      obtain ⟨present, hpresent, _, rfl⟩ := keyedValue?_eq_some_iff.mp hentry
      exact hafter later hlater (Option.isSome_iff_exists.mpr ⟨present, hpresent⟩)

theorem exists_bundle_iff :
    (∃ bundle, (factory.invoke listeners arguments).result = .ok bundle) ↔
      arguments.length = factory.handlers.length ∧
        ∀ call ∈ factory.handlers.zip arguments, ∃ value, call.1.Takes call.2 value := by
  constructor
  · rintro ⟨bundle, hinvoke⟩
    obtain ⟨prepared, hpasses, _⟩ := exists_passes_of_invoke hinvoke
    exact ⟨hpasses.length_eq, hpasses.exists_takes⟩
  · rintro ⟨hcount, htakes⟩
    cases hresult : (factory.invoke listeners arguments).result with
    | ok bundle => exact ⟨bundle, rfl⟩
    | error fault =>
        cases result_eq_error_iff.mp hresult with
        | count hne => exact absurd hcount hne
        | @argument _ _ handler argument _ _ hcalls _ hrefuses =>
            have hcall : (handler, argument) ∈ factory.handlers.zip arguments := by
              simp [hcalls]
            exact absurd (htakes _ hcall) hrefuses.not_takes

theorem keys_of_invoke (hinvoke : (factory.invoke listeners arguments).result = .ok bundle) :
    bundle.keys =
      (((factory.handlers.zip arguments).filter fun call => call.2.isSome).map
        fun call => call.1.key).eraseDups := by
  obtain ⟨prepared, hpasses, rfl⟩ := exists_passes_of_invoke hinvoke
  rw [fill_eq, hpasses.keyed_written, Registry.keys_insertAll_empty, hpasses.map_fst_entries]

theorem get?_of_invoke (hinvoke : (factory.invoke listeners arguments).result = .ok bundle)
    {key : String} {value : Value} :
    bundle.get? key = some value ↔
      ∃ before handler argument after,
        factory.handlers.zip arguments = before ++ (handler, some argument) :: after ∧
        handler.key = key ∧ argument.toKind? handler.kind = some value ∧
        ∀ later ∈ after, later.2.isSome = true → later.1.key ≠ key := by
  obtain ⟨prepared, hpasses, rfl⟩ := exists_passes_of_invoke hinvoke
  rw [fill_eq, hpasses.keyed_written, Registry.get?_insertAll_empty_eq_some_iff,
    last_entry_iff hpasses.exists_takes]

end Factory

/-- **An invocation does what its handlers say.** It succeeds exactly if there is an argument for each
handler and each handler takes its argument. Then the keys of the arguments that are present stand in the
bundle in the order in which they come first, and each holds the last argument under it. -/
theorem invocation_outcome (factory : Factory) (listeners : List Listener)
    (arguments : List (Option Value)) :
    ((∃ bundle, (factory.invoke listeners arguments).result = .ok bundle) ↔
      arguments.length = factory.handlers.length ∧
        ∀ handler argument, (handler, argument) ∈ factory.handlers.zip arguments →
          (∀ value, argument = some value →
            ∃ converted, value.toKind? handler.kind = some converted) ∧
          (handler.required = true → argument ≠ none)) ∧
    (∀ fault, (factory.invoke listeners arguments).result = .error fault ↔
      factory.FailsOn arguments fault) ∧
    ∀ bundle, (factory.invoke listeners arguments).result = .ok bundle →
      bundle.keys =
        (((factory.handlers.zip arguments).filter fun call => call.2.isSome).map
          fun call => call.1.key).eraseDups ∧
      ∀ key value, bundle.get? key = some value ↔
        ∃ before handler argument after,
          factory.handlers.zip arguments = before ++ (handler, some argument) :: after ∧
          handler.key = key ∧ argument.toKind? handler.kind = some value ∧
          value.kind = handler.kind ∧
          ∀ later ∈ after, later.2.isSome = true → later.1.key ≠ key := by
  refine ⟨?_, fun fault => Factory.result_eq_error_iff, ?_⟩
  · rw [Factory.exists_bundle_iff]
    simp only [Prod.forall, Handler.exists_takes_iff]
  · intro bundle hinvoke
    refine ⟨Factory.keys_of_invoke hinvoke, ?_⟩
    intro key value
    rw [Factory.get?_of_invoke hinvoke]
    constructor
    · rintro ⟨before, handler, argument, after, hcalls, hkey, hfits, hafter⟩
      exact ⟨before, handler, argument, after, hcalls, hkey, hfits,
        (Value.toKind?_eq_some hfits).1, hafter⟩
    · rintro ⟨before, handler, argument, after, hcalls, hkey, hfits, _, hafter⟩
      exact ⟨before, handler, argument, after, hcalls, hkey, hfits, hafter⟩

end BundleBinding
