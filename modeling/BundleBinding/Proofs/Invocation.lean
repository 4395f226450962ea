import BundleBinding.Proofs.Traversal
import BundleBinding.Service.Factory

/-!
# Arguments that pass

An invocation succeeds if there is an argument for each handler and each handler takes its argument. What
is written then depends on the handlers and the arguments alone, pair by pair.
-/

namespace BundleBinding

/-- What a handler makes of an argument that it takes. -/
inductive Handler.Takes (handler : Handler) : Option Value → Option Value → Prop
  | absent (hoptional : handler.required = false) : Takes handler none none
  | present {value converted : Value} (hfits : value.toKind? handler.kind = some converted) :
      Takes handler (some value) (some converted)

theorem Handler.prepare_eq_ok_iff {handler : Handler} {argument prepared : Option Value} :
    handler.prepare argument = .ok prepared ↔ handler.Takes argument prepared := by
  constructor
  · intro hprepare
    cases argument with
    | none =>
        rw [Handler.prepare] at hprepare
        split at hprepare
        · cases hprepare
        · next hoptional =>
            cases hprepare
            exact .absent (Bool.eq_false_iff.mpr hoptional)
    | some value =>
        simp only [Handler.prepare] at hprepare
        split at hprepare
        · next converted hfits =>
            cases hprepare
            exact .present hfits
        · cases hprepare
  · intro htakes
    cases htakes with
    | absent hoptional =>
        rw [Handler.prepare, hoptional]
        rfl
    | present hfits =>
        simp only [Handler.prepare, hfits]
        rfl

namespace Factory

variable {factory : Factory} {handlers : List Handler} {arguments : List (Option Value)}
  {prepared : List (Handler × Option Value)}

/-- Each handler takes the argument at its place and gives the value beside it. -/
inductive Passes : List Handler → List (Option Value) → List (Handler × Option Value) → Prop
  | nil : Passes [] [] []
  | cons {handler : Handler} {handlers : List Handler} {argument value : Option Value}
      {arguments : List (Option Value)} {prepared : List (Handler × Option Value)}
      (htakes : handler.Takes argument value) (hpasses : Passes handlers arguments prepared) :
      Passes (handler :: handlers) (argument :: arguments) ((handler, value) :: prepared)

theorem Passes.length_eq (hpasses : Passes handlers arguments prepared) :
    arguments.length = handlers.length := by
  induction hpasses with
  | nil => rfl
  | cons _ _ ih => rw [List.length_cons, List.length_cons, ih]

theorem mapM_prepare_eq_ok_iff (hlength : arguments.length = handlers.length) :
    ((handlers.zip arguments).mapM fun (handler, argument) => do
        pure (handler, ← handler.prepare argument)) = .ok prepared ↔
      Passes handlers arguments prepared := by
  rw [mapM_eq_ok_iff]
  induction handlers generalizing arguments prepared with
  | nil =>
      cases List.eq_nil_of_length_eq_zero hlength
      rw [List.zip_nil_left, List.forall₂_nil_left_iff]
      constructor
      · rintro rfl
        exact .nil
      · intro hpasses
        cases hpasses
        rfl
  | cons handler handlers ih =>
      obtain ⟨argument, arguments, rfl⟩ := List.exists_cons_of_length_eq_add_one hlength
      have hothers := @ih arguments
      rw [List.zip_cons_cons]
      constructor
      · intro hforall
        cases hforall with
        | cons hfirst hrest =>
            obtain ⟨value, hvalue, hpair⟩ := bind_eq_ok_iff.mp hfirst
            cases hpair
            exact .cons (Handler.prepare_eq_ok_iff.mp hvalue)
              ((hothers (Nat.succ.inj hlength)).mp hrest)
      · intro hpasses
        cases hpasses with
        | cons htakes hpasses =>
            exact .cons (bind_eq_ok_iff.mpr ⟨_, Handler.prepare_eq_ok_iff.mpr htakes, rfl⟩)
              ((hothers (Nat.succ.inj hlength)).mpr hpasses)

theorem checkCount_of_eq (hcount : arguments.length = factory.handlers.length) :
    factory.checkCount arguments.length = .ok () := by
  rw [checkCount, arity, if_pos hcount]
  rfl

theorem checkCount_of_ne (hcount : arguments.length ≠ factory.handlers.length) :
    factory.checkCount arguments.length =
      .error (.argumentCount factory.handlers.length arguments.length) := by
  rw [checkCount, arity, if_neg hcount]
  rfl

theorem prepare_eq_ok_iff :
    factory.prepare arguments = .ok prepared ↔ Passes factory.handlers arguments prepared := by
  by_cases hcount : arguments.length = factory.handlers.length
  · rw [Factory.prepare, checkCount_of_eq hcount]
    exact mapM_prepare_eq_ok_iff hcount
  · rw [Factory.prepare, checkCount_of_ne hcount]
    constructor
    · intro hprepared
      cases hprepared
    · exact fun hpasses => absurd hpasses.length_eq hcount

/-- The entries among prepared values, in the order in which they are written. -/
def written (prepared : List (Handler × Option Value)) : List (Handler × Value) :=
  prepared.filterMap fun (handler, value) => value.map fun value => (handler, value)

def write (bundle : Bundle) (entry : Handler × Value) : Bundle :=
  bundle.insert entry.1.key entry.2

/-- The bundle that holds the entries; a later entry under a key replaces an earlier one. -/
def fill (entries : List (Handler × Value)) : Bundle :=
  entries.foldl write Registry.empty

/-- The event that announces an entry. -/
def bundling (factory : Factory) (entry : Handler × Value) : Event :=
  .bundling factory.method entry.1.key entry.2 entry.1.required

/-- What the entries and the finished bundle announce: each event to all listeners in turn. -/
def announcements (factory : Factory) (listeners : List Listener)
    (entries : List (Handler × Value)) : List Notice :=
  (entries.map factory.bundling ++ [Event.completed factory.method (fill entries)]).flatMap
    fun event => event.announce listeners

/-- Filling writes the entries and announces them, and does nothing else. -/
theorem foldl_fillNext (factory : Factory) (listeners : List Listener)
    (prepared : List (Handler × Option Value)) (filling : Filling) :
    prepared.foldl (factory.fillNext listeners) filling =
      ⟨(written prepared).foldl write filling.bundle,
        filling.notices ++ (written prepared).flatMap
          fun entry => (factory.bundling entry).announce listeners⟩ := by
  induction prepared generalizing filling with
  | nil => simp [written]
  | cons entry prepared ih =>
      obtain ⟨handler, value⟩ := entry
      rw [List.foldl_cons, ih]
      cases value with
      | none => rfl
      | some value =>
          have hwritten : written ((handler, some value) :: prepared) =
              (handler, value) :: written prepared := rfl
          rw [hwritten, List.foldl_cons, List.flatMap_cons, ← List.append_assoc]
          rfl

theorem invoke_of_passes (hpasses : Passes factory.handlers arguments prepared)
    (listeners : List Listener) :
    factory.invoke listeners arguments =
      ⟨factory.announcements listeners (written prepared), .ok (fill (written prepared))⟩ := by
  rw [invoke, prepare_eq_ok_iff.mpr hpasses]
  simp only [foldl_fillNext, List.nil_append, announcements, List.flatMap_append, List.flatMap_map,
    List.flatMap_singleton]
  rfl

theorem exists_passes_of_invoke {listeners : List Listener} {bundle : Bundle}
    (hinvoke : (factory.invoke listeners arguments).result = .ok bundle) :
    ∃ prepared, Passes factory.handlers arguments prepared ∧ bundle = fill (written prepared) := by
  cases hprepare : factory.prepare arguments with
  | error fault =>
      rw [invoke, hprepare] at hinvoke
      cases hinvoke
  | ok prepared =>
      have hpasses := prepare_eq_ok_iff.mp hprepare
      rw [invoke_of_passes hpasses] at hinvoke
      cases hinvoke
      exact ⟨prepared, hpasses, rfl⟩

end Factory

end BundleBinding
