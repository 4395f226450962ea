import BundleBinding.Proofs.Invocation
import BundleBinding.Proofs.ValuesInJson
import BundleBinding.Service.Binder

/-!
# Arguments from JSON

Reading an argument of the handler's kind gives what the handler would have made of the value that was
written. So values can be passed to a method as they are or in JSON, where null stands for an absent one.
-/

namespace BundleBinding

namespace Value

/-- A value that is converted is written as before. -/
theorem toKind?_eq_some {value converted : Value} {kind : Kind}
    (hfits : value.toKind? kind = some converted) :
    converted.kind = kind ∧ converted.toJson = value.toJson ∧
      converted.isFinite = value.isFinite := by
  unfold toKind? at hfits
  split at hfits
  · next hkind =>
      cases hfits
      exact ⟨hkind, rfl, rfl⟩
  · split at hfits
    · cases hfits
      exact ⟨rfl, rfl, rfl⟩
    · cases hfits
      exact ⟨rfl, rfl, rfl⟩
    · cases hfits
      exact ⟨rfl, rfl, rfl⟩
    · cases hfits

theorem toKind?_self {value : Value} {kind : Kind} (hkind : value.kind = kind) :
    value.toKind? kind = some value := by
  unfold toKind?
  rw [if_pos hkind]

theorem toJson_ne_null {value : Value} (hfinite : value.isFinite = true)
    (hnull : value ≠ .serializable .null) : value.toJson ≠ .null := by
  intro hjson
  cases value with
  | float value =>
      rw [toJson, Json.float, if_pos (Single.exists_significand_widen hfinite).1] at hjson
      cases hjson
  | double value =>
      have hvalue : value.isFinite = true := hfinite
      rw [toJson, Json.float, if_pos hvalue] at hjson
      cases hjson
  | serializable json =>
      cases hjson
      exact hnull rfl
  | _ => cases hjson

/-- An argument in JSON. -/
def argumentJson (argument : Option Value) : Json :=
  (argument.map toJson).getD .null

end Value

/-- The argument is absent or a value that JSON tells from an absent one. -/
def HasJson (argument : Option Value) : Prop :=
  ∀ value, argument = some value → value.isFinite = true ∧ value ≠ .serializable .null

theorem Handler.readArgument_of_ne_null (handler : Handler) {json : Json} (hnull : json ≠ .null) :
    handler.readArgument json = some <$> Value.ofJson handler.kind handler.key json := by
  cases json with
  | null => exact absurd rfl hnull
  | _ => rfl

/-- What is read is what the handler takes the written value for, and the handler takes it as it is. -/
theorem Handler.Takes.readArgument {handler : Handler} {argument prepared : Option Value}
    (htakes : handler.Takes argument prepared) (hjson : HasJson argument) :
    handler.readArgument (Value.argumentJson argument) = .ok prepared ∧
      handler.Takes prepared prepared := by
  cases htakes with
  | absent hoptional => exact ⟨rfl, .absent hoptional⟩
  | @present value converted hfits =>
      obtain ⟨hfinite, hnull⟩ := hjson value rfl
      obtain ⟨hkind, hsame, hconverted⟩ := Value.toKind?_eq_some hfits
      have hread : Value.read handler.kind value.toJson = .ok converted := by
        rw [← hkind, ← hsame]
        exact Value.read_toJson (hconverted.trans hfinite)
      refine ⟨?_, .present (Value.toKind?_self hkind)⟩
      change handler.readArgument value.toJson = _
      rw [handler.readArgument_of_ne_null (Value.toJson_ne_null hfinite hnull), Value.ofJson, hread]
      rfl

namespace Factory

variable {factory : Factory} {handlers : List Handler} {arguments : List (Option Value)}
  {prepared : List (Handler × Option Value)}

theorem Passes.mapM_readArgument (hpasses : Passes handlers arguments prepared)
    (hjson : ∀ argument ∈ arguments, HasJson argument) :
    ((handlers.zip (arguments.map Value.argumentJson)).mapM fun (handler, json) =>
        handler.readArgument json) = .ok (prepared.map Prod.snd) ∧
      Passes handlers (prepared.map Prod.snd) prepared := by
  rw [mapM_eq_ok_iff]
  induction hpasses with
  | nil => exact ⟨.nil, .nil⟩
  | cons htakes _ ih =>
      obtain ⟨hfirst, hothers⟩ := List.forall_mem_cons.mp hjson
      obtain ⟨hread, hagain⟩ := htakes.readArgument hfirst
      obtain ⟨hmapped, hpassed⟩ := ih hothers
      exact ⟨.cons hread hmapped, .cons hagain hpassed⟩

theorem Passes.readArguments (hpasses : Passes factory.handlers arguments prepared)
    (hjson : ∀ argument ∈ arguments, HasJson argument) :
    factory.readArguments (arguments.map Value.argumentJson) = .ok (prepared.map Prod.snd) ∧
      Passes factory.handlers (prepared.map Prod.snd) prepared := by
  obtain ⟨hmapped, hagain⟩ := hpasses.mapM_readArgument hjson
  refine ⟨?_, hagain⟩
  rw [Factory.readArguments, checkCount, List.length_map, arity, if_pos hpasses.length_eq]
  exact hmapped

/-- What passes as values passes in JSON, with the same announcements and the same bundle. -/
theorem exists_readArguments_of_invoke {listeners : List Listener} {bundle : Bundle}
    (hinvoke : (factory.invoke listeners arguments).result = .ok bundle)
    (hjson : ∀ argument ∈ arguments, HasJson argument) :
    ∃ decoded, factory.readArguments (arguments.map Value.argumentJson) = .ok decoded ∧
      factory.invoke listeners decoded = factory.invoke listeners arguments := by
  obtain ⟨prepared, hpasses, -⟩ := exists_passes_of_invoke hinvoke
  obtain ⟨hread, hagain⟩ := hpasses.readArguments hjson
  refine ⟨_, hread, ?_⟩
  rw [invoke_of_passes hagain, invoke_of_passes hpasses]

end Factory

theorem Binder.callJson_eq_call {binder : Binder} {cache : Cache} {service : ServiceInterface}
    {name : String} {arguments : List (Option Value)} {bundle : Bundle}
    (hcall : (binder.call cache service name arguments).1.result = .ok bundle)
    (hjson : ∀ argument ∈ arguments, HasJson argument) :
    binder.callJson cache service name (arguments.map Value.argumentJson) =
      binder.call cache service name arguments := by
  rw [call] at hcall
  rw [callJson, call]
  split at hcall
  · cases hcall
  · next method _ =>
      rw [Binder.invoke] at hcall ⊢
      split at hcall
      · next factory cache hfactory =>
          obtain ⟨decoded, hread, hsame⟩ := Factory.exists_readArguments_of_invoke hcall hjson
          simp only [hfactory, hread, hsame]
      · cases hcall

/-- **Arguments may as well come in JSON.** Where an invocation succeeds, every present argument can be
given as it is written in JSON and every absent one as null, unless a number is infinite or undefined or a
value is itself written as null. Reading them succeeds, and what is read leads to the same bundle and is
announced alike. -/
theorem json_arguments_agree {factory : Factory} {listeners : List Listener}
    {arguments : List (Option Value)} {bundle : Bundle}
    (hinvoke : (factory.invoke listeners arguments).result = .ok bundle)
    (hfinite : ∀ value, some value ∈ arguments → value.isFinite = true)
    (hnull : some (Value.serializable .null) ∉ arguments) :
    ∃ decoded, factory.readArguments (arguments.map Value.argumentJson) = .ok decoded ∧
      factory.invoke listeners decoded = factory.invoke listeners arguments ∧
      (factory.invoke listeners decoded).result = .ok bundle := by
  have hjson : ∀ argument ∈ arguments, HasJson argument := by
    rintro _ hmem value rfl
    exact ⟨hfinite value hmem, fun hvalue => hnull (hvalue ▸ hmem)⟩
  obtain ⟨decoded, hread, hsame⟩ := Factory.exists_readArguments_of_invoke hinvoke hjson
  exact ⟨decoded, hread, hsame, hsame ▸ hinvoke⟩

/-- A factory for a character sequence, an optional integer and a required number. -/
def titledFactory : Factory where
  method := ⟨"Api", "open", []⟩
  handlers :=
    [⟨0, .charSequence, "title", false⟩, ⟨1, .long, "limit", false⟩, ⟨2, .float, "weight", true⟩]

/-- A string stands for the character sequence, the integer is absent, and the number is the least above
zero. -/
theorem titled_arguments_agree :
    ∃ decoded,
      titledFactory.readArguments
          [.string "Inbox", .null, .float (Single.widen ⟨1⟩)] = .ok decoded ∧
      (titledFactory.invoke [] decoded).result =
        .ok ((Registry.empty.insert "title" (.charSequence "Inbox")).insert "weight"
          (.float ⟨1⟩)) := by
  obtain ⟨decoded, hread, -, hresult⟩ := @json_arguments_agree titledFactory []
    [some (.string "Inbox"), none, some (.float ⟨1⟩)] _ rfl
    (by
      intro value hmem
      simp only [List.mem_cons, Option.some.injEq, reduceCtorEq, List.not_mem_nil, or_false,
        false_or] at hmem
      obtain rfl | rfl := hmem <;> decide)
    (by simp)
  exact ⟨decoded, hread, hresult⟩

end BundleBinding
