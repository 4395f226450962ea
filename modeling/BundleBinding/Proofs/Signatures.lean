import BundleBinding.Proofs.CacheRuns
import BundleBinding.Proofs.Offers
import BundleBinding.Proofs.Traversal

/-!
# Valid signatures

A method is compiled if it returns a bundle and each of its parameters has one annotation of the catalog, of
a kind that takes the type of the parameter, with a key. Otherwise the report is of the return type, or else
of the first parameter with something wrong.
-/

namespace BundleBinding

namespace Annotation

def Declares (mark : Annotation) (kind : Kind) : Prop :=
  mark.simpleName = kind.marker

/-- The annotation is one of the catalog. -/
def IsBinding (mark : Annotation) : Prop :=
  ∃ kind, mark.Declares kind

variable {mark : Annotation} {kind : Kind} {binding : DeclaredBinding}

theorem binding?_of_declares (hkind : mark.Declares kind) :
    mark.binding? = some ⟨kind, mark.value, mark.description.getD ""⟩ := by
  rw [binding?, Kind.ofMarker?_eq_some_iff.mpr hkind, Option.map_some]

theorem binding?_eq_some_iff :
    mark.binding? = some binding ↔
      mark.Declares binding.kind ∧
        binding = ⟨binding.kind, mark.value, mark.description.getD ""⟩ := by
  constructor
  · intro hbinding
    obtain ⟨kind, hkind, rfl⟩ := Option.map_eq_some_iff.mp hbinding
    exact ⟨Kind.ofMarker?_eq_some_iff.mp hkind, rfl⟩
  · rintro ⟨hkind, hbinding⟩
    rw [hbinding]
    exact binding?_of_declares hkind

theorem isBinding_iff : mark.IsBinding ↔ ∃ binding, mark.binding? = some binding := by
  constructor
  · rintro ⟨kind, hkind⟩
    exact ⟨_, binding?_of_declares hkind⟩
  · rintro ⟨binding, hbinding⟩
    exact ⟨binding.kind, (binding?_eq_some_iff.mp hbinding).1⟩

theorem binding?_eq_none_iff : mark.binding? = none ↔ ¬ mark.IsBinding := by
  rw [isBinding_iff]
  cases mark.binding? <;> simp

end Annotation

/-! ### The annotations of a parameter -/

section DeclaredBindings

open Annotation

variable {annotations : List Annotation} {mark : Annotation} {kind : Kind}
  {binding : DeclaredBinding}

/-- The only annotation of the catalog among others, and its kind. -/
def SoleBinding (annotations : List Annotation) (mark : Annotation) (kind : Kind) : Prop :=
  mark.Declares kind ∧ ∃ before after, annotations = before ++ mark :: after ∧
    ∀ other ∈ before ++ after, ¬ other.IsBinding

def SeveralBindings (annotations : List Annotation) : Prop :=
  ∃ first second, [first, second].Sublist annotations ∧ first.IsBinding ∧ second.IsBinding

theorem declaredBindings_eq_nil_iff :
    declaredBindings annotations = [] ↔ ∀ mark ∈ annotations, ¬ mark.IsBinding := by
  rw [declaredBindings, List.filterMap_eq_nil_iff]
  simp only [binding?_eq_none_iff]

theorem declaredBindings_of_sole (hsole : SoleBinding annotations mark kind) :
    declaredBindings annotations = [⟨kind, mark.value, mark.description.getD ""⟩] := by
  obtain ⟨hkind, before, after, rfl, hothers⟩ := hsole
  have hbefore : declaredBindings before = [] :=
    declaredBindings_eq_nil_iff.mpr fun other hmem =>
      hothers other (List.mem_append_left after hmem)
  have hafter : declaredBindings after = [] :=
    declaredBindings_eq_nil_iff.mpr fun other hmem =>
      hothers other (List.mem_append_right before hmem)
  unfold declaredBindings at hbefore hafter ⊢
  rw [List.filterMap_append, List.filterMap_cons_some (binding?_of_declares hkind),
    hbefore, hafter, List.nil_append]

theorem exists_sole_of_declaredBindings (hbindings : declaredBindings annotations = [binding]) :
    ∃ mark, SoleBinding annotations mark binding.kind ∧ mark.value = binding.key := by
  obtain ⟨before, mark, after, rfl, hbefore, hmark, hafter⟩ :=
    List.filterMap_eq_cons_iff.mp hbindings
  obtain ⟨hkind, hbinding⟩ := binding?_eq_some_iff.mp hmark
  refine ⟨mark, ⟨hkind, before, after, rfl, ?_⟩, ?_⟩
  · intro other hmem
    rw [← binding?_eq_none_iff]
    rcases List.mem_append.mp hmem with hmem | hmem
    · exact hbefore other hmem
    · exact List.filterMap_eq_nil_iff.mp hafter other hmem
  · rw [hbinding]

theorem severalBindings_iff :
    SeveralBindings annotations ↔
      ∃ first second others, declaredBindings annotations = first :: second :: others := by
  constructor
  · rintro ⟨mark, other, hsublist, hmark, hother⟩
    obtain ⟨first, hfirst⟩ := isBinding_iff.mp hmark
    obtain ⟨second, hsecond⟩ := isBinding_iff.mp hother
    have hlength : 2 ≤ (declaredBindings annotations).length := by
      have hpair := (hsublist.filterMap Annotation.binding?).length_le
      rwa [List.filterMap_cons_some hfirst, List.filterMap_cons_some hsecond] at hpair
    match hbindings : declaredBindings annotations with
    | [] => rw [hbindings] at hlength; cases hlength
    | [_] => rw [hbindings] at hlength; cases Nat.le_of_succ_le_succ hlength
    | first :: second :: others => exact ⟨first, second, others, rfl⟩
  · rintro ⟨first, second, others, hbindings⟩
    obtain ⟨before, mark, after, rfl, _, hmark, hafter⟩ := List.filterMap_eq_cons_iff.mp hbindings
    obtain ⟨between, other, behind, rfl, _, hother, _⟩ := List.filterMap_eq_cons_iff.mp hafter
    refine ⟨mark, other, ?_, isBinding_iff.mpr ⟨first, hmark⟩,
      isBinding_iff.mpr ⟨second, hother⟩⟩
    apply List.sublist_append_of_sublist_right
    apply List.Sublist.cons_cons
    exact List.singleton_sublist.mpr (List.mem_append_right between List.mem_cons_self)

end DeclaredBindings

/-! ### One parameter -/

namespace Parameter

variable {table : TypeTable} {parameter : Parameter} {kind : Kind} {key : String}
  {problem : ParameterFault} {method : MethodId} {position : Nat} {handler : Handler} {fault : Fault}

/-- One annotation of the catalog, of a kind that takes the type of the parameter, with a key. -/
def BindsAs (table : TypeTable) (parameter : Parameter) (kind : Kind) (key : String) : Prop :=
  ∃ mark, SoleBinding parameter.annotations mark kind ∧
    kind.accepts table parameter.type = true ∧ mark.value = some key

/-- What can be wrong with a parameter. Its type is looked at only if it has one annotation of the catalog,
and the key only if the type is right. -/
inductive Offends (table : TypeTable) (parameter : Parameter) : ParameterFault → Prop
  | unannotated (hnone : ∀ mark ∈ parameter.annotations, ¬ mark.IsBinding) :
      Offends table parameter .unannotated
  | severalAnnotations (hseveral : SeveralBindings parameter.annotations) :
      Offends table parameter .severalAnnotations
  | typeRejected {mark : Annotation} {kind : Kind}
      (hsole : SoleBinding parameter.annotations mark kind)
      (htype : kind.accepts table parameter.type = false) :
      Offends table parameter
        (.typeRejected kind.marker kind.rule.render parameter.type.render)
  | noKey {mark : Annotation} {kind : Kind}
      (hsole : SoleBinding parameter.annotations mark kind)
      (htype : kind.accepts table parameter.type = true) (hkey : mark.value = none) :
      Offends table parameter (.noKey kind.marker)

theorem ofParameter_of_bindsAs (hbinds : parameter.BindsAs table kind key) (method : MethodId)
    (position : Nat) :
    Handler.ofParameter table method position parameter =
      .ok ⟨position, kind, key, isRequired parameter.annotations⟩ := by
  obtain ⟨mark, hsole, htype, hkey⟩ := hbinds
  simp only [Handler.ofParameter, declaredBindings_of_sole hsole, htype, hkey, if_true]
  rfl

theorem ofParameter_of_offends (hoffends : parameter.Offends table problem) (method : MethodId)
    (position : Nat) :
    Handler.ofParameter table method position parameter =
      .error (.parameter method position problem) := by
  cases hoffends with
  | unannotated hnone =>
      simp only [Handler.ofParameter, declaredBindings_eq_nil_iff.mpr hnone]
      rfl
  | severalAnnotations hseveral =>
      obtain ⟨first, second, others, hbindings⟩ := severalBindings_iff.mp hseveral
      simp only [Handler.ofParameter, hbindings]
      rfl
  | typeRejected hsole htype =>
      simp only [Handler.ofParameter, declaredBindings_of_sole hsole, htype, Bool.false_eq_true,
        if_false]
      rfl
  | noKey hsole htype hkey =>
      simp only [Handler.ofParameter, declaredBindings_of_sole hsole, htype, hkey, if_true]
      rfl

theorem bindsAs_or_offends (table : TypeTable) (parameter : Parameter) :
    (∃ kind key, parameter.BindsAs table kind key) ∨
      ∃ problem, parameter.Offends table problem := by
  match hbindings : declaredBindings parameter.annotations with
  | [] => exact .inr ⟨_, .unannotated (declaredBindings_eq_nil_iff.mp hbindings)⟩
  | first :: second :: others =>
      exact .inr ⟨_, .severalAnnotations (severalBindings_iff.mpr ⟨_, _, _, hbindings⟩)⟩
  | [binding] =>
      obtain ⟨mark, hsole, hvalue⟩ := exists_sole_of_declaredBindings hbindings
      cases htype : binding.kind.accepts table parameter.type with
      | false => exact .inr ⟨_, .typeRejected hsole htype⟩
      | true =>
          cases hkey : binding.key with
          | none => exact .inr ⟨_, .noKey hsole htype (hvalue.trans hkey)⟩
          | some key => exact .inl ⟨binding.kind, key, mark, hsole, htype, hvalue.trans hkey⟩

theorem ofParameter_eq_ok_iff :
    Handler.ofParameter table method position parameter = .ok handler ↔
      handler.position = position ∧ parameter.BindsAs table handler.kind handler.key ∧
        handler.required = isRequired parameter.annotations := by
  constructor
  · intro hhandler
    obtain ⟨kind, key, hbinds⟩ | ⟨problem, hoffends⟩ := bindsAs_or_offends table parameter
    · rw [ofParameter_of_bindsAs hbinds] at hhandler
      cases hhandler
      exact ⟨rfl, hbinds, rfl⟩
    · rw [ofParameter_of_offends hoffends] at hhandler
      cases hhandler
  · rintro ⟨rfl, hbinds, hrequired⟩
    rw [ofParameter_of_bindsAs hbinds, ← hrequired]

theorem ofParameter_eq_error_iff :
    Handler.ofParameter table method position parameter = .error fault ↔
      ∃ problem, parameter.Offends table problem ∧ fault = .parameter method position problem := by
  constructor
  · intro hfault
    obtain ⟨kind, key, hbinds⟩ | ⟨problem, hoffends⟩ := bindsAs_or_offends table parameter
    · rw [ofParameter_of_bindsAs hbinds] at hfault
      cases hfault
    · rw [ofParameter_of_offends hoffends] at hfault
      cases hfault
      exact ⟨problem, hoffends, rfl⟩
  · rintro ⟨problem, hoffends, rfl⟩
    exact ofParameter_of_offends hoffends method position

theorem not_bindsAs_of_offends (hoffends : parameter.Offends table problem) :
    ¬ parameter.BindsAs table kind key := by
  intro hbinds
  have hhandler := ofParameter_of_bindsAs hbinds ⟨"", "", []⟩ 0
  rw [ofParameter_of_offends hoffends] at hhandler
  cases hhandler

end Parameter

theorem isRequired_iff {annotations : List Annotation} :
    isRequired annotations = true ↔ ∃ mark ∈ annotations, mark.simpleName = "Required" := by
  simp only [isRequired, isAnnotatedWith, List.any_eq_true, beq_iff_eq, requiredMarker]

/-! ### All parameters -/

namespace Factory

variable {table : TypeTable} {method : Method} {factory : Factory} {fault : Fault}

theorem compile_eq_error_iff :
    compile table method = .error fault ↔
      method.returns ≠ .named TypeRef.bundle ∧
          fault = .returnType method.id TypeRef.bundle method.returns.render ∨
        method.returns = .named TypeRef.bundle ∧
          (method.parameters.zipIdx.mapM fun (parameter, position) =>
            Handler.ofParameter table method.id position parameter) = .error fault := by
  by_cases hreturns : method.returns = .named TypeRef.bundle
  · rw [compile_of_returns hreturns]
    cases method.parameters.zipIdx.mapM fun (parameter, position) =>
        Handler.ofParameter table method.id position parameter with
    | error other => simp [hreturns, Except.map]
    | ok handlers => simp [hreturns, Except.map]
  · rw [compile_of_returns_ne hreturns]
    simp [hreturns, eq_comm]

theorem handlers_of_compile (hcompile : compile table method = .ok factory) :
    factory.handlers.length = method.parameters.length ∧
      ∀ position parameter handler, method.parameters[position]? = some parameter →
        factory.handlers[position]? = some handler →
        Handler.ofParameter table method.id position parameter = .ok handler := by
  obtain ⟨_, handlers, hhandlers, rfl⟩ := compile_eq_ok_iff.mp hcompile
  obtain ⟨hlength, hget⟩ := List.forall₂_iff_get.mp (mapM_eq_ok_iff.mp hhandlers)
  rw [List.length_zipIdx] at hlength
  refine ⟨hlength.symm, ?_⟩
  intro position parameter handler hparameter hhandler
  obtain ⟨hbound, rfl⟩ := List.getElem?_eq_some_iff.mp hparameter
  obtain ⟨hwithin, rfl⟩ := List.getElem?_eq_some_iff.mp hhandler
  have hstep := hget position (by rwa [List.length_zipIdx]) hwithin
  simpa using hstep

theorem forall_bindsAs_of_compile (hcompile : compile table method = .ok factory) :
    ∀ parameter ∈ method.parameters, ∃ kind key, parameter.BindsAs table kind key := by
  obtain ⟨hlength, hhandlers⟩ := handlers_of_compile hcompile
  intro parameter hmem
  obtain ⟨position, hbound, rfl⟩ := List.getElem_of_mem hmem
  have hwithin : position < factory.handlers.length := hlength ▸ hbound
  have hhandler := hhandlers position _ _ (List.getElem?_eq_getElem hbound)
    (List.getElem?_eq_getElem hwithin)
  exact ⟨_, _, (Parameter.ofParameter_eq_ok_iff.mp hhandler).2.1⟩

end Factory

/-- How a signature fails. A wrong return type goes before what is wrong with parameters, and the first
parameter at fault before those behind it. -/
inductive Method.Fails (table : TypeTable) (method : Method) : Fault → Prop
  | returns (hreturns : method.returns ≠ .declared "android.os.Bundle" []) :
      Fails table method (.returnType method.id "android.os.Bundle" method.returns.render)
  | parameter {before after : List Parameter} {parameter : Parameter} {problem : ParameterFault}
      (hreturns : method.returns = .declared "android.os.Bundle" [])
      (hparameters : method.parameters = before ++ parameter :: after)
      (hbefore : ∀ earlier ∈ before, ∃ kind key, earlier.BindsAs table kind key)
      (hoffends : parameter.Offends table problem) :
      Fails table method (.parameter method.id before.length problem)

theorem Factory.compile_eq_error_iff_fails {table : TypeTable} {method : Method} {fault : Fault} :
    compile table method = .error fault ↔ method.Fails table fault := by
  rw [compile_eq_error_iff, mapM_zipIdx_eq_error_iff]
  constructor
  · rintro (⟨hreturns, rfl⟩ | ⟨hreturns, before, parameter, after, hparameters, hbefore, hfault⟩)
    · exact .returns hreturns
    · obtain ⟨problem, hoffends, rfl⟩ := Parameter.ofParameter_eq_error_iff.mp hfault
      refine .parameter hreturns hparameters ?_ hoffends
      intro earlier hmem
      obtain ⟨position, hposition⟩ := List.mem_iff_getElem?.mp hmem
      obtain ⟨handler, hhandler⟩ := hbefore position earlier hposition
      exact ⟨_, _, (Parameter.ofParameter_eq_ok_iff.mp hhandler).2.1⟩
  · intro hfails
    cases hfails with
    | returns hreturns => exact .inl ⟨hreturns, rfl⟩
    | parameter hreturns hparameters hbefore hoffends =>
        right
        refine ⟨hreturns, _, _, _, hparameters, ?_, Parameter.ofParameter_of_offends hoffends _ _⟩
        intro position earlier hposition
        obtain ⟨kind, key, hbinds⟩ := hbefore earlier (List.mem_of_getElem? hposition)
        exact ⟨_, Parameter.ofParameter_of_bindsAs hbinds _ position⟩

theorem Method.Fails.not_forall_bindsAs {table : TypeTable} {method : Method} {fault : Fault}
    (hfails : method.Fails table fault)
    (hreturns : method.returns = .declared "android.os.Bundle" []) :
    ¬ ∀ parameter ∈ method.parameters, ∃ kind key, parameter.BindsAs table kind key := by
  intro hparameters
  cases hfails with
  | returns hwrong => exact hwrong hreturns
  | @parameter before after parameter problem _ hsplit _ hoffends =>
      obtain ⟨kind, key, hbinds⟩ := hparameters parameter (by simp [hsplit])
      exact Parameter.not_bindsAs_of_offends hoffends hbinds

namespace Factory

variable {table : TypeTable} {method : Method} {factory : Factory}

theorem exists_compile_iff :
    (∃ factory, compile table method = .ok factory) ↔
      method.returns = .declared "android.os.Bundle" [] ∧
        ∀ parameter ∈ method.parameters, ∃ kind key, parameter.BindsAs table kind key := by
  constructor
  · rintro ⟨factory, hcompile⟩
    obtain ⟨hreturns, _⟩ := compile_eq_ok_iff.mp hcompile
    exact ⟨hreturns, forall_bindsAs_of_compile hcompile⟩
  · rintro ⟨hreturns, hparameters⟩
    cases hcompile : compile table method with
    | ok factory => exact ⟨factory, rfl⟩
    | error fault =>
        have hfails := compile_eq_error_iff_fails.mp hcompile
        exact absurd hparameters (hfails.not_forall_bindsAs hreturns)

theorem handler_of_compile (hcompile : compile table method = .ok factory) {position : Nat}
    {parameter : Parameter} {handler : Handler}
    (hparameter : method.parameters[position]? = some parameter)
    (hhandler : factory.handlers[position]? = some handler) :
    handler.position = position ∧ parameter.BindsAs table handler.kind handler.key ∧
      (handler.required = true ↔
        ∃ mark ∈ parameter.annotations, mark.simpleName = "Required") := by
  have hof := (handlers_of_compile hcompile).2 position parameter handler hparameter hhandler
  obtain ⟨hposition, hbinds, hrequired⟩ := Parameter.ofParameter_eq_ok_iff.mp hof
  refine ⟨hposition, hbinds, ?_⟩
  rw [hrequired, isRequired_iff]

end Factory

/-- **Exactly the valid signatures compile.** They give one handler for each parameter, in its place; and a
signature that is not valid fails for its return type, or else for the first parameter at fault. -/
theorem valid_signatures_compile (table : TypeTable) (method : Method) :
    ((∃ factory, Factory.compile table method = .ok factory) ↔
      method.returns = .declared "android.os.Bundle" [] ∧
        ∀ parameter ∈ method.parameters, ∃ kind key, parameter.BindsAs table kind key) ∧
    (∀ factory, Factory.compile table method = .ok factory →
      factory.method = method.id ∧ factory.handlers.length = method.parameters.length ∧
      ∀ (position : Nat) (parameter : Parameter) (handler : Handler),
        method.parameters[position]? = some parameter →
        factory.handlers[position]? = some handler →
        handler.position = position ∧ parameter.BindsAs table handler.kind handler.key ∧
        (handler.required = true ↔
          ∃ mark ∈ parameter.annotations, mark.simpleName = "Required")) ∧
    ∀ fault, Factory.compile table method = .error fault ↔ method.Fails table fault := by
  refine ⟨Factory.exists_compile_iff, ?_, fun fault => Factory.compile_eq_error_iff_fails⟩
  intro factory hcompile
  refine ⟨Factory.method_of_compile hcompile, (Factory.handlers_of_compile hcompile).1, ?_⟩
  intro position parameter handler hparameter hhandler
  exact Factory.handler_of_compile hcompile hparameter hhandler

end BundleBinding
