import BundleBinding.Proofs.CacheRuns
import BundleBinding.Proofs.Traversal
import BundleBinding.Service.Binder

/-!
# Services that are validated when they are made

An eager binder gives a service out once each of its methods has a factory, and no operation takes a factory
out of a cache. So whoever works on the cache in between, a call on the service finds a factory for its
method, and the signature of the method is not looked at again.
-/

namespace BundleBinding

namespace Fault

/-! ### Numbers of messages -/

/-- The message begins with the code. -/
def HasCode (fault : Fault) (code : String) : Prop :=
  ("[" ++ code ++ "]").toList <+: fault.message.toList

def signatureCodes : List String :=
  ["BW-010", "BW-011", "BW-012", "BW-013", "BW-014"]

def invocationCodes : List String :=
  ["BW-020", "BW-021", "BW-022", "BW-023"]

/-- The faults of arguments: too many or too few, absent, of another kind, unreadable. -/
inductive OfArguments : Fault → Prop
  | argumentCount (expected actual : Nat) : OfArguments (argumentCount expected actual)
  | missingRequired (key : String) : OfArguments (missingRequired key)
  | argumentKind (position : Nat) (key : String) (expected actual : Kind) :
      OfArguments (argumentKind position key expected actual)
  | invalidArgument (key reason : String) : OfArguments (invalidArgument key reason)

variable {fault : Fault} {code other : String}

theorem prefix_toList_append {opening text : String} (rest : String)
    (hopening : opening.toList <+: text.toList) : opening.toList <+: (text ++ rest).toList := by
  rw [String.toList_append]
  exact hopening.trans (List.prefix_append _ _)

theorem OfArguments.exists_hasCode (hfault : OfArguments fault) :
    ∃ code ∈ invocationCodes, fault.HasCode code := by
  -- Each message is a literal with the code, followed by what differs from fault to fault.
  cases hfault with
  | argumentCount =>
      refine ⟨"BW-020", by decide, ?_⟩
      iterate 4 apply prefix_toList_append
      decide
  | missingRequired =>
      refine ⟨"BW-021", by decide, ?_⟩
      iterate 2 apply prefix_toList_append
      decide
  | argumentKind =>
      refine ⟨"BW-022", by decide, ?_⟩
      iterate 7 apply prefix_toList_append
      decide
  | invalidArgument =>
      refine ⟨"BW-023", by decide, ?_⟩
      iterate 3 apply prefix_toList_append
      decide

theorem hasCode_unknownMethod (service method : String) :
    (unknownMethod service method).HasCode "BW-031" := by
  iterate 4 apply prefix_toList_append
  decide

theorem HasCode.eq_of_length (hcode : fault.HasCode code) (hother : fault.HasCode other)
    (hlength : code.length = other.length) : code = other := by
  have hbracketed : ("[" ++ code ++ "]").toList = ("[" ++ other ++ "]").toList := by
    have hlengths : ("[" ++ code ++ "]").toList.length = ("[" ++ other ++ "]").toList.length := by
      simp only [String.length_toList, String.length_append, hlength]
    exact (List.prefix_of_prefix_length_le hcode hother (Nat.le_of_eq hlengths)).eq_of_length hlengths
  rw [String.toList_inj, String.append_left_inj, String.append_right_inj] at hbracketed
  exact hbracketed

/-- A fault that is numbered with an unknown method or with the arguments is no fault of a signature. -/
theorem HasCode.notMem_signatureCodes (hcode : fault.HasCode code)
    (hmem : code ∈ "BW-031" :: invocationCodes) :
    ∀ other ∈ signatureCodes, ¬ fault.HasCode other := by
  intro other hsignature hother
  have hlength : ∀ code ∈ "BW-031" :: invocationCodes, code.length = 6 := by decide
  have hothers : ∀ code ∈ signatureCodes, code.length = 6 := by decide
  have hdisjoint : ∀ code ∈ "BW-031" :: invocationCodes, code ∉ signatureCodes := by decide
  have heq := hcode.eq_of_length hother ((hlength code hmem).trans (hothers other hsignature).symm)
  exact hdisjoint code hmem (heq ▸ hsignature)

end Fault

/-! ### What goes wrong with arguments -/

theorem Handler.ofArguments_of_prepare {handler : Handler} {argument : Option Value} {fault : Fault}
    (hprepare : handler.prepare argument = .error fault) : fault.OfArguments := by
  cases argument with
  | none =>
      rw [Handler.prepare] at hprepare
      split at hprepare
      · cases hprepare
        apply Fault.OfArguments.missingRequired
      · cases hprepare
  | some value =>
      simp only [Handler.prepare] at hprepare
      split at hprepare
      · cases hprepare
      · cases hprepare
        apply Fault.OfArguments.argumentKind

theorem Value.ofArguments_of_ofJson {kind : Kind} {key : String} {json : Json} {fault : Fault}
    (hjson : Value.ofJson kind key json = .error fault) : fault.OfArguments := by
  rw [Value.ofJson] at hjson
  cases hread : Value.read kind json with
  | ok value => rw [hread] at hjson; cases hjson
  | error error =>
      rw [hread] at hjson
      cases hjson
      apply Fault.OfArguments.invalidArgument

theorem Handler.ofArguments_of_readArgument {handler : Handler} {json : Json} {fault : Fault}
    (hread : handler.readArgument json = .error fault) : fault.OfArguments := by
  unfold Handler.readArgument at hread
  split at hread
  · cases hread
  · obtain hjson | ⟨value, _, hvalue⟩ := bind_eq_error_iff.mp hread
    · exact Value.ofArguments_of_ofJson hjson
    · cases hvalue

namespace Factory

variable {factory : Factory} {fault : Fault}

theorem ofArguments_of_checkCount {count : Nat}
    (hcount : factory.checkCount count = .error fault) : fault.OfArguments := by
  rw [checkCount] at hcount
  split at hcount
  · cases hcount
  · cases hcount
    apply Fault.OfArguments.argumentCount

theorem ofArguments_of_invoke {listeners : List Listener} {arguments : List (Option Value)}
    (hinvoke : (factory.invoke listeners arguments).result = .error fault) :
    fault.OfArguments := by
  rw [invoke] at hinvoke
  split at hinvoke
  · next hprepare =>
      cases hinvoke
      obtain hcount | ⟨_, _, hprepared⟩ := bind_eq_error_iff.mp hprepare
      · exact ofArguments_of_checkCount hcount
      · obtain ⟨pair, _, hpair⟩ := exists_error_of_mapM hprepared
        obtain hargument | ⟨_, _, hvalue⟩ := bind_eq_error_iff.mp hpair
        · exact Handler.ofArguments_of_prepare hargument
        · cases hvalue
  · cases hinvoke

theorem ofArguments_of_readArguments {values : List Json}
    (hread : factory.readArguments values = .error fault) : fault.OfArguments := by
  obtain hcount | ⟨_, _, hvalues⟩ := bind_eq_error_iff.mp hread
  · exact ofArguments_of_checkCount hcount
  · obtain ⟨pair, _, hpair⟩ := exists_error_of_mapM hvalues
    exact Handler.ofArguments_of_readArgument hpair

end Factory

/-! ### What operations leave in a cache -/

namespace Cache

/-- What can be done with a cache, by any binder that works on it. -/
inductive Operation where
  | request (request : Request)
  | factory (binder : Binder) (method : Method)
  | invoke (binder : Binder) (method : Method) (arguments : List (Option Value))
  | create (binder : Binder) (service : ServiceInterface)
  | call (binder : Binder) (service : ServiceInterface) (name : String)
      (arguments : List (Option Value))
  | callJson (binder : Binder) (service : ServiceInterface) (name : String) (values : List Json)

def perform (cache : Cache) : Operation → Cache
  | .request request => cache.after request
  | .factory binder method => (binder.factory cache method).2
  | .invoke binder method arguments => (binder.invoke cache method arguments).2
  | .create binder service => (binder.create cache service).2
  | .call binder service name arguments => (binder.call cache service name arguments).2
  | .callJson binder service name values => (binder.callJson cache service name values).2

def performAll (cache : Cache) (operations : List Operation) : Cache :=
  operations.foldl perform cache

/-- One cache comes from the other by requests for factories. -/
def LeadsTo (cache next : Cache) : Prop :=
  ∃ requests, cache.afterAll requests = next

variable {cache next last : Cache}

theorem LeadsTo.refl (cache : Cache) : cache.LeadsTo cache :=
  ⟨[], rfl⟩

theorem LeadsTo.trans (hnext : cache.LeadsTo next) (hlast : next.LeadsTo last) :
    cache.LeadsTo last := by
  obtain ⟨earlier, rfl⟩ := hnext
  obtain ⟨later, rfl⟩ := hlast
  exact ⟨earlier ++ later, cache.afterAll_append earlier later⟩

theorem LeadsTo.get? (hnext : cache.LeadsTo next) {id : MethodId} {factory : Factory}
    (hget : cache.get? id = some factory) : next.get? id = some factory := by
  obtain ⟨requests, rfl⟩ := hnext
  exact get?_afterAll_of_get? hget requests

end Cache

namespace Binder

variable {binder : Binder} {cache next : Cache} {method : Method} {result : Except Fault Factory}

theorem leadsTo_factory (hfactory : binder.factory cache method = (result, next)) :
    cache.LeadsTo next :=
  ⟨[⟨binder.hierarchy, method⟩], congrArg Prod.snd hfactory⟩

theorem leadsTo_invoke (binder : Binder) (cache : Cache) (method : Method)
    (arguments : List (Option Value)) :
    cache.LeadsTo (binder.invoke cache method arguments).2 := by
  rw [invoke]
  split
  all_goals next hfactory => exact leadsTo_factory hfactory

theorem leadsTo_compileAll (binder : Binder) (cache : Cache) (methods : List Method) :
    cache.LeadsTo (binder.compileAll cache methods).2 := by
  induction methods generalizing cache with
  | nil => exact .refl cache
  | cons method methods ih =>
      rw [compileAll]
      split
      · next next hfactory => exact (leadsTo_factory hfactory).trans (ih next)
      · next hfactory => exact leadsTo_factory hfactory

theorem leadsTo_create (binder : Binder) (cache : Cache) (service : ServiceInterface) :
    cache.LeadsTo (binder.create cache service).2 := by
  have hall := binder.leadsTo_compileAll cache service.methods
  rw [create]
  split
  · exact .refl cache
  · split
    · split
      all_goals next hcompiled => rwa [hcompiled] at hall
    · exact .refl cache

theorem leadsTo_call (binder : Binder) (cache : Cache) (service : ServiceInterface) (name : String)
    (arguments : List (Option Value)) :
    cache.LeadsTo (binder.call cache service name arguments).2 := by
  rw [call]
  split
  · exact .refl cache
  · exact binder.leadsTo_invoke cache _ arguments

theorem leadsTo_callJson (binder : Binder) (cache : Cache) (service : ServiceInterface)
    (name : String) (values : List Json) :
    cache.LeadsTo (binder.callJson cache service name values).2 := by
  rw [callJson]
  split
  · exact .refl cache
  · split
    · next hfactory => exact leadsTo_factory hfactory
    · next hfactory =>
        split
        all_goals exact leadsTo_factory hfactory

end Binder

namespace Cache

theorem leadsTo_perform (cache : Cache) (operation : Operation) :
    cache.LeadsTo (cache.perform operation) := by
  cases operation with
  | request request => exact ⟨[request], rfl⟩
  | factory binder method => exact Binder.leadsTo_factory rfl
  | invoke binder method arguments => exact binder.leadsTo_invoke cache method arguments
  | create binder service => exact binder.leadsTo_create cache service
  | call binder service name arguments => exact binder.leadsTo_call cache service name arguments
  | callJson binder service name values => exact binder.leadsTo_callJson cache service name values

theorem leadsTo_performAll (cache : Cache) (operations : List Operation) :
    cache.LeadsTo (cache.performAll operations) := by
  induction operations generalizing cache with
  | nil => exact .refl cache
  | cons operation operations ih => exact (cache.leadsTo_perform operation).trans (ih _)

end Cache

/-! ### Services whose methods are all compiled -/

namespace Binder

variable {binder : Binder} {cache next : Cache} {service created : ServiceInterface}
  {method : Method} {name : String}

theorem exists_get?_of_compileAll {methods : List Method}
    (hcompiled : binder.compileAll cache methods = (.ok (), next)) :
    ∀ method ∈ methods, ∃ factory, next.get? method.id = some factory := by
  induction methods generalizing cache with
  | nil => exact fun _ hmem => nomatch hmem
  | cons first methods ih =>
      rw [compileAll] at hcompiled
      split at hcompiled
      · next factory middle hfactory =>
          rw [List.forall_mem_cons]
          refine ⟨⟨factory, ?_⟩, ih hcompiled⟩
          have hkept : middle.get? first.id = some factory := by
            have hafter := @Cache.get?_after_of_answer cache ⟨binder.hierarchy, first⟩ factory
              (congrArg Prod.fst hfactory)
            rwa [show cache.after ⟨binder.hierarchy, first⟩ = middle from
              congrArg Prod.snd hfactory] at hafter
          have hlater := binder.leadsTo_compileAll middle methods
          rw [hcompiled] at hlater
          exact hlater.get? hkept
      · cases hcompiled

theorem exists_get?_of_create (heager : binder.validatesEagerly = true)
    (hcreate : binder.create cache service = (.ok created, next)) :
    created = service ∧ ∀ method ∈ service.methods, ∃ factory, next.get? method.id = some factory := by
  rw [create, if_pos heager] at hcreate
  split at hcreate
  · cases hcreate
  · split at hcreate
    · next hcompiled =>
        cases hcreate
        exact ⟨rfl, exists_get?_of_compileAll hcompiled⟩
    · cases hcreate

variable {arguments : List (Option Value)} {values : List Json} {factory : Factory}

theorem factory_eq_of_get? (binder : Binder) (hget : cache.get? method.id = some factory) :
    binder.factory cache method = (.ok factory, cache) := by
  obtain ⟨hanswer, hafter⟩ := @Cache.answer_of_get? cache ⟨binder.hierarchy, method⟩ factory hget
  exact Prod.ext hanswer hafter

theorem call_of_get? (hname : service.method? name = some method)
    (hget : cache.get? method.id = some factory) :
    binder.call cache service name arguments =
      (factory.invoke binder.listeners arguments, cache) := by
  simp only [call, methodNamed, hname, pure, Except.pure, invoke, binder.factory_eq_of_get? hget]

theorem callJson_of_unread {fault : Fault} (hname : service.method? name = some method)
    (hget : cache.get? method.id = some factory)
    (hread : factory.readArguments values = .error fault) :
    binder.callJson cache service name values = (⟨[], .error fault⟩, cache) := by
  simp only [callJson, methodNamed, hname, pure, Except.pure, binder.factory_eq_of_get? hget, hread]

theorem callJson_of_read (hname : service.method? name = some method)
    (hget : cache.get? method.id = some factory)
    (hread : factory.readArguments values = .ok arguments) :
    binder.callJson cache service name values =
      (factory.invoke binder.listeners arguments, cache) := by
  simp only [callJson, methodNamed, hname, pure, Except.pure, binder.factory_eq_of_get? hget, hread]

/-- How a call may end once the signature of the method is settled. -/
inductive Ends (service : ServiceInterface) (name : String) : Except Fault Bundle → Prop
  | bundle {method : Method} (hname : service.method? name = some method) (bundle : Bundle) :
      Ends service name (.ok bundle)
  | refused {method : Method} (hname : service.method? name = some method) {fault : Fault}
      (hfault : fault.OfArguments) : Ends service name (.error fault)
  | unknown (hname : service.method? name = none) :
      Ends service name (.error (.unknownMethod service.name name))

theorem ends_invoke (hname : service.method? name = some method) (factory : Factory)
    (listeners : List Listener) (arguments : List (Option Value)) :
    Ends service name (factory.invoke listeners arguments).result := by
  cases hresult : (factory.invoke listeners arguments).result with
  | ok bundle => exact .bundle hname bundle
  | error fault => exact .refused hname (Factory.ofArguments_of_invoke hresult)

theorem ends_call (hcached : ∀ method ∈ service.methods, ∃ factory,
      cache.get? method.id = some factory) (binder : Binder) (name : String)
    (arguments : List (Option Value)) :
    Ends service name (binder.call cache service name arguments).1.result := by
  cases hname : service.method? name with
  | none =>
      simp only [call, methodNamed, hname]
      exact .unknown hname
  | some method =>
      obtain ⟨factory, hget⟩ := hcached method (List.mem_of_find?_eq_some hname)
      rw [call_of_get? hname hget]
      exact ends_invoke hname factory binder.listeners arguments

theorem ends_callJson (hcached : ∀ method ∈ service.methods, ∃ factory,
      cache.get? method.id = some factory) (binder : Binder) (name : String)
    (values : List Json) :
    Ends service name (binder.callJson cache service name values).1.result := by
  cases hname : service.method? name with
  | none =>
      simp only [callJson, methodNamed, hname]
      exact .unknown hname
  | some method =>
      obtain ⟨factory, hget⟩ := hcached method (List.mem_of_find?_eq_some hname)
      cases hread : factory.readArguments values with
      | error fault =>
          rw [callJson_of_unread hname hget hread]
          exact .refused hname (Factory.ofArguments_of_readArguments hread)
      | ok arguments =>
          rw [callJson_of_read hname hget hread]
          exact ends_invoke hname factory binder.listeners arguments

theorem Ends.hasCode {fault : Fault} (hends : Ends service name (.error fault)) :
    ∃ code ∈ "BW-031" :: Fault.invocationCodes, fault.HasCode code := by
  cases hends with
  | unknown hname => exact ⟨_, List.mem_cons_self, Fault.hasCode_unknownMethod service.name name⟩
  | refused _ hfault =>
      obtain ⟨code, hmem, hcode⟩ := hfault.exists_hasCode
      exact ⟨code, List.mem_cons_of_mem _ hmem, hcode⟩

end Binder

/-- **Eager validation is final.** Once an eager binder has made a service, on whatever cache, and whatever
is then done with that cache and by whom, a call by name or in JSON gives a bundle or fails because the
service has no such method or because of the arguments. No signature is found broken any more. -/
theorem eager_validation_is_final {binder : Binder} {cache opened : Cache}
    {service created : ServiceInterface} (heager : binder.validatesEagerly = true)
    (hcreate : binder.create cache service = (.ok created, opened)) (operations : List Cache.Operation)
    (name : String) (arguments : List (Option Value)) (values : List Json) :
    ∀ result ∈
      [(binder.call (opened.performAll operations) created name arguments).1.result,
        (binder.callJson (opened.performAll operations) created name values).1.result],
      Binder.Ends created name result ∧
      ∀ fault, result = .error fault →
        (∃ code ∈ "BW-031" :: Fault.invocationCodes, fault.HasCode code) ∧
        ∀ code ∈ Fault.signatureCodes, ¬ fault.HasCode code := by
  obtain ⟨rfl, hopened⟩ := Binder.exists_get?_of_create heager hcreate
  have hcached : ∀ method ∈ created.methods, ∃ factory,
      (opened.performAll operations).get? method.id = some factory := by
    intro method hmem
    obtain ⟨factory, hget⟩ := hopened method hmem
    exact ⟨factory, (opened.leadsTo_performAll operations).get? hget⟩
  have hends : ∀ result ∈
      [(binder.call (opened.performAll operations) created name arguments).1.result,
        (binder.callJson (opened.performAll operations) created name values).1.result],
      Binder.Ends created name result := by
    rw [List.forall_mem_cons, List.forall_mem_singleton]
    exact ⟨Binder.ends_call hcached binder name arguments,
      Binder.ends_callJson hcached binder name values⟩
  intro result hmem
  refine ⟨hends result hmem, ?_⟩
  rintro fault rfl
  obtain ⟨code, hcode, hnumber⟩ := (hends _ hmem).hasCode
  exact ⟨⟨code, hcode, hnumber⟩, hnumber.notMem_signatureCodes hcode⟩

/-- A service with a method that takes an optional limit. -/
def limitedService : ServiceInterface where
  name := "Api"
  form := .interfaceType
  methods :=
    [{ owner := "Api"
       name := "open"
       returns := .named TypeRef.bundle
       parameters :=
         [⟨none, .primitive .long, [⟨"LongValue", some "limit", none⟩]⟩] }]

/-- The service as it should not be: the parameter has lost its annotation. -/
def unlimitedService : ServiceInterface :=
  { limitedService with
    methods := limitedService.methods.map fun method =>
      { method with parameters := method.parameters.map ({ · with annotations := [] }) } }

/-- A binder that is not eager makes the broken service and calls its method. The service that was validated
before is called as if nothing had happened. -/
theorem limited_service_ends :
    let lazily := Binder.build ⟨false, false, [], TypeTable.platform⟩
    let eagerly := Binder.build ⟨false, true, [], TypeTable.platform⟩
    ∃ opened, eagerly.create Cache.empty limitedService = (.ok limitedService, opened) ∧
      Binder.Ends limitedService "open"
        (eagerly.call
          (opened.performAll
            [.create lazily unlimitedService, .callJson lazily unlimitedService "open" [.null]])
          limitedService "open" [some (.string "ten")]).1.result := by
  intro lazily eagerly
  have hcreate : eagerly.create Cache.empty limitedService =
      (.ok limitedService, (eagerly.create Cache.empty limitedService).2) := rfl
  refine ⟨_, hcreate, ?_⟩
  exact (eager_validation_is_final rfl hcreate
    [.create lazily unlimitedService, .callJson lazily unlimitedService "open" [.null]] "open"
    [some (.string "ten")] [] _ List.mem_cons_self).1

end BundleBinding
