import BundleBinding.Proofs.Invocation
import BundleBinding.Service.Binder

/-!
# What listeners hear

A factory checks all arguments before it announces the first, so nothing is heard of an invocation that
fails. One that succeeds is announced argument by argument, and that somebody listens changes nothing in
how it ends. What a call does besides (finding the method, getting its factory, reading JSON) is not
announced at all.
-/

namespace BundleBinding

namespace Factory

variable {factory : Factory} {listeners : List Listener} {arguments : List (Option Value)}

/-- The events of arguments, each beside its handler. A present argument is announced under the key of the
handler as the value that it is converted to, an absent one is not announced. -/
inductive Announces (method : MethodId) : List (Handler × Option Value) → List Event → Prop
  | nil : Announces method [] []
  | absent {handler : Handler} {calls : List (Handler × Option Value)} {events : List Event}
      (hothers : Announces method calls events) : Announces method ((handler, none) :: calls) events
  | present {handler : Handler} {value converted : Value} {calls : List (Handler × Option Value)}
      {events : List Event} (hfits : value.toKind? handler.kind = some converted)
      (hothers : Announces method calls events) :
      Announces method ((handler, some value) :: calls)
        (.bundling method handler.key converted handler.required :: events)

/-- Listeners hear everything about an invocation that succeeds and nothing about one that fails. Without
listeners it ends in the same way. -/
structure AllOrNothing (factory : Factory) (listeners : List Listener)
    (arguments : List (Option Value)) (invocation : Invocation) : Prop where
  result_eq : invocation.result = (factory.invoke [] arguments).result
  nothing : ∀ fault, invocation.result = .error fault → invocation.notices = []
  everything : ∀ bundle, invocation.result = .ok bundle →
    ∃ events, Announces factory.method (factory.handlers.zip arguments) events ∧
      invocation.notices = (events ++ [Event.completed factory.method bundle]).flatMap
        fun event => listeners.map fun listener => (listener, event)

theorem Passes.announces {handlers : List Handler} {prepared : List (Handler × Option Value)}
    (hpasses : Passes handlers arguments prepared) (factory : Factory) :
    Announces factory.method (handlers.zip arguments)
      ((written prepared).map factory.bundling) := by
  induction hpasses with
  | nil => exact .nil
  | cons htakes _ ih =>
      cases htakes with
      | absent => exact .absent ih
      | present hfits => exact .present hfits ih

theorem invoke_of_error {fault : Fault} (hprepare : factory.prepare arguments = .error fault)
    (listeners : List Listener) : factory.invoke listeners arguments = ⟨[], .error fault⟩ := by
  rw [invoke, hprepare]

theorem allOrNothing_invoke (factory : Factory) (listeners : List Listener)
    (arguments : List (Option Value)) :
    factory.AllOrNothing listeners arguments (factory.invoke listeners arguments) := by
  cases hprepare : factory.prepare arguments with
  | error fault =>
      rw [invoke_of_error hprepare]
      refine ⟨?_, fun _ _ => rfl, ?_⟩
      · rw [invoke_of_error hprepare]
      · intro bundle hresult
        cases hresult
  | ok prepared =>
      have hpasses := prepare_eq_ok_iff.mp hprepare
      rw [invoke_of_passes hpasses]
      refine ⟨?_, ?_, ?_⟩
      · rw [invoke_of_passes hpasses]
      · intro fault hresult
        cases hresult
      · intro bundle hresult
        cases hresult
        exact ⟨_, hpasses.announces factory, rfl⟩

end Factory

/-- What listeners hear of a call that looks for a factory first and then for its arguments. -/
inductive CallHeard (listeners : List Listener) (found : Except Fault Factory)
    (read : Factory → Except Fault (List (Option Value))) : Invocation → Prop
  | notFound {fault : Fault} (hfound : found = .error fault) :
      CallHeard listeners found read ⟨[], .error fault⟩
  | notRead {factory : Factory} {fault : Fault} (hfound : found = .ok factory)
      (hread : read factory = .error fault) : CallHeard listeners found read ⟨[], .error fault⟩
  | invoked {factory : Factory} {arguments : List (Option Value)} {invocation : Invocation}
      (hfound : found = .ok factory) (hread : read factory = .ok arguments)
      (hheard : factory.AllOrNothing listeners arguments invocation) :
      CallHeard listeners found read invocation

namespace Binder

variable (binder : Binder) (cache : Cache) (service : ServiceInterface) (name : String)

/-- The factory of a method, if the binder gets it from the cache or compiles it. -/
def factoryOf (method : Method) : Except Fault Factory :=
  (binder.factory cache method).1

/-- The factory of the method of a service that has the name. -/
def factoryNamed : Except Fault Factory :=
  methodNamed service name >>= binder.factoryOf cache

theorem callHeard_invoke (method : Method) (arguments : List (Option Value)) :
    CallHeard binder.listeners (binder.factoryOf cache method) (fun _ => .ok arguments)
      (binder.invoke cache method arguments).1 := by
  rw [invoke]
  split
  · next factory next hfactory =>
      have hfound : binder.factoryOf cache method = .ok factory := congrArg Prod.fst hfactory
      exact .invoked hfound rfl (factory.allOrNothing_invoke binder.listeners arguments)
  · next fault next hfactory => exact .notFound (congrArg Prod.fst hfactory)

theorem callHeard_call (arguments : List (Option Value)) :
    CallHeard binder.listeners (binder.factoryNamed cache service name) (fun _ => .ok arguments)
      (binder.call cache service name arguments).1 := by
  rw [call, factoryNamed]
  cases methodNamed service name with
  | error fault => exact .notFound rfl
  | ok method => exact binder.callHeard_invoke cache method arguments

theorem callHeard_callJson (values : List Json) :
    CallHeard binder.listeners (binder.factoryNamed cache service name)
      (fun factory => factory.readArguments values)
      (binder.callJson cache service name values).1 := by
  rw [callJson, factoryNamed]
  cases methodNamed service name with
  | error fault => exact .notFound rfl
  | ok method =>
      simp only
      split
      · next fault next hfactory => exact .notFound (congrArg Prod.fst hfactory)
      · next factory next hfactory =>
          have hfound : binder.factoryOf cache method = .ok factory := congrArg Prod.fst hfactory
          split
          · next fault hread => exact .notRead hfound hread
          · next arguments hread =>
              exact .invoked hfound hread (factory.allOrNothing_invoke binder.listeners arguments)

end Binder

/-- **Listeners hear all or nothing.** Nothing is heard of an invocation that fails. Of one that succeeds
each present argument is announced, in the order of the parameters and to all listeners in turn, with the
key of its handler, the converted value and whether it is required; then the finished bundle is, once to
each listener. The bundle is the one that is had without listeners. The same is true of the methods that a
binder invokes and of the calls on a service, with values or in JSON, where a method that is not found or
has no factory and a value that cannot be read are not heard of either. -/
theorem listeners_hear_all_or_nothing :
    (∀ (factory : Factory) (listeners : List Listener) (arguments : List (Option Value)),
      factory.AllOrNothing listeners arguments (factory.invoke listeners arguments)) ∧
    (∀ (binder : Binder) (cache : Cache) (method : Method) (arguments : List (Option Value)),
      CallHeard binder.listeners (binder.factoryOf cache method) (fun _ => .ok arguments)
        (binder.invoke cache method arguments).1) ∧
    (∀ (binder : Binder) (cache : Cache) (service : ServiceInterface) (name : String)
        (arguments : List (Option Value)),
      CallHeard binder.listeners (binder.factoryNamed cache service name) (fun _ => .ok arguments)
        (binder.call cache service name arguments).1) ∧
    ∀ (binder : Binder) (cache : Cache) (service : ServiceInterface) (name : String)
        (values : List Json),
      CallHeard binder.listeners (binder.factoryNamed cache service name)
        (fun factory => factory.readArguments values)
        (binder.callJson cache service name values).1 :=
  ⟨Factory.allOrNothing_invoke, Binder.callHeard_invoke, Binder.callHeard_call,
    Binder.callHeard_callJson⟩

end BundleBinding
