import BundleBinding.Service.Cache

/-!
Binders turn interfaces into services whose methods fill bundles. The cache that a binder works on
is passed to each operation and comes back with its result, since several binders may share one.
-/

namespace BundleBinding

structure Binder where
  hierarchy : TypeTable
  listeners : List Listener
  validatesEagerly : Bool
  deriving Repr

structure BinderSettings where
  debug : Bool
  validateEagerly : Bool
  listeners : List Listener
  hierarchy : TypeTable
  deriving Repr

/-- The listener that writes every event to the log. -/
def Listener.log : Listener :=
  "log"

namespace Binder

/-- The binder of the settings. In debug mode the log listens first. -/
def build (settings : BinderSettings) : Binder :=
  { hierarchy := settings.hierarchy
    listeners := if settings.debug then Listener.log :: settings.listeners else settings.listeners
    validatesEagerly := settings.validateEagerly }

def summary (binder : Binder) (cache : Cache) : String :=
  "Binder \x7b cached_factories: " ++ toString cache.size ++ ", listeners: " ++
    toString binder.listeners.length ++ ", validate_eagerly: " ++
    (if binder.validatesEagerly then "true" else "false") ++ " \x7d"

def factory (binder : Binder) (cache : Cache) (method : Method) : Except Fault Factory × Cache :=
  cache.getOrCompile binder.hierarchy method

def invoke (binder : Binder) (cache : Cache) (method : Method) (arguments : List (Option Value)) :
    Invocation × Cache :=
  match binder.factory cache method with
  | (.ok factory, cache) => (factory.invoke binder.listeners arguments, cache)
  | (.error fault, cache) => (⟨[], .error fault⟩, cache)

/-- Compiles methods one after the other, up to the first that fails. -/
def compileAll (binder : Binder) (cache : Cache) : List Method → Except Fault Unit × Cache
  | [] => (.ok (), cache)
  | method :: methods =>
      match binder.factory cache method with
      | (.ok _, cache) => binder.compileAll cache methods
      | (.error fault, cache) => (.error fault, cache)

/-- Makes an interface callable. An eager binder compiles all its methods first. -/
def create (binder : Binder) (cache : Cache) (service : ServiceInterface) :
    Except Fault ServiceInterface × Cache :=
  if service.form ≠ .interfaceType then (.error (.notAnInterface service.name), cache)
  else if binder.validatesEagerly then
    match binder.compileAll cache service.methods with
    | (.ok (), cache) => (.ok service, cache)
    | (.error fault, cache) => (.error fault, cache)
  else (.ok service, cache)

def methodNamed (service : ServiceInterface) (name : String) : Except Fault Method :=
  match service.method? name with
  | some method => pure method
  | none => throw (.unknownMethod service.name name)

def call (binder : Binder) (cache : Cache) (service : ServiceInterface) (name : String)
    (arguments : List (Option Value)) : Invocation × Cache :=
  match methodNamed service name with
  | .error fault => (⟨[], .error fault⟩, cache)
  | .ok method => binder.invoke cache method arguments

/-- Calls a method of a service with JSON arguments; null is absent. -/
def callJson (binder : Binder) (cache : Cache) (service : ServiceInterface) (name : String)
    (values : List Json) : Invocation × Cache :=
  match methodNamed service name with
  | .error fault => (⟨[], .error fault⟩, cache)
  | .ok method =>
      match binder.factory cache method with
      | (.error fault, cache) => (⟨[], .error fault⟩, cache)
      | (.ok factory, cache) =>
          match factory.readArguments values with
          | .error fault => (⟨[], .error fault⟩, cache)
          | .ok arguments => (factory.invoke binder.listeners arguments, cache)

end Binder

/-- The binder that is installed for the whole process, if one is, and the cache it works on. -/
structure Installation where
  binder : Option Binder
  cache : Cache
  deriving Repr

namespace Installation

def empty : Installation :=
  ⟨none, Cache.empty⟩

/-- Installs a binder; only the first installation succeeds. -/
def install (installation : Installation) (settings : BinderSettings) :
    Except Fault (Binder × Installation) :=
  match installation.binder with
  | some _ => throw .alreadyInstalled
  | none =>
      let binder := Binder.build settings
      pure (binder, { installation with binder := some binder })

end Installation

end BundleBinding
