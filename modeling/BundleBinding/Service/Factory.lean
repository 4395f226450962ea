import BundleBinding.Bundle

/-!
Method factories. Compiling a method checks its signature once and leaves one handler for each
parameter; invoking the factory checks every argument before it writes any.
-/

namespace BundleBinding

/-- How one argument is checked and where it goes. -/
structure Handler where
  position : Nat
  kind : Kind
  key : String
  required : Bool
  deriving Repr, DecidableEq

/-- What a listener hears while a factory fills a bundle. -/
inductive Event where
  | bundling (method : MethodId) (key : String) (value : Value) (required : Bool)
  | completed (method : MethodId) (bundle : Bundle)
  deriving Repr

/-- A listener, by its name. -/
abbrev Listener := String

/-- An event as one listener hears it. -/
abbrev Notice := Listener × Event

/-- The notices of an event: all listeners hear it, one after the other. -/
def Event.announce (event : Event) (listeners : List Listener) : List Notice :=
  listeners.map fun listener => (listener, event)

/-- A bundle that is being filled, and what has been announced so far. -/
structure Filling where
  bundle : Bundle
  notices : List Notice

/-- What an invocation announced, in order, and how it ended. -/
structure Invocation where
  notices : List Notice
  result : Except Fault Bundle

namespace Handler

/-- The handler of a parameter: one binding annotation, of a kind that takes the declared type, with
a key. -/
def ofParameter (table : TypeTable) (method : MethodId) (position : Nat) (parameter : Parameter) :
    Except Fault Handler :=
  match declaredBindings parameter.annotations with
  | [] => throw (.parameter method position .unannotated)
  | [binding] =>
      let kind := binding.kind
      if kind.accepts table parameter.type then
        match binding.key with
        | some key => pure ⟨position, kind, key, isRequired parameter.annotations⟩
        | none => throw (.parameter method position (.noKey kind.marker))
      else
        throw (.parameter method position
          (.typeRejected kind.marker kind.rule.render parameter.type.render))
  | _ => throw (.parameter method position .severalAnnotations)

/-- The value to write for an argument, none for an optional argument that is absent. -/
def prepare (handler : Handler) (argument : Option Value) : Except Fault (Option Value) :=
  match argument with
  | none => if handler.required then throw (.missingRequired handler.key) else pure none
  | some value =>
      match value.toKind? handler.kind with
      | some value => pure (some value)
      | none => throw (.argumentKind handler.position handler.key handler.kind value.kind)

/-- An argument from JSON, of the handler's kind; null is absent. -/
def readArgument (handler : Handler) (json : Json) : Except Fault (Option Value) :=
  match json with
  | .null => pure none
  | json => some <$> Value.ofJson handler.kind handler.key json

end Handler

structure Factory where
  method : MethodId
  handlers : List Handler
  deriving Repr, DecidableEq

namespace Factory

def arity (factory : Factory) : Nat :=
  factory.handlers.length

/-- The factory of a method that returns a bundle and whose parameters all have handlers. -/
def compile (table : TypeTable) (method : Method) : Except Fault Factory := do
  let id := method.id
  if method.returns ≠ .named TypeRef.bundle then
    throw (.returnType id TypeRef.bundle method.returns.render)
  let handlers ← method.parameters.zipIdx.mapM fun (parameter, position) =>
    Handler.ofParameter table id position parameter
  pure ⟨id, handlers⟩

def checkCount (factory : Factory) (count : Nat) : Except Fault Unit :=
  if count = factory.arity then pure () else throw (.argumentCount factory.arity count)

/-- The values to write, handler by handler, if all arguments pass. -/
def prepare (factory : Factory) (arguments : List (Option Value)) :
    Except Fault (List (Handler × Option Value)) := do
  factory.checkCount arguments.length
  (factory.handlers.zip arguments).mapM fun (handler, argument) => do
    pure (handler, ← handler.prepare argument)

/-- Announces a prepared value and writes it under the key of its handler; a later value under a key
replaces an earlier one. A value that is absent is passed over. -/
def fillNext (factory : Factory) (listeners : List Listener) (filling : Filling)
    (entry : Handler × Option Value) : Filling :=
  match entry with
  | (_, none) => filling
  | (handler, some value) =>
      let event := Event.bundling factory.method handler.key value handler.required
      { bundle := filling.bundle.insert handler.key value
        notices := filling.notices ++ event.announce listeners }

/-- Fills a new bundle from arguments, one for each parameter. All of them are checked before anything
is announced or written. -/
def invoke (factory : Factory) (listeners : List Listener) (arguments : List (Option Value)) :
    Invocation :=
  match factory.prepare arguments with
  | .error fault => ⟨[], .error fault⟩
  | .ok prepared =>
      let filled := prepared.foldl (factory.fillNext listeners) ⟨Registry.empty, []⟩
      let completed := Event.completed factory.method filled.bundle
      ⟨filled.notices ++ completed.announce listeners, .ok filled.bundle⟩

def readArguments (factory : Factory) (values : List Json) :
    Except Fault (List (Option Value)) := do
  factory.checkCount values.length
  (factory.handlers.zip values).mapM fun (handler, json) => handler.readArgument json

end Factory

end BundleBinding
