import BundleBinding.Service.Factory

/-!
Factory caches. A method is compiled when its factory is first asked for; a failure is not kept, so
asking again reports it again.
-/

namespace BundleBinding

structure Cache where
  factories : Registry MethodId Factory
  /-- How many compilations have succeeded. -/
  compilations : Nat
  deriving Repr

namespace Cache

def empty : Cache :=
  ⟨Registry.empty, 0⟩

def get? (cache : Cache) (id : MethodId) : Option Factory :=
  cache.factories.get? id

def contains (cache : Cache) (id : MethodId) : Bool :=
  cache.factories.contains id

def size (cache : Cache) : Nat :=
  cache.factories.size

/-- Keeps a factory that has just been compiled. -/
def publish (cache : Cache) (id : MethodId) (factory : Factory) : Cache :=
  ⟨cache.factories.insert id factory, cache.compilations + 1⟩

/-- What follows a miss, once no one else compiles: the factory may be there by now; if it is not, it is
compiled. -/
def compileOnce (cache : Cache) (table : TypeTable) (method : Method) :
    Except Fault Factory × Cache :=
  match cache.get? method.id with
  | some factory => (.ok factory, cache)
  | none =>
      match Factory.compile table method with
      | .ok factory => (.ok factory, cache.publish method.id factory)
      | .error fault => (.error fault, cache)

/-- The factory of a method, from the cache if it has one, and the cache afterwards. -/
def getOrCompile (cache : Cache) (table : TypeTable) (method : Method) :
    Except Fault Factory × Cache :=
  match cache.get? method.id with
  | some factory => (.ok factory, cache)
  | none => cache.compileOnce table method

end Cache

end BundleBinding
