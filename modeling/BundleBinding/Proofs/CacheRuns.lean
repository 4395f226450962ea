import BundleBinding.Service.Cache
import Mathlib.Control.Monad.Basic

/-!
# Runs of a cache

A cache that starts empty holds, for every method, the factory of the first request for it that could be
compiled. Methods are told apart by their identity alone: what a later request says about its annotations,
its return type or its types is not looked at once a factory is there.
-/

namespace BundleBinding

namespace Registry

variable {κ α : Type} [DecidableEq κ]

theorem contains_eq_isSome_get? (registry : Registry κ α) (key : κ) :
    registry.contains key = (registry.get? key).isSome := by
  rw [Bool.eq_iff_iff, contains, decide_eq_true_eq, mem_keys_iff, Option.isSome_iff_exists]

theorem size_insert_of_not_mem (registry : Registry κ α) {key : κ} (value : α)
    (hkey : key ∉ registry.keys) : (registry.insert key value).size = registry.size + 1 := by
  rw [size, entries_insert_of_not_mem registry value hkey, List.length_append,
    List.length_singleton, size]

end Registry

namespace Factory

variable {table : TypeTable} {method : Method} {factory : Factory}

theorem compile_of_returns (hreturns : method.returns = .named TypeRef.bundle) :
    compile table method =
      (method.parameters.zipIdx.mapM fun (parameter, position) =>
        Handler.ofParameter table method.id position parameter).map fun handlers =>
          ⟨method.id, handlers⟩ := by
  simp only [compile, ne_eq, hreturns, not_true_eq_false, if_false]
  rfl

theorem compile_of_returns_ne (hreturns : method.returns ≠ .named TypeRef.bundle) :
    compile table method =
      .error (.returnType method.id TypeRef.bundle method.returns.render) := by
  simp only [compile, hreturns, ne_eq, not_false_eq_true, if_true]
  rfl

theorem compile_eq_ok_iff :
    compile table method = .ok factory ↔
      method.returns = .named TypeRef.bundle ∧ ∃ handlers,
        (method.parameters.zipIdx.mapM fun (parameter, position) =>
          Handler.ofParameter table method.id position parameter) = .ok handlers ∧
        factory = ⟨method.id, handlers⟩ := by
  by_cases hreturns : method.returns = .named TypeRef.bundle
  · rw [compile_of_returns hreturns]
    cases method.parameters.zipIdx.mapM fun (parameter, position) =>
        Handler.ofParameter table method.id position parameter with
    | error fault => simp [Except.map]
    | ok handlers => simp [hreturns, Except.map, eq_comm]
  · rw [compile_of_returns_ne hreturns]
    simp [hreturns]

theorem method_of_compile (hcompile : compile table method = .ok factory) :
    factory.method = method.id := by
  obtain ⟨_, handlers, _, rfl⟩ := compile_eq_ok_iff.mp hcompile
  rfl

end Factory

namespace Cache

/-- A request for the factory of a method, with the types that it is to be checked against. -/
structure Request where
  table : TypeTable
  method : Method
  deriving Repr

namespace Request

def id (request : Request) : MethodId :=
  request.method.id

def compile (request : Request) : Except Fault Factory :=
  Factory.compile request.table request.method

end Request

def answer (cache : Cache) (request : Request) : Except Fault Factory :=
  (cache.getOrCompile request.table request.method).1

def after (cache : Cache) (request : Request) : Cache :=
  (cache.getOrCompile request.table request.method).2

def afterAll (cache : Cache) (requests : List Request) : Cache :=
  requests.foldl after cache

/-- What the requests are answered when they come one after the other. -/
def answers : Cache → List Request → List (Except Fault Factory)
  | _, [] => []
  | cache, request :: requests => cache.answer request :: (cache.after request).answers requests

variable {cache next : Cache} {request : Request} {requests : List Request}

/-- The rules by which a request is answered. -/
inductive Treats (cache : Cache) (request : Request) : Except Fault Factory → Cache → Prop
  | hit {factory : Factory} (hget : cache.get? request.id = some factory) :
      Treats cache request (.ok factory) cache
  | compiled {factory : Factory} (hget : cache.get? request.id = none)
      (hcompile : request.compile = .ok factory) :
      Treats cache request (.ok factory) (cache.publish request.id factory)
  | failed {fault : Fault} (hget : cache.get? request.id = none)
      (hcompile : request.compile = .error fault) : Treats cache request (.error fault) cache

theorem treats_compileOnce (cache : Cache) (request : Request) :
    Treats cache request (cache.compileOnce request.table request.method).1
      (cache.compileOnce request.table request.method).2 := by
  unfold compileOnce
  split
  · next factory hget => exact .hit hget
  · next hget =>
      split
      · next factory hcompile => exact .compiled hget hcompile
      · next fault hcompile => exact .failed hget hcompile

theorem getOrCompile_eq_compileOnce (cache : Cache) (table : TypeTable) (method : Method) :
    cache.getOrCompile table method = cache.compileOnce table method := by
  rw [getOrCompile]
  split
  · next factory hget => simp only [compileOnce, hget]
  · rfl

theorem treats_answer (cache : Cache) (request : Request) :
    Treats cache request (cache.answer request) (cache.after request) := by
  rw [answer, after, getOrCompile_eq_compileOnce]
  exact treats_compileOnce cache request

/-! ### One request -/

theorem get?_publish (cache : Cache) (id other : MethodId) (factory : Factory) :
    (cache.publish id factory).get? other = if other = id then some factory else cache.get? other :=
  cache.factories.get?_insert id other factory

theorem answer_of_get? {factory : Factory} (hget : cache.get? request.id = some factory) :
    cache.answer request = .ok factory ∧ cache.after request = cache := by
  have htreats := cache.treats_answer request
  generalize cache.answer request = result, cache.after request = next at htreats
  cases htreats with
  | hit hget' =>
      rw [hget] at hget'
      cases hget'
      exact ⟨rfl, rfl⟩
  | compiled hnone => rw [hget] at hnone; cases hnone
  | failed hnone => rw [hget] at hnone; cases hnone

theorem answer_of_get?_none (hget : cache.get? request.id = none) :
    cache.answer request = request.compile := by
  have htreats := cache.treats_answer request
  generalize cache.answer request = result, cache.after request = next at htreats
  cases htreats with
  | hit hget' => rw [hget] at hget'; cases hget'
  | compiled _ hcompile => exact hcompile.symm
  | failed _ hcompile => exact hcompile.symm

theorem answer_eq_compile_iff :
    cache.answer request = request.compile ↔
      ∀ factory, cache.get? request.id = some factory → request.compile = .ok factory := by
  cases hget : cache.get? request.id with
  | none =>
      rw [answer_of_get?_none hget]
      exact iff_of_true rfl nofun
  | some factory =>
      rw [(answer_of_get? hget).1]
      constructor
      · intro hcompile other hother
        cases hother
        exact hcompile.symm
      · intro hcompile
        exact (hcompile factory rfl).symm

/-- A cached factory stays, and only the one that is asked for may come to it. -/
theorem get?_after (cache : Cache) (request : Request) (id : MethodId) :
    (cache.after request).get? id =
      (cache.get? id).or (if request.id = id then request.compile.toOption else none) := by
  have htreats := cache.treats_answer request
  generalize cache.answer request = result, cache.after request = next at htreats
  cases htreats with
  | @hit factory hget =>
      by_cases hid : request.id = id
      · subst hid
        rw [hget, Option.some_or]
      · rw [if_neg hid, Option.or_none]
  | @compiled factory hget hcompile =>
      rw [get?_publish]
      by_cases hid : request.id = id
      · subst hid
        rw [if_pos rfl, if_pos rfl, hget, hcompile, Option.none_or]
        rfl
      · rw [if_neg (Ne.symm hid), if_neg hid, Option.or_none]
  | failed hget hcompile =>
      rw [hcompile]
      by_cases hid : request.id = id
      · rw [if_pos hid]
        exact (Option.or_none).symm
      · rw [if_neg hid, Option.or_none]

theorem forall_get?_after_iff
    (hrequest : ∀ factory, cache.get? request.id = some factory → request.compile = .ok factory)
    (other : Request) :
    (∀ factory, (cache.after request).get? other.id = some factory →
        other.compile = .ok factory) ↔
      (∀ factory, cache.get? other.id = some factory → other.compile = .ok factory) ∧
      (request.id = other.id →
        ∀ factory, request.compile = .ok factory → other.compile = .ok factory) := by
  rw [get?_after]
  by_cases hid : request.id = other.id
  · rw [if_pos hid]
    rw [hid] at hrequest
    cases hget : cache.get? other.id with
    | none => cases request.compile <;> simp [Except.toOption, hid]
    | some factory => simp [hrequest factory hget, hid]
  · simp [hid]

theorem get?_after_of_answer {factory : Factory} (hanswer : cache.answer request = .ok factory) :
    (cache.after request).get? request.id = some factory := by
  have htreats := cache.treats_answer request
  rw [hanswer] at htreats
  generalize cache.after request = next at htreats
  cases htreats with
  | hit hget => exact hget
  | compiled => rw [get?_publish, if_pos rfl]

theorem after_of_error {fault : Fault} (herror : cache.answer request = .error fault) :
    cache.after request = cache := by
  have htreats := cache.treats_answer request
  rw [herror] at htreats
  generalize cache.after request = next at htreats
  cases htreats
  rfl

/-! ### Runs -/

/-- The factory of the first request for a method that can be compiled. -/
def firstCompiled? (requests : List Request) (id : MethodId) : Option Factory :=
  requests.findSome? fun request => if request.id = id then request.compile.toOption else none

theorem firstCompiled?_cons (request : Request) (requests : List Request) (id : MethodId) :
    firstCompiled? (request :: requests) id =
      (if request.id = id then request.compile.toOption else none).or
        (firstCompiled? requests id) := by
  rw [firstCompiled?, List.findSome?_cons]
  cases if request.id = id then request.compile.toOption else none <;> rfl

theorem firstCompiled?_append (earlier later : List Request) (id : MethodId) :
    firstCompiled? (earlier ++ later) id =
      (firstCompiled? earlier id).or (firstCompiled? later id) :=
  List.findSome?_append

theorem firstCompiled?_eq_none {id : MethodId}
    (hnone : ∀ request ∈ requests, request.id = id → ∀ factory, request.compile ≠ .ok factory) :
    firstCompiled? requests id = none := by
  rw [firstCompiled?, List.findSome?_eq_none_iff]
  intro request hmem
  split
  · next hid =>
      cases hcompile : request.compile with
      | error fault => rfl
      | ok factory => exact absurd hcompile (hnone request hmem hid factory)
  · rfl

/-- What a cache holds after a run: what it held before, and else what the run was first to compile. -/
theorem get?_afterAll (cache : Cache) (requests : List Request) (id : MethodId) :
    (cache.afterAll requests).get? id = (cache.get? id).or (firstCompiled? requests id) := by
  induction requests generalizing cache with
  | nil => exact Option.or_none.symm
  | cons request requests ih =>
      calc ((cache.after request).afterAll requests).get? id
          = ((cache.after request).get? id).or (firstCompiled? requests id) :=
            ih (cache.after request)
        _ = (cache.get? id).or (firstCompiled? (request :: requests) id) := by
            rw [get?_after, Option.or_assoc, firstCompiled?_cons]

theorem get?_afterAll_empty (requests : List Request) (id : MethodId) :
    (empty.afterAll requests).get? id = firstCompiled? requests id := by
  rw [get?_afterAll]
  exact Option.none_or

theorem get?_afterAll_of_get? {id : MethodId} {factory : Factory}
    (hget : cache.get? id = some factory) (requests : List Request) :
    (cache.afterAll requests).get? id = some factory := by
  rw [get?_afterAll, hget, Option.some_or]

theorem afterAll_append (cache : Cache) (earlier later : List Request) :
    cache.afterAll (earlier ++ later) = (cache.afterAll earlier).afterAll later :=
  List.foldl_append

/-- What holds of a cache whatever it has been asked for. -/
structure Consistent (cache : Cache) : Prop where
  compilations_eq : cache.compilations = cache.size
  method_eq : ∀ id factory, cache.get? id = some factory → factory.method = id

theorem consistent_empty : empty.Consistent where
  compilations_eq := rfl
  method_eq := by
    intro id factory hget
    cases hget

theorem Consistent.after (hcache : cache.Consistent) (request : Request) :
    (cache.after request).Consistent := by
  have htreats := cache.treats_answer request
  generalize cache.answer request = result, cache.after request = next at htreats
  cases htreats with
  | hit => exact hcache
  | failed => exact hcache
  | @compiled factory hget hcompile =>
      have hfresh : request.id ∉ cache.factories.keys := Registry.get?_eq_none_iff.mp hget
      refine ⟨?_, ?_⟩
      · calc cache.compilations + 1
            = cache.size + 1 := by rw [hcache.compilations_eq]
          _ = (cache.publish request.id factory).size :=
              (cache.factories.size_insert_of_not_mem factory hfresh).symm
      · intro id other hother
        rw [get?_publish] at hother
        split at hother
        · next hid =>
            cases hother
            rw [hid]
            exact Factory.method_of_compile hcompile
        · exact hcache.method_eq id other hother

theorem Consistent.afterAll (hcache : cache.Consistent) (requests : List Request) :
    (cache.afterAll requests).Consistent := by
  induction requests generalizing cache with
  | nil => exact hcache
  | cons request requests ih => exact ih (hcache.after request)

theorem contains_afterAll_iff {requests : List Request} {id : MethodId} :
    (empty.afterAll requests).contains id = true ↔
      ∃ before request later, requests = before ++ request :: later ∧ request.id = id ∧
        ∃ factory, (empty.afterAll before).answer request = .ok factory := by
  rw [contains, Registry.contains_eq_isSome_get?, Option.isSome_iff_exists]
  change (∃ factory, (empty.afterAll requests).get? id = some factory) ↔ _
  constructor
  · -- The request that published the factory compiled it, and found nothing in its place.
    rintro ⟨factory, hget⟩
    rw [get?_afterAll_empty, firstCompiled?, List.findSome?_eq_some_iff] at hget
    obtain ⟨before, request, later, hrequests, hrequest, hbefore⟩ := hget
    split at hrequest
    · next hid =>
        refine ⟨before, request, later, hrequests, hid, factory, ?_⟩
        rw [answer_of_get?_none]
        · cases hcompile : request.compile with
          | error fault => rw [hcompile] at hrequest; cases hrequest
          | ok compiled => rw [hcompile] at hrequest; cases hrequest; rfl
        · rw [get?_afterAll_empty, firstCompiled?, List.findSome?_eq_none_iff]
          simpa only [hid] using hbefore
    · cases hrequest
  · rintro ⟨before, request, later, rfl, rfl, factory, hanswer⟩
    refine ⟨factory, ?_⟩
    rw [afterAll_append]
    exact get?_afterAll_of_get? (get?_after_of_answer hanswer) later

/-- A run from this cache answers each request as if there were no cache, exactly if the factories that are
there or come to be there are those that later requests for their methods compile to. -/
theorem answers_eq_map_compile_iff (cache : Cache) (requests : List Request) :
    cache.answers requests = requests.map Request.compile ↔
      (∀ request ∈ requests, ∀ factory, cache.get? request.id = some factory →
        request.compile = .ok factory) ∧
      requests.Pairwise fun earlier later => earlier.id = later.id →
        ∀ factory, earlier.compile = .ok factory → later.compile = .ok factory := by
  -- A factory that the first request brings into the cache counts among the cached ones for the rest.
  induction requests generalizing cache with
  | nil => simp [answers]
  | cons request requests ih =>
      rw [answers, List.map_cons, List.cons.injEq, ih, answer_eq_compile_iff,
        List.forall_mem_cons, List.pairwise_cons, and_assoc]
      refine and_congr_right fun hrequest => ?_
      simp only [forall_get?_after_iff hrequest, imp_and, forall_and, and_assoc]

end Cache

open Cache (Request)

/-- **A cache follows its history.** After any run of requests, as many compilations have succeeded as
factories are kept; a method has one exactly if some request for it was granted; each factory is kept under
the method that it is for; a request that fails leaves everything as it was; and a method that has a factory
is given that one whatever is asked for in between. -/
theorem cache_follows_history (earlier : List Request) :
    (Cache.empty.afterAll earlier).compilations = (Cache.empty.afterAll earlier).size ∧
    (∀ id, (Cache.empty.afterAll earlier).contains id = true ↔
      ∃ before request later, earlier = before ++ request :: later ∧ request.id = id ∧
        ∃ factory, (Cache.empty.afterAll before).answer request = .ok factory) ∧
    (∀ id factory, (Cache.empty.afterAll earlier).get? id = some factory → factory.method = id) ∧
    (∀ request fault, (Cache.empty.afterAll earlier).answer request = .error fault →
      (Cache.empty.afterAll earlier).after request = Cache.empty.afterAll earlier) ∧
    (∀ id factory, (Cache.empty.afterAll earlier).get? id = some factory →
      ∀ later request, request.id = id →
        (Cache.empty.afterAll (earlier ++ later)).get? id = some factory ∧
        (Cache.empty.afterAll (earlier ++ later)).answer request = .ok factory) := by
  have hconsistent := Cache.consistent_empty.afterAll earlier
  refine ⟨hconsistent.compilations_eq, fun _ => Cache.contains_afterAll_iff,
    hconsistent.method_eq, fun _ _ => Cache.after_of_error, ?_⟩
  rintro _ factory hget later request rfl
  have hlater := Cache.get?_afterAll_of_get? hget later
  rw [← Cache.afterAll_append] at hlater
  exact ⟨hlater, (Cache.answer_of_get? hlater).1⟩

/-- **The first factory compiled for a method answers for it.** A request is answered as if there were no
cache, unless a request for the same method could be compiled before; then it is given the factory of the
first that could. So the cache does not show in a run exactly if, whenever a request is for the same method
as an earlier one that can be compiled, it compiles to the same factory. -/
theorem first_compiled_answers :
    (∀ earlier request, (∀ other ∈ earlier, other.id = request.id →
        ∀ factory, other.compile ≠ .ok factory) →
      (Cache.empty.afterAll earlier).answer request = request.compile) ∧
    (∀ before first between request factory,
      (∀ other ∈ before, other.id = request.id → ∀ factory, other.compile ≠ .ok factory) →
      first.id = request.id → first.compile = .ok factory →
      (Cache.empty.afterAll (before ++ first :: between)).answer request = .ok factory) ∧
    (∀ requests, Cache.empty.answers requests = requests.map Request.compile ↔
      requests.Pairwise fun earlier later => earlier.id = later.id →
        ∀ factory, earlier.compile = .ok factory → later.compile = .ok factory) := by
  refine ⟨?_, ?_, ?_⟩
  · intro earlier request hnone
    apply Cache.answer_of_get?_none
    rw [Cache.get?_afterAll_empty]
    exact Cache.firstCompiled?_eq_none hnone
  · intro before first between request factory hnone hid hcompile
    have hfirst : Cache.firstCompiled? (before ++ first :: between) request.id = some factory := by
      rw [Cache.firstCompiled?_append, Cache.firstCompiled?_eq_none hnone, Option.none_or,
        Cache.firstCompiled?_cons, if_pos hid, hcompile]
      rfl
    rw [← Cache.get?_afterAll_empty] at hfirst
    exact (Cache.answer_of_get? hfirst).1
  · intro requests
    rw [Cache.answers_eq_map_compile_iff]
    exact and_iff_right fun request _ factory hget => nomatch hget

/-- The same method twice, with another key the second time. -/
def rekeyed : List Request :=
  ["first", "second"].map fun key =>
    { table := TypeTable.platform
      method :=
        { owner := "Api"
          name := "open"
          returns := .named TypeRef.bundle
          parameters := [⟨none, .primitive .long, [⟨"LongValue", some key, none⟩]⟩] } }

/-- The second request is given the factory of the first, not the one that it compiles to. -/
theorem answers_rekeyed_ne : Cache.empty.answers rekeyed ≠ rekeyed.map Request.compile := by
  decide

end BundleBinding
