import BundleBinding.Proofs.Invocation
import BundleBinding.Proofs.Signatures
import Mathlib.Data.List.Induction
import Mathlib.Data.List.Perm.Subperm

/-!
# Filled bundles

Every present argument is written under the key of its parameter, one after the other. Nothing keeps two
parameters of a method from having the same key, and then the later argument replaces the earlier one: a
bundle holds all arguments exactly if the keys of those that are present are distinct.
-/

namespace BundleBinding

namespace Registry

variable {κ α : Type} [DecidableEq κ]

def insertAll (registry : Registry κ α) (entries : List (κ × α)) : Registry κ α :=
  entries.foldl (fun registry entry => registry.insert entry.1 entry.2) registry

theorem get?_insertAll (registry : Registry κ α) (entries : List (κ × α)) (key : κ) :
    (registry.insertAll entries).get? key =
      (entries.reverse.lookup key).or (registry.get? key) := by
  induction entries using List.reverseRecOn with
  | nil => rfl
  | append_singleton entries entry ih =>
      rw [insertAll, List.foldl_concat, ← insertAll, get?_insert, ih, List.reverse_concat]
      obtain ⟨other, value⟩ := entry
      by_cases heq : key = other
      · subst heq
        rw [if_pos rfl, List.lookup_cons_self, Option.some_or]
      · have hbeq : (key == other) = false := beq_false_of_ne heq
        rw [if_neg heq, List.lookup_cons, hbeq]

theorem entries_insertAll_of_nodup {registry : Registry κ α} {entries : List (κ × α)}
    (hnodup : (registry.keys ++ entries.map Prod.fst).Nodup) :
    (registry.insertAll entries).entries = registry.entries ++ entries := by
  induction entries generalizing registry with
  | nil => exact (List.append_nil _).symm
  | cons entry entries ih =>
      have hfresh : entry.1 ∉ registry.keys := by
        intro hmem
        exact (List.nodup_append.mp hnodup).2.2 _ hmem _ List.mem_cons_self rfl
      have hkeys := registry.keys_insert_of_not_mem entry.2 hfresh
      rw [List.map_cons, ← List.singleton_append, ← List.append_assoc, ← hkeys] at hnodup
      change ((registry.insert entry.1 entry.2).insertAll entries).entries = _
      rw [ih hnodup, registry.entries_insert_of_not_mem entry.2 hfresh, List.append_assoc,
        List.singleton_append]

theorem entries_insertAll_empty_iff {entries : List (κ × α)} :
    (empty.insertAll entries).entries = entries ↔ (entries.map Prod.fst).Nodup := by
  constructor
  · intro hentries
    have hnodup := (empty.insertAll entries).nodup
    rwa [hentries] at hnodup
  · intro hnodup
    exact entries_insertAll_of_nodup hnodup

theorem size_insertAll_empty_iff {entries : List (κ × α)} :
    ((empty : Registry κ α).insertAll entries).size = entries.length ↔
      (entries.map Prod.fst).Nodup := by
  constructor
  · intro hsize
    have hsubset : (empty.insertAll entries).keys ⊆ entries.map Prod.fst := by
      intro key hkey
      obtain ⟨value, hvalue⟩ := mem_keys_iff.mp hkey
      rw [get?_insertAll, get?_empty, Option.or_none, List.lookup_eq_some_iff] at hvalue
      obtain ⟨before, after, hreverse, _⟩ := hvalue
      have hmem : (key, value) ∈ entries := by
        rw [← List.mem_reverse, hreverse]
        exact List.mem_append_right _ List.mem_cons_self
      exact List.mem_map_of_mem hmem
    have hnodup : (empty.insertAll entries).keys.Nodup := (empty.insertAll entries).nodup
    have hlength : (entries.map Prod.fst).length = (empty.insertAll entries).keys.length := by
      rw [List.length_map, ← hsize, size, keys, List.length_map]
    have hperm := (List.subperm_of_subset hnodup hsubset).perm_of_length_le (Nat.le_of_eq hlength)
    exact hperm.nodup_iff.mp hnodup
  · intro hnodup
    rw [size, entries_insertAll_empty_iff.mpr hnodup]

end Registry

/-- The entries that arguments call for: one for each argument that is present, of the kind and under the
key of its parameter. -/
inductive ArgumentEntries :
    List Parameter → List (Option Value) → List (String × Value) → Prop
  | nil : ArgumentEntries [] [] []
  | absent {parameter : Parameter} {parameters : List Parameter} {arguments : List (Option Value)}
      {entries : List (String × Value)} (hothers : ArgumentEntries parameters arguments entries) :
      ArgumentEntries (parameter :: parameters) (none :: arguments) entries
  | present {parameter : Parameter} {parameters : List Parameter} {arguments : List (Option Value)}
      {entries : List (String × Value)} {kind : Kind} {key description : String}
      {value converted : Value}
      (hbinding : declaredBindings parameter.annotations = [⟨kind, some key, description⟩])
      (hfits : value.toKind? kind = some converted)
      (hothers : ArgumentEntries parameters arguments entries) :
      ArgumentEntries (parameter :: parameters) (some value :: arguments)
        ((key, converted) :: entries)

theorem ArgumentEntries.length_eq {parameters : List Parameter} {arguments : List (Option Value)}
    {entries : List (String × Value)} (hentries : ArgumentEntries parameters arguments entries) :
    entries.length = arguments.countP Option.isSome := by
  induction hentries with
  | nil => rfl
  | absent _ ih => rw [List.countP_cons_of_neg (by simp), ih]
  | present _ _ _ ih => rw [List.countP_cons_of_pos (by rfl), List.length_cons, ih]

def Handler.IsDeclaredBy (handler : Handler) (parameter : Parameter) : Prop :=
  ∃ description, declaredBindings parameter.annotations =
    [⟨handler.kind, some handler.key, description⟩]

theorem Handler.isDeclaredBy_of_ofParameter {table : TypeTable} {method : MethodId} {position : Nat}
    {parameter : Parameter} {handler : Handler}
    (hhandler : ofParameter table method position parameter = .ok handler) :
    handler.IsDeclaredBy parameter := by
  obtain ⟨-, ⟨mark, hsole, -, hkey⟩, -⟩ := Parameter.ofParameter_eq_ok_iff.mp hhandler
  refine ⟨mark.description.getD "", ?_⟩
  rw [declaredBindings_of_sole hsole, hkey]

namespace Factory

variable {table : TypeTable} {method : Method} {factory : Factory}

theorem handlers_isDeclaredBy (hcompile : compile table method = .ok factory) :
    List.Forall₂ (fun parameter handler => handler.IsDeclaredBy parameter)
      method.parameters factory.handlers := by
  obtain ⟨_, handlers, hhandlers, rfl⟩ := compile_eq_ok_iff.mp hcompile
  have hforall := (mapM_eq_ok_iff.mp hhandlers).imp fun _ _ => Handler.isDeclaredBy_of_ofParameter
  have hparameters : method.parameters = method.parameters.zipIdx.map Prod.fst := by
    rw [List.zipIdx_map_fst]
  rw [hparameters, List.forall₂_map_left_iff]
  exact hforall

def keyed (entry : Handler × Value) : String × Value :=
  (entry.1.key, entry.2)

theorem fill_eq (entries : List (Handler × Value)) :
    fill entries = Registry.empty.insertAll (entries.map keyed) := by
  rw [fill, Registry.insertAll, List.foldl_map]
  rfl

theorem Passes.argumentEntries {parameters : List Parameter} {handlers : List Handler}
    {arguments : List (Option Value)} {prepared : List (Handler × Option Value)}
    (hpasses : Passes handlers arguments prepared)
    (hdeclared : List.Forall₂ (fun parameter handler => handler.IsDeclaredBy parameter)
      parameters handlers) :
    ArgumentEntries parameters arguments ((written prepared).map keyed) := by
  induction hpasses generalizing parameters with
  | nil =>
      cases hdeclared
      exact .nil
  | cons htakes _ ih =>
      cases hdeclared with
      | cons hfirst hothers =>
          obtain ⟨description, hbinding⟩ := hfirst
          cases htakes with
          | absent => exact .absent (ih hothers)
          | present hfits => exact .present hbinding hfits (ih hothers)

end Factory

/-- **A filled bundle holds all arguments exactly if their keys are distinct.** The arguments that are
present call for one entry each. Under each key the bundle has the last of these entries, and it has no
further key. It has all of them, as many as there are arguments present, exactly if no two of them have
the same key. -/
theorem arguments_kept_iff_distinct {table : TypeTable} {method : Method} {factory : Factory}
    {listeners : List Listener} {arguments : List (Option Value)} {bundle : Bundle}
    (hcompile : Factory.compile table method = .ok factory)
    (hinvoke : (factory.invoke listeners arguments).result = .ok bundle) :
    ∃ entries, ArgumentEntries method.parameters arguments entries ∧
      (∀ key, bundle.get? key = entries.reverse.lookup key) ∧
      (bundle.entries = entries ↔ (entries.map Prod.fst).Nodup) ∧
      (bundle.size = arguments.countP Option.isSome ↔ (entries.map Prod.fst).Nodup) := by
  obtain ⟨prepared, hpasses, rfl⟩ := Factory.exists_passes_of_invoke hinvoke
  have hentries := hpasses.argumentEntries (Factory.handlers_isDeclaredBy hcompile)
  rw [Factory.fill_eq, ← hentries.length_eq]
  refine ⟨_, hentries, ?_, Registry.entries_insertAll_empty_iff, Registry.size_insertAll_empty_iff⟩
  intro key
  rw [Registry.get?_insertAll, Registry.get?_empty, Option.or_none]

/-- A method with two parameters under one key. -/
def repeatedKey : Method where
  owner := "Api"
  name := "open"
  returns := .named TypeRef.bundle
  parameters :=
    [⟨none, .primitive .int, [⟨"IntValue", some "count", none⟩]⟩,
      ⟨none, .primitive .long, [⟨"LongValue", some "count", none⟩]⟩]

def repeatedKeyFactory : Factory where
  method := repeatedKey.id
  handlers := [⟨0, .int, "count", false⟩, ⟨1, .long, "count", false⟩]

theorem repeated_key_loses_argument :
    Factory.compile TypeTable.platform repeatedKey = .ok repeatedKeyFactory ∧
    ∃ bundle, (repeatedKeyFactory.invoke [] [some (.int 5), some (.long 7)]).result = .ok bundle ∧
      bundle.int? "count" = none ∧ bundle.long? "count" = some 7 ∧
      ∃ entries,
        ArgumentEntries repeatedKey.parameters [some (.int 5), some (.long 7)] entries ∧
        ¬ (entries.map Prod.fst).Nodup := by
  have hcompile : Factory.compile TypeTable.platform repeatedKey = .ok repeatedKeyFactory := by
    decide
  refine ⟨hcompile, _, rfl, by decide, by decide, ?_⟩
  obtain ⟨entries, hentries, _, _, hsize⟩ := @arguments_kept_iff_distinct _ _ _ []
    [some (.int 5), some (.long 7)] _ hcompile rfl
  refine ⟨entries, hentries, fun hdistinct => ?_⟩
  exact absurd (hsize.mpr hdistinct) (by decide)

end BundleBinding
