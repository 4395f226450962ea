/-!
Registries: values under distinct keys, in the order in which the keys first came. Writing to a key
that is present replaces its value and moves nothing. The view is `get?` for the values and `keys`
for the order.
-/

namespace BundleBinding

@[ext]
structure Registry (κ α : Type) where
  entries : List (κ × α)
  nodup : (entries.map Prod.fst).Nodup
  deriving Repr

namespace Registry

variable {κ α β : Type} [DecidableEq κ]

/-- The entries with `value` under `key`: in its place if the key is present, else at the end. -/
def put (key : κ) (value : α) : List (κ × α) → List (κ × α)
  | [] => [(key, value)]
  | entry :: entries =>
      if entry.1 = key then (key, value) :: entries else entry :: put key value entries

theorem map_fst_put (key : κ) (value : α) (entries : List (κ × α)) :
    (put key value entries).map Prod.fst =
      if key ∈ entries.map Prod.fst then entries.map Prod.fst
      else entries.map Prod.fst ++ [key] := by
  induction entries with
  | nil => simp [put]
  | cons entry entries ih =>
      by_cases h : entry.1 = key
      · simp [put, h]
      · have h' : key ≠ entry.1 := fun e => h e.symm
        simp only [put, h, if_false, List.map_cons, List.mem_cons, h', false_or, ih]
        split <;> simp

theorem nodup_put (key : κ) (value : α) {entries : List (κ × α)}
    (h : (entries.map Prod.fst).Nodup) : ((put key value entries).map Prod.fst).Nodup := by
  rw [map_fst_put]
  split
  · exact h
  · next hkey =>
      refine List.nodup_append.mpr ⟨h, by simp, ?_⟩
      intro a ha b hb
      rw [List.mem_singleton.mp hb]
      exact fun e => hkey (e ▸ ha)

def empty : Registry κ α :=
  ⟨[], by simp⟩

instance : Inhabited (Registry κ α) :=
  ⟨empty⟩

def insert (registry : Registry κ α) (key : κ) (value : α) : Registry κ α :=
  ⟨put key value registry.entries, nodup_put key value registry.nodup⟩

def erase (registry : Registry κ α) (key : κ) : Registry κ α :=
  ⟨registry.entries.filter fun entry => entry.1 ≠ key,
    registry.nodup.sublist (List.filter_sublist.map Prod.fst)⟩

def get? (registry : Registry κ α) (key : κ) : Option α :=
  (registry.entries.find? fun entry => entry.1 = key).map Prod.snd

def keys (registry : Registry κ α) : List κ :=
  registry.entries.map Prod.fst

def values (registry : Registry κ α) : List α :=
  registry.entries.map Prod.snd

def contains (registry : Registry κ α) (key : κ) : Bool :=
  decide (key ∈ registry.keys)

def size (registry : Registry κ α) : Nat :=
  registry.entries.length

def isEmpty (registry : Registry κ α) : Bool :=
  registry.entries.isEmpty

omit [DecidableEq κ] in
@[simp]
theorem keys_empty : (empty : Registry κ α).keys = [] := rfl

@[simp]
theorem get?_empty (key : κ) : (empty : Registry κ α).get? key = none := rfl

theorem keys_insert (registry : Registry κ α) (key : κ) (value : α) :
    (registry.insert key value).keys =
      if key ∈ registry.keys then registry.keys else registry.keys ++ [key] :=
  map_fst_put key value registry.entries

/-- Keys stand in the order in which they were first written. -/
theorem keys_insert_of_eraseDups {registry : Registry κ α} {earlier : List κ}
    (hkeys : registry.keys = earlier.eraseDups) (key : κ) (value : α) :
    (registry.insert key value).keys = (earlier ++ [key]).eraseDups := by
  rw [keys_insert, hkeys, List.eraseDups_append]
  split
  · next hmem => simp [List.removeAll, List.mem_eraseDups.mp hmem]
  · next hmem => simp [List.removeAll, mt List.mem_eraseDups.mpr hmem, List.eraseDups_cons]

@[simp]
theorem get?_insert_self (registry : Registry κ α) (key : κ) (value : α) :
    (registry.insert key value).get? key = some value := by
  obtain ⟨entries, _⟩ := registry
  simp only [insert, get?]
  induction entries with
  | nil => simp [put]
  | cons entry entries ih =>
      by_cases h : entry.1 = key
      · simp [put, h]
      · simp_all [put]

theorem get?_insert_of_ne (registry : Registry κ α) {key other : κ} (value : α)
    (hne : other ≠ key) : (registry.insert key value).get? other = registry.get? other := by
  obtain ⟨entries, _⟩ := registry
  simp only [insert, get?]
  induction entries with
  | nil => simp [put, hne.symm]
  | cons entry entries ih =>
      by_cases h : entry.1 = key
      · have : entry.1 ≠ other := fun e => hne (e ▸ h)
        simp [put, h, hne.symm]
      · by_cases ho : entry.1 = other <;> simp_all [put]

omit [DecidableEq κ] in
theorem value_unique (registry : Registry κ α) {key : κ} {left right : α}
    (hleft : (key, left) ∈ registry.entries) (hright : (key, right) ∈ registry.entries) :
    left = right := by
  obtain ⟨entries, hnodup⟩ := registry
  simp only at hleft hright
  induction entries with
  | nil => simp at hleft
  | cons entry entries ih =>
      simp only [List.map_cons, List.nodup_cons] at hnodup
      have hfirst : ∀ value, (key, value) ∈ entries → entry.1 ≠ key := by
        intro value hmem heq
        exact hnodup.1 (heq ▸ List.mem_map_of_mem (f := Prod.fst) hmem)
      rcases List.mem_cons.mp hleft with hl | hl <;> rcases List.mem_cons.mp hright with hr | hr
      · exact congrArg Prod.snd (hl.trans hr.symm)
      · exact absurd (congrArg Prod.fst hl).symm (hfirst right hr)
      · exact absurd (congrArg Prod.fst hr).symm (hfirst left hl)
      · exact ih hnodup.2 hl hr

theorem get?_eq_some_iff {registry : Registry κ α} {key : κ} {value : α} :
    registry.get? key = some value ↔ (key, value) ∈ registry.entries := by
  have hof : ∀ {found : α}, registry.get? key = some found → (key, found) ∈ registry.entries := by
    intro found h
    obtain ⟨entry, hentry, rfl⟩ := Option.map_eq_some_iff.mp h
    have hkey : entry.1 = key := by simpa using List.find?_some hentry
    exact hkey ▸ List.mem_of_find?_eq_some hentry
  refine ⟨hof, fun hmem => ?_⟩
  cases h : registry.get? key with
  | none =>
      have hnone := List.find?_eq_none.mp (Option.map_eq_none_iff.mp h) (key, value) hmem
      simp at hnone
  | some found => rw [registry.value_unique (hof h) hmem]

theorem mem_keys_iff {registry : Registry κ α} {key : κ} :
    key ∈ registry.keys ↔ ∃ value, registry.get? key = some value := by
  simp only [keys, List.mem_map, get?_eq_some_iff]
  constructor
  · rintro ⟨entry, hentry, rfl⟩
    exact ⟨entry.2, hentry⟩
  · rintro ⟨value, hvalue⟩
    exact ⟨(key, value), hvalue, rfl⟩

theorem get?_eq_none_iff {registry : Registry κ α} {key : κ} :
    registry.get? key = none ↔ key ∉ registry.keys := by
  rw [mem_keys_iff]
  cases registry.get? key <;> simp

theorem mem_values_iff {registry : Registry κ α} {value : α} :
    value ∈ registry.values ↔ ∃ key, registry.get? key = some value := by
  simp only [values, List.mem_map, get?_eq_some_iff]
  constructor
  · rintro ⟨entry, hentry, rfl⟩
    exact ⟨entry.1, hentry⟩
  · rintro ⟨key, hkey⟩
    exact ⟨(key, value), hkey, rfl⟩

theorem put_of_not_mem {key : κ} (value : α) {entries : List (κ × α)}
    (hkey : key ∉ entries.map Prod.fst) : put key value entries = entries ++ [(key, value)] := by
  induction entries with
  | nil => rfl
  | cons entry entries ih =>
      simp only [List.map_cons, List.mem_cons, not_or] at hkey
      rw [put, if_neg (Ne.symm hkey.1), ih hkey.2, List.cons_append]

theorem put_of_mem {key : κ} {value : α} {entries : List (κ × α)}
    (hnodup : (entries.map Prod.fst).Nodup) (hmem : (key, value) ∈ entries) :
    put key value entries = entries := by
  induction entries with
  | nil => simp at hmem
  | cons entry entries ih =>
      simp only [List.map_cons, List.nodup_cons] at hnodup
      rcases List.mem_cons.mp hmem with rfl | hmem
      · rw [put, if_pos rfl]
      · have hne : entry.1 ≠ key := by
          intro heq
          exact hnodup.1 (heq ▸ List.mem_map_of_mem (f := Prod.fst) hmem)
        rw [put, if_neg hne, ih hnodup.2 hmem]

theorem put_put (key : κ) (first second : α) (entries : List (κ × α)) :
    put key second (put key first entries) = put key second entries := by
  induction entries with
  | nil => simp [put]
  | cons entry entries ih => by_cases heq : entry.1 = key <;> simp [put, heq, ih]

theorem insert_of_get? {registry : Registry κ α} {key : κ} {value : α}
    (hget : registry.get? key = some value) : registry.insert key value = registry :=
  Registry.ext (put_of_mem registry.nodup (get?_eq_some_iff.mp hget))

@[simp]
theorem insert_insert (registry : Registry κ α) (key : κ) (first second : α) :
    (registry.insert key first).insert key second = registry.insert key second :=
  Registry.ext (put_put key first second registry.entries)

theorem entries_insert_of_not_mem (registry : Registry κ α) {key : κ} (value : α)
    (hkey : key ∉ registry.keys) :
    (registry.insert key value).entries = registry.entries ++ [(key, value)] :=
  put_of_not_mem value hkey

theorem keys_insert_of_not_mem (registry : Registry κ α) {key : κ} (value : α)
    (hkey : key ∉ registry.keys) : (registry.insert key value).keys = registry.keys ++ [key] := by
  rw [keys_insert, if_neg hkey]

theorem values_insert_of_not_mem (registry : Registry κ α) {key : κ} (value : α)
    (hkey : key ∉ registry.keys) :
    (registry.insert key value).values = registry.values ++ [value] := by
  simp only [values, registry.entries_insert_of_not_mem value hkey, List.map_append,
    List.map_cons, List.map_nil]

theorem get?_insert (registry : Registry κ α) (key other : κ) (value : α) :
    (registry.insert key value).get? other =
      if other = key then some value else registry.get? other := by
  split
  · next heq => rw [heq, get?_insert_self]
  · next hne => exact registry.get?_insert_of_ne value hne

end Registry

end BundleBinding
