import Mathlib.Data.List.AList

set_option autoImplicit false

/- Keyed stores: finite associations with one entry per key. The underlying
association list fixes an iteration order; every lookup law below is
independent of that order. -/

/-- A finite map with an iteration order and at most one entry per key. -/
abbrev Store (κ ν : Type) : Type := AList (fun _ : κ => ν)

namespace Store

open List

variable {κ ν : Type}

/-- The entries in iteration order. -/
def pairs (store : Store κ ν) : List (κ × ν) :=
  store.entries.map fun entry => (entry.1, entry.2)

/-- Erase every entry that fails `accept`, in one pass over the entries. -/
def keep (store : Store κ ν) (accept : κ → ν → Bool) : Store κ ν :=
  ⟨store.entries.filter fun entry => accept entry.1 entry.2,
    List.NodupKeys.sublist filter_sublist store.nodupKeys⟩

/-- Rewrite every value in place; keys and order are untouched. -/
def mapValues (store : Store κ ν) (update : κ → ν → ν) : Store κ ν :=
  ⟨store.entries.map fun entry => ⟨entry.1, update entry.1 entry.2⟩, by
    have nodup := store.nodupKeys
    rw [List.NodupKeys, keys, map_map]
    exact nodup⟩

theorem pairs_fst_nodup (store : Store κ ν) : (store.pairs.map Prod.fst).Nodup := by
  have nodup := store.nodupKeys
  simp only [pairs, map_map]
  exact nodup

@[simp] theorem pairs_keep (store : Store κ ν) (accept : κ → ν → Bool) :
    (store.keep accept).pairs = store.pairs.filter fun entry => accept entry.1 entry.2 := by
  simp only [pairs, keep, filter_map]
  rfl

@[simp] theorem pairs_mapValues (store : Store κ ν) (update : κ → ν → ν) :
    (store.mapValues update).pairs = store.pairs.map fun entry => (entry.1, update entry.1 entry.2) := by
  simp only [pairs, mapValues, map_map]
  rfl

variable [DecidableEq κ]

def lookup (store : Store κ ν) (key : κ) : Option ν := AList.lookup key store

/-- Store a value at a key, replacing the value the key had. -/
def insert (store : Store κ ν) (key : κ) (value : ν) : Store κ ν := AList.insert key value store

def erase (store : Store κ ν) (key : κ) : Store κ ν := AList.erase key store

/-- Rewrite the value stored at one key, if there is one. -/
def adjust (store : Store κ ν) (key : κ) (update : ν → ν) : Store κ ν :=
  store.mapValues fun other value => if other = key then update value else value

variable {α : Type} (store : Store κ ν)

theorem mem_pairs (key : κ) (value : ν) :
    (key, value) ∈ store.pairs ↔ store.lookup key = some value := by
  rw [← Option.mem_def, lookup, AList.mem_lookup_iff, pairs, mem_map]
  constructor
  · rintro ⟨entry, member, same⟩
    obtain ⟨rfl, rfl⟩ := Prod.mk.inj same
    exact member
  · intro member
    exact ⟨_, member, rfl⟩

theorem mem_pairs_fst (key : κ) :
    key ∈ store.pairs.map Prod.fst ↔ ∃ value, store.lookup key = some value := by
  simp [mem_pairs]

/-- Searching the entries from the front finds the value of the key. -/
theorem find_pairs (project : ν → α) (key : κ) :
    ((store.pairs.map fun entry => (entry.1, project entry.2)).find? fun entry => entry.1 = key).map
      Prod.snd = (store.lookup key).map project := by
  apply Option.ext
  intro value
  rw [Option.map_eq_some_iff, Option.map_eq_some_iff]
  constructor
  · rintro ⟨entry, found, rfl⟩
    obtain ⟨⟨other, stored⟩, member, rfl⟩ := mem_map.mp (mem_of_find?_eq_some found)
    have keyed := find?_some found
    obtain rfl : other = key := of_decide_eq_true keyed
    exact ⟨stored, (store.mem_pairs _ _).mp member, rfl⟩
  · rintro ⟨stored, found, rfl⟩
    have member := (store.mem_pairs key stored).mpr found
    cases first : (store.pairs.map fun entry => (entry.1, project entry.2)).find?
        fun entry => entry.1 = key with
    | none =>
      have other := find?_eq_none.mp first _ (mem_map_of_mem member)
      exact absurd (decide_eq_true rfl) other
    | some entry =>
      obtain ⟨⟨other, value⟩, listed, rfl⟩ := mem_map.mp (mem_of_find?_eq_some first)
      have keyed := find?_some first
      obtain rfl : other = key := of_decide_eq_true keyed
      have same := ((store.mem_pairs _ _).mp listed).symm.trans found
      obtain rfl := Option.some.inj same
      exact ⟨_, rfl, rfl⟩

@[simp] theorem lookup_keep (accept : κ → ν → Bool) (key : κ) :
    (store.keep accept).lookup key = (store.lookup key).filter (accept key) := by
  apply Option.ext
  intro value
  rw [← mem_pairs, pairs_keep, mem_filter, mem_pairs, Option.filter_eq_some_iff]

@[simp] theorem lookup_mapValues (update : κ → ν → ν) (key : κ) :
    (store.mapValues update).lookup key = (store.lookup key).map (update key) := by
  apply Option.ext
  intro value
  rw [← mem_pairs, pairs_mapValues, mem_map, Option.map_eq_some_iff]
  constructor
  · rintro ⟨entry, member, same⟩
    obtain ⟨rfl, rfl⟩ := Prod.mk.inj same
    exact ⟨entry.2, (store.mem_pairs _ _).mp member, rfl⟩
  · rintro ⟨old, found, rfl⟩
    exact ⟨(key, old), (store.mem_pairs _ _).mpr found, rfl⟩

@[simp] theorem lookup_adjust_self (key : κ) (update : ν → ν) :
    (store.adjust key update).lookup key = (store.lookup key).map update := by
  simp [adjust, lookup_mapValues]

theorem lookup_adjust_ne {key other : κ} (update : ν → ν)
    (different : other ≠ key) : (store.adjust key update).lookup other = store.lookup other := by
  simp only [adjust, lookup_mapValues, different, ↓reduceIte]
  exact Option.map_id'

/-- Adjusting a key never changes a projection that the adjustment respects. -/
theorem lookup_adjust_map (key other : κ) (update : ν → ν)
    (project : ν → α) (respects : ∀ value, project (update value) = project value) :
    ((store.adjust key update).lookup other).map project = (store.lookup other).map project := by
  by_cases same : other = key
  · subst same
    rw [lookup_adjust_self, Option.map_map]
    exact congrArg (fun f => (store.lookup other).map f) (funext respects)
  · rw [lookup_adjust_ne store update same]

@[simp] theorem lookup_empty (key : κ) : (∅ : Store κ ν).lookup key = none :=
  AList.lookup_empty key

@[simp] theorem lookup_insert (key other : κ) (value : ν) :
    (store.insert key value).lookup other =
      if other = key then some value else store.lookup other := by
  by_cases same : other = key
  · subst same
    rw [if_pos rfl]
    exact AList.lookup_insert store
  · rw [if_neg same]
    exact AList.lookup_insert_ne same

@[simp] theorem lookup_erase (key other : κ) :
    (store.erase key).lookup other = if other = key then none else store.lookup other := by
  by_cases same : other = key
  · subst same
    rw [if_pos rfl]
    exact AList.lookup_erase other store
  · rw [if_neg same]
    exact AList.lookup_erase_ne same

end Store
