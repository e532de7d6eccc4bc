/-
  AsyncViz.Lib.Lru

  A least-recently-used cache on an ordered dict, the way `collections.OrderedDict` makes
  one of `move_to_end` and `popitem(last=False)`: reading an entry and writing one move it
  to the end, and a write that makes the dict too large drops entries from the front.

  The bound on the size is a field of the structure.  What a user of the cache may rely on
  is that it makes nothing up: moving changes no lookup (`get?_touch`), and behind a write
  every entry is the written one or one from before (`get?_insert`).
-/

import AsyncViz.Lib.Dict

namespace AsyncViz.Lib

variable {κ ν : Type _}

/-- A cache of at most `capacity` entries, least recently used first. -/
structure Lru (κ ν : Type _) where
  capacity : Nat
  dict : Dict κ ν
  size_le : dict.size ≤ capacity

namespace Lru

/-- The cache before its first entry. -/
def empty (capacity : Nat) : Lru κ ν := ⟨capacity, ⟨[], List.nodup_nil⟩, Nat.zero_le _⟩

/-- The last `n` entries of a dict. -/
def keepLast (n : Nat) (d : Dict κ ν) : Dict κ ν :=
  ⟨d.entries.drop (d.size - n), d.nodup_keys.sublist ((List.drop_sublist _ _).map _)⟩

theorem size_keepLast_le (n : Nat) (d : Dict κ ν) : (keepLast n d).size ≤ n := by
  have hlength : (keepLast n d).size = d.size - (d.size - n) := List.length_drop
  omega

variable [DecidableEq κ]

/-- `d.move_to_end(k)`, for a key that is there. -/
def moveToEnd (d : Dict κ ν) (k : κ) : Dict κ ν :=
  match d.get? k with
  | some v => (d.pop k).set k v
  | none => d

theorem get?_moveToEnd (d : Dict κ ν) (k k' : κ) : (moveToEnd d k).get? k' = d.get? k' := by
  rw [moveToEnd]
  cases hk : d.get? k with
  | none => rfl
  | some v =>
    dsimp only
    by_cases hkk' : k' = k
    · rw [hkk', Dict.get?_set_self, hk]
    · rw [Dict.get?_set_of_ne _ _ hkk', Dict.get?_pop_of_ne _ hkk']

theorem size_moveToEnd (d : Dict κ ν) (k : κ) : (moveToEnd d k).size = d.size := by
  rw [moveToEnd]
  cases hk : d.get? k with
  | none => rfl
  | some v =>
    -- the keys are permuted
    have hnot : k ∉ d.pop k := fun h => ((Dict.mem_pop_iff d k k).mp h).1 rfl
    have hmem : k ∈ d.keys := Dict.mem_of_get?_eq_some hk
    have hkeys : ((d.pop k).set k v).keys = d.keys.filter (· ≠ k) ++ [k] := by
      rw [Dict.keys_set_of_not_mem v hnot, Dict.keys_pop]
    have hnodup : (d.keys.filter (· ≠ k) ++ [k]).Nodup := hkeys ▸ ((d.pop k).set k v).nodup_keys
    have hsame : ∀ k', k' ∈ d.keys.filter (· ≠ k) ++ [k] ↔ k' ∈ d.keys := by
      intro k'
      rw [List.mem_append, List.mem_filter, List.mem_singleton]
      by_cases hkk' : k' = k
      · simp only [hkk', hmem, or_true]
      · simp [hkk']
    have hperm : (d.keys.filter (· ≠ k) ++ [k]).Perm d.keys :=
      (List.perm_ext_iff_of_nodup hnodup d.nodup_keys).mpr hsame
    rw [Dict.size_eq_length_keys, Dict.size_eq_length_keys, hkeys, hperm.length_eq]

theorem mem_moveToEnd (d : Dict κ ν) (k : κ) : k ∈ moveToEnd d k ↔ k ∈ d := by
  rw [Dict.mem_iff_get?_isSome, get?_moveToEnd, Dict.mem_iff_get?_isSome]

theorem get?_of_keepLast {n : Nat} {d : Dict κ ν} {k : κ} {v : ν}
    (h : (keepLast n d).get? k = some v) : d.get? k = some v :=
  Dict.mem_entries_iff.mp (List.mem_of_mem_drop (Dict.mem_entries_iff.mpr h))

/-- The entry of `k`. -/
def get? (c : Lru κ ν) (k : κ) : Option ν := c.dict.get? k

/-- The entry of `k` is read. -/
def touch (c : Lru κ ν) (k : κ) : Lru κ ν :=
  ⟨c.capacity, moveToEnd c.dict k, by rw [size_moveToEnd]; exact c.size_le⟩

/-- `v` is written under `k`: in its place and moved, or as a new entry. -/
def insert (c : Lru κ ν) (k : κ) (v : ν) : Lru κ ν :=
  if h : k ∈ c.dict then
    ⟨c.capacity, (moveToEnd c.dict k).set k v, by
      rw [Dict.size_set_of_mem v ((mem_moveToEnd c.dict k).mpr h), size_moveToEnd]
      exact c.size_le⟩
  else ⟨c.capacity, keepLast c.capacity (c.dict.set k v), size_keepLast_le _ _⟩

@[simp] theorem get?_touch (c : Lru κ ν) (k k' : κ) : (c.touch k).get? k' = c.get? k' :=
  get?_moveToEnd c.dict k k'

theorem get?_insert {c : Lru κ ν} {k k' : κ} {v v' : ν} (h : (c.insert k v).get? k' = some v') :
    k' = k ∧ v' = v ∨ c.get? k' = some v' := by
  -- either way the entry is one of a dict in which `k` was set
  have hset : ∀ d : Dict κ ν, (∀ k'', d.get? k'' = c.dict.get? k'') →
      (d.set k v).get? k' = some v' → k' = k ∧ v' = v ∨ c.get? k' = some v' := by
    intro d hd hsome
    by_cases hkk' : k' = k
    · rw [hkk', Dict.get?_set_self] at hsome
      exact .inl ⟨hkk', (Option.some.inj hsome).symm⟩
    · rw [Dict.get?_set_of_ne _ _ hkk', hd] at hsome
      exact .inr hsome
  rw [insert] at h
  split at h
  next => exact hset _ (get?_moveToEnd c.dict k) h
  next => exact hset _ (fun _ => rfl) (get?_of_keepLast h)

end Lru

end AsyncViz.Lib
