/-
  AsyncViz.Lib.Dict

  Insertion-ordered finite maps with the behaviour of a Python `dict` (and of a
  JavaScript `Map` or string-keyed object): assigning to a present key keeps its
  position, assigning to a new key appends it, deleting closes the gap.

  The distinctness of the keys is a field of the structure, so no lookup lemma
  below needs a well-formedness hypothesis.  The API is the lookup algebra
  (`get?_set_self`, `get?_set_of_ne`, `get?_pop_self`, `get?_pop_of_ne`), the
  behaviour of `keys`, the correspondence of `entries` with lookups
  (`mem_entries_iff`), counting values (`tally_set_of_get?`), and renaming of the keys,
  which every operation commutes with (`get?_rename`, `set_rename`, `pop_rename`).
-/

import Mathlib.Data.List.Nodup
import Mathlib.Data.List.Perm.Subperm
import Mathlib.Data.List.ProdSigma
import Mathlib.Logic.Embedding.Basic

namespace AsyncViz.Lib

/-- An insertion-ordered map; `entries` lists the items oldest first. -/
structure Dict (κ ν : Type _) where
  entries : List (κ × ν)
  nodup_keys : (entries.map Prod.fst).Nodup
deriving DecidableEq, Repr

namespace Dict

variable {κ ν ν' : Type _} [DecidableEq κ]

/-- The empty `dict`. -/
def empty : Dict κ ν := ⟨[], List.nodup_nil⟩

instance : Inhabited (Dict κ ν) := ⟨empty⟩

/-- `d.get(k)`. -/
def get? (d : Dict κ ν) (k : κ) : Option ν := d.entries.lookup k

/-- `d.keys()`, oldest first. -/
def keys (d : Dict κ ν) : List κ := d.entries.map Prod.fst

/-- `d.values()`, oldest first. -/
def values (d : Dict κ ν) : List ν := d.entries.map Prod.snd

/-- `len(d)`. -/
def size (d : Dict κ ν) : Nat := d.entries.length

instance : Membership κ (Dict κ ν) := ⟨fun d k => k ∈ d.keys⟩

instance (d : Dict κ ν) (k : κ) : Decidable (k ∈ d) :=
  inferInstanceAs (Decidable (k ∈ d.keys))

/-- Overwrite the value stored under `k` where it stands. -/
def replaceEntry (k : κ) (v : ν) (entries : List (κ × ν)) : List (κ × ν) :=
  entries.map fun p => if p.1 = k then (k, v) else p

theorem keys_replaceEntry (k : κ) (v : ν) (entries : List (κ × ν)) :
    (replaceEntry k v entries).map Prod.fst = entries.map Prod.fst := by
  rw [replaceEntry, List.map_map]
  apply List.map_congr_left
  intro p _
  by_cases h : p.1 = k <;> simp [h]

/-- `d[k] = v`. -/
def set (d : Dict κ ν) (k : κ) (v : ν) : Dict κ ν :=
  if h : k ∈ d.entries.map Prod.fst then
    ⟨replaceEntry k v d.entries, by rw [keys_replaceEntry]; exact d.nodup_keys⟩
  else
    ⟨d.entries ++ [(k, v)], by
      rw [List.map_append]
      refine d.nodup_keys.append (List.nodup_singleton _) ?_
      intro x hx hx'
      obtain rfl : x = k := List.mem_singleton.mp hx'
      exact h hx⟩

/-- `d.pop(k, None)`. -/
def pop (d : Dict κ ν) (k : κ) : Dict κ ν :=
  ⟨d.entries.filter fun p => p.1 ≠ k,
    d.nodup_keys.sublist (List.filter_sublist.map _)⟩

/-- `d.update(d')`. -/
def update (d d' : Dict κ ν) : Dict κ ν := d'.entries.foldl (fun d p => d.set p.1 p.2) d

/-- The dict with `f` applied to every value. -/
def mapValues (f : ν → ν') (d : Dict κ ν) : Dict κ ν' :=
  ⟨d.entries.map fun p => (p.1, f p.2), by
    rw [List.map_map]
    exact d.nodup_keys⟩

/-! ## Lookup -/

@[simp] theorem get?_empty (k : κ) : (empty : Dict κ ν).get? k = none := rfl

omit [DecidableEq κ] in
@[simp] theorem not_mem_empty (k : κ) : k ∉ (empty : Dict κ ν) := List.not_mem_nil

private theorem lookup_cons_self (k : κ) (v : ν) (l : List (κ × ν)) :
    ((k, v) :: l).lookup k = some v := by
  simp

private theorem lookup_cons_of_ne {k k' : κ} (h : k ≠ k') (v : ν) (l : List (κ × ν)) :
    ((k', v) :: l).lookup k = l.lookup k := by
  rw [List.lookup_cons, beq_false_of_ne h]

private theorem lookup_eq_none_iff {k : κ} {l : List (κ × ν)} :
    l.lookup k = none ↔ k ∉ l.map Prod.fst := by
  induction l with
  | nil => simp
  | cons p l ih =>
    obtain ⟨k', v⟩ := p
    rw [List.map_cons, List.mem_cons, not_or, ← ih]
    by_cases h : k = k'
    · simp [h]
    · simp only [lookup_cons_of_ne h, h, not_false_eq_true, true_and]

theorem get?_eq_none_iff {d : Dict κ ν} {k : κ} : d.get? k = none ↔ k ∉ d :=
  lookup_eq_none_iff

theorem mem_iff_get?_isSome {d : Dict κ ν} {k : κ} : k ∈ d ↔ (d.get? k).isSome := by
  rw [← Decidable.not_iff_not, ← get?_eq_none_iff, Option.not_isSome_iff_eq_none]

theorem mem_iff_exists_get? {d : Dict κ ν} {k : κ} : k ∈ d ↔ ∃ v, d.get? k = some v := by
  rw [mem_iff_get?_isSome, Option.isSome_iff_exists]

theorem mem_of_get?_eq_some {d : Dict κ ν} {k : κ} {v : ν} (h : d.get? k = some v) : k ∈ d :=
  mem_iff_exists_get?.mpr ⟨v, h⟩

private theorem replaceEntry_cons (k : κ) (v : ν) (p : κ × ν) (l : List (κ × ν)) :
    replaceEntry k v (p :: l) = (if p.1 = k then (k, v) else p) :: replaceEntry k v l := rfl

private theorem lookup_replaceEntry_self {k : κ} {v : ν} {l : List (κ × ν)}
    (h : k ∈ l.map Prod.fst) : (replaceEntry k v l).lookup k = some v := by
  induction l with
  | nil => exact absurd h List.not_mem_nil
  | cons p l ih =>
    obtain ⟨k', v'⟩ := p
    rw [replaceEntry_cons]
    by_cases hk : k' = k
    · rw [if_pos hk, lookup_cons_self]
    · rw [if_neg hk, lookup_cons_of_ne (Ne.symm hk)]
      rcases List.mem_cons.mp h with h | h
      · exact absurd h.symm hk
      · exact ih h

private theorem lookup_replaceEntry_of_ne {k k' : κ} {v : ν} {l : List (κ × ν)}
    (hne : k' ≠ k) : (replaceEntry k v l).lookup k' = l.lookup k' := by
  induction l with
  | nil => rfl
  | cons p l ih =>
    obtain ⟨k'', v'⟩ := p
    rw [replaceEntry_cons]
    by_cases hk : k'' = k
    · have hne'' : k' ≠ k'' := fun h => hne (h.trans hk)
      rw [if_pos hk, lookup_cons_of_ne hne, lookup_cons_of_ne hne'', ih]
    · rw [if_neg hk, List.lookup_cons, List.lookup_cons, ih]

@[simp] theorem get?_set_self (d : Dict κ ν) (k : κ) (v : ν) : (d.set k v).get? k = some v := by
  rw [set, get?]
  split
  · exact lookup_replaceEntry_self ‹_›
  · have hnone : d.entries.lookup k = none := lookup_eq_none_iff.mpr ‹_›
    simp [List.lookup_append, hnone]

theorem get?_set_of_ne (d : Dict κ ν) {k k' : κ} (v : ν) (hne : k' ≠ k) :
    (d.set k v).get? k' = d.get? k' := by
  unfold set get?
  split
  · exact lookup_replaceEntry_of_ne hne
  · have hk : (k' == k) = false := beq_false_of_ne hne
    simp [List.lookup_append, List.lookup_cons, hk]

theorem get?_set (d : Dict κ ν) (k k' : κ) (v : ν) :
    (d.set k v).get? k' = if k' = k then some v else d.get? k' := by
  by_cases h : k' = k
  · simp [h]
  · rw [if_neg h, get?_set_of_ne d v h]

private theorem lookup_filter_of_ne {k k' : κ} {l : List (κ × ν)} (hne : k' ≠ k) :
    (l.filter fun p => p.1 ≠ k).lookup k' = l.lookup k' := by
  induction l with
  | nil => rfl
  | cons p l ih =>
    obtain ⟨k'', v⟩ := p
    by_cases hk : k'' = k
    · have hne'' : k' ≠ k'' := fun h => hne (h.trans hk)
      rw [List.filter_cons_of_neg (by simpa using hk), ih, lookup_cons_of_ne hne'']
    · rw [List.filter_cons_of_pos (by simpa using hk), List.lookup_cons, List.lookup_cons, ih]

@[simp] theorem get?_pop_self (d : Dict κ ν) (k : κ) : (d.pop k).get? k = none := by
  refine get?_eq_none_iff.mpr fun h => ?_
  obtain ⟨p, hp, rfl⟩ := List.mem_map.mp h
  simpa using (List.mem_filter.mp hp).2

theorem get?_pop_of_ne (d : Dict κ ν) {k k' : κ} (hne : k' ≠ k) :
    (d.pop k).get? k' = d.get? k' := lookup_filter_of_ne hne

theorem get?_pop (d : Dict κ ν) (k k' : κ) :
    (d.pop k).get? k' = if k' = k then none else d.get? k' := by
  by_cases h : k' = k
  · simp [h]
  · rw [if_neg h, get?_pop_of_ne d h]

private theorem lookup_map_values (f : ν → ν') (l : List (κ × ν)) (k : κ) :
    (l.map fun p => (p.1, f p.2)).lookup k = (l.lookup k).map f := by
  induction l with
  | nil => rfl
  | cons p l ih =>
    obtain ⟨k', v⟩ := p
    rw [List.map_cons]
    by_cases hk : k = k'
    · rw [hk, lookup_cons_self, lookup_cons_self, Option.map_some]
    · rw [lookup_cons_of_ne hk, lookup_cons_of_ne hk, ih]

@[simp] theorem get?_mapValues (f : ν → ν') (d : Dict κ ν) (k : κ) :
    (d.mapValues f).get? k = (d.get? k).map f := lookup_map_values f d.entries k

/-! ## Keys and entries -/

theorem mem_set_iff (d : Dict κ ν) (k k' : κ) (v : ν) :
    k' ∈ d.set k v ↔ k' = k ∨ k' ∈ d := by
  rw [mem_iff_get?_isSome, get?_set, mem_iff_get?_isSome]
  by_cases h : k' = k <;> simp [h]

theorem mem_pop_iff (d : Dict κ ν) (k k' : κ) : k' ∈ d.pop k ↔ k' ≠ k ∧ k' ∈ d := by
  rw [mem_iff_get?_isSome, get?_pop, mem_iff_get?_isSome]
  by_cases h : k' = k <;> simp [h]

/-- Assigning to a present key moves nothing. -/
theorem keys_set_of_mem {d : Dict κ ν} {k : κ} (v : ν) (h : k ∈ d) :
    (d.set k v).keys = d.keys := by
  have hset : d.set k v = ⟨replaceEntry k v d.entries, _⟩ := dif_pos h
  rw [hset]
  exact keys_replaceEntry k v d.entries

/-- Assigning to a new key appends it. -/
theorem keys_set_of_not_mem {d : Dict κ ν} {k : κ} (v : ν) (h : k ∉ d) :
    (d.set k v).keys = d.keys ++ [k] := by
  have hset : d.set k v = ⟨d.entries ++ [(k, v)], _⟩ := dif_neg h
  rw [hset]
  simp [keys]

theorem values_set_of_not_mem {d : Dict κ ν} {k : κ} (v : ν) (h : k ∉ d) :
    (d.set k v).values = d.values ++ [v] := by
  have hset : d.set k v = ⟨d.entries ++ [(k, v)], _⟩ := dif_neg h
  rw [hset]
  simp [values]

/-- Deleting a key closes the gap. -/
theorem keys_pop (d : Dict κ ν) (k : κ) : (d.pop k).keys = d.keys.filter (· ≠ k) := by
  show (d.entries.filter fun p => p.1 ≠ k).map Prod.fst = (d.entries.map Prod.fst).filter (· ≠ k)
  rw [List.filter_map]
  rfl

omit [DecidableEq κ] in
theorem size_eq_length_keys (d : Dict κ ν) : d.size = d.keys.length := (List.length_map _).symm

theorem size_set_of_mem {d : Dict κ ν} {k : κ} (v : ν) (h : k ∈ d) : (d.set k v).size = d.size := by
  rw [size_eq_length_keys, keys_set_of_mem v h, size_eq_length_keys]

theorem size_set_of_not_mem {d : Dict κ ν} {k : κ} (v : ν) (h : k ∉ d) :
    (d.set k v).size = d.size + 1 := by
  rw [size_eq_length_keys, keys_set_of_not_mem v h, size_eq_length_keys, List.length_append,
    List.length_singleton]

theorem size_le_size_set (d : Dict κ ν) (k : κ) (v : ν) : d.size ≤ (d.set k v).size := by
  by_cases h : k ∈ d
  · exact Nat.le_of_eq (size_set_of_mem v h).symm
  · rw [size_set_of_not_mem v h]
    exact Nat.le_succ _

theorem size_set_le (d : Dict κ ν) (k : κ) (v : ν) : (d.set k v).size ≤ d.size + 1 := by
  by_cases h : k ∈ d
  · rw [size_set_of_mem v h]
    exact Nat.le_succ _
  · exact Nat.le_of_eq (size_set_of_not_mem v h)

omit [DecidableEq κ] in
/-- A dict keyed by the keys of another one and a label has so many entries for each of them. -/
theorem size_le_mul_of_keys {τ : Type _} {d : Dict (κ × τ) ν} {d' : Dict κ ν'} (labels : List τ)
    (hlabels : ∀ t, t ∈ labels) (h : ∀ k ∈ d, k.1 ∈ d') : d.size ≤ d'.size * labels.length := by
  have hsub : d.keys ⊆ d'.keys ×ˢ labels := fun k hk =>
    List.mem_product.mpr ⟨h k hk, hlabels k.2⟩
  have hlength : d.keys.length ≤ (d'.keys ×ˢ labels).length :=
    (List.subperm_of_subset d.nodup_keys hsub).length_le
  rwa [List.length_product, ← size_eq_length_keys, ← size_eq_length_keys] at hlength

private theorem mem_iff_lookup {k : κ} {v : ν} {l : List (κ × ν)} (h : (l.map Prod.fst).Nodup) :
    (k, v) ∈ l ↔ l.lookup k = some v := by
  induction l with
  | nil => simp
  | cons p l ih =>
    obtain ⟨k', v'⟩ := p
    obtain ⟨hk', hl⟩ := List.nodup_cons.mp h
    by_cases hk : k = k'
    · subst hk
      have hmem : (k, v) ∉ l := fun hmem =>
        hk' (List.mem_map.mpr ⟨(k, v), hmem, rfl⟩)
      rw [lookup_cons_self, List.mem_cons, or_iff_left hmem, Option.some.injEq, Prod.mk.injEq,
        and_iff_right rfl, eq_comm]
    · rw [lookup_cons_of_ne hk, ← ih hl, List.mem_cons, Prod.mk.injEq]
      exact or_iff_right fun hp => hk hp.1

/-- The items of a dict are exactly its lookups. -/
theorem mem_entries_iff {d : Dict κ ν} {k : κ} {v : ν} :
    (k, v) ∈ d.entries ↔ d.get? k = some v := mem_iff_lookup d.nodup_keys

theorem mem_values_iff {d : Dict κ ν} {v : ν} : v ∈ d.values ↔ ∃ k, d.get? k = some v := by
  rw [values, List.mem_map]
  constructor
  · rintro ⟨⟨k, v'⟩, hmem, rfl⟩
    exact ⟨k, mem_entries_iff.mp hmem⟩
  · rintro ⟨k, hk⟩
    exact ⟨(k, v), mem_entries_iff.mpr hk, rfl⟩

/-! ## Counting values -/

section Tally

variable (p : ν → Bool)

/-- How many values meet `p`. -/
def tally (d : Dict κ ν) : Nat := d.values.countP p

private theorem replaceEntry_of_not_mem {k : κ} (v : ν) {l : List (κ × ν)}
    (h : k ∉ l.map Prod.fst) : replaceEntry k v l = l := by
  have hkeep : ∀ q ∈ l, (if q.1 = k then (k, v) else q) = q := by
    intro q hq
    refine if_neg fun (hk : q.1 = k) => h ?_
    rw [← hk]
    exact List.mem_map_of_mem hq
  rw [replaceEntry, List.map_congr_left hkeep, List.map_id']

private theorem countP_replaceEntry {k : κ} {v v' : ν} {l : List (κ × ν)}
    (hnodup : (l.map Prod.fst).Nodup) (h : l.lookup k = some v) :
    ((replaceEntry k v' l).map Prod.snd).countP p + (p v).toNat
      = (l.map Prod.snd).countP p + (p v').toNat := by
  induction l with
  | nil => cases h
  | cons q l ih =>
    obtain ⟨k₀, v₀⟩ := q
    rw [List.map_cons, List.nodup_cons] at hnodup
    have hcons : ∀ (w : ν) (m : List ν), (w :: m).countP p = m.countP p + (p w).toNat := by
      intro w m
      rw [List.countP_cons]
      cases p w <;> rfl
    by_cases hk : k₀ = k
    · subst hk
      rw [lookup_cons_self] at h
      obtain rfl := Option.some.inj h
      rw [replaceEntry_cons, if_pos rfl, replaceEntry_of_not_mem v' hnodup.1]
      simp only [List.map_cons, hcons]
      omega
    · rw [lookup_cons_of_ne (Ne.symm hk)] at h
      rw [replaceEntry_cons, if_neg hk]
      simp only [List.map_cons, hcons]
      have hrest := ih hnodup.2 h
      omega

omit [DecidableEq κ] in
@[simp] theorem tally_empty : (empty : Dict κ ν).tally p = 0 := rfl

theorem tally_set_of_not_mem {d : Dict κ ν} {k : κ} (v : ν) (h : k ∉ d) :
    (d.set k v).tally p = d.tally p + (p v).toNat := by
  have hvalues : (d.set k v).values = d.values ++ [v] := by
    have hnot : k ∉ d.entries.map Prod.fst := h
    rw [set, values, values, dif_neg hnot, List.map_append]
    rfl
  rw [tally, tally, hvalues, List.countP_append, List.countP_singleton]
  cases p v <;> rfl

theorem tally_set_of_get? {d : Dict κ ν} {k : κ} {v : ν} (v' : ν) (h : d.get? k = some v) :
    (d.set k v').tally p + (p v).toNat = d.tally p + (p v').toNat := by
  have hmem : k ∈ d.entries.map Prod.fst := mem_of_get?_eq_some h
  rw [tally, tally, values, values, set, dif_pos hmem]
  exact countP_replaceEntry p d.nodup_keys h

theorem tally_eq_zero_iff {d : Dict κ ν} :
    d.tally p = 0 ↔ ∀ k v, d.get? k = some v → p v = false := by
  rw [tally, List.countP_eq_zero]
  constructor
  · intro h k v hk
    exact Bool.eq_false_iff.mpr (h v (mem_values_iff.mpr ⟨k, hk⟩))
  · intro h v hv
    obtain ⟨k, hk⟩ := mem_values_iff.mp hv
    rw [h k v hk]
    exact Bool.false_ne_true

/-- At most one value meets `p` if only one key has such a value. -/
theorem tally_le_one {d : Dict κ ν}
    (h : ∀ k k' v v', d.get? k = some v → d.get? k' = some v' → p v = true → p v' = true →
      k = k') : d.tally p ≤ 1 := by
  have hlength : d.tally p = ((d.entries.filter fun q => p q.2).map Prod.fst).length := by
    rw [tally, values, List.countP_map, List.countP_eq_length_filter, List.length_map]
    rfl
  have hnodup : ((d.entries.filter fun q => p q.2).map Prod.fst).Nodup :=
    d.nodup_keys.sublist (List.filter_sublist.map _)
  have hsame : ∀ k ∈ (d.entries.filter fun q => p q.2).map Prod.fst,
      ∀ k' ∈ (d.entries.filter fun q => p q.2).map Prod.fst, k = k' := by
    intro k hk k' hk'
    obtain ⟨⟨k, v⟩, hq, rfl⟩ := List.mem_map.mp hk
    obtain ⟨⟨k', v'⟩, hq', rfl⟩ := List.mem_map.mp hk'
    obtain ⟨hmem, hp⟩ := List.mem_filter.mp hq
    obtain ⟨hmem', hp'⟩ := List.mem_filter.mp hq'
    exact h k k' v v' (mem_entries_iff.mp hmem) (mem_entries_iff.mp hmem') hp hp'
  rw [hlength]
  revert hnodup hsame
  generalize (d.entries.filter fun q => p q.2).map Prod.fst = keys
  intro hnodup hsame
  match keys with
  | [] => exact Nat.zero_le 1
  | [k] => exact Nat.le_refl 1
  | k :: k' :: keys =>
    have heq := hsame k List.mem_cons_self k' (List.mem_cons_of_mem k List.mem_cons_self)
    rw [heq, List.nodup_cons] at hnodup
    exact absurd List.mem_cons_self hnodup.1

theorem tally_congr {q : ν → Bool} {d : Dict κ ν}
    (h : ∀ k v, d.get? k = some v → p v = q v) : d.tally p = d.tally q := by
  refine List.countP_congr fun v hv => ?_
  obtain ⟨k, hk⟩ := mem_values_iff.mp hv
  rw [h k v hk]

end Tally

/-! ## Renaming the keys -/

section Rename

variable {κ' : Type _} [DecidableEq κ']

/-- The dict with its keys renamed by `f` and `g` applied to every value. -/
def rename (f : κ ↪ κ') (g : ν → ν') (d : Dict κ ν) : Dict κ' ν' :=
  ⟨d.entries.map fun p => (f p.1, g p.2), by
    have hkeys := d.nodup_keys.map f.injective
    rwa [List.map_map] at hkeys ⊢⟩

variable (f : κ ↪ κ') (g : ν → ν') (d : Dict κ ν)

omit [DecidableEq κ] [DecidableEq κ'] in
theorem ext_entries {d d' : Dict κ ν} (h : d.entries = d'.entries) : d = d' := by
  cases d
  cases d'
  cases h
  rfl

omit [DecidableEq κ] [DecidableEq κ'] in
@[simp] theorem rename_empty : (empty : Dict κ ν).rename f g = empty := rfl

omit [DecidableEq κ] [DecidableEq κ'] in
@[simp] theorem values_rename : (d.rename f g).values = d.values.map g := by
  rw [values, values, rename, List.map_map, List.map_map]
  rfl

private theorem lookup_rename (l : List (κ × ν)) (k : κ) :
    (l.map fun p => (f p.1, g p.2)).lookup (f k) = (l.lookup k).map g := by
  induction l with
  | nil => rfl
  | cons p l ih =>
    obtain ⟨k', v⟩ := p
    rw [List.map_cons]
    by_cases hk : k = k'
    · rw [hk, lookup_cons_self, lookup_cons_self, Option.map_some]
    · rw [lookup_cons_of_ne hk, lookup_cons_of_ne fun h => hk (f.injective h), ih]

@[simp] theorem get?_rename (k : κ) : (d.rename f g).get? (f k) = (d.get? k).map g :=
  lookup_rename f g d.entries k

theorem mem_rename_iff {k : κ} : f k ∈ d.rename f g ↔ k ∈ d := by
  rw [mem_iff_get?_isSome, get?_rename, Option.isSome_map, mem_iff_get?_isSome]

theorem pop_rename (k : κ) : (d.rename f g).pop (f k) = (d.pop k).rename f g := by
  refine ext_entries ?_
  change (d.entries.map _).filter _ = (d.entries.filter _).map _
  rw [List.filter_map]
  refine congrArg _ (List.filter_congr fun p _ => ?_)
  simp

theorem set_rename (k : κ) (v : ν) : (d.rename f g).set (f k) (g v) = (d.set k v).rename f g := by
  by_cases h : k ∈ d
  · have hset : d.set k v = ⟨replaceEntry k v d.entries, _⟩ := dif_pos h
    have hset' : (d.rename f g).set (f k) (g v) =
        ⟨replaceEntry (f k) (g v) (d.rename f g).entries, _⟩ :=
      dif_pos ((mem_rename_iff f g d).mpr h)
    rw [hset, hset']
    refine ext_entries ?_
    change replaceEntry _ _ (d.entries.map _) = (replaceEntry _ _ d.entries).map _
    rw [replaceEntry, replaceEntry, List.map_map, List.map_map]
    refine List.map_congr_left fun p _ => ?_
    by_cases hp : p.1 = k <;> simp [hp]
  · have hset : d.set k v = ⟨d.entries ++ [(k, v)], _⟩ := dif_neg h
    have hset' : (d.rename f g).set (f k) (g v) =
        ⟨(d.rename f g).entries ++ [(f k, g v)], _⟩ :=
      dif_neg fun h' => h ((mem_rename_iff f g d).mp h')
    rw [hset, hset']
    refine ext_entries ?_
    simp [rename]

end Rename

section MapValues

/-- Assigning and mapping the values commute. -/
theorem mapValues_set (g : ν → ν') (d : Dict κ ν) (k : κ) (v : ν) :
    (d.set k v).mapValues g = (d.mapValues g).set k (g v) :=
  (set_rename (.refl κ) g d k v).symm

omit [DecidableEq κ] in

omit [DecidableEq κ] in
@[simp] theorem size_mapValues (g : ν → ν') (d : Dict κ ν) : (d.mapValues g).size = d.size := by
  simp [size, mapValues]

omit [DecidableEq κ] in
theorem mapValues_congr {g g' : ν → ν'} {d : Dict κ ν} (h : ∀ v ∈ d.values, g v = g' v) :
    d.mapValues g = d.mapValues g' := by
  refine ext_entries (List.map_congr_left fun p hp => ?_)
  rw [h p.2 (List.mem_map_of_mem hp)]

omit [DecidableEq κ] in
@[simp] theorem mapValues_id (d : Dict κ ν) : d.mapValues id = d := by
  refine ext_entries ?_
  show d.entries.map (fun p => (p.1, p.2)) = d.entries
  simp

/-- Assigning the value that is there changes nothing. -/
theorem set_eq_self {d : Dict κ ν} {k : κ} {v : ν} (h : d.get? k = some v) : d.set k v = d := by
  have hmem : k ∈ d := mem_of_get?_eq_some h
  have hset : d.set k v = ⟨replaceEntry k v d.entries, _⟩ := dif_pos hmem
  rw [hset]
  refine ext_entries ?_
  show d.entries.map (fun p => if p.1 = k then (k, v) else p) = d.entries
  conv_rhs => rw [← List.map_id d.entries]
  refine List.map_congr_left fun p hp => ?_
  obtain ⟨k', v'⟩ := p
  dsimp only [id]
  split
  · rename_i hk
    have hget : d.get? k' = some v' := mem_entries_iff.mp hp
    rw [hk, h] at hget
    rw [hk, Option.some.inj hget]
  · rfl

end MapValues

/-! ## Loops that fill a dict -/

/-- Assigning to new keys, one after the other, appends them. -/
theorem entries_foldl_set (f : κ → ν) {keys : List κ} (hnodup : keys.Nodup) {d : Dict κ ν}
    (hnew : ∀ k ∈ keys, k ∉ d) :
    (keys.foldl (fun d k => d.set k (f k)) d).entries
      = d.entries ++ keys.map fun k => (k, f k) := by
  induction keys generalizing d with
  | nil => simp
  | cons k keys ih =>
    obtain ⟨hnot, hrest⟩ := List.nodup_cons.mp hnodup
    have hk : k ∉ d := hnew k List.mem_cons_self
    have hset : (d.set k (f k)).entries = d.entries ++ [(k, f k)] := by
      have hdef : d.set k (f k) = ⟨d.entries ++ [(k, f k)], _⟩ := dif_neg hk
      rw [hdef]
    have hnew' : ∀ k' ∈ keys, k' ∉ d.set k (f k) := by
      intro k' hk'
      rw [mem_set_iff, not_or]
      exact ⟨fun h => hnot (h ▸ hk'), hnew k' (List.mem_cons_of_mem k hk')⟩
    rw [List.foldl_cons, ih hrest hnew', hset, List.append_assoc]
    rfl

/-- A loop that assigns what there is for each key. -/
theorem get?_foldl_of_step {step : Dict κ ν → κ → Dict κ ν} {f : κ → Option ν}
    (hstep : ∀ d k k', (step d k).get? k' = if k' = k then (f k).or (d.get? k) else d.get? k')
    (keys : List κ) (d : Dict κ ν) (k : κ) :
    (keys.foldl step d).get? k = if k ∈ keys then (f k).or (d.get? k) else d.get? k := by
  induction keys generalizing d with
  | nil => rfl
  | cons k₀ keys ih =>
    rw [List.foldl_cons, ih, hstep]
    by_cases hk : k = k₀
    · rw [hk, if_pos rfl, if_pos List.mem_cons_self]
      cases f k₀ <;> simp
    · rw [if_neg hk]
      simp only [List.mem_cons, hk, false_or]

end Dict

end AsyncViz.Lib
