/-
  AsyncViz.Lib.SortedDict

  The dict of a list of pairs, and the entries of a dict in the order of its keys.

  * `sortedEntries_eq_iff`: two dicts have the same sorted entries exactly if they have the same
    values under every key
  * `get?_ofPairs_sortedEntries`: the dict of the sorted entries is the dict
-/

import Mathlib.Data.List.Induction
import AsyncViz.Lib.Dict
import AsyncViz.Lib.Regroup

namespace AsyncViz.Lib.Dict

open AsyncViz.Lib.Regroup

variable {κ ν ν' : Type _}

section OfPairs

variable [DecidableEq κ]

/-- `dict(pairs)`: of two pairs with one key the last one counts. -/
def ofPairs (pairs : List (κ × ν)) : Dict κ ν := pairs.foldl (fun d p => d.set p.1 p.2) .empty

theorem mapValues_ofPairs (g : ν → ν') (pairs : List (κ × ν)) :
    (ofPairs pairs).mapValues g = ofPairs (pairs.map fun p => (p.1, g p.2)) := by
  have hfold : ∀ d : Dict κ ν, (pairs.foldl (fun d p => d.set p.1 p.2) d).mapValues g
      = (pairs.map fun p => (p.1, g p.2)).foldl (fun d p => d.set p.1 p.2) (d.mapValues g) := by
    induction pairs with
    | nil => exact fun _ => rfl
    | cons p pairs ih =>
      intro d
      rw [List.map_cons, List.foldl_cons, List.foldl_cons, ih, mapValues_set]
  exact hfold .empty

/-- Pairs with different keys are the entries of their dict. -/
theorem entries_ofPairs {pairs : List (κ × ν)} (h : (pairs.map Prod.fst).Nodup) :
    (ofPairs pairs).entries = pairs := by
  have hfold : ∀ d : Dict κ ν, (∀ p ∈ pairs, p.1 ∉ d) →
      (pairs.foldl (fun d p => d.set p.1 p.2) d).entries = d.entries ++ pairs := by
    induction pairs with
    | nil => exact fun d _ => (List.append_nil d.entries).symm
    | cons p pairs ih =>
      intro d hnew
      obtain ⟨hnot, hrest⟩ := List.nodup_cons.mp h
      have hset : (d.set p.1 p.2).entries = d.entries ++ [p] := by
        have hdef : d.set p.1 p.2 = ⟨d.entries ++ [(p.1, p.2)], _⟩ :=
          dif_neg (hnew p (List.mem_cons_self ..))
        rw [hdef]
      rw [List.foldl_cons, ih hrest, hset, List.append_assoc]
      · rfl
      · intro p' hp'
        rw [mem_set_iff, not_or]
        exact ⟨fun heq => hnot (heq ▸ List.mem_map_of_mem hp'),
          hnew p' (List.mem_cons_of_mem _ hp')⟩
  exact hfold .empty fun _ _ => not_mem_empty _

@[simp] theorem ofPairs_entries (d : Dict κ ν) : ofPairs d.entries = d :=
  ext_entries (entries_ofPairs d.nodup_keys)

/-- What is in the dict is one of the pairs. -/
theorem mem_of_get?_ofPairs {pairs : List (κ × ν)} {k : κ} {v : ν}
    (h : (ofPairs pairs).get? k = some v) : (k, v) ∈ pairs := by
  induction pairs using List.reverseRecOn with
  | nil => cases h
  | append_singleton pairs p ih =>
    rw [ofPairs, List.foldl_append, List.foldl_cons, List.foldl_nil, get?_set] at h
    split at h
    · rename_i hk
      cases h
      rw [hk]
      exact List.mem_append_right _ (List.mem_singleton_self _)
    · exact List.mem_append_left _ (ih h)

/-- The dict without the keys that `p` leaves out. -/
def filterKeys (p : κ → Bool) (d : Dict κ ν) : Dict κ ν :=
  ⟨d.entries.filter fun entry => p entry.1, d.nodup_keys.sublist (List.filter_sublist.map _)⟩

theorem get?_filterKeys (p : κ → Bool) (d : Dict κ ν) (k : κ) :
    (d.filterKeys p).get? k = if p k then d.get? k else none := by
  refine Option.ext fun v => ?_
  rw [← mem_entries_iff, filterKeys, List.mem_filter, mem_entries_iff]
  split
  · rename_i hp
    simp [hp]
  · rename_i hp
    simp [hp]

/-- `d.setdefault(k, v)`. -/
def setDefault (d : Dict κ ν) (k : κ) (v : ν) : Dict κ ν := if k ∈ d then d else d.set k v

/-- The dict with what it does not have filled in from another one. -/
def fillFrom (d d' : Dict κ ν) : Dict κ ν := d'.entries.foldl (fun d p => d.setDefault p.1 p.2) d

theorem get?_setDefault (d : Dict κ ν) (k k' : κ) (v : ν) :
    (d.setDefault k v).get? k' = if k' = k then (d.get? k).or (some v) else d.get? k' := by
  unfold setDefault
  split
  · rename_i hmem
    obtain ⟨w, hw⟩ := mem_iff_exists_get?.mp hmem
    split
    · rename_i hk
      rw [hk, hw]
      rfl
    · rfl
  · rename_i hmem
    rw [get?_eq_none_iff.mpr hmem, get?_set]
    rfl

theorem get?_fillFrom (d d' : Dict κ ν) (k : κ) :
    (d.fillFrom d').get? k = (d.get? k).or (d'.get? k) := by
  have hfold : ∀ (entries : List (κ × ν)) (d : Dict κ ν),
      (entries.foldl (fun d p => d.setDefault p.1 p.2) d).get? k
        = (d.get? k).or (entries.lookup k) := by
    intro entries
    induction entries with
    | nil =>
      intro d
      rw [List.foldl_nil, List.lookup_nil, Option.or_none]
    | cons p entries ih =>
      intro d
      obtain ⟨k', v⟩ := p
      rw [List.foldl_cons, ih, get?_setDefault]
      by_cases hk : k = k'
      · rw [if_pos hk, hk, List.lookup_cons_self, Option.or_assoc]
        rfl
      · have hlookup : ((k', v) :: entries).lookup k = entries.lookup k := by
          rw [List.lookup_cons, beq_eq_false_iff_ne.mpr hk]
        rw [if_neg hk, hlookup]
  exact hfold d'.entries d

end OfPairs

section Sorted

variable [DecidableEq κ] [LinearOrder κ]

/-- The keys' order on entries. -/
def KeyLe (a b : κ × ν) : Prop := a.1 ≤ b.1

instance : DecidableRel (KeyLe (κ := κ) (ν := ν)) := fun a b => inferInstanceAs (Decidable (a.1 ≤ b.1))

instance : Std.Total (KeyLe (κ := κ) (ν := ν)) := ⟨fun a b => le_total a.1 b.1⟩

instance : IsTrans (κ × ν) KeyLe := ⟨fun _ _ _ => le_trans⟩

/-- The entries in the order of their keys. -/
def sortedEntries (d : Dict κ ν) : List (κ × ν) := d.entries.insertionSort KeyLe

omit [DecidableEq κ] in
theorem perm_sortedEntries (d : Dict κ ν) : d.sortedEntries.Perm d.entries :=
  List.perm_insertionSort _ _

omit [DecidableEq κ] in
theorem nodup_sortedEntries (d : Dict κ ν) : (d.sortedEntries.map Prod.fst).Nodup :=
  (d.perm_sortedEntries.map Prod.fst).nodup_iff.mpr d.nodup_keys

omit [DecidableEq κ] in
theorem strict_sortedEntries (d : Dict κ ν) : Strict KeyLe d.sortedEntries := by
  have hsorted : d.sortedEntries.Pairwise KeyLe := List.pairwise_insertionSort _ _
  have hne : d.sortedEntries.Pairwise fun a b => a.1 ≠ b.1 :=
    List.pairwise_map.mp d.nodup_sortedEntries
  exact (hsorted.and hne).imp fun h => ⟨h.1, fun hle => h.2 (le_antisymm h.1 hle)⟩

theorem mem_sortedEntries {d : Dict κ ν} {k : κ} {v : ν} :
    (k, v) ∈ d.sortedEntries ↔ d.get? k = some v :=
  d.perm_sortedEntries.mem_iff.trans mem_entries_iff

/-- The sorted entries say what is under each key, and nothing else. -/
theorem sortedEntries_eq_iff {d d' : Dict κ ν} :
    d.sortedEntries = d'.sortedEntries ↔ ∀ k, d.get? k = d'.get? k := by
  constructor
  · intro h k
    refine Option.ext fun v => ?_
    rw [← mem_sortedEntries, ← mem_sortedEntries, h]
  · intro h
    have hperm : d.entries.Perm d'.sortedEntries := by
      refine (List.perm_ext_iff_of_nodup (List.Nodup.of_map _ d.nodup_keys)
        (List.Nodup.of_map _ d'.nodup_sortedEntries)).mpr fun p => ?_
      rw [mem_entries_iff, mem_sortedEntries, h]
    exact insertionSort_eq_of_strict hperm d'.strict_sortedEntries

/-- The dict of the sorted entries is the dict. -/
theorem get?_ofPairs_sortedEntries (d : Dict κ ν) (k : κ) :
    (ofPairs d.sortedEntries).get? k = d.get? k := by
  refine Option.ext fun v => ?_
  rw [← mem_entries_iff, entries_ofPairs d.nodup_sortedEntries, mem_sortedEntries]

end Sorted

end AsyncViz.Lib.Dict
