/-
  AsyncViz.Lib.Regroup

  A log of keyed entries, taken apart by key and put back together by sorting.

  * `perm_flatMap_filter`: the entries of each key, one key after the other, are the
    entries of the log in another order.
  * `insertionSort_eq_of_strict`: sorting any rearrangement of a strictly sorted list
    gives the list back.

  Together: a log whose entries strictly increase is recovered from its parts.
-/

import Mathlib.Data.List.Sort

namespace AsyncViz.Lib.Regroup

variable {κ α : Type _}

section Parts

variable [DecidableEq κ]

/-- The entries of one key. -/
def part (log : List (κ × α)) (key : κ) : List (κ × α) := log.filter fun p => p.1 = key

theorem perm_flatMap_filter {keys : List κ} (hnodup : keys.Nodup) {log : List (κ × α)}
    (hcover : ∀ p ∈ log, p.1 ∈ keys) : (keys.flatMap (part log)).Perm log := by
  induction keys generalizing log with
  | nil =>
    have hempty : log = [] := List.eq_nil_iff_forall_not_mem.mpr fun p hp => nomatch hcover p hp
    rw [hempty]
    exact List.Perm.refl _
  | cons key keys ih =>
    obtain ⟨hnot, hrest⟩ := List.nodup_cons.mp hnodup
    -- the later keys only see the entries that are not of `key`
    have hparts : keys.flatMap (part log) =
        keys.flatMap (part (log.filter fun p => ! decide (p.1 = key))) := by
      rw [List.flatMap_def, List.flatMap_def]
      congr 1
      refine List.map_congr_left fun k hk => ?_
      have hne : k ≠ key := fun h => hnot (h ▸ hk)
      unfold part
      rw [List.filter_filter]
      refine List.filter_congr fun p _ => ?_
      by_cases hp : p.1 = k
      · simp [hp, hne]
      · simp [hp]
    have hcover' : ∀ p ∈ log.filter (fun p => ! decide (p.1 = key)), p.1 ∈ keys := by
      intro p hp
      obtain ⟨hmem, hne⟩ := List.mem_filter.mp hp
      rcases List.mem_cons.mp (hcover p hmem) with heq | hin
      · simp [heq] at hne
      · exact hin
    rw [List.flatMap_cons, hparts]
    exact ((ih hrest hcover').append_left _).trans (List.filter_append_perm _ log)

/-- The same for elements that have the key themselves. -/
theorem perm_flatMap_filter_key {keys : List κ} (hnodup : keys.Nodup) (key : α → κ) {l : List α}
    (hcover : ∀ a ∈ l, key a ∈ keys) : (keys.flatMap fun k => l.filter (key · = k)).Perm l := by
  have hpairs : ∀ p ∈ l.map fun a => (key a, a), p.1 ∈ keys := by
    intro p hp
    obtain ⟨a, ha, rfl⟩ := List.mem_map.mp hp
    exact hcover a ha
  have hsnd : Prod.snd ∘ (fun a => (key a, a)) = id := rfl
  have hperm := (perm_flatMap_filter hnodup hpairs).map Prod.snd
  rw [List.map_map, hsnd, List.map_id, List.map_flatMap] at hperm
  refine (List.Perm.of_eq ?_).trans hperm
  congr 1
  funext k
  rw [part, List.filter_map, List.map_map, hsnd, List.map_id]
  rfl

end Parts

/-! ## Sorting -/

variable {r : α → α → Prop}

/-- Each element comes before every later one, and not the other way round. -/
def Strict (r : α → α → Prop) (l : List α) : Prop := l.Pairwise fun a b => r a b ∧ ¬ r b a

theorem Strict.antisymm {l : List α} (h : Strict r l) {a b : α} (ha : a ∈ l) (hb : b ∈ l)
    (hab : r a b) (hba : r b a) : a = b := by
  induction l with
  | nil => cases ha
  | cons x l ih =>
    obtain ⟨hhead, htail⟩ := List.pairwise_cons.mp h
    rcases List.mem_cons.mp ha with rfl | halater
    · rcases List.mem_cons.mp hb with rfl | hblater
      · rfl
      · exact absurd hba (hhead b hblater).2
    · rcases List.mem_cons.mp hb with rfl | hblater
      · exact absurd hab (hhead a halater).2
      · exact ih htail halater hblater

theorem insertionSort_eq_of_strict [DecidableRel r] [Std.Total r] [IsTrans α r] {l log : List α}
    (hperm : l.Perm log) (hstrict : Strict r log) : l.insertionSort r = log := by
  have hsorted : log.Pairwise r := hstrict.imp fun h => h.1
  have hall : (l.insertionSort r).Perm log := (List.perm_insertionSort r l).trans hperm
  refine List.Perm.eq_of_pairwise ?_ (List.pairwise_insertionSort r l) hsorted hall
  intro a b ha hb hab hba
  exact hstrict.antisymm (hall.mem_iff.mp ha) hb hab hba

end AsyncViz.Lib.Regroup
