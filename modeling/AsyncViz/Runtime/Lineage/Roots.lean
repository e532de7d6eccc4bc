/-
  AsyncViz.Runtime.Lineage.Roots

  The shape of the `parent_of` map: the cycle test keeps it grounded, and the two
  traversals read it right.

  * `not_above_of_detectCycle`: a parent that passes the test is not below the task.
  * `Links.grounded`, `Unlinks.grounded`: no mutation closes a cycle.
  * `mem_listRoots_iff` and `mem_descendants_iff`: what `list_roots` and
    `descendants` list.
-/

import AsyncViz.Lib.Forest
import AsyncViz.Runtime.Lineage.Tracker

namespace AsyncViz.Runtime.Lineage

open AsyncViz.Lib AsyncViz.Lib.Forest Relation

/-! ## The ancestor walk -/

/-- A walk that does not raise yields everything at or above its start. -/
theorem mem_walkFrom_of_not_raised {parentOf : ParentMap} {steps : Nat} {visited : List String}
    {current a : String}
    (hraised : (walkFrom parentOf steps visited (some current)).raised = false)
    (ha : ReflTransGen (IsParent parentOf.parent) a current) :
    a ∈ (walkFrom parentOf steps visited (some current)).yielded := by
  induction steps generalizing visited current with
  | zero => cases hraised
  | succ steps ih =>
    rw [walkFrom] at hraised ⊢
    by_cases hseen : current ∈ visited
    · rw [if_pos hseen] at hraised
      cases hraised
    · rw [if_neg hseen] at hraised ⊢
      rcases ReflTransGen.cases_tail ha with rfl | ⟨b, hab, hb⟩
      · exact List.mem_cons_self
      · -- `b` is the next task of the walk
        have hnext : parentOf.parent current = some b := hb
        rw [hnext] at hraised ⊢
        exact List.mem_cons_of_mem current (ih hraised hab)

/-- A parent that passes the cycle test is neither the task nor below it. -/
theorem not_above_of_detectCycle {parentOf : ParentMap} {parent child : String} {maxDepth : Nat}
    (h : detectCycle parent child parentOf maxDepth = false) :
    ¬ ReflTransGen (IsParent parentOf.parent) child parent := by
  intro habove
  rw [detectCycle] at h
  by_cases hself : parent = child
  · rw [if_pos hself] at h
    cases h
  · rw [if_neg hself] at h
    rcases ReflTransGen.cases_tail habove with heq | ⟨b, hpath, hlast⟩
    · exact hself heq
    · have hnext : parentOf.parent parent = some b := hlast
      rw [if_pos (ParentMap.mem_of_parent_eq_some hnext)] at h
      simp only [walkAncestors, hnext, Bool.or_eq_false_iff, decide_eq_false_iff_not] at h
      exact h.1 (mem_walkFrom_of_not_raised h.2 hpath)

namespace LineageTracker

section Grounded

variable {t t' : LineageTracker} {taskId : String} {parentTaskId : Option String}

theorem Links.grounded (h : Links t taskId parentTaskId t') (hgrounded : Grounded t.parent)
    (hclear : ∀ p, parentTaskId = some p → detectCycle p taskId t.parentOf t.maxDepth = false) :
    Grounded t'.parent := by
  cases parentTaskId with
  | none =>
    refine hgrounded.mono fun x p hp => ?_
    rw [h.parent_eq] at hp
    split at hp
    · cases hp
    · exact hp
  | some parent =>
    have hupdate : t'.parent = Function.update t.parent taskId (some parent) := by
      funext x
      rw [h.parent_eq, Function.update_apply]
    rw [hupdate]
    exact hgrounded.update (not_above_of_detectCycle (hclear parent rfl))

theorem Unlinks.grounded (h : Unlinks t taskId t') (hgrounded : Grounded t.parent) :
    Grounded t'.parent := by
  refine hgrounded.mono fun x p hp => ?_
  rw [h.parent_eq] at hp
  split at hp
  · cases hp
  · exact hp

theorem grounded_of_parentOf_empty (h : t.parentOf = .empty) : Grounded t.parent := by
  refine ⟨fun x => Acc.intro x fun p hp => ?_⟩
  have hnone : t.parent x = none := by
    rw [parent]
    rw [h]
    rfl
  rw [IsParent, hnone] at hp
  cases hp

end Grounded

/-! ## The traversals -/

theorem mem_listRoots_iff {t : LineageTracker} {id : String} :
    id ∈ t.listRoots ↔ id ∈ t ∧ t.parent id = none := by
  rw [listRoots, List.mem_insertionSort, List.mem_map]
  constructor
  · rintro ⟨⟨id', parent⟩, hmem, rfl⟩
    obtain ⟨hentry, hnone⟩ := List.mem_filter.mp hmem
    have hget : t.parentOf.get? id' = some parent := Dict.mem_entries_iff.mp hentry
    obtain rfl : parent = none := by simpa using hnone
    refine ⟨Dict.mem_of_get?_eq_some hget, ?_⟩
    rw [parent, ParentMap.parent]
    rw [hget]
    rfl
  · rintro ⟨hmem, hnone⟩
    obtain ⟨parent, hget⟩ := Dict.mem_iff_exists_get?.mp hmem
    rw [LineageTracker.parent, ParentMap.parent] at hnone
    rw [hget] at hnone
    refine ⟨(id, parent), List.mem_filter.mpr ⟨Dict.mem_entries_iff.mpr hget, ?_⟩, rfl⟩
    simpa using hnone

theorem nodup_listRoots (t : LineageTracker) : t.listRoots.Nodup := by
  have hperm := List.perm_insertionSort (· ≤ ·)
    ((t.parentOf.entries.filter fun e => e.2 = none).map Prod.fst)
  exact hperm.nodup_iff.mpr (t.parentOf.nodup_keys.sublist (List.filter_sublist.map _))

/-- `c` is a child of `p` in the `children_of` buckets. -/
def IsChild (t : LineageTracker) (p c : String) : Prop := c ∈ t.children p

/-- The number of iterations that `iter_subtree` is given is enough for it to finish. -/
theorem mem_iterSubtree_iff {t : LineageTracker} {taskId c : String} :
    c ∈ t.iterSubtree taskId ↔ ReflTransGen t.IsChild taskId c := by
  have hnodes : ∀ a, t.sortedChildren a ≠ [] → a ∈ t.childrenOf.keys.toFinset := by
    intro a ha
    rw [List.mem_toFinset]
    by_contra hno
    have hnone : t.childrenOf.get? a = none := Dict.get?_eq_none_iff.mpr hno
    apply ha
    rw [sortedChildren, children]
    rw [hnone]
    exact Finset.sort_empty _
  have hfuel : ∑ a ∈ t.childrenOf.keys.toFinset, (t.sortedChildren a).length =
      (t.childrenOf.keys.map fun parent => (t.sortedChildren parent).length).sum :=
    List.sum_toFinset _ t.childrenOf.nodup_keys
  have hedge : Search.Edge t.sortedChildren = t.IsChild := by
    funext p c
    exact propext (Finset.mem_sort _)
  rw [iterSubtree]
  rw [Search.mem_search_iff hnodes (by rw [hfuel]), hedge]

theorem mem_descendants_iff {t : LineageTracker} {taskId c : String} :
    c ∈ t.descendants taskId ↔ c ≠ taskId ∧ ReflTransGen t.IsChild taskId c := by
  rw [descendants, List.mem_filter, mem_iterSubtree_iff, decide_eq_true_eq, and_comm]

theorem nodup_descendants (t : LineageTracker) (taskId : String) : (t.descendants taskId).Nodup :=
  (Search.search_nodup _ _ _).filter _

end LineageTracker

end AsyncViz.Runtime.Lineage
