/-
  AsyncViz.Lib.Search

  Breadth-first traversal of a directed graph given by its successor lists.

  * `search succ fuel queue seen` yields the nodes in the order they are visited;
    `fuel` bounds the number of iterations.
  * `search_nodup`: no node is yielded twice.
  * `reaches_of_mem_search`: what is yielded can be reached from the queue.
  * `search_closed` and `mem_search_iff`: with enough fuel, `searchFuel` of a finite
    set that covers the nodes with a successor, everything that can be reached is
    yielded.

  Nothing here depends on what the nodes are.
-/

import Mathlib.Algebra.BigOperators.Group.Finset.Basic
import Mathlib.Algebra.Order.BigOperators.Group.Finset
import Mathlib.Data.List.Nodup
import Mathlib.Logic.Relation

namespace AsyncViz.Lib.Search

open Relation

variable {κ : Type _} [DecidableEq κ]

/-- The traversal: pop a node, skip it when it was seen, else yield it and queue
    its unseen successors. -/
def search (succ : κ → List κ) : Nat → List κ → List κ → List κ
  | 0, _, _ => []
  | _ + 1, [], _ => []
  | fuel + 1, node :: queue, seen =>
    if node ∈ seen then search succ fuel queue seen
    else
      node :: search succ fuel (queue ++ (succ node).filter (· ∉ node :: seen)) (node :: seen)

/-- `b` is a successor of `a`. -/
def Edge (succ : κ → List κ) (a b : κ) : Prop := b ∈ succ a

/-- The iterations that are left at most: one for each queued node and one for each
    successor of a node not seen yet. -/
def searchFuel (succ : κ → List κ) (nodes : Finset κ) (queue seen : List κ) : Nat :=
  (∑ a ∈ nodes \ seen.toFinset, (succ a).length) + queue.length

section Search

variable {succ : κ → List κ}

theorem not_mem_search_of_mem_seen {fuel : Nat} {queue seen : List κ} {x : κ} (hx : x ∈ seen) :
    x ∉ search succ fuel queue seen := by
  induction fuel generalizing queue seen with
  | zero => exact List.not_mem_nil
  | succ fuel ih =>
    cases queue with
    | nil => exact List.not_mem_nil
    | cons node queue =>
      rw [search]
      split
      · exact ih hx
      · next hnode =>
        rw [List.mem_cons, not_or]
        refine ⟨?_, ih (List.mem_cons_of_mem node hx)⟩
        rintro rfl
        exact hnode hx

theorem search_nodup (fuel : Nat) (queue seen : List κ) : (search succ fuel queue seen).Nodup := by
  induction fuel generalizing queue seen with
  | zero => exact List.nodup_nil
  | succ fuel ih =>
    cases queue with
    | nil => exact List.nodup_nil
    | cons node queue =>
      rw [search]
      split
      · exact ih queue seen
      · exact List.nodup_cons.mpr
          ⟨not_mem_search_of_mem_seen List.mem_cons_self, ih _ _⟩

/-- The traversal is sound. -/
theorem reaches_of_mem_search {fuel : Nat} {queue seen : List κ} {y : κ}
    (hy : y ∈ search succ fuel queue seen) :
    ∃ x ∈ queue, ReflTransGen (Edge succ) x y := by
  induction fuel generalizing queue seen with
  | zero => cases hy
  | succ fuel ih =>
    cases queue with
    | nil => cases hy
    | cons node queue =>
      rw [search] at hy
      split at hy
      · obtain ⟨x, hx, hpath⟩ := ih hy
        exact ⟨x, List.mem_cons_of_mem node hx, hpath⟩
      · rcases List.mem_cons.mp hy with rfl | hy
        · exact ⟨y, List.mem_cons_self, .refl⟩
        · obtain ⟨x, hx, hpath⟩ := ih hy
          rcases List.mem_append.mp hx with hx | hx
          · exact ⟨x, List.mem_cons_of_mem node hx, hpath⟩
          · have hedge : Edge succ node x := (List.mem_filter.mp hx).1
            exact ⟨node, List.mem_cons_self, .head hedge hpath⟩

/-- Visiting a node spends an iteration and turns its successors into queue entries. -/
theorem searchFuel_visit {nodes : Finset κ} (hnodes : ∀ a, succ a ≠ [] → a ∈ nodes)
    {node : κ} {queue seen : List κ} (hnode : node ∉ seen) :
    searchFuel succ nodes (queue ++ (succ node).filter (· ∉ node :: seen)) (node :: seen) + 1 ≤
      searchFuel succ nodes (node :: queue) seen := by
  have hfilter : ((succ node).filter (· ∉ node :: seen)).length ≤ (succ node).length :=
    List.length_filter_le _ _
  have hset : nodes \ (node :: seen).toFinset = (nodes \ seen.toFinset).erase node := by
    rw [List.toFinset_cons, Finset.sdiff_insert]
  have hsum : (∑ a ∈ nodes \ (node :: seen).toFinset, (succ a).length) + (succ node).length =
      ∑ a ∈ nodes \ seen.toFinset, (succ a).length := by
    rw [hset]
    by_cases hmem : node ∈ nodes
    · have hin : node ∈ nodes \ seen.toFinset := by simp [hmem, hnode]
      rw [add_comm]
      exact Finset.add_sum_erase _ (fun a => (succ a).length) hin
    · -- a node outside the set has no successors
      have hnil : succ node = [] := by
        by_contra hne
        exact hmem (hnodes node hne)
      have hout : node ∉ nodes \ seen.toFinset := fun h => hmem (Finset.mem_sdiff.mp h).1
      rw [Finset.erase_eq_of_notMem hout, hnil, List.length_nil, add_zero]
  unfold searchFuel
  rw [List.length_append, List.length_cons]
  omega

/-- What the traversal leaves queued or yields is yielded together with all of its
    successors, apart from what had been seen before. -/
theorem search_closed {nodes : Finset κ} (hnodes : ∀ a, succ a ≠ [] → a ∈ nodes)
    {fuel : Nat} {queue seen : List κ} (hfuel : searchFuel succ nodes queue seen ≤ fuel) :
    (∀ x ∈ queue, x ∈ seen ∨ x ∈ search succ fuel queue seen) ∧
      ∀ x ∈ search succ fuel queue seen, ∀ y, Edge succ x y →
        y ∈ seen ∨ y ∈ search succ fuel queue seen := by
  induction fuel generalizing queue seen with
  | zero =>
    have hempty : queue = [] := by
      apply List.eq_nil_of_length_eq_zero
      rw [searchFuel] at hfuel
      omega
    rw [hempty]
    exact ⟨fun x hx => (List.not_mem_nil hx).elim, fun x hx => (List.not_mem_nil hx).elim⟩
  | succ fuel ih =>
    cases queue with
    | nil => exact ⟨fun x hx => (List.not_mem_nil hx).elim, fun x hx => (List.not_mem_nil hx).elim⟩
    | cons node queue =>
      rw [search]
      by_cases hnode : node ∈ seen
      · simp only [if_pos hnode]
        have hless : searchFuel succ nodes queue seen ≤ fuel := by
          rw [searchFuel] at hfuel ⊢
          rw [List.length_cons] at hfuel
          omega
        obtain ⟨hqueue, hedges⟩ := ih hless
        refine ⟨fun x hx => ?_, hedges⟩
        rcases List.mem_cons.mp hx with rfl | hx
        · exact .inl hnode
        · exact hqueue x hx
      · simp only [if_neg hnode]
        have hless : searchFuel succ nodes
            (queue ++ (succ node).filter (· ∉ node :: seen)) (node :: seen) ≤ fuel := by
          have hspent : _ ≤ searchFuel succ nodes (node :: queue) seen :=
            searchFuel_visit hnodes hnode
          omega
        obtain ⟨hqueue, hedges⟩ := ih hless
        -- what was seen after this visit was seen before it or is the node itself
        have hlift : ∀ z, z ∈ node :: seen ∨ z ∈ search succ fuel
            (queue ++ (succ node).filter (· ∉ node :: seen)) (node :: seen) →
            z ∈ seen ∨ z ∈ node :: search succ fuel
              (queue ++ (succ node).filter (· ∉ node :: seen)) (node :: seen) := by
          rintro z (hz | hz)
          · rcases List.mem_cons.mp hz with rfl | hz
            · exact .inr List.mem_cons_self
            · exact .inl hz
          · exact .inr (List.mem_cons_of_mem node hz)
        refine ⟨fun x hx => ?_, fun x hx y hxy => ?_⟩
        · rcases List.mem_cons.mp hx with rfl | hx
          · exact .inr List.mem_cons_self
          · exact hlift x (hqueue x (List.mem_append_left _ hx))
        · rcases List.mem_cons.mp hx with rfl | hx
          · by_cases hy : y ∈ x :: seen
            · exact hlift y (.inl hy)
            · have hin : y ∈ (succ x).filter (· ∉ x :: seen) :=
                List.mem_filter.mpr ⟨hxy, by simpa using hy⟩
              exact hlift y (hqueue y (List.mem_append_right queue hin))
          · exact hlift y (hedges x hx y hxy)

/-- The traversal from one node yields exactly what can be reached from it. -/
theorem mem_search_iff {nodes : Finset κ} (hnodes : ∀ a, succ a ≠ [] → a ∈ nodes) {fuel : Nat}
    {start : κ} (hfuel : (∑ a ∈ nodes, (succ a).length) + 1 ≤ fuel) {y : κ} :
    y ∈ search succ fuel [start] [] ↔ ReflTransGen (Edge succ) start y := by
  have henough : searchFuel succ nodes [start] [] ≤ fuel := by
    rw [searchFuel]
    simpa using hfuel
  obtain ⟨hqueue, hedges⟩ := search_closed hnodes henough
  constructor
  · intro hy
    obtain ⟨x, hx, hpath⟩ := reaches_of_mem_search hy
    rw [← List.mem_singleton.mp hx]
    exact hpath
  · intro hpath
    induction hpath with
    | refl => exact (hqueue start List.mem_cons_self).resolve_left List.not_mem_nil
    | tail _ hlast ih => exact (hedges _ ih _ hlast).resolve_left List.not_mem_nil

end Search

end AsyncViz.Lib.Search
