/-
  AsyncViz.Lib.Layering

  Depths in a directed graph, and what lies behind its cycles.

  * `IsDepth r b n`: the longest path that ends in `b` has `n` edges.  A function
    that is one more than the greatest of its predecessors is the depth of every
    accessible node (`isDepth_of_acc`).
  * `Downstream r b`: a cycle leads to `b`.  In a graph with finitely many edges
    these are the nodes that are not accessible (`acc_iff_not_downstream`), so a
    peeling that never gets stuck on an accessible node leaves exactly them
    (`mem_iff_acc`).
-/

import Mathlib.Data.Fintype.Order
import Mathlib.Logic.Relation
import Mathlib.Order.Bounds.Basic

namespace AsyncViz.Lib.Layering

open Relation

variable {κ : Type _} {r : κ → κ → Prop} {a b c : κ}

/-! ## Depth -/

/-- A path of `n` edges ends in the node. -/
inductive PathTo (r : κ → κ → Prop) : Nat → κ → Prop
  | start (b : κ) : PathTo r 0 b
  | step {n : Nat} {a b : κ} : PathTo r n a → r a b → PathTo r (n + 1) b

/-- The longest path to `b` has `n` edges. -/
def IsDepth (r : κ → κ → Prop) (b : κ) (n : Nat) : Prop := IsGreatest {m | PathTo r m b} n

/-- The depth of a node is one more than the greatest depth before it. -/
theorem isDepth_of_preds {f : κ → Nat} {n : Nat} (hpreds : ∀ a, r a b → IsDepth r a (f a))
    (hle : ∀ a, r a b → f a + 1 ≤ n) (hattained : n ≠ 0 → ∃ a, r a b ∧ f a + 1 = n) :
    IsDepth r b n := by
  constructor
  · -- a path of `n` edges: one more than the longest to the predecessor that attains it
    by_cases hzero : n = 0
    · subst hzero
      exact .start b
    · obtain ⟨a, hab, rfl⟩ := hattained hzero
      exact PathTo.step (hpreds a hab).1 hab
  · -- no path is longer, for its last edge comes from a predecessor
    intro m hm
    cases hm with
    | start => exact Nat.zero_le n
    | @step m a _ hpath hab =>
      have hdepth : m ≤ f a := (hpreds a hab).2 hpath
      exact le_trans (Nat.succ_le_succ hdepth) (hle a hab)

theorem isDepth_of_acc {f : κ → Nat} (h : Acc r b) (hle : ∀ a b, r a b → f a + 1 ≤ f b)
    (hattained : ∀ b, f b ≠ 0 → ∃ a, r a b ∧ f a + 1 = f b) : IsDepth r b (f b) := by
  induction h with
  | intro b _ ih => exact isDepth_of_preds ih (fun a => hle a b) (hattained b)

/-! ## Cycles -/

/-- A cycle leads to `b`. -/
def Downstream (r : κ → κ → Prop) (b : κ) : Prop := ∃ c, TransGen r c c ∧ ReflTransGen r c b

/-- No node lies on a cycle. -/
def Acyclic (r : κ → κ → Prop) : Prop := ∀ c, ¬ TransGen r c c

theorem Downstream.exists_pred (h : Downstream r b) : ∃ a, r a b ∧ Downstream r a := by
  obtain ⟨c, hcycle, hpath⟩ := h
  rcases hpath.cases_tail with rfl | ⟨a, hca, hab⟩
  · -- the node lies on the cycle itself
    obtain ⟨a, hba, hab⟩ := TransGen.tail'_iff.mp hcycle
    exact ⟨a, hab, b, hcycle, hba⟩
  · exact ⟨a, hab, c, hcycle, hca⟩

theorem not_downstream_of_acc (h : Acc r b) : ¬ Downstream r b := by
  -- by induction on the accessibility: a cycle leads to a predecessor as well
  induction h with
  | intro b _ ih =>
    intro hdown
    obtain ⟨a, hab, ha⟩ := hdown.exists_pred
    exact ih a hab ha

/-- Among finitely many ancestors without a cycle there is no infinite descent. -/
theorem acc_of_not_downstream (hfin : {a | ∃ b, r a b}.Finite) (h : ¬ Downstream r b) :
    Acc r b := by
  -- the relation is well founded on the ancestors, which are finitely many and on no cycle
  let ancestors := {a // ReflTransGen r a b}
  have hancestors : {a | ReflTransGen r a b} ⊆ insert b {a | ∃ b, r a b} := by
    intro a ha
    rcases ha.cases_head with rfl | ⟨c, hac, -⟩
    · exact Set.mem_insert _ _
    · exact Set.mem_insert_of_mem _ ⟨c, hac⟩
  have : Finite ancestors := (hfin.insert b).subset hancestors
  let before : ancestors → ancestors → Prop := fun x y => TransGen r x.1 y.1
  have : IsTrans ancestors before := ⟨fun _ _ _ => TransGen.trans⟩
  have : Std.Irrefl before := ⟨fun x hx => h ⟨x.1, hx, x.2⟩⟩
  have hwf : WellFounded before := Finite.wellFounded_of_trans_of_irrefl before
  have hlift : ∀ x : ancestors, Acc r x.1 := fun x => by
    induction x using hwf.induction with
    | _ x ih => exact Acc.intro x.1 fun y hy => ih ⟨y, .head hy x.2⟩ (.single hy)
  exact hlift ⟨b, .refl⟩

theorem acc_iff_not_downstream (hfin : {a | ∃ b, r a b}.Finite) : Acc r b ↔ ¬ Downstream r b :=
  ⟨not_downstream_of_acc, acc_of_not_downstream hfin⟩

theorem acyclic_iff_forall_acc (hfin : {a | ∃ b, r a b}.Finite) : Acyclic r ↔ ∀ b, Acc r b := by
  constructor
  · intro h b
    exact acc_of_not_downstream hfin fun ⟨c, hcycle, _⟩ => h c hcycle
  · intro h c hcycle
    exact not_downstream_of_acc (h c) ⟨c, hcycle, .refl⟩

/-- A set of accessible nodes such that whatever is not in it has a predecessor that is not in
    it either is the set of all accessible nodes. -/
theorem mem_iff_acc {s : κ → Prop} (hacc : ∀ b, s b → Acc r b)
    (hstuck : ∀ b, ¬ s b → ∃ a, r a b ∧ ¬ s a) : s b ↔ Acc r b := by
  refine ⟨hacc b, fun h => ?_⟩
  -- by induction on the accessibility: outside the set there would be a predecessor outside it
  induction h with
  | intro b _ ih =>
    by_contra hnot
    obtain ⟨a, hab, ha⟩ := hstuck b hnot
    exact ha (ih a hab)

end AsyncViz.Lib.Layering
