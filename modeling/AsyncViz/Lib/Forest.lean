/-
  AsyncViz.Lib.Forest

  Forests given by a partial parent function `par : κ → Option κ`.

  * `IsParent par p x` is the edge from a parent to its child; its transitive
    closure relates an ancestor to its descendants.
  * `Grounded par` says that every walk up ends; it excludes cycles, and adding
    a child keeps it unless the child is already above its new parent.
  * `Chain par live x l` says that `l` is what a walk up from `x` meets, closest
    first, when it stops at the first parent that is not `live`.
  * `Grounded.exists_root` finds the root above a node.

  Nothing here depends on what the nodes are.
-/

import Mathlib.Logic.Function.Basic
import Mathlib.Logic.Relation
import Mathlib.Order.WellFounded

namespace AsyncViz.Lib.Forest

open Relation

variable {κ : Type _}

/-- `p` is the parent of `x`. -/
def IsParent (par : κ → Option κ) (p x : κ) : Prop := par x = some p

/-- Every walk up from a node ends. -/
def Grounded (par : κ → Option κ) : Prop := WellFounded (IsParent par)

/-- The ancestors of `x`, closest first, up to the first one that is not live. -/
inductive Chain (par : κ → Option κ) (live : κ → Prop) : κ → List κ → Prop where
  | top {x : κ} (hstop : ∀ p, par x = some p → ¬ live p) : Chain par live x []
  | up {x p : κ} {l : List κ} (hparent : par x = some p) (hlive : live p)
      (hrest : Chain par live p l) : Chain par live x (p :: l)

section Chains

variable {par par' : κ → Option κ} {live live' : κ → Prop}

/-- A node has one chain. -/
theorem Chain.unique {x : κ} {l l' : List κ} (h : Chain par live x l)
    (h' : Chain par live x l') : l = l' := by
  induction h generalizing l' with
  | top hstop =>
    cases h' with
    | top => rfl
    | up hparent hlive => exact absurd hlive (hstop _ hparent)
  | up hparent hlive hrest ih =>
    cases h' with
    | top hstop => exact absurd hlive (hstop _ hparent)
    | up hparent' hlive' hrest' =>
      rw [hparent] at hparent'
      obtain rfl := Option.some.inj hparent'
      rw [ih hrest']

theorem Chain.live_of_mem {x a : κ} {l : List κ} (h : Chain par live x l) (ha : a ∈ l) :
    live a := by
  induction h with
  | top => cases ha
  | up hparent hlive hrest ih =>
    rcases List.mem_cons.mp ha with rfl | ha
    · exact hlive
    · exact ih ha

/-- A walk that never leaves `s` is the same in every forest that agrees on `s`. -/
theorem Chain.congr {s : κ → Prop} (hpar : ∀ x, s x → par' x = par x)
    (hlive : ∀ x p, s x → par x = some p → (live' p ↔ live p))
    (hclosed : ∀ x p, s x → par x = some p → live p → s p)
    {x : κ} {l : List κ} (hx : s x) (h : Chain par live x l) : Chain par' live' x l := by
  induction h with
  | top hstop =>
    refine .top fun p hp => ?_
    rw [hpar _ hx] at hp
    rw [hlive _ _ hx hp]
    exact hstop p hp
  | up hparent hlv hrest ih =>
    refine .up ?_ ?_ (ih (hclosed _ _ hx hparent hlv))
    · rw [hpar _ hx]
      exact hparent
    · rw [hlive _ _ hx hparent]
      exact hlv

/-- The chain of a node whose parent is live goes through the parent. -/
theorem Chain.eq_cons {x p : κ} {l : List κ} (h : Chain par live x l) (hparent : par x = some p)
    (hlive : live p) : ∃ rest, l = p :: rest ∧ Chain par live p rest := by
  cases h with
  | top hstop => exact absurd hlive (hstop p hparent)
  | up hparent' _ hrest =>
    rw [hparent] at hparent'
    obtain rfl := Option.some.inj hparent'
    exact ⟨_, rfl, hrest⟩

/-- The chain of a node whose parent is not live is empty. -/
theorem Chain.eq_nil {x p : κ} {l : List κ} (h : Chain par live x l) (hparent : par x = some p)
    (hlive : ¬ live p) : l = [] := by
  cases h with
  | top => rfl
  | up hparent' hlive' =>
    rw [hparent] at hparent'
    obtain rfl := Option.some.inj hparent'
    exact absurd hlive' hlive

end Chains

/-! ## Grounded forests -/

section Grounded

variable {par par' : κ → Option κ}

/-- A grounded forest has no cycle. -/
theorem Grounded.acyclic (h : Grounded par) (x : κ) : ¬ TransGen (IsParent par) x x :=
  fun hcycle => (WellFounded.transGen h).irrefl.irrefl x hcycle

theorem Grounded.mono (h : Grounded par) (hle : ∀ x p, par' x = some p → par x = some p) :
    Grounded par' := Subrelation.wf (fun {p x} hp => hle x p hp) h

/-- Hanging `x` under `p` keeps the forest grounded unless `x` is `p` or above it. -/
theorem Grounded.update [DecidableEq κ] (h : Grounded par) {x p : κ}
    (habove : ¬ ReflTransGen (IsParent par) x p) :
    Grounded (Function.update par x (some p)) := by
  -- the walk up from `p` never meets `x`, so it ends as before
  have hp : ∀ y, ¬ ReflTransGen (IsParent par) x y →
      Acc (IsParent (Function.update par x (some p))) y := by
    intro y
    induction y using h.induction with
    | _ y ih =>
      intro hy
      refine Acc.intro y fun q hq => ?_
      have hne : y ≠ x := by
        rintro rfl
        exact hy .refl
      have hold : IsParent par q y := by
        rw [IsParent, Function.update_of_ne hne] at hq
        exact hq
      exact ih q hold fun hxq => hy (hxq.tail hold)
  refine ⟨fun y => ?_⟩
  induction y using h.induction with
  | _ y ih =>
    refine Acc.intro y fun q hq => ?_
    by_cases hyx : y = x
    · rw [hyx, IsParent, Function.update_self] at hq
      rw [← Option.some.inj hq]
      exact hp p habove
    · rw [IsParent, Function.update_of_ne hyx] at hq
      exact ih q hq

/-- Above every node stands a root, and what holds of a child holds of its parent
    all the way up. -/
theorem Grounded.exists_root (h : Grounded par) {s : κ → Prop}
    (hup : ∀ x p, s x → par x = some p → s p) {x : κ} (hx : s x) :
    ∃ root, par root = none ∧ s root ∧ ReflTransGen (IsParent par) root x := by
  induction x using h.induction with
  | _ x ih =>
    cases hparent : par x with
    | none => exact ⟨x, hparent, hx, .refl⟩
    | some p =>
      obtain ⟨root, hroot, hsroot, hpath⟩ := ih p hparent (hup x p hx hparent)
      exact ⟨root, hroot, hsroot, hpath.tail hparent⟩

/-- Two ancestors of a node are comparable, so a node stands below one root only. -/
theorem root_unique {root root' x : κ} (hroot : par root = none) (hroot' : par root' = none)
    (h : ReflTransGen (IsParent par) root x) (h' : ReflTransGen (IsParent par) root' x) :
    root = root' := by
  induction h with
  | refl =>
    cases h' with
    | refl => rfl
    | tail _ hlast =>
      rw [IsParent, hroot] at hlast
      cases hlast
  | tail hpath hlast ih =>
    cases h' with
    | refl =>
      rw [IsParent, hroot'] at hlast
      cases hlast
    | tail hpath' hlast' =>
      rw [IsParent, hlast] at hlast'
      obtain rfl := Option.some.inj hlast'
      exact ih hpath'

end Grounded

end AsyncViz.Lib.Forest
