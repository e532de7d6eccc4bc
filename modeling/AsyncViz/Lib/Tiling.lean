/-
  AsyncViz.Lib.Tiling

  Lists of pieces laid end to end: every piece starts where the one before it
  stops.  A piece is any value with a start and a stop; the time line is any
  type.

  `tiles_append_singleton` lays one more piece, and `Tiles.sum_length` says that
  over a group the lengths add up to the distance from the first start to the
  last stop, whatever the pieces in between are.
-/

import Mathlib.Algebra.BigOperators.Group.List.Basic
import Mathlib.Tactic.Abel
import Mathlib.Data.List.Chain

namespace AsyncViz.Lib

variable {ι τ : Type _} {start stop : ι → τ}

/-- The pieces lie end to end and lead from the first point to the second. -/
def Tiles (start stop : ι → τ) : τ → List ι → τ → Prop
  | a, [], b => a = b
  | a, x :: l, b => start x = a ∧ Tiles start stop (stop x) l b

namespace Tiles

@[simp] theorem nil_iff {a b : τ} : Tiles start stop a [] b ↔ a = b := Iff.rfl

/-- One more piece may be laid where the last one stops. -/
theorem snoc {a b : τ} {l : List ι} (h : Tiles start stop a l b) {x : ι} (hx : start x = b) :
    Tiles start stop a (l ++ [x]) (stop x) := by
  induction l generalizing a with
  | nil => exact ⟨hx.trans (nil_iff.mp h).symm, rfl⟩
  | cons y l ih => exact ⟨h.1, ih h.2⟩

theorem head_start {a b : τ} {l : List ι} (h : Tiles start stop a l b) :
    ∀ x ∈ l.head?, start x = a := by
  cases l with
  | nil => intro x hx; cases hx
  | cons y l =>
    intro x hx
    obtain rfl : y = x := Option.some.inj hx
    exact h.1

theorem getLast_stop {a b : τ} {l : List ι} (h : Tiles start stop a l b) :
    ∀ x ∈ l.getLast?, stop x = b := by
  induction l generalizing a with
  | nil => intro x hx; cases hx
  | cons y l ih =>
    intro x hx
    cases l with
    | nil =>
      obtain rfl : y = x := Option.some.inj hx
      exact h.2
    | cons z l =>
      rw [List.getLast?_cons_cons] at hx
      exact ih h.2 x hx

/-- Neighbours meet. -/
theorem isChain {a b : τ} {l : List ι} (h : Tiles start stop a l b) :
    l.IsChain fun x y => stop x = start y := by
  induction l generalizing a with
  | nil => exact List.isChain_nil
  | cons x l ih =>
    cases l with
    | nil => exact List.isChain_singleton x
    | cons y l => exact List.isChain_cons_cons.mpr ⟨h.2.1.symm, ih h.2⟩

/-- The lengths add up to the distance that is covered. -/
theorem sum_length [AddCommGroup τ] {a b : τ} {l : List ι} (h : Tiles start stop a l b) :
    (l.map fun x => stop x - start x).sum = b - a := by
  induction l generalizing a with
  | nil => rw [nil_iff.mp h]; simp
  | cons x l ih =>
    rw [List.map_cons, List.sum_cons, ih h.2, h.1]
    abel

end Tiles

end AsyncViz.Lib
