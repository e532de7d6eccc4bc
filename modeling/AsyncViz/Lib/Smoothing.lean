/-
  AsyncViz.Lib.Smoothing

  What a smoothed maximum is made of: the largest of some readings (`peak`, which is zero where
  there is none) and the exponential average of a series of them (`ema`).

  The average stays below every bound of the readings and of its own start (`ema_le`), and while
  the readings are zero it falls below every positive bound (`exists_pow_mul_lt`).
-/

import Mathlib.Algebra.Order.Archimedean.Basic
import Mathlib.Algebra.Order.Field.Basic
import Mathlib.Tactic.Linarith

namespace AsyncViz.Lib.Smoothing

/-! ## The largest reading -/

section Peak

variable {K : Type _} [LinearOrder K] [Zero K] {l l' : List K} {x b : K}

/-- The largest element, or zero. -/
def peak (l : List K) : K := l.max?.getD 0

@[simp] theorem peak_nil : peak ([] : List K) = 0 := rfl

theorem le_peak (h : x ∈ l) : x ≤ peak l := by
  cases hmax : l.max? with
  | none =>
    rw [List.max?_eq_none_iff.mp hmax] at h
    cases h
  | some m =>
    rw [peak, hmax]
    exact (List.max?_eq_some_iff.mp hmax).2 x h

theorem peak_le (hb : 0 ≤ b) (h : ∀ x ∈ l, x ≤ b) : peak l ≤ b := by
  cases hmax : l.max? with
  | none =>
    rw [peak, hmax]
    exact hb
  | some m =>
    rw [peak, hmax]
    exact h m (List.max?_mem hmax)

theorem peak_nonneg (h : ∀ x ∈ l, 0 ≤ x) : 0 ≤ peak l := by
  cases l with
  | nil => exact le_refl _
  | cons x l => exact (h x List.mem_cons_self).trans (le_peak List.mem_cons_self)

/-- Zeros do not count beside readings that are not negative. -/
theorem peak_eq_of_subset (hsub : ∀ x ∈ l', x ∈ l) (hrest : ∀ x ∈ l, x ∈ l' ∨ x = 0)
    (hnonneg : ∀ x ∈ l, 0 ≤ x) : peak l = peak l' := by
  have hpos : 0 ≤ peak l' := peak_nonneg fun x hx => hnonneg x (hsub x hx)
  apply le_antisymm
  · refine peak_le hpos fun x hx => ?_
    rcases hrest x hx with hmem | rfl
    · exact le_peak hmem
    · exact hpos
  · exact peak_le (peak_nonneg hnonneg) fun x hx => le_peak (hsub x hx)

theorem peak_eq_zero (h : ∀ x ∈ l, x = 0) : peak l = 0 := by
  have hempty : peak l = peak ([] : List K) :=
    peak_eq_of_subset (fun _ hx => absurd hx List.not_mem_nil) (fun x hx => .inr (h x hx))
      (fun x hx => (h x hx).ge)
  rw [hempty, peak_nil]

end Peak

/-! ## The exponential average -/

section Ema

variable {K : Type _} [Field K]

/-- `decay * previous + (1 - decay) * observation`. -/
def ema (decay previous observation : K) : K := decay * previous + (1 - decay) * observation

@[simp] theorem ema_zero (decay previous : K) : ema decay previous 0 = decay * previous := by
  rw [ema, mul_zero, add_zero]

variable [LinearOrder K] [IsStrictOrderedRing K] {decay previous observation b : K}

theorem ema_le (h0 : 0 ≤ decay) (h1 : decay ≤ 1) (hprevious : previous ≤ b)
    (hobservation : observation ≤ b) : ema decay previous observation ≤ b := by
  have hleft : decay * previous ≤ decay * b := mul_le_mul_of_nonneg_left hprevious h0
  have hright : (1 - decay) * observation ≤ (1 - decay) * b :=
    mul_le_mul_of_nonneg_left hobservation (sub_nonneg.mpr h1)
  unfold ema
  linarith

/-- From any start, the average falls below every positive bound. -/
theorem exists_pow_mul_lt [Archimedean K] (h0 : 0 ≤ decay) (h1 : decay < 1) (hb : 0 < b)
    (hprevious : 0 ≤ previous) : ∃ n : ℕ, decay ^ n * previous < b := by
  have hpos : 0 < previous + 1 := by linarith
  obtain ⟨n, hn⟩ := exists_pow_lt_of_lt_one (div_pos hb hpos) h1
  refine ⟨n, ?_⟩
  have hle : decay ^ n * previous ≤ decay ^ n * (previous + 1) :=
    mul_le_mul_of_nonneg_left (by linarith) (pow_nonneg h0 n)
  exact hle.trans_lt ((lt_div_iff₀ hpos).mp hn)

end Ema

end AsyncViz.Lib.Smoothing
