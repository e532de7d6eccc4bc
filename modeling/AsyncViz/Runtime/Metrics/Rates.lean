/-
  AsyncViz.Runtime.Metrics.Rates

  `RateMeter` (`runtime/metrics/rates.py`): one bucket a second, the last
  `window_seconds` of them.

  A reading is a rational number of seconds; `int(x)` truncates towards zero.
  `observe` writes to the newest bucket, and a meter that a snapshot has emptied
  has none.
-/

import AsyncViz.Lib.BoundedRing
import Mathlib.Algebra.Ring.Int.Defs
import Mathlib.Data.Rat.Defs

namespace AsyncViz.Runtime.Metrics

open AsyncViz.Lib

/-- `int(seconds)`. -/
def truncate (seconds : ℚ) : Int := seconds.num.tdiv seconds.den

/-- `RateMeter`. -/
structure RateMeter where
  buckets : BoundedRing Int
  window_pos : 0 < buckets.capacity
  currentBucketStart : Option Int
  total : Int

/-- `RateSnapshot`. -/
structure RateSnapshot where
  ratePerSecond : ℚ
  totalObservations : Int
  windowSeconds : Nat

namespace RateMeter

/-- `RateMeter(window_seconds)`. -/
def new (windowSeconds : Nat) (h : 0 < windowSeconds) : RateMeter :=
  ⟨.empty windowSeconds, h, none, 0⟩

/-- The meter's `window_seconds`. -/
def window (m : RateMeter) : Nat := m.buckets.capacity

/-- `gap` empty buckets at the end of the ring. -/
def pad (buckets : BoundedRing Int) (gap : Nat) : BoundedRing Int :=
  (List.replicate gap 0).foldl BoundedRing.push buckets

theorem pad_capacity (buckets : BoundedRing Int) (gap : Nat) :
    (pad buckets gap).capacity = buckets.capacity :=
  BoundedRing.foldl_push_capacity _ _

theorem pad_items_ne_nil {buckets : BoundedRing Int} {gap : Nat} (hpos : 0 < buckets.capacity)
    (hgap : 0 < gap) : (pad buckets gap).items ≠ [] := by
  obtain ⟨n, rfl⟩ := Nat.exists_eq_add_of_le' hgap
  -- the last of the empty buckets stays, whatever the others evict
  rw [pad, List.replicate_succ', List.foldl_append]
  apply BoundedRing.push_items_ne_nil
  rw [BoundedRing.foldl_push_capacity]
  exact hpos

/-- The meter with the bucket of `second` in place, as `observe` prepares it. -/
def advance (m : RateMeter) (second : Int) : RateMeter :=
  match m.currentBucketStart with
  | none => { m with
      buckets := m.buckets.push 0
      window_pos := m.window_pos
      currentBucketStart := some second }
  | some start =>
    if second > start then
      let gap := (second - start).toNat
      if gap ≥ m.window then
        { m with
          buckets := m.buckets.clear.push 0
          window_pos := m.window_pos
          currentBucketStart := some second }
      else
        { m with
          buckets := pad m.buckets gap
          window_pos := (pad_capacity m.buckets gap).symm ▸ m.window_pos
          currentBucketStart := some second }
    else m

/-- The buckets with `count` added to the newest one. -/
def addToNewest (buckets : BoundedRing Int) (count : Int) : BoundedRing Int :=
  { buckets with
    items := buckets.items.dropLast ++ (buckets.items.getLast?.map (· + count)).toList
    length_le := by
      have hle := buckets.length_le
      rcases List.eq_nil_or_concat buckets.items with h | ⟨init, last, h⟩
      · simp [h]
      · rw [h] at hle ⊢
        simpa using hle }

/-- `meter.observe(monotonic_seconds, count)`; `none` is the `IndexError` of
    `buckets[-1]` on an empty ring, which leaves the meter as it was. -/
def observe (m : RateMeter) (monotonicSeconds : ℚ) (count : Int) : Option RateMeter :=
  let m := m.advance (truncate monotonicSeconds)
  if m.buckets.items = [] then none
  else some { m with
    buckets := addToNewest m.buckets count
    window_pos := m.window_pos
    total := m.total + count }

/-- `meter.snapshot(monotonic_seconds)`, which moves the window up to the reading.
    A gap of the whole window leaves no bucket behind. -/
def snapshot (m : RateMeter) (monotonicSeconds : Option ℚ) : RateSnapshot × RateMeter :=
  let m : RateMeter :=
    match monotonicSeconds, m.currentBucketStart with
    | some seconds, some start =>
      let second := truncate seconds
      if second > start then
        if (second - start).toNat ≥ m.window then
          { m with
            buckets := m.buckets.clear
            window_pos := m.window_pos
            currentBucketStart := some second }
        else m.advance second
      else m
    | _, _ => m
  ({ ratePerSecond := (m.buckets.items.sum : ℚ) / (m.window : ℚ)
     totalObservations := m.total
     windowSeconds := m.window }, m)

/-- The ring stays empty only where the reading does not move it. -/
theorem advance_items_eq_nil_iff {m : RateMeter} {second : Int} :
    (m.advance second).buckets.items = [] ↔
      m.buckets.items = [] ∧ ∃ start, m.currentBucketStart = some start ∧ second ≤ start := by
  have hpush : ∀ b : BoundedRing Int, 0 < b.capacity → (b.push 0).items ≠ [] :=
    fun b hb => BoundedRing.push_items_ne_nil b 0 hb
  rw [advance]
  split
  next hstart =>
    refine iff_of_false (hpush m.buckets m.window_pos) ?_
    rintro ⟨-, start, hsome, -⟩
    rw [hstart] at hsome
    cases hsome
  next start hstart =>
    by_cases hlater : second > start
    · -- a bucket is pushed, for the gap or for the second itself
      have hgap : 0 < (second - start).toNat := by omega
      refine iff_of_false ?_ ?_
      · rw [if_pos hlater]
        dsimp only
        split
        next => exact hpush m.buckets.clear m.window_pos
        next => exact pad_items_ne_nil m.window_pos hgap
      · rintro ⟨-, start', hsome, hle⟩
        obtain rfl : start = start' := Option.some.inj (hstart.symm.trans hsome)
        omega
    · rw [if_neg hlater]
      exact ⟨fun hnil => ⟨hnil, start, hstart, Int.not_lt.mp hlater⟩, fun h => h.1⟩

/-- `observe` raises exactly on an empty ring that the reading does not move. -/
theorem observe_eq_none_iff {m : RateMeter} {seconds : ℚ} {count : Int} :
    m.observe seconds count = none ↔
      m.buckets.items = [] ∧ ∃ start, m.currentBucketStart = some start ∧
        truncate seconds ≤ start := by
  rw [← advance_items_eq_nil_iff, observe]
  split
  next hnil => exact iff_of_true rfl hnil
  next hsome => exact iff_of_false (Option.some_ne_none _) hsome

end RateMeter

end AsyncViz.Runtime.Metrics
