/-
  AsyncViz.Instrumentation.QueueMetrics.Pressure

  When a reading leaves no trace: a state that has scored nothing but zero and whose meters have
  seen nothing stays as it is under a snapshot, exactly as long as the queue is empty or without
  bound, no task is blocked on it and nothing is put in or taken out.
-/

import Mathlib.Algebra.Order.Field.Rat
import Mathlib.Algebra.Order.Field.Basic
import Mathlib.Tactic.Linarith
import AsyncViz.Instrumentation.QueueMetrics.State

namespace AsyncViz.Instrumentation.QueueMetrics

open AsyncViz.Lib AsyncViz.Runtime.Metrics

/-! ## Scores -/

theorem clamp_nonneg (x : ℚ) : 0 ≤ clamp x := le_max_left _ _

theorem clamp_eq_zero_iff {x : ℚ} : clamp x = 0 ↔ x ≤ 0 := by
  rw [clamp]
  constructor
  · intro h
    by_contra hpos
    have hmin : 0 < min 1 x := lt_min one_pos (not_le.mp hpos)
    exact absurd h (ne_of_gt (lt_max_of_lt_right hmin))
  · intro h
    exact max_eq_left (min_le_of_right_le h)

theorem velocityRatio_nonneg (putRate getRate : ℚ) : 0 ≤ velocityRatio putRate getRate := by
  unfold velocityRatio
  dsimp only
  split
  · exact le_refl 0
  · rename_i hpos
    exact le_min zero_le_one (div_nonneg (abs_nonneg _) (le_of_lt (not_le.mp hpos)))

/-- A score is zero when each of its parts is. -/
theorem computeScore_eq_zero_iff {ratio putRate getRate : ℚ} {producers consumers : Int}
    (hproducers : 0 ≤ producers) (hconsumers : 0 ≤ consumers) :
    computeScore ratio producers consumers putRate getRate = 0 ↔
      ratio ≤ 0 ∧ producers = 0 ∧ consumers = 0 ∧ velocityRatio putRate getRate = 0 := by
  have hblocked : (0 : ℚ) ≤ ((producers + consumers : Int) : ℚ) / 16 := by
    have hsum : (0 : ℚ) ≤ ((producers + consumers : Int) : ℚ) := by
      exact_mod_cast Int.add_nonneg hproducers hconsumers
    positivity
  have hmin : (0 : ℚ) ≤ min 1 (((producers + consumers : Int) : ℚ) / 16) :=
    le_min zero_le_one hblocked
  have hratio := clamp_nonneg ratio
  have hvelocity := velocityRatio_nonneg putRate getRate
  unfold computeScore
  dsimp only
  rw [clamp_eq_zero_iff]
  constructor
  · intro h
    -- None of the parts is negative, so none is positive.
    have hratio' : clamp ratio = 0 := by linarith
    have hblocked' : min 1 (((producers + consumers : Int) : ℚ) / 16) = 0 := by linarith
    have hvelocity' : velocityRatio putRate getRate = 0 := by linarith
    have hsum : producers + consumers = 0 := by
      by_contra hne
      have hpos : (0 : ℚ) < ((producers + consumers : Int) : ℚ) := by
        exact_mod_cast (by omega : 0 < producers + consumers)
      have hlt : (0 : ℚ) < min 1 (((producers + consumers : Int) : ℚ) / 16) :=
        lt_min one_pos (by positivity)
      exact absurd hblocked' (ne_of_gt hlt)
    exact ⟨clamp_eq_zero_iff.mp hratio', by omega, by omega, hvelocity'⟩
  · rintro ⟨hle, rfl, rfl, hzero⟩
    rw [clamp_eq_zero_iff.mpr hle, hzero]
    norm_num

@[simp] theorem velocityRatio_zero : velocityRatio 0 0 = 0 := by simp [velocityRatio]

/-- One side that has seen something and one that has not: the velocity is at its highest. -/
theorem velocityRatio_left {rate : ℚ} (h : 0 < rate) : velocityRatio rate 0 = 1 := by
  simp [velocityRatio, not_le.mpr h, abs_of_pos h, ne_of_gt h]

theorem velocityRatio_right {rate : ℚ} (h : 0 < rate) : velocityRatio 0 rate = 1 := by
  simp [velocityRatio, not_le.mpr h, abs_of_pos h, ne_of_gt h]

/-- A score of zero leaves a calm scorer calm where both thresholds are positive. -/
theorem classify_calm_zero_iff {config : QueueMetricsConfig} :
    classify config .calm 0 = .calm ↔
      0 < config.pressureWarningThreshold ∧ 0 < config.pressureCriticalThreshold := by
  unfold classify
  dsimp only
  split
  · rename_i h
    simp [not_lt.mpr h]
  · rename_i h
    split
    · rename_i h'
      simp [not_lt.mpr h']
    · rename_i h'
      simp [not_le.mp h, not_le.mp h']

/-! ## Meters -/

/-- A meter that has seen nothing. -/
structure Fresh (m : RateMeter) : Prop where
  buckets : m.buckets.items = []
  start : m.currentBucketStart = none

theorem fresh_new {n : Nat} (h : 0 < n) : Fresh (.new n h) := ⟨rfl, rfl⟩

/-- There is nothing to move on in a meter that has seen nothing. -/
theorem Fresh.snapshot {m : RateMeter} (h : Fresh m) (seconds : Option ℚ) :
    (m.snapshot seconds).1.ratePerSecond = 0 ∧ (m.snapshot seconds).2 = m := by
  unfold RateMeter.snapshot
  rw [h.start]
  cases seconds <;> simp [h.buckets]

/-- The first observation does not raise, and a reading at its time finds it. -/
theorem Fresh.observe {m : RateMeter} (h : Fresh m) (seconds : ℚ) :
    ∃ m', m.observe seconds 1 = some m' ∧ ∀ reading, reading = none ∨ reading = some seconds →
      0 < (m'.snapshot reading).1.ratePerSecond := by
  have hadvance : m.advance (truncate seconds) = { m with
      buckets := m.buckets.push 0
      window_pos := m.window_pos
      currentBucketStart := some (truncate seconds) } := by
    rw [RateMeter.advance, h.start]
  have hitems : (m.buckets.push 0).items = [0] := by
    rw [BoundedRing.push_items_of_not_full, h.buckets]
    · rfl
    · rw [BoundedRing.Full, h.buckets]
      exact ne_of_lt m.window_pos
  have hwindow : (0 : ℚ) < (m.buckets.capacity : ℚ) := by exact_mod_cast m.window_pos
  unfold RateMeter.observe
  rw [hadvance]
  dsimp only
  rw [if_neg (by rw [hitems]; exact List.cons_ne_nil _ _)]
  refine ⟨_, rfl, fun reading hreading => ?_⟩
  have hsum : (RateMeter.addToNewest (m.buckets.push 0) 1).items = [1] := by
    simp [RateMeter.addToNewest, hitems]
  have hrate : (0 : ℚ) < ((List.sum [(1 : Int)] : Int) : ℚ) / (m.buckets.capacity : ℚ) := by
    simpa using hwindow
  rcases hreading with rfl | rfl
  · simp only [RateMeter.snapshot, RateMeter.window, hsum]
    exact hrate
  · -- The reading is in the second of the observation, so the window does not move.
    simp only [RateMeter.snapshot, RateMeter.window, gt_iff_lt, lt_self_iff_false, if_false, hsum]
    exact hrate

/-! ## What an event leaves alone -/

/-- The class of the event puts something in or takes something out. -/
def QueueEventKind.isTransfer : QueueEventKind → Bool
  | .put _ _ _ | .get _ _ _ => true
  | _ => false

namespace QueueAggregateState

variable {s : QueueAggregateState} {seconds : ℚ}

/-- What `count` leaves alone. -/
structure SameReport (s s' : QueueAggregateState) : Prop where
  config : s'.config = s.config
  maxsize : s'.maxsize = s.maxsize
  size : s'.lastObservedSize = s.lastObservedSize
  pressure : s'.pressure = s.pressure
  finalized : s'.finalized = s.finalized
  producers : s'.contention.blockedProducers = s.contention.blockedProducers
  consumers : s'.contention.blockedConsumers = s.contention.blockedConsumers

theorem sameReport_count (s : QueueAggregateState) (kind : QueueEventKind) (seconds : ℚ) :
    SameReport s (s.count kind seconds).2 := by
  cases kind with
  | created => exact ⟨rfl, rfl, rfl, rfl, rfl, rfl, rfl⟩
  | put nowait blocked waitSeconds =>
    simp only [count]
    split
    · exact ⟨rfl, rfl, rfl, rfl, rfl, rfl, rfl⟩
    · split <;> exact ⟨rfl, rfl, rfl, rfl, rfl, rfl, rfl⟩
  | get nowait blocked waitSeconds =>
    simp only [count]
    split
    · exact ⟨rfl, rfl, rfl, rfl, rfl, rfl, rfl⟩
    · split <;> exact ⟨rfl, rfl, rfl, rfl, rfl, rfl, rfl⟩
  | fullWait => exact ⟨rfl, rfl, rfl, rfl, rfl, rfl, rfl⟩
  | emptyWait => exact ⟨rfl, rfl, rfl, rfl, rfl, rfl, rfl⟩
  | taskDone => exact ⟨rfl, rfl, rfl, rfl, rfl, rfl, rfl⟩
  | cancelled operation waitSeconds =>
    cases operation <;> exact ⟨rfl, rfl, rfl, rfl, rfl, rfl, rfl⟩

/-- Only the saturated flag moves. -/
theorem markSaturation_eq (s : QueueAggregateState) :
    ∃ saturated, s.markSaturation =
      { s with pressure := { s.pressure with saturated := saturated } } := by
  unfold markSaturation
  dsimp only
  split <;> split <;> exact ⟨_, rfl⟩

/-- What an event says about its queue, in what is left of it in the state. -/
structure Reports (s s' : QueueAggregateState) (fields : SnapshotFields) : Prop where
  config : s'.config = s.config
  finalized : s'.finalized = s.finalized
  maxsize : s'.maxsize = match fields.maxsize with
    | some maxsize => if maxsize > 0 then maxsize else s.maxsize
    | none => s.maxsize
  size : s'.lastObservedSize = fields.size.getD s.lastObservedSize
  pressure : ∃ saturated, s'.pressure = { s.pressure with saturated := saturated }
  producers : s'.contention.blockedProducers = max 0 (fields.blockedPutters.getD 0)
  consumers : s'.contention.blockedConsumers = max 0 (fields.blockedGetters.getD 0)

theorem if_neg_zero_eq_max (n : Int) : (if n < 0 then 0 else n) = max 0 n := by omega

/-- Whether or not a meter raises, the event's report is in the state. -/
theorem reports_applyEvent (hlive : s.finalized = false) (event : QueueEvent) (seconds : ℚ) :
    Reports s (s.applyEvent event seconds).2 event.snapshot := by
  have hsame := sameReport_count (s.report event.snapshot) event.kind seconds
  unfold applyEvent
  rw [hlive]
  simp only [Bool.false_eq_true, if_false]
  generalize (s.report event.snapshot).count event.kind seconds = counted at hsame ⊢
  obtain ⟨raised, s'⟩ := counted
  have hreports : Reports s s' event.snapshot :=
    ⟨hsame.config, hsame.finalized, hsame.maxsize, hsame.size, ⟨_, hsame.pressure⟩,
      hsame.producers.trans (if_neg_zero_eq_max _), hsame.consumers.trans (if_neg_zero_eq_max _)⟩
  cases raised with
  | true => exact hreports
  | false =>
    obtain ⟨saturated, heq⟩ := s'.markSaturation_eq
    dsimp only
    rw [heq]
    refine ⟨hreports.config, hreports.finalized, hreports.maxsize, hreports.size, ⟨saturated, ?_⟩,
      hreports.producers, hreports.consumers⟩
    dsimp only
    rw [hsame.pressure]
    rfl

/-! ## Resting states -/

/-- Nothing but zero has been scored, and the meters have seen nothing. -/
structure Resting (s : QueueAggregateState) : Prop where
  live : s.finalized = false
  pressure : s.pressure = { saturated := s.pressure.saturated }
  putRate : Fresh s.throughput.putRate
  getRate : Fresh s.throughput.getRate

/-- A reading would score zero, and zero is calm. -/
structure Unnoticed (s : QueueAggregateState) : Prop where
  empty : s.maxsize ≤ 0 ∨ s.lastObservedSize ≤ 0
  producers : s.contention.blockedProducers = 0
  consumers : s.contention.blockedConsumers = 0
  warning : 0 < s.config.pressureWarningThreshold
  critical : 0 < s.config.pressureCriticalThreshold

theorem occupancyRatio_le_zero_iff :
    s.occupancyRatio ≤ 0 ↔ s.maxsize ≤ 0 ∨ s.lastObservedSize ≤ 0 := by
  unfold occupancyRatio
  split
  · exact iff_of_true (le_refl 0) (.inl ‹_›)
  · rename_i hmax
    have hpos : (0 : ℚ) < (s.maxsize : ℚ) := by exact_mod_cast not_le.mp hmax
    rw [or_iff_right hmax, (clamp_nonneg _).ge_iff_eq', clamp_eq_zero_iff, div_le_iff₀ hpos,
      zero_mul]
    exact_mod_cast Iff.rfl

/-- A snapshot leaves a resting state as it is where it has nothing to notice. -/
theorem Resting.snapshot (h : Resting s) (hquiet : Unnoticed s) (reading : Option ℚ) :
    (s.snapshot reading).2 = s := by
  obtain ⟨hput, hput'⟩ := h.putRate.snapshot reading
  obtain ⟨hget, hget'⟩ := h.getRate.snapshot reading
  have hratio : s.occupancyRatio ≤ 0 := occupancyRatio_le_zero_iff.mpr hquiet.empty
  have hscore : computeScore s.occupancyRatio s.contention.blockedProducers
      s.contention.blockedConsumers 0 0 = 0 := by
    rw [hquiet.producers, hquiet.consumers]
    exact (computeScore_eq_zero_iff (le_refl 0) (le_refl 0)).mpr
      ⟨hratio, rfl, rfl, velocityRatio_zero⟩
  have hlevel : classify s.config .calm 0 = .calm :=
    classify_calm_zero_iff.mpr ⟨hquiet.warning, hquiet.critical⟩
  have hpressure : (s.pressure.evaluate s.config s.occupancyRatio s.contention.blockedProducers
      s.contention.blockedConsumers 0 0).2 = s.pressure := by
    rw [h.pressure]
    simp [PressureScorer.evaluate, hscore, hlevel, not_lt.mpr hratio]
  simp only [QueueAggregateState.snapshot, ThroughputCounters.snapshot, hput, hput', hget, hget',
    hpressure]

/-- The meters after `count`, where they had seen nothing: they do not raise, and what moves
    them is a transfer, which a reading at its time finds on one side only. -/
theorem count_fresh (hput : Fresh s.throughput.putRate) (hget : Fresh s.throughput.getRate)
    (kind : QueueEventKind) (seconds : ℚ) :
    (s.count kind seconds).1 = false ∧
      (kind.isTransfer = false → Fresh (s.count kind seconds).2.throughput.putRate ∧
        Fresh (s.count kind seconds).2.throughput.getRate) ∧
      (kind.isTransfer = true → ∀ reading, reading = none ∨ reading = some seconds →
        velocityRatio ((s.count kind seconds).2.throughput.snapshot reading).1.putRate
          ((s.count kind seconds).2.throughput.snapshot reading).1.getRate = 1) := by
  cases kind with
  | put nowait blocked waitSeconds =>
    obtain ⟨m, hm, hrate⟩ := hput.observe seconds
    refine ⟨?_, fun h => (by cases h), fun _ reading hreading => ?_⟩
    · simp only [count, ThroughputCounters.recordPut, hm]
      cases blocked <;> rfl
    · have hleft := velocityRatio_left (hrate reading hreading)
      have hright := (hget.snapshot reading).1
      cases blocked <;>
        simp [count, ThroughputCounters.recordPut, hm, ThroughputCounters.snapshot, hright, hleft]
  | get nowait blocked waitSeconds =>
    obtain ⟨m, hm, hrate⟩ := hget.observe seconds
    refine ⟨?_, fun h => (by cases h), fun _ reading hreading => ?_⟩
    · simp only [count, ThroughputCounters.recordGet, hm]
      cases blocked <;> rfl
    · have hright := velocityRatio_right (hrate reading hreading)
      have hleft := (hput.snapshot reading).1
      cases blocked <;>
        simp [count, ThroughputCounters.recordGet, hm, ThroughputCounters.snapshot, hright, hleft]
  | created => exact ⟨rfl, fun _ => ⟨hput, hget⟩, fun h => (by cases h)⟩
  | fullWait => exact ⟨rfl, fun _ => ⟨hput, hget⟩, fun h => (by cases h)⟩
  | emptyWait => exact ⟨rfl, fun _ => ⟨hput, hget⟩, fun h => (by cases h)⟩
  | taskDone => exact ⟨rfl, fun _ => ⟨hput, hget⟩, fun h => (by cases h)⟩
  | cancelled operation waitSeconds =>
    cases operation <;> exact ⟨rfl, fun _ => ⟨hput, hget⟩, fun h => (by cases h)⟩

/-- An event that reaches a resting state does not raise; it leaves the state resting unless it
    is a transfer, and a reading at its time notices a transfer. -/
theorem Resting.applyEvent (h : Resting s) (event : QueueEvent) (seconds : ℚ) :
    (∃ outcome, (s.applyEvent event seconds).1 = some outcome ∧ outcome.accepted = true) ∧
      (event.kind.isTransfer = false → Resting (s.applyEvent event seconds).2) ∧
      (event.kind.isTransfer = true → ∀ reading, reading = none ∨ reading = some seconds →
        velocityRatio ((s.applyEvent event seconds).2.throughput.snapshot reading).1.putRate
          ((s.applyEvent event seconds).2.throughput.snapshot reading).1.getRate = 1) := by
  have hreports := reports_applyEvent h.live event seconds
  obtain ⟨hraised, hkept, hmoved⟩ :=
    (s.report event.snapshot).count_fresh h.putRate h.getRate event.kind seconds
  revert hreports
  unfold QueueAggregateState.applyEvent
  rw [h.live]
  simp only [Bool.false_eq_true, if_false]
  generalize (s.report event.snapshot).count event.kind seconds = counted at hraised hkept hmoved ⊢
  obtain ⟨raised, s'⟩ := counted
  dsimp only at hraised
  subst hraised
  obtain ⟨saturated, heq⟩ := s'.markSaturation_eq
  dsimp only
  rw [heq]
  intro hreports
  refine ⟨⟨_, rfl, rfl⟩, fun htransfer => ?_, fun htransfer => hmoved htransfer⟩
  obtain ⟨hput, hget⟩ := hkept htransfer
  refine ⟨hreports.finalized.trans h.live, ?_, hput, hget⟩
  obtain ⟨flag, hpressure⟩ := hreports.pressure
  rw [hpressure, h.pressure]

/-- What a reading shows of a state that was resting: the score and the level. -/
theorem snapshot_pressure (hproducers : 0 ≤ s.contention.blockedProducers)
    (hconsumers : 0 ≤ s.contention.blockedConsumers) (hlevel : s.pressure.level = .calm)
    {reading : Option ℚ} (hscore : (s.snapshot reading).2.pressure.lastScore = 0)
    (hcalm : (s.snapshot reading).2.pressure.level = .calm) :
    Unnoticed s ∧ velocityRatio (s.throughput.snapshot reading).1.putRate
      (s.throughput.snapshot reading).1.getRate = 0 := by
  simp only [QueueAggregateState.snapshot, PressureScorer.evaluate] at hscore hcalm
  rw [hscore, hlevel] at hcalm
  obtain ⟨hwarning, hcritical⟩ := classify_calm_zero_iff.mp hcalm
  obtain ⟨hratio, hproducers', hconsumers', hvelocity⟩ :=
    (computeScore_eq_zero_iff hproducers hconsumers).mp hscore
  exact ⟨⟨occupancyRatio_le_zero_iff.mp hratio, hproducers', hconsumers', hwarning, hcritical⟩,
    hvelocity⟩

/-- A reading right after an event is noticed unless the event is no transfer and there is nothing
    else to notice. -/
theorem Resting.unnoticed_of_reading (h : Resting s) {event : QueueEvent} {seconds : ℚ}
    {reading : Option ℚ} (hreading : reading = none ∨ reading = some seconds)
    (hscore : ((s.applyEvent event seconds).2.snapshot reading).2.pressure.lastScore = 0)
    (hcalm : ((s.applyEvent event seconds).2.snapshot reading).2.pressure.level = .calm) :
    event.kind.isTransfer = false ∧ Unnoticed (s.applyEvent event seconds).2 := by
  have hreports := reports_applyEvent h.live event seconds
  obtain ⟨-, -, hmoved⟩ := h.applyEvent event seconds
  have hlevel : (s.applyEvent event seconds).2.pressure.level = .calm := by
    obtain ⟨flag, hpressure⟩ := hreports.pressure
    rw [hpressure, h.pressure]
  obtain ⟨hquiet, hvelocity⟩ := snapshot_pressure (by rw [hreports.producers]; exact le_max_left _ _)
    (by rw [hreports.consumers]; exact le_max_left _ _) hlevel hscore hcalm
  refine ⟨?_, hquiet⟩
  cases htransfer : event.kind.isTransfer with
  | false => rfl
  | true =>
    rw [hmoved htransfer reading hreading] at hvelocity
    exact absurd hvelocity one_ne_zero

end QueueAggregateState

end AsyncViz.Instrumentation.QueueMetrics
