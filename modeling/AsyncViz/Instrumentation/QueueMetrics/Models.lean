/-
  AsyncViz.Instrumentation.QueueMetrics.Models

  The parts of a queue's aggregate (`instrumentation/queue/metrics`): the configuration, the
  occupancy window (`queue_metrics_windows.py`), throughput (`queue_metrics_throughput.py`),
  contention (`queue_metrics_contention.py`), wait digests (`queue_metrics_statistics.py`) and
  the pressure scorer (`queue_metrics_pressure.py`), each with its snapshot.

  Floats are rationals.
-/

import Mathlib.Data.List.Sort
import Mathlib.Data.Rat.Floor
import AsyncViz.Lib.BoundedRing
import AsyncViz.Runtime.Metrics.Rates

namespace AsyncViz.Instrumentation.QueueMetrics

open AsyncViz.Lib AsyncViz.Runtime.Metrics

/-! ## Configuration and events -/

/-- `QueueMetricsConfig`; nothing checks its values. -/
structure QueueMetricsConfig where
  throughputWindowSeconds : Int := 30
  occupancyWindowSize : Int := 256
  waitReservoirSize : Int := 256
  emitUpdated : Bool := true
  emitPressure : Bool := true
  emitContention : Bool := true
  emitSaturation : Bool := true
  updatedMinIntervalSeconds : ℚ := 1
  updatedMinEventDelta : Int := 16
  pressureWarningThreshold : ℚ := 65 / 100
  pressureCriticalThreshold : ℚ := 85 / 100
  pressureHysteresis : ℚ := 5 / 100
  saturationThreshold : ℚ := 9 / 10
  saturationRecoveryThreshold : ℚ := 75 / 100
  contentionBlockedThreshold : Int := 1
  maxTrackedQueues : Int := 4096

/-- The keys of an event's `snapshot` that the aggregate reads; `none` where a key is missing. -/
structure SnapshotFields where
  size : Option Int
  maxsize : Option Int
  blockedPutters : Option Int
  blockedGetters : Option Int

/-- `QueueCancelledEvent.operation`. -/
inductive Operation where
  | put
  | get
deriving DecidableEq, Repr

/-- The seven raw queue events. -/
inductive QueueEventKind where
  | created
  | put (nowait blocked : Bool) (waitSeconds : Option ℚ)
  | get (nowait blocked : Bool) (waitSeconds : Option ℚ)
  | fullWait
  | emptyWait
  | taskDone
  | cancelled (operation : Operation) (waitSeconds : Option ℚ)

/-- A raw queue event. -/
structure QueueEvent where
  queueId : String
  queueKind : String
  maxsize : Int
  monotonicNs : Int
  snapshot : SnapshotFields
  kind : QueueEventKind

/-- `float(event.monotonic_ns) / 1_000_000_000`. -/
def QueueEvent.monotonicSeconds (e : QueueEvent) : ℚ := e.monotonicNs / 1000000000

/-! ## Occupancy -/

/-- `OccupancyWindow`. -/
structure OccupancyWindow where
  samples : BoundedRing Int
  peak : Int := 0
  sum : Int := 0

namespace OccupancyWindow

/-- `window.observe(size)`. -/
def observe (w : OccupancyWindow) (size : Int) : OccupancyWindow :=
  let size := if size < 0 then 0 else size
  let sum := if w.samples.items.length = w.samples.capacity then w.sum - w.samples.items.headD 0
    else w.sum
  { samples := w.samples.push size
    peak := if size > w.peak then size else w.peak
    sum := sum + size }

/-- `window.mean()`. -/
def mean (w : OccupancyWindow) : ℚ :=
  if w.samples.items = [] then 0 else w.sum / w.samples.items.length

end OccupancyWindow

/-- `QueueOccupancySnapshot`. -/
structure QueueOccupancySnapshot where
  currentSize : Int
  peakSize : Int
  occupancyRatio : ℚ
  meanOccupancy : ℚ
  sampleCount : Nat

/-! ## Throughput -/

/-- `ThroughputCounters`. -/
structure ThroughputCounters where
  putRate : RateMeter
  getRate : RateMeter
  putCount : Nat := 0
  getCount : Nat := 0
  nowaitPutCount : Nat := 0
  nowaitGetCount : Nat := 0
  taskDoneCount : Nat := 0
  cancelledCount : Nat := 0

/-- `QueueThroughputSnapshot`. -/
structure QueueThroughputSnapshot where
  putCount : Nat
  getCount : Nat
  putRate : ℚ
  getRate : ℚ
  producerConsumerDelta : Int
  taskDoneCount : Nat
  nowaitPutCount : Nat
  nowaitGetCount : Nat
  cancelledCount : Nat

namespace ThroughputCounters

/-- `throughput.record_put(...)`: the counters as they are left, and whether the meter raises. -/
def recordPut (t : ThroughputCounters) (monotonicSeconds : ℚ) (nowait : Bool) :
    Bool × ThroughputCounters :=
  let t :=
    { t with
      putCount := t.putCount + 1
      nowaitPutCount := if nowait then t.nowaitPutCount + 1 else t.nowaitPutCount }
  match t.putRate.observe monotonicSeconds 1 with
  | some putRate => (false, { t with putRate := putRate })
  | none => (true, t)

/-- `throughput.record_get(...)`. -/
def recordGet (t : ThroughputCounters) (monotonicSeconds : ℚ) (nowait : Bool) :
    Bool × ThroughputCounters :=
  let t :=
    { t with
      getCount := t.getCount + 1
      nowaitGetCount := if nowait then t.nowaitGetCount + 1 else t.nowaitGetCount }
  match t.getRate.observe monotonicSeconds 1 with
  | some getRate => (false, { t with getRate := getRate })
  | none => (true, t)

/-- `throughput.snapshot(...)`: both meters move up to the reading. -/
def snapshot (t : ThroughputCounters) (monotonicSeconds : Option ℚ) :
    QueueThroughputSnapshot × ThroughputCounters :=
  let (put, putRate) := t.putRate.snapshot monotonicSeconds
  let (get, getRate) := t.getRate.snapshot monotonicSeconds
  ({ putCount := t.putCount
     getCount := t.getCount
     putRate := put.ratePerSecond
     getRate := get.ratePerSecond
     producerConsumerDelta := t.putCount - t.getCount
     taskDoneCount := t.taskDoneCount
     nowaitPutCount := t.nowaitPutCount
     nowaitGetCount := t.nowaitGetCount
     cancelledCount := t.cancelledCount },
    { t with putRate := putRate, getRate := getRate })

end ThroughputCounters

/-! ## Contention -/

/-- `ContentionTracker`, which is its own snapshot. -/
structure ContentionTracker where
  blockedProducers : Int := 0
  blockedConsumers : Int := 0
  blockedPutCount : Nat := 0
  blockedGetCount : Nat := 0
  fullWaitCount : Nat := 0
  emptyWaitCount : Nat := 0
  cancelledCount : Nat := 0
  peakBlockedProducers : Int := 0
  peakBlockedConsumers : Int := 0

/-- `contention.update_blocked(...)`. -/
def ContentionTracker.updateBlocked (c : ContentionTracker) (producers consumers : Int) :
    ContentionTracker :=
  let producers := if producers < 0 then 0 else producers
  let consumers := if consumers < 0 then 0 else consumers
  { c with
    blockedProducers := producers
    blockedConsumers := consumers
    peakBlockedProducers :=
      if producers > c.peakBlockedProducers then producers else c.peakBlockedProducers
    peakBlockedConsumers :=
      if consumers > c.peakBlockedConsumers then consumers else c.peakBlockedConsumers }

/-! ## Wait digests -/

/-- `WaitDigest`. -/
structure WaitDigest where
  capacity : Nat
  count : Nat := 0
  sumSeconds : ℚ := 0
  maxSeconds : ℚ := 0
  ringIndex : Nat := 0
  samples : List ℚ := []

/-- `QueueWaitSnapshot`. -/
structure QueueWaitSnapshot where
  count : Nat := 0
  meanSeconds : ℚ := 0
  p50Seconds : ℚ := 0
  p95Seconds : ℚ := 0
  p99Seconds : ℚ := 0
  maxSeconds : ℚ := 0

/-- `_percentile(sorted_samples, q)`. -/
def percentile (sortedSamples : List ℚ) (q : ℚ) : ℚ :=
  if q ≤ 0 then sortedSamples.headD 0
  else if q ≥ 1 then sortedSamples.getLastD 0
  else
    let index := (q * sortedSamples.length).floor.toNat
    sortedSamples.getD (min index (sortedSamples.length - 1)) 0

namespace WaitDigest

/-- `digest.observe(seconds)`. -/
def observe (d : WaitDigest) (seconds : ℚ) : WaitDigest :=
  let seconds := if seconds < 0 then 0 else seconds
  let d :=
    { d with
      count := d.count + 1
      sumSeconds := d.sumSeconds + seconds
      maxSeconds := if seconds > d.maxSeconds then seconds else d.maxSeconds }
  if d.samples.length < d.capacity then { d with samples := d.samples ++ [seconds] }
  else
    { d with
      samples := d.samples.set d.ringIndex seconds
      ringIndex := (d.ringIndex + 1) % d.capacity }

/-- `if wait_seconds is not None: digest.observe(wait_seconds)`. -/
def observeWait (d : WaitDigest) : Option ℚ → WaitDigest
  | some seconds => d.observe seconds
  | none => d

/-- `digest.snapshot()`. -/
def snapshot (d : WaitDigest) : QueueWaitSnapshot :=
  if d.count = 0 then {}
  else
    let mean := d.sumSeconds / d.count
    if d.samples = [] then { count := d.count, meanSeconds := mean }
    else
      let ordered := d.samples.mergeSort (· ≤ ·)
      { count := d.count
        meanSeconds := mean
        p50Seconds := percentile ordered (50 / 100)
        p95Seconds := percentile ordered (95 / 100)
        p99Seconds := percentile ordered (99 / 100)
        maxSeconds := d.maxSeconds }

end WaitDigest

/-! ## Pressure -/

/-- `PressureLevel`. -/
inductive PressureLevel where
  | calm
  | warning
  | critical
deriving DecidableEq, Repr

/-- `PressureScorer`, without its configuration. -/
structure PressureScorer where
  level : PressureLevel := .calm
  saturated : Bool := false
  lastScore : ℚ := 0
  saturationRatio : ℚ := 0
  lastBacklogVelocity : ℚ := 0

/-- `QueuePressureSnapshot`. -/
structure QueuePressureSnapshot where
  pressureScore : ℚ
  level : PressureLevel
  saturationRatio : ℚ
  saturated : Bool
  backlogVelocity : ℚ

/-- `max(0.0, min(1.0, x))`. -/
def clamp (x : ℚ) : ℚ := max 0 (min 1 x)

/-- `velocity_ratio` of `_compute_score`. -/
def velocityRatio (putRate getRate : ℚ) : ℚ :=
  let totalRate := putRate + getRate
  if totalRate ≤ 0 then 0 else min 1 (|putRate - getRate| / totalRate)

/-- `scorer._compute_score(...)`. -/
def computeScore (occupancyRatio : ℚ) (blockedProducers blockedConsumers : Int)
    (putRate getRate : ℚ) : ℚ :=
  let blockedRatio : ℚ := min 1 ((blockedProducers + blockedConsumers : Int) / 16)
  clamp (clamp occupancyRatio * (55 / 100) + blockedRatio * (30 / 100)
    + velocityRatio putRate getRate * (15 / 100))

/-- `scorer._classify(score)`, from the level that the scorer is in. -/
def classify (config : QueueMetricsConfig) (level : PressureLevel) (score : ℚ) : PressureLevel :=
  let warn := config.pressureWarningThreshold
  let crit := config.pressureCriticalThreshold
  let hyst := config.pressureHysteresis
  match level with
  | .calm => if score ≥ crit then .critical else if score ≥ warn then .warning else .calm
  | .warning => if score ≥ crit then .critical else if score < warn - hyst then .calm else .warning
  | .critical =>
    if score < crit - hyst then (if score ≥ warn - hyst then .warning else .calm) else .critical

namespace PressureScorer

/-- `scorer.evaluate(...)`. -/
def evaluate (p : PressureScorer) (config : QueueMetricsConfig) (occupancyRatio : ℚ)
    (blockedProducers blockedConsumers : Int) (putRate getRate : ℚ) :
    QueuePressureSnapshot × PressureScorer :=
  let score := computeScore occupancyRatio blockedProducers blockedConsumers putRate getRate
  let p :=
    { p with
      level := classify config p.level score
      lastScore := score
      lastBacklogVelocity := putRate - getRate
      saturationRatio :=
        if occupancyRatio > p.saturationRatio then occupancyRatio else p.saturationRatio }
  (⟨score, p.level, p.saturationRatio, p.saturated, p.lastBacklogVelocity⟩, p)

end PressureScorer

/-- `QueueMetricsRecord`. -/
structure QueueMetricsRecord where
  queueId : String
  queueKind : String
  maxsize : Int
  sequence : Nat
  occupancy : QueueOccupancySnapshot
  throughput : QueueThroughputSnapshot
  contention : ContentionTracker
  pressure : QueuePressureSnapshot
  putWait : QueueWaitSnapshot
  getWait : QueueWaitSnapshot

end AsyncViz.Instrumentation.QueueMetrics
