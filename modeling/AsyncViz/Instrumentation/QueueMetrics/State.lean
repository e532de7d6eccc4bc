/-
  AsyncViz.Instrumentation.QueueMetrics.State

  `QueueAggregateState` (`queue_metrics_state.py`): what one event does to a queue's aggregate,
  and the snapshot, which evaluates the pressure and moves the rate meters on.
-/

import AsyncViz.Instrumentation.QueueMetrics.Models

namespace AsyncViz.Instrumentation.QueueMetrics

open AsyncViz.Lib AsyncViz.Runtime.Metrics

/-- `ApplyOutcome.contention_kind`. -/
inductive ContentionKind where
  | producers
  | consumers
  | both
deriving DecidableEq, Repr

/-- `ApplyOutcome`. -/
structure ApplyOutcome where
  accepted : Bool := false
  eventsSinceLastEmission : Nat := 0
  occupancyChanged : Bool := false
  blockedTransitioned : Bool := false
  contentionKind : ContentionKind := .producers
  saturationEntered : Bool := false
  saturationExited : Bool := false

/-- `_blocked_transition(...)`. -/
def blockedTransition (prevProducers prevConsumers nowProducers nowConsumers threshold : Int) :
    Bool × ContentionKind :=
  let producersCrossed := prevProducers < threshold ∧ threshold ≤ nowProducers
  let consumersCrossed := prevConsumers < threshold ∧ threshold ≤ nowConsumers
  if producersCrossed ∧ consumersCrossed then (true, .both)
  else if producersCrossed then (true, .producers)
  else if consumersCrossed then (true, .consumers)
  else (false, .producers)

/-- `QueueAggregateState`. -/
structure QueueAggregateState where
  queueId : String
  queueKind : String
  maxsize : Int
  config : QueueMetricsConfig
  revision : Nat := 0
  lastEmittedRevision : Nat := 0
  lastEmitMonotonic : ℚ := 0
  lastObservedSize : Int := 0
  occupancy : OccupancyWindow
  throughput : ThroughputCounters
  contention : ContentionTracker := {}
  pressure : PressureScorer := {}
  putWait : WaitDigest
  getWait : WaitDigest
  finalized : Bool := false
  lastEmittedLevel : PressureLevel := .calm

namespace QueueAggregateState

theorem toNat_pos {n : Int} (h : 1 ≤ n) : 0 < n.toNat := by omega

/-- The windows and the reservoir hold something; otherwise `__post_init__` raises. -/
def Sized (config : QueueMetricsConfig) : Prop :=
  1 ≤ config.occupancyWindowSize ∧ 1 ≤ config.throughputWindowSeconds ∧
    1 ≤ config.waitReservoirSize

instance (config : QueueMetricsConfig) : Decidable (Sized config) :=
  inferInstanceAs (Decidable (_ ∧ _ ∧ _))

/-- `QueueAggregateState(...)`; `none` is the `ValueError` of a window without room. -/
def new? (queueId queueKind : String) (maxsize : Int) (config : QueueMetricsConfig) :
    Option QueueAggregateState :=
  if h : Sized config then
    some
      { queueId := queueId
        queueKind := queueKind
        maxsize := maxsize
        config := config
        occupancy := { samples := .empty config.occupancyWindowSize.toNat }
        throughput :=
          { putRate := .new config.throughputWindowSeconds.toNat (toNat_pos h.2.1)
            getRate := .new config.throughputWindowSeconds.toNat (toNat_pos h.2.1) }
        putWait := { capacity := config.waitReservoirSize.toNat }
        getWait := { capacity := config.waitReservoirSize.toNat } }
  else none

/-- `_occupancy_ratio()`. -/
def occupancyRatio (s : QueueAggregateState) : ℚ :=
  if s.maxsize ≤ 0 then 0 else clamp (s.lastObservedSize / s.maxsize)

/-! ## Apply -/

/-- The first part of `apply_event`: what every event reports of its queue. -/
def report (s : QueueAggregateState) (snapshot : SnapshotFields) : QueueAggregateState :=
  let sizeNow := snapshot.size.getD s.lastObservedSize
  { s with
    revision := s.revision + 1
    occupancy := if sizeNow ≠ s.lastObservedSize then s.occupancy.observe sizeNow else s.occupancy
    lastObservedSize := sizeNow
    maxsize := match snapshot.maxsize with
      | some maxsize => if maxsize > 0 then maxsize else s.maxsize
      | none => s.maxsize
    contention := s.contention.updateBlocked (snapshot.blockedPutters.getD 0)
      (snapshot.blockedGetters.getD 0) }

/-- The middle part of `apply_event`, by the class of the event, and whether a meter raises: the
    rest of the event is lost then. -/
def count (s : QueueAggregateState) (kind : QueueEventKind) (monotonicSeconds : ℚ) :
    Bool × QueueAggregateState :=
  match kind with
  | .created => (false, s)
  | .put nowait blocked waitSeconds =>
    let (raised, throughput) := s.throughput.recordPut monotonicSeconds nowait
    let s := { s with throughput := throughput }
    if raised then (true, s)
    else if blocked then
      (false,
        { s with
          contention := { s.contention with blockedPutCount := s.contention.blockedPutCount + 1 }
          putWait := s.putWait.observeWait waitSeconds })
    else (false, s)
  | .get nowait blocked waitSeconds =>
    let (raised, throughput) := s.throughput.recordGet monotonicSeconds nowait
    let s := { s with throughput := throughput }
    if raised then (true, s)
    else if blocked then
      (false,
        { s with
          contention := { s.contention with blockedGetCount := s.contention.blockedGetCount + 1 }
          getWait := s.getWait.observeWait waitSeconds })
    else (false, s)
  | .fullWait =>
    (false,
      { s with contention := { s.contention with fullWaitCount := s.contention.fullWaitCount + 1 } })
  | .emptyWait =>
    (false,
      { s with
        contention := { s.contention with emptyWaitCount := s.contention.emptyWaitCount + 1 } })
  | .taskDone =>
    (false,
      { s with throughput := { s.throughput with taskDoneCount := s.throughput.taskDoneCount + 1 } })
  | .cancelled operation waitSeconds =>
    let s :=
      { s with
        throughput := { s.throughput with cancelledCount := s.throughput.cancelledCount + 1 }
        contention := { s.contention with cancelledCount := s.contention.cancelledCount + 1 } }
    match operation with
    | .put => (false, { s with putWait := s.putWait.observeWait waitSeconds })
    | .get => (false, { s with getWait := s.getWait.observeWait waitSeconds })

/-- The last part of `apply_event`: saturation is armed and re-armed. -/
def markSaturation (s : QueueAggregateState) : QueueAggregateState :=
  let ratio := s.occupancyRatio
  let entered := ratio ≥ s.config.saturationThreshold ∧ s.pressure.saturated = false
  let exited := s.pressure.saturated = true ∧ ratio < s.config.saturationRecoveryThreshold
  let s := if entered then { s with pressure := { s.pressure with saturated := true } } else s
  if exited then { s with pressure := { s.pressure with saturated := false } } else s

/-- `state.apply_event(event)`; an outcome of `none` is the `IndexError` of a rate meter, which
    leaves the state as it is by then. -/
def applyEvent (s : QueueAggregateState) (event : QueueEvent) (monotonicSeconds : ℚ) :
    Option ApplyOutcome × QueueAggregateState :=
  if s.finalized then (some {}, s)
  else
    match (s.report event.snapshot).count event.kind monotonicSeconds with
    | (true, s') => (none, s')
    | (false, s') =>
      let (transitioned, kind) := blockedTransition s.contention.blockedProducers
        s.contention.blockedConsumers s'.contention.blockedProducers
        s'.contention.blockedConsumers s.config.contentionBlockedThreshold
      let ratio := s'.occupancyRatio
      (some
        { accepted := true
          eventsSinceLastEmission := s'.revision - s'.lastEmittedRevision
          occupancyChanged :=
            event.snapshot.size.getD s.lastObservedSize ≠ s.lastObservedSize
          blockedTransitioned := transitioned
          contentionKind := kind
          saturationEntered :=
            ratio ≥ s.config.saturationThreshold ∧ s.pressure.saturated = false
          saturationExited :=
            s.pressure.saturated = true ∧ ratio < s.config.saturationRecoveryThreshold },
        s'.markSaturation)

/-! ## Snapshot -/

/-- `state.snapshot(...)`: it scores the pressure from the level of the last evaluation. -/
def snapshot (s : QueueAggregateState) (monotonicSeconds : Option ℚ) :
    QueueMetricsRecord × QueueAggregateState :=
  let ratio := s.occupancyRatio
  let (throughputSnap, throughput) := s.throughput.snapshot monotonicSeconds
  let (pressureSnap, pressure) := s.pressure.evaluate s.config ratio
    s.contention.blockedProducers s.contention.blockedConsumers throughputSnap.putRate
    throughputSnap.getRate
  ({ queueId := s.queueId
     queueKind := s.queueKind
     maxsize := s.maxsize
     sequence := s.revision
     occupancy :=
       { currentSize := s.lastObservedSize
         peakSize := s.occupancy.peak
         occupancyRatio := ratio
         meanOccupancy := s.occupancy.mean
         sampleCount := s.occupancy.samples.items.length }
     throughput := throughputSnap
     contention := s.contention
     pressure := pressureSnap
     putWait := s.putWait.snapshot
     getWait := s.getWait.snapshot },
    { s with throughput := throughput, pressure := pressure })

/-- `state.mark_emitted(...)`. -/
def markEmitted (s : QueueAggregateState) (monotonicSeconds : ℚ) : QueueAggregateState :=
  { s with lastEmittedRevision := s.revision, lastEmitMonotonic := monotonicSeconds }

/-- `state.finalize()`. -/
def finalize (s : QueueAggregateState) : QueueAggregateState := { s with finalized := true }

end QueueAggregateState

end AsyncViz.Instrumentation.QueueMetrics
