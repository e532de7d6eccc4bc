/-
  AsyncViz.Instrumentation.QueueMetrics.Engine

  `QueueMetricsEngine` (`queue_metrics_engine.py`): the live path, which builds a snapshot after
  every event to see what it has to emit, the silent rebuild, and the reads.
-/

import AsyncViz.Lib.Dict
import AsyncViz.Instrumentation.QueueMetrics.State

namespace AsyncViz.Instrumentation.QueueMetrics

open AsyncViz.Lib

/-- `DeltaKind`, as far as the engine sends them. -/
inductive DeltaKind where
  | updated
  | pressureChanged
  | contentionDetected
  | saturationDetected
deriving DecidableEq, Repr

/-- `QueueMetricsDelta`, with the levels of a transition. -/
structure QueueMetricsDelta where
  kind : DeltaKind
  queueId : String
  record : QueueMetricsRecord
  previousLevel : Option PressureLevel
  newLevel : Option PressureLevel

/-- What goes to the listeners, and what goes to the bus (the event of the kind, with the record
    that its fields are taken from). -/
inductive Emission where
  | delta (delta : QueueMetricsDelta)
  | publish (kind : DeltaKind) (record : QueueMetricsRecord)

/-- `QueueMetricsEngine`. -/
structure QueueMetricsEngine where
  config : QueueMetricsConfig
  states : Dict String QueueAggregateState := .empty

/-! ## Emission -/

/-- The state while `_maybe_emit` runs, and what has been emitted. -/
abbrev Emitting := QueueAggregateState × List Emission

/-- `_emit_delta`: the listeners are told, and the level counts as the last one emitted. -/
def emitDelta (kind : DeltaKind) (record : QueueMetricsRecord)
    (previousLevel newLevel : Option PressureLevel) (e : Emitting) : Emitting :=
  ({ e.1 with lastEmittedLevel := record.pressure.level },
    e.2 ++ [.delta ⟨kind, e.1.queueId, record, previousLevel, newLevel⟩])

/-- `_should_emit_update`. -/
def shouldEmitUpdate (s : QueueAggregateState) (monotonicSeconds : ℚ) : Bool :=
  s.lastEmitMonotonic = 0
    || s.config.updatedMinIntervalSeconds ≤ monotonicSeconds - s.lastEmitMonotonic
    || s.config.updatedMinEventDelta ≤ ((s.revision - s.lastEmittedRevision : Nat) : Int)

/-- The pressure transition of `_maybe_emit`. -/
def emitPressure (record : QueueMetricsRecord) (e : Emitting) : Emitting :=
  let previousLevel := e.1.lastEmittedLevel
  if previousLevel ≠ record.pressure.level then
    let e := emitDelta .pressureChanged record (some previousLevel) (some record.pressure.level) e
    (e.1, e.2 ++ if e.1.config.emitPressure then [.publish .pressureChanged record] else [])
  else e

/-- The contention and the saturation edge of `_maybe_emit`: where `edge` holds, the event is
    published and the delta sent. -/
def emitEdge (edge : Bool) (kind : DeltaKind) (record : QueueMetricsRecord) (e : Emitting) :
    Emitting :=
  if edge then emitDelta kind record none none (e.1, e.2 ++ [.publish kind record]) else e

/-- The debounced update of `_maybe_emit`. -/
def emitUpdate (record : QueueMetricsRecord) (monotonicSeconds : ℚ) (e : Emitting) : Emitting :=
  if e.1.config.emitUpdated && shouldEmitUpdate e.1 monotonicSeconds then
    emitDelta .updated record none none
      (e.1.markEmitted monotonicSeconds, e.2 ++ [.publish .updated record])
  else e

/-- `_maybe_emit`. -/
def maybeEmit (s : QueueAggregateState) (outcome : ApplyOutcome) (monotonicSeconds : ℚ) :
    Emitting :=
  let (record, s) := s.snapshot (some monotonicSeconds)
  emitUpdate record monotonicSeconds
    (emitEdge (outcome.saturationEntered && s.config.emitSaturation) .saturationDetected record
      (emitEdge (outcome.blockedTransitioned && s.config.emitContention) .contentionDetected record
        (emitPressure record (s, []))))

namespace QueueMetricsEngine

/-- `getattr(event, "queue_kind", "unknown") or "unknown"`. -/
def kindOf (event : QueueEvent) : String :=
  if event.queueKind = "" then "unknown" else event.queueKind

/-- How `apply_event` ends. -/
inductive Applied where
  | applied
  | ignored
  | raised
deriving DecidableEq, Repr

/-- The state that an event goes to, a new one where the queue is not tracked yet; `none` where
    the map is full, and `some none` where the new state raises. -/
def stateFor (e : QueueMetricsEngine) (event : QueueEvent) :
    Option (Option QueueAggregateState) :=
  match e.states.get? event.queueId with
  | some s => some (some s)
  | none =>
    if (e.states.size : Int) ≥ e.config.maxTrackedQueues then none
    else
      some (QueueAggregateState.new? event.queueId (kindOf event) event.maxsize e.config)

/-- `engine.apply_event(event, emit=...)`. -/
def applyEvent (e : QueueMetricsEngine) (event : QueueEvent) (emit : Bool) :
    Applied × QueueMetricsEngine × List Emission :=
  if event.queueId = "" then (.ignored, e, [])
  else
    match e.stateFor event with
    | none => (.ignored, e, [])
    | some none => (.raised, e, [])
    | some (some s) =>
      let put (s : QueueAggregateState) : QueueMetricsEngine :=
        { e with states := e.states.set event.queueId s }
      match s.applyEvent event event.monotonicSeconds with
      | (none, s) => (.raised, put s, [])
      | (some outcome, s) =>
        if outcome.accepted then
          if emit then
            let (s, emissions) := maybeEmit s outcome event.monotonicSeconds
            (.applied, put s, emissions)
          else (.applied, put s, [])
        else (.ignored, put s, [])

/-- `engine.snapshot_queue(queue_id)`. -/
def snapshotQueue (e : QueueMetricsEngine) (queueId : String) :
    Option QueueMetricsRecord × QueueMetricsEngine :=
  match e.states.get? queueId with
  | none => (none, e)
  | some s =>
    let (record, s) := s.snapshot none
    (some record, { e with states := e.states.set queueId s })

/-- What `engine.snapshot()` does to a state: those that are not finalized are read. -/
def readState (s : QueueAggregateState) : QueueAggregateState :=
  if s.finalized then s else (s.snapshot none).2

/-- `engine.snapshot()`, the records of its queues. -/
def snapshot (e : QueueMetricsEngine) : List QueueMetricsRecord × QueueMetricsEngine :=
  ((e.states.values.filter fun s => !s.finalized).map fun s => (s.snapshot none).1,
    { e with states := e.states.mapValues readState })

/-! ## Runs -/

/-- What happens to an engine: an event comes in, or somebody reads. -/
inductive Step where
  | event (event : QueueEvent)
  | snapshotQueue (queueId : String)
  | snapshot

/-- The events among the steps. -/
def events (steps : List Step) : List QueueEvent :=
  steps.filterMap fun step =>
    match step with
    | .event event => some event
    | _ => none

/-- The live engine: the bus callback drops what raises. -/
def live (e : QueueMetricsEngine) : List Step → QueueMetricsEngine
  | [] => e
  | .event event :: steps => (e.applyEvent event true).2.1.live steps
  | .snapshotQueue queueId :: steps => (e.snapshotQueue queueId).2.live steps
  | .snapshot :: steps => e.snapshot.2.live steps

/-- The loop of `rebuild_from_events`, with reads between the events; what raises ends it, and
    the reads go on. -/
def replay (e : QueueMetricsEngine) (aborted : Bool) : List Step → QueueMetricsEngine
  | [] => e
  | .event event :: steps =>
    if aborted then e.replay aborted steps
    else
      match e.applyEvent event false with
      | (.raised, e, _) => e.replay true steps
      | (_, e, _) => e.replay false steps
  | .snapshotQueue queueId :: steps => (e.snapshotQueue queueId).2.replay aborted steps
  | .snapshot :: steps => e.snapshot.2.replay aborted steps

/-- `engine.rebuild_from_events(events)`: the old states are finalized and dropped. -/
def rebuildFromEvents (e : QueueMetricsEngine) (steps : List Step) : QueueMetricsEngine :=
  { e with states := .empty }.replay false steps

end QueueMetricsEngine

end AsyncViz.Instrumentation.QueueMetrics
