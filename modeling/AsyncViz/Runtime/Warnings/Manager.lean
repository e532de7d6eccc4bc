/-
  AsyncViz.Runtime.Warnings.Manager

  `RuntimeWarningManager` (`runtime/warnings/manager.py`) over any detectors
  (`detectors.py`, the `WarningDetector` protocol).

  A detector is two functions of the context it may read; a rate meter moves when
  it is read, so a detector also returns the aggregator it leaves behind.
  `_lifecycles` and `_by_id` share their records, so both are written at once.
  `fresh_warning_id()` is an argument: the ids are drawn from a supply.

  Every function that notifies returns the deltas a subscriber is told, in order.
-/

import AsyncViz.Runtime.Metrics.Aggregator
import AsyncViz.Runtime.Warnings.Models

namespace AsyncViz.Runtime.Warnings

open AsyncViz.Lib AsyncViz.Runtime.Metrics AsyncViz.Runtime.State AsyncViz.Runtime.Tasks

/-! ## Detectors -/

/-- `DetectorContext`. -/
structure DetectorContext where
  registry : TaskRegistry
  aggregator : Option RuntimeMetricsAggregator

/-- What an evaluation came to: its triggers, `none` when it raised, and the
    aggregator as it leaves it. -/
structure Evaluation where
  triggers : Option (List WarningTrigger)
  aggregator : Option RuntimeMetricsAggregator

/-- `WarningDetector`. -/
structure WarningDetector where
  name : String
  snapshotDriven : Bool
  evaluateEvent : DetectorContext → RuntimeEvent → Option Int → Evaluation
  evaluateSnapshot : DetectorContext → Int → Int → ℚ → Evaluation

/-! ## The manager -/

/-- `_SelfMetrics`. -/
structure WarningSelfMetrics where
  evaluationsRun : Nat := 0
  detectorFailures : Nat := 0
  warningsEmitted : Nat := 0
  warningsResolved : Nat := 0
  warningsExpired : Nat := 0
  dedupSuppressions : Nat := 0
  subscriptionDispatches : Nat := 0
  lastEventSequence : Int := 0

/-- `RuntimeWarningManager`; `freshIds` is the supply of `fresh_warning_id()`. -/
structure RuntimeWarningManager where
  runtimeId : String
  lifecycles : Dict String WarningLifecycle
  byId : Dict String WarningLifecycle
  detectors : List WarningDetector
  expiration : ExpirationPolicy
  selfMetrics : WarningSelfMetrics
  lastSequence : Int
  freshIds : Nat → String
  issued : Nat

namespace RuntimeWarningManager

/-- `RuntimeWarningManager(registry, detectors, expiration)`. -/
def new (runtimeId : String) (detectors : List WarningDetector) (expiration : ExpirationPolicy)
    (freshIds : Nat → String) : RuntimeWarningManager :=
  { runtimeId := runtimeId
    lifecycles := .empty
    byId := .empty
    detectors := detectors
    expiration := expiration
    selfMetrics := {}
    lastSequence := 0
    freshIds := freshIds
    issued := 0 }

/-- File a record under its key and its id. -/
def put (m : RuntimeWarningManager) (w : WarningLifecycle) : RuntimeWarningManager :=
  { m with
    lifecycles := m.lifecycles.set w.warningKey w
    byId := m.byId.set w.warningId w }

/-- `_notify(delta)`: count the dispatch and tell the subscriber. -/
def notify (m : RuntimeWarningManager) (w : WarningLifecycle) (change : WarningChange)
    (sequence : Option Int) : RuntimeWarningManager × List WarningDelta :=
  ({ m with selfMetrics :=
      { m.selfMetrics with subscriptionDispatches := m.selfMetrics.subscriptionDispatches + 1 } },
    [{ warning := lifecycleToActive w
       change := change
       sequence := sequence
       lastSequence := m.lastSequence }])

/-- The record of a trigger that activates. -/
def activated (m : RuntimeWarningManager) (t : WarningTrigger) : WarningLifecycle :=
  { warningId := m.freshIds m.issued
    warningKey := t.warningKey
    warningType := t.warningType
    severity := t.severity
    detector := t.detector
    message := t.message
    createdSequence := t.sequence
    createdMonotonicNs := t.monotonicNs
    createdAtWall := t.wallSeconds
    lastObservedSequence := t.sequence
    lastObservedMonotonicNs := t.monotonicNs
    lastObservedWall := t.wallSeconds
    relatedTaskIds := t.relatedTaskIds
    lineageRootId := t.lineageRootId
    metadata := t.metadata
    runtimeId := some m.runtimeId }

/-- `_apply_trigger(trigger)`. -/
def applyTrigger (m : RuntimeWarningManager) (t : WarningTrigger) :
    RuntimeWarningManager × List WarningDelta :=
  let existing := m.lifecycles.get? t.warningKey
  match evaluateDedup existing t.sequence with
  | .suppress =>
    ({ m with selfMetrics :=
        { m.selfMetrics with dedupSuppressions := m.selfMetrics.dedupSuppressions + 1 } }, [])
  | .activate =>
    let w := m.activated t
    let m := { m.put w with issued := m.issued + 1 }
    let m := { m with selfMetrics :=
      { m.selfMetrics with warningsEmitted := m.selfMetrics.warningsEmitted + 1 } }
    m.notify w .activated t.sequence
  | .refresh =>
    match existing with
    -- never taken: `evaluate_dedup` refreshes an existing record only
    | none => (m, [])
    | some existing =>
      let w := existing.markObserved t.sequence t.monotonicNs t.wallSeconds (some t.message)
      -- `existing.metadata.update(trigger.metadata)`; the severity stays as it was
      let w := { w with metadata :=
        t.metadata.entries.foldl (fun d entry => d.set entry.1 entry.2) w.metadata }
      (m.put w).notify w .deduplicated t.sequence

/-- The triggers of one evaluation, in order. -/
def applyTriggers (m : RuntimeWarningManager) (triggers : List WarningTrigger) :
    RuntimeWarningManager × List WarningDelta :=
  triggers.foldl (fun (acc : RuntimeWarningManager × List WarningDelta) t =>
    let (m, deltas) := acc.1.applyTrigger t
    (m, acc.2 ++ deltas)) (m, [])

/-- `_mark_resolved_internal(lifecycle, ...)`. -/
def markResolvedInternal (m : RuntimeWarningManager) (w : WarningLifecycle) (sequence : Option Int)
    (monotonicNs : Int) (wallSeconds : ℚ) : RuntimeWarningManager × List WarningDelta :=
  let w := w.markResolved sequence monotonicNs wallSeconds
  let m := m.put w
  let m := { m with selfMetrics :=
    { m.selfMetrics with warningsResolved := m.selfMetrics.warningsResolved + 1 } }
  m.notify w .resolved sequence

/-- Count an evaluation that returned. -/
def recordEvaluation (m : RuntimeWarningManager) : RuntimeWarningManager :=
  { m with selfMetrics :=
    { m.selfMetrics with evaluationsRun := m.selfMetrics.evaluationsRun + 1 } }

/-- Count an evaluation that raised. -/
def recordDetectorFailure (m : RuntimeWarningManager) : RuntimeWarningManager :=
  { m with selfMetrics :=
    { m.selfMetrics with detectorFailures := m.selfMetrics.detectorFailures + 1 } }

/-- The manager, the context the detectors read, and the deltas so far. -/
structure Pass where
  manager : RuntimeWarningManager
  context : DetectorContext
  deltas : List WarningDelta

/-- One detector of `apply_event`. -/
def eventPass (event : RuntimeEvent) (sequence : Option Int) (pass : Pass) (d : WarningDetector) :
    Pass :=
  let evaluation := d.evaluateEvent pass.context event sequence
  let context := { pass.context with aggregator := evaluation.aggregator }
  match evaluation.triggers with
  | none => { pass with manager := pass.manager.recordDetectorFailure, context := context }
  | some triggers =>
    let (manager, deltas) := pass.manager.recordEvaluation.applyTriggers triggers
    { manager := manager, context := context, deltas := pass.deltas ++ deltas }

/-- `manager.apply_event(event, sequence)`. -/
def applyEvent (m : RuntimeWarningManager) (ctx : DetectorContext) (event : RuntimeEvent)
    (sequence : Option Int) : Pass :=
  -- recorded behind the detectors, so their deltas still carry the old `last_sequence`
  let pass := m.detectors.foldl (eventPass event sequence) ⟨m, ctx, []⟩
  match sequence with
  | none => pass
  | some n =>
    if n > pass.manager.lastSequence then
      { pass with manager :=
        { pass.manager with
          lastSequence := n
          selfMetrics := { pass.manager.selfMetrics with lastEventSequence := n } } }
    else pass

/-- The open warnings of a snapshot-driven detector that it did not fire again. -/
def unfired (m : RuntimeWarningManager) (d : WarningDetector) (triggers : List WarningTrigger) :
    List WarningLifecycle :=
  m.lifecycles.values.filter fun w =>
    w.detector = d.name ∧ w.resolved = false ∧ w.warningKey ∉ triggers.map WarningTrigger.warningKey

/-- The auto-resolution of a snapshot-driven detector, at the manager's sequence. -/
def autoResolve (m : RuntimeWarningManager) (d : WarningDetector) (triggers : List WarningTrigger)
    (monotonicNs : Int) (wallSeconds : ℚ) : RuntimeWarningManager × List WarningDelta :=
  if d.snapshotDriven then
    (m.unfired d triggers).foldl (fun (acc : RuntimeWarningManager × List WarningDelta) w =>
      let (m, deltas) :=
        acc.1.markResolvedInternal w (some acc.1.lastSequence) monotonicNs wallSeconds
      (m, acc.2 ++ deltas)) (m, [])
  else (m, [])

/-- One detector of `evaluate`. -/
def snapshotPass (monotonicNs : Int) (wallSeconds : ℚ) (pass : Pass) (d : WarningDetector) : Pass :=
  let evaluation :=
    d.evaluateSnapshot pass.context pass.manager.lastSequence monotonicNs wallSeconds
  let context := { pass.context with aggregator := evaluation.aggregator }
  match evaluation.triggers with
  | none => { pass with manager := pass.manager.recordDetectorFailure, context := context }
  | some triggers =>
    let (manager, fired) := pass.manager.recordEvaluation.applyTriggers triggers
    let (manager, resolved) := manager.autoResolve d triggers monotonicNs wallSeconds
    { manager := manager, context := context, deltas := pass.deltas ++ fired ++ resolved }

/-- The warnings a sweep expires. -/
def expirable (m : RuntimeWarningManager) (nowMonotonicNs : Int) : List WarningLifecycle :=
  m.lifecycles.values.filter fun w => m.expiration.isExpired w nowMonotonicNs

/-- `_sweep_expired(now_monotonic_ns, now_wall)`. -/
def sweepExpired (m : RuntimeWarningManager) (nowMonotonicNs : Int) (nowWall : ℚ) :
    RuntimeWarningManager × List WarningDelta :=
  (m.expirable nowMonotonicNs).foldl (fun (acc : RuntimeWarningManager × List WarningDelta) w =>
    let w := w.markExpired nowMonotonicNs nowWall
    let m := acc.1.put w
    let m := { m with selfMetrics :=
      { m.selfMetrics with warningsExpired := m.selfMetrics.warningsExpired + 1 } }
    let (m, deltas) := m.notify w .expired (some m.lastSequence)
    (m, acc.2 ++ deltas)) (m, [])

/-- `manager.evaluate(monotonic_ns)`, at the wall-clock reading. -/
def evaluate (m : RuntimeWarningManager) (ctx : DetectorContext) (monotonicNs : Int)
    (wallSeconds : ℚ) : Pass :=
  let pass := m.detectors.foldl (snapshotPass monotonicNs wallSeconds) ⟨m, ctx, []⟩
  let (manager, expired) := pass.manager.sweepExpired monotonicNs wallSeconds
  { pass with manager := manager, deltas := pass.deltas ++ expired }

/-- `manager.resolve_warning(warning_id, sequence)`; `none` is the answer `False`. -/
def resolveWarning (m : RuntimeWarningManager) (warningId : String) (sequence : Option Int)
    (monotonicNs : Int) (wallSeconds : ℚ) : Option (RuntimeWarningManager × List WarningDelta) :=
  match m.byId.get? warningId with
  | none => none
  | some w =>
    if w.resolved then none
    else some (m.markResolvedInternal w sequence monotonicNs wallSeconds)

/-- The warning of a call that goes through has been there, unresolved. -/
theorem resolveWarning_eq_some {m m' : RuntimeWarningManager} {warningId : String}
    {sequence : Option Int} {monotonicNs : Int} {wallSeconds : ℚ} {deltas : List WarningDelta}
    (h : m.resolveWarning warningId sequence monotonicNs wallSeconds = some (m', deltas)) :
    ∃ w, m.byId.get? warningId = some w ∧ w.resolved = false ∧
      m.markResolvedInternal w sequence monotonicNs wallSeconds = (m', deltas) := by
  rw [resolveWarning] at h
  cases hget : m.byId.get? warningId with
  | none =>
    rw [hget] at h
    cases h
  | some w =>
    rw [hget] at h
    cases hresolved : w.resolved with
    | true => simp [hresolved] at h
    | false =>
      simp only [hresolved, Bool.false_eq_true, if_false, Option.some.injEq] at h
      exact ⟨w, rfl, hresolved, h⟩

end RuntimeWarningManager

end AsyncViz.Runtime.Warnings
