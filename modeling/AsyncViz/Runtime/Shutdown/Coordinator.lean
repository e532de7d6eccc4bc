/-
  AsyncViz.Runtime.Shutdown.Coordinator

  `RuntimeShutdownCoordinator` (`runtime/shutdown/{coordinator,status,metrics}.py`) with the
  cancellation attribution that it switches on and off (`instrumentation/asyncio/context.py`).

  The coroutine of `run` is a program point (`Point`) that one `advance` moves to the next;
  what the code reads on the way, and how the call that it awaits ends, is in the `Reads` of
  that step.  Where the coroutine is suspended, another task may call `request_shutdown` or
  `run`, the budget of the phase or of the whole shutdown may run out, and the task that runs
  it may be cancelled.

  `_lock` is left out: `_running` is claimed before it, so that nobody ever waits for it.
  The body of the second phase does not await; that its budget runs out stands for a budget
  that is not positive.
-/

import AsyncViz.Lib.Transition

namespace AsyncViz.Runtime.Shutdown

open AsyncViz.Lib.Transition

/-! ## Phases, timings, reports -/

/-- `ShutdownPhase`. -/
inductive ShutdownPhase where
  | idle
  | draining
  | finalizing
  | stopping
  | stopped
  | failed
deriving DecidableEq, Repr

/-- `is_terminal`. -/
def isTerminal (phase : ShutdownPhase) : Bool :=
  phase = .stopped ∨ phase = .failed

/-- `is_in_progress`. -/
def isInProgress (phase : ShutdownPhase) : Bool :=
  phase = .draining ∨ phase = .finalizing ∨ phase = .stopping

/-- `PhaseTiming`. -/
structure PhaseTiming where
  phase : ShutdownPhase
  durationNs : Int
  timedOut : Bool
deriving DecidableEq, Repr

/-- `ShutdownReport`. -/
structure ShutdownReport where
  finalPhase : ShutdownPhase
  reason : String
  triggeredAtMonotonicNs : Int
  finishedAtMonotonicNs : Int
  totalDurationNs : Int
  phaseTimings : List PhaseTiming
  timeoutsTotal : Nat
  forcedDisconnects : Nat
  forcedCancellations : Nat
  checkpointId : Option String
  snapshotId : Option String
  finalSequence : Option Nat
  errors : List String
deriving DecidableEq, Repr

/-- `ShutdownReport.succeeded`. -/
def ShutdownReport.succeeded (report : ShutdownReport) : Bool :=
  report.finalPhase = .stopped

/-- `ShutdownMetrics`. -/
structure ShutdownMetrics where
  currentPhase : ShutdownPhase
  shutdownsRequested : Nat
  shutdownsCompleted : Nat
  shutdownsFailed : Nat
  timeoutsTotal : Nat
  forcedDisconnects : Nat
  forcedCancellations : Nat
  lastTotalDurationNs : Int
  maxTotalDurationNs : Int
deriving DecidableEq, Repr

namespace ShutdownMetrics

/-- `ShutdownMetrics()`. -/
def initial : ShutdownMetrics := ⟨.idle, 0, 0, 0, 0, 0, 0, 0, 0⟩

/-- `set_phase`. -/
def setPhase (m : ShutdownMetrics) (phase : ShutdownPhase) : ShutdownMetrics :=
  { m with currentPhase := phase }

/-- `record_request`. -/
def recordRequest (m : ShutdownMetrics) : ShutdownMetrics :=
  { m with shutdownsRequested := m.shutdownsRequested + 1 }

/-- `record_completion`. -/
def recordCompletion (m : ShutdownMetrics) (report : ShutdownReport) : ShutdownMetrics :=
  { m with
    shutdownsCompleted := if report.succeeded then m.shutdownsCompleted + 1
      else m.shutdownsCompleted
    shutdownsFailed := if report.succeeded then m.shutdownsFailed else m.shutdownsFailed + 1
    timeoutsTotal := m.timeoutsTotal + report.timeoutsTotal
    forcedDisconnects := m.forcedDisconnects + report.forcedDisconnects
    forcedCancellations := m.forcedCancellations + report.forcedCancellations
    lastTotalDurationNs := report.totalDurationNs
    maxTotalDurationNs := max report.totalDurationNs m.maxTotalDurationNs }

end ShutdownMetrics

/-! ## The services -/

/-- What `_stop_services` stops. -/
inductive Service where
  | patcher
  | queuePatcher
  | semaphorePatcher
  | gatherPatcher
  | executorPatcher
  | queueMetricsEngine
  | executorMetricsEngine
  | blockingWarningEmitter
  | stackCaptureEngine
  | blockingDetector
  | lagMonitor
  | streaming
  | bridge
  | eventBus
  | eventQueue
  | taskRegistry
deriving DecidableEq, Repr

/-- Whether `_stop_services` awaits the call that stops the service. -/
def Service.awaited : Service → Bool
  | .blockingWarningEmitter | .stackCaptureEngine | .blockingDetector | .lagMonitor => true
  | .bridge | .eventBus | .eventQueue | .taskRegistry => true
  | _ => false

/-- The order of `_stop_services`. -/
def canonicalOrder : List Service :=
  [.patcher, .queuePatcher, .semaphorePatcher, .gatherPatcher, .executorPatcher,
    .queueMetricsEngine, .executorMetricsEngine, .blockingWarningEmitter, .stackCaptureEngine,
    .blockingDetector, .lagMonitor, .streaming, .bridge, .eventBus, .eventQueue, .taskRegistry]

/-- How the coordinator was built: whether there is a total budget, and which of the parts
    that may be missing are there. -/
structure Setup where
  hasTotal : Bool
  wired : Service → Bool

/-- The services that `_stop_services` finds. -/
def Setup.services (setup : Setup) : List Service :=
  canonicalOrder.filter setup.wired

/-! ## The coroutine of `run` -/

/-- Where `run` stands.  `started` is the phase's `started_ns`, `timedOut` whether the stop
    budget ran out. -/
inductive Point where
  | entering (reason : String)
  | drainStart
  | broadcasting (started : Int)
  | notifying (started : Int)
  | joining (started : Int)
  | finalizeStart
  | capturing (started : Int)
  | stopStart
  | betweenServices (started : Int) (left : List Service)
  | awaitingService (started : Int) (left : List Service)
  | forcing (started : Int) (timedOut : Bool)
  | disconnecting (started : Int) (timedOut : Bool) (clients : Nat)
  | leaving (finalPhase : ShutdownPhase)
deriving DecidableEq, Repr

/-- The coroutine awaits here, so that other tasks run. -/
def Point.suspended : Point → Bool
  | .broadcasting _ | .notifying _ | .joining _ | .capturing _ => true
  | .awaitingService _ _ | .disconnecting _ _ _ => true
  | _ => false

/-- What one step of the coroutine reads: the clock, `client_count` (`none` when the
    property raises), the text of the exception that the awaited call or the step raised, and
    the artifacts that were captured, with their sequences. -/
structure Reads where
  now : Int
  clientCount : Option Nat
  raised : Option String
  checkpoint : Except String (String × Nat)
  snapshot : Except String (String × Nat)

/-- The text of what a step raised. -/
def Reads.text (reads : Reads) : String :=
  reads.raised.getD ""

/-- `RuntimeShutdownCoordinator`, with the attribution flag of the patcher, whether the
    exception filter is in place, how often `mark_stopped` was called, and the services whose
    stop was called. -/
structure Coordinator where
  phase : ShutdownPhase
  metrics : ShutdownMetrics
  reason : Option String
  triggeredAtMonotonicNs : Int
  report : Option ShutdownReport
  running : Bool
  phaseTimings : List PhaseTiming
  timeoutsTotal : Nat
  forcedDisconnects : Nat
  forcedCancellations : Nat
  checkpointId : Option String
  snapshotId : Option String
  finalSequence : Option Nat
  errors : List String
  shutdownInProgress : Bool
  filterInstalled : Bool
  markedStopped : Nat
  stopCalls : List Service
  point : Option Point

namespace Coordinator

/-- `RuntimeShutdownCoordinator(...)`. -/
def initial : Coordinator where
  phase := .idle
  metrics := ShutdownMetrics.initial
  reason := none
  triggeredAtMonotonicNs := 0
  report := none
  running := false
  phaseTimings := []
  timeoutsTotal := 0
  forcedDisconnects := 0
  forcedCancellations := 0
  checkpointId := none
  snapshotId := none
  finalSequence := none
  errors := []
  shutdownInProgress := false
  filterInstalled := false
  markedStopped := 0
  stopCalls := []
  point := none

/-- `_set_phase`. -/
def setPhase (c : Coordinator) (phase : ShutdownPhase) : Coordinator :=
  { c with phase := phase, metrics := c.metrics.setPhase phase }

/-- `request_shutdown(reason)`. -/
def requestShutdown (c : Coordinator) (reason : String) (now : Int) : Coordinator :=
  if c.phase ≠ .idle then c
  else
    let triggered : Coordinator :=
      { c with reason := some reason, triggeredAtMonotonicNs := now }
    { triggered.setPhase .draining with
      metrics := (triggered.setPhase .draining).metrics.recordRequest }

/-- `report()`; `none` for `ShutdownNotCompletedError`. -/
def readReport (c : Coordinator) : Option ShutdownReport := c.report

/-- The report that `_finalize` assembles. -/
def buildReport (c : Coordinator) (finalPhase : ShutdownPhase) (finishedAt : Int) :
    ShutdownReport where
  finalPhase := finalPhase
  reason := match c.reason with
    | none => "unknown"
    | some reason => if reason = "" then "unknown" else reason
  triggeredAtMonotonicNs := c.triggeredAtMonotonicNs
  finishedAtMonotonicNs := finishedAt
  totalDurationNs := finishedAt
    - (if c.triggeredAtMonotonicNs = 0 then finishedAt else c.triggeredAtMonotonicNs)
  phaseTimings := c.phaseTimings
  timeoutsTotal := c.timeoutsTotal
  forcedDisconnects := c.forcedDisconnects
  forcedCancellations := c.forcedCancellations
  checkpointId := c.checkpointId
  snapshotId := c.snapshotId
  finalSequence := c.finalSequence
  errors := c.errors

/-- `_finalize(final_phase)`. -/
def finalize (c : Coordinator) (finalPhase : ShutdownPhase) (finishedAt : Int) : Coordinator :=
  let terminal := c.setPhase finalPhase
  let report := terminal.buildReport finalPhase finishedAt
  { terminal with
    report := some report
    metrics := terminal.metrics.recordCompletion report
    markedStopped := terminal.markedStopped + 1 }

/-- The `finally` of the phases with the exit of the filter: `end_shutdown()` fires. -/
def endShutdown (c : Coordinator) : Coordinator :=
  { c with shutdownInProgress := false, filterInstalled := false }

/-- Out of the phases with `final_phase`. -/
def leave (c : Coordinator) (finalPhase : ShutdownPhase) : Coordinator :=
  { c.endShutdown with point := some (.leaving finalPhase) }

/-- `except Exception` around the phases. -/
def crash (c : Coordinator) (text : String) : Coordinator :=
  { c with errors := c.errors ++ ["unexpected: " ++ text] }.leave .failed

/-- The `PhaseTiming` that a phase ends with. -/
def recordTiming (c : Coordinator) (phase : ShutdownPhase) (started now : Int)
    (timedOut : Bool) : Coordinator :=
  { c with phaseTimings := c.phaseTimings ++ [⟨phase, now - started, timedOut⟩] }

/-- The body of `_capture_final_artifacts`. -/
def captureArtifacts (c : Coordinator) (reads : Reads) : Coordinator :=
  let withCheckpoint : Coordinator :=
    match reads.checkpoint with
    | .ok (checkpointId, sequence) =>
      { c with checkpointId := some checkpointId, finalSequence := some sequence }
    | .error text => { c with errors := c.errors ++ ["checkpoint: " ++ text] }
  match reads.snapshot with
  | .ok (snapshotId, lastSequence) =>
    { withCheckpoint with
      snapshotId := some snapshotId
      finalSequence := some (withCheckpoint.finalSequence.getD lastSequence) }
  | .error text => { withCheckpoint with errors := withCheckpoint.errors ++ ["snapshot: " ++ text] }

/-! ## Steps -/

/-- `setPhase` at the start of a phase, which the coroutine goes on from at `next`. -/
def beginPhase (c : Coordinator) (phase : ShutdownPhase) (next : Point) : Coordinator :=
  { c.setPhase phase with point := some next }

/-- One step of the coroutine of `run` at `point`. -/
def advanceAt (setup : Setup) (c : Coordinator) (reads : Reads) : Point → Coordinator
  | .entering reason =>
    let requested := if c.phase = .idle then c.requestShutdown reason reads.now else c
    { requested with
      shutdownInProgress := true
      filterInstalled := true
      point := some .drainStart }
  | .drainStart =>
    let draining := c.setPhase .draining
    match reads.clientCount with
    | none => draining.crash reads.text
    | some 0 => { draining with point := some (.joining reads.now) }
    | some (_ + 1) => { draining with point := some (.broadcasting reads.now) }
  | .broadcasting started =>
    match reads.raised with
    | none => { c with point := some (.notifying started) }
    | some text =>
      { c with errors := c.errors ++ ["notify: " ++ text], point := some (.notifying started) }
  | .notifying started => { c with point := some (.joining started) }
  | .joining started =>
    { c.recordTiming .draining started reads.now false with point := some .finalizeStart }
  | .finalizeStart => c.beginPhase .finalizing (.capturing reads.now)
  | .capturing started =>
    { (c.captureArtifacts reads).recordTiming .finalizing started reads.now false with
      point := some .stopStart }
  | .stopStart => c.beginPhase .stopping (.betweenServices reads.now setup.services)
  | .betweenServices started [] => { c with point := some (.forcing started false) }
  | .betweenServices started (service :: left) =>
    { c with
      stopCalls := c.stopCalls ++ [service]
      point := some (if service.awaited then .awaitingService started left
        else .betweenServices started left) }
  | .awaitingService started left => { c with point := some (.betweenServices started left) }
  | .forcing started timedOut =>
    match reads.clientCount with
    | none => c.crash reads.text
    | some clients => { c with point := some (.disconnecting started timedOut clients) }
  | .disconnecting started timedOut clients =>
    ({ c with forcedDisconnects := c.forcedDisconnects + clients }.recordTiming .stopping started
      reads.now timedOut).leave .stopped
  | .leaving finalPhase =>
    { c.finalize finalPhase reads.now with running := false, point := none }

/-- The budget of the phase runs out at `point`; `none` where no phase is being timed. -/
def phaseTimeoutAt (c : Coordinator) (now : Int) : Point → Option Coordinator
  | .broadcasting started | .notifying started | .joining started =>
    some { { c with timeoutsTotal := c.timeoutsTotal + 1 }.recordTiming .draining started now true
      with point := some .finalizeStart }
  | .capturing started =>
    some { { c with
        timeoutsTotal := c.timeoutsTotal + 1
        errors := c.errors ++ ["finalize: timeout"] }.recordTiming .finalizing started now true
      with point := some .stopStart }
  | .awaitingService started _ | .disconnecting started false _ =>
    some { c with
      timeoutsTotal := c.timeoutsTotal + 1
      errors := c.errors ++ ["stop: timeout"]
      point := some (.forcing started true) }
  | _ => none

/-- The total budget runs out while the coroutine is suspended. -/
def totalTimeout (c : Coordinator) : Coordinator :=
  { c with
    timeoutsTotal := c.timeoutsTotal + 1
    errors := c.errors ++ ["total shutdown budget exceeded"] }.leave .failed

/-- The task of `run` is cancelled while the coroutine is suspended. -/
def cancelRun (c : Coordinator) : Coordinator :=
  { c.endShutdown with running := false, point := none }

/-- Other tasks run: `run` is not active, or it is suspended. -/
def quiet (c : Coordinator) : Bool :=
  match c.point with
  | none => true
  | some point => point.suspended

/-- `run(reason)` up to where it claims `_running`; the call raises
    `ShutdownAlreadyRunningError`, or returns the report there is, where nothing changes. -/
def run (c : Coordinator) (reason : String) : Coordinator :=
  if c.running then c
  else if isTerminal c.phase then c
  else { c with running := true, point := some (.entering reason) }

/-- What happens to a coordinator. -/
inductive Action where
  | requestShutdown (reason : String) (now : Int)
  | run (reason : String)
  | advance (reads : Reads)
  | phaseTimeout (now : Int)
  | totalTimeout
  | cancel

/-- One step; `none` where the action cannot happen. -/
def step (setup : Setup) (c : Coordinator) : Action → Option Coordinator
  | .requestShutdown reason now => if c.quiet then some (c.requestShutdown reason now) else none
  | .run reason => if c.quiet then some (c.run reason) else none
  | .advance reads => c.point.map (c.advanceAt setup reads)
  | .phaseTimeout now => c.point.bind (c.phaseTimeoutAt now)
  | .totalTimeout =>
    if setup.hasTotal ∧ c.point.any Point.suspended then some c.totalTimeout else none
  | .cancel => if c.point.any Point.suspended then some c.cancelRun else none

/-! ## A shutdown without incidents -/

/-- No client is connected, nothing raises and both artifacts are captured. -/
def smoothReads (now : Int) : Reads where
  now := now
  clientCount := some 0
  raised := none
  checkpoint := .ok ("checkpoint-1", 7)
  snapshot := .ok ("snapshot-1", 7)

/-- A coordinator that finds an event bus and nothing else. -/
def busOnly : Setup where
  hasTotal := true
  wired := fun service => service = .eventBus

/-- The lifespan calls `run`; a second call and a late request change nothing. -/
def smoothShutdown : List Action :=
  [.run "lifespan", .advance (smoothReads 1), .advance (smoothReads 2), .run "signal",
    .requestShutdown "signal" 3, .advance (smoothReads 4), .advance (smoothReads 5),
    .advance (smoothReads 6), .advance (smoothReads 7), .advance (smoothReads 8),
    .advance (smoothReads 9), .advance (smoothReads 10), .advance (smoothReads 11),
    .advance (smoothReads 12), .advance (smoothReads 13)]

end Coordinator

end AsyncViz.Runtime.Shutdown
