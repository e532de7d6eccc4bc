/-
  AsyncViz.Replay.Control.Coordinator

  `ReplayPlaybackCoordinator` and what it is composed of: the pause and the resume
  controller and the request dispatch (`replay/runtime/control/`).

  The controllers share state holder, gate and clock with the coordinator, so each of
  their methods acts on the coordinator.  A method that can raise returns the state it
  leaves behind beside its result, as an error undoes nothing.  Metrics and traces are
  left out.

  A `Session` is a coordinator with the calls made on it and what they returned;
  `step` makes one more call.  Every call is enabled in every state.
-/

import AsyncViz.Lib.Transition
import AsyncViz.Replay.Control.Models

namespace AsyncViz.Replay.Control

open AsyncViz.Lib AsyncViz.Lib.Transition

/-- `PauseController`: its pending table. -/
abbrev PauseController := PendingTable PauseRequest

/-- `ResumeController`: its pending table. -/
abbrev ResumeController := PendingTable ResumeRequest

/-- `CoordinationDispatch`. -/
@[ext] structure CoordinationDispatch where
  pauseQueue : CoordinationQueue PauseRequest
  resumeQueue : CoordinationQueue ResumeRequest
  requestCounter : Nat := 0
  stepPending : Int := 0
deriving DecidableEq, Repr

/-- `ReplayPlaybackCoordinationConfig`, as far as the coordinator reads it. -/
structure ReplayPlaybackCoordinationConfig where
  defaultPauseTrigger : PauseTrigger := .afterCurrentFrame
  coordinationQueueCapacity : ℕ+ := 64
  strictTransitions : Bool := true
deriving DecidableEq, Repr

/-- `ReplayPlaybackCoordinator`. -/
@[ext] structure ReplayPlaybackCoordinator where
  config : ReplayPlaybackCoordinationConfig
  gate : ReplayPlaybackGate := {}
  clock : ClockCoordinator
  scheduler : SchedulerCoordinator
  state : ReplayPlaybackStateHolder
  pause : PauseController := {}
  resume : ResumeController := {}
  dispatch : CoordinationDispatch

/-- What a call leaves behind, and what it returns or raises. -/
abbrev Outcome (α : Type) := ReplayPlaybackCoordinator × Except ControlError α

namespace ReplayPlaybackCoordinator

/-- A new coordinator, in `IDLE`. -/
def new (config : ReplayPlaybackCoordinationConfig) (clock : ReplayClock)
    (scheduler : ReplayScheduler) : ReplayPlaybackCoordinator :=
  { config := config
    clock := { clock := clock }
    scheduler := { scheduler := scheduler }
    state := { snapshot := { phase := .idle, lastSequence := 0, lastMonotonicNs := 0 } }
    dispatch :=
      { pauseQueue := { capacity := config.coordinationQueueCapacity }
        resumeQueue := { capacity := config.coordinationQueueCapacity } } }

/-- `coordinator.phase`. -/
def phase (c : ReplayPlaybackCoordinator) : PlaybackPhase := c.state.snapshot.phase

/-- `coordinator.pending_step_frames`. -/
def pendingStepFrames (c : ReplayPlaybackCoordinator) : Int := c.dispatch.stepPending

end ReplayPlaybackCoordinator

/-! ## Pause controller -/

namespace PauseController

/-- `_begin_pausing`. -/
def beginPausing (c : ReplayPlaybackCoordinator) (current : PlaybackPhaseSnapshot)
    (request : PauseRequest) (now : Int) : Outcome Unit :=
  if current.phase = .paused then
    ({ c with pause := c.pause.resolvePending request.requestId current now }, .ok ())
  else
    let verdict := checkTransition current.phase .pausing
    if ¬verdict.allowed then
      if c.config.strictTransitions then (c, .error verdict.error) else (c, .ok ())
    else
      let nextSnapshot :=
        { current with phase := .pausing, pauseRequestId := request.requestId }
      ({ c with state := c.state.transitionTo nextSnapshot, gate := c.gate.closeGate }, .ok ())

/-- `pause.request(request)`. -/
def request (c : ReplayPlaybackCoordinator) (request : PauseRequest) (now : Int) : Outcome Barrier :=
  let barrier : Barrier := { requestId := request.requestId, requestedAtNs := now }
  let c := { c with pause := c.pause.enter request.requestId request now }
  let current := c.state.snapshot
  match request.trigger with
  | .immediate | .afterCurrentFrame =>
    let (c, result) := beginPausing c current request now
    (c, result.map fun _ => barrier)
  -- observed lazily by `onFrameDispatched`
  | .atSequence | .atTimestamp => (c, .ok barrier)

/-- `_finalize_pause`. -/
def finalizePause (c : ReplayPlaybackCoordinator) (lastSequence lastMonotonicNs now : Int) :
    Outcome Unit :=
  let current := c.state.snapshot
  let verdict := checkTransition current.phase .paused
  if ¬verdict.allowed ∧ c.config.strictTransitions then (c, .error verdict.error)
  else
    let nextSnapshot :=
      { current with
        phase := .paused, lastSequence := lastSequence, lastMonotonicNs := lastMonotonicNs }
    ({ c with
        clock := c.clock.pause now
        gate := c.gate.closeGate
        state := c.state.transitionTo nextSnapshot
        pause := c.pause.resolveAll lastSequence lastMonotonicNs now }, .ok ())

/-- Some pending request is met by the position. -/
def triggered (c : ReplayPlaybackCoordinator) (lastSequence lastMonotonicNs : Int) : Bool :=
  c.pause.pending.values.any fun entry => entry.request.met lastSequence lastMonotonicNs

/-- `pause.on_frame_dispatched(last_sequence=…, last_monotonic_ns=…)`. -/
def onFrameDispatched (c : ReplayPlaybackCoordinator) (lastSequence lastMonotonicNs now : Int) :
    Outcome Bool :=
  let c := { c with state := c.state.updatePosition lastSequence lastMonotonicNs }
  if triggered c lastSequence lastMonotonicNs then
    let (c, result) := finalizePause c lastSequence lastMonotonicNs now
    (c, result.map fun _ => true)
  else (c, .ok false)

end PauseController

/-! ## Resume controller -/

namespace ResumeController

/-- `_finalize_resume`. -/
def finalizeResume (c : ReplayPlaybackCoordinator) (request : ResumeRequest) (now : Int) :
    Outcome Unit :=
  let current := c.state.snapshot
  if current.phase = .playing then
    ({ c with resume := c.resume.resolvePending request.requestId current now }, .ok ())
  else
    let verdict := checkTransition current.phase .resuming
    if ¬verdict.allowed then
      if c.config.strictTransitions then (c, .error verdict.error) else (c, .ok ())
    else
      let resumingSnapshot :=
        { current with phase := .resuming, resumeRequestId := request.requestId }
      let playingSnapshot :=
        { current with phase := .playing, resumeRequestId := request.requestId }
      ({ c with
          state := (c.state.transitionTo resumingSnapshot).transitionTo playingSnapshot
          clock := c.clock.resume now
          gate := c.gate.openGate
          resume := c.resume.resolvePending request.requestId playingSnapshot now }, .ok ())

/-- `resume.request(request)`. -/
def request (c : ReplayPlaybackCoordinator) (request : ResumeRequest) (now : Int) :
    Outcome Barrier :=
  let barrier : Barrier := { requestId := request.requestId, requestedAtNs := now }
  let c := { c with resume := c.resume.enter request.requestId request now }
  let (c, result) := finalizeResume c request now
  (c, result.map fun _ => barrier)

end ResumeController

/-! ## Dispatch -/

namespace CoordinationDispatch

/-- `dispatch.allocate_request_id()`. -/
def allocateRequestId (c : ReplayPlaybackCoordinator) : ReplayPlaybackCoordinator × Nat :=
  let requestId := c.dispatch.requestCounter + 1
  ({ c with dispatch := { c.dispatch with requestCounter := requestId } }, requestId)

/-- `dispatch.submit_pause(request)`. -/
def submitPause (c : ReplayPlaybackCoordinator) (request : PauseRequest) (now : Int) :
    Outcome Barrier :=
  let (queue, evicted) := c.dispatch.pauseQueue.offer request
  let c :=
    { c with
      dispatch := { c.dispatch with pauseQueue := queue }
      pause := c.pause.cancelEvicted PauseRequest.requestId evicted }
  PauseController.request c request now

/-- `dispatch.submit_resume(request)`. -/
def submitResume (c : ReplayPlaybackCoordinator) (request : ResumeRequest) (now : Int) :
    Outcome Barrier :=
  let (queue, evicted) := c.dispatch.resumeQueue.offer request
  let c :=
    { c with
      dispatch := { c.dispatch with resumeQueue := queue }
      resume := c.resume.cancelEvicted ResumeRequest.requestId evicted }
  ResumeController.request c request now

/-- `dispatch.submit_step(request)`. -/
def submitStep (c : ReplayPlaybackCoordinator) (request : StepRequest) : Outcome Unit :=
  if request.frameCount < 1 then (c, .error (.value "StepRequest.frame_count must be >= 1"))
  else
    ({ c with
        dispatch :=
          { c.dispatch with stepPending := c.dispatch.stepPending + request.frameCount } }, .ok ())

/-- `dispatch.consume_step()`. -/
def consumeStep (c : ReplayPlaybackCoordinator) : ReplayPlaybackCoordinator × Bool :=
  if c.dispatch.stepPending ≤ 0 then (c, false)
  else
    ({ c with dispatch := { c.dispatch with stepPending := c.dispatch.stepPending - 1 } }, true)

end CoordinationDispatch

/-! ## Coordinator -/

namespace ReplayPlaybackCoordinator

/-- The request that `request_pause` builds. -/
def pauseRequest (config : ReplayPlaybackCoordinationConfig) (requestId : Nat)
    (trigger : Option PauseTrigger) (targetSequence targetMonotonicNs : Int) (reason : String)
    (now : Int) : PauseRequest :=
  { requestId := requestId
    trigger := trigger.getD config.defaultPauseTrigger
    targetSequence := targetSequence
    targetMonotonicNs := targetMonotonicNs
    reason := reason
    requestedAtNs := now }

/-- `coordinator.request_pause(trigger=…, target_sequence=…, target_monotonic_ns=…, reason=…)`. -/
def requestPause (c : ReplayPlaybackCoordinator) (trigger : Option PauseTrigger)
    (targetSequence targetMonotonicNs : Int) (reason : String) (now : Int) : Outcome Barrier :=
  let (c, requestId) := CoordinationDispatch.allocateRequestId c
  CoordinationDispatch.submitPause c
    (pauseRequest c.config requestId trigger targetSequence targetMonotonicNs reason now) now

/-- `coordinator.request_resume(reason=…)`. -/
def requestResume (c : ReplayPlaybackCoordinator) (reason : String) (now : Int) :
    Outcome Barrier :=
  let (c, requestId) := CoordinationDispatch.allocateRequestId c
  CoordinationDispatch.submitResume c
    { requestId := requestId, reason := reason, requestedAtNs := now } now

/-- `coordinator.request_step(frames=…, reason=…)`. -/
def requestStep (c : ReplayPlaybackCoordinator) (frames : Int) (reason : String) (now : Int) :
    Outcome Nat :=
  let (c, requestId) := CoordinationDispatch.allocateRequestId c
  match CoordinationDispatch.submitStep c
      { requestId := requestId, frameCount := frames, reason := reason, requestedAtNs := now } with
  | (c, .error error) => (c, .error error)
  | (c, .ok ()) =>
    let c := { c with scheduler := c.scheduler.beginStep, gate := c.gate.openGate }
    let snapshot := c.state.snapshot
    -- scheduler and gate change in every phase, the phase only from `PAUSED`
    if snapshot.phase = .paused then
      ({ c with state := c.state.transitionTo { snapshot with phase := .stepping } }, .ok requestId)
    else (c, .ok requestId)

/-- `coordinator.consume_step()`. -/
def consumeStep (c : ReplayPlaybackCoordinator) : ReplayPlaybackCoordinator × Bool :=
  CoordinationDispatch.consumeStep c

/-- `_finalize_to_paused`. -/
def finalizeToPaused (c : ReplayPlaybackCoordinator) (sequence monotonicNs now : Int) :
    ReplayPlaybackCoordinator :=
  { c with
    clock := c.clock.pause now
    gate := c.gate.closeGate
    state := c.state.transitionTo
      { c.state.snapshot with
        phase := .paused, lastSequence := sequence, lastMonotonicNs := monotonicNs } }

/-- `coordinator.on_frame_dispatched(sequence=…, monotonic_ns=…)`. -/
def onFrameDispatched (c : ReplayPlaybackCoordinator) (sequence monotonicNs now : Int) :
    Outcome Bool :=
  if c.phase = .stepping ∧ c.pendingStepFrames = 0 then
    ({ c with scheduler := c.scheduler.endStep }.finalizeToPaused sequence monotonicNs now,
      .ok true)
  else PauseController.onFrameDispatched c sequence monotonicNs now

/-- `coordinator.update_position(sequence=…, monotonic_ns=…)`. -/
def updatePosition (c : ReplayPlaybackCoordinator) (sequence monotonicNs : Int) :
    ReplayPlaybackCoordinator :=
  { c with state := c.state.updatePosition sequence monotonicNs }

/-- `coordinator.mark_started()`. -/
def markStarted (c : ReplayPlaybackCoordinator) : ReplayPlaybackCoordinator :=
  let snapshot := c.state.snapshot
  if snapshot.phase = .idle then
    { c with
      state := c.state.transitionTo { snapshot with phase := .playing, errorDetail := "" } }
  else c

/-- The phase that `mark_stopped` ends in. -/
def stopTarget (errorDetail : String) : PlaybackPhase :=
  if errorDetail ≠ "" then .failed else .stopped

/-- `coordinator.mark_stopped(error_detail=…)`. -/
def markStopped (c : ReplayPlaybackCoordinator) (errorDetail : String) (now : Int) :
    ReplayPlaybackCoordinator :=
  let snapshot := c.state.snapshot
  let c :=
    { c with
      state := c.state.transitionTo
        { snapshot with phase := stopTarget errorDetail, errorDetail := errorDetail }
      gate := c.gate.openGate }
  -- what this raises is suppressed
  (PauseController.onFrameDispatched c snapshot.lastSequence snapshot.lastMonotonicNs now).1

end ReplayPlaybackCoordinator

/-! ## Calls -/

/-- A call on a coordinator. -/
inductive Call where
  | requestPause (trigger : Option PauseTrigger) (targetSequence targetMonotonicNs : Int)
      (reason : String) (now : Int)
  | requestResume (reason : String) (now : Int)
  | requestStep (frames : Int) (reason : String) (now : Int)
  | consumeStep
  | onFrameDispatched (sequence monotonicNs now : Int)
  | updatePosition (sequence monotonicNs : Int)
  | markStarted
  | markStopped (errorDetail : String) (now : Int)
deriving DecidableEq, Repr

/-- The call is a control request, and takes a new request id. -/
def Call.IsRequest : Call → Prop
  | .requestPause .. | .requestResume .. | .requestStep .. => True
  | _ => False

/-- What a call returns; a barrier stands for the object of its request. -/
inductive Reply where
  | barrier (barrier : Barrier)
  | requestId (requestId : Nat)
  | flag (value : Bool)
  | snapshot (snapshot : PlaybackPhaseSnapshot)
  | done
  | raised (error : ControlError)
deriving DecidableEq, Repr

/-- The reply of a call that can raise. -/
def Reply.ofExcept {α : Type} (f : α → Reply) : Except ControlError α → Reply
  | .ok value => f value
  | .error error => .raised error

/-- Make a call. -/
def call (c : ReplayPlaybackCoordinator) : Call → ReplayPlaybackCoordinator × Reply
  | .requestPause trigger targetSequence targetMonotonicNs reason now =>
    (c.requestPause trigger targetSequence targetMonotonicNs reason now).map id
      (Reply.ofExcept .barrier)
  | .requestResume reason now => (c.requestResume reason now).map id (Reply.ofExcept .barrier)
  | .requestStep frames reason now =>
    (c.requestStep frames reason now).map id (Reply.ofExcept .requestId)
  | .consumeStep => c.consumeStep.map id .flag
  | .onFrameDispatched sequence monotonicNs now =>
    (c.onFrameDispatched sequence monotonicNs now).map id (Reply.ofExcept .flag)
  | .updatePosition sequence monotonicNs =>
    let c := c.updatePosition sequence monotonicNs
    (c, .snapshot c.state.snapshot)
  | .markStarted => (c.markStarted, .done)
  | .markStopped errorDetail now => (c.markStopped errorDetail now, .done)

/-- A coordinator, with the calls made on it and their replies. -/
structure Session where
  coordinator : ReplayPlaybackCoordinator
  calls : List (Call × Reply) := []

namespace Session

/-- A new coordinator, before the first call. -/
def start (config : ReplayPlaybackCoordinationConfig) (clock : ReplayClock)
    (scheduler : ReplayScheduler) : Session :=
  { coordinator := .new config clock scheduler }

/-- Make one more call. -/
def next (s : Session) (a : Call) : Session :=
  let (coordinator, reply) := call s.coordinator a
  { coordinator := coordinator, calls := s.calls ++ [(a, reply)] }

/-- `next` as a transition. -/
def step (s : Session) (a : Call) : Option Session := some (s.next a)

@[simp] theorem next_coordinator (s : Session) (a : Call) :
    (s.next a).coordinator = (call s.coordinator a).1 := rfl

@[simp] theorem next_calls (s : Session) (a : Call) :
    (s.next a).calls = s.calls ++ [(a, (call s.coordinator a).2)] := rfl

theorem step_isSome (s : Session) (a : Call) : ∃ s', s.step a = some s' := ⟨_, rfl⟩

theorem eq_next_of_step {s s' : Session} {a : Call} (h : s.step a = some s') : s' = s.next a :=
  (Option.some.inj h).symm

end Session

end AsyncViz.Replay.Control
