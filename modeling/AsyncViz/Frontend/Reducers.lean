/-
  AsyncViz.Frontend.Reducers

  The pure reducers of the frontend store (`state/runtime/reducers.ts`) and the
  normalization of snapshots (`normalization.ts`).

  `reduceTaskEvent` maps the event type to a state.  Its one guard is that a
  terminal task does not go back to a non-terminal state: an unknown task appears
  on any task event, and every other change of state is taken as it comes.
-/

import AsyncViz.Frontend.Models
import Mathlib.Logic.Function.Basic

namespace AsyncViz.Frontend

open AsyncViz.Lib AsyncViz.Runtime AsyncViz.Runtime.Metrics AsyncViz.Runtime.Tasks
open AsyncViz.Runtime.Timeline AsyncViz.Runtime.Warnings

/-! ## Tasks -/

/-- `EVENT_TO_STATE`, whose keys are `TASK_EVENT_TYPES`. -/
def eventToState : String → Option TaskState
  | "asyncio.task.created" => some .created
  | "asyncio.task.started" => some .running
  | "asyncio.task.waiting" => some .waiting
  | "asyncio.task.resumed" => some .running
  | "asyncio.task.completed" => some .completed
  | "asyncio.task.cancelled" => some .cancelled
  | "asyncio.task.failed" => some .failed
  | _ => none

/-- `isTaskLifecycleEvent(payload)`, as the event it narrows the payload to. -/
def taskLifecycleEvent? : RuntimeEventPayload → Option TaskLifecycleEvent
  | .task event => if (eventToState event.eventType).isSome then some event else none
  | .other _ _ _ => none

/-- A task event reaches the frontend as one, with its task and its target state. -/
theorem taskLifecycleEvent?_eventPayload {event : RuntimeEvent} {task : TaskEventBase}
    {target : TaskState} (htask : event.body.task? = some task)
    (htarget : event.body.targetState? = some target) :
    ∃ payload, taskLifecycleEvent? (eventPayload event) = some payload ∧
      payload.taskId = task.taskId ∧ eventToState payload.eventType = some target := by
  obtain ⟨eventId, timestamp, monotonicTimestamp, monotonicNs, runtimeId, source, version, body⟩ :=
    event
  cases body with
  | taskCreated | taskStarted | taskWaiting | taskResumed | taskCompleted | taskCancelled
  | taskFailed =>
    obtain rfl := Option.some.inj htask
    obtain rfl := Option.some.inj htarget
    exact ⟨_, rfl, rfl, rfl⟩
  | other => cases htask

/-- `TERMINAL_TASK_STATES.has(state)`. -/
def terminalTaskState : TaskState → Bool
  | .completed | .cancelled | .failed => true
  | .created | .running | .waiting => false

/-- The effective state of an event for a task in the given state, if it is known. -/
def effectiveState (existing : Option TaskState) (incoming : TaskState) : TaskState :=
  match existing with
  | none => incoming
  | some state =>
    if terminalTaskState state && !terminalTaskState incoming then state else incoming

/-- The record of a task that an event introduces. -/
def introducedTask (event : TaskLifecycleEvent) (state : TaskState) : TaskSnapshot :=
  { taskId := event.taskId
    state := state
    createdAt := event.timestamp
    updatedAt := event.timestamp
    coroutineName := event.coroutineName
    taskName := event.taskName
    parentTaskId := event.parentTaskId
    rootTaskId := some event.taskId
    runtimeId := some event.runtimeId
    metadata := event.metadata }

/-- `reduceTaskEvent(event, existing)`, with `regressed`. -/
def reduceTaskEvent (event : TaskLifecycleEvent) (existing : Option TaskSnapshot) :
    TaskSnapshot × Bool :=
  let incoming := (eventToState event.eventType).getD .created
  let existingState := existing.map RuntimeTask.state
  let incomingTerminal := terminalTaskState incoming
  -- a terminal task that an event would reopen
  let wouldRegress := (existingState.map terminalTaskState).getD false && !incomingTerminal
  let state := effectiveState existingState incoming
  let base := existing.getD (introducedTask event state)
  let next := { base with
    state := state
    updatedAt := event.timestamp
    coroutineName := event.coroutineName <|> base.coroutineName
    taskName := event.taskName <|> base.taskName
    parentTaskId := event.parentTaskId <|> base.parentTaskId
    durationSeconds := event.durationSeconds <|> base.durationSeconds
    createdAt := event.createdAt.getD base.createdAt
    completedAt := match event.completedAt with
      | some completedAt => some completedAt
      | none => if incomingTerminal then some event.timestamp else base.completedAt }
  let next :=
    if event.eventType = "asyncio.task.failed" then
      -- assigned as they come, `null` included
      { next with
        exceptionType := event.exceptionType
        exceptionMessage := event.exceptionMessage }
    else next
  let next :=
    if event.eventType = "asyncio.task.cancelled" then
      { next with cancellationOrigin := event.cancellationOrigin <|> next.cancellationOrigin }
    else next
  (next, wouldRegress)

/-- The state of the reduced record. -/
theorem reduceTaskEvent_state (event : TaskLifecycleEvent) (existing : Option TaskSnapshot) :
    (reduceTaskEvent event existing).1.state =
      effectiveState (existing.map RuntimeTask.state)
        ((eventToState event.eventType).getD .created) := by
  rw [reduceTaskEvent]
  split <;> split <;> rfl

/-- `reindexTaskState(taskIdsByState, taskId, fromState, toState)`. -/
def reindexTaskState (index : TaskIdsByState) (taskId : String) (fromState : Option TaskState)
    (toState : TaskState) : TaskIdsByState :=
  let index : TaskIdsByState :=
    match fromState with
    | none => index
    | some source =>
      if source = toState then index
      else Function.update index source ((index source).erase taskId)
  if taskId ∈ index toState then index
  else Function.update index toState (index toState ++ [taskId])

/-! ## Heartbeats and metrics -/

/-- `reduceHeartbeat(prev, payload)`. -/
def reduceHeartbeat (prev : RuntimeMeta) (serverUptimeSeconds : Option ℚ)
    (connectedClients : Option Int) : RuntimeMeta :=
  { prev with
    serverUptimeSeconds := serverUptimeSeconds.getD prev.serverUptimeSeconds
    connectedClients := connectedClients.getD prev.connectedClients }

/-- `reduceMetricsDelta(prev, payload)`. -/
def reduceMetricsDelta (prev : NormalizedMetricsState) (payload : MetricsDelta) :
    NormalizedMetricsState :=
  { aggregate := prev.aggregate
    deltaCounts := payload.changes.foldl
      (fun merged change => merged.set change.1 ((merged.get? change.1).getD 0 + change.2))
      prev.deltaCounts }

/-! ## Warnings -/

/-- `reduceWarningDelta(prev, payload)`.  The counter of a severity moves with the
    payload's severity, not with the stored one. -/
def reduceWarningDelta (prev : NormalizedWarningState) (payload : WarningDelta) :
    NormalizedWarningState :=
  let id := payload.warning.warningId
  let severity := payload.warning.severity
  let warningsById := prev.warningsById.set id payload.warning
  let previouslyActive := id ∈ prev.activeWarningIds
  if payload.change = .resolved ∨ payload.change = .expired then
    { warningsById := warningsById
      activeWarningIds :=
        if previouslyActive then prev.activeWarningIds.filter (· ≠ id) else prev.activeWarningIds
      resolvedWarningIds :=
        if id ∈ prev.resolvedWarningIds then prev.resolvedWarningIds
        else prev.resolvedWarningIds ++ [id]
      countsBySeverity :=
        if prev.countsBySeverity severity > 0 then
          Function.update prev.countsBySeverity severity (prev.countsBySeverity severity - 1)
        else prev.countsBySeverity }
  else if previouslyActive then { prev with warningsById := warningsById }
  else
    { prev with
      warningsById := warningsById
      activeWarningIds := prev.activeWarningIds ++ [id]
      countsBySeverity :=
        Function.update prev.countsBySeverity severity (prev.countsBySeverity severity + 1) }

/-! ## Timeline -/

/-- The first branch of `reduceTimelineDelta`: a closed segment is filed, and its
    task has nothing open. -/
def closeSegment (prev : NormalizedTimelineState) (payload : TimelineDelta) :
    NormalizedTimelineState :=
  match payload.kind, payload.segment with
  | .segmentClosed, some segment =>
    let bucket := (prev.segmentIdsByTaskId.get? segment.taskId).getD []
    { prev with
      segmentsById := prev.segmentsById.set segment.segmentId segment
      segmentIdsByTaskId :=
        if segment.segmentId ∈ bucket then prev.segmentIdsByTaskId
        else prev.segmentIdsByTaskId.set segment.taskId (bucket ++ [segment.segmentId])
      activeSegmentsByTaskId := prev.activeSegmentsByTaskId.pop segment.taskId }
  | _, _ => prev

/-- `reduceTimelineDelta(prev, payload)`. -/
def reduceTimelineDelta (prev : NormalizedTimelineState) (payload : TimelineDelta) :
    NormalizedTimelineState :=
  let lastSequence := match payload.sequence with
    | none => prev.lastSequence
    | some n => if n > prev.lastSequence then n else prev.lastSequence
  let next := closeSegment prev payload
  let active := match payload.kind, payload.openSegment with
    | .segmentOpened, some openSegment =>
      next.activeSegmentsByTaskId.set payload.taskId openSegment
    | .spanFinalized, _ => next.activeSegmentsByTaskId.pop payload.taskId
    | _, _ => next.activeSegmentsByTaskId
  { next with activeSegmentsByTaskId := active, lastSequence := lastSequence }

/-! ## Normalization of snapshots -/

/-- `normalizeTasks(tasks)`. -/
def normalizeTasks (tasks : List TaskSnapshot) : Dict String TaskSnapshot × TaskIdsByState :=
  tasks.foldl
    (fun (acc : Dict String TaskSnapshot × TaskIdsByState) task =>
      (acc.1.set task.taskId task,
        Function.update acc.2 task.state (acc.2 task.state ++ [task.taskId])))
    (.empty, fun _ => [])

/-- `normalizeTimeline(snapshot)`: the segment lists are sorted by start time, which
    is stable. -/
def normalizeTimeline (timeline : Option TimelineSnapshot) : NormalizedTimelineState :=
  match timeline with
  | none => {}
  | some timeline =>
    let segments := (timeline.tracks.flatMap TimelineTrack.spans).flatMap LifecycleSpan.segments
    let segmentsById := segments.foldl (fun d s => d.set s.segmentId s) Dict.empty
    let ids := segments.foldl
      (fun (d : Dict String (List String)) s =>
        d.set s.taskId ((d.get? s.taskId).getD [] ++ [s.segmentId])) .empty
    let start (id : String) : Int :=
      ((segmentsById.get? id).map TimelineSegment.monotonicStartNs).getD 0
    { segmentsById := segmentsById
      segmentIdsByTaskId := ids.mapValues fun ids => ids.mergeSort fun a b => start a ≤ start b
      activeSegmentsByTaskId :=
        timeline.activeSegments.foldl (fun d active => d.set active.taskId active) .empty
      lastSequence := timeline.lastSequence }

/-- `normalizeWarnings(snapshot)`. -/
def normalizeWarnings (warnings : Option WarningSnapshot) : NormalizedWarningState :=
  match warnings with
  | none => {}
  | some warnings =>
    { warningsById :=
        (warnings.active ++ warnings.resolved).foldl (fun d w => d.set w.warningId w) .empty
      activeWarningIds := warnings.active.map WarningLifecycle.warningId
      resolvedWarningIds := warnings.resolved.map WarningLifecycle.warningId
      countsBySeverity := warnings.countsBySeverity }

end AsyncViz.Frontend
