/-
  AsyncViz.Frontend.Models

  The frontend's view of the wire (`types/runtime.ts`) and the slices of its store
  (`state/runtime/models.ts`).

  The wire interfaces mirror the backend's models field for field, so the payloads
  that carry a backend value (task snapshots, segments, warnings, deltas) are that
  value.  An absent, `null` or ill-typed optional field is `none`; a payload that
  the store does not look into is JSON.  A record keyed by strings is a `Dict`: no
  reducer reads the order of its keys.
-/

import AsyncViz.Runtime.Metrics.Aggregator
import AsyncViz.Runtime.Timeline.Models
import AsyncViz.Runtime.Warnings.Models

namespace AsyncViz.Frontend

open AsyncViz.Lib AsyncViz.Runtime AsyncViz.Runtime.Metrics AsyncViz.Runtime.Tasks
open AsyncViz.Runtime.Timeline AsyncViz.Runtime.Warnings

/-! ## Events on the wire -/

/-- `TaskLifecycleEvent`: the fields of the seven task interfaces that the store
    reads; a field that an event's interface lacks is `none`. -/
structure TaskLifecycleEvent where
  eventType : String
  timestamp : ℚ
  runtimeId : String
  taskId : String
  parentTaskId : Option String
  coroutineName : Option String
  taskName : Option String
  metadata : Dict String Json
  createdAt : Option ℚ := none
  completedAt : Option ℚ := none
  durationSeconds : Option ℚ := none
  exceptionType : Option String := none
  exceptionMessage : Option String := none
  cancellationOrigin : Option String := none

/-- The payload of a `runtime_event`: the shape of a task event, or any other
    object with its `event_type` and `task_id` where these are strings. -/
inductive RuntimeEventPayload where
  | task (event : TaskLifecycleEvent)
  | other (eventType taskId : Option String) (payload : Json)

/-- The wire fields of a task event. -/
def taskPayload (event : RuntimeEvent) (task : TaskEventBase) : TaskLifecycleEvent :=
  { eventType := event.eventType
    timestamp := event.timestamp
    runtimeId := event.runtimeId
    taskId := task.taskId
    parentTaskId := task.parentTaskId
    coroutineName := task.coroutineName
    taskName := task.taskName
    metadata := task.metadata }

/-- The same, with the fields of a terminal event. -/
def terminalPayload (event : RuntimeEvent) (task : TaskEventBase)
    (terminal : TerminalTaskEventBase) : TaskLifecycleEvent :=
  { taskPayload event task with
    createdAt := terminal.createdAt
    completedAt := terminal.completedAt
    durationSeconds := terminal.durationSeconds }

/-- What the frontend receives of `to_dict(event)`, for an event that serializes. -/
def eventPayload (event : RuntimeEvent) : RuntimeEventPayload :=
  match event.body with
  | .taskCreated task => .task (taskPayload event task)
  | .taskStarted task => .task (taskPayload event task)
  | .taskWaiting task _ => .task (taskPayload event task)
  | .taskResumed task => .task (taskPayload event task)
  | .taskCompleted task terminal => .task (terminalPayload event task terminal)
  | .taskCancelled task terminal origin =>
    .task { terminalPayload event task terminal with cancellationOrigin := origin }
  | .taskFailed task terminal exceptionType exceptionMessage =>
    .task { terminalPayload event task terminal with
      exceptionType := exceptionType
      exceptionMessage := exceptionMessage }
  | .other eventType _ => .other (some eventType) (event.strField? "task_id") event.modelDump

/-! ## Snapshots on the wire -/

/-- The payload of a `runtime_snapshot` envelope: `tasks`, `state.tasks`,
    `last_sequence`, `clock` and `queue`. -/
structure RuntimeSnapshotPayload where
  tasks : Option (List TaskSnapshot) := none
  stateTasks : Option (List TaskSnapshot) := none
  lastSequence : Option Int := none
  clock : Option Json := none
  queue : Option Json := none

/-- `LifecycleSpan`, the part hydration reads. -/
structure LifecycleSpan where
  segments : List TimelineSegment

/-- `TimelineTrack`, the part hydration reads. -/
structure TimelineTrack where
  spans : List LifecycleSpan

/-- `TimelineSnapshot`, the part hydration reads. -/
structure TimelineSnapshot where
  tracks : List TimelineTrack
  activeSegments : List ActiveTimelineSegment
  lastSequence : Int

/-- `WarningSeverityCounts`. -/
abbrev WarningSeverityCounts := WarningSeverity → Int

/-- `WarningSnapshot`, the part hydration reads. -/
structure WarningSnapshot where
  active : List ActiveWarning
  resolved : List ActiveWarning
  countsBySeverity : WarningSeverityCounts

/-- `RuntimeSnapshot`, the answer of `GET /api/runtime/snapshot`, as far as it is
    folded into the store. -/
structure RuntimeSnapshot where
  runtimeId : String
  lastSequence : Int
  oldestRetainedSequence : Option Int := none
  newestRetainedSequence : Option Int := none
  replayWindowHit : Bool := true
  clock : Json := .null
  stateTasks : Option (List TaskSnapshot) := none
  timeline : Option TimelineSnapshot := none
  metrics : Option Json := none
  warnings : Option WarningSnapshot := none
  queue : Option Json := none

/-! ## Envelopes -/

/-- The payload of an envelope, by its type. -/
inductive EnvelopePayload where
  | heartbeat (serverUptimeSeconds : Option ℚ) (connectedClients : Option Int)
  | systemStatus (runtimeStatus : Option String)
  | runtimeSnapshot (payload : RuntimeSnapshotPayload)
  | runtimeEvent (payload : RuntimeEventPayload)
  | metricsDelta (payload : MetricsDelta)
  | warningDelta (payload : WarningDelta)
  | timelineDelta (payload : TimelineDelta)
  | protocolError
  | replayStatus (playbackState : Option String)

/-- `RuntimeEnvelope`. -/
structure RuntimeEnvelope where
  timestamp : ℚ := 0
  sequence : Option Int := none
  payload : EnvelopePayload

/-- The envelope types whose sequence the store checks. -/
def EnvelopePayload.isOrdered : EnvelopePayload → Bool
  | .runtimeEvent _ | .metricsDelta _ | .warningDelta _ | .timelineDelta _ => true
  | .heartbeat _ _ | .systemStatus _ | .runtimeSnapshot _ | .protocolError
  | .replayStatus _ => false

/-! ## Slices of the store -/

/-- `ConnectionPhase`. -/
inductive ConnectionPhase where
  | idle
  | hydrating
  | connecting
  | replaying
  | live
  | reconnecting
  | disconnected
  | failed
deriving DecidableEq, Repr

/-- `ConnectionState`, the legacy projection. -/
inductive ConnectionState where
  | idle
  | connecting
  | open
  | closed
  | error
deriving DecidableEq, Repr

/-- `ConnectionMeta`. -/
structure ConnectionMeta where
  phase : ConnectionPhase := .idle
  state : ConnectionState := .idle
  reconnectAttempts : Nat := 0
  lastFrameAtMonotonicMs : ℚ := 0

/-- `RuntimeMeta`; the statuses are the strings the server reports. -/
structure RuntimeMeta where
  runtimeId : Option String := none
  status : String := "idle"
  serverUptimeSeconds : ℚ := 0
  connectedClients : Int := 0
  clock : Option Json := none
  replayActive : Bool := false
  replayPlaybackState : Option String := none

/-- `ReplayMeta`. -/
structure ReplayMeta where
  oldestRetainedSequence : Option Int := none
  newestRetainedSequence : Option Int := none
  windowHit : Bool := true

/-- `ReconciliationStats`. -/
structure ReconciliationStats where
  envelopesApplied : Nat := 0
  duplicatesDropped : Nat := 0
  staleDropped : Nat := 0
  regressionsSuppressed : Nat := 0
  metricsDeltasApplied : Nat := 0
  warningDeltasApplied : Nat := 0
  timelineDeltasApplied : Nat := 0
  protocolErrors : Nat := 0
  hydrations : Nat := 0
  lastHydrationDurationMs : ℚ := 0
  runtimeEventsByCategory : Dict String Nat := .empty
  unhandledRuntimeEvents : Nat := 0

/-- `NormalizedTimelineState`. -/
structure NormalizedTimelineState where
  segmentsById : Dict String TimelineSegment := .empty
  activeSegmentsByTaskId : Dict String ActiveTimelineSegment := .empty
  segmentIdsByTaskId : Dict String (List String) := .empty
  lastSequence : Int := 0

/-- `NormalizedWarningState`. -/
structure NormalizedWarningState where
  warningsById : Dict String ActiveWarning := .empty
  activeWarningIds : List String := []
  resolvedWarningIds : List String := []
  countsBySeverity : WarningSeverityCounts := fun _ => 0

/-- `NormalizedMetricsState`. -/
structure NormalizedMetricsState where
  aggregate : Option Json := none
  deltaCounts : Dict String Int := .empty

/-- The id index `Record<TaskLifecycleState, string[]>`. -/
abbrev TaskIdsByState := TaskState → List String

/-- `RecentRuntimeEventEntry`. -/
structure RecentRuntimeEventEntry where
  sequence : Option Int
  eventType : String
  category : String
  timestamp : ℚ
  taskId : Option String
  payload : RuntimeEventPayload

end AsyncViz.Frontend
