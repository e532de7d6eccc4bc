/-
  AsyncViz.Frontend.Store

  The normalized store of the frontend (`state/runtime/store.ts`):
  `applyEnvelopeReducer` with the reducer of each envelope type, `hydrateSnapshot`
  and `applyReplayBatch`.

  A `Partial<RuntimeStoreState>` is written as the state it leads to.  `now` is the
  reading of `performance.now()`.
-/

import AsyncViz.Frontend.Reducers
import AsyncViz.Frontend.Sequencing

namespace AsyncViz.Frontend

open AsyncViz.Lib AsyncViz.Runtime AsyncViz.Runtime.Metrics AsyncViz.Runtime.Tasks
open AsyncViz.Runtime.Timeline AsyncViz.Runtime.Warnings

/-- `EVENT_BUFFER_LIMIT`. -/
def eventBufferLimit : Nat := 1000

/-- `RECENT_RUNTIME_EVENT_LIMIT`. -/
def recentRuntimeEventLimit : Nat := 500

/-- `toConnectionState(phase)`. -/
def toConnectionState : ConnectionPhase → ConnectionState
  | .idle | .disconnected => .idle
  | .hydrating | .connecting | .reconnecting => .connecting
  | .replaying | .live => .open
  | .failed => .error

/-- `RuntimeStoreState`, from `INITIAL_STATE`. -/
structure RuntimeStoreState where
  connection : ConnectionMeta := {}
  runtime : RuntimeMeta := {}
  replay : ReplayMeta := {}
  queue : Option Json := none
  tasksById : Dict String TaskSnapshot := .empty
  taskIdsByState : TaskIdsByState := fun _ => []
  timeline : NormalizedTimelineState := {}
  warnings : NormalizedWarningState := {}
  metrics : NormalizedMetricsState := {}
  events : List TaskLifecycleEvent := []
  recentRuntimeEvents : List RecentRuntimeEventEntry := []
  selectedTaskId : Option String := none
  lastSequence : Int := 0
  stats : ReconciliationStats := {}

/-- `appendBounded(items, entry, limit)`. -/
def appendBounded {α : Type _} (items : List α) (entry : α) (limit : Nat) : List α :=
  if limit = 0 then []
  else if items.length < limit then items ++ [entry]
  -- drops one more than the excess, to make room for the entry
  else items.drop (items.length - limit + 1) ++ [entry]

/-- `categorizeEventType(eventType)`. -/
def categorizeEventType (eventType : String) : String :=
  if eventType = "unknown" ∨ eventType = "" then ""
  else
    match eventType.splitOn "." with
    | first :: second :: _ => first ++ "." ++ second
    | _ => eventType

/-- `describeRuntimeEvent(envelope)`. -/
def describeRuntimeEvent (envelope : RuntimeEnvelope) (payload : RuntimeEventPayload) :
    RecentRuntimeEventEntry :=
  let (rawEventType, rawTaskId) := match payload with
    | .task event => (some event.eventType, some event.taskId)
    | .other eventType taskId _ => (eventType, taskId)
  let eventType := match rawEventType with
    | none | some "" => "unknown"
    | some eventType => eventType
  { sequence := envelope.sequence
    eventType := eventType
    category := categorizeEventType eventType
    timestamp := envelope.timestamp
    taskId := rawTaskId
    payload := payload }

namespace RuntimeStoreState

/-- `connection.lastFrameAtMonotonicMs = performance.now()`. -/
def touch (s : RuntimeStoreState) (now : ℚ) : RuntimeStoreState :=
  { s with connection := { s.connection with lastFrameAtMonotonicMs := now } }

/-- `stats.envelopesApplied + 1`. -/
def countApplied (s : RuntimeStoreState) : RuntimeStoreState :=
  { s with stats := { s.stats with envelopesApplied := s.stats.envelopesApplied + 1 } }

/-! ## The reducer of each envelope type -/

/-- `reduceHeartbeatEnvelope`. -/
def reduceHeartbeatEnvelope (s : RuntimeStoreState) (now : ℚ) (serverUptimeSeconds : Option ℚ)
    (connectedClients : Option Int) : RuntimeStoreState :=
  { (s.touch now).countApplied with
    runtime := reduceHeartbeat s.runtime serverUptimeSeconds connectedClients }

/-- `KNOWN_RUNTIME_STATUSES`. -/
def knownRuntimeStatuses : List String := ["idle", "running", "paused", "stopped", "shutting_down"]

/-- `reduceSystemStatusEnvelope`. -/
def reduceSystemStatusEnvelope (s : RuntimeStoreState) (now : ℚ) (runtimeStatus : Option String) :
    RuntimeStoreState :=
  let status := match runtimeStatus with
    | none => s.runtime.status
    | some status => if status ∈ knownRuntimeStatuses then status else s.runtime.status
  { (s.touch now).countApplied with runtime := { s.runtime with status := status } }

/-- `reduceRuntimeSnapshotEnvelope`: the cursor is the larger of the two, so that
    it never goes back. -/
def reduceRuntimeSnapshotEnvelope (s : RuntimeStoreState) (now : ℚ)
    (payload : RuntimeSnapshotPayload) : RuntimeStoreState :=
  let tasks := payload.tasks.getD (payload.stateTasks.getD [])
  let (tasksById, taskIdsByState) := normalizeTasks tasks
  let last := payload.lastSequence.getD 0
  { (s.touch now).countApplied with
    tasksById := tasksById
    taskIdsByState := taskIdsByState
    lastSequence := maxSequence s.lastSequence (some last)
    runtime := { s.runtime with clock := payload.clock <|> s.runtime.clock }
    queue := payload.queue <|> s.queue }

/-- The part of `reduceRuntimeEventEnvelope` that every event goes through. -/
def recordRuntimeEvent (s : RuntimeStoreState) (now : ℚ) (envelope : RuntimeEnvelope)
    (payload : RuntimeEventPayload) : RuntimeStoreState :=
  let trace := describeRuntimeEvent envelope payload
  let categories := s.stats.runtimeEventsByCategory
  { s.touch now with
    recentRuntimeEvents := appendBounded s.recentRuntimeEvents trace recentRuntimeEventLimit
    lastSequence := maxSequence s.lastSequence envelope.sequence
    stats := { s.stats with
      envelopesApplied := s.stats.envelopesApplied + 1
      runtimeEventsByCategory :=
        if trace.category = "" then categories
        else categories.set trace.category ((categories.get? trace.category).getD 0 + 1)
      unhandledRuntimeEvents :=
        if trace.eventType = "unknown" then s.stats.unhandledRuntimeEvents + 1
        else s.stats.unhandledRuntimeEvents } }

/-- `reduceRuntimeEventEnvelope`. -/
def reduceRuntimeEventEnvelope (s : RuntimeStoreState) (now : ℚ) (envelope : RuntimeEnvelope)
    (payload : RuntimeEventPayload) : RuntimeStoreState :=
  let base := s.recordRuntimeEvent now envelope payload
  match taskLifecycleEvent? payload with
  | none => base
  | some event =>
    let existing := s.tasksById.get? event.taskId
    let (next, regressed) := reduceTaskEvent event existing
    { base with
      tasksById := s.tasksById.set event.taskId next
      taskIdsByState := reindexTaskState s.taskIdsByState event.taskId
        (existing.map RuntimeTask.state) next.state
      events := appendBounded s.events event eventBufferLimit
      stats := { base.stats with
        regressionsSuppressed :=
          if regressed then base.stats.regressionsSuppressed + 1
          else base.stats.regressionsSuppressed } }

/-- `reduceMetricsDeltaEnvelope`. -/
def reduceMetricsDeltaEnvelope (s : RuntimeStoreState) (now : ℚ) (envelope : RuntimeEnvelope)
    (payload : MetricsDelta) : RuntimeStoreState :=
  { s.touch now with
    metrics := reduceMetricsDelta s.metrics payload
    lastSequence := maxSequence s.lastSequence envelope.sequence
    stats := { s.stats with
      envelopesApplied := s.stats.envelopesApplied + 1
      metricsDeltasApplied := s.stats.metricsDeltasApplied + 1 } }

/-- `reduceWarningDeltaEnvelope`. -/
def reduceWarningDeltaEnvelope (s : RuntimeStoreState) (now : ℚ) (envelope : RuntimeEnvelope)
    (payload : WarningDelta) : RuntimeStoreState :=
  { s.touch now with
    warnings := reduceWarningDelta s.warnings payload
    lastSequence := maxSequence s.lastSequence envelope.sequence
    stats := { s.stats with
      envelopesApplied := s.stats.envelopesApplied + 1
      warningDeltasApplied := s.stats.warningDeltasApplied + 1 } }

/-- `reduceTimelineDeltaEnvelope`. -/
def reduceTimelineDeltaEnvelope (s : RuntimeStoreState) (now : ℚ) (envelope : RuntimeEnvelope)
    (payload : TimelineDelta) : RuntimeStoreState :=
  { s.touch now with
    timeline := reduceTimelineDelta s.timeline payload
    lastSequence := maxSequence s.lastSequence envelope.sequence
    stats := { s.stats with
      envelopesApplied := s.stats.envelopesApplied + 1
      timelineDeltasApplied := s.stats.timelineDeltasApplied + 1 } }

/-- `KNOWN_REPLAY_PLAYBACK_STATES`. -/
def knownReplayPlaybackStates : List String :=
  ["idle", "playing", "paused", "seeking", "buffering", "stopped", "failed"]

/-- `reduceReplayStatusEnvelope`. -/
def reduceReplayStatusEnvelope (s : RuntimeStoreState) (now : ℚ) (playbackState : Option String) :
    RuntimeStoreState :=
  let state := match playbackState with
    | none => s.runtime.replayPlaybackState
    | some state =>
      if state ∈ knownReplayPlaybackStates then some state else s.runtime.replayPlaybackState
  { (s.touch now).countApplied with
    runtime := { s.runtime with replayActive := true, replayPlaybackState := state } }

/-! ## Dispatch -/

/-- The switch of `applyEnvelopeReducer`. -/
def dispatch (s : RuntimeStoreState) (now : ℚ) (envelope : RuntimeEnvelope) : RuntimeStoreState :=
  match envelope.payload with
  | .heartbeat uptime clients => s.reduceHeartbeatEnvelope now uptime clients
  | .systemStatus status => s.reduceSystemStatusEnvelope now status
  | .runtimeSnapshot payload => s.reduceRuntimeSnapshotEnvelope now payload
  | .runtimeEvent payload => s.reduceRuntimeEventEnvelope now envelope payload
  | .metricsDelta payload => s.reduceMetricsDeltaEnvelope now envelope payload
  | .warningDelta payload => s.reduceWarningDeltaEnvelope now envelope payload
  | .timelineDelta payload => s.reduceTimelineDeltaEnvelope now envelope payload
  | .protocolError =>
    { s with stats := { s.stats with protocolErrors := s.stats.protocolErrors + 1 } }
  | .replayStatus playbackState => s.reduceReplayStatusEnvelope now playbackState

/-- `applyEnvelopeReducer(prev, envelope)`: the ordered types are gated by the
    store's own cursor. -/
def applyEnvelopeReducer (s : RuntimeStoreState) (now : ℚ) (envelope : RuntimeEnvelope) :
    RuntimeStoreState :=
  if envelope.payload.isOrdered then
    match decideStoreSequence envelope.sequence s.lastSequence with
    | .duplicate =>
      { s with stats := { s.stats with duplicatesDropped := s.stats.duplicatesDropped + 1 } }
    | .stale => { s with stats := { s.stats with staleDropped := s.stats.staleDropped + 1 } }
    | .accept | .outOfOrder => s.dispatch now envelope
  else s.dispatch now envelope

/-- `applyReplayBatch(envelopes)`. -/
def applyReplayBatch (s : RuntimeStoreState) (envelopes : List (ℚ × RuntimeEnvelope)) :
    RuntimeStoreState :=
  envelopes.foldl (fun s e => s.applyEnvelopeReducer e.1 e.2) s

/-- `hydrateSnapshot(snapshot, durationMs)`: the cursor is the snapshot's. -/
def hydrateSnapshot (s : RuntimeStoreState) (now : ℚ) (snapshot : RuntimeSnapshot)
    (durationMs : ℚ) : RuntimeStoreState :=
  let (tasksById, taskIdsByState) := normalizeTasks (snapshot.stateTasks.getD [])
  { s.touch now with
    runtime := { s.runtime with runtimeId := some snapshot.runtimeId, clock := some snapshot.clock }
    replay :=
      { oldestRetainedSequence := snapshot.oldestRetainedSequence
        newestRetainedSequence := snapshot.newestRetainedSequence
        windowHit := snapshot.replayWindowHit }
    queue := snapshot.queue
    tasksById := tasksById
    taskIdsByState := taskIdsByState
    timeline := normalizeTimeline snapshot.timeline
    warnings := normalizeWarnings snapshot.warnings
    metrics := { aggregate := snapshot.metrics, deltaCounts := .empty }
    lastSequence := snapshot.lastSequence
    stats := { s.stats with
      hydrations := s.stats.hydrations + 1
      lastHydrationDurationMs := durationMs } }

/-- `setConnectionPhase(phase, reconnectAttempts)`. -/
def setConnectionPhase (s : RuntimeStoreState) (phase : ConnectionPhase)
    (reconnectAttempts : Option Nat) : RuntimeStoreState :=
  { s with connection :=
    { s.connection with
      phase := phase
      state := toConnectionState phase
      reconnectAttempts := reconnectAttempts.getD s.connection.reconnectAttempts } }

/-! ## The store's cursor -/

/-- What the gate lets through of an ordered envelope moves the cursor to its
    sequence; what it drops leaves the cursor alone. -/
theorem applyEnvelopeReducer_lastSequence {s : RuntimeStoreState} {now : ℚ}
    {envelope : RuntimeEnvelope} (h : envelope.payload.isOrdered = true) :
    (s.applyEnvelopeReducer now envelope).lastSequence =
      maxSequence s.lastSequence envelope.sequence := by
  have hdispatch : (s.dispatch now envelope).lastSequence =
      maxSequence s.lastSequence envelope.sequence := by
    rw [dispatch]
    cases hpayload : envelope.payload with
    | runtimeEvent payload =>
      dsimp only
      rw [reduceRuntimeEventEnvelope]
      split <;> rfl
    | metricsDelta payload => rfl
    | warningDelta payload => rfl
    | timelineDelta payload => rfl
    | heartbeat | systemStatus | runtimeSnapshot | protocolError | replayStatus =>
      rw [hpayload] at h
      cases h
  -- what the gate drops is not above the cursor, so the maximum is the cursor itself
  have hdropped : (decideStoreSequence envelope.sequence s.lastSequence).Accepted ∨
      maxSequence s.lastSequence envelope.sequence = s.lastSequence := by
    cases hsequence : envelope.sequence with
    | none => exact .inr rfl
    | some n =>
      by_cases habove : s.lastSequence < n
      · exact .inl (decideStoreSequence_accepted_iff.mpr habove)
      · exact .inr (if_neg habove)
  rw [applyEnvelopeReducer]
  rw [if_pos h]
  cases hdecision : decideStoreSequence envelope.sequence s.lastSequence with
  | accept | outOfOrder => exact hdispatch
  | duplicate | stale =>
    rw [hdecision] at hdropped
    rcases hdropped with habsurd | hsame
    · exact absurd habsurd not_false
    · exact hsame.symm

/-- The other envelopes leave the cursor alone, but for a snapshot. -/
theorem applyEnvelopeReducer_lastSequence_of_not_ordered {s : RuntimeStoreState} {now : ℚ}
    {envelope : RuntimeEnvelope} (h : envelope.payload.isOrdered = false) :
    (s.applyEnvelopeReducer now envelope).lastSequence =
      match envelope.payload with
      | .runtimeSnapshot payload => maxSequence s.lastSequence (some (payload.lastSequence.getD 0))
      | _ => s.lastSequence := by
  rw [applyEnvelopeReducer]
  rw [if_neg (by rw [h]; exact Bool.false_ne_true)]
  rw [dispatch]
  cases hpayload : envelope.payload with
  | heartbeat | systemStatus | runtimeSnapshot | protocolError | replayStatus => rfl
  | runtimeEvent | metricsDelta | warningDelta | timelineDelta =>
    rw [hpayload] at h
    cases h

/-! ## The task states shown -/

/-- The lifecycle state the store holds for each task id. -/
def states (s : RuntimeStoreState) : String → Option TaskState :=
  fun id => (s.tasksById.get? id).map RuntimeTask.state

/-- A task event that the gate lets through sets the state of its task. -/
theorem states_applyEnvelope_task {s : RuntimeStoreState} {now : ℚ} {envelope : RuntimeEnvelope}
    {payload : RuntimeEventPayload} {event : TaskLifecycleEvent} {target : TaskState}
    (hpayload : envelope.payload = .runtimeEvent payload)
    (hevent : taskLifecycleEvent? payload = some event)
    (htarget : eventToState event.eventType = some target)
    (haccepted : (decideStoreSequence envelope.sequence s.lastSequence).Accepted) :
    (s.applyEnvelopeReducer now envelope).states =
      Function.update s.states event.taskId
        (some (effectiveState (s.states event.taskId) target)) := by
  have hdispatch : (s.dispatch now envelope).states =
      Function.update s.states event.taskId
        (some (effectiveState (s.states event.taskId) target)) := by
    unfold dispatch reduceRuntimeEventEnvelope
    rw [hpayload]
    dsimp only
    rw [hevent]
    funext id
    show ((s.tasksById.set event.taskId _).get? id).map RuntimeTask.state = _
    -- only the entry of the event's task is written
    by_cases hid : id = event.taskId
    · subst hid
      rw [Dict.get?_set_self, Function.update_self]
      show some (reduceTaskEvent event (s.tasksById.get? event.taskId)).1.state = _
      rw [reduceTaskEvent_state, htarget]
      rfl
    · rw [Dict.get?_set_of_ne _ _ hid, Function.update_of_ne hid]
      rfl
  rw [applyEnvelopeReducer]
  rw [hpayload]
  cases hdecision : decideStoreSequence envelope.sequence s.lastSequence with
  | accept | outOfOrder => exact hdispatch
  | duplicate | stale =>
    rw [hdecision] at haccepted
    exact absurd haccepted not_false

/-- What the gate drops changes no state. -/
theorem states_applyEnvelope_dropped {s : RuntimeStoreState} {now : ℚ} {envelope : RuntimeEnvelope}
    (hordered : envelope.payload.isOrdered = true)
    (hdropped : ¬ (decideStoreSequence envelope.sequence s.lastSequence).Accepted) :
    (s.applyEnvelopeReducer now envelope).states = s.states := by
  rw [applyEnvelopeReducer]
  rw [if_pos hordered]
  cases hdecision : decideStoreSequence envelope.sequence s.lastSequence with
  | duplicate | stale => rfl
  | accept | outOfOrder =>
    rw [hdecision] at hdropped
    exact absurd trivial hdropped

end RuntimeStoreState

end AsyncViz.Frontend
