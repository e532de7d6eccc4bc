/-
  AsyncViz.Runtime.Timeline.Engine

  `TimelineSegmentEngine` (`runtime/timeline/engine.py`) with the per-intent
  reducers (`reducers.py`, `lifecycle.py`) and its counters (`metrics.py`).

  `applyTransition` returns the deltas that a subscriber is told, in the order in
  which it is told them; an engine without subscribers tells nobody.
-/

import AsyncViz.Runtime.State.Store
import AsyncViz.Runtime.Timeline.Models

namespace AsyncViz.Runtime.Timeline

open AsyncViz.Lib AsyncViz.Runtime.State

/-! ## Reducers -/

/-- Why a transition is rejected. -/
inductive TimelineRejection where
  | noIntent (target : TaskState)
  | alreadyCreated (taskId : String)
  | alreadyTerminal (taskId : String) (terminal : TaskState)
  | notCreated (taskId : String)
deriving DecidableEq, Repr

/-- The text of each reason. -/
def TimelineRejection.message : TimelineRejection → String
  | .noIntent target => s!"no segmentation intent for target '{target.wire}'"
  | .alreadyCreated taskId => s!"task '{taskId}' already created"
  | .alreadyTerminal taskId terminal => s!"task '{taskId}' already terminal in '{terminal.wire}'"
  | .notCreated taskId => s!"task '{taskId}' has no CREATED transition yet"

/-- `TimelineReducerResult`. -/
structure TimelineReducerResult where
  applied : Bool
  closedASegment : Bool
  openedSegmentType : Option SegmentType
  finalizedTask : Bool
  reason : Option TimelineRejection := none
  invalid : Bool := false
deriving DecidableEq, Repr

/-- `TimelineReducerResult.rejected`. -/
def TimelineReducerResult.rejected (reason : TimelineRejection) (invalid : Bool) :
    TimelineReducerResult :=
  { applied := false
    closedASegment := false
    openedSegmentType := none
    finalizedTask := false
    reason := some reason
    invalid := invalid }

/-- The arguments of `apply_transition`. -/
structure Transition where
  taskId : String
  target : TaskState
  sequence : Option Int
  monotonicNs : Int
  wallSeconds : ℚ
  parentTaskId : Option String := none
  coroutineName : Option String := none
  taskName : Option String := none
  depth : Nat := 0
  rootTaskId : Option String := none

/-- `close_open_segment`, with whether there was one. -/
def closeOpenSegment (s : TaskTimelineState) (t : Transition) : Bool × TaskTimelineState :=
  match s.openSegment with
  -- nothing to close: a terminal event may come before the task ran
  | none => (false, s)
  | some openSegment =>
    let segment := finalizeSegment openSegment t.sequence t.monotonicNs t.wallSeconds
    (true, { s with
      segments := s.segments ++ [segment]
      runDurationNs :=
        match segment.segmentType with
        | .run => s.runDurationNs + segment.durationNs
        | .wait => s.runDurationNs
      waitDurationNs :=
        match segment.segmentType with
        | .run => s.waitDurationNs
        | .wait => s.waitDurationNs + segment.durationNs
      openSegment := none })

/-- `open_new_segment`. -/
def openNewSegment (s : TaskTimelineState) (segmentType : SegmentType) (t : Transition)
    (targetState : TaskState) : TaskTimelineState :=
  let (segmentId, s) := s.nextSegmentId
  let segment : OpenSegment :=
    { taskId := s.taskId
      segmentId := segmentId
      segmentType := segmentType
      sequenceStart := t.sequence
      monotonicStartNs := t.monotonicNs
      wallStart := t.wallSeconds
      state := targetState
      parentTaskId := s.parentTaskId
      coroutineName := s.coroutineName
      taskName := s.taskName }
  { s with openSegment := some segment }

/-- `finalize_task`. -/
def finalizeTask (s : TaskTimelineState) (t : Transition) : TaskTimelineState :=
  { s with
    terminalState := some t.target
    terminatedAtMonotonicNs := some t.monotonicNs
    terminatedAtWall := some t.wallSeconds }

/-- `reduce_create`. -/
def reduceCreate (s : TaskTimelineState) (t : Transition) :
    TimelineReducerResult × TaskTimelineState :=
  if s.created then (.rejected (.alreadyCreated s.taskId) true, s)
  else
    ({ applied := true, closedASegment := false, openedSegmentType := none,
        finalizedTask := false },
      { s with
        created := true
        createdAtMonotonicNs := t.monotonicNs
        createdAtWall := t.wallSeconds
        parentTaskId := t.parentTaskId
        coroutineName := t.coroutineName
        taskName := t.taskName
        depth := t.depth
        -- `root_task_id or state.task_id`: the empty string is falsy
        rootTaskId := some (match t.rootTaskId with
          | none | some "" => s.taskId
          | some root => root) })

/-- The common shape of `reduce_open_run` and `reduce_open_wait`: close what is
    open, then open a segment of the given type. -/
def reduceOpen (segmentType : SegmentType) (targetState : TaskState) (s : TaskTimelineState)
    (t : Transition) : TimelineReducerResult × TaskTimelineState :=
  match s.terminalState with
  | some terminal => (.rejected (.alreadyTerminal s.taskId terminal) true, s)
  | none =>
    if s.created then
      let (closed, s) := closeOpenSegment s t
      ({ applied := true, closedASegment := closed, openedSegmentType := some segmentType,
         finalizedTask := false },
        openNewSegment s segmentType t targetState)
    else (.rejected (.notCreated s.taskId) true, s)

/-- `reduce_open_run`. -/
def reduceOpenRun : TaskTimelineState → Transition → TimelineReducerResult × TaskTimelineState :=
  reduceOpen .run .running

/-- `reduce_open_wait`. -/
def reduceOpenWait : TaskTimelineState → Transition → TimelineReducerResult × TaskTimelineState :=
  reduceOpen .wait .waiting

/-- `reduce_close_and_finalize`; unlike its siblings it takes a task that was never
    created. -/
def reduceCloseAndFinalize (s : TaskTimelineState) (t : Transition) :
    TimelineReducerResult × TaskTimelineState :=
  match s.terminalState with
  | some terminal => (.rejected (.alreadyTerminal s.taskId terminal) true, s)
  | none =>
    let (closed, s) := closeOpenSegment s t
    ({ applied := true, closedASegment := closed, openedSegmentType := none,
        finalizedTask := true },
      finalizeTask s t)

/-! ## Metrics -/

/-- `TimelineMetrics`. -/
structure TimelineMetrics where
  transitionsApplied : Nat := 0
  transitionsRejected : Nat := 0
  segmentsOpened : Nat := 0
  segmentsClosed : Nat := 0
  segmentsByType : SegmentType → Nat := fun _ => 0
  invalidTransitions : Nat := 0
  activeSegments : Nat := 0
  finalizedSpans : Nat := 0
  rebuildsCompleted : Nat := 0

namespace TimelineMetrics

def recordApplied (m : TimelineMetrics) : TimelineMetrics :=
  { m with transitionsApplied := m.transitionsApplied + 1 }

def recordRejected (m : TimelineMetrics) (invalid : Bool) : TimelineMetrics :=
  { m with
    transitionsRejected := m.transitionsRejected + 1
    invalidTransitions := if invalid then m.invalidTransitions + 1 else m.invalidTransitions }

def recordSegmentOpened (m : TimelineMetrics) (segmentType : SegmentType) : TimelineMetrics :=
  { m with
    segmentsOpened := m.segmentsOpened + 1
    segmentsByType := fun t =>
      if t = segmentType then m.segmentsByType t + 1 else m.segmentsByType t
    activeSegments := m.activeSegments + 1 }

/-- The gauge never goes below zero. -/
def recordSegmentClosed (m : TimelineMetrics) : TimelineMetrics :=
  { m with
    segmentsClosed := m.segmentsClosed + 1
    activeSegments := m.activeSegments - 1 }

def recordFinalizedSpan (m : TimelineMetrics) : TimelineMetrics :=
  { m with finalizedSpans := m.finalizedSpans + 1 }

/-- What `apply_transition` counts for an applied transition. -/
def recordResult (m : TimelineMetrics) (r : TimelineReducerResult) : TimelineMetrics :=
  let m := m.recordApplied
  let m := if r.closedASegment then m.recordSegmentClosed else m
  let m := match r.openedSegmentType with
    | none => m
    | some segmentType => m.recordSegmentOpened segmentType
  if r.finalizedTask then m.recordFinalizedSpan else m

end TimelineMetrics

/-! ## The engine -/

/-- `TimelineSegmentEngine`. -/
structure TimelineSegmentEngine where
  states : Dict String TaskTimelineState := .empty
  metrics : TimelineMetrics := {}
  lastSequence : Int := 0

namespace TimelineSegmentEngine

/-- `engine._emit_deltas_for`: closed before opened, the finalization last. -/
def emitDeltasFor (t : Transition) (result : TimelineReducerResult) (state : TaskTimelineState) :
    List TimelineDelta :=
  let closed : List TimelineDelta :=
    match if result.closedASegment then state.segments.getLast? else none with
    | none => []
    | some segment =>
      [{ kind := .segmentClosed
         taskId := t.taskId
         sequence := t.sequence
         monotonicNs := t.monotonicNs
         wallSeconds := t.wallSeconds
         segment := some segment
         closedASegment := true }]
  let opened : List TimelineDelta :=
    match if result.openedSegmentType.isSome then state.openSegment else none with
    | none => []
    | some openSegment =>
      [{ kind := .segmentOpened
         taskId := t.taskId
         sequence := t.sequence
         monotonicNs := t.monotonicNs
         wallSeconds := t.wallSeconds
         openSegment := some (viewActive openSegment) }]
  let finalized : List TimelineDelta :=
    if result.finalizedTask then
      [{ kind := .spanFinalized
         taskId := t.taskId
         sequence := t.sequence
         monotonicNs := t.monotonicNs
         wallSeconds := t.wallSeconds
         terminalState := state.terminalState }]
    else []
  closed ++ opened ++ finalized

/-- The reducer of an intent; none for an ignored one. -/
def reducerFor : SegmentIntent →
    Option (TaskTimelineState → Transition → TimelineReducerResult × TaskTimelineState)
  | .create => some reduceCreate
  | .openRun => some reduceOpenRun
  | .openWait => some reduceOpenWait
  | .closeAndFinalize => some reduceCloseAndFinalize
  | .ignore => none

/-- `engine.apply_transition(...)`: the result, the engine after it, and the deltas.
    A task seen for the first time gets its working set even when the transition
    is rejected. -/
def applyTransition (e : TimelineSegmentEngine) (t : Transition) :
    TimelineReducerResult × TimelineSegmentEngine × List TimelineDelta :=
  match reducerFor (intentFor t.target) with
  | none =>
    (.rejected (.noIntent t.target) false,
      { e with metrics := e.metrics.recordRejected false }, [])
  | some reducer =>
    let state := (e.states.get? t.taskId).getD { taskId := t.taskId }
    let (result, state) := reducer state t
    let states := e.states.set t.taskId state
    if result.applied then
      (result,
        { states := states
          metrics := e.metrics.recordResult result
          lastSequence := match t.sequence with
            | none => e.lastSequence
            | some sequence => if sequence > e.lastSequence then sequence else e.lastSequence },
        emitDeltasFor t result state)
    else
      (result, { e with states := states, metrics := e.metrics.recordRejected result.invalid }, [])

/-- `_EVENT_STATE_MAP`. -/
def eventToState (eventType : String) : Option TaskState :=
  match eventType with
  | "asyncio.task.created" => some .created
  | "asyncio.task.started" => some .running
  | "asyncio.task.waiting" => some .waiting
  | "asyncio.task.resumed" => some .running
  | "asyncio.task.completed" => some .completed
  | "asyncio.task.cancelled" => some .cancelled
  | "asyncio.task.failed" => some .failed
  | _ => none

/-- The transition the bound listener makes of a change: the task's metadata is
    looked up in the registry, which has applied the event by then. -/
def transitionOf (registry : Tasks.TaskRegistry) (change : StateChange) : Option Transition :=
  match eventToState change.event.eventType, change.event.strField? "task_id" with
  | some target, some taskId =>
    let task := registry.get taskId
    some
      { taskId := taskId
        target := target
        sequence := change.sequence
        monotonicNs := change.event.monotonicNs
        wallSeconds := change.event.timestamp
        parentTaskId := task.bind Tasks.RuntimeTask.parentTaskId
        coroutineName := task.bind Tasks.RuntimeTask.coroutineName
        taskName := task.bind Tasks.RuntimeTask.taskName
        depth := (task.map Tasks.RuntimeTask.depth).getD 0
        rootTaskId := task.bind Tasks.RuntimeTask.rootTaskId }
  | _, _ => none

/-- The listener `engine.bind(store)` subscribes, with the deltas it causes. -/
def observe (e : TimelineSegmentEngine) (registry : Tasks.TaskRegistry) (change : StateChange) :
    TimelineSegmentEngine × List TimelineDelta :=
  match transitionOf registry change with
  | none => (e, [])
  | some t => (e.applyTransition t).2

end TimelineSegmentEngine

end AsyncViz.Runtime.Timeline
