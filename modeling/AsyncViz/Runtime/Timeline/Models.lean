/-
  AsyncViz.Runtime.Timeline.Models

  The values of the timeline subsystem (`runtime/timeline`): segments
  (`models.py`, `segments.py`), the per-task working set (`spans.py`), the
  segmentation intents (`normalization.py`) and the deltas a subscriber is told
  (`streaming.py`).

  A state is written as its `TaskState`; on the wire it is the state's value.
-/

import AsyncViz.Runtime.Tasks.Models

namespace AsyncViz.Runtime.Timeline

open AsyncViz.Lib

/-! ## Segments -/

/-- The two segment types, `"run"` and `"wait"`. -/
inductive SegmentType where
  | run
  | wait
deriving DecidableEq, Repr

/-- `TimelineSegment`, a finalized interval. -/
structure TimelineSegment where
  taskId : String
  segmentId : String
  segmentType : SegmentType
  sequenceStart : Option Int
  sequenceEnd : Option Int
  monotonicStartNs : Int
  monotonicEndNs : Int
  durationNs : Int
  wallStart : ℚ
  wallEnd : ℚ
  state : TaskState
  parentTaskId : Option String
  coroutineName : Option String
  taskName : Option String
  metadata : Dict String Json

/-- `ActiveTimelineSegment`, the view of an open interval. -/
structure ActiveTimelineSegment where
  taskId : String
  segmentId : String
  segmentType : SegmentType
  sequenceStart : Option Int
  monotonicStartNs : Int
  wallStart : ℚ
  state : TaskState
  parentTaskId : Option String
  coroutineName : Option String
  taskName : Option String

/-- `OpenSegment`, a segment whose end has not been observed. -/
structure OpenSegment where
  taskId : String
  segmentId : String
  segmentType : SegmentType
  sequenceStart : Option Int
  monotonicStartNs : Int
  wallStart : ℚ
  state : TaskState
  parentTaskId : Option String := none
  coroutineName : Option String := none
  taskName : Option String := none
  metadata : Dict String Json := .empty

/-- `finalize_segment`: the duration is clamped to non-negative. -/
def finalizeSegment (s : OpenSegment) (sequenceEnd : Option Int) (monotonicEndNs : Int)
    (wallEnd : ℚ) : TimelineSegment :=
  { taskId := s.taskId
    segmentId := s.segmentId
    segmentType := s.segmentType
    sequenceStart := s.sequenceStart
    sequenceEnd := sequenceEnd
    monotonicStartNs := s.monotonicStartNs
    monotonicEndNs := monotonicEndNs
    durationNs := max 0 (monotonicEndNs - s.monotonicStartNs)
    wallStart := s.wallStart
    wallEnd := wallEnd
    state := s.state
    parentTaskId := s.parentTaskId
    coroutineName := s.coroutineName
    taskName := s.taskName
    metadata := s.metadata }

/-- `view_active`. -/
def viewActive (s : OpenSegment) : ActiveTimelineSegment :=
  { taskId := s.taskId
    segmentId := s.segmentId
    segmentType := s.segmentType
    sequenceStart := s.sequenceStart
    monotonicStartNs := s.monotonicStartNs
    wallStart := s.wallStart
    state := s.state
    parentTaskId := s.parentTaskId
    coroutineName := s.coroutineName
    taskName := s.taskName }

/-! ## The working set of a task -/

/-- `TaskTimelineState`. -/
structure TaskTimelineState where
  taskId : String
  parentTaskId : Option String := none
  coroutineName : Option String := none
  taskName : Option String := none
  created : Bool := false
  createdAtMonotonicNs : Int := 0
  createdAtWall : ℚ := 0
  terminatedAtMonotonicNs : Option Int := none
  terminatedAtWall : Option ℚ := none
  terminalState : Option TaskState := none
  openSegment : Option OpenSegment := none
  segments : List TimelineSegment := []
  segmentCounter : Nat := 0
  runDurationNs : Int := 0
  waitDurationNs : Int := 0
  depth : Nat := 0
  rootTaskId : Option String := none

/-- `state.next_segment_id()`. -/
def TaskTimelineState.nextSegmentId (s : TaskTimelineState) : String × TaskTimelineState :=
  (s!"{s.taskId}:{s.segmentCounter}", { s with segmentCounter := s.segmentCounter + 1 })

/-! ## Intents -/

/-- `SegmentIntent`. -/
inductive SegmentIntent where
  | create
  | openRun
  | openWait
  | closeAndFinalize
  | ignore
deriving DecidableEq, Repr

/-- `intent_for`, over `INTENT_BY_TARGET`. -/
def intentFor : TaskState → SegmentIntent
  | .created => .create
  | .running => .openRun
  | .waiting => .openWait
  | .completed | .cancelled | .failed => .closeAndFinalize

/-- Every lifecycle state has an intent. -/
theorem intentFor_ne_ignore (target : TaskState) : intentFor target ≠ .ignore := by
  cases target <;> decide

/-! ## Deltas -/

/-- `TimelineDeltaKind`. -/
inductive TimelineDeltaKind where
  | segmentOpened
  | segmentClosed
  | spanFinalized
deriving DecidableEq, Repr

/-- `TimelineDelta`. -/
structure TimelineDelta where
  kind : TimelineDeltaKind
  taskId : String
  sequence : Option Int
  monotonicNs : Int
  wallSeconds : ℚ
  segment : Option TimelineSegment := none
  openSegment : Option ActiveTimelineSegment := none
  terminalState : Option TaskState := none
  closedASegment : Bool := false

end AsyncViz.Runtime.Timeline
