/-
  AsyncViz.Frontend.Live.Invalidation

  What an envelope makes dirty on the timeline's canvas (`dashboard/timeline/live/`): the tracker
  of dirty regions, the batch that it drains into (`TimelineDirtyRegions.ts`), the delta processor
  and the replay coordinator.

  A region's time, which nothing reads, and the counters of the processor and the coordinator are
  left out.
-/

import AsyncViz.Frontend.Models

namespace AsyncViz.Frontend.Live

open AsyncViz.Runtime.Timeline AsyncViz.Runtime.Warnings

/-! ## Regions and batches -/

/-- `InvalidationReason`. -/
inductive InvalidationReason where
  | row
  | segment
  | viewport
  | selection
  | warning
  | replay
  | activeTick
  | manual
  | deltaBatch
  | hydration
deriving DecidableEq, Repr

/-- `DirtyRegion`. -/
structure DirtyRegion where
  reason : InvalidationReason
  taskIds : Option (List String) := none
  segmentIds : Option (List String) := none
  sequence : Option Int := none
deriving DecidableEq, Repr

/-- `InvalidationBatch`.  A set lists its members in the order in which they came. -/
structure InvalidationBatch where
  reasons : List InvalidationReason := []
  taskIds : List String := []
  segmentIds : List String := []
  highestSequence : Int := 0
  regionCount : Nat := 0
  includesViewport : Bool := false
  includesActiveTick : Bool := false
deriving DecidableEq, Repr

/-- `set.add(x)`. -/
def addTo {α : Type _} [DecidableEq α] (set : List α) (x : α) : List α :=
  if x ∈ set then set else set ++ [x]

/-- The body of the loop of `coalesceRegions`. -/
def absorb (batch : InvalidationBatch) (region : DirtyRegion) : InvalidationBatch where
  reasons := addTo batch.reasons region.reason
  taskIds := (region.taskIds.getD []).foldl addTo batch.taskIds
  segmentIds := (region.segmentIds.getD []).foldl addTo batch.segmentIds
  highestSequence := match region.sequence with
    | none => batch.highestSequence
    | some sequence =>
      if sequence > batch.highestSequence then sequence else batch.highestSequence
  regionCount := batch.regionCount + 1
  includesViewport := batch.includesViewport || region.reason = .viewport
  includesActiveTick := batch.includesActiveTick || region.reason = .activeTick

/-- `coalesceRegions(regions)`; no regions make the empty batch. -/
def coalesceRegions (regions : List DirtyRegion) : InvalidationBatch := regions.foldl absorb {}

/-- `batchIsActionable(batch)`. -/
def batchIsActionable (batch : InvalidationBatch) : Bool := batch.regionCount > 0

/-- `DirtyReason` of the renderer. -/
inductive DirtyReason where
  | viewport
  | camera
  | data
  | selection
  | overlay
  | manual
deriving DecidableEq, Repr

/-- `batchToRendererReason(batch)`. -/
def batchToRendererReason (batch : InvalidationBatch) : DirtyReason :=
  if batch.includesViewport then .viewport
  else if .selection ∈ batch.reasons then .selection
  else if batch.includesActiveTick then .camera
  else if .segment ∈ batch.reasons ∨ .row ∈ batch.reasons ∨ .deltaBatch ∈ batch.reasons ∨
      .hydration ∈ batch.reasons ∨ .replay ∈ batch.reasons ∨ .warning ∈ batch.reasons then .data
  else .manual

theorem regionCount_foldl (regions : List DirtyRegion) (batch : InvalidationBatch) :
    (regions.foldl absorb batch).regionCount = batch.regionCount + regions.length := by
  induction regions generalizing batch with
  | nil => rfl
  | cons region regions ih =>
    rw [List.foldl_cons, ih, List.length_cons]
    show batch.regionCount + 1 + regions.length = _
    omega

/-- A batch counts all regions that it was made of. -/
theorem regionCount_coalesceRegions (regions : List DirtyRegion) :
    (coalesceRegions regions).regionCount = regions.length := by
  rw [coalesceRegions, regionCount_foldl]
  exact Nat.zero_add _

/-- So only the empty batch is not worth a frame. -/
theorem batchIsActionable_iff {regions : List DirtyRegion} :
    batchIsActionable (coalesceRegions regions) = true ↔ regions ≠ [] := by
  rw [batchIsActionable, regionCount_coalesceRegions, decide_eq_true_iff]
  exact List.length_pos_iff

/-! ## The tracker -/

/-- `TimelineInvalidationTracker`, with its regions oldest first. -/
structure TimelineInvalidationTracker where
  regions : List DirtyRegion := []

namespace TimelineInvalidationTracker

/-- `tracker.push(region)`. -/
def push (t : TimelineInvalidationTracker) (region : DirtyRegion) : TimelineInvalidationTracker :=
  ⟨t.regions ++ [region]⟩

/-- `tracker.isDirty()`. -/
def isDirty (t : TimelineInvalidationTracker) : Bool := t.regions.length > 0

/-- `tracker.drain()`. -/
def drain (t : TimelineInvalidationTracker) : InvalidationBatch × TimelineInvalidationTracker :=
  (coalesceRegions t.regions, {})

theorem isDirty_iff {t : TimelineInvalidationTracker} : t.isDirty = true ↔ t.regions ≠ [] := by
  rw [isDirty, decide_eq_true_iff]
  exact List.length_pos_iff

end TimelineInvalidationTracker

/-! ## Envelopes -/

/-- `DeltaProcessResult`. -/
structure DeltaProcessResult where
  invalidated : Bool
  regionsPushed : Nat
  suppressed : Bool
deriving DecidableEq, Repr

/-- Nothing was pushed. -/
def DeltaProcessResult.untouched : DeltaProcessResult := ⟨false, 0, false⟩

/-- `invalidateRow(tracker, taskId, ...)`. -/
def invalidateRow (tracker : TimelineInvalidationTracker) (taskId : String)
    (sequence : Option Int) : TimelineInvalidationTracker :=
  tracker.push { reason := .row, taskIds := some [taskId], sequence := sequence }

/-- `invalidateRows(tracker, taskIds, ...)`. -/
def invalidateRows (tracker : TimelineInvalidationTracker) (taskIds : List String)
    (sequence : Option Int) : TimelineInvalidationTracker :=
  if taskIds.length = 0 then tracker
  else tracker.push { reason := .row, taskIds := some taskIds, sequence := sequence }

/-- `invalidateSegment(tracker, segmentId, taskId, ...)`. -/
def invalidateSegment (tracker : TimelineInvalidationTracker) (segmentId : String)
    (taskId : Option String) (sequence : Option Int) : TimelineInvalidationTracker :=
  tracker.push
    { reason := .segment
      taskIds := taskId.map fun id => [id]
      segmentIds := some [segmentId]
      sequence := sequence }

/-- `invalidateViewport(tracker, ...)`. -/
def invalidateViewport (tracker : TimelineInvalidationTracker) (sequence : Option Int) :
    TimelineInvalidationTracker :=
  tracker.push { reason := .viewport, sequence := sequence }

/-- `invalidateWarnings(tracker, taskIds, ...)`. -/
def invalidateWarnings (tracker : TimelineInvalidationTracker) (taskIds : List String)
    (sequence : Option Int) : TimelineInvalidationTracker :=
  tracker.push
    { reason := .warning
      taskIds := if taskIds.length > 0 then some taskIds else none
      sequence := sequence }

/-- `processTimelineDelta(envelope, tracker)`. -/
def processTimelineDelta (sequence : Option Int) (payload : TimelineDelta)
    (tracker : TimelineInvalidationTracker) : DeltaProcessResult × TimelineInvalidationTracker :=
  let segmentId :=
    (payload.segment.map (·.segmentId)).or (payload.openSegment.map (·.segmentId))
  let tracker := match segmentId with
    | some segmentId => invalidateSegment tracker segmentId (some payload.taskId) sequence
    | none => invalidateRow tracker payload.taskId sequence
  let tracker := if payload.kind = .spanFinalized then
      invalidateRow tracker payload.taskId sequence
    else tracker
  (⟨true, 1, false⟩, tracker)

/-- `processWarningDelta(envelope, tracker)`. -/
def processWarningDelta (sequence : Option Int) (payload : WarningDelta)
    (tracker : TimelineInvalidationTracker) : DeltaProcessResult × TimelineInvalidationTracker :=
  let taskIds := payload.warning.relatedTaskIds
  let tracker := invalidateWarnings tracker taskIds sequence
  let tracker := if taskIds.length > 0 then invalidateRows tracker taskIds sequence else tracker
  (⟨true, if taskIds.length > 0 then 2 else 1, false⟩, tracker)

/-- `processRuntimeEvent(envelope, tracker)`. -/
def processRuntimeEvent (sequence : Option Int) (payload : RuntimeEventPayload)
    (tracker : TimelineInvalidationTracker) : DeltaProcessResult × TimelineInvalidationTracker :=
  let taskId := match payload with
    | .task event => some event.taskId
    | .other _ taskId _ => taskId
  match taskId with
  | none => (.untouched, tracker)
  | some taskId => (⟨true, 1, false⟩, invalidateRow tracker taskId sequence)

/-- The envelope is at or below the sequence that was applied last, if that is given. -/
def isStale (lastAppliedSequence : Int) : Option Int → Bool
  | none => false
  | some sequence => lastAppliedSequence ≥ 0 ∧ sequence ≤ lastAppliedSequence

/-- `processor.process(envelope, tracker, options)`; the engine gives no `lastAppliedSequence`,
    which is -1 then. -/
def process (envelope : RuntimeEnvelope) (tracker : TimelineInvalidationTracker)
    (lastAppliedSequence : Int := -1) : DeltaProcessResult × TimelineInvalidationTracker :=
  if isStale lastAppliedSequence envelope.sequence then (⟨false, 0, true⟩, tracker)
  else
    match envelope.payload with
    | .timelineDelta payload => processTimelineDelta envelope.sequence payload tracker
    | .warningDelta payload => processWarningDelta envelope.sequence payload tracker
    | .runtimeEvent payload => processRuntimeEvent envelope.sequence payload tracker
    | .runtimeSnapshot _ => (⟨true, 1, false⟩, invalidateViewport tracker envelope.sequence)
    | .metricsDelta _ | .heartbeat _ _ | .systemStatus _ | .protocolError => (.untouched, tracker)
    -- a type that the processor does not know
    | .replayStatus _ => (⟨false, 0, true⟩, tracker)

/-! ## Replay -/

/-- `TimelineLiveMode`. -/
inductive TimelineLiveMode where
  | idle
  | live
  | replay
  | paused
deriving DecidableEq, Repr

/-- `TimelineReplayPhase`. -/
inductive TimelineReplayPhase where
  | idle
  | buffering
  | applying
  | transitioning
  | done
deriving DecidableEq, Repr

/-- `TimelineReplayCoordinator`; the tracker is the engine's. -/
structure TimelineReplayCoordinator where
  mode : TimelineLiveMode := .idle
  phase : TimelineReplayPhase := .idle
deriving DecidableEq, Repr

namespace TimelineReplayCoordinator

/-- `coordinator.goLive()`. -/
def goLive (_ : TimelineReplayCoordinator) : TimelineReplayCoordinator := ⟨.live, .idle⟩

/-- `coordinator.pause()`. -/
def pause (c : TimelineReplayCoordinator) : TimelineReplayCoordinator := { c with mode := .paused }

/-- `coordinator.beginReplay()`. -/
def beginReplay (_ : TimelineReplayCoordinator) : TimelineReplayCoordinator :=
  ⟨.replay, .buffering⟩

/-- The loop of `applyReplayBatch`: the tracker and the highest sequence that was applied. -/
def applyEnvelopes : List RuntimeEnvelope → TimelineInvalidationTracker → Int →
    TimelineInvalidationTracker × Int
  | [], tracker, highest => (tracker, highest)
  | envelope :: envelopes, tracker, highest =>
    let (result, tracker) := process envelope tracker
    let highest :=
      if result.suppressed then highest
      else match envelope.sequence with
        | none => highest
        | some sequence => if sequence > highest then sequence else highest
    applyEnvelopes envelopes tracker highest

/-- `coordinator.applyReplayBatch(envelopes)`: one `replay` region on top of those of the
    envelopes. -/
def applyReplayBatch (_ : TimelineReplayCoordinator) (envelopes : List RuntimeEnvelope)
    (tracker : TimelineInvalidationTracker) :
    TimelineReplayCoordinator × TimelineInvalidationTracker :=
  let (tracker, highest) := applyEnvelopes envelopes tracker 0
  (⟨.replay, .transitioning⟩, tracker.push { reason := .replay, sequence := some highest })

end TimelineReplayCoordinator

/-! ## What is pushed -/

/-- The tracker has grown by some regions, if it has changed. -/
def Extends (t t' : TimelineInvalidationTracker) : Prop := ∃ new, t'.regions = t.regions ++ new

theorem Extends.refl (t : TimelineInvalidationTracker) : Extends t t := ⟨[], by simp⟩

theorem Extends.trans {t t' t'' : TimelineInvalidationTracker} (h : Extends t t')
    (h' : Extends t' t'') : Extends t t'' := by
  obtain ⟨new, hnew⟩ := h
  obtain ⟨new', hnew'⟩ := h'
  exact ⟨new ++ new', by rw [hnew', hnew, List.append_assoc]⟩

theorem extends_push (t : TimelineInvalidationTracker) (region : DirtyRegion) :
    Extends t (t.push region) := ⟨[region], rfl⟩

theorem extends_invalidateRows (t : TimelineInvalidationTracker) (taskIds : List String)
    (sequence : Option Int) : Extends t (invalidateRows t taskIds sequence) := by
  unfold invalidateRows
  split
  · exact .refl t
  · exact extends_push t _

theorem extends_processTimelineDelta (sequence : Option Int) (payload : TimelineDelta)
    (t : TimelineInvalidationTracker) : Extends t (processTimelineDelta sequence payload t).2 := by
  have hfirst : ∀ segmentId : Option String, Extends t (match segmentId with
      | some segmentId => invalidateSegment t segmentId (some payload.taskId) sequence
      | none => invalidateRow t payload.taskId sequence) := by
    intro segmentId
    cases segmentId with
    | none => exact extends_push t _
    | some segmentId => exact extends_push t _
  unfold processTimelineDelta
  dsimp only
  split
  · exact (hfirst _).trans (extends_push _ _)
  · exact hfirst _

theorem extends_processWarningDelta (sequence : Option Int) (payload : WarningDelta)
    (t : TimelineInvalidationTracker) : Extends t (processWarningDelta sequence payload t).2 := by
  unfold processWarningDelta
  dsimp only
  split
  · exact (extends_push t _).trans (extends_invalidateRows _ _ _)
  · exact extends_push t _

/-- An envelope only adds regions, and none if it says that nothing was invalidated. -/
theorem process_spec (envelope : RuntimeEnvelope) (t : TimelineInvalidationTracker)
    (lastAppliedSequence : Int) :
    Extends t (process envelope t lastAppliedSequence).2 ∧
      ((process envelope t lastAppliedSequence).1.invalidated = false →
        (process envelope t lastAppliedSequence).2 = t) := by
  obtain ⟨timestamp, sequence, payload⟩ := envelope
  unfold process
  split
  · exact ⟨.refl t, fun _ => rfl⟩
  cases payload with
  | timelineDelta payload =>
    exact ⟨extends_processTimelineDelta sequence payload t, fun h => by cases h⟩
  | warningDelta payload =>
    exact ⟨extends_processWarningDelta sequence payload t, fun h => by cases h⟩
  | runtimeEvent payload =>
    dsimp only
    unfold processRuntimeEvent
    dsimp only
    split
    · exact ⟨.refl t, fun _ => rfl⟩
    · exact ⟨extends_push t _, fun h => by cases h⟩
  | runtimeSnapshot payload => exact ⟨extends_push t _, fun h => by cases h⟩
  | metricsDelta | heartbeat | systemStatus | protocolError | replayStatus =>
    exact ⟨.refl t, fun _ => rfl⟩

theorem extends_applyEnvelopes (envelopes : List RuntimeEnvelope)
    (t : TimelineInvalidationTracker) (highest : Int) :
    Extends t (TimelineReplayCoordinator.applyEnvelopes envelopes t highest).1 := by
  induction envelopes generalizing t highest with
  | nil => exact .refl t
  | cons envelope envelopes ih => exact (process_spec envelope t _).1.trans (ih _ _)

end AsyncViz.Frontend.Live
