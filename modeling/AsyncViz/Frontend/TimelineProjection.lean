/-
  AsyncViz.Frontend.TimelineProjection

  The timeline of the frontend store, as the fold of the deltas that the segment
  engine emits, next to the working sets of the engine.

  One transition emits up to three deltas, and each of them is one move of the
  working set: the close, the opening, the termination.  `Mirrors` is kept by each
  move (`close`, `openNew`, `finalize`), so a run of transitions keeps it by moves
  and not by transitions.
-/

import AsyncViz.Frontend.Reducers
import AsyncViz.Runtime.Timeline.Reduction

namespace AsyncViz.Frontend

open AsyncViz.Lib AsyncViz.Runtime AsyncViz.Runtime.Timeline

/-- `useTimelineSegmentsForTask(taskId)`: ids without a segment are dropped. -/
def timelineSegmentsForTask (s : NormalizedTimelineState) : Option String → List TimelineSegment
  | none => []
  | some taskId =>
    ((s.segmentIdsByTaskId.get? taskId).getD []).filterMap s.segmentsById.get?

/-! ## The deltas of a transition -/

/-- The delta of a close. -/
def closedDelta (t : Transition) (segment : TimelineSegment) : TimelineDelta :=
  { kind := .segmentClosed
    taskId := t.taskId
    sequence := t.sequence
    monotonicNs := t.monotonicNs
    wallSeconds := t.wallSeconds
    segment := some segment
    closedASegment := true }

/-- The delta of an opening. -/
def openedDelta (t : Transition) (o : OpenSegment) : TimelineDelta :=
  { kind := .segmentOpened
    taskId := t.taskId
    sequence := t.sequence
    monotonicNs := t.monotonicNs
    wallSeconds := t.wallSeconds
    openSegment := some (viewActive o) }

/-- The delta of a termination. -/
def finalizedDelta (t : Transition) (terminal : Option TaskState) : TimelineDelta :=
  { kind := .spanFinalized
    taskId := t.taskId
    sequence := t.sequence
    monotonicNs := t.monotonicNs
    wallSeconds := t.wallSeconds
    terminalState := terminal }

/-- The deltas of closing what is open: one, or none. -/
def closedDeltas (s : TaskTimelineState) (t : Transition) : List TimelineDelta :=
  s.openSegment.toList.map fun o =>
    closedDelta t (finalizeSegment o t.sequence t.monotonicNs t.wallSeconds)

/-- What the engine tells of the close: the segment it looks up last is the one just
    closed. -/
theorem emitDeltasFor_eq (s s' : TaskTimelineState) (t : Transition)
    (hsegments : s'.segments = (closeOpenSegment s t).2.segments)
    (openedSegmentType : Option SegmentType) (finalizedTask : Bool) :
    TimelineSegmentEngine.emitDeltasFor t
        { applied := true
          closedASegment := (closeOpenSegment s t).1
          openedSegmentType := openedSegmentType
          finalizedTask := finalizedTask } s'
      = closedDeltas s t ++
          (if openedSegmentType.isSome then s'.openSegment else none).toList.map (openedDelta t) ++
          if finalizedTask then [finalizedDelta t s'.terminalState] else [] := by
  rw [TimelineSegmentEngine.emitDeltasFor, hsegments, closeOpenSegment_fst,
    segments_closeOpenSegment, closedDeltas]
  cases s.openSegment with
  | none =>
    cases if openedSegmentType.isSome then s'.openSegment else none <;> rfl
  | some o =>
    rw [Option.toList_some, List.map_singleton, List.getLast?_concat]
    cases if openedSegmentType.isSome then s'.openSegment else none <;> rfl

/-! ## The relation between the two sides -/

/-- The frontend's timeline holds, for each task, what its working set holds. -/
structure Mirrors (states : String → TaskTimelineState) (f : NormalizedTimelineState) : Prop where
  ids : ∀ taskId, (f.segmentIdsByTaskId.get? taskId).getD []
    = (states taskId).segments.map TimelineSegment.segmentId
  closed : ∀ taskId, ∀ segment ∈ (states taskId).segments,
    f.segmentsById.get? segment.segmentId = some segment
  known : ∀ segmentId segment, f.segmentsById.get? segmentId = some segment →
    segment.segmentId = segmentId ∧ segment ∈ (states segment.taskId).segments
  active : ∀ taskId,
    f.activeSegmentsByTaskId.get? taskId = (states taskId).openSegment.map viewActive
  numbered : ∀ taskId, Numbered taskId (states taskId)

namespace Mirrors

variable {states : String → TaskTimelineState} {f : NormalizedTimelineState}

theorem empty : Mirrors (fun taskId => { taskId := taskId }) {} where
  ids _ := rfl
  closed _ _ hmem := absurd hmem List.not_mem_nil
  known _ _ h := absurd h (Option.not_mem_none _)
  active _ := rfl
  numbered := Numbered.fresh

/-- The ids of the working sets are all different. -/
theorem id_unique (h : Mirrors states f) {taskId taskId' segmentId : String}
    (hid : segmentId ∈ (states taskId).segmentIds)
    (hid' : segmentId ∈ (states taskId').segmentIds) : taskId = taskId' := by
  rw [(h.numbered taskId).ids] at hid
  rw [(h.numbered taskId').ids] at hid'
  obtain ⟨m, _, hm⟩ := List.mem_map.mp hid
  obtain ⟨n, _, hn⟩ := List.mem_map.mp hid'
  exact (segmentIdOf_inj (hm.trans hn.symm)).1

/-- The open segment's id is not that of a finalized segment of any task. -/
theorem open_not_closed (h : Mirrors states f) {taskId : String} {o : OpenSegment}
    (hopen : (states taskId).openSegment = some o) : f.segmentsById.get? o.segmentId = none := by
  have hopenId : o.segmentId ∈ (states taskId).segmentIds := by
    rw [TaskTimelineState.segmentIds, hopen]
    exact List.mem_append_right _ List.mem_cons_self
  cases hget : f.segmentsById.get? o.segmentId with
  | none => rfl
  | some segment =>
    obtain ⟨hid, hmem⟩ := h.known _ _ hget
    have hclosedId : o.segmentId ∈ (states segment.taskId).segments.map TimelineSegment.segmentId :=
      List.mem_map.mpr ⟨segment, hmem, hid⟩
    have htask := h.id_unique hopenId
      (List.mem_append_left ((states segment.taskId).openSegment.toList.map OpenSegment.segmentId)
        hclosedId)
    -- one working set would hold the id twice
    have hnodup := (h.numbered taskId).nodup
    rw [TaskTimelineState.segmentIds, hopen, List.nodup_append] at hnodup
    exact absurd rfl (hnodup.2.2 _ (htask ▸ hclosedId) _ List.mem_cons_self)

/-- What the deltas say about the segments of the two sides. -/
theorem segmentsForTask (h : Mirrors states f) (taskId : String) :
    timelineSegmentsForTask f (some taskId) = (states taskId).segments := by
  rw [timelineSegmentsForTask, h.ids, List.filterMap_map]
  have hsome : ∀ segment ∈ (states taskId).segments,
      (f.segmentsById.get? ∘ TimelineSegment.segmentId) segment = some segment :=
    fun segment hmem => h.closed taskId segment hmem
  rw [List.filterMap_congr hsome]
  exact List.filterMap_some

end Mirrors

namespace Mirrors

variable {states : String → TaskTimelineState} {f : NormalizedTimelineState}

/-- The frontend after the delta of a close. -/
theorem reduce_closedDelta (h : Mirrors states f) {t : Transition} {o : OpenSegment}
    (hopen : (states t.taskId).openSegment = some o) :
    let segment := finalizeSegment o t.sequence t.monotonicNs t.wallSeconds
    let f' := reduceTimelineDelta f (closedDelta t segment)
    f'.segmentsById = f.segmentsById.set o.segmentId segment ∧
      f'.segmentIdsByTaskId = f.segmentIdsByTaskId.set t.taskId
        ((states t.taskId).segments.map TimelineSegment.segmentId ++ [o.segmentId]) ∧
      f'.activeSegmentsByTaskId = f.activeSegmentsByTaskId.pop t.taskId := by
  intro segment f'
  have htask : o.taskId = t.taskId := (h.numbered t.taskId).open_task o hopen
  have hnodup := (h.numbered t.taskId).nodup
  rw [TaskTimelineState.segmentIds, hopen, List.nodup_append] at hnodup
  have hfresh : o.segmentId ∉ (f.segmentIdsByTaskId.get? o.taskId).getD [] := by
    rw [htask, h.ids]
    exact fun hmem => hnodup.2.2 _ hmem _ List.mem_cons_self rfl
  refine ⟨rfl, ?_, congrArg f.activeSegmentsByTaskId.pop htask⟩
  show (if o.segmentId ∈ (f.segmentIdsByTaskId.get? o.taskId).getD [] then f.segmentIdsByTaskId
    else f.segmentIdsByTaskId.set o.taskId
      ((f.segmentIdsByTaskId.get? o.taskId).getD [] ++ [o.segmentId])) = _
  rw [if_neg hfresh, htask, h.ids]

/-- The deltas of a close follow the close. -/
theorem close (h : Mirrors states f) (t : Transition) :
    Mirrors (Function.update states t.taskId (closeOpenSegment (states t.taskId) t).2)
      ((closedDeltas (states t.taskId) t).foldl reduceTimelineDelta f) := by
  cases hopen : (states t.taskId).openSegment with
  | none =>
    -- nothing is open: nothing changes and nothing is told
    rw [closedDeltas, closeOpenSegment, hopen]
    exact (Function.update_eq_self t.taskId states).symm ▸ h
  | some o =>
    have hsegments : (closeOpenSegment (states t.taskId) t).2.segments
        = (states t.taskId).segments
          ++ [finalizeSegment o t.sequence t.monotonicNs t.wallSeconds] := by
      rw [segments_closeOpenSegment, hopen]
      rfl
    obtain ⟨hbyId, hids, hactive⟩ := h.reduce_closedDelta hopen
    have hnumbered := (h.numbered t.taskId).close t
    have htask : o.taskId = t.taskId := (h.numbered t.taskId).open_task o hopen
    rw [closedDeltas, hopen]
    show Mirrors _ (reduceTimelineDelta f _)
    generalize reduceTimelineDelta f
      (closedDelta t (finalizeSegment o t.sequence t.monotonicNs t.wallSeconds)) = f' at *
    refine ⟨fun taskId => ?_, fun taskId segment hmem => ?_, fun segmentId segment hget => ?_,
      fun taskId => ?_, fun taskId => ?_⟩
    · rw [hids, Dict.get?_set, Function.update_apply]
      split
      · rw [hsegments, List.map_append]
        rfl
      · exact h.ids taskId
    · rw [Function.update_apply] at hmem
      rw [hbyId]
      by_cases htaskId : taskId = t.taskId
      · rw [if_pos htaskId, hsegments, List.mem_append] at hmem
        rcases hmem with hold | hnew
        · have hclosed := h.closed t.taskId segment hold
          rw [Dict.get?_set_of_ne, hclosed]
          intro hid
          rw [hid, h.open_not_closed hopen] at hclosed
          cases hclosed
        · rw [List.mem_singleton.mp hnew]
          exact Dict.get?_set_self _ _ _
      · rw [if_neg htaskId] at hmem
        have hclosed := h.closed taskId segment hmem
        rw [Dict.get?_set_of_ne, hclosed]
        intro hid
        rw [hid, h.open_not_closed hopen] at hclosed
        cases hclosed
    · rw [hbyId, Dict.get?_set] at hget
      rw [Function.update_apply]
      split at hget
      · next hid =>
        obtain rfl := Option.some.inj hget
        refine ⟨hid.symm, ?_⟩
        rw [if_pos (show (finalizeSegment o _ _ _).taskId = t.taskId from htask), hsegments]
        exact List.mem_append_right _ List.mem_cons_self
      · obtain ⟨hid, hmem⟩ := h.known segmentId segment hget
        refine ⟨hid, ?_⟩
        split
        · next htaskId =>
          rw [hsegments]
          exact List.mem_append_left _ (htaskId ▸ hmem)
        · exact hmem
    · rw [hactive, Dict.get?_pop, Function.update_apply]
      split
      · rw [openSegment_closeOpenSegment]
        rfl
      · exact h.active taskId
    · rw [Function.update_apply]
      split
      · next htaskId => exact htaskId ▸ hnumbered
      · exact h.numbered taskId

/-- A move of one task that leaves its finalized segments alone. -/
theorem of_update (h : Mirrors states f) {taskId : String} {s : TaskTimelineState}
    {f' : NormalizedTimelineState} (hsegments : s.segments = (states taskId).segments)
    (hnumbered : Numbered taskId s) (hbyId : f'.segmentsById = f.segmentsById)
    (hids : f'.segmentIdsByTaskId = f.segmentIdsByTaskId)
    (hactive : ∀ taskId', f'.activeSegmentsByTaskId.get? taskId'
      = if taskId' = taskId then s.openSegment.map viewActive
        else f.activeSegmentsByTaskId.get? taskId') :
    Mirrors (Function.update states taskId s) f' := by
  have hsame (taskId' : String) :
      (Function.update states taskId s taskId').segments = (states taskId').segments := by
    rw [Function.update_apply]
    split
    · next htask => rw [htask, hsegments]
    · rfl
  refine ⟨fun taskId' => ?_, fun taskId' segment hmem => ?_, fun segmentId segment hget => ?_,
    fun taskId' => ?_, fun taskId' => ?_⟩
  · rw [hids, hsame, h.ids]
  · rw [hsame] at hmem
    rw [hbyId]
    exact h.closed taskId' segment hmem
  · rw [hbyId] at hget
    rw [hsame]
    exact h.known segmentId segment hget
  · rw [hactive, Function.update_apply]
    split
    · rfl
    · exact h.active taskId'
  · rw [Function.update_apply]
    split
    · next htask => exact htask ▸ hnumbered
    · exact h.numbered taskId'

/-- The delta of an opening follows the opening. -/
theorem openNew (h : Mirrors states f) {t : Transition}
    (hnone : (states t.taskId).openSegment = none) (segmentType : SegmentType)
    (state : TaskState) {o : OpenSegment}
    (ho : (openNewSegment (states t.taskId) segmentType t state).openSegment = some o) :
    Mirrors (Function.update states t.taskId (openNewSegment (states t.taskId) segmentType t state))
      (reduceTimelineDelta f (openedDelta t o)) := by
  refine h.of_update rfl ((h.numbered t.taskId).openNew hnone segmentType t state) rfl rfl
    fun taskId => ?_
  rw [ho]
  exact Dict.get?_set _ _ _ _

/-- The delta of a termination finds nothing left to remove. -/
theorem finalize (h : Mirrors states f) {t : Transition}
    (hnone : (states t.taskId).openSegment = none) :
    Mirrors (Function.update states t.taskId (finalizeTask (states t.taskId) t))
      (reduceTimelineDelta f (finalizedDelta t (some t.target))) := by
  have hnumbered := h.numbered t.taskId
  refine h.of_update rfl
    ⟨hnumbered.taskId_eq, hnumbered.ids, hnumbered.closed_task, hnumbered.open_task⟩ rfl rfl
    fun taskId => ?_
  show (f.activeSegmentsByTaskId.pop t.taskId).get? taskId
    = if taskId = t.taskId then (states t.taskId).openSegment.map viewActive
      else f.activeSegmentsByTaskId.get? taskId
  rw [hnone]
  exact Dict.get?_pop _ _ _

/-- A creation touches no segment and tells nothing. -/
theorem create (h : Mirrors states f) {t : Transition}
    (hfresh : (states t.taskId).created = false) :
    Mirrors (Function.update states t.taskId (reduceCreate (states t.taskId) t).2) f := by
  have hnumbered := h.numbered t.taskId
  rw [reduceCreate, if_neg (Bool.eq_false_iff.mp hfresh)]
  refine h.of_update rfl
    ⟨hnumbered.taskId_eq, hnumbered.ids, hnumbered.closed_task, hnumbered.open_task⟩ rfl rfl
    fun taskId => ?_
  split
  · next htask => rw [htask, h.active]
  · rfl

/-- The deltas of one transition take the frontend to the engine after it. -/
theorem step (h : Mirrors states f) (t : Transition) :
    Mirrors (Function.update states t.taskId (reduce (states t.taskId) t).2)
      ((if (reduce (states t.taskId) t).1.applied then
          TimelineSegmentEngine.emitDeltasFor t (reduce (states t.taskId) t).1
            (reduce (states t.taskId) t).2
        else []).foldl reduceTimelineDelta f) := by
  have houtcome := reduce_outcome (states t.taskId) t
  generalize reduce (states t.taskId) t = r at houtcome ⊢
  -- the moves after a close start from the working set that the close left
  have hclosed := h.close t
  have hself : Function.update states t.taskId (closeOpenSegment (states t.taskId) t).2 t.taskId
      = (closeOpenSegment (states t.taskId) t).2 := Function.update_self _ _ _
  have hnone := openSegment_closeOpenSegment (states t.taskId) t
  cases houtcome with
  | rejected =>
    rw [Function.update_eq_self]
    exact h
  | created hfresh =>
    have hcreated := h.create hfresh
    rw [reduceCreate, if_neg (Bool.eq_false_iff.mp hfresh)] at hcreated ⊢
    exact hcreated
  | opened segmentType state =>
    have hopened := hclosed.openNew (by rw [hself, hnone]) segmentType state rfl
    rw [hself, Function.update_idem] at hopened
    have hdeltas := emitDeltasFor_eq (states t.taskId)
      (openNewSegment (closeOpenSegment (states t.taskId) t).2 segmentType t state) t rfl
      (some segmentType) false
    rw [if_pos rfl, hdeltas, List.foldl_append, List.foldl_append]
    exact hopened
  | finalized =>
    have hfinalized := hclosed.finalize (by rw [hself, hnone])
    rw [hself, Function.update_idem] at hfinalized
    have hdeltas := emitDeltasFor_eq (states t.taskId)
      (finalizeTask (closeOpenSegment (states t.taskId) t).2 t) t rfl none true
    rw [if_pos rfl, hdeltas, List.foldl_append, List.foldl_append]
    exact hfinalized

end Mirrors

/-- A run keeps the frontend in step with the engine. -/
theorem mirrors_applyAll {e : TimelineSegmentEngine} {f : NormalizedTimelineState}
    (h : Mirrors e.workingSet f) (ts : List Transition) :
    Mirrors (e.applyAll ts).1.workingSet ((e.applyAll ts).2.foldl reduceTimelineDelta f) := by
  induction ts generalizing e f with
  | nil => exact h
  | cons t ts ih =>
    have hstates : (e.applyTransition t).2.1.workingSet
        = Function.update e.workingSet t.taskId (reduce (e.workingSet t.taskId) t).2 := by
      funext taskId
      rw [e.workingSet_applyTransition, Function.update_apply]
      split
      · next htask => rw [htask]
      · rfl
    have hstep := h.step t
    rw [← hstates, ← (e.applyTransition_eq t).2.2] at hstep
    rw [TimelineSegmentEngine.applyAll]
    dsimp only
    rw [List.foldl_append]
    exact ih hstep

/-- **The timeline of the frontend is the engine's**: after every run of transitions of any
    tasks, the fold of the emitted deltas holds for each task the engine's finalized
    segments in the engine's order and the engine's open segment; it holds no other
    segments, and none that is both closed and active. -/
theorem reduceTimelineDelta_applyAll (ts : List Transition) :
    let e := (TimelineSegmentEngine.applyAll {} ts).1
    let f := (TimelineSegmentEngine.applyAll {} ts).2.foldl reduceTimelineDelta {}
    (∀ taskId,
      timelineSegmentsForTask f (some taskId) = (e.workingSet taskId).segments ∧
      f.activeSegmentsByTaskId.get? taskId = (e.workingSet taskId).openSegment.map viewActive) ∧
    (∀ segmentId segment, f.segmentsById.get? segmentId = some segment →
      segment ∈ (e.workingSet segment.taskId).segments) ∧
    ∀ taskId active, f.activeSegmentsByTaskId.get? taskId = some active →
      f.segmentsById.get? active.segmentId = none := by
  intro e f
  have hempty : Mirrors (TimelineSegmentEngine.workingSet {}) {} := Mirrors.empty
  have hmirrors : Mirrors e.workingSet f := mirrors_applyAll hempty ts
  refine ⟨fun taskId => ⟨hmirrors.segmentsForTask taskId, hmirrors.active taskId⟩,
    fun segmentId segment hget => (hmirrors.known segmentId segment hget).2,
    fun taskId active hactive => ?_⟩
  rw [hmirrors.active] at hactive
  obtain ⟨o, hopen, rfl⟩ := Option.map_eq_some_iff.mp hactive
  exact hmirrors.open_not_closed hopen

end AsyncViz.Frontend
