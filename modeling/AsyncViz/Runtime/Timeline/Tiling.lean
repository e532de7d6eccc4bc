/-
  AsyncViz.Runtime.Timeline.Tiling

  The segments of a task lie end to end: opening one closes the one before it at
  the same instant, so nothing is left between them, and the two accumulated
  durations add up to the time from the first opening to the termination.

  The only use of the clock going forward is that `finalize_segment` clamps a
  negative duration, which then never happens.

  A rejected transition leaves the record of a task alone, but makes one for a task
  that the engine has never seen.
-/

import AsyncViz.Lib.Tiling
import AsyncViz.Lib.Transition
import AsyncViz.Runtime.Timeline.Reduction

namespace AsyncViz.Runtime.Timeline

open AsyncViz.Lib AsyncViz.Lib.Transition

namespace TaskTimelineState

/-- The finalized segments and the open one behind them, as start and end. -/
def spans (s : TaskTimelineState) : List (Int × Option Int) :=
  s.segments.map (fun segment => (segment.monotonicStartNs, some segment.monotonicEndNs)) ++
    s.openSegment.toList.map fun o => (o.monotonicStartNs, none)

theorem open_spans_le_one (s : TaskTimelineState) :
    (s.spans.filter fun span => span.2 = none).length ≤ 1 := by
  have hclosed : (s.segments.map fun segment : TimelineSegment =>
      ((segment.monotonicStartNs, some segment.monotonicEndNs) : Int × Option Int)).filter
        (fun span => span.2 = none) = [] := by
    rw [List.filter_map, List.map_eq_nil_iff, List.filter_eq_nil_iff]
    intro segment _
    simp
  rw [spans, List.filter_append, hclosed, List.nil_append]
  cases s.openSegment with
  | none => exact Nat.zero_le 1
  | some o => exact List.length_filter_le _ _

/-- The start of the first segment, if one was ever opened. -/
def firstStart? (s : TaskTimelineState) : Option Int := s.spans.head?.map Prod.fst

end TaskTimelineState

/-- The finalized segments lie end to end, and the open one starts where they stop. -/
def Abut (s : TaskTimelineState) (first stop : Int) : Prop :=
  Tiles TimelineSegment.monotonicStartNs TimelineSegment.monotonicEndNs first s.segments stop ∧
    ∀ o ∈ s.openSegment, o.monotonicStartNs = stop

/-- A working set whose durations are those of its segments.  A task with nothing open has
    never opened anything or is terminal, and a terminal one stopped where its last segment
    did. -/
structure Tiled (s : TaskTimelineState) : Prop where
  abut : ∃ first stop, Abut s first stop
  length : ∀ segment ∈ s.segments,
    segment.durationNs = segment.monotonicEndNs - segment.monotonicStartNs
  durations : s.runDurationNs + s.waitDurationNs = (s.segments.map TimelineSegment.durationNs).sum
  idle : s.terminalState = none → s.openSegment = none → s.segments = []
  terminal : s.terminalState ≠ none → s.openSegment = none ∧
    ∃ stop, s.terminatedAtMonotonicNs = some stop ∧
      ∀ segment ∈ s.segments.getLast?, segment.monotonicEndNs = stop

namespace Tiled

variable {s : TaskTimelineState}

theorem fresh (taskId : String) : Tiled { taskId := taskId } where
  abut := ⟨0, 0, rfl, fun _ hopen => absurd hopen (Option.not_mem_none _)⟩
  length _ hmem := absurd hmem List.not_mem_nil
  durations := rfl
  idle _ _ := rfl
  terminal h := absurd rfl h

theorem spans_isChain (h : Tiled s) :
    s.spans.IsChain fun a b => a.2 = some b.1 := by
  obtain ⟨first, stop, htiles, hopen⟩ := h.abut
  refine List.isChain_append.mpr ⟨?_, ?_, ?_⟩
  · rw [List.isChain_map]
    exact htiles.isChain.imp fun _ _ hmeet => congrArg some hmeet
  · cases s.openSegment with
    | none => exact List.isChain_nil
    | some o => exact List.isChain_singleton _
  · -- the last finalized segment meets the open one
    intro a ha b hb
    rw [List.getLast?_map] at ha
    obtain ⟨segment, hsegment, rfl⟩ := Option.mem_map.mp ha
    rw [List.head?_map] at hb
    obtain ⟨o, ho, rfl⟩ := Option.mem_map.mp hb
    have hmem : o ∈ s.openSegment := by
      cases hs : s.openSegment with
      | none => rw [hs] at ho; cases ho
      | some o' => rw [hs] at ho; exact ho
    rw [hopen o hmem, htiles.getLast_stop segment hsegment]

/-- The accumulated durations of a terminal task. -/
theorem durations_eq (h : Tiled s) (hterminal : s.terminalState ≠ none) :
    ∃ stop, s.terminatedAtMonotonicNs = some stop ∧
      s.runDurationNs + s.waitDurationNs = (s.firstStart?.map (stop - ·)).getD 0 := by
  obtain ⟨hopen, stop, hstop, hlast⟩ := h.terminal hterminal
  refine ⟨stop, hstop, ?_⟩
  obtain ⟨first, last, htiles, _⟩ := h.abut
  have hlengths : s.segments.map TimelineSegment.durationNs
      = s.segments.map fun segment => segment.monotonicEndNs - segment.monotonicStartNs :=
    List.map_congr_left h.length
  rw [h.durations, hlengths, htiles.sum_length, TaskTimelineState.firstStart?,
    TaskTimelineState.spans, hopen]
  cases hsegments : s.segments with
  | nil =>
    rw [hsegments] at htiles
    rw [Tiles.nil_iff.mp htiles, sub_self]
    rfl
  | cons segment rest =>
    have hfirst : segment.monotonicStartNs = first :=
      htiles.head_start segment (by rw [hsegments]; rfl)
    have hmem : (segment :: rest).getLast (List.cons_ne_nil _ _) ∈ s.segments.getLast? := by
      rw [hsegments]
      exact List.getLast?_eq_some_getLast _
    rw [← htiles.getLast_stop _ hmem, hlast _ hmem, ← hfirst]
    rfl

end Tiled

/-! ## Steps -/

theorem durations_closeOpenSegment (s : TaskTimelineState) (t : Transition) :
    (closeOpenSegment s t).2.runDurationNs + (closeOpenSegment s t).2.waitDurationNs
      = s.runDurationNs + s.waitDurationNs + (s.openSegment.toList.map fun o =>
          max 0 (t.monotonicNs - o.monotonicStartNs)).sum := by
  rw [closeOpenSegment]
  split
  · next hnone => rw [hnone]; exact (add_zero _).symm
  · next o hsome =>
    have hsingle : ([o].map fun o => max 0 (t.monotonicNs - o.monotonicStartNs)).sum
        = max 0 (t.monotonicNs - o.monotonicStartNs) := List.sum_singleton
    rw [hsome, Option.toList_some, hsingle, finalizeSegment]
    cases o.segmentType with
    | run => exact add_right_comm _ _ _
    | wait => exact (add_assoc _ _ _).symm

/-- After a close at an instant not before the opening, the pieces lead up to that instant. -/
theorem abut_closeOpenSegment {s : TaskTimelineState} {first stop : Int} (h : Abut s first stop)
    (t : Transition) :
    ∃ stop', Abut (closeOpenSegment s t).2 first stop' ∧
      (s.openSegment ≠ none → stop' = t.monotonicNs) ∧ (s.openSegment = none → stop' = stop) := by
  obtain ⟨htiles, hopen⟩ := h
  have hclosed (stop' : Int) : ∀ o ∈ (closeOpenSegment s t).2.openSegment,
      o.monotonicStartNs = stop' := by
    intro o ho
    rw [openSegment_closeOpenSegment] at ho
    cases ho
  cases hs : s.openSegment with
  | none =>
    refine ⟨stop, ⟨?_, hclosed stop⟩, fun h => absurd rfl h, fun _ => rfl⟩
    rw [segments_closeOpenSegment, hs]
    exact (List.append_nil s.segments).symm ▸ htiles
  | some o =>
    refine ⟨t.monotonicNs, ⟨?_, hclosed _⟩, fun _ => rfl, fun h => absurd h (Option.some_ne_none o)⟩
    rw [segments_closeOpenSegment, hs]
    exact htiles.snoc (hopen o (by rw [hs]; rfl))

namespace Tiled

variable {s : TaskTimelineState} {t : Transition}

/-- The clauses about finished segments outlast a close at an instant not before the
    opening. -/
theorem length_close (h : Tiled s)
    (hclock : ∀ o ∈ s.openSegment, o.monotonicStartNs ≤ t.monotonicNs) :
    ∀ segment ∈ (closeOpenSegment s t).2.segments,
      segment.durationNs = segment.monotonicEndNs - segment.monotonicStartNs := by
  intro segment hmem
  rw [segments_closeOpenSegment, List.mem_append] at hmem
  rcases hmem with hold | hnew
  · exact h.length segment hold
  · obtain ⟨o, ho, rfl⟩ := List.mem_map.mp hnew
    exact max_eq_right (sub_nonneg.mpr (hclock o (Option.mem_toList.mp ho)))

theorem durations_close (h : Tiled s) :
    (closeOpenSegment s t).2.runDurationNs + (closeOpenSegment s t).2.waitDurationNs
      = ((closeOpenSegment s t).2.segments.map TimelineSegment.durationNs).sum := by
  rw [durations_closeOpenSegment, segments_closeOpenSegment, h.durations, List.map_append,
    List.sum_append, List.map_map]
  rfl

/-- Closing and opening at one instant leaves no gap. -/
theorem reopen (h : Tiled s) (hlive : s.terminalState = none)
    (hclock : ∀ o ∈ s.openSegment, o.monotonicStartNs ≤ t.monotonicNs)
    (segmentType : SegmentType) (state : TaskState) :
    Tiled (openNewSegment (closeOpenSegment s t).2 segmentType t state) where
  abut := by
    obtain ⟨first, stop, habut⟩ := h.abut
    obtain ⟨stop', habut', hsome, hnone⟩ := abut_closeOpenSegment habut t
    cases hopen : s.openSegment with
    | none =>
      -- nothing was ever opened: the first segment starts the tiling
      refine ⟨t.monotonicNs, t.monotonicNs, ?_, fun o ho => ?_⟩
      · show Tiles _ _ _ (closeOpenSegment s t).2.segments _
        rw [segments_closeOpenSegment, hopen, h.idle hlive hopen]
        exact rfl
      · obtain rfl := Option.some.inj ho
        rfl
    | some o =>
      refine ⟨first, t.monotonicNs, ?_, fun o' ho => ?_⟩
      · have hstop := hsome (by rw [hopen]; exact Option.some_ne_none o)
        exact hstop ▸ habut'.1
      · obtain rfl := Option.some.inj ho
        rfl
  length := h.length_close hclock
  durations := h.durations_close
  idle _ hopen := absurd hopen (Option.some_ne_none _)
  terminal hterminal := absurd ((closeOpenSegment_frame s t).2.2.1.trans hlive) hterminal

/-- Termination stops where the last segment does. -/
theorem finalize (h : Tiled s) (hlive : s.terminalState = none)
    (hclock : ∀ o ∈ s.openSegment, o.monotonicStartNs ≤ t.monotonicNs) :
    Tiled (finalizeTask (closeOpenSegment s t).2 t) where
  abut := by
    obtain ⟨first, stop, habut⟩ := h.abut
    obtain ⟨stop', habut', _⟩ := abut_closeOpenSegment habut t
    exact ⟨first, stop', habut'⟩
  length := h.length_close hclock
  durations := h.durations_close
  idle hterminal _ := absurd hterminal (Option.some_ne_none t.target)
  terminal _ := by
    refine ⟨openSegment_closeOpenSegment s t, t.monotonicNs, rfl, fun segment hlast => ?_⟩
    have hlast' : segment ∈ (closeOpenSegment s t).2.segments.getLast? := hlast
    rw [segments_closeOpenSegment] at hlast'
    cases hopen : s.openSegment with
    | none =>
      rw [hopen, h.idle hlive hopen] at hlast'
      cases hlast'
    | some o =>
      rw [hopen, Option.toList_some, List.map_singleton, List.getLast?_concat] at hlast'
      obtain rfl := Option.some.inj hlast'
      rfl

/-- A transition at an instant not before the opening keeps the tiling. -/
theorem reduce (h : Tiled s)
    (hclock : ∀ o ∈ s.openSegment, o.monotonicStartNs ≤ t.monotonicNs) :
    Tiled (Timeline.reduce s t).2 := by
  have houtcome := reduce_outcome s t
  generalize Timeline.reduce s t = r at houtcome ⊢
  cases houtcome with
  | rejected => exact h
  | created hfresh =>
    rw [reduceCreate, if_neg (Bool.eq_false_iff.mp hfresh)]
    exact ⟨h.abut, h.length, h.durations, h.idle, h.terminal⟩
  | opened segmentType state hlive => exact h.reopen hlive hclock segmentType state
  | finalized hlive => exact h.finalize hlive hclock

end Tiled

/-- What is open after a transition was open before it or starts at its instant. -/
theorem openSegment_reduce (s : TaskTimelineState) (t : Transition) :
    ∀ o ∈ (reduce s t).2.openSegment, o ∈ s.openSegment ∨ o.monotonicStartNs = t.monotonicNs := by
  have houtcome := reduce_outcome s t
  generalize reduce s t = r at houtcome ⊢
  cases houtcome with
  | rejected => exact fun o ho => .inl ho
  | created hfresh =>
    rw [reduceCreate, if_neg (Bool.eq_false_iff.mp hfresh)]
    exact fun o ho => .inl ho
  | opened =>
    intro o ho
    obtain rfl := Option.some.inj ho
    exact .inr rfl
  | finalized =>
    intro o ho
    have ho' : o ∈ (closeOpenSegment s t).2.openSegment := ho
    rw [openSegment_closeOpenSegment] at ho'
    cases ho'

/-- A run with a clock that does not go back keeps the tiling. -/
theorem Tiled.run {s : TaskTimelineState} {ts : List Transition} (h : Tiled s)
    (hclock : ∀ o ∈ s.openSegment, ∀ t ∈ ts, o.monotonicStartNs ≤ t.monotonicNs)
    (hmono : ts.Pairwise fun t u => t.monotonicNs ≤ u.monotonicNs) :
    Tiled (ts.foldl (fun s t => (Timeline.reduce s t).2) s) := by
  induction ts generalizing s with
  | nil => exact h
  | cons t ts ih =>
    rw [List.pairwise_cons] at hmono
    refine ih (h.reduce fun o ho => hclock o ho t List.mem_cons_self) (fun o ho u hu => ?_) hmono.2
    rcases openSegment_reduce s t o ho with hold | hnew
    · exact hclock o hold u (List.mem_cons_of_mem t hu)
    · exact hnew ▸ hmono.1 u hu

/-- A terminal working set stays terminal, and a terminal transition makes it so. -/
theorem terminalState_reduce {s : TaskTimelineState} {t : Transition}
    (h : s.terminalState ≠ none ∨ intentFor t.target = .closeAndFinalize) :
    (reduce s t).2.terminalState ≠ none := by
  have houtcome := reduce_outcome s t
  generalize reduce s t = r at houtcome ⊢
  cases houtcome with
  | rejected _ hterminal => exact h.elim id hterminal
  | created hfresh htarget =>
    rw [reduceCreate, if_neg (Bool.eq_false_iff.mp hfresh)]
    exact h.resolve_right htarget
  | opened _ _ hlive htarget => exact absurd (h.resolve_right htarget) (not_not.mpr hlive)
  | finalized => exact Option.some_ne_none t.target

theorem terminalState_run {s : TaskTimelineState} {ts : List Transition}
    (h : s.terminalState ≠ none ∨ ∃ t ∈ ts, intentFor t.target = .closeAndFinalize) :
    (ts.foldl (fun s t => (reduce s t).2) s).terminalState ≠ none := by
  induction ts generalizing s with
  | nil =>
    rcases h with hs | ⟨t, ht, _⟩
    · exact hs
    · cases ht
  | cons t ts ih =>
    refine ih ?_
    rcases h with hs | ⟨u, hu, htarget⟩
    · exact .inl (terminalState_reduce (.inl hs))
    · rcases List.mem_cons.mp hu with rfl | hrest
      · exact .inl (terminalState_reduce (.inr htarget))
      · exact .inr ⟨u, hrest, htarget⟩

/-! ## Rejections -/

/-- A transition that opens a segment, RUNNING or WAITING. -/
def Transition.Opens (t : Transition) : Prop := t.target = .running ∨ t.target = .waiting

instance (t : Transition) : Decidable t.Opens :=
  inferInstanceAs (Decidable (t.target = .running ∨ t.target = .waiting))

/-- The working set of a task never seen takes all but the openings: those ask for a
    CREATED transition first. -/
theorem applied_reduce_fresh_iff (taskId : String) (t : Transition) :
    (reduce { taskId := taskId } t).1.applied = false ↔ t.Opens := by
  rw [reduce, Transition.Opens]
  cases t.target <;>
    simp [intentFor, reduceCreate, reduceOpenRun, reduceOpenWait, reduceOpen,
      reduceCloseAndFinalize, closeOpenSegment, TimelineReducerResult.rejected]

namespace TimelineSegmentEngine

/-- A transition that, if it is rejected, leaves what `state_of` says of a task. -/
def Leaves (taskId : String) (e : TimelineSegmentEngine) (t : Transition) : Prop :=
  (e.applyTransition t).1.applied = false →
    (e.applyTransition t).2.1.stateOf taskId = e.stateOf taskId

/-- A task with a record keeps it over a rejected transition. -/
theorem leaves_of_recorded {e : TimelineSegmentEngine} {taskId : String}
    (h : e.stateOf taskId ≠ none) (t : Transition) : e.Leaves taskId t := by
  intro hrejected
  rw [(e.applyTransition_eq t).1] at hrejected
  rw [stateOf_applyTransition]
  split
  · next htask =>
    subst htask
    obtain ⟨s, hs⟩ := Option.ne_none_iff_exists'.mp h
    rw [reduce_of_not_applied hrejected, workingSet, hs, Option.getD_some]
  · rfl

/-- A task never seen has a record after its first transition, rejected or not. -/
theorem leaves_of_unseen_iff {e : TimelineSegmentEngine} {t : Transition}
    (h : e.stateOf t.taskId = none) : e.Leaves t.taskId t ↔ ¬ t.Opens := by
  rw [Leaves, (e.applyTransition_eq t).1, workingSet, h, Option.getD_none,
    applied_reduce_fresh_iff, stateOf_applyTransition, if_pos rfl]
  exact imp_congr_right fun _ => iff_of_false (Option.some_ne_none _) id

theorem leaves_of_ne {e : TimelineSegmentEngine} {taskId : String} {t : Transition}
    (h : taskId ≠ t.taskId) : e.Leaves taskId t := by
  intro _
  rw [stateOf_applyTransition, if_neg h]

/-- A record is never dropped. -/
theorem stateOf_applyTransition_ne_none {e : TimelineSegmentEngine} {taskId : String}
    (h : e.stateOf taskId ≠ none) (t : Transition) :
    (e.applyTransition t).2.1.stateOf taskId ≠ none := by
  rw [stateOf_applyTransition]
  split
  · exact Option.some_ne_none _
  · exact h

/-- In a run on a task with a record every rejected transition leaves it. -/
theorem allLeaves_of_recorded {e : TimelineSegmentEngine} {taskId : String}
    (h : e.stateOf taskId ≠ none) (ts : List Transition) :
    AllSteps applyStep (Leaves taskId) e ts := by
  induction ts generalizing e with
  | nil => trivial
  | cons t ts ih =>
    rw [allSteps_cons_iff rfl]
    exact ⟨leaves_of_recorded h t, ih (stateOf_applyTransition_ne_none h t)⟩

/-- In a run on a task never seen, all depends on the first transition of the task. -/
theorem allLeaves_iff_of_unseen {e : TimelineSegmentEngine} {taskId : String}
    (h : e.stateOf taskId = none) (ts : List Transition) :
    AllSteps applyStep (Leaves taskId) e ts ↔
      ∀ t ∈ (ts.filter (·.taskId = taskId)).head?, ¬ t.Opens := by
  induction ts generalizing e with
  | nil => exact iff_of_true trivial fun t ht => absurd ht (Option.not_mem_none t)
  | cons t ts ih =>
    rw [allSteps_cons_iff rfl]
    by_cases htask : t.taskId = taskId
    · -- the first one of the task: whatever comes later finds its record
      subst htask
      rw [List.filter_cons_of_pos (by simp), List.head?_cons, leaves_of_unseen_iff h]
      have hrecord : (e.applyTransition t).2.1.stateOf t.taskId ≠ none := by
        rw [stateOf_applyTransition, if_pos rfl]
        exact Option.some_ne_none _
      constructor
      · rintro ⟨hopens, _⟩ u hu
        rwa [← Option.some.inj hu]
      · exact fun hall => ⟨hall t rfl, allLeaves_of_recorded hrecord ts⟩
    · have hother : taskId ≠ t.taskId := fun h' => htask h'.symm
      have hunseen : (e.applyTransition t).2.1.stateOf taskId = none := by
        rw [stateOf_applyTransition, if_neg hother, h]
      rw [List.filter_cons_of_neg (by simpa using htask), ih hunseen]
      exact and_iff_right (leaves_of_ne hother)

/-- A transition of a task in the run leaves a record of the task. -/
theorem stateOf_applyAll {e : TimelineSegmentEngine} {taskId : String} {ts : List Transition}
    (h : e.stateOf taskId ≠ none ∨ ∃ t ∈ ts, t.taskId = taskId) :
    (e.applyAll ts).1.stateOf taskId = some ((e.applyAll ts).1.workingSet taskId) := by
  have hrecord : (e.applyAll ts).1.stateOf taskId ≠ none := by
    induction ts generalizing e with
    | nil =>
      rcases h with hold | ⟨t, ht, _⟩
      · exact hold
      · cases ht
    | cons t ts ih =>
      have hnext : (e.applyTransition t).2.1.stateOf taskId ≠ none ∨
          ∃ u ∈ ts, u.taskId = taskId := by
        rcases h with hold | ⟨u, hu, hutask⟩
        · exact .inl (stateOf_applyTransition_ne_none hold t)
        · rcases List.mem_cons.mp hu with rfl | hrest
          · rw [stateOf_applyTransition, if_pos hutask.symm]
            exact .inl (Option.some_ne_none _)
          · exact .inr ⟨u, hrest, hutask⟩
      exact ih hnext
  obtain ⟨s, hs⟩ := Option.ne_none_iff_exists'.mp hrecord
  rw [workingSet, hs, Option.getD_some]

end TimelineSegmentEngine

/-! ## Tiling of every run -/

/-- What the record of a task says of its time after a run: the finalized segments and the
    open one behind them meet end to end and have distinct ids; after a terminal
    transition nothing is open and the durations add up to the time from the first
    opening to the termination. -/
structure TilesTime (ts : List Transition) (taskId : String) : Prop where
  contiguous : ∀ s ∈ (TimelineSegmentEngine.applyAll {} ts).1.stateOf taskId,
    s.spans.IsChain fun a b => a.2 = some b.1
  distinct : ∀ s ∈ (TimelineSegmentEngine.applyAll {} ts).1.stateOf taskId, s.segmentIds.Nodup
  open_le_one : ∀ s ∈ (TimelineSegmentEngine.applyAll {} ts).1.stateOf taskId,
    (s.spans.filter fun span => span.2 = none).length ≤ 1
  terminal : (∃ t ∈ ts, t.taskId = taskId ∧ intentFor t.target = .closeAndFinalize) →
    ∃ s ∈ (TimelineSegmentEngine.applyAll {} ts).1.stateOf taskId,
      s.openSegment = none ∧ ∃ stop, s.terminatedAtMonotonicNs = some stop ∧
        s.runDurationNs + s.waitDurationNs = (s.firstStart?.map (stop - ·)).getD 0

/-- Every run in which the clock of the task does not go back tiles its time. -/
theorem tilesTime_of_monotone {ts : List Transition} {taskId : String}
    (hmono : (ts.filter (·.taskId = taskId)).Pairwise fun t u => t.monotonicNs ≤ u.monotonicNs) :
    TilesTime ts taskId := by
  have hrun : (TimelineSegmentEngine.applyAll {} ts).1.workingSet taskId
      = (ts.filter (·.taskId = taskId)).foldl (fun s t => (reduce s t).2)
          { taskId := taskId } := TimelineSegmentEngine.workingSet_applyAll {} ts taskId
  have htiled : Tiled ((TimelineSegmentEngine.applyAll {} ts).1.workingSet taskId) := by
    rw [hrun]
    exact (Tiled.fresh taskId).run (fun o ho => absurd ho (Option.not_mem_none o)) hmono
  have hnumbered : Numbered taskId ((TimelineSegmentEngine.applyAll {} ts).1.workingSet taskId) :=
    hrun ▸ (Numbered.fresh taskId).run _
  -- what is recorded is the working set
  have hset (s : TaskTimelineState)
      (hs : s ∈ (TimelineSegmentEngine.applyAll {} ts).1.stateOf taskId) :
      (TimelineSegmentEngine.applyAll {} ts).1.workingSet taskId = s := by
    rw [TimelineSegmentEngine.workingSet, Option.mem_def.mp hs, Option.getD_some]
  refine ⟨fun s hs => hset s hs ▸ htiled.spans_isChain, fun s hs => hset s hs ▸ hnumbered.nodup,
    fun s _ => s.open_spans_le_one, ?_⟩
  rintro ⟨t, ht, htask, htarget⟩
  refine ⟨_, TimelineSegmentEngine.stateOf_applyAll (.inr ⟨t, ht, htask⟩), ?_⟩
  have hterminal :
      ((TimelineSegmentEngine.applyAll {} ts).1.workingSet taskId).terminalState ≠ none := by
    rw [hrun]
    refine terminalState_run (.inr ⟨t, List.mem_filter.mpr ⟨ht, ?_⟩, htarget⟩)
    simpa using htask
  exact ⟨(htiled.terminal hterminal).1, htiled.durations_eq hterminal⟩

/-- **The segments of a task tile its time, and rejections leave it alone, unless the task
    starts with an opening**: in every run of transitions in which the clock of the task
    does not go back its time is tiled; every rejected transition leaves `state_of(task)`
    as it was exactly when the first transition of the task is no RUNNING and no WAITING
    one.  The engine stores the working set of an unseen task before it asks the reducer. -/
theorem tiles_and_leaves_iff (ts : List Transition) (taskId : String)
    (hmono : (ts.filter (·.taskId = taskId)).Pairwise fun t u => t.monotonicNs ≤ u.monotonicNs) :
    (TilesTime ts taskId ∧ AllSteps TimelineSegmentEngine.applyStep
        (TimelineSegmentEngine.Leaves taskId) {} ts) ↔
      ∀ t ∈ (ts.filter (·.taskId = taskId)).head?, ¬ t.Opens := by
  rw [and_iff_right (tilesTime_of_monotone hmono)]
  exact TimelineSegmentEngine.allLeaves_iff_of_unseen rfl ts

/-- A task that runs, waits, runs again and completes, with a late second completion. -/
theorem tiles_and_leaves_iff_completed :
    let ts : List Transition :=
      [⟨"t", .created, some 1, 0, 0, none, none, none, 0, none⟩,
       ⟨"t", .running, some 2, 5, 0, none, none, none, 0, none⟩,
       ⟨"t", .waiting, some 3, 8, 0, none, none, none, 0, none⟩,
       ⟨"t", .completed, some 4, 20, 0, none, none, none, 0, none⟩,
       ⟨"t", .completed, some 5, 30, 0, none, none, none, 0, none⟩]
    ((TimelineSegmentEngine.applyAll {} ts).1.workingSet "t").spans
        = [(5, some 8), (8, some 20)] ∧
      TilesTime ts "t" ∧ AllSteps TimelineSegmentEngine.applyStep
        (TimelineSegmentEngine.Leaves "t") {} ts := by
  intro ts
  exact ⟨by decide, (tiles_and_leaves_iff ts "t" (by decide)).mpr (by decide)⟩

/-- A RUNNING transition of a task never seen is rejected, and `state_of` goes from nothing
    to a record. -/
theorem not_leaves_unseen :
    let t : Transition := ⟨"t", .running, some 1, 5, 0, none, none, none, 0, none⟩
    let e : TimelineSegmentEngine := {}
    ([t].filter (·.taskId = "t")).Pairwise (fun t u => t.monotonicNs ≤ u.monotonicNs) ∧
      (e.applyTransition t).1.applied = false ∧ e.stateOf "t" = none ∧
      (e.applyTransition t).2.1.stateOf "t" ≠ none ∧
      ¬ AllSteps TimelineSegmentEngine.applyStep
        (TimelineSegmentEngine.Leaves "t") e [t] := by
  intro t e
  have hrejected : (e.applyTransition t).1.applied = false := by decide
  have hrecord : (e.applyTransition t).2.1.stateOf "t" ≠ none := by
    rw [TimelineSegmentEngine.stateOf_applyTransition, if_pos rfl]
    exact Option.some_ne_none _
  refine ⟨List.pairwise_singleton _ _, hrejected, rfl, hrecord, fun h => hrecord ?_⟩
  exact h.1 hrejected

end AsyncViz.Runtime.Timeline
