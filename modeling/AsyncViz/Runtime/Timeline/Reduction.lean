/-
  AsyncViz.Runtime.Timeline.Reduction

  Runs of `apply_transition`, and what one transition does to the working set of
  its task.

  `applyTransition_eq` splits the engine into the working set of one task and the
  rest; `reduced` lists the four outcomes of a reducer; `workingSet_applyAll` says that
  a task sees only its own transitions.  Segment ids (`segmentIdOf`) determine the
  task and the counter they were made of.
-/

import Std.Data.String.ToNat
import AsyncViz.Runtime.Timeline.Engine

namespace AsyncViz.Runtime.Timeline

open AsyncViz.Lib

/-! ## Segment ids -/

/-- The id that `next_segment_id` makes of a task and its counter. -/
def segmentIdOf (taskId : String) (n : Nat) : String := s!"{taskId}:{n}"

/-- What stands behind the last colon, and what stands before it. -/
private theorem append_colon_inj {xs ys ds es : List Char} (hds : ':' ∉ ds) (hes : ':' ∉ es)
    (h : xs ++ ':' :: ds = ys ++ ':' :: es) : xs = ys ∧ ds = es := by
  rcases List.append_eq_append_iff.mp h with ⟨c, rfl, hc⟩ | ⟨c, rfl, hc⟩
  · cases c with
    | nil => exact ⟨(List.append_nil xs).symm, (List.cons.inj hc).2⟩
    | cons _ c =>
      rw [List.cons_append, List.cons.injEq] at hc
      exact absurd (hc.2 ▸ List.mem_append_right c List.mem_cons_self) hds
  · cases c with
    | nil => exact ⟨List.append_nil ys, (List.cons.inj hc).2.symm⟩
    | cons _ c =>
      rw [List.cons_append, List.cons.injEq] at hc
      exact absurd (hc.2 ▸ List.mem_append_right c List.mem_cons_self) hes

/-- The digits of a counter hold no colon, so an id says which task and which counter
    it is of. -/
theorem segmentIdOf_inj {taskId taskId' : String} {m n : Nat}
    (h : segmentIdOf taskId m = segmentIdOf taskId' n) : taskId = taskId' ∧ m = n := by
  have hcolon (k : Nat) : ':' ∉ Nat.toDigits 10 k := by
    intro hmem
    exact absurd (Nat.isDigit_of_mem_toDigits (by decide) (by decide) hmem) (by decide)
  have hchars (s : String) (k : Nat) :
      (segmentIdOf s k).toList = s.toList ++ ':' :: Nat.toDigits 10 k := by
    have hsplit : segmentIdOf s k = s ++ ":" ++ Nat.repr k := rfl
    simp only [hsplit, String.toList_append, Nat.repr, String.toList_ofList, List.append_assoc]
    rfl
  have hlists := congrArg String.toList h
  rw [hchars, hchars] at hlists
  obtain ⟨htask, hdigits⟩ := append_colon_inj (hcolon m) (hcolon n) hlists
  exact ⟨String.toList_inj.mp htask, Nat.repr_inj.mp (congrArg String.ofList hdigits)⟩

/-! ## One transition -/

/-- What the engine's reducer of the target does to a working set. -/
def reduce (s : TaskTimelineState) (t : Transition) :
    TimelineReducerResult × TaskTimelineState :=
  match intentFor t.target with
  | .create => reduceCreate s t
  | .openRun => reduceOpenRun s t
  | .openWait => reduceOpenWait s t
  | .closeAndFinalize => reduceCloseAndFinalize s t
  | .ignore => (.rejected (.noIntent t.target) false, s)

/-- The outcomes of a reducer: a rejection leaves the working set alone, a creation
    touches neither segments nor durations, and the others first close what is open. -/
inductive Outcome (s : TaskTimelineState) (t : Transition) :
    TimelineReducerResult × TaskTimelineState → Prop
  | rejected (reason : TimelineRejection)
      (hterminal : intentFor t.target = .closeAndFinalize → s.terminalState ≠ none) :
      Outcome s t (.rejected reason true, s)
  | created (hfresh : s.created = false) (htarget : intentFor t.target ≠ .closeAndFinalize) :
      Outcome s t (reduceCreate s t)
  | opened (segmentType : SegmentType) (state : TaskState) (hlive : s.terminalState = none)
      (htarget : intentFor t.target ≠ .closeAndFinalize) :
      Outcome s t
        ({ applied := true
           closedASegment := (closeOpenSegment s t).1
           openedSegmentType := some segmentType
           finalizedTask := false },
          openNewSegment (closeOpenSegment s t).2 segmentType t state)
  | finalized (hlive : s.terminalState = none)
      (htarget : intentFor t.target = .closeAndFinalize) :
      Outcome s t
        ({ applied := true
           closedASegment := (closeOpenSegment s t).1
           openedSegmentType := none
           finalizedTask := true },
          finalizeTask (closeOpenSegment s t).2 t)

theorem reduceOpen_outcome {s : TaskTimelineState} {t : Transition} (segmentType : SegmentType)
    (state : TaskState) (htarget : intentFor t.target ≠ .closeAndFinalize) :
    Outcome s t (reduceOpen segmentType state s t) := by
  rw [reduceOpen]
  split
  · exact .rejected _ fun h => absurd h htarget
  · next hlive =>
    split
    · exact .opened segmentType state hlive htarget
    · exact .rejected _ fun h => absurd h htarget

theorem reduce_outcome (s : TaskTimelineState) (t : Transition) : Outcome s t (reduce s t) := by
  rw [reduce]
  cases hintent : intentFor t.target with
  | create =>
    have htarget : intentFor t.target ≠ .closeAndFinalize := by rw [hintent]; decide
    by_cases hcreated : s.created = true
    · have hrejected : reduceCreate s t = (.rejected (.alreadyCreated s.taskId) true, s) :=
        if_pos hcreated
      simp only [hrejected]
      exact .rejected _ fun h => absurd h htarget
    · exact .created (Bool.eq_false_iff.mpr hcreated) htarget
  | openRun => exact reduceOpen_outcome .run .running (by rw [hintent]; decide)
  | openWait => exact reduceOpen_outcome .wait .waiting (by rw [hintent]; decide)
  | closeAndFinalize =>
    simp only [reduceCloseAndFinalize]
    split
    · next terminal hterminal =>
      exact .rejected _ fun _ => hterminal ▸ Option.some_ne_none terminal
    · next hlive => exact .finalized hlive hintent
  | ignore => exact absurd hintent (intentFor_ne_ignore t.target)

/-- A reducer that does not apply changes nothing. -/
theorem reduce_of_not_applied {s : TaskTimelineState} {t : Transition}
    (h : (reduce s t).1.applied = false) : (reduce s t).2 = s := by
  have houtcome := reduce_outcome s t
  generalize reduce s t = r at h houtcome ⊢
  cases houtcome with
  | rejected => rfl
  | created hfresh =>
    rw [reduceCreate, if_neg (Bool.eq_false_iff.mp hfresh)] at h
    cases h
  | opened => cases h
  | finalized => cases h

/-! ## Closing and opening -/

/-- The ids of the finalized segments, and the id of the open one behind them. -/
def TaskTimelineState.segmentIds (s : TaskTimelineState) : List String :=
  s.segments.map TimelineSegment.segmentId ++ s.openSegment.toList.map OpenSegment.segmentId

@[simp] theorem openSegment_closeOpenSegment (s : TaskTimelineState) (t : Transition) :
    (closeOpenSegment s t).2.openSegment = none := by
  rw [closeOpenSegment]
  split
  · assumption
  · rfl

theorem segments_closeOpenSegment (s : TaskTimelineState) (t : Transition) :
    (closeOpenSegment s t).2.segments
      = s.segments ++ s.openSegment.toList.map
          fun o => finalizeSegment o t.sequence t.monotonicNs t.wallSeconds := by
  rw [closeOpenSegment]
  split
  · next hnone => rw [hnone]; exact (List.append_nil _).symm
  · next o hsome => rw [hsome]; rfl

/-- A close that closed something had something open. -/
theorem closeOpenSegment_fst (s : TaskTimelineState) (t : Transition) :
    (closeOpenSegment s t).1 = s.openSegment.isSome := by
  rw [closeOpenSegment]
  split
  · next hnone => rw [hnone]; rfl
  · next hsome => rw [hsome]; rfl

/-- What closing leaves alone. -/
theorem closeOpenSegment_frame (s : TaskTimelineState) (t : Transition) :
    (closeOpenSegment s t).2.taskId = s.taskId ∧
      (closeOpenSegment s t).2.segmentCounter = s.segmentCounter ∧
      (closeOpenSegment s t).2.terminalState = s.terminalState ∧
      (closeOpenSegment s t).2.terminatedAtMonotonicNs = s.terminatedAtMonotonicNs := by
  rw [closeOpenSegment]
  split <;> exact ⟨rfl, rfl, rfl, rfl⟩

/-- Closing moves an id from the open segment to the finalized ones. -/
theorem segmentIds_closeOpenSegment (s : TaskTimelineState) (t : Transition) :
    (closeOpenSegment s t).2.segmentIds = s.segmentIds := by
  rw [TaskTimelineState.segmentIds, TaskTimelineState.segmentIds, openSegment_closeOpenSegment,
    segments_closeOpenSegment, List.map_append, List.map_map]
  exact List.append_nil _

/-- The working set of a task, with its segments numbered in the order of their opening. -/
structure Numbered (taskId : String) (s : TaskTimelineState) : Prop where
  taskId_eq : s.taskId = taskId
  ids : s.segmentIds = (List.range s.segmentCounter).map (segmentIdOf taskId)
  closed_task : ∀ segment ∈ s.segments, segment.taskId = taskId
  open_task : ∀ o ∈ s.openSegment, o.taskId = taskId

namespace Numbered

variable {taskId : String} {s : TaskTimelineState}

theorem fresh (taskId : String) : Numbered taskId { taskId := taskId } where
  taskId_eq := rfl
  ids := rfl
  closed_task _ hmem := absurd hmem List.not_mem_nil
  open_task _ hopen := absurd hopen (Option.not_mem_none _)

theorem close (h : Numbered taskId s) (t : Transition) :
    Numbered taskId (closeOpenSegment s t).2 where
  taskId_eq := (closeOpenSegment_frame s t).1.trans h.taskId_eq
  ids := by rw [segmentIds_closeOpenSegment, (closeOpenSegment_frame s t).2.1, h.ids]
  closed_task segment hmem := by
    rw [segments_closeOpenSegment, List.mem_append] at hmem
    rcases hmem with hold | hnew
    · exact h.closed_task segment hold
    · obtain ⟨o, hopen, rfl⟩ := List.mem_map.mp hnew
      exact h.open_task o (Option.mem_toList.mp hopen)
  open_task o hopen := by
    rw [openSegment_closeOpenSegment] at hopen
    exact absurd hopen (Option.not_mem_none o)

theorem openNew (h : Numbered taskId s) (hnone : s.openSegment = none) (segmentType : SegmentType)
    (t : Transition) (state : TaskState) :
    Numbered taskId (openNewSegment s segmentType t state) where
  taskId_eq := h.taskId_eq
  ids := by
    have hids : s.segments.map TimelineSegment.segmentId
        = (List.range s.segmentCounter).map (segmentIdOf taskId) := by
      rw [← h.ids, TaskTimelineState.segmentIds, hnone]
      exact (List.append_nil _).symm
    show s.segments.map TimelineSegment.segmentId ++ [segmentIdOf s.taskId s.segmentCounter]
      = (List.range (s.segmentCounter + 1)).map (segmentIdOf taskId)
    rw [hids, List.range_succ, List.map_append, h.taskId_eq]
    rfl
  closed_task := h.closed_task
  open_task o hopen := by
    obtain rfl := Option.some.inj hopen
    exact h.taskId_eq

/-- Every transition keeps the numbering. -/
theorem reduce (h : Numbered taskId s) (t : Transition) :
    Numbered taskId (Timeline.reduce s t).2 := by
  have houtcome := reduce_outcome s t
  generalize Timeline.reduce s t = r at houtcome ⊢
  cases houtcome with
  | rejected => exact h
  | created hfresh =>
    rw [reduceCreate, if_neg (Bool.eq_false_iff.mp hfresh)]
    exact ⟨h.taskId_eq, h.ids, h.closed_task, h.open_task⟩
  | opened segmentType state =>
    exact (h.close t).openNew (openSegment_closeOpenSegment s t) segmentType t state
  | finalized =>
    have hclosed := h.close t
    exact ⟨hclosed.taskId_eq, hclosed.ids, hclosed.closed_task, hclosed.open_task⟩

theorem run (h : Numbered taskId s) (ts : List Transition) :
    Numbered taskId (ts.foldl (fun s t => (Timeline.reduce s t).2) s) := by
  induction ts generalizing s with
  | nil => exact h
  | cons t ts ih => exact ih (h.reduce t)

/-- No id is given twice. -/
theorem nodup (h : Numbered taskId s) : s.segmentIds.Nodup := by
  rw [h.ids]
  exact List.nodup_range.map fun _ _ hid => (segmentIdOf_inj hid).2

end Numbered

/-! ## The engine, one task at a time -/

namespace TimelineSegmentEngine

/-- `engine.state_of(task_id)`: none for a task never seen. -/
def stateOf (e : TimelineSegmentEngine) (taskId : String) : Option TaskTimelineState :=
  e.states.get? taskId

/-- The working set that `apply_transition` hands to the reducer: the record of the
    task, or the fresh one that it stores for a task never seen. -/
def workingSet (e : TimelineSegmentEngine) (taskId : String) : TaskTimelineState :=
  (e.stateOf taskId).getD { taskId := taskId }

/-- A transition, as one step of a run. -/
def applyStep (e : TimelineSegmentEngine) (t : Transition) : Option TimelineSegmentEngine :=
  some (e.applyTransition t).2.1

/-- A run of `apply_transition`, with the deltas it emits. -/
def applyAll (e : TimelineSegmentEngine) :
    List Transition → TimelineSegmentEngine × List TimelineDelta
  | [] => (e, [])
  | t :: ts =>
    let (_, e', deltas) := e.applyTransition t
    let (e'', rest) := applyAll e' ts
    (e'', deltas ++ rest)

/-- The reducer that the engine picks. -/
theorem reducerFor_eq (t : Transition) :
    ∃ reducer, reducerFor (intentFor t.target) = some reducer ∧ ∀ s, reducer s t = reduce s t := by
  cases hintent : intentFor t.target with
  | create => exact ⟨reduceCreate, rfl, fun s => by rw [reduce, hintent]⟩
  | openRun => exact ⟨reduceOpenRun, rfl, fun s => by rw [reduce, hintent]⟩
  | openWait => exact ⟨reduceOpenWait, rfl, fun s => by rw [reduce, hintent]⟩
  | closeAndFinalize => exact ⟨reduceCloseAndFinalize, rfl, fun s => by rw [reduce, hintent]⟩
  | ignore => exact absurd hintent (intentFor_ne_ignore t.target)

/-- What a transition does, by the reducer of its task. -/
theorem applyTransition_eq (e : TimelineSegmentEngine) (t : Transition) :
    (e.applyTransition t).1 = (reduce (e.workingSet t.taskId) t).1 ∧
      (e.applyTransition t).2.1.states
        = e.states.set t.taskId (reduce (e.workingSet t.taskId) t).2 ∧
      (e.applyTransition t).2.2
        = if (reduce (e.workingSet t.taskId) t).1.applied then
            emitDeltasFor t (reduce (e.workingSet t.taskId) t).1
              (reduce (e.workingSet t.taskId) t).2
          else [] := by
  obtain ⟨reducer, hreducer, heq⟩ := reducerFor_eq t
  rw [applyTransition, hreducer]
  dsimp only
  rw [heq, ← stateOf, ← workingSet]
  cases happlied : (reduce (e.workingSet t.taskId) t).1.applied <;> exact ⟨rfl, rfl, rfl⟩

/-- Every transition of a task leaves a record of it, also a rejected one. -/
theorem stateOf_applyTransition (e : TimelineSegmentEngine) (t : Transition) (taskId : String) :
    (e.applyTransition t).2.1.stateOf taskId
      = if taskId = t.taskId then some (reduce (e.workingSet t.taskId) t).2
        else e.stateOf taskId := by
  rw [stateOf, (e.applyTransition_eq t).2.1, Dict.get?_set]
  rfl

/-- A transition moves the working set of its own task only. -/
theorem workingSet_applyTransition (e : TimelineSegmentEngine) (t : Transition)
    (taskId : String) :
    (e.applyTransition t).2.1.workingSet taskId
      = if taskId = t.taskId then (reduce (e.workingSet taskId) t).2 else e.workingSet taskId := by
  rw [workingSet, stateOf_applyTransition]
  split
  · next h => rw [h]; rfl
  · rfl

/-- A task sees its own transitions, in their order. -/
theorem workingSet_applyAll (e : TimelineSegmentEngine) (ts : List Transition) (taskId : String) :
    (e.applyAll ts).1.workingSet taskId
      = (ts.filter (·.taskId = taskId)).foldl (fun s t => (reduce s t).2)
          (e.workingSet taskId) := by
  induction ts generalizing e with
  | nil => rfl
  | cons t ts ih =>
    rw [applyAll]
    dsimp only
    rw [ih, workingSet_applyTransition]
    by_cases h : taskId = t.taskId
    · rw [if_pos h, List.filter_cons_of_pos (by simpa using h.symm), List.foldl_cons]
    · rw [if_neg h, List.filter_cons_of_neg (by simpa using fun h' => h h'.symm)]

end TimelineSegmentEngine

end AsyncViz.Runtime.Timeline
