/-
  AsyncViz.Dashboard.Projection

  The backend's store and the frontend's, fed the same task events: the bridge
  broadcasts every dispatched event, whether or not the backend's store applied it.

  The backend moves a task along its transition table; the frontend takes the
  state an event names, but for a terminal task that would become non-terminal.
  `Agreeable` is what an event may do without setting the two apart, and
  `agree_iff_agreeable` says that nothing else does.
-/

import AsyncViz.Frontend.Store
import AsyncViz.Lib.Transition
import AsyncViz.Runtime.State.Store

namespace AsyncViz.Dashboard.Projection

open AsyncViz.Frontend AsyncViz.Lib.Transition AsyncViz.Runtime AsyncViz.Runtime.State
open AsyncViz.Runtime.Tasks

/-! ## The two stores side by side -/

/-- The two stores, and the sequence of the last event. -/
structure Sides where
  store : RuntimeStateStore := .new
  ui : RuntimeStoreState := {}
  last : Option Int := none

/-- A dispatched event on its way to both: `now` and `frameAt` are the clock
    readings of the backend and of the frontend. -/
structure Broadcast where
  event : RuntimeEvent
  sequence : Int
  now : ℚ := 0
  timestamp : ℚ := 0
  frameAt : ℚ := 0

/-- The envelope of `_forward_queued`. -/
def Broadcast.envelope (b : Broadcast) : RuntimeEnvelope :=
  ⟨b.timestamp, some b.sequence, .runtimeEvent (eventPayload b.event)⟩

/-- One task event, under a sequence above all before it. -/
def step (s : Sides) (b : Broadcast) : Option Sides :=
  if b.event.body.isTaskEvent && s.last.all fun n => n < b.sequence then
    some
      { store := (s.store.apply b.now b.event (some b.sequence)).2.1
        ui := s.ui.applyEnvelopeReducer b.frameAt b.envelope
        last := some b.sequence }
  else none

/-- Both know the same tasks, in the same states. -/
def Agree (s : Sides) : Prop := s.store.states = s.ui.states

/-- The condition on one event: both stores drop it, or it leaves the task where it
    is, or the backend takes it too. -/
def Agreeable (s : Sides) (b : Broadcast) : Prop :=
  b.sequence ≤ 0 ∨
    match b.event.body.task?, b.event.body.targetState? with
    | some task, some target =>
      match s.store.states task.taskId with
      | none => target = .created ∧ b.event.eventId ∉ s.store.policy.seenIds
      | some state =>
        state = target ∨ (isTerminal state = true ∧ isTerminal target = false) ∨
          (canTransition state target = true ∧ b.event.eventId ∉ s.store.policy.seenIds)
    | _, _ => True

/-! ## One event -/

theorem evaluateTransition_none_allowed (target : TaskState) :
    (evaluateTransition none target).allowed = true ↔ target = .created := by
  cases target <;> decide

theorem evaluateTransition_some_allowed (state target : TaskState) :
    (evaluateTransition (some state) target).allowed = canTransition state target := by
  cases state <;> cases target <;> rfl

theorem terminalTaskState_eq (state : TaskState) : terminalTaskState state = isTerminal state := by
  cases state <;> rfl

/-- The two rules for the state of a task: the backend's, for an event it has not
    seen, and the frontend's.  They part exactly on the moves outside the table. -/
theorem moves_agree_iff (current : Option TaskState) (target : TaskState) (unseen : Prop)
    [Decidable unseen] :
    (if unseen ∧ (evaluateTransition current target).allowed = true then some target else current) =
        some (effectiveState current target) ↔
      match current with
      | none => target = .created ∧ unseen
      | some state =>
        state = target ∨ (isTerminal state = true ∧ isTerminal target = false) ∨
          (canTransition state target = true ∧ unseen) := by
  -- a task that the backend does not know: the frontend adds it under any state
  cases current with
  | none =>
    have hrule : unseen ∧ (evaluateTransition none target).allowed = true ↔
        target = .created ∧ unseen := by
      rw [evaluateTransition_none_allowed]
      exact and_comm
    show (if _ then some target else none) = some target ↔ target = .created ∧ unseen
    rw [if_congr hrule rfl rfl]
    split
    · next h => exact iff_of_true rfl h
    · next h => exact iff_of_false (fun habsurd => by cases habsurd) h
  | some state =>
    dsimp only
    rw [evaluateTransition_some_allowed]
    show (if _ then some target else some state) = some
      (if terminalTaskState state && !terminalTaskState target then state else target) ↔ _
    rw [terminalTaskState_eq, terminalTaskState_eq]
    by_cases hfrozen : isTerminal state = true ∧ isTerminal target = false
    · -- the backend has no transition either
      have hno : ¬ (unseen ∧ canTransition state target = true) := by
        rw [canTransition_of_isTerminal hfrozen.1]
        exact fun h => Bool.false_ne_true h.2
      have hstays : (isTerminal state && !isTerminal target) = true := by
        rw [hfrozen.1, hfrozen.2]
        rfl
      rw [if_neg hno, if_pos hstays]
      exact iff_of_true rfl (.inr (.inl hfrozen))
    · have hmoves : (isTerminal state && !isTerminal target) = false := by
        simp only [Bool.and_eq_false_iff, Bool.not_eq_false']
        by_cases hstate : isTerminal state = true
        · exact .inr (by simpa [hstate] using hfrozen)
        · exact .inl (Bool.eq_false_iff.mpr hstate)
      rw [hmoves, if_neg Bool.false_ne_true]
      split
      · next h => exact iff_of_true rfl (.inr (.inr ⟨h.2, h.1⟩))
      · next h =>
        constructor
        · intro hsame
          exact .inl (Option.some.inj hsame)
        · rintro (hsame | hboth | ⟨hcan, hunseen⟩)
          · exact congrArg some hsame
          · exact absurd hboth hfrozen
          · exact absurd ⟨hunseen, hcan⟩ h

/-! ## The two cursors -/

/-- The frontend's cursor is the last sequence, but never negative, and the
    backend's mark is not above it. -/
structure Cursors (s : Sides) : Prop where
  mark_nonneg : 0 ≤ s.store.lastSequence
  mark_le : s.store.lastSequence ≤ s.ui.lastSequence
  ui_fresh : s.last = none → s.ui.lastSequence = 0
  ui_last : ∀ n, s.last = some n → s.ui.lastSequence = max n 0

theorem step_eq_some {s s' : Sides} {b : Broadcast} (h : step s b = some s') :
    b.event.body.isTaskEvent = true ∧ (∀ n, s.last = some n → n < b.sequence) ∧
      s' =
        { store := (s.store.apply b.now b.event (some b.sequence)).2.1
          ui := s.ui.applyEnvelopeReducer b.frameAt b.envelope
          last := some b.sequence } := by
  rw [step] at h
  split at h
  · next hguard =>
    obtain ⟨htask, habove⟩ := Bool.and_eq_true_iff.mp hguard
    refine ⟨htask, fun n hn => ?_, (Option.some.inj h).symm⟩
    rw [hn] at habove
    exact of_decide_eq_true habove
  · cases h

/-- Below the frontend's cursor there is room only for sequences that are not
    positive, and then it has not moved yet. -/
theorem Cursors.of_le {s : Sides} {n : Int} (h : Cursors s)
    (habove : ∀ k, s.last = some k → k < n) (hle : n ≤ s.ui.lastSequence) :
    n ≤ 0 ∧ s.ui.lastSequence = 0 := by
  -- sequences only grow, so one at or below the cursor comes before it ever moved
  cases hlast : s.last with
  | none =>
    have hui := h.ui_fresh hlast
    omega
  | some k =>
    have hui := h.ui_last k hlast
    have hk := habove k hlast
    omega

/-- The backend's mark does not pass the sequence it is offered. -/
theorem apply_lastSequence_le (s : RuntimeStateStore) (now : ℚ) (event : RuntimeEvent) (n : Int) :
    (s.apply now event (some n)).2.1.lastSequence ≤ max n s.lastSequence := by
  have happlies := RuntimeStateStore.apply_applies s now event (some n)
  generalize s.apply now event (some n) = r at happlies ⊢
  cases happlies with
  | refused refusal decision_ne policy_eq states_eq =>
    have hsame := congrArg ReconciliationPolicy.lastSequence policy_eq
    exact Int.le_trans (Int.le_of_eq hsame) (Int.le_max_right n s.lastSequence)
  | admitted evaluated legal policy_eq states_eq =>
    have hmark := (ReconciliationPolicy.evaluate_eq_apply_iff.mp evaluated).2 n rfl
    have hmoved := congrArg ReconciliationPolicy.lastSequence policy_eq
    rw [ReconciliationPolicy.recordApplied_lastSequence_some hmark] at hmoved
    exact Int.le_trans (Int.le_of_eq hmoved) (Int.le_max_left n s.lastSequence)

theorem cursors_step {s s' : Sides} {b : Broadcast} (hs : Cursors s) (h : step s b = some s') :
    Cursors s' := by
  obtain ⟨-, habove, rfl⟩ := step_eq_some h
  have hnonneg := hs.mark_nonneg
  have hle := hs.mark_le
  have hui : (s.ui.applyEnvelopeReducer b.frameAt b.envelope).lastSequence = max b.sequence 0 := by
    rw [RuntimeStoreState.applyEnvelopeReducer_lastSequence rfl]
    show Frontend.maxSequence s.ui.lastSequence (some b.sequence) = max b.sequence 0
    rw [Frontend.maxSequence]
    split
    · omega
    · next hnot =>
      obtain ⟨hzero, hfresh⟩ := hs.of_le habove (by omega)
      omega
  have hmark : s.store.lastSequence ≤
      (s.store.apply b.now b.event (some b.sequence)).2.1.lastSequence :=
    RuntimeStateStore.lastSequence_le_apply
  have hbound := apply_lastSequence_le s.store b.now b.event b.sequence
  refine
    { mark_nonneg := Int.le_trans hnonneg hmark
      mark_le := ?_
      ui_fresh := fun habsurd => absurd habsurd (Option.some_ne_none b.sequence)
      ui_last := fun n hn => ?_ }
  · show _ ≤ (s.ui.applyEnvelopeReducer b.frameAt b.envelope).lastSequence
    rw [hui]
    refine Int.le_trans hbound ?_
    by_cases hbelow : b.sequence ≤ s.ui.lastSequence
    · obtain ⟨hzero, hfresh⟩ := hs.of_le habove hbelow
      omega
    · omega
  · obtain rfl := Option.some.inj hn
    exact hui

/-! ## Agreement along a run -/

/-- What the backend makes of a task event above its mark. -/
theorem states_apply_task {s : RuntimeStateStore} {now : ℚ} {event : RuntimeEvent} {n : Int}
    {task : TaskEventBase} {target : TaskState} (hbody : event.body.task? = some task)
    (htarget : event.body.targetState? = some target) (habove : s.lastSequence < n) :
    (s.apply now event (some n)).2.1.states =
      Function.update s.states task.taskId
        (if event.eventId ∉ s.policy.seenIds ∧
            (evaluateTransition (s.states task.taskId) target).allowed = true
          then some target else s.states task.taskId) := by
  have hevaluate : s.policy.evaluate (some n) event.eventId = .apply ↔
      event.eventId ∉ s.policy.seenIds := by
    rw [ReconciliationPolicy.evaluate_eq_apply_iff]
    refine and_iff_left fun k hk => ?_
    obtain rfl := Option.some.inj hk
    exact habove
  by_cases hunseen : event.eventId ∉ s.policy.seenIds
  · rw [RuntimeStateStore.states_apply (hevaluate.mpr hunseen)]
    rw [TaskStates.after, TaskStates.legal, TaskStates.move]
    rw [hbody, htarget]
    dsimp only
    by_cases hallowed : (evaluateTransition (s.states task.taskId) target).allowed = true
    · rw [if_pos hallowed, if_pos ⟨hunseen, hallowed⟩]
    · rw [if_neg hallowed, if_neg fun h => hallowed h.2, Function.update_eq_self]
  · have hrefused : s.policy.evaluate (some n) event.eventId ≠ .apply :=
      fun h => hunseen (hevaluate.mp h)
    rw [RuntimeStateStore.states_apply_of_refused hrefused, if_neg fun h => hunseen h.1,
      Function.update_eq_self]

/-- An event keeps the two sides in agreement exactly if it is agreeable. -/
theorem agree_step_iff {s s' : Sides} {b : Broadcast} (hs : Cursors s) (hagree : Agree s)
    (h : step s b = some s') : Agree s' ↔ Agreeable s b := by
  obtain ⟨htask, habove, rfl⟩ := step_eq_some h
  have hnonneg := hs.mark_nonneg
  have hle := hs.mark_le
  -- the event names a task and a target state, on both sides
  obtain ⟨task, hbody⟩ := Option.isSome_iff_exists.mp htask
  have hhas : b.event.body.targetState?.isSome = true := by
    rw [EventBody.targetState?_isSome]
    exact htask
  obtain ⟨target, htarget⟩ := Option.isSome_iff_exists.mp hhas
  obtain ⟨payload, hevent, hid, hstate⟩ := taskLifecycleEvent?_eventPayload hbody htarget
  show (s.store.apply b.now b.event (some b.sequence)).2.1.states =
    (s.ui.applyEnvelopeReducer b.frameAt b.envelope).states ↔ _
  by_cases hbelow : b.sequence ≤ 0
  · -- neither side takes a sequence that is not positive
    have hstore : (s.store.apply b.now b.event (some b.sequence)).2.1.states = s.store.states := by
      refine RuntimeStateStore.states_apply_of_refused fun happly => ?_
      have hpos : s.store.lastSequence < b.sequence :=
        (ReconciliationPolicy.evaluate_eq_apply_iff.mp happly).2 b.sequence rfl
      omega
    have hui : (s.ui.applyEnvelopeReducer b.frameAt b.envelope).states = s.ui.states := by
      refine RuntimeStoreState.states_applyEnvelope_dropped rfl fun haccepted => ?_
      have hpos : s.ui.lastSequence < b.sequence := decideStoreSequence_accepted_iff.mp haccepted
      omega
    rw [hstore, hui]
    exact iff_of_true hagree (.inl hbelow)
  · -- both sides are asked: their two rules decide
    have hpos : s.ui.lastSequence < b.sequence := by
      by_contra hnot
      obtain ⟨hzero, -⟩ := hs.of_le habove (by omega)
      omega
    have hstore : (s.store.apply b.now b.event (some b.sequence)).2.1.states = _ :=
      states_apply_task hbody htarget (Int.lt_of_le_of_lt hle hpos)
    have hui : (s.ui.applyEnvelopeReducer b.frameAt b.envelope).states = _ :=
      RuntimeStoreState.states_applyEnvelope_task rfl hevent hstate
        (decideStoreSequence_accepted_iff.mpr hpos)
    -- both write the same task, so the two new states decide
    rw [hstore, hui, hid, ← show s.store.states = s.ui.states from hagree,
      (Function.update_injective s.store.states task.taskId).eq_iff, moves_agree_iff]
    rw [Agreeable]
    rw [hbody, htarget]
    exact (or_iff_right hbelow).symm

theorem cursors_start : Cursors {} where
  mark_nonneg := Int.le_refl 0
  mark_le := Int.le_refl 0
  ui_fresh := fun _ => rfl
  ui_last := fun n hn => by cases hn

theorem agree_start : Agree {} := by
  funext id
  exact TaskRegistry.stateOf_new id

/-- Through a whole run the two sides know the same tasks in the same states exactly
    if every event of the run is agreeable. -/
theorem agree_iff_agreeable {broadcasts : List Broadcast} {s : Sides}
    (hrun : exec step {} broadcasts = some s) :
    AllStates step Agree {} broadcasts ↔ AllSteps step Agreeable {} broadcasts :=
  allStates_iff_allSteps (fun _ _ _ hs hstep => cursors_step hs hstep)
    (fun _ _ _ hs hagree hstep => agree_step_iff hs hagree hstep) cursors_start agree_start hrun

/-- An event of one task. -/
private def sampleMove (eventId : String) (sequence : Int) (body : TaskEventBase → EventBody) :
    Broadcast :=
  { event := { eventId := eventId, body := body { taskId := "t" } }, sequence := sequence }

/-- A task that is created and completes. -/
theorem agree_iff_agreeable_completed :
    AllStates step Agree {}
        [sampleMove "a" 1 .taskCreated, sampleMove "b" 2 (.taskCompleted · {})] ↔
      AllSteps step Agreeable {}
        [sampleMove "a" 1 .taskCreated, sampleMove "b" 2 (.taskCompleted · {})] :=
  agree_iff_agreeable rfl

/-- A failure after the completion: the backend's task is locked, the frontend's
    turns from completed to failed. -/
theorem late_failure_diverges :
    ∃ s, exec step {} [sampleMove "a" 1 .taskCreated, sampleMove "b" 2 (.taskCompleted · {}),
        sampleMove "c" 3 (.taskFailed · {} none none)] = some s ∧
      s.store.states "t" = some .completed ∧ s.ui.states "t" = some .failed :=
  ⟨_, rfl, rfl, rfl⟩

end AsyncViz.Dashboard.Projection
