/-
  AsyncViz.Runtime.State.Store

  `RuntimeStateStore` (`runtime/state/store.py`): reconcile, reduce, notify.

  A call returns the change it hands to the subscribed listeners; the modules that
  bind a listener to the store thread their own state through that change.  `now`
  is the reading of `time.time()` during the call.

  `TaskStates` is what the store is for, a map from task ids to lifecycle states
  that moves along the transition table; `apply_applies` connects `apply` to it.
-/

import AsyncViz.Runtime.State.Reconciliation
import AsyncViz.Runtime.State.Reducers

namespace AsyncViz.Runtime.State

open AsyncViz.Lib AsyncViz.Runtime.Tasks

/-! ## The lifecycle states of a runtime -/

/-- The lifecycle state of every known task. -/
abbrev TaskStates := String → Option TaskState

namespace TaskStates

/-- No task is known. -/
def initial : TaskStates := fun _ => none

/-- An event the lifecycle admits: any non-task event, and a task event whose
    transition the table allows. -/
def legal (σ : TaskStates) (body : EventBody) : Bool :=
  match body.task?, body.targetState? with
  | some task, some target => (evaluateTransition (σ task.taskId) target).allowed
  | _, _ => true

/-- The states after a legal event. -/
def move (σ : TaskStates) (body : EventBody) : TaskStates :=
  match body.task?, body.targetState? with
  | some task, some target => Function.update σ task.taskId (some target)
  | _, _ => σ

/-- The states after an event: an illegal one changes nothing. -/
def after (σ : TaskStates) (body : EventBody) : TaskStates :=
  if σ.legal body then σ.move body else σ

theorem after_of_legal {σ : TaskStates} {body : EventBody} (h : σ.legal body = true) :
    σ.after body = σ.move body := if_pos h

theorem after_of_illegal {σ : TaskStates} {body : EventBody} (h : σ.legal body = false) :
    σ.after body = σ := if_neg (by simp [h])

theorem legal_of_not_task {σ : TaskStates} {body : EventBody} (h : body.isTaskEvent = false) :
    σ.legal body = true ∧ σ.move body = σ := by
  cases body <;> first | exact ⟨rfl, rfl⟩ | cases h

end TaskStates

/-! ## Metrics -/

/-- `StateStoreMetrics`. -/
structure StateStoreMetrics where
  eventsApplied : Nat := 0
  eventsStale : Nat := 0
  eventsDuplicate : Nat := 0
  eventsUnknownType : Nat := 0
  eventsRejected : Nat := 0
  rebuildsCompleted : Nat := 0
  lastEventSequence : Int := 0
  lastEventMonotonicNs : Int := 0
  lastEventId : Option String := none
  lastEventType : Option String := none
  snapshotsEmitted : Nat := 0
deriving DecidableEq, Repr

namespace StateStoreMetrics

def recordApplied (m : StateStoreMetrics) (sequence monotonicNs : Int)
    (eventId eventType : String) : StateStoreMetrics :=
  { m with
    eventsApplied := m.eventsApplied + 1
    lastEventSequence := if sequence > m.lastEventSequence then sequence else m.lastEventSequence
    lastEventMonotonicNs :=
      if monotonicNs > m.lastEventMonotonicNs then monotonicNs else m.lastEventMonotonicNs
    lastEventId := some eventId
    lastEventType := some eventType }

def recordStale (m : StateStoreMetrics) : StateStoreMetrics :=
  { m with eventsStale := m.eventsStale + 1 }

def recordDuplicate (m : StateStoreMetrics) : StateStoreMetrics :=
  { m with eventsDuplicate := m.eventsDuplicate + 1 }

def recordUnknownType (m : StateStoreMetrics) : StateStoreMetrics :=
  { m with eventsUnknownType := m.eventsUnknownType + 1 }

def recordRejected (m : StateStoreMetrics) : StateStoreMetrics :=
  { m with eventsRejected := m.eventsRejected + 1 }

def recordRebuild (m : StateStoreMetrics) : StateStoreMetrics :=
  { m with rebuildsCompleted := m.rebuildsCompleted + 1 }

def recordSnapshot (m : StateStoreMetrics) : StateStoreMetrics :=
  { m with snapshotsEmitted := m.snapshotsEmitted + 1 }

/-- `soft_reset_lifetime`: the lifetime counters survive. -/
def softResetLifetime (m : StateStoreMetrics) : StateStoreMetrics :=
  { rebuildsCompleted := m.rebuildsCompleted, snapshotsEmitted := m.snapshotsEmitted }

end StateStoreMetrics

/-! ## The store -/

/-- `StateChange`: what a listener is told. -/
structure StateChange where
  event : RuntimeEvent
  sequence : Option Int
  lastSequence : Int
  decision : ReconciliationDecision
  eventType : String
  eventId : String

/-- `RuntimeStateStore`. -/
structure RuntimeStateStore where
  registry : TaskRegistry
  policy : ReconciliationPolicy
  metrics : StateStoreMetrics
  history : TransitionHistory
  projections : ProjectionInvalidationBus
  reducerMetrics : ReducerMetrics

/-- The arguments of one `apply` call, with its reading of the wall clock. -/
structure ApplyCall where
  event : RuntimeEvent
  sequence : Option Int
  now : ℚ

/-- The part of `RuntimeStateSnapshot` that a client hydrates its tasks from. -/
structure RuntimeStateSnapshot where
  tasks : List TaskSnapshot
  lastSequence : Int
  lastEventId : Option String

namespace RuntimeStateStore

/-- `RuntimeStateStore(TaskRegistry())`. -/
def new : RuntimeStateStore :=
  { registry := .new, policy := .default, metrics := {}, history := .new
    projections := .empty, reducerMetrics := {} }

/-- `store.last_sequence`. -/
def lastSequence (s : RuntimeStateStore) : Int := s.policy.lastSequence

/-- The lifecycle states the registry holds. -/
def states (s : RuntimeStateStore) : TaskStates := s.registry.stateOf

/-- The context handed to a reducer. -/
def reducerContext (s : RuntimeStateStore) (sequence : Option Int) : ReducerContext :=
  { registry := s.registry, history := s.history, projections := s.projections
    metrics := s.reducerMetrics, sequence := sequence }

/-- The store after a reducer ran: the context was its own parts by reference. -/
def afterReducer (s : RuntimeStateStore) (ctx : ReducerContext) : RuntimeStateStore :=
  { s with
    registry := ctx.registry
    history := ctx.history
    projections := ctx.projections
    reducerMetrics := ctx.metrics }

/-- The change announced for an event that was just recorded in the policy. -/
def change (s : RuntimeStateStore) (event : RuntimeEvent) (sequence : Option Int) : StateChange :=
  { event := event
    sequence := sequence
    lastSequence := s.policy.lastSequence
    decision := .apply
    eventType := event.eventType
    eventId := event.eventId }

/-- `store.apply(event, sequence)`: the decision, the store it leaves behind, and
    the change its listeners receive. -/
def apply (s : RuntimeStateStore) (now : ℚ) (event : RuntimeEvent) (sequence : Option Int) :
    ReconciliationDecision × RuntimeStateStore × Option StateChange :=
  match s.policy.evaluate sequence event.eventId with
  | .stale => (.stale, { s with metrics := s.metrics.recordStale }, none)
  | .duplicate => (.duplicate, { s with metrics := s.metrics.recordDuplicate }, none)
  | .apply =>
    if event.body.isTaskEvent then
      match reduce (s.reducerContext sequence) now event with
      -- no reducer is registered for the event; the default registry has one for every task event
      | none => (.stale, { s with metrics := s.metrics.recordRejected }, none)
      | some (result, ctx) =>
        let s := s.afterReducer ctx
        if result.applied then
          let s := { s with
            policy := s.policy.recordApplied sequence event.eventId
            metrics := s.metrics.recordApplied (sequence.getD 0) event.monotonicNs
              event.eventId event.eventType }
          (.apply, s, some (s.change event sequence))
        else (.stale, { s with metrics := s.metrics.recordRejected }, none)
    else
      let s := { s with
        metrics := s.metrics.recordUnknownType
        policy := s.policy.recordApplied sequence event.eventId }
      (.apply, s, some (s.change event sequence))

/-- A run of `apply` calls: the number that applied, the final store, and the
    changes announced, in order. -/
def applyAll (s : RuntimeStateStore) : List ApplyCall → Nat × RuntimeStateStore × List StateChange
  | [] => (0, s, [])
  | call :: calls =>
    let (decision, s, change) := s.apply call.now call.event call.sequence
    let (applied, s, changes) := s.applyAll calls
    (if decision = .apply then applied + 1 else applied, s, change.toList ++ changes)

/-- The store `rebuild` starts the replay from. -/
def resetForRebuild (s : RuntimeStateStore) : RuntimeStateStore :=
  { registry := s.registry.clear
    policy := s.policy.resetForRebuild
    metrics := s.metrics.softResetLifetime
    history := s.history.clear
    projections := .empty
    reducerMetrics := {} }

/-- `store.rebuild(events)`. -/
def rebuild (s : RuntimeStateStore) (events : List ApplyCall) :
    Nat × RuntimeStateStore × List StateChange :=
  let (applied, s, changes) := s.resetForRebuild.applyAll events
  (applied, { s with metrics := s.metrics.recordRebuild }, changes)

/-- `store.snapshot()`. -/
def snapshot (s : RuntimeStateStore) : RuntimeStateSnapshot × RuntimeStateStore :=
  ({ tasks := s.registry.snapshotAllTasks
     lastSequence := s.policy.lastSequence
     lastEventId := s.metrics.lastEventId },
    { s with metrics := s.metrics.recordSnapshot })

/-! ## What `apply` does -/

/-- The two outcomes of `apply`: a refused event leaves the policy and the states
    alone and announces nothing; an admitted one is recorded, moves the states and
    is announced. -/
inductive Applies (s : RuntimeStateStore) (event : RuntimeEvent) (sequence : Option Int) :
    ReconciliationDecision × RuntimeStateStore × Option StateChange → Prop where
  | refused {decision : ReconciliationDecision} {s' : RuntimeStateStore}
      (refusal : s.policy.evaluate sequence event.eventId ≠ .apply ∨
        s.states.legal event.body = false)
      (decision_ne : decision ≠ .apply)
      (policy_eq : s'.policy = s.policy) (states_eq : s'.states = s.states) :
      Applies s event sequence (decision, s', none)
  | admitted {s' : RuntimeStateStore}
      (evaluated : s.policy.evaluate sequence event.eventId = .apply)
      (legal : s.states.legal event.body = true)
      (policy_eq : s'.policy = s.policy.recordApplied sequence event.eventId)
      (states_eq : s'.states = s.states.move event.body) :
      Applies s event sequence (.apply, s', some (s'.change event sequence))

/-- What is refused is not admitted. -/
theorem not_admitted_of_refusal {p : ReconciliationPolicy} {σ : TaskStates} {sequence : Option Int}
    {event : RuntimeEvent}
    (refusal : p.evaluate sequence event.eventId ≠ .apply ∨ σ.legal event.body = false) :
    ¬ (p.evaluate sequence event.eventId = .apply ∧ σ.legal event.body = true) := by
  rintro ⟨heval, hlegal⟩
  rcases refusal with hne | hillegal
  · exact hne heval
  · rw [hlegal] at hillegal
    cases hillegal

/-- Reading `Reduces` at the level of the lifecycle states. -/
theorem states_of_reduces {s : RuntimeStateStore} {sequence : Option Int} {body : EventBody}
    {task : TaskEventBase} {target : TaskState} {r : ReducerResult × ReducerContext}
    (htask : body.task? = some task) (htarget : body.targetState? = some target)
    (h : Reduces (s.reducerContext sequence) task target r) :
    r.1.applied = s.states.legal body ∧
      (s.afterReducer r.2).states = if r.1.applied then s.states.move body else s.states := by
  have happlied : r.1.applied = s.states.legal body := by
    rw [h.applied_eq, TaskStates.legal, htask, htarget]
    rfl
  refine ⟨happlied, funext fun id => ?_⟩
  show r.2.registry.stateOf id = _
  rw [h.stateOf_eq id, TaskStates.move, htask, htarget]
  -- applied: the task of the event has the target, every other task its old state
  by_cases hyes : r.1.applied = true
  · by_cases hid : id = task.taskId
    · rw [hid, if_pos ⟨hyes, rfl⟩, if_pos hyes]
      exact (Function.update_self task.taskId (some target) s.states).symm
    · rw [if_neg (fun hboth => hid hboth.2), if_pos hyes]
      exact (Function.update_of_ne hid (some target) s.states).symm
  · rw [if_neg (fun hboth => hyes hboth.1), if_neg hyes]
    rfl

theorem apply_applies (s : RuntimeStateStore) (now : ℚ) (event : RuntimeEvent)
    (sequence : Option Int) : Applies s event sequence (s.apply now event sequence) := by
  rw [apply]
  cases heval : s.policy.evaluate sequence event.eventId with
  | stale => exact .refused (.inl (by simp [heval])) (by decide) rfl rfl
  | duplicate => exact .refused (.inl (by simp [heval])) (by decide) rfl rfl
  | apply =>
    by_cases htask : event.body.isTaskEvent = true
    · simp only [htask, if_true]
      cases hreduce : reduce (s.reducerContext sequence) now event with
      | none =>
        -- every task event has its reducer
        have hsome := reduce_isSome (s.reducerContext sequence) now event
        rw [hreduce, htask] at hsome
        cases hsome
      | some r =>
        obtain ⟨task, target, hbase, htarget, hreduces⟩ := reduce_reduces hreduce
        obtain ⟨happlied, hstates⟩ := states_of_reduces hbase htarget hreduces
        dsimp only
        by_cases hyes : r.1.applied = true
        · rw [if_pos hyes] at hstates ⊢
          exact .admitted heval (happlied.symm.trans hyes) rfl hstates
        · rw [if_neg hyes] at hstates ⊢
          have hillegal : s.states.legal event.body = false :=
            happlied.symm.trans (Bool.eq_false_iff.mpr hyes)
          exact .refused (.inr hillegal) (by decide) rfl hstates
    · have hother : event.body.isTaskEvent = false := Bool.eq_false_iff.mpr htask
      obtain ⟨hlegal, hmove⟩ := TaskStates.legal_of_not_task (σ := s.states) hother
      simp only [hother, if_false, Bool.false_eq_true]
      exact .admitted heval hlegal rfl hmove.symm

section Outcomes

variable {s : RuntimeStateStore} {now : ℚ} {event : RuntimeEvent} {sequence : Option Int}

/-- An event is applied exactly when the policy admits it and it is legal. -/
theorem apply_eq_apply_iff : (s.apply now event sequence).1 = .apply ↔
    s.policy.evaluate sequence event.eventId = .apply ∧ s.states.legal event.body = true := by
  have happlies := apply_applies s now event sequence
  generalize s.apply now event sequence = r at happlies ⊢
  cases happlies with
  | refused refusal decision_ne policy_eq states_eq =>
    exact iff_of_false decision_ne (not_admitted_of_refusal refusal)
  | admitted evaluated legal policy_eq states_eq => exact iff_of_true rfl ⟨evaluated, legal⟩

/-- An event the policy admits moves the states by the lifecycle. -/
theorem states_apply (h : s.policy.evaluate sequence event.eventId = .apply) :
    (s.apply now event sequence).2.1.states = s.states.after event.body := by
  have happlies := apply_applies s now event sequence
  generalize s.apply now event sequence = r at happlies ⊢
  cases happlies with
  | refused refusal decision_ne policy_eq states_eq =>
    rcases refusal with hne | hillegal
    · exact absurd h hne
    · rw [TaskStates.after_of_illegal hillegal]
      exact states_eq
  | admitted evaluated legal policy_eq states_eq =>
    rw [TaskStates.after_of_legal legal]
    exact states_eq

/-- An event the policy refuses leaves the states alone. -/
theorem states_apply_of_refused (h : s.policy.evaluate sequence event.eventId ≠ .apply) :
    (s.apply now event sequence).2.1.states = s.states := by
  have happlies := apply_applies s now event sequence
  generalize s.apply now event sequence = r at happlies ⊢
  cases happlies with
  | refused refusal decision_ne policy_eq states_eq => exact states_eq
  | admitted evaluated => exact absurd evaluated h

/-- The high-water mark never goes back. -/
theorem lastSequence_le_apply : s.lastSequence ≤ (s.apply now event sequence).2.1.lastSequence := by
  have happlies := apply_applies s now event sequence
  generalize s.apply now event sequence = r at happlies ⊢
  cases happlies with
  | refused refusal decision_ne policy_eq states_eq =>
    show s.policy.lastSequence ≤ _
    rw [← policy_eq]
    exact le_refl _
  | admitted evaluated legal policy_eq states_eq =>
    have hmark := (ReconciliationPolicy.evaluate_eq_apply_iff.mp evaluated).2
    unfold lastSequence
    rw [policy_eq]
    cases sequence with
    | none => exact le_refl _
    | some n =>
      rw [ReconciliationPolicy.recordApplied_lastSequence_some (hmark n rfl)]
      exact le_of_lt (hmark n rfl)

end Outcomes

/-! ## Runs of `apply` -/

/-- The calls of a run that are applied, read off the policy and the states alone:
    those the policy admits and the lifecycle allows. -/
def admitted (p : ReconciliationPolicy) (σ : TaskStates) : List ApplyCall → List ApplyCall
  | [] => []
  | call :: calls =>
    if p.evaluate call.sequence call.event.eventId = .apply ∧ σ.legal call.event.body = true then
      call :: admitted (p.recordApplied call.sequence call.event.eventId)
        (σ.move call.event.body) calls
    else admitted p σ calls

/-- The calls of a run that the store reports as applied. -/
def appliedCalls (s : RuntimeStateStore) : List ApplyCall → List ApplyCall
  | [] => []
  | call :: calls =>
    let (decision, s, _) := s.apply call.now call.event call.sequence
    if decision = .apply then call :: s.appliedCalls calls else s.appliedCalls calls

theorem appliedCalls_cons (s : RuntimeStateStore) (call : ApplyCall) (calls : List ApplyCall) :
    s.appliedCalls (call :: calls) = s.appliedCalls [call] ++
      (s.apply call.now call.event call.sequence).2.1.appliedCalls calls := by
  rw [appliedCalls, appliedCalls]
  dsimp only
  split <;> rfl

/-- The store applies exactly the admitted calls, announces each of them once and
    in order, and counts them. -/
theorem applyAll_admitted (s : RuntimeStateStore) (calls : List ApplyCall) :
    s.appliedCalls calls = admitted s.policy s.states calls ∧
      (s.applyAll calls).2.2.map (fun change => (change.event, change.sequence)) =
        (admitted s.policy s.states calls).map (fun call => (call.event, call.sequence)) ∧
      (s.applyAll calls).1 = (admitted s.policy s.states calls).length := by
  induction calls generalizing s with
  | nil => exact ⟨rfl, rfl, rfl⟩
  | cons call calls ih =>
    have happlies := apply_applies s call.now call.event call.sequence
    -- the three lists are read off one case split of the first call
    rw [appliedCalls, applyAll, admitted]
    generalize s.apply call.now call.event call.sequence = r at happlies ⊢
    cases happlies with
    | @refused decision s' refusal decision_ne policy_eq states_eq =>
      have hno : ¬ (s.policy.evaluate call.sequence call.event.eventId = .apply ∧
          s.states.legal call.event.body = true) := not_admitted_of_refusal refusal
      obtain ⟨hcalls, hchanges, hcount⟩ := ih s'
      rw [policy_eq, states_eq] at hcalls hchanges hcount
      simp only [if_neg hno, if_neg decision_ne]
      exact ⟨hcalls, hchanges, hcount⟩
    | @admitted s' evaluated legal policy_eq states_eq =>
      obtain ⟨hcalls, hchanges, hcount⟩ := ih s'
      rw [policy_eq, states_eq] at hcalls hchanges hcount
      simp only [if_pos (And.intro evaluated legal), if_true]
      refine ⟨?_, ?_, ?_⟩
      · rw [hcalls]
      · rw [List.map_append, hchanges]
        rfl
      · rw [hcount, List.length_cons]

/-- Applied sequences lie above the mark and increase. -/
theorem admitted_sequences (p : ReconciliationPolicy) (σ : TaskStates) (calls : List ApplyCall) :
    ((admitted p σ calls).filterMap ApplyCall.sequence).Pairwise (· < ·) ∧
      ∀ n ∈ (admitted p σ calls).filterMap ApplyCall.sequence, p.lastSequence < n := by
  induction calls generalizing p σ with
  | nil => exact ⟨List.Pairwise.nil, fun n hn => by cases hn⟩
  | cons call calls ih =>
    rw [admitted]
    split
    · next hyes =>
      obtain ⟨hpairs, habove⟩ := ih (p.recordApplied call.sequence call.event.eventId)
        (σ.move call.event.body)
      have hmark := (ReconciliationPolicy.evaluate_eq_apply_iff.mp hyes.1).2
      cases hseq : call.sequence with
      | none =>
        rw [hseq] at hpairs habove
        rw [List.filterMap_cons_none hseq]
        exact ⟨hpairs, habove⟩
      | some n =>
        have hlt : p.lastSequence < n := hmark n hseq
        rw [hseq] at hpairs habove
        rw [ReconciliationPolicy.recordApplied_lastSequence_some hlt] at habove
        rw [List.filterMap_cons_some hseq]
        refine ⟨List.pairwise_cons.mpr ⟨habove, hpairs⟩, fun m hm => ?_⟩
        rcases List.mem_cons.mp hm with rfl | hrest
        · exact hlt
        · exact lt_trans hlt (habove m hrest)
    · exact ih p σ

end RuntimeStateStore

end AsyncViz.Runtime.State
