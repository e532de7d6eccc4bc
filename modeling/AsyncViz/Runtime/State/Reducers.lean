/-
  AsyncViz.Runtime.State.Reducers

  The task-state reducers (`runtime/state/reducers`): transition validation
  (`validation.py`), the bounded per-task `TransitionHistory` (`transitions.py`),
  the projection-invalidation counters (`projections.py`), the per-reducer
  counters (`metrics.py`), and the seven reducers over the shared lifecycle
  path (`lifecycle.py`, `task_*.py`).

  None of these can raise on a task event, so a reducer is a total function from
  a context to its result and the context it leaves behind.
-/

import AsyncViz.Lib.BoundedRing
import AsyncViz.Runtime.Tasks.Registry

namespace AsyncViz.Runtime.State

open AsyncViz.Lib AsyncViz.Runtime.Tasks

/-! ## Transition validation -/

/-- Why a reducer rejects an event. -/
inductive RejectReason where
  | unknownTask (target : TaskState)
  | alreadyTracked (current : TaskState)
  | alreadyTerminal (current : TaskState)
  | noTransition (current target : TaskState)
  | alreadyCreated (taskId : String)
  | registryRefused
  | registryDidNotTransition (target : TaskState)
deriving DecidableEq, Repr

/-- The text of each reason. -/
def RejectReason.message : RejectReason → String
  | .unknownTask target => s!"unknown task; first event must be CREATED, got '{target.wire}'"
  | .alreadyTracked current => s!"task already tracked in state '{current.wire}'"
  | .alreadyTerminal current => s!"task already terminal in state '{current.wire}'"
  | .noTransition current target => s!"no transition from '{current.wire}' → '{target.wire}'"
  | .alreadyCreated taskId => s!"task '{taskId}' already created"
  | .registryRefused => "registry refused TaskCreatedEvent"
  | .registryDidNotTransition target => s!"registry did not transition to {target.wire}"

/-- `TransitionPlan`; `reason` is present exactly when the transition is refused. -/
structure TransitionPlan where
  current : Option TaskState
  target : TaskState
  reason : Option RejectReason
  terminalBlocked : Bool
deriving DecidableEq, Repr

/-- `plan.allowed`. -/
def TransitionPlan.allowed (plan : TransitionPlan) : Bool := plan.reason.isNone

/-- `evaluate_transition`. -/
def evaluateTransition (current : Option TaskState) (target : TaskState) : TransitionPlan :=
  match current with
  | none =>
    if target = .created then ⟨none, target, none, false⟩
    else ⟨none, target, some (.unknownTask target), false⟩
  | some current =>
    if target = .created then ⟨some current, target, some (.alreadyTracked current), false⟩
    else if isTerminal current then
      ⟨some current, target, some (.alreadyTerminal current), true⟩
    else if canTransition current target then ⟨some current, target, none, false⟩
    else ⟨some current, target, some (.noTransition current target), false⟩

/-- Beyond creation, a transition is allowed exactly from a tracked state along
    the lifecycle table. -/
theorem evaluateTransition_allowed_iff {current : Option TaskState} {target : TaskState}
    (htarget : target ≠ .created) :
    (evaluateTransition current target).allowed = true ↔
      ∃ state, current = some state ∧ canTransition state target = true := by
  cases current with
  | none => simp [evaluateTransition, TransitionPlan.allowed, htarget]
  | some state =>
    rw [evaluateTransition, TransitionPlan.allowed]
    by_cases hterminal : isTerminal state = true
    · have hno : canTransition state target = false := canTransition_of_isTerminal hterminal
      simp [htarget, hterminal, hno]
    · by_cases hcan : canTransition state target = true <;> simp [htarget, hterminal, hcan]

/-- Creation is allowed exactly for an untracked task. -/
theorem evaluateTransition_created_allowed_iff {current : Option TaskState} :
    (evaluateTransition current .created).allowed = true ↔ current = none := by
  cases current <;> simp [evaluateTransition, TransitionPlan.allowed]

/-! ## History, projections, metrics -/

/-- `TransitionRecord`. -/
structure TransitionRecord where
  sequence : Option Int
  state : TaskState
  monotonicNs : Int
  wallSeconds : ℚ
  eventId : String
  eventType : String
deriving DecidableEq

/-- `TransitionHistory`: a bounded ring of records per task. -/
structure TransitionHistory where
  limit : Nat
  limit_pos : 0 < limit
  records : Dict String (BoundedRing TransitionRecord)
  evicted : Nat
  appended : Nat

namespace TransitionHistory

/-- `TransitionHistory()`, with `DEFAULT_HISTORY_LIMIT`. -/
def new : TransitionHistory := ⟨1024, by decide, .empty, 0, 0⟩

/-- `history.append(task_id, record)`. -/
def append (h : TransitionHistory) (taskId : String) (record : TransitionRecord) :
    TransitionHistory :=
  let bucket := (h.records.get? taskId).getD (.empty h.limit)
  { h with
    records := h.records.set taskId (bucket.push record)
    evicted := if bucket.items.length = h.limit then h.evicted + 1 else h.evicted
    appended := h.appended + 1 }

/-- `history.get(task_id)`. -/
def get (h : TransitionHistory) (taskId : String) : List TransitionRecord :=
  match h.records.get? taskId with
  | none => []
  | some bucket => bucket.items

/-- `history.clear()`. -/
def clear (h : TransitionHistory) : TransitionHistory :=
  { h with records := .empty, evicted := 0, appended := 0 }

end TransitionHistory

/-- `ProjectionName`. -/
inductive ProjectionName where
  | lineageTree
  | coroutineGroups
  | cancellationsByOrigin
  | indexView
deriving DecidableEq, Repr

/-- `ProjectionInvalidationBus`: a counter per projection. -/
abbrev ProjectionInvalidationBus := Dict ProjectionName Nat

/-- `bus.mark(*projections)`. -/
def ProjectionInvalidationBus.mark (bus : ProjectionInvalidationBus)
    (projections : List ProjectionName) : ProjectionInvalidationBus :=
  projections.foldl (fun bus name => Dict.set bus name ((Dict.get? bus name).getD 0 + 1)) bus

/-- `ReducerMetrics`: the counters of each reducer, by its name. -/
structure ReducerMetrics where
  applied : Dict String Nat := .empty
  rejected : Dict String Nat := .empty
  invalidTransitions : Dict String Nat := .empty
  terminalBlocked : Dict String Nat := .empty
  lastSequence : Dict String Int := .empty

namespace ReducerMetrics

/-- `counter[name] += 1` on a `defaultdict(int)`. -/
def bump (counter : Dict String Nat) (name : String) : Dict String Nat :=
  counter.set name ((counter.get? name).getD 0 + 1)

def recordApplied (m : ReducerMetrics) (name : String) (sequence : Option Int) : ReducerMetrics :=
  let last := (m.lastSequence.get? name).getD 0
  { m with
    applied := bump m.applied name
    lastSequence :=
      match sequence with
      | none => m.lastSequence
      | some n => m.lastSequence.set name (if n > last then n else last) }

def recordRejected (m : ReducerMetrics) (name : String)
    (invalidTransition terminalBlocked : Bool) : ReducerMetrics :=
  { m with
    rejected := bump m.rejected name
    invalidTransitions :=
      if invalidTransition then bump m.invalidTransitions name else m.invalidTransitions
    terminalBlocked :=
      if terminalBlocked then bump m.terminalBlocked name else m.terminalBlocked }

end ReducerMetrics

/-! ## The reducers -/

/-- `ReducerContext`: the surface a reducer may touch. -/
structure ReducerContext where
  registry : TaskRegistry
  history : TransitionHistory
  projections : ProjectionInvalidationBus
  metrics : ReducerMetrics
  sequence : Option Int

/-- `ReducerResult`. -/
structure ReducerResult where
  applied : Bool
  transition : Option TransitionRecord := none
  targetState : Option TaskState := none
  reason : Option RejectReason := none
  invalidTransition : Bool := false
  terminalBlocked : Bool := false

/-- `record_transition`: stamp a record and append it to the task's history. -/
def recordTransition (ctx : ReducerContext) (taskId : String) (target : TaskState)
    (event : RuntimeEvent) : TransitionRecord × ReducerContext :=
  let record : TransitionRecord :=
    { sequence := ctx.sequence
      state := target
      monotonicNs := event.monotonicNs
      wallSeconds := event.timestamp
      eventId := event.eventId
      eventType := event.eventType }
  (record, { ctx with history := ctx.history.append taskId record })

/-- `reject`. -/
def reject (ctx : ReducerContext) (reducerName : String) (reason : RejectReason)
    (invalidTransition terminalBlocked : Bool) : ReducerResult × ReducerContext :=
  ({ applied := false
     reason := some reason
     invalidTransition := invalidTransition
     terminalBlocked := terminalBlocked },
    { ctx with
      metrics := ctx.metrics.recordRejected reducerName invalidTransition terminalBlocked })

/-- `accept`. -/
def accept (ctx : ReducerContext) (reducerName : String) (transition : TransitionRecord)
    (targetState : TaskState) (projections : List ProjectionName) :
    ReducerResult × ReducerContext :=
  ({ applied := true, transition := some transition, targetState := some targetState },
    { ctx with
      projections := ctx.projections.mark projections
      metrics := ctx.metrics.recordApplied reducerName ctx.sequence })

/-- `safe_target_transition`, the common shape of the non-creation reducers. -/
def safeTargetTransition (ctx : ReducerContext) (now : ℚ) (taskId : String) (target : TaskState)
    (reducerName : String) (event : RuntimeEvent)
    (projections : List ProjectionName := [.lineageTree, .indexView]) :
    ReducerResult × ReducerContext :=
  let plan := evaluateTransition (ctx.registry.stateOf taskId) target
  match plan.reason with
  | some reason => reject ctx reducerName reason true plan.terminalBlocked
  | none =>
    let ctx := { ctx with registry := ctx.registry.handleEvent now event }
    -- the registry has the last word: it may have refused what the table allows
    if ctx.registry.stateOf taskId = some target then
      let (transition, ctx) := recordTransition ctx taskId target event
      accept ctx reducerName transition target projections
    else reject ctx reducerName (.registryDidNotTransition target) true false

/-- `TaskCreatedReducer.apply`. -/
def reduceTaskCreated (ctx : ReducerContext) (now : ℚ) (event : RuntimeEvent)
    (task : TaskEventBase) : ReducerResult × ReducerContext :=
  let name := "asyncio.task.created"
  if task.taskId ∈ ctx.registry then
    reject ctx name (.alreadyCreated task.taskId) true false
  else
    let ctx := { ctx with registry := ctx.registry.handleEvent now event }
    if task.taskId ∈ ctx.registry then
      let (transition, ctx) := recordTransition ctx task.taskId .created event
      accept ctx name transition .created [.lineageTree, .coroutineGroups, .indexView]
    else reject ctx name .registryRefused true false

/-- `TaskStartedReducer.apply`. -/
def reduceTaskStarted (ctx : ReducerContext) (now : ℚ) (event : RuntimeEvent)
    (task : TaskEventBase) : ReducerResult × ReducerContext :=
  safeTargetTransition ctx now task.taskId .running "asyncio.task.started" event

/-- `TaskWaitingReducer.apply`. -/
def reduceTaskWaiting (ctx : ReducerContext) (now : ℚ) (event : RuntimeEvent)
    (task : TaskEventBase) : ReducerResult × ReducerContext :=
  safeTargetTransition ctx now task.taskId .waiting "asyncio.task.waiting" event

/-- `TaskResumedReducer.apply`. -/
def reduceTaskResumed (ctx : ReducerContext) (now : ℚ) (event : RuntimeEvent)
    (task : TaskEventBase) : ReducerResult × ReducerContext :=
  safeTargetTransition ctx now task.taskId .running "asyncio.task.resumed" event

/-- `TaskCompletedReducer.apply`. -/
def reduceTaskCompleted (ctx : ReducerContext) (now : ℚ) (event : RuntimeEvent)
    (task : TaskEventBase) : ReducerResult × ReducerContext :=
  safeTargetTransition ctx now task.taskId .completed "asyncio.task.completed" event
    [.lineageTree, .coroutineGroups, .indexView]

/-- `TaskCancelledReducer.apply`. -/
def reduceTaskCancelled (ctx : ReducerContext) (now : ℚ) (event : RuntimeEvent)
    (task : TaskEventBase) : ReducerResult × ReducerContext :=
  safeTargetTransition ctx now task.taskId .cancelled "asyncio.task.cancelled" event
    [.lineageTree, .cancellationsByOrigin, .coroutineGroups, .indexView]

/-- `TaskFailedReducer.apply`. -/
def reduceTaskFailed (ctx : ReducerContext) (now : ℚ) (event : RuntimeEvent)
    (task : TaskEventBase) : ReducerResult × ReducerContext :=
  safeTargetTransition ctx now task.taskId .failed "asyncio.task.failed" event
    [.lineageTree, .coroutineGroups, .indexView]

/-- The default reducer registry: the reducer of each task event class, `none` for
    an event without one. -/
def reduce (ctx : ReducerContext) (now : ℚ) (event : RuntimeEvent) :
    Option (ReducerResult × ReducerContext) :=
  match event.body with
  | .taskCreated task => some (reduceTaskCreated ctx now event task)
  | .taskStarted task => some (reduceTaskStarted ctx now event task)
  | .taskWaiting task _ => some (reduceTaskWaiting ctx now event task)
  | .taskResumed task => some (reduceTaskResumed ctx now event task)
  | .taskCompleted task _ => some (reduceTaskCompleted ctx now event task)
  | .taskCancelled task _ _ => some (reduceTaskCancelled ctx now event task)
  | .taskFailed task _ _ _ => some (reduceTaskFailed ctx now event task)
  | .other _ _ => none

/-! ## What a reducer does -/

/-- A reducer runs exactly on the task events. -/
theorem reduce_isSome (ctx : ReducerContext) (now : ℚ) (event : RuntimeEvent) :
    (reduce ctx now event).isSome = event.body.isTaskEvent := by
  rw [reduce, EventBody.isTaskEvent]
  cases event.body <;> rfl

/-- The effect of a reducer on the lifecycle states: it applies exactly when the
    validation allows the transition, and then moves its task to the target. -/
structure Reduces (ctx : ReducerContext) (task : TaskEventBase) (target : TaskState)
    (r : ReducerResult × ReducerContext) : Prop where
  applied_eq : r.1.applied =
    (evaluateTransition (ctx.registry.stateOf task.taskId) target).allowed
  stateOf_eq : ∀ id, r.2.registry.stateOf id =
    if r.1.applied = true ∧ id = task.taskId then some target else ctx.registry.stateOf id

theorem reduceTaskCreated_reduces (ctx : ReducerContext) (now : ℚ) (event : RuntimeEvent)
    (task : TaskEventBase) (hbody : event.body = .taskCreated task) :
    Reduces ctx task .created (reduceTaskCreated ctx now event task) := by
  have hhandle : ctx.registry.handleEvent now event =
      ctx.registry.handleCreated now event task := by
    rw [TaskRegistry.handleEvent]
    rw [hbody]
  have hallowed : (evaluateTransition (ctx.registry.stateOf task.taskId) .created).allowed =
      true ↔ ctx.registry.stateOf task.taskId = none := evaluateTransition_created_allowed_iff
  rw [TaskRegistry.stateOf_eq_none_iff] at hallowed
  rw [reduceTaskCreated]
  by_cases hmem : task.taskId ∈ ctx.registry
  · rw [if_pos hmem]
    refine ⟨?_, fun id => by simp [reject]⟩
    -- the validation rejects the creation of a known task too
    have hnot : ¬ (evaluateTransition (ctx.registry.stateOf task.taskId) .created).allowed =
        true := fun h => hallowed.mp h hmem
    exact (Bool.eq_false_iff.mpr hnot).symm
  · have hstate := TaskRegistry.stateOf_handleCreated ctx.registry now event task
    have htracked : task.taskId ∈ ctx.registry.handleEvent now event := by
      rw [hhandle, TaskRegistry.mem_iff_stateOf, hstate, if_pos ⟨rfl, hmem⟩]
      rfl
    rw [if_neg hmem, if_pos htracked]
    refine ⟨(hallowed.mpr hmem).symm, fun id => ?_⟩
    show (ctx.registry.handleEvent now event).stateOf id = _
    rw [hhandle, hstate]
    by_cases hid : id = task.taskId <;> simp [hid, hmem, accept]

theorem safeTargetTransition_reduces (ctx : ReducerContext) (now : ℚ) (task : TaskEventBase)
    {target : TaskState} (htarget : target ≠ .created) (name : String) (event : RuntimeEvent)
    (projections : List ProjectionName) (u : TaskRegistry.TaskUpdate)
    (hhandle : ctx.registry.handleEvent now event =
      ctx.registry.safeUpdate now task.taskId target u) :
    Reduces ctx task target
      (safeTargetTransition ctx now task.taskId target name event projections) := by
  have hallowed : (evaluateTransition (ctx.registry.stateOf task.taskId) target).allowed = true ↔
      ∃ state, ctx.registry.stateOf task.taskId = some state ∧
        canTransition state target = true := evaluateTransition_allowed_iff htarget
  have hstate := TaskRegistry.stateOf_safeUpdate ctx.registry now task.taskId target u
  rw [safeTargetTransition]
  cases hreason : (evaluateTransition (ctx.registry.stateOf task.taskId) target).reason with
  | some reason =>
    refine ⟨?_, fun id => by simp [reject]⟩
    show false = Option.isNone _
    rw [hreason]
    rfl
  | none =>
    have hyes : (evaluateTransition (ctx.registry.stateOf task.taskId) target).allowed = true := by
      rw [TransitionPlan.allowed]
      rw [hreason]
      rfl
    obtain ⟨current, hcurrent, hcan⟩ := hallowed.mp hyes
    simp only [hcurrent, hcan, true_and] at hstate
    -- the registry goes by the same table, so the check behind the event succeeds
    have hmoved : (ctx.registry.handleEvent now event).stateOf task.taskId = some target := by
      rw [hhandle, hstate, if_pos rfl]
    dsimp only
    rw [if_pos hmoved]
    refine ⟨hyes.symm, fun id => ?_⟩
    show (ctx.registry.handleEvent now event).stateOf id = _
    rw [hhandle, hstate]
    by_cases hid : id = task.taskId <;> simp [hid, accept]

/-- Every task event is reduced to the target state of its class. -/
theorem reduce_reduces {ctx : ReducerContext} {now : ℚ} {event : RuntimeEvent}
    {r : ReducerResult × ReducerContext} (h : reduce ctx now event = some r) :
    ∃ task target, event.body.task? = some task ∧ event.body.targetState? = some target ∧
      Reduces ctx task target r := by
  rw [reduce] at h
  have hhandle : ∀ b, event.body = b → ctx.registry.handleEvent now event =
      ctx.registry.handleEvent now { event with body := b } := by
    rintro b rfl
    rfl
  cases hbody : event.body with
  | taskCreated task =>
    rw [hbody] at h
    obtain rfl := Option.some.inj h
    exact ⟨task, .created, rfl, rfl, reduceTaskCreated_reduces ctx now event task hbody⟩
  | taskStarted task =>
    rw [hbody] at h
    obtain rfl := Option.some.inj h
    exact ⟨task, .running, rfl, rfl, safeTargetTransition_reduces ctx now task (by decide)
      _ event _ {} (hhandle _ hbody)⟩
  | taskWaiting task reason =>
    rw [hbody] at h
    obtain rfl := Option.some.inj h
    exact ⟨task, .waiting, rfl, rfl, safeTargetTransition_reduces ctx now task (by decide)
      _ event _ {} (hhandle _ hbody)⟩
  | taskResumed task =>
    rw [hbody] at h
    obtain rfl := Option.some.inj h
    exact ⟨task, .running, rfl, rfl, safeTargetTransition_reduces ctx now task (by decide)
      _ event _ {} (hhandle _ hbody)⟩
  | taskCompleted task terminal =>
    rw [hbody] at h
    obtain rfl := Option.some.inj h
    exact ⟨task, .completed, rfl, rfl, safeTargetTransition_reduces ctx now task (by decide)
      _ event _ _ (hhandle _ hbody)⟩
  | taskCancelled task terminal origin =>
    rw [hbody] at h
    obtain rfl := Option.some.inj h
    exact ⟨task, .cancelled, rfl, rfl, safeTargetTransition_reduces ctx now task (by decide)
      _ event _ _ (hhandle _ hbody)⟩
  | taskFailed task terminal exceptionType exceptionMessage =>
    rw [hbody] at h
    obtain rfl := Option.some.inj h
    exact ⟨task, .failed, rfl, rfl, safeTargetTransition_reduces ctx now task (by decide)
      _ event _ _ (hhandle _ hbody)⟩
  | other eventType fields =>
    rw [hbody] at h
    cases h

end AsyncViz.Runtime.State
