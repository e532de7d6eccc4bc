/-
  AsyncViz.Runtime.Tasks.Registry

  The authoritative view of every observed task: the multi-key `TaskIndex`
  (`runtime/tasks/indexing.py`), the `RegistryMetrics` counters (`metrics.py`)
  and the `TaskRegistry` that owns both together with the lineage tracker
  (`registry.py`).

  The write API is modelled with its error paths: `register` and `updateState`
  return the exception they raise next to the state they leave behind, and
  `handleEvent` is the event entry point that swallows them.  `now` is the
  reading of `time.time()` during the call.
-/

import AsyncViz.Runtime.Lineage.Tracker
import AsyncViz.Runtime.Tasks.Models
import Mathlib.Data.List.Sort
import Mathlib.Logic.Function.Basic

namespace AsyncViz.Runtime.Tasks

open AsyncViz.Lib AsyncViz.Runtime.Lineage

/-! ## Index -/

/-- `TaskIndex`.  A record is always stored under its own id. -/
structure TaskIndex where
  byId : Dict String RuntimeTask
  keyed : ∀ {taskId : String} {task : RuntimeTask}, byId.get? taskId = some task →
    task.taskId = taskId
  byAsyncioId : Dict Int String
  byState : Dict TaskState (Finset String)
  byParent : Dict (Option String) (Finset String)

namespace TaskIndex

/-- `TaskIndex()`. -/
def new : TaskIndex :=
  { byId := .empty
    keyed := fun h => by cases h
    byAsyncioId := .empty
    byState := .empty
    byParent := .empty }

/-- Storing a record under its own id keeps every record under its own id. -/
theorem keyed_set (index : TaskIndex) (task : RuntimeTask) {taskId : String}
    {found : RuntimeTask} (h : (index.byId.set task.taskId task).get? taskId = some found) :
    found.taskId = taskId := by
  rw [Dict.get?_set] at h
  split at h
  · next hid =>
    rw [← Option.some.inj h]
    exact hid.symm
  · exact index.keyed h

/-- Removing a record keeps every other record under its own id. -/
theorem keyed_pop (index : TaskIndex) (removed : String) {taskId : String}
    {found : RuntimeTask} (h : (index.byId.pop removed).get? taskId = some found) :
    found.taskId = taskId := by
  rw [Dict.get?_pop] at h
  split at h
  · cases h
  · exact index.keyed h

/-- `bucket[key].add(task_id)` on a `defaultdict(set)`. -/
def addTo {κ : Type} [DecidableEq κ] (buckets : Dict κ (Finset String)) (key : κ)
    (taskId : String) : Dict κ (Finset String) :=
  buckets.set key (insert taskId ((buckets.get? key).getD ∅))

/-- Discard a task id from a bucket, and the bucket once it is empty. -/
def discardFrom {κ : Type} [DecidableEq κ] (buckets : Dict κ (Finset String)) (key : κ)
    (taskId : String) : Dict κ (Finset String) :=
  match buckets.get? key with
  | none => buckets
  | some bucket =>
    if bucket.erase taskId = ∅ then buckets.pop key
    else buckets.set key (bucket.erase taskId)

/-- `TaskIndex.add`. -/
def add (index : TaskIndex) (task : RuntimeTask) : TaskIndex :=
  { byId := index.byId.set task.taskId task
    keyed := index.keyed_set task
    byAsyncioId :=
      match task.asyncioTaskId with
      | none => index.byAsyncioId
      | some asyncioId => index.byAsyncioId.set asyncioId task.taskId
    byState := addTo index.byState task.state task.taskId
    byParent := addTo index.byParent task.parentTaskId task.taskId }

/-- `TaskIndex.remove`. -/
def remove (index : TaskIndex) (task : RuntimeTask) : TaskIndex :=
  { byId := index.byId.pop task.taskId
    keyed := index.keyed_pop task.taskId
    byAsyncioId :=
      match task.asyncioTaskId with
      | none => index.byAsyncioId
      | some asyncioId => index.byAsyncioId.pop asyncioId
    byState := discardFrom index.byState task.state task.taskId
    byParent := discardFrom index.byParent task.parentTaskId task.taskId }

/-- `TaskIndex.move_state`. -/
def moveState (index : TaskIndex) (task : RuntimeTask) (old new : TaskState) : TaskIndex :=
  if old = new then index
  else
    { index with
      byState := addTo (discardFrom index.byState old task.taskId) new task.taskId }

/-- The index after assignments to the fields of a record. -/
def store (index : TaskIndex) (task : RuntimeTask) : TaskIndex :=
  { index with byId := index.byId.set task.taskId task, keyed := index.keyed_set task }

end TaskIndex

/-! ## Metrics -/

/-- `_DurationAccumulator`. -/
structure DurationAccumulator where
  count : Nat := 0
  total : ℚ := 0
deriving DecidableEq

/-- `_DurationAccumulator.record`. -/
def DurationAccumulator.record (a : DurationAccumulator) (seconds : ℚ) : DurationAccumulator :=
  if seconds < 0 then a else { count := a.count + 1, total := a.total + seconds }

/-- `RegistryMetrics`. -/
structure RegistryMetrics where
  total : Int := 0
  byStateCounts : TaskState → Int := fun _ => 0
  rejectedTransitions : Nat := 0
  completed : DurationAccumulator := {}
  cancelled : DurationAccumulator := {}
  failed : DurationAccumulator := {}
  cancellationsByOrigin : Dict String Nat := .empty

namespace RegistryMetrics

/-- `by_state_counts[state] += delta`. -/
def bump (m : RegistryMetrics) (state : TaskState) (delta : Int) : RegistryMetrics :=
  { m with byStateCounts := Function.update m.byStateCounts state (m.byStateCounts state + delta) }

def taskRegistered (m : RegistryMetrics) (state : TaskState) : RegistryMetrics :=
  { m.bump state 1 with total := m.total + 1 }

def taskRemoved (m : RegistryMetrics) (state : TaskState) : RegistryMetrics :=
  { m.bump state (-1) with total := m.total - 1 }

def taskTransitioned (m : RegistryMetrics) (old new : TaskState) : RegistryMetrics :=
  (m.bump old (-1)).bump new 1

def recordDuration (m : RegistryMetrics) (terminal : TaskState) (seconds : ℚ) : RegistryMetrics :=
  if seconds < 0 then m
  else
    match terminal with
    | .completed => { m with completed := m.completed.record seconds }
    | .cancelled => { m with cancelled := m.cancelled.record seconds }
    | .failed => { m with failed := m.failed.record seconds }
    | .created | .running | .waiting => m

def recordRejectedTransition (m : RegistryMetrics) : RegistryMetrics :=
  { m with rejectedTransitions := m.rejectedTransitions + 1 }

/-- The histogram key: a missing or empty origin counts as `"unknown"`. -/
def originKey : Option String → String
  | none => "unknown"
  | some origin => if origin = "" then "unknown" else origin

def recordCancellationOrigin (m : RegistryMetrics) (origin : Option String) : RegistryMetrics :=
  let key := originKey origin
  { m with
    cancellationsByOrigin :=
      m.cancellationsByOrigin.set key ((m.cancellationsByOrigin.get? key).getD 0 + 1) }

end RegistryMetrics

/-! ## Registry -/

/-- The exceptions of `runtime/tasks/exceptions.py`. -/
inductive RegistryError where
  | duplicateTask (taskId : String)
  | unknownTask (taskId : String)
  | invalidStateTransition (taskId : String) (current target : TaskState)
  | invalidParentReference (taskId parentTaskId : String)
deriving DecidableEq, Repr

/-- The text of each exception. -/
def RegistryError.message : RegistryError → String
  | .duplicateTask taskId => taskId
  | .unknownTask taskId => s!"'{taskId}'"
  | .invalidStateTransition taskId current target =>
      s!"task '{taskId}': cannot transition '{current.wire}' -> '{target.wire}'"
  | .invalidParentReference taskId parent => s!"parent '{parent}' of '{taskId}' is not registered"

/-- `TaskRegistry`. -/
structure TaskRegistry where
  index : TaskIndex
  metrics : RegistryMetrics
  lineage : LineageTracker

namespace TaskRegistry

/-- `TaskRegistry()`. -/
def new : TaskRegistry := ⟨.new, {}, .new⟩

/-- `registry.get(task_id)`. -/
def get (r : TaskRegistry) (taskId : String) : Option RuntimeTask := r.index.byId.get? taskId

instance : Membership String TaskRegistry := ⟨fun r taskId => taskId ∈ r.index.byId⟩

instance (r : TaskRegistry) (taskId : String) : Decidable (taskId ∈ r) :=
  inferInstanceAs (Decidable (taskId ∈ r.index.byId))

/-- `_apply_lineage`: mirror the tracker's view onto the record. -/
def applyLineage (task : RuntimeTask) (lineage : TaskLineage) : RuntimeTask :=
  { task with
    rootTaskId := some lineage.rootTaskId
    depth := lineage.depth
    ancestorChain := lineage.ancestorChain
    childCount := lineage.childCount }

/-- `_refresh_parent_child_count`. -/
def refreshParentChildCount (r : TaskRegistry) (parentTaskId : String) : TaskRegistry :=
  match r.get parentTaskId with
  | none => r
  | some parent =>
    { r with
      index := r.index.store
        { parent with childCount := r.lineage.childCount parentTaskId } }

/-- The parent of `register`'s metadata, when it does not resolve to a known task. -/
def unresolvedParent (r : TaskRegistry) (md : TaskMetadata) : Option String :=
  md.parentTaskId.filter fun parent => parent ∉ r

/-- The lineage of a new task without a parent.  Such a registration cannot fail,
    so the error branch keeps the record as it is. -/
def linkRoot (r : TaskRegistry) (task : RuntimeTask) : RuntimeTask × TaskRegistry :=
  let registered := r.lineage.register task.taskId none
  let task := match registered.1 with
    | .ok lineage => applyLineage task lineage
    | .error _ => task
  (task, { r with lineage := registered.2 })

/-- The lineage step of `register`: link the new task to its parent.  A cyclic
    parent is refused and the task is kept without it. -/
def linkLineage (r : TaskRegistry) (task : RuntimeTask) :
    Option String → RuntimeTask × TaskRegistry
  | none => r.linkRoot task
  | some parent =>
    let registered := r.lineage.register task.taskId (some parent)
    let r := { r with lineage := registered.2 }
    let linked := match registered.1 with
      | .ok lineage => (applyLineage task lineage, r)
      -- `CyclicAncestryError`
      | .error _ => r.linkRoot { task with parentTaskId := none }
    (linked.1, linked.2.refreshParentChildCount parent)

/-- `TaskRegistry.register`. -/
def register (r : TaskRegistry) (now : ℚ) (taskId : String) (md : TaskMetadata)
    (state : TaskState) : Except RegistryError RuntimeTask × TaskRegistry :=
  if taskId ∈ r then (.error (.duplicateTask taskId), r)
  else
    match r.unresolvedParent md with
    | some parent => (.error (.invalidParentReference taskId parent), r)
    | none =>
      let linked := r.linkLineage (RuntimeTask.create now taskId md state) md.parentTaskId
      (.ok linked.1,
        { linked.2 with
          index := linked.2.index.add linked.1
          metrics := linked.2.metrics.taskRegistered linked.1.state })

/-- The keyword arguments of `update_state`; an update that is `None` and an empty
    one are both falsy. -/
structure TaskUpdate where
  completedAt : Option ℚ := none
  durationSeconds : Option ℚ := none
  exceptionType : Option String := none
  exceptionMessage : Option String := none
  cancellationOrigin : Option String := none
  metadataUpdate : Dict String Json := .empty
  tagsUpdate : Dict String String := .empty

/-- The record after `update_state` has written its fields. -/
def updatedTask (task : RuntimeTask) (now : ℚ) (target : TaskState) (u : TaskUpdate) :
    RuntimeTask :=
  { task with
    state := target
    updatedAt := now
    durationSeconds := u.durationSeconds.or task.durationSeconds
    exceptionType := u.exceptionType.or task.exceptionType
    exceptionMessage := u.exceptionMessage.or task.exceptionMessage
    cancellationOrigin := u.cancellationOrigin.or task.cancellationOrigin
    metadata := task.metadata.update u.metadataUpdate
    tags := task.tags.update u.tagsUpdate
    completedAt := if isTerminal target then some (u.completedAt.getD now) else task.completedAt }

/-- The counters `update_state` moves. -/
def updatedMetrics (m : RegistryMetrics) (task : RuntimeTask) (old target : TaskState) :
    RegistryMetrics :=
  let m :=
    if isTerminal target then
      let m :=
        match task.durationSeconds with
        | none => m
        | some seconds => m.recordDuration target seconds
      if target = .cancelled then m.recordCancellationOrigin task.cancellationOrigin else m
    else m
  m.taskTransitioned old target

/-- `TaskRegistry.update_state`. -/
def updateState (r : TaskRegistry) (now : ℚ) (taskId : String) (target : TaskState)
    (u : TaskUpdate) : Except RegistryError RuntimeTask × TaskRegistry :=
  match r.get taskId with
  | none => (.error (.unknownTask taskId), r)
  | some task =>
    if canTransition task.state target then
      let updated := updatedTask task now target u
      (.ok updated,
        { r with
          index := (r.index.moveState task task.state target).store updated
          metrics := updatedMetrics r.metrics updated task.state target })
    else (.error (.invalidStateTransition taskId task.state target), r)

/-- `_safe_update`: an unknown task is ignored, a bad transition is counted. -/
def safeUpdate (r : TaskRegistry) (now : ℚ) (taskId : String) (target : TaskState)
    (u : TaskUpdate) : TaskRegistry :=
  match r.updateState now taskId target u with
  | (.ok _, r) => r
  | (.error (.invalidStateTransition _ _ _), r) =>
    { r with metrics := r.metrics.recordRejectedTransition }
  | (.error _, r) => r

/-- The metadata `_handle_created` registers a task with. -/
def createdMetadata (event : RuntimeEvent) (task : TaskEventBase) (parent : Option String) :
    TaskMetadata :=
  { coroutineName := task.coroutineName
    taskName := task.taskName
    parentTaskId := parent
    runtimeId := some event.runtimeId
    extra := task.metadata }

/-- `_handle_created`: an unresolved parent is dropped, not the event. -/
def handleCreated (r : TaskRegistry) (now : ℚ) (event : RuntimeEvent) (task : TaskEventBase) :
    TaskRegistry :=
  if task.taskId ∈ r then r
  else
    match r.register now task.taskId (createdMetadata event task task.parentTaskId) .created with
    -- the failed call has changed nothing; the second one has no parent to fail on
    | (.error (.invalidParentReference _ _), r) =>
      (r.register now task.taskId (createdMetadata event task none) .created).2
    | (_, r) => r

/-- `TaskRegistry.handle_event`. -/
def handleEvent (r : TaskRegistry) (now : ℚ) (event : RuntimeEvent) : TaskRegistry :=
  match event.body with
  | .taskCreated task => r.handleCreated now event task
  | .taskStarted task => r.safeUpdate now task.taskId .running {}
  | .taskWaiting task _ => r.safeUpdate now task.taskId .waiting {}
  | .taskResumed task => r.safeUpdate now task.taskId .running {}
  | .taskCompleted task terminal =>
    r.safeUpdate now task.taskId .completed { durationSeconds := terminal.durationSeconds }
  | .taskCancelled task terminal origin =>
    r.safeUpdate now task.taskId .cancelled
      { durationSeconds := terminal.durationSeconds, cancellationOrigin := origin }
  | .taskFailed task terminal exceptionType exceptionMessage =>
    r.safeUpdate now task.taskId .failed
      { durationSeconds := terminal.durationSeconds
        exceptionType := exceptionType
        exceptionMessage := exceptionMessage }
  | .other _ _ => r

/-- No handler is called for what is no task event. -/
theorem handleEvent_of_not_task (r : TaskRegistry) (now : ℚ) {event : RuntimeEvent}
    (h : event.body.isTaskEvent = false) : r.handleEvent now event = r := by
  simp only [handleEvent]
  cases hbody : event.body <;> first | rfl | (rw [hbody] at h; cases h)

/-- `TaskRegistry.remove`. -/
def remove (r : TaskRegistry) (taskId : String) : Bool × TaskRegistry :=
  match r.get taskId with
  | none => (false, r)
  | some task =>
    let r := { r with index := r.index.remove task, lineage := r.lineage.unregister taskId }
    let r := match task.parentTaskId with
      | none => r
      | some parent => r.refreshParentChildCount parent
    (true, { r with metrics := r.metrics.taskRemoved task.state })

/-- `TaskRegistry.clear`. -/
def clear (r : TaskRegistry) : TaskRegistry := ⟨.new, {}, r.lineage.clear⟩

/-- `get_descendants`. -/
def getDescendants (r : TaskRegistry) (taskId : String) : List RuntimeTask :=
  (r.lineage.descendants taskId).filterMap r.get

/-- `get_root_tasks`. -/
def getRootTasks (r : TaskRegistry) : List RuntimeTask := r.lineage.listRoots.filterMap r.get

/-- The sort key of `snapshot_tasks`, `(created_at, task_id)`. -/
def SnapshotOrder (a b : RuntimeTask) : Prop :=
  a.createdAt < b.createdAt ∨ (a.createdAt = b.createdAt ∧ a.taskId ≤ b.taskId)

instance : DecidableRel SnapshotOrder := fun _ _ => inferInstanceAs (Decidable (_ ∨ (_ ∧ _)))

/-- `TaskRegistry.snapshot_all_tasks`. -/
def snapshotAllTasks (r : TaskRegistry) : List TaskSnapshot :=
  (r.index.byId.values.insertionSort SnapshotOrder).map TaskSnapshot.fromTask

/-! ## The lifecycle state of each task -/

/-- The lifecycle state of a task, `none` when it is not tracked. -/
def stateOf (r : TaskRegistry) (taskId : String) : Option TaskState :=
  (r.get taskId).map RuntimeTask.state

theorem mem_iff_stateOf {r : TaskRegistry} {taskId : String} :
    taskId ∈ r ↔ (r.stateOf taskId).isSome := by
  rw [stateOf, Option.isSome_map]
  exact Dict.mem_iff_get?_isSome

theorem stateOf_of_get {r : TaskRegistry} {taskId : String} {task : RuntimeTask}
    (h : r.get taskId = some task) : r.stateOf taskId = some task.state :=
  congrArg (Option.map RuntimeTask.state) h

theorem stateOf_eq_none_iff {r : TaskRegistry} {taskId : String} :
    r.stateOf taskId = none ↔ taskId ∉ r := by
  rw [mem_iff_stateOf, Option.not_isSome_iff_eq_none]

@[simp] theorem stateOf_new (taskId : String) : TaskRegistry.new.stateOf taskId = none := rfl

theorem stateOf_refreshParentChildCount (r : TaskRegistry) (parentTaskId taskId : String) :
    (r.refreshParentChildCount parentTaskId).stateOf taskId = r.stateOf taskId := by
  rw [refreshParentChildCount]
  split
  · rfl
  · next parent hparent =>
    have hkey : parent.taskId = parentTaskId := r.index.keyed hparent
    unfold stateOf get
    show ((r.index.byId.set parent.taskId _).get? taskId).map RuntimeTask.state = _
    -- the parent's record is rewritten with another child count, and the same state
    rw [hkey, Dict.get?_set]
    by_cases h : taskId = parentTaskId
    · have hget : r.index.byId.get? taskId = some parent := by
        rw [h]
        exact hparent
      rw [if_pos h, hget]
      rfl
    · rw [if_neg h]

theorem stateOf_add {r : TaskRegistry} {task : RuntimeTask} {m : RegistryMetrics}
    {l : LineageTracker} (taskId : String) :
    TaskRegistry.stateOf ⟨r.index.add task, m, l⟩ taskId =
      if taskId = task.taskId then some task.state else r.stateOf taskId := by
  rw [stateOf, get]
  show ((r.index.byId.set task.taskId task).get? taskId).map RuntimeTask.state = _
  rw [Dict.get?_set]
  split <;> rfl

theorem linkRoot_spec (r : TaskRegistry) (task : RuntimeTask) :
    (r.linkRoot task).1.taskId = task.taskId ∧ (r.linkRoot task).1.state = task.state ∧
      ∀ id, (r.linkRoot task).2.stateOf id = r.stateOf id := by
  rw [linkRoot]
  cases (r.lineage.register task.taskId none).1 with
  | ok lineage => exact ⟨rfl, rfl, fun id => rfl⟩
  | error e => exact ⟨rfl, rfl, fun id => rfl⟩

/-- Linking decides the lineage fields only. -/
theorem linkLineage_spec (r : TaskRegistry) (task : RuntimeTask) (parent : Option String) :
    (r.linkLineage task parent).1.taskId = task.taskId ∧
      (r.linkLineage task parent).1.state = task.state ∧
      ∀ id, (r.linkLineage task parent).2.stateOf id = r.stateOf id := by
  cases parent with
  | none => exact linkRoot_spec r task
  | some parent =>
    rw [linkLineage]
    cases (r.lineage.register task.taskId (some parent)).1 with
    | ok lineage => exact ⟨rfl, rfl, fun id => stateOf_refreshParentChildCount _ _ _⟩
    | error e =>
      obtain ⟨hid, hstate, hstateOf⟩ := linkRoot_spec
        { r with lineage := (r.lineage.register task.taskId (some parent)).2 }
        { task with parentTaskId := none }
      exact ⟨hid, hstate, fun id => (stateOf_refreshParentChildCount _ _ _).trans (hstateOf id)⟩

/-- Registering an untracked task either fails on its parent and changes nothing,
    or tracks it in the given state and changes no other. -/
theorem register_spec {r : TaskRegistry} (now : ℚ) {taskId : String} (md : TaskMetadata)
    (state : TaskState) (hnew : taskId ∉ r) :
    (∃ parent, r.unresolvedParent md = some parent ∧
      r.register now taskId md state = (.error (.invalidParentReference taskId parent), r)) ∨
    (r.unresolvedParent md = none ∧ ∃ task r', r.register now taskId md state = (.ok task, r') ∧
      ∀ id, r'.stateOf id = if id = taskId then some state else r.stateOf id) := by
  rw [register]
  rw [if_neg hnew]
  cases hparent : r.unresolvedParent md with
  | some parent => exact .inl ⟨parent, rfl, rfl⟩
  | none =>
    obtain ⟨hid, hstate, hstateOf⟩ :=
      linkLineage_spec r (RuntimeTask.create now taskId md state) md.parentTaskId
    refine .inr ⟨rfl, _, _, rfl, fun id => ?_⟩
    rw [stateOf_add, hid, hstate, hstateOf]
    rfl

/-- `TaskCreatedEvent` on the registry: it tracks an unknown task in `created`,
    whatever its parent, and does nothing to a known one. -/
theorem stateOf_handleCreated (r : TaskRegistry) (now : ℚ) (event : RuntimeEvent)
    (task : TaskEventBase) (id : String) :
    (r.handleCreated now event task).stateOf id =
      if id = task.taskId ∧ task.taskId ∉ r then some .created else r.stateOf id := by
  rw [handleCreated]
  by_cases hmem : task.taskId ∈ r
  · rw [if_pos hmem, if_neg (fun h => h.2 hmem)]
  · rw [if_neg hmem]
    have hand : (id = task.taskId ∧ task.taskId ∉ r) ↔ id = task.taskId :=
      and_iff_left hmem
    simp only [hand]
    rcases register_spec now (createdMetadata event task task.parentTaskId) .created hmem with
      ⟨parent, -, hfailed⟩ | ⟨-, registered, r', hok, hstate⟩
    · -- the parent is unknown: the task is registered again, as a root
      rw [hfailed]
      rcases register_spec now (createdMetadata event task none) .created hmem with
        ⟨parent', hsome, -⟩ | ⟨-, registered, r', hok, hstate⟩
      · cases hsome
      · dsimp only
        rw [hok]
        exact hstate id
    · rw [hok]
      exact hstate id

theorem byId_moveState (index : TaskIndex) (task : RuntimeTask) (old new : TaskState) :
    (index.moveState task old new).byId = index.byId := by
  rw [TaskIndex.moveState]
  split <;> rfl

/-- A lifecycle update on the records: it writes the one of its task, if the table allows
    the transition. -/
theorem get_safeUpdate (r : TaskRegistry) (now : ℚ) (taskId : String) (target : TaskState)
    (u : TaskUpdate) (id : String) :
    (r.safeUpdate now taskId target u).get id = (r.get id).map fun task =>
      if id = taskId ∧ canTransition task.state target = true then updatedTask task now target u
      else task := by
  rw [safeUpdate, updateState]
  cases htask : r.get taskId with
  | none =>
    show r.get id = _
    by_cases hid : id = taskId
    · rw [hid, htask, Option.map_none]
    · simp [hid]
  | some task =>
    have hkey : task.taskId = taskId := r.index.keyed htask
    dsimp only
    by_cases hcan : canTransition task.state target = true
    · rw [if_pos hcan]
      show ((r.index.moveState task task.state target).byId.set task.taskId _).get? id = _
      rw [byId_moveState, hkey, Dict.get?_set]
      by_cases hid : id = taskId
      · rw [if_pos hid, hid, htask, Option.map_some, if_pos ⟨rfl, hcan⟩]
      · rw [if_neg hid]
        simp [hid, get]
    · -- the rejection is counted, the record is not touched
      rw [if_neg hcan]
      show r.get id = _
      by_cases hid : id = taskId
      · rw [hid, htask, Option.map_some, if_neg fun h => hcan h.2]
      · simp [hid]

/-- A lifecycle update on the registry: it moves a tracked task along the table
    and leaves everything else alone. -/
theorem stateOf_safeUpdate (r : TaskRegistry) (now : ℚ) (taskId : String) (target : TaskState)
    (u : TaskUpdate) (id : String) :
    (r.safeUpdate now taskId target u).stateOf id =
      match r.stateOf taskId with
      | some current =>
        if canTransition current target ∧ id = taskId then some target else r.stateOf id
      | none => r.stateOf id := by
  -- only the record of the task is written
  have hother : id ≠ taskId → (r.safeUpdate now taskId target u).stateOf id = r.stateOf id := by
    intro hid
    rw [stateOf, get_safeUpdate, stateOf]
    simp [hid]
  by_cases hid : id = taskId
  · rw [hid, stateOf, get_safeUpdate, stateOf]
    cases r.get taskId with
    | none => rfl
    | some task =>
      by_cases hcan : canTransition task.state target = true
      · simp [hcan, updatedTask]
      · simp [hcan]
  · rw [hother hid]
    cases r.stateOf taskId with
    | none => rfl
    | some current => exact (if_neg fun h => hid h.2).symm

/-! ## Snapshots -/

end TaskRegistry

end AsyncViz.Runtime.Tasks
