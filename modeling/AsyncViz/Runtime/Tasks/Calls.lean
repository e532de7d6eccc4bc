/-
  AsyncViz.Runtime.Tasks.Calls

  Runs of `register`, `update_state`, `handle_event`, `remove` and `clear` on a
  `TaskRegistry`, accepted or raising, and what one call can do to the records, the
  indexes, the counters and the lineage tracker.

  `step_changes` sorts the calls by effect: nothing that a read can see, a new
  record, a record that changed state, a record less, or an empty registry.  It
  needs the tracker to know exactly the registered tasks (`Tracked`), which every
  call preserves.
-/

import AsyncViz.Lib.Transition
import AsyncViz.Runtime.Tasks.Registry

namespace AsyncViz.Runtime.Tasks

open AsyncViz.Lib AsyncViz.Lib.Transition AsyncViz.Runtime.Lineage

/-! ## Buckets -/

namespace TaskIndex

variable {κ : Type} [DecidableEq κ]

/-- `index.by_key.get(key, set())`. -/
def bucket (buckets : Dict κ (Finset String)) (key : κ) : Finset String :=
  (buckets.get? key).getD ∅

theorem bucket_addTo (buckets : Dict κ (Finset String)) (key key' : κ) (taskId : String) :
    bucket (addTo buckets key taskId) key' =
      if key' = key then insert taskId (bucket buckets key) else bucket buckets key' := by
  rw [bucket, addTo]
  rw [Dict.get?_set]
  split <;> rfl

theorem bucket_discardFrom (buckets : Dict κ (Finset String)) (key key' : κ) (taskId : String) :
    bucket (discardFrom buckets key taskId) key' =
      if key' = key then (bucket buckets key).erase taskId else bucket buckets key' := by
  unfold bucket discardFrom
  cases hbucket : buckets.get? key with
  | none =>
    by_cases hkey : key' = key
    · simp [hkey, hbucket]
    · simp [hkey]
  | some found =>
    dsimp only
    by_cases hempty : found.erase taskId = ∅
    · -- the last id of a bucket takes the bucket with it
      rw [if_pos hempty, Dict.get?_pop]
      split
      · rw [Option.getD_none, Option.getD_some, hempty]
      · rfl
    · rw [if_neg hempty, Dict.get?_set]
      split <;> rfl

/-- No key holds an empty bucket. -/
def NoEmptyBucket (buckets : Dict κ (Finset String)) : Prop := ∀ key, buckets.get? key ≠ some ∅

theorem NoEmptyBucket.addTo {buckets : Dict κ (Finset String)} (h : NoEmptyBucket buckets)
    (key : κ) (taskId : String) : NoEmptyBucket (addTo buckets key taskId) := by
  intro key' hempty
  rw [TaskIndex.addTo] at hempty
  rw [Dict.get?_set] at hempty
  split at hempty
  · exact Finset.insert_ne_empty _ _ (Option.some.inj hempty)
  · exact h key' hempty

theorem NoEmptyBucket.discardFrom {buckets : Dict κ (Finset String)} (h : NoEmptyBucket buckets)
    (key : κ) (taskId : String) : NoEmptyBucket (discardFrom buckets key taskId) := by
  intro key' hempty
  rw [TaskIndex.discardFrom] at hempty
  split at hempty
  · exact h key' hempty
  · split at hempty
    · rw [Dict.get?_pop] at hempty
      split at hempty
      · cases hempty
      · exact h key' hempty
    · next hne =>
      rw [Dict.get?_set] at hempty
      split at hempty
      · exact hne (Option.some.inj hempty)
      · exact h key' hempty

end TaskIndex

namespace TaskRegistry

/-! ## Runs -/

/-- A call on a registry; `now` is its reading of the wall clock. -/
inductive Call where
  | register (now : ℚ) (taskId : String) (md : TaskMetadata) (state : TaskState)
  | updateState (now : ℚ) (taskId : String) (target : TaskState) (u : TaskUpdate)
  | handleEvent (now : ℚ) (event : RuntimeEvent)
  | remove (taskId : String)
  | clear

/-- A run of calls; a caller survives the exception of a rejected one. -/
def step (r : TaskRegistry) : Call → Option TaskRegistry
  | .register now taskId md state => some (r.register now taskId md state).2
  | .updateState now taskId target u => some (r.updateState now taskId target u).2
  | .handleEvent now event => some (r.handleEvent now event)
  | .remove taskId => some (r.remove taskId).2
  | .clear => some r.clear

/-- An empty registry over a tracker with the given depth limit. -/
def initial (maxDepth : Nat) : TaskRegistry :=
  { new with lineage := { LineageTracker.new with maxDepth := maxDepth } }

/-- The id a call adds to the registry: `register` raises on a known id and on an
    unknown parent, a created event drops the unknown parent instead. -/
def creates (r : TaskRegistry) : Call → Option String
  | .register _ taskId md _ =>
    if taskId ∈ r ∨ (r.unresolvedParent md).isSome then none else some taskId
  | .handleEvent _ event =>
    match event.body with
    | .taskCreated task => if task.taskId ∈ r then none else some task.taskId
    | _ => none
  | .updateState _ _ _ _ | .remove _ | .clear => none

/-- The registered ids, in the order of their registration: a `dict` keeps it. -/
def ids (r : TaskRegistry) : List String := r.index.byId.keys

theorem mem_ids {r : TaskRegistry} {id : String} : id ∈ r.ids ↔ id ∈ r := Iff.rfl

theorem mem_iff_exists_get {r : TaskRegistry} {id : String} :
    id ∈ r ↔ ∃ task, r.get id = some task :=
  Dict.mem_iff_exists_get?

theorem mem_of_get {r : TaskRegistry} {id : String} {task : RuntimeTask}
    (h : r.get id = some task) : id ∈ r := mem_iff_exists_get.mpr ⟨task, h⟩

theorem get_eq_none_iff {r : TaskRegistry} {id : String} : r.get id = none ↔ id ∉ r :=
  Dict.get?_eq_none_iff

/-- The tracker knows exactly the registered tasks. -/
def Tracked (r : TaskRegistry) : Prop := ∀ id, id ∈ r.lineage ↔ id ∈ r

/-! ## Effects -/

/-- A call without a visible effect: a rejected one at most counts its rejection. -/
structure Unchanged (r r' : TaskRegistry) : Prop where
  index_eq : r'.index = r.index
  lineage_eq : r'.lineage = r.lineage
  total_eq : r'.metrics.total = r.metrics.total
  counts_eq : r'.metrics.byStateCounts = r.metrics.byStateCounts

theorem Unchanged.refl (r : TaskRegistry) : Unchanged r r := ⟨rfl, rfl, rfl, rfl⟩

/-- A new record `task` entered the registry; `asked` is the parent it was asked for,
    which it does not get when that would close a cycle. -/
structure Enters (r : TaskRegistry) (task : RuntimeTask) (asked : Option String)
    (r' : TaskRegistry) : Prop where
  fresh : task.taskId ∉ r
  parent_mem : ∀ p, task.parentTaskId = some p → p ∈ r
  parent_asked : ∀ p, task.parentTaskId = some p → asked = some p ∧
    detectCycle p task.taskId r.lineage.parentOf r.lineage.maxDepth = false
  ids_eq : r'.ids = r.ids ++ [task.taskId]
  get_eq : ∀ id, r'.get id =
    if id = task.taskId then some task
    else (r.get id).map fun old =>
      if asked = some id then { old with childCount := r'.lineage.childCount id } else old
  byAsyncioId_eq : r'.index.byAsyncioId =
    match task.asyncioTaskId with
    | none => r.index.byAsyncioId
    | some asyncioId => r.index.byAsyncioId.set asyncioId task.taskId
  byState_eq : r'.index.byState = TaskIndex.addTo r.index.byState task.state task.taskId
  byParent_eq : r'.index.byParent = TaskIndex.addTo r.index.byParent task.parentTaskId task.taskId
  total_eq : r'.metrics.total = r.metrics.total + 1
  counts_eq : r'.metrics.byStateCounts = Function.update r.metrics.byStateCounts task.state
    (r.metrics.byStateCounts task.state + 1)
  links : LineageTracker.Links r.lineage task.taskId task.parentTaskId r'.lineage
  childCount_eq : task.childCount = r'.lineage.childCount task.taskId

/-- The record of `task` moved to `target` along the lifecycle table. -/
structure Moves (r : TaskRegistry) (task : RuntimeTask) (target : TaskState) (r' : TaskRegistry) :
    Prop where
  found : r.get task.taskId = some task
  allowed : canTransition task.state target = true
  ids_eq : r'.ids = r.ids
  get_eq : ∀ id, id ≠ task.taskId → r'.get id = r.get id
  get_self : ∃ moved, r'.get task.taskId = some moved ∧ moved.state = target ∧
    moved.asyncioTaskId = task.asyncioTaskId ∧ moved.parentTaskId = task.parentTaskId ∧
    moved.childCount = task.childCount
  byAsyncioId_eq : r'.index.byAsyncioId = r.index.byAsyncioId
  byState_eq : r'.index.byState = TaskIndex.addTo
    (TaskIndex.discardFrom r.index.byState task.state task.taskId) target task.taskId
  byParent_eq : r'.index.byParent = r.index.byParent
  total_eq : r'.metrics.total = r.metrics.total
  counts_eq : r'.metrics.byStateCounts =
    (r.metrics.taskTransitioned task.state target).byStateCounts
  lineage_eq : r'.lineage = r.lineage

/-- The record of `task` left the registry. -/
structure Leaves (r : TaskRegistry) (task : RuntimeTask) (r' : TaskRegistry) : Prop where
  found : r.get task.taskId = some task
  ids_eq : r'.ids = r.ids.filter (· ≠ task.taskId)
  get_eq : ∀ id, r'.get id =
    if id = task.taskId then none
    else (r.get id).map fun old =>
      if task.parentTaskId = some id then { old with childCount := r'.lineage.childCount id }
      else old
  byAsyncioId_eq : r'.index.byAsyncioId =
    match task.asyncioTaskId with
    | none => r.index.byAsyncioId
    | some asyncioId => r.index.byAsyncioId.pop asyncioId
  byState_eq : r'.index.byState = TaskIndex.discardFrom r.index.byState task.state task.taskId
  byParent_eq : r'.index.byParent =
    TaskIndex.discardFrom r.index.byParent task.parentTaskId task.taskId
  total_eq : r'.metrics.total = r.metrics.total - 1
  counts_eq : r'.metrics.byStateCounts = Function.update r.metrics.byStateCounts task.state
    (r.metrics.byStateCounts task.state - 1)
  unlinks : LineageTracker.Unlinks r.lineage task.taskId r'.lineage

/-- What one call did. -/
inductive Changes (r : TaskRegistry) : Call → TaskRegistry → Prop where
  | unchanged {call : Call} {r' : TaskRegistry} (hnone : r.creates call = none)
      (hkept : ∀ id, call = .remove id → id ∉ r) (h : Unchanged r r') : Changes r call r'
  | enters {call : Call} {task : RuntimeTask} {asked : Option String} {r' : TaskRegistry}
      (hsome : r.creates call = some task.taskId) (h : Enters r task asked r') :
      Changes r call r'
  | moves {call : Call} {task : RuntimeTask} {target : TaskState} {r' : TaskRegistry}
      (hnone : r.creates call = none) (hkept : ∀ id, call ≠ .remove id)
      (h : Moves r task target r') : Changes r call r'
  | leaves {task : RuntimeTask} {r' : TaskRegistry} (h : Leaves r task r') :
      Changes r (.remove task.taskId) r'
  | cleared : Changes r .clear r.clear

/-! ## Registration -/

theorem get_refreshParentChildCount (r : TaskRegistry) (parentTaskId id : String) :
    (r.refreshParentChildCount parentTaskId).get id =
      (r.get id).map fun old =>
        if parentTaskId = id then { old with childCount := r.lineage.childCount id } else old := by
  rw [refreshParentChildCount]
  cases hparent : r.get parentTaskId with
  | none =>
    by_cases hid : parentTaskId = id
    · rw [← hid, hparent]
      rfl
    · simp [hid]
  | some parent =>
    have hkey : parent.taskId = parentTaskId := r.index.keyed hparent
    show (r.index.byId.set parent.taskId _).get? id = _
    rw [hkey, Dict.get?_set]
    by_cases hid : id = parentTaskId
    · rw [if_pos hid, hid, hparent]
      simp [hkey]
    · rw [if_neg hid]
      simp [Ne.symm hid, get]

/-- Apart from that record, restamping a parent changes nothing. -/
theorem refreshParentChildCount_frame (r : TaskRegistry) (parentTaskId : String) :
    let r' := r.refreshParentChildCount parentTaskId
    r'.ids = r.ids ∧ r'.index.byAsyncioId = r.index.byAsyncioId ∧
      r'.index.byState = r.index.byState ∧ r'.index.byParent = r.index.byParent ∧
      r'.metrics = r.metrics ∧ r'.lineage = r.lineage := by
  rw [refreshParentChildCount]
  cases hparent : r.get parentTaskId with
  | none => exact ⟨rfl, rfl, rfl, rfl, rfl, rfl⟩
  | some parent =>
    have hkey : parent.taskId = parentTaskId := r.index.keyed hparent
    refine ⟨?_, rfl, rfl, rfl, rfl, rfl⟩
    show (r.index.byId.set parent.taskId _).keys = _
    refine Dict.keys_set_of_mem _ ?_
    rw [hkey]
    exact mem_of_get hparent

/-- The registry after the lineage step of a registration. -/
def relinked (r : TaskRegistry) (lineage : LineageTracker) (asked : Option String) : TaskRegistry :=
  match asked with
  | none => { r with lineage := lineage }
  | some parent => { r with lineage := lineage }.refreshParentChildCount parent

theorem linkRoot_links (r : TaskRegistry) (task : RuntimeTask) (hnew : task.taskId ∉ r.lineage) :
    ∃ lineage, LineageTracker.Links r.lineage task.taskId none lineage ∧
      r.linkRoot task =
        (applyLineage task (lineage.lineageLocked task.taskId), { r with lineage := lineage }) := by
  have hregisters := r.lineage.register_registers task.taskId none
  rw [linkRoot]
  generalize r.lineage.register task.taskId none = out at hregisters ⊢
  cases hregisters with
  | known hmem => exact absurd hmem hnew
  | refused _ hparent => cases hparent
  | linked _ _ hlinks => exact ⟨_, hlinks, rfl⟩

/-- The lineage step links the task under the parent it asked for or, when the tracker
    refuses that one, under none. -/
theorem linkLineage_links (r : TaskRegistry) (task : RuntimeTask) {asked : Option String}
    (hasked : task.parentTaskId = asked) (hnew : task.taskId ∉ r.lineage) :
    ∃ (lineage : LineageTracker) (parent : Option String),
      LineageTracker.Links r.lineage task.taskId parent lineage ∧
      (∀ p, parent = some p → asked = some p ∧
        detectCycle p task.taskId r.lineage.parentOf r.lineage.maxDepth = false) ∧
      r.linkLineage task asked =
        (applyLineage { task with parentTaskId := parent } (lineage.lineageLocked task.taskId),
          r.relinked lineage asked) := by
  cases asked with
  | none =>
    obtain ⟨lineage, hlinks, hroot⟩ := linkRoot_links r task hnew
    refine ⟨lineage, none, hlinks, (fun p hp => nomatch hp), ?_⟩
    have hsame : { task with parentTaskId := none } = task := by rw [← hasked]
    rw [hsame]
    exact hroot
  | some parent =>
    have hregisters := r.lineage.register_registers task.taskId (some parent)
    generalize hout : r.lineage.register task.taskId (some parent) = out at hregisters
    cases hregisters with
    | known hmem => exact absurd hmem hnew
    | refused =>
      -- the tracker counts the refusal and takes the task as a root
      obtain ⟨lineage, hlinks, hroot⟩ := linkRoot_links
        { r with lineage :=
          { r.lineage with cyclicRejections := r.lineage.cyclicRejections + 1 } }
        { task with parentTaskId := none } hnew
      refine ⟨lineage, none,
        ⟨hlinks.maxDepth_eq, hlinks.parentOf_eq, hlinks.children_eq, hlinks.ancestors_eq⟩,
        (fun p hp => nomatch hp), ?_⟩
      simp only [linkLineage, hout, hroot, relinked]
    | linked _ hclear hlinks =>
      refine ⟨_, some parent, hlinks, fun p hp => ⟨hp, hclear p hp⟩, ?_⟩
      have hsame : { task with parentTaskId := some parent } = task := by rw [← hasked]
      simp only [linkLineage, hout, relinked, hsame]

theorem get_relinked (r : TaskRegistry) (lineage : LineageTracker) (asked : Option String)
    (id : String) :
    (r.relinked lineage asked).get id =
      (r.get id).map fun old =>
        if asked = some id then { old with childCount := lineage.childCount id } else old := by
  cases asked with
  | none => simp [relinked, get]
  | some parent =>
    simp only [Option.some.injEq]
    exact get_refreshParentChildCount { r with lineage := lineage } parent id

theorem relinked_frame (r : TaskRegistry) (lineage : LineageTracker) (asked : Option String) :
    (r.relinked lineage asked).ids = r.ids ∧
      (r.relinked lineage asked).index.byAsyncioId = r.index.byAsyncioId ∧
      (r.relinked lineage asked).index.byState = r.index.byState ∧
      (r.relinked lineage asked).index.byParent = r.index.byParent ∧
      (r.relinked lineage asked).metrics = r.metrics ∧
      (r.relinked lineage asked).lineage = lineage := by
  cases asked with
  | none => exact ⟨rfl, rfl, rfl, rfl, rfl, rfl⟩
  | some parent => exact refreshParentChildCount_frame { r with lineage := lineage } parent

/-- The registry after the last step of a registration. -/
def entered (r : TaskRegistry) (task : RuntimeTask) (lineage : LineageTracker)
    (asked : Option String) : TaskRegistry :=
  { r.relinked lineage asked with
    index := (r.relinked lineage asked).index.add task
    metrics := (r.relinked lineage asked).metrics.taskRegistered task.state }

theorem entered_enters {r : TaskRegistry} {task : RuntimeTask} {lineage : LineageTracker}
    {asked : Option String} (hfresh : task.taskId ∉ r)
    (hmem : ∀ p, task.parentTaskId = some p → p ∈ r)
    (hasked : ∀ p, task.parentTaskId = some p → asked = some p ∧
      detectCycle p task.taskId r.lineage.parentOf r.lineage.maxDepth = false)
    (hlinks : LineageTracker.Links r.lineage task.taskId task.parentTaskId lineage)
    (hcount : task.childCount = lineage.childCount task.taskId) :
    Enters r task asked (r.entered task lineage asked) := by
  obtain ⟨hids, hasyncio, hbyState, hbyParent, hmetrics, hlineage⟩ := relinked_frame r lineage asked
  refine
    { fresh := hfresh
      parent_mem := hmem
      parent_asked := hasked
      ids_eq := ?_
      get_eq := fun id => ?_
      byAsyncioId_eq := ?_
      byState_eq := ?_
      byParent_eq := ?_
      total_eq := ?_
      counts_eq := ?_
      links := ?_
      childCount_eq := ?_ }
  · show (Dict.set _ task.taskId task).keys = _
    rw [Dict.keys_set_of_not_mem _ fun h => hfresh (mem_ids.mp (hids ▸ h))]
    exact congrArg (· ++ [task.taskId]) hids
  · show (Dict.set _ task.taskId task).get? id = _
    rw [Dict.get?_set]
    dsimp only [entered]
    rw [hlineage]
    split
    · rfl
    · exact get_relinked r lineage asked id
  · dsimp only [entered, TaskIndex.add]
    cases task.asyncioTaskId with
    | none => exact hasyncio
    | some asyncioId => exact congrArg (fun d => Dict.set d asyncioId task.taskId) hasyncio
  · dsimp only [entered, TaskIndex.add]
    rw [hbyState]
  · dsimp only [entered, TaskIndex.add]
    rw [hbyParent]
  · dsimp only [entered, RegistryMetrics.taskRegistered]
    rw [hmetrics]
  · dsimp only [entered, RegistryMetrics.taskRegistered, RegistryMetrics.bump]
    rw [hmetrics]
  · dsimp only [entered]
    rw [hlineage]
    exact hlinks
  · dsimp only [entered]
    rw [hlineage]
    exact hcount

/-- A known id raises. -/
theorem register_of_mem {r : TaskRegistry} (now : ℚ) {taskId : String} (md : TaskMetadata)
    (state : TaskState) (h : taskId ∈ r) :
    r.register now taskId md state = (.error (.duplicateTask taskId), r) := if_pos h

/-- So does an unknown parent. -/
theorem register_of_unresolved {r : TaskRegistry} (now : ℚ) {taskId parent : String}
    {md : TaskMetadata} (state : TaskState) (hnew : taskId ∉ r)
    (hparent : r.unresolvedParent md = some parent) :
    r.register now taskId md state = (.error (.invalidParentReference taskId parent), r) := by
  rw [register, if_neg hnew, hparent]

/-- A registration that does not raise adds its record. -/
theorem register_enters {r : TaskRegistry} (htracked : r.Tracked) (now : ℚ) {taskId : String}
    {md : TaskMetadata} (state : TaskState) (hnew : taskId ∉ r)
    (hparent : r.unresolvedParent md = none) :
    ∃ task r', r.register now taskId md state = (.ok task, r') ∧ task.taskId = taskId ∧
      Enters r task md.parentTaskId r' := by
  obtain ⟨lineage, parent, hlinks, hasked, hlinked⟩ := linkLineage_links r
    (RuntimeTask.create now taskId md state) rfl (fun h => hnew ((htracked taskId).mp h))
  change r.linkLineage _ md.parentTaskId = _ at hlinked
  have hresolved : ∀ p, md.parentTaskId = some p → p ∈ r := by
    intro p hp
    rw [unresolvedParent, hp, Option.filter_eq_none_iff] at hparent
    simpa using hparent p rfl
  -- the record as the lineage step leaves it
  generalize hrecord : applyLineage { RuntimeTask.create now taskId md state with
    parentTaskId := parent } (lineage.lineageLocked taskId) = record
  have hid : record.taskId = taskId := by rw [← hrecord]; rfl
  have hup : record.parentTaskId = parent := by rw [← hrecord]; rfl
  have hcount : record.childCount = lineage.childCount taskId := by rw [← hrecord]; rfl
  refine ⟨record, r.entered record lineage md.parentTaskId, ?_, hid, ?_⟩
  · rw [register]
    rw [← hrecord, if_neg hnew, hparent, hlinked]
    rfl
  · refine entered_enters ?_ ?_ ?_ ?_ ?_
    · rw [hid]
      exact hnew
    · rw [hup]
      exact fun p hp => hresolved p (hasked p hp).1
    · rw [hup, hid]
      exact hasked
    · rw [hup, hid]
      exact hlinks
    · rw [hid]
      exact hcount

/-! ## Updates and removal -/

/-- Durations and cancellation origins are counted apart from the tasks. -/
theorem updatedMetrics_counts (m : RegistryMetrics) (task : RuntimeTask) (old target : TaskState) :
    (updatedMetrics m task old target).total = m.total ∧
      (updatedMetrics m task old target).byStateCounts =
        (m.taskTransitioned old target).byStateCounts := by
  have hduration : ∀ (m : RegistryMetrics) (seconds : ℚ),
      (m.recordDuration target seconds).total = m.total ∧
        (m.recordDuration target seconds).byStateCounts = m.byStateCounts := by
    intro m seconds
    unfold RegistryMetrics.recordDuration
    split
    · exact ⟨rfl, rfl⟩
    · cases target <;> exact ⟨rfl, rfl⟩
  have hmoved : ∀ m' : RegistryMetrics, m'.total = m.total → m'.byStateCounts = m.byStateCounts →
      (m'.taskTransitioned old target).total = m.total ∧
        (m'.taskTransitioned old target).byStateCounts =
          (m.taskTransitioned old target).byStateCounts := by
    intro m' htotal hcounts
    refine ⟨htotal, ?_⟩
    simp only [RegistryMetrics.taskTransitioned, RegistryMetrics.bump, hcounts]
  rw [updatedMetrics]
  dsimp only
  split
  · cases task.durationSeconds with
    | none => split <;> exact hmoved _ rfl rfl
    | some seconds =>
      obtain ⟨htotal, hcounts⟩ := hduration m seconds
      split <;> exact hmoved _ htotal hcounts
  · exact hmoved m rfl rfl

/-- An update that does not raise moves its record. -/
theorem updateState_cases (r : TaskRegistry) (now : ℚ) (taskId : String) (target : TaskState)
    (u : TaskUpdate) :
    (∃ e, r.updateState now taskId target u = (.error e, r)) ∨
      ∃ task moved r', r.updateState now taskId target u = (.ok moved, r') ∧
        Moves r task target r' := by
  rw [updateState]
  cases htask : r.get taskId with
  | none => exact .inl ⟨_, rfl⟩
  | some task =>
    have hkey : task.taskId = taskId := r.index.keyed htask
    dsimp only
    by_cases hcan : canTransition task.state target = true
    · rw [if_pos hcan]
      -- the table has no loop, so `move_state` does not return early
      have hne : task.state ≠ target := Ne.symm (canTransition_ne hcan).2
      have hmove : r.index.moveState task task.state target =
          { r.index with
            byState := TaskIndex.addTo
              (TaskIndex.discardFrom r.index.byState task.state task.taskId) target task.taskId } :=
        if_neg hne
      have hfound : r.get task.taskId = some task := by
        rw [hkey]
        exact htask
      refine .inr ⟨task, _, _, rfl, ?_⟩
      rw [hmove]
      refine
        { found := hfound
          allowed := hcan
          ids_eq := Dict.keys_set_of_mem _ (mem_of_get hfound)
          get_eq := fun id hid => Dict.get?_set_of_ne _ _ hid
          get_self := ⟨_, Dict.get?_set_self _ _ _, rfl, rfl, rfl, rfl⟩
          byAsyncioId_eq := rfl
          byState_eq := rfl
          byParent_eq := rfl
          total_eq := ?_
          counts_eq := ?_
          lineage_eq := rfl }
      · exact (updatedMetrics_counts _ _ _ _).1
      · exact (updatedMetrics_counts _ _ _ _).2
    · rw [if_neg hcan]
      exact .inl ⟨_, rfl⟩

theorem safeUpdate_cases (r : TaskRegistry) (now : ℚ) (taskId : String) (target : TaskState)
    (u : TaskUpdate) :
    Unchanged r (r.safeUpdate now taskId target u) ∨
      ∃ task, Moves r task target (r.safeUpdate now taskId target u) := by
  rw [safeUpdate]
  rcases updateState_cases r now taskId target u with ⟨e, he⟩ | ⟨task, moved, r', hok, hmoves⟩
  · -- the rejection is counted, and swallowed
    rw [he]
    cases e <;> exact .inl ⟨rfl, rfl, rfl, rfl⟩
  · rw [hok]
    exact .inr ⟨task, hmoves⟩

/-- The registry after the index and the tracker dropped a task. -/
def dropped (r : TaskRegistry) (task : RuntimeTask) : TaskRegistry :=
  { r with index := r.index.remove task }

theorem remove_of_get {r : TaskRegistry} {task : RuntimeTask} (h : r.get task.taskId = some task) :
    r.remove task.taskId = (true,
      { (r.dropped task).relinked (r.lineage.unregister task.taskId) task.parentTaskId with
        metrics := ((r.dropped task).relinked (r.lineage.unregister task.taskId)
          task.parentTaskId).metrics.taskRemoved task.state }) := by
  rw [remove]
  rw [h]
  cases hparent : task.parentTaskId with
  | none => simp only [relinked, dropped, hparent]
  | some parent => simp only [relinked, dropped, hparent]

theorem remove_cases (r : TaskRegistry) (taskId : String) :
    (taskId ∉ r ∧ r.remove taskId = (false, r)) ∨
      ∃ task r', task.taskId = taskId ∧ r.remove taskId = (true, r') ∧ Leaves r task r' := by
  cases htask : r.get taskId with
  | none =>
    refine .inl ⟨get_eq_none_iff.mp htask, ?_⟩
    rw [remove]
    rw [htask]
  | some task =>
    have hkey : task.taskId = taskId := r.index.keyed htask
    obtain rfl := hkey
    refine .inr ⟨task, _, rfl, remove_of_get htask, ?_⟩
    obtain ⟨hids, hasyncio, hbyState, hbyParent, hmetrics, hlineage⟩ :=
      relinked_frame (r.dropped task) (r.lineage.unregister task.taskId) task.parentTaskId
    refine
      { found := htask
        ids_eq := hids.trans (Dict.keys_pop _ _)
        get_eq := fun id => ?_
        byAsyncioId_eq := hasyncio
        byState_eq := hbyState
        byParent_eq := hbyParent
        total_eq := ?_
        counts_eq := ?_
        unlinks := ?_ }
    · refine (get_relinked (r.dropped task) (r.lineage.unregister task.taskId) task.parentTaskId
        id).trans ?_
      dsimp only
      rw [hlineage]
      show ((r.index.byId.pop task.taskId).get? id).map _ = _
      rw [Dict.get?_pop]
      by_cases hid : id = task.taskId
      · rw [if_pos hid, if_pos hid]
        rfl
      · rw [if_neg hid, if_neg hid]
        rfl
    · dsimp only [RegistryMetrics.taskRemoved]
      rw [hmetrics]
      rfl
    · dsimp only [RegistryMetrics.taskRemoved, RegistryMetrics.bump]
      rw [hmetrics]
      rfl
    · dsimp only
      rw [hlineage]
      exact r.lineage.unregister_unlinks task.taskId

/-! ## One call -/

theorem handleCreated_enters {r : TaskRegistry} (htracked : r.Tracked) (now : ℚ)
    (event : RuntimeEvent) {task : TaskEventBase} (hnew : task.taskId ∉ r) :
    ∃ record asked, record.taskId = task.taskId ∧
      Enters r record asked (r.handleCreated now event task) := by
  rw [handleCreated]
  rw [if_neg hnew]
  cases hparent : r.unresolvedParent (createdMetadata event task task.parentTaskId) with
  | none =>
    obtain ⟨record, r', hok, hid, henters⟩ := register_enters htracked now .created hnew hparent
    rw [hok]
    exact ⟨record, _, hid, henters⟩
  | some parent =>
    -- the unknown parent is dropped and the task registered as a root
    have hfailed := register_of_unresolved now .created hnew hparent
    have hroot : r.unresolvedParent (createdMetadata event task none) = none := rfl
    obtain ⟨record, r', hok, hid, henters⟩ := register_enters htracked now .created hnew hroot
    rw [hfailed]
    dsimp only
    rw [hok]
    exact ⟨record, _, hid, henters⟩

theorem step_changes {r r' : TaskRegistry} {call : Call} (htracked : r.Tracked)
    (hstep : step r call = some r') : Changes r call r' := by
  -- the six handlers of the transition events
  have hupdate : ∀ (call : Call) now taskId target u, r.creates call = none →
      (∀ id, call ≠ .remove id) → Changes r call (r.safeUpdate now taskId target u) := by
    intro call now taskId target u hnone hkept
    rcases safeUpdate_cases r now taskId target u with h | ⟨task, h⟩
    · exact .unchanged hnone (fun id hid => absurd hid (hkept id)) h
    · exact .moves hnone hkept h
  cases call with
  | register now taskId md state =>
    obtain rfl := Option.some.inj hstep
    by_cases hmem : taskId ∈ r
    · rw [register_of_mem now md state hmem]
      exact .unchanged (if_pos (.inl hmem)) (fun id hid => nomatch hid) (.refl r)
    · cases hparent : r.unresolvedParent md with
      | some parent =>
        rw [register_of_unresolved now state hmem hparent]
        refine .unchanged (if_pos (.inr ?_)) (fun id hid => nomatch hid) (.refl r)
        rw [hparent]
        rfl
      | none =>
        obtain ⟨task, r', hok, hid, henters⟩ := register_enters htracked now state hmem hparent
        rw [hok]
        refine .enters ?_ henters
        rw [hid]
        refine if_neg (not_or.mpr ⟨hmem, ?_⟩)
        simp [hparent]
  | updateState now taskId target u =>
    obtain rfl := Option.some.inj hstep
    rcases updateState_cases r now taskId target u with ⟨e, he⟩ | ⟨task, moved, r', hok, hmoves⟩
    · rw [he]
      exact .unchanged rfl (fun id hid => nomatch hid) (.refl r)
    · rw [hok]
      exact .moves rfl (fun id hid => nomatch hid) hmoves
  | handleEvent now event =>
    obtain rfl := Option.some.inj hstep
    have hkept : ∀ id, Call.handleEvent now event ≠ .remove id := fun id hid => nomatch hid
    rw [handleEvent]
    cases hbody : event.body with
    | taskCreated task =>
      dsimp only
      by_cases hmem : task.taskId ∈ r
      · have hknown : r.handleCreated now event task = r := if_pos hmem
        rw [hknown]
        refine .unchanged ?_ (fun id hid => nomatch hid) (.refl r)
        simp [creates, hbody, hmem]
      · obtain ⟨record, asked, hid, henters⟩ := handleCreated_enters htracked now event hmem
        refine .enters ?_ henters
        simp [creates, hbody, hmem, hid]
    | other eventType fields =>
      exact .unchanged (by simp [creates, hbody]) (fun id hid => nomatch hid) (.refl r)
    | _ => exact hupdate _ _ _ _ _ (by simp [creates, hbody]) hkept
  | remove taskId =>
    obtain rfl := Option.some.inj hstep
    rcases remove_cases r taskId with ⟨hno, hfalse⟩ | ⟨task, r', rfl, htrue, hleaves⟩
    · rw [hfalse]
      refine .unchanged rfl (fun id hid => ?_) (.refl r)
      rw [← Call.remove.inj hid]
      exact hno
    · rw [htrue]
      exact .leaves hleaves
  | clear =>
    obtain rfl := Option.some.inj hstep
    exact .cleared

end TaskRegistry

end AsyncViz.Runtime.Tasks
