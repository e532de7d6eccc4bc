/-
  AsyncViz.Runtime.Tasks.Retiming

  The wall clock stamps records and decides nothing: two registries that differ in
  their stamps only stay so when they handle the same events, whatever their clocks
  read meanwhile.
-/

import AsyncViz.Runtime.Tasks.Calls

namespace AsyncViz.Runtime.Tasks

open AsyncViz.Lib AsyncViz.Runtime.Lineage

/-- The record without the readings of the clock; that the task has completed is kept. -/
def RuntimeTask.timeless (task : RuntimeTask) : RuntimeTask :=
  { task with
    createdAt := 0
    updatedAt := 0
    completedAt := task.completedAt.map fun _ => 0 }

theorem RuntimeTask.taskId_of_timeless {task task' : RuntimeTask}
    (h : task'.timeless = task.timeless) : task'.taskId = task.taskId := by
  show task'.timeless.taskId = task.timeless.taskId
  rw [h]

namespace TaskRegistry

/-- The records of the two registries differ in their stamps only. -/
structure SameTasks (r r' : TaskRegistry) : Prop where
  lineage_eq : r'.lineage = r.lineage
  get_eq : ∀ id, (r'.get id).map RuntimeTask.timeless = (r.get id).map RuntimeTask.timeless

/-- A lifecycle update does not reach the tracker. -/
theorem lineage_safeUpdate (r : TaskRegistry) (now : ℚ) (taskId : String) (target : TaskState)
    (u : TaskUpdate) : (r.safeUpdate now taskId target u).lineage = r.lineage := by
  rw [safeUpdate, updateState]
  cases r.get taskId with
  | none => rfl
  | some task =>
    by_cases hcan : canTransition task.state target = true
    · simp only [if_pos hcan]
    · simp only [if_neg hcan]

namespace SameTasks

variable {r r' : TaskRegistry}

theorem refl (r : TaskRegistry) : SameTasks r r := ⟨rfl, fun _ => rfl⟩

/-- What is read off the records is the same unless it is a stamp. -/
theorem read (h : SameTasks r r') {β : Type} (f : RuntimeTask → β)
    (hf : ∀ task, f task.timeless = f task) (id : String) :
    (r'.get id).map f = (r.get id).map f := by
  have hcomp : f ∘ RuntimeTask.timeless = f := funext hf
  have hget := congrArg (Option.map f) (h.get_eq id)
  rwa [Option.map_map, Option.map_map, hcomp] at hget

theorem mem_iff (h : SameTasks r r') {id : String} : id ∈ r' ↔ id ∈ r := by
  have hsome := congrArg Option.isSome (h.get_eq id)
  rw [Option.isSome_map, Option.isSome_map] at hsome
  exact Dict.mem_iff_get?_isSome.trans ((iff_of_eq (congrArg (· = true) hsome)).trans
    Dict.mem_iff_get?_isSome.symm)

theorem stateOf_eq (h : SameTasks r r') (id : String) : r'.stateOf id = r.stateOf id :=
  h.read RuntimeTask.state (fun _ => rfl) id

theorem unresolvedParent_eq (h : SameTasks r r') (md : TaskMetadata) :
    r'.unresolvedParent md = r.unresolvedParent md := by
  rw [unresolvedParent, unresolvedParent]
  congr 1
  funext parent
  exact decide_eq_decide.mpr (not_congr h.mem_iff)

/-! ## Creation -/

theorem refreshParentChildCount (h : SameTasks r r') (parent : String) :
    SameTasks (r.refreshParentChildCount parent) (r'.refreshParentChildCount parent) where
  lineage_eq := by
    rw [(refreshParentChildCount_frame r parent).2.2.2.2.2,
      (refreshParentChildCount_frame r' parent).2.2.2.2.2, h.lineage_eq]
  get_eq id := by
    have hcommutes (r : TaskRegistry) :
        ((r.refreshParentChildCount parent).get id).map RuntimeTask.timeless
          = ((r.get id).map RuntimeTask.timeless).map fun old =>
            if parent = id then { old with childCount := r.lineage.childCount id } else old := by
      rw [get_refreshParentChildCount, Option.map_map, Option.map_map]
      congr 1
      funext old
      exact apply_ite RuntimeTask.timeless _ _ _
    rw [hcommutes, hcommutes, h.get_eq, h.lineage_eq]

theorem linkRoot (h : SameTasks r r') {task task' : RuntimeTask}
    (htask : task'.timeless = task.timeless) :
    (r'.linkRoot task').1.timeless = (r.linkRoot task).1.timeless ∧
      SameTasks (r.linkRoot task).2 (r'.linkRoot task').2 := by
  have hregister : r'.lineage.register task'.taskId none = r.lineage.register task.taskId none := by
    rw [h.lineage_eq, RuntimeTask.taskId_of_timeless htask]
  rw [TaskRegistry.linkRoot, TaskRegistry.linkRoot, hregister]
  refine ⟨?_, rfl, h.get_eq⟩
  dsimp only
  cases (r.lineage.register task.taskId none).1 with
  | ok lineage =>
    exact congrArg (fun t => applyLineage t lineage) htask
  | error e => exact htask

theorem linkLineage (h : SameTasks r r') {task task' : RuntimeTask}
    (htask : task'.timeless = task.timeless) (asked : Option String) :
    (r'.linkLineage task' asked).1.timeless = (r.linkLineage task asked).1.timeless ∧
      SameTasks (r.linkLineage task asked).2 (r'.linkLineage task' asked).2 := by
  cases asked with
  | none => exact h.linkRoot htask
  | some parent =>
    have hregister : r'.lineage.register task'.taskId (some parent)
        = r.lineage.register task.taskId (some parent) := by
      rw [h.lineage_eq, RuntimeTask.taskId_of_timeless htask]
    rw [TaskRegistry.linkLineage, TaskRegistry.linkLineage, hregister]
    dsimp only
    have hrelinked : SameTasks { r with lineage := (r.lineage.register task.taskId parent).2 }
        { r' with lineage := (r.lineage.register task.taskId parent).2 } := ⟨rfl, h.get_eq⟩
    cases (r.lineage.register task.taskId (some parent)).1 with
    | ok lineage =>
      exact ⟨congrArg (fun t => applyLineage t lineage) htask,
        hrelinked.refreshParentChildCount parent⟩
    | error e =>
      have horphaned : ({ task' with parentTaskId := none } : RuntimeTask).timeless =
          ({ task with parentTaskId := none } : RuntimeTask).timeless :=
        congrArg (fun t : RuntimeTask => { t with parentTaskId := none }) htask
      have hroot := hrelinked.linkRoot horphaned
      exact ⟨hroot.1, hroot.2.refreshParentChildCount parent⟩

/-- The same registration at two clocks. -/
theorem register (h : SameTasks r r') (now now' : ℚ) (taskId : String) (md : TaskMetadata)
    (state : TaskState) :
    SameTasks (r.register now taskId md state).2 (r'.register now' taskId md state).2 ∧
      (∀ e, (r'.register now' taskId md state).1 = .error e ↔
        (r.register now taskId md state).1 = .error e) := by
  rw [TaskRegistry.register, TaskRegistry.register, h.unresolvedParent_eq]
  by_cases hmem : taskId ∈ r
  · rw [if_pos hmem, if_pos (h.mem_iff.mpr hmem)]
    exact ⟨h, fun _ => Iff.rfl⟩
  · rw [if_neg hmem, if_neg fun hmem' => hmem (h.mem_iff.mp hmem')]
    cases r.unresolvedParent md with
    | some parent => exact ⟨h, fun _ => Iff.rfl⟩
    | none =>
      have hcreate : (RuntimeTask.create now' taskId md state).timeless
          = (RuntimeTask.create now taskId md state).timeless := rfl
      obtain ⟨htask, hlinked⟩ := h.linkLineage hcreate md.parentTaskId
      refine ⟨⟨hlinked.lineage_eq, fun id => ?_⟩, fun e => by simp⟩
      have hid := RuntimeTask.taskId_of_timeless htask
      show (Dict.get? (Dict.set _ _ _) id).map _ = (Dict.get? (Dict.set _ _ _) id).map _
      rw [Dict.get?_set, Dict.get?_set, hid]
      split
      · exact congrArg some htask
      · exact hlinked.get_eq id

theorem handleCreated (h : SameTasks r r') (now now' : ℚ) (event : RuntimeEvent)
    (task : TaskEventBase) :
    SameTasks (r.handleCreated now event task) (r'.handleCreated now' event task) := by
  rw [TaskRegistry.handleCreated, TaskRegistry.handleCreated]
  by_cases hmem : task.taskId ∈ r
  · rw [if_pos hmem, if_pos (h.mem_iff.mpr hmem)]
    exact h
  · rw [if_neg hmem, if_neg fun hmem' => hmem (h.mem_iff.mp hmem')]
    obtain ⟨hfirst, herror⟩ := h.register now now' task.taskId
      (createdMetadata event task task.parentTaskId) .created
    -- either both calls raise, and the second ones follow, or neither does
    generalize r.register now task.taskId (createdMetadata event task task.parentTaskId)
      .created = out at hfirst herror ⊢
    generalize r'.register now' task.taskId (createdMetadata event task task.parentTaskId)
      .created = out' at hfirst herror ⊢
    obtain ⟨outcome, left⟩ := out
    obtain ⟨outcome', left'⟩ := out'
    have hsecond := (hfirst.register now now' task.taskId (createdMetadata event task none)
      .created).1
    cases outcome with
    | ok registered =>
      cases outcome' with
      | ok registered' => exact hfirst
      | error e => cases (herror e).mp rfl
    | error e =>
      obtain rfl : outcome' = .error e := (herror e).mpr rfl
      cases e with
      | invalidParentReference => exact hsecond
      | duplicateTask | unknownTask | invalidStateTransition => exact hfirst

/-! ## Transitions -/

/-- An update without a completion time of its own stamps the reading of the clock. -/
theorem timeless_updatedTask (now now' : ℚ) (target : TaskState) {u : TaskUpdate}
    (hu : u.completedAt = none) {task task' : RuntimeTask}
    (htask : task'.timeless = task.timeless) :
    (updatedTask task' now' target u).timeless = (updatedTask task now target u).timeless := by
  have hstep (now : ℚ) (task : RuntimeTask) :
      (updatedTask task now target u).timeless = updatedTask task.timeless 0 target u := by
    rw [updatedTask, updatedTask, RuntimeTask.timeless, RuntimeTask.timeless]
    dsimp only
    rw [hu]
    split <;> rfl
  rw [hstep, hstep, htask]

theorem safeUpdate (h : SameTasks r r') (now now' : ℚ) (taskId : String) (target : TaskState)
    {u : TaskUpdate} (hu : u.completedAt = none) :
    SameTasks (r.safeUpdate now taskId target u) (r'.safeUpdate now' taskId target u) where
  lineage_eq := by
    rw [lineage_safeUpdate, lineage_safeUpdate, h.lineage_eq]
  get_eq id := by
    have hget := h.get_eq id
    rw [get_safeUpdate, get_safeUpdate]
    cases hr : r.get id with
    | none =>
      cases hr' : r'.get id with
      | none => rfl
      | some task' => rw [hr, hr'] at hget; cases hget
    | some task =>
      cases hr' : r'.get id with
      | none => rw [hr, hr'] at hget; cases hget
      | some task' =>
        rw [hr, hr'] at hget
        have htask : task'.timeless = task.timeless := Option.some.inj hget
        have hstate : task'.state = task.state := by
          show task'.timeless.state = task.timeless.state
          rw [htask]
        refine congrArg some ?_
        dsimp only
        rw [hstate]
        split
        · rw [timeless_updatedTask now now' target hu htask]
        · rw [htask]

/-- The same event at two clocks. -/
theorem handleEvent (h : SameTasks r r') (now now' : ℚ) (event : RuntimeEvent) :
    SameTasks (r.handleEvent now event) (r'.handleEvent now' event) := by
  rw [TaskRegistry.handleEvent, TaskRegistry.handleEvent]
  cases event.body with
  | taskCreated task => exact h.handleCreated now now' event task
  | taskStarted | taskWaiting | taskResumed | taskCompleted | taskCancelled | taskFailed =>
    exact h.safeUpdate now now' _ _ rfl
  | other => exact h

end SameTasks

end TaskRegistry

end AsyncViz.Runtime.Tasks
