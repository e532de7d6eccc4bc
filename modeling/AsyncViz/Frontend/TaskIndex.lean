/-
  AsyncViz.Frontend.TaskIndex

  The id index of the task slice over whole runs of the store.

  `taskIdsByState` is kept beside `tasksById` by list surgery on every task event
  and replaced with it on every snapshot.  `Indexed` says that the buckets
  partition the keys of the table by the state of their record.

  A snapshot with repeated ids would enter an id once for each of its records
  (`indexed_normalizeTasks_iff`); the server's registry lists each of its tasks
  once (`distinctIds_snapshotAllTasks`).
-/

import AsyncViz.Frontend.Store
import AsyncViz.Lib.Transition
import AsyncViz.Runtime.Tasks.Registry
import Mathlib.Data.List.Induction

namespace AsyncViz.Frontend

open AsyncViz.Lib AsyncViz.Lib.Transition AsyncViz.Runtime AsyncViz.Runtime.Tasks

/-! ## The partition -/

/-- Each bucket holds each of its ids once, and exactly the ids whose record has the state
    of the bucket. -/
structure Indexed (tasksById : Dict String TaskSnapshot) (index : TaskIdsByState) : Prop where
  nodup : ∀ state, (index state).Nodup
  mem_iff : ∀ id state, id ∈ index state ↔
    (tasksById.get? id).map RuntimeTask.state = some state

/-- The task ids of a snapshot are distinct. -/
def DistinctIds (tasks : List TaskSnapshot) : Prop := (tasks.map RuntimeTask.taskId).Nodup

instance (tasks : List TaskSnapshot) : Decidable (DistinctIds tasks) :=
  inferInstanceAs (Decidable (List.Nodup _))

section Index

variable {tasksById : Dict String TaskSnapshot} {index : TaskIdsByState}

/-- Every key of the table occurs once in all the buckets together, and nothing else does. -/
theorem Indexed.existsUnique_iff (h : Indexed tasksById index) (id : String) :
    (∃! state, id ∈ index state) ↔ id ∈ tasksById := by
  rw [Dict.mem_iff_exists_get?]
  constructor
  · rintro ⟨state, hstate, -⟩
    obtain ⟨task, htask, -⟩ := Option.map_eq_some_iff.mp ((h.mem_iff id state).mp hstate)
    exact ⟨task, htask⟩
  · rintro ⟨task, htask⟩
    refine ⟨task.state, ?_, fun state hstate => ?_⟩
    · refine (h.mem_iff id _).mpr ?_
      rw [htask]
      rfl
    · have hheld := (h.mem_iff id state).mp hstate
      rw [htask] at hheld
      exact (Option.some.inj hheld).symm

theorem indexed_empty : Indexed .empty fun _ => [] := by
  refine ⟨fun _ => List.nodup_nil, fun id state => ?_⟩
  rw [Dict.get?_empty]
  exact iff_of_false List.not_mem_nil (Option.some_ne_none state).symm

/-- The state of each id after one record is written. -/
theorem map_state_set (task : TaskSnapshot) (key id : String) :
    ((tasksById.set key task).get? id).map RuntimeTask.state =
      if id = key then some task.state else (tasksById.get? id).map RuntimeTask.state := by
  by_cases hid : id = key
  · subst hid
    rw [Dict.get?_set_self, if_pos rfl]
    rfl
  · rw [Dict.get?_set_of_ne _ _ hid, if_neg hid]

/-- A record is written and its id entered in its bucket, where no bucket holds the id any
    more. -/
theorem Indexed.enter (h : Indexed tasksById index) {key : String} {task : TaskSnapshot}
    {rest : TaskIdsByState} (hnodup : ∀ state, (rest state).Nodup)
    (hrest : ∀ id state, id ∈ rest state ↔ id ≠ key ∧ id ∈ index state) :
    Indexed (tasksById.set key task)
      (Function.update rest task.state (rest task.state ++ [key])) := by
  have hout : ∀ state, key ∉ rest state := fun state hmem => ((hrest key state).mp hmem).1 rfl
  constructor
  · intro state
    by_cases hstate : state = task.state
    · subst hstate
      rw [Function.update_self, ← List.concat_eq_append]
      exact List.Nodup.concat (hout _) (hnodup _)
    · rw [Function.update_of_ne hstate]
      exact hnodup state
  · intro id state
    rw [map_state_set]
    have hkept : id ∈ rest state ↔
        id ≠ key ∧ (tasksById.get? id).map RuntimeTask.state = some state := by
      rw [hrest, h.mem_iff]
    by_cases hstate : state = task.state
    · subst hstate
      rw [Function.update_self, List.mem_append, List.mem_singleton, hkept]
      by_cases hid : id = key
      · simp [hid]
      · simp [hid]
    · rw [Function.update_of_ne hstate, hkept]
      by_cases hid : id = key
      · simp [hid, Ne.symm hstate]
      · simp [hid]

/-- `reindexTaskState` follows a record that is written, from the state it had. -/
theorem Indexed.reindex (h : Indexed tasksById index) (key : String) (task : TaskSnapshot) :
    Indexed (tasksById.set key task)
      (reindexTaskState index key ((tasksById.get? key).map RuntimeTask.state) task.state) := by
  rw [reindexTaskState.eq_def]
  have hheld := h.mem_iff key
  cases hfrom : (tasksById.get? key).map RuntimeTask.state with
  | none =>
    -- an unknown id stands in no bucket
    rw [hfrom] at hheld
    have hout : ∀ state, key ∉ index state := fun state hmem =>
      Option.some_ne_none state ((hheld state).mp hmem).symm
    dsimp only
    rw [if_neg (hout _)]
    refine h.enter h.nodup fun id state => ?_
    refine ⟨fun hmem => ⟨?_, hmem⟩, And.right⟩
    rintro rfl
    exact hout state hmem
  | some source =>
    rw [hfrom] at hheld
    have hsource : ∀ state, key ∈ index state ↔ source = state := by
      intro state
      rw [hheld, Option.some.injEq]
    dsimp only
    by_cases hsame : source = task.state
    · -- the record stays in its bucket
      rw [if_pos hsame, if_pos ((hsource _).mpr hsame)]
      refine ⟨h.nodup, fun id state => ?_⟩
      rw [map_state_set, h.mem_iff]
      by_cases hid : id = key
      · rw [if_pos hid, hid, hfrom, hsame]
      · rw [if_neg hid]
    · rw [if_neg hsame]
      have hrest : ∀ id state,
          id ∈ Function.update index source ((index source).erase key) state ↔
            id ≠ key ∧ id ∈ index state := by
        intro id state
        by_cases hstate : state = source
        · subst hstate
          rw [Function.update_self, (h.nodup state).mem_erase_iff]
        · rw [Function.update_of_ne hstate]
          refine ⟨fun hmem => ⟨?_, hmem⟩, And.right⟩
          rintro rfl
          exact hstate ((hsource state).mp hmem).symm
      have hnodup : ∀ state,
          (Function.update index source ((index source).erase key) state).Nodup := by
        intro state
        by_cases hstate : state = source
        · subst hstate
          rw [Function.update_self]
          exact (h.nodup state).erase key
        · rw [Function.update_of_ne hstate]
          exact h.nodup state
      rw [if_neg fun hmem => ((hrest key _).mp hmem).1 rfl]
      exact h.enter hnodup hrest

end Index

/-! ## Snapshots -/

/-- One more record of a snapshot. -/
theorem normalizeTasks_concat (tasks : List TaskSnapshot) (task : TaskSnapshot) :
    normalizeTasks (tasks ++ [task]) =
      ((normalizeTasks tasks).1.set task.taskId task,
        Function.update (normalizeTasks tasks).2 task.state
          ((normalizeTasks tasks).2 task.state ++ [task.taskId])) := by
  rw [normalizeTasks]
  rw [List.foldl_concat]
  rfl

/-- The buckets list the records of their state, in the snapshot's order. -/
theorem normalizeTasks_index (tasks : List TaskSnapshot) (state : TaskState) :
    (normalizeTasks tasks).2 state =
      (tasks.filter fun task => task.state = state).map RuntimeTask.taskId := by
  induction tasks using List.reverseRecOn with
  | nil => rfl
  | append_singleton tasks task ih =>
    rw [normalizeTasks_concat, List.filter_append, List.map_append, ← ih]
    by_cases hstate : state = task.state
    · subst hstate
      show Function.update _ _ _ _ = _
      rw [Function.update_self, List.filter_singleton, decide_eq_true rfl]
      rfl
    · show Function.update _ _ _ _ = _
      rw [Function.update_of_ne hstate, List.filter_singleton, decide_eq_false (Ne.symm hstate)]
      exact (List.append_nil _).symm

/-- The table has the ids of the snapshot. -/
theorem mem_normalizeTasks_iff (tasks : List TaskSnapshot) (id : String) :
    id ∈ (normalizeTasks tasks).1 ↔ id ∈ tasks.map RuntimeTask.taskId := by
  induction tasks using List.reverseRecOn with
  | nil => exact iff_of_false (Dict.not_mem_empty id) List.not_mem_nil
  | append_singleton tasks task ih =>
    rw [normalizeTasks_concat, Dict.mem_set_iff, ih, List.map_append, List.mem_append]
    rw [List.map_singleton, List.mem_singleton]
    exact Or.comm

/-- A snapshot with distinct ids is indexed. -/
theorem indexed_normalizeTasks {tasks : List TaskSnapshot} (h : DistinctIds tasks) :
    Indexed (normalizeTasks tasks).1 (normalizeTasks tasks).2 := by
  induction tasks using List.reverseRecOn with
  | nil => exact indexed_empty
  | append_singleton tasks task ih =>
    rw [DistinctIds, List.map_append, List.map_singleton, List.nodup_append] at h
    obtain ⟨hdistinct, -, hnew⟩ := h
    have hindexed := ih hdistinct
    have hout : ∀ state, task.taskId ∉ (normalizeTasks tasks).2 state := by
      intro state hmem
      rw [normalizeTasks_index, List.mem_map] at hmem
      obtain ⟨other, hother, hid⟩ := hmem
      exact hnew other.taskId (List.mem_map_of_mem (List.mem_filter.mp hother).1) task.taskId
        (List.mem_singleton_self _) hid
    rw [normalizeTasks_concat]
    refine hindexed.enter hindexed.nodup fun id state => ?_
    refine ⟨fun hmem => ⟨?_, hmem⟩, And.right⟩
    rintro rfl
    exact hout state hmem

/-- And no other one is. -/
theorem indexed_normalizeTasks_iff (tasks : List TaskSnapshot) :
    Indexed (normalizeTasks tasks).1 (normalizeTasks tasks).2 ↔ DistinctIds tasks := by
  refine ⟨fun h => ?_, indexed_normalizeTasks⟩
  have hbucket : ∀ state, tasks.Pairwise fun a b =>
      a.state = state → b.state = state → a.taskId ≠ b.taskId := by
    intro state
    have hnodup := h.nodup state
    rw [normalizeTasks_index, List.Nodup, List.pairwise_map, List.pairwise_filter] at hnodup
    simpa only [decide_eq_true_eq] using hnodup
  rw [DistinctIds, List.Nodup, List.pairwise_map, List.pairwise_iff_getElem]
  intro i j hi hj hij hid
  have hheld : ∀ k (hk : k < tasks.length),
      tasks[k].taskId ∈ (normalizeTasks tasks).2 tasks[k].state := by
    intro k hk
    rw [normalizeTasks_index]
    refine List.mem_map_of_mem (List.mem_filter.mpr ⟨List.getElem_mem hk, ?_⟩)
    exact decide_eq_true rfl
  -- two records of one id stand in one bucket, since the table has one state for the id
  have hfirst := (h.mem_iff _ _).mp (hheld i hi)
  have hsecond := (h.mem_iff _ _).mp (hheld j hj)
  rw [hid, hsecond] at hfirst
  exact List.pairwise_iff_getElem.mp (hbucket tasks[i].state) i j hi hj hij rfl
    (Option.some.inj hfirst) hid

/-- The server's snapshots are of that kind: the registry lists the values of a table that
    is keyed by the task id. -/
theorem distinctIds_snapshotAllTasks (r : TaskRegistry) : DistinctIds r.snapshotAllTasks := by
  have hids : r.index.byId.values.map RuntimeTask.taskId = r.index.byId.keys := by
    rw [Dict.values, Dict.keys, List.map_map]
    refine List.map_congr_left fun entry hentry => ?_
    exact r.index.keyed (Dict.mem_entries_iff.mp hentry)
  have hperm := (List.perm_insertionSort TaskRegistry.SnapshotOrder r.index.byId.values).map
    RuntimeTask.taskId
  rw [hids] at hperm
  rw [DistinctIds, TaskRegistry.snapshotAllTasks, List.map_map]
  exact hperm.nodup_iff.mpr r.index.byId.nodup_keys

/-! ## The store -/

namespace RuntimeStoreState

/-- The tasks of a snapshot envelope, as `reduceRuntimeSnapshotEnvelope` picks them. -/
def snapshotTasks (envelope : RuntimeEnvelope) : Option (List TaskSnapshot) :=
  match envelope.payload with
  | .runtimeSnapshot payload => some (payload.tasks.getD (payload.stateTasks.getD []))
  | _ => none

/-- What is done to the store. -/
inductive Fold where
  | applyEnvelope (now : ℚ) (envelope : RuntimeEnvelope)
  | applyReplayBatch (envelopes : List (ℚ × RuntimeEnvelope))
  | hydrateSnapshot (now : ℚ) (snapshot : RuntimeSnapshot) (durationMs : ℚ)

/-- The snapshots that are normalized on the way. -/
def Fold.normalized : Fold → List (List TaskSnapshot)
  | .applyEnvelope _ envelope => (snapshotTasks envelope).toList
  | .applyReplayBatch envelopes => envelopes.filterMap fun e => snapshotTasks e.2
  | .hydrateSnapshot _ snapshot _ => [snapshot.stateTasks.getD []]

/-- One call on the store. -/
def step (s : RuntimeStoreState) : Fold → Option RuntimeStoreState
  | .applyEnvelope now envelope => some (s.applyEnvelopeReducer now envelope)
  | .applyReplayBatch envelopes => some (s.applyReplayBatch envelopes)
  | .hydrateSnapshot now snapshot durationMs => some (s.hydrateSnapshot now snapshot durationMs)

/-- The buckets partition the keys of the table. -/
def TasksIndexed (s : RuntimeStoreState) : Prop := Indexed s.tasksById s.taskIdsByState

variable {s : RuntimeStoreState}

/-- A runtime event moves its task's id with the record, or touches neither. -/
theorem tasksIndexed_runtimeEvent (h : s.TasksIndexed) (now : ℚ) (envelope : RuntimeEnvelope)
    (payload : RuntimeEventPayload) :
    (s.reduceRuntimeEventEnvelope now envelope payload).TasksIndexed := by
  rw [reduceRuntimeEventEnvelope]
  split
  · exact h
  · next event _ =>
    exact h.reindex event.taskId (reduceTaskEvent event (s.tasksById.get? event.taskId)).1

/-- A snapshot envelope replaces both, whatever they were. -/
theorem tasksIndexed_snapshotEnvelope {envelope : RuntimeEnvelope} {tasks : List TaskSnapshot}
    (htasks : snapshotTasks envelope = some tasks) (hdistinct : DistinctIds tasks)
    (s : RuntimeStoreState) (now : ℚ) : (s.applyEnvelopeReducer now envelope).TasksIndexed := by
  obtain ⟨timestamp, sequence, payload⟩ := envelope
  cases payload with
  | runtimeSnapshot payload =>
    obtain rfl := Option.some.inj htasks
    exact indexed_normalizeTasks hdistinct
  | heartbeat | systemStatus | runtimeEvent | metricsDelta | warningDelta | timelineDelta
  | protocolError | replayStatus => cases htasks

/-- Every envelope keeps the partition, a snapshot with distinct ids included. -/
theorem tasksIndexed_applyEnvelope (h : s.TasksIndexed) (now : ℚ) {envelope : RuntimeEnvelope}
    (hdistinct : ∀ tasks, snapshotTasks envelope = some tasks → DistinctIds tasks) :
    (s.applyEnvelopeReducer now envelope).TasksIndexed := by
  have hdispatch : (s.dispatch now envelope).TasksIndexed := by
    obtain ⟨timestamp, sequence, payload⟩ := envelope
    cases payload with
    | runtimeEvent payload => exact tasksIndexed_runtimeEvent h now _ payload
    | runtimeSnapshot payload => exact indexed_normalizeTasks (hdistinct _ rfl)
    | heartbeat | systemStatus | metricsDelta | warningDelta | timelineDelta | protocolError
    | replayStatus => exact h
  rw [applyEnvelopeReducer]
  split
  · split
    · exact h
    · exact h
    · exact hdispatch
    · exact hdispatch
  · exact hdispatch

/-- And so does a batch of them. -/
theorem tasksIndexed_applyReplayBatch (h : s.TasksIndexed) {envelopes : List (ℚ × RuntimeEnvelope)}
    (hdistinct : ∀ e ∈ envelopes, ∀ tasks, snapshotTasks e.2 = some tasks → DistinctIds tasks) :
    (s.applyReplayBatch envelopes).TasksIndexed := by
  rw [applyReplayBatch]
  induction envelopes generalizing s with
  | nil => exact h
  | cons e envelopes ih =>
    refine ih (tasksIndexed_applyEnvelope h e.1 (hdistinct e List.mem_cons_self)) ?_
    exact fun later hlater => hdistinct later (List.mem_cons_of_mem e hlater)

/-- A hydration replaces both as well. -/
theorem tasksIndexed_hydrateSnapshot {snapshot : RuntimeSnapshot}
    (hdistinct : DistinctIds (snapshot.stateTasks.getD [])) (s : RuntimeStoreState)
    (now durationMs : ℚ) : (s.hydrateSnapshot now snapshot durationMs).TasksIndexed :=
  indexed_normalizeTasks hdistinct

/-- One call on the store keeps the partition. -/
theorem tasksIndexed_step {s' : RuntimeStoreState} {act : Fold} (h : s.TasksIndexed)
    (hdistinct : ∀ tasks ∈ act.normalized, DistinctIds tasks) (hstep : step s act = some s') :
    s'.TasksIndexed := by
  cases act with
  | applyEnvelope now envelope =>
    obtain rfl := Option.some.inj hstep
    refine tasksIndexed_applyEnvelope h now fun tasks htasks => hdistinct tasks ?_
    exact Option.mem_toList.mpr htasks
  | applyReplayBatch envelopes =>
    obtain rfl := Option.some.inj hstep
    refine tasksIndexed_applyReplayBatch h fun e he tasks htasks => hdistinct tasks ?_
    exact List.mem_filterMap.mpr ⟨e, he, htasks⟩
  | hydrateSnapshot now snapshot durationMs =>
    obtain rfl := Option.some.inj hstep
    exact tasksIndexed_hydrateSnapshot (hdistinct _ (List.mem_singleton_self _)) s now durationMs

/-- From a snapshot with distinct ids on, hydrated or in an envelope and over any store, the
    buckets partition the keys of the table in every state, whatever envelopes and batches
    follow. -/
theorem tasksIndexed_after_snapshot (s : RuntimeStoreState) (acts : List Fold)
    (hacts : ∀ act ∈ acts, ∀ tasks ∈ act.normalized, DistinctIds tasks) :
    (∀ now snapshot durationMs, DistinctIds (snapshot.stateTasks.getD []) →
      AllStates step TasksIndexed (s.hydrateSnapshot now snapshot durationMs) acts) ∧
    ∀ now envelope tasks, snapshotTasks envelope = some tasks → DistinctIds tasks →
      AllStates step TasksIndexed (s.applyEnvelopeReducer now envelope) acts := by
  have hrun : ∀ start : RuntimeStoreState, start.TasksIndexed →
      AllStates step TasksIndexed start acts := fun start hstart =>
    allStates_of_allSteps (fun _ _ _ h hdistinct hstep => tasksIndexed_step h hdistinct hstep)
      hstart (allSteps_of_forall_mem hacts)
  constructor
  · intro now snapshot durationMs hdistinct
    exact hrun _ (tasksIndexed_hydrateSnapshot hdistinct s now durationMs)
  · intro now envelope tasks htasks hdistinct
    exact hrun _ (tasksIndexed_snapshotEnvelope htasks hdistinct s now)

private def indexedTask (taskId : String) (state : TaskState) : TaskSnapshot :=
  { taskId := taskId, state := state, createdAt := 0, updatedAt := 0 }

private def indexedEvent (sequence : Int) (eventType taskId : String) : RuntimeEnvelope :=
  { sequence := some sequence
    payload := .runtimeEvent (.task
      { eventType := eventType
        timestamp := 1
        runtimeId := "runtime"
        taskId := taskId
        parentTaskId := none
        coroutineName := none
        taskName := none
        metadata := .empty }) }

/-- A hydration of two tasks, a batch in which one of them ends and is reopened and a third
    appears, and a snapshot envelope over them. -/
theorem tasksIndexed_after_snapshot_three :
    AllStates step TasksIndexed
      (({} : RuntimeStoreState).hydrateSnapshot 0
        { runtimeId := "runtime", lastSequence := 0
          stateTasks := some [indexedTask "a" .running, indexedTask "b" .created] } 0)
      [.applyReplayBatch
        [(1, indexedEvent 1 "asyncio.task.completed" "a"),
          (2, indexedEvent 2 "asyncio.task.started" "a"),
          (3, indexedEvent 3 "asyncio.task.created" "c")],
        .applyEnvelope 4 { payload := .runtimeSnapshot { tasks := some [indexedTask "c" .waiting] } }] :=
  (tasksIndexed_after_snapshot {} _ (by decide)).1 0 _ 0 (by decide)

end RuntimeStoreState

end AsyncViz.Frontend
