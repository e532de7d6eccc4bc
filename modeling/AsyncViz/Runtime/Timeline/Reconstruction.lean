/-
  AsyncViz.Runtime.Timeline.Reconstruction

  `replay_history` and `replay_state_store` (`runtime/timeline/reconstruction.py`), and
  the engine they rebuild next to one that was bound to the store from the start.

  The applied calls of a run are one log of lifecycle records (`entries`).  The history
  keeps it by task, the bound engine folds it in the order of arrival with the metadata
  of that moment, and the rebuild sorts the parts together and uses the metadata of the
  end.  Sequences increase along the log, so sorting restores it, and what the registry
  says about a tracked task never changes (`metadataAt_handleEvent`).
-/

import AsyncViz.Lib.Regroup
import AsyncViz.Runtime.State.Lifecycle
import AsyncViz.Runtime.Tasks.Representation
import AsyncViz.Runtime.Timeline.Engine
import Mathlib.Data.Prod.Lex
import Mathlib.Data.String.Basic

namespace AsyncViz.Runtime.Timeline

open AsyncViz.Lib AsyncViz.Lib.Regroup AsyncViz.Lib.Transition
open AsyncViz.Runtime.State AsyncViz.Runtime.Tasks

/-! ## Replay -/

/-- The per-task fields that the engine cannot derive from a record. -/
structure TimelineMetadata where
  parentTaskId : Option String := none
  coroutineName : Option String := none
  taskName : Option String := none
  depth : Nat := 0
  rootTaskId : Option String := none
deriving DecidableEq, Repr

/-- Those fields of a registered task. -/
def metadataOf (task : RuntimeTask) : TimelineMetadata :=
  { parentTaskId := task.parentTaskId
    coroutineName := task.coroutineName
    taskName := task.taskName
    depth := task.depth
    rootTaskId := task.rootTaskId }

/-- The arguments that `replay_history` passes to `apply_transition`. -/
def replayTransition (metadata : TimelineMetadata) (taskId : String) (record : TransitionRecord) :
    Transition :=
  { taskId := taskId
    target := record.state
    sequence := record.sequence
    monotonicNs := record.monotonicNs
    wallSeconds := record.wallSeconds
    parentTaskId := metadata.parentTaskId
    coroutineName := metadata.coroutineName
    taskName := metadata.taskName
    depth := metadata.depth
    rootTaskId := metadata.rootTaskId }

/-- The sort key, `(sequence or -1 for None, monotonic_ns, task_id)`. -/
def replayKey (entry : String × TransitionRecord) : Lex (Int × Lex (Int × String)) :=
  toLex (entry.2.sequence.getD (-1), toLex (entry.2.monotonicNs, entry.1))

/-- The order of the replay. -/
def ReplayOrder (a b : String × TransitionRecord) : Prop := replayKey a ≤ replayKey b

instance : DecidableRel ReplayOrder := fun a b =>
  inferInstanceAs (Decidable (replayKey a ≤ replayKey b))

instance : Std.Total ReplayOrder := ⟨fun a b => le_total (replayKey a) (replayKey b)⟩

instance : IsTrans _ ReplayOrder := ⟨fun _ _ _ => le_trans⟩

namespace TimelineSegmentEngine

/-- `replay_history(engine, records_by_task, metadata_by_task)`: the number of applied
    records, and the engine. -/
def replayHistory (engine : TimelineSegmentEngine)
    (recordsByTask : Dict String (List TransitionRecord))
    (metadataByTask : Dict String TimelineMetadata) : Nat × TimelineSegmentEngine :=
  let flattened := recordsByTask.entries.flatMap fun (taskId, records) =>
    records.map fun record => (taskId, record)
  (flattened.insertionSort ReplayOrder).foldl (fun (applied, engine) (taskId, record) =>
    let metadata := (metadataByTask.get? taskId).getD {}
    let (outcome, engine, _) := engine.applyTransition (replayTransition metadata taskId record)
    (if outcome.applied then applied + 1 else applied, engine)) (0, engine)

/-- `replay_state_store(engine, store)`. -/
def replayStateStore (engine : TimelineSegmentEngine) (store : RuntimeStateStore) :
    Nat × TimelineSegmentEngine :=
  let taskIds := store.history.records.keys
  let recordsByTask := taskIds.foldl (fun records taskId =>
    records.set taskId (store.history.get taskId)) .empty
  let metadataByTask := taskIds.foldl (fun metadata taskId =>
    match store.registry.get taskId with
    | none => metadata
    | some task => metadata.set taskId (metadataOf task)) .empty
  engine.replayHistory recordsByTask metadataByTask

end TimelineSegmentEngine

/-! ## The log of a run -/

/-- The record an applied call leaves behind, under its task. -/
def entryOf (call : ApplyCall) : Option (String × TransitionRecord) :=
  match call.event.body.task?, call.event.body.targetState? with
  | some task, some target => some (task.taskId, stamp call.event call.sequence target)
  | _, _ => none

/-- The records of a run, in the order in which they were applied. -/
def entries (s : RuntimeStateStore) (calls : List ApplyCall) : List (String × TransitionRecord) :=
  (s.appliedCalls calls).filterMap entryOf

/-- What the registry says about a task. -/
def metadataAt (registry : TaskRegistry) (taskId : String) : TimelineMetadata :=
  ((registry.get taskId).map metadataOf).getD {}

/-- The engine after a log, with the metadata of the registry. -/
def foldEntries (registry : TaskRegistry) (engine : TimelineSegmentEngine)
    (log : List (String × TransitionRecord)) : TimelineSegmentEngine :=
  log.foldl (fun engine entry => (engine.applyTransition
    (replayTransition (metadataAt registry entry.1) entry.1 entry.2)).2.1) engine

theorem foldEntries_append (registry : TaskRegistry) (engine : TimelineSegmentEngine)
    (log log' : List (String × TransitionRecord)) :
    foldEntries registry engine (log ++ log') =
      foldEntries registry (foldEntries registry engine log) log' := List.foldl_append

theorem foldEntries_congr {registry registry' : TaskRegistry}
    {log : List (String × TransitionRecord)}
    (h : ∀ entry ∈ log, metadataAt registry entry.1 = metadataAt registry' entry.1)
    (engine : TimelineSegmentEngine) :
    foldEntries registry engine log = foldEntries registry' engine log := by
  induction log generalizing engine with
  | nil => rfl
  | cons entry log ih =>
    unfold foldEntries
    rw [List.foldl_cons, List.foldl_cons, h entry List.mem_cons_self]
    exact ih (fun e he => h e (List.mem_cons_of_mem entry he)) _

/-! ## Metadata never changes -/

theorem metadataAt_safeUpdate (r : TaskRegistry) (now : ℚ) (taskId : String) (target : TaskState)
    (u : TaskRegistry.TaskUpdate) (id : String) :
    metadataAt (r.safeUpdate now taskId target u) id = metadataAt r id := by
  rw [metadataAt, metadataAt, TaskRegistry.get_safeUpdate, Option.map_map]
  congr 2
  funext task
  -- no update writes one of these fields
  dsimp only [Function.comp]
  split <;> rfl

/-- No event changes what the registry says about a tracked task. -/
theorem metadataAt_handleEvent {r : TaskRegistry} (h : r.Kept) (now : ℚ) (event : RuntimeEvent)
    {id : String} (hid : id ∈ r) : metadataAt (r.handleEvent now event) id = metadataAt r id := by
  rw [TaskRegistry.handleEvent]
  cases event.body with
  | taskCreated task =>
    dsimp only
    by_cases hmem : task.taskId ∈ r
    · have hknown : r.handleCreated now event task = r := if_pos hmem
      rw [hknown]
    · obtain ⟨record, asked, -, henters⟩ :=
        TaskRegistry.handleCreated_enters h.mirrored.tracked now event hmem
      have hne : id ≠ record.taskId := fun heq => henters.fresh (heq ▸ hid)
      rw [metadataAt]
      rw [henters.get_eq, if_neg hne, Option.map_map]
      -- at most the child count of the parent is restamped
      congr 2
      funext old
      dsimp only [Function.comp]
      split <;> rfl
  | other eventType fields => rfl
  | _ => exact metadataAt_safeUpdate r now _ _ _ id

/-! ## The bound engine -/

/-- An event that its class can build: outside the task classes the type is the literal
    of another class, or the class has no `task_id`. -/
def OfClass (event : RuntimeEvent) : Prop :=
  event.body.isTaskEvent = true ∨ TimelineSegmentEngine.eventToState event.eventType = none ∨
    event.strField? "task_id" = none

instance (event : RuntimeEvent) : Decidable (OfClass event) :=
  inferInstanceAs (Decidable (_ ∨ _ ∨ _))

/-- The listener turns a task event into the transition of its record. -/
theorem transitionOf_task (registry : TaskRegistry) {change : StateChange} {task : TaskEventBase}
    {target : TaskState} (htask : change.event.body.task? = some task)
    (htarget : change.event.body.targetState? = some target) :
    TimelineSegmentEngine.transitionOf registry change =
      some (replayTransition (metadataAt registry task.taskId) task.taskId
        (stamp change.event change.sequence target)) := by
  have htype : TimelineSegmentEngine.eventToState change.event.eventType = some target := by
    rw [RuntimeEvent.eventType]
    cases hbody : change.event.body <;> rw [hbody] at htarget <;>
      first | (obtain rfl := Option.some.inj htarget; rfl) | cases htarget
  have hid : change.event.strField? "task_id" = some task.taskId := by
    rw [RuntimeEvent.strField?]
    cases hbody : change.event.body <;> rw [hbody] at htask <;>
      first | (obtain rfl := Option.some.inj htask; rfl) | cases htask
  rw [TimelineSegmentEngine.transitionOf, metadataAt]
  rw [htype, hid]
  dsimp only
  cases registry.get task.taskId <;> rfl

/-- The listener ignores what is no task event. -/
theorem transitionOf_other (registry : TaskRegistry) {change : StateChange}
    (hclass : OfClass change.event) (hother : change.event.body.isTaskEvent = false) :
    TimelineSegmentEngine.transitionOf registry change = none := by
  rw [TimelineSegmentEngine.transitionOf]
  rcases hclass with htask | htype | hid
  · rw [htask] at hother
    cases hother
  · rw [htype]
  · rw [hid]
    split
    · next hsome => cases hsome
    · rfl

/-- A store with an engine bound to it. -/
structure TimedStore where
  store : RuntimeStateStore
  engine : TimelineSegmentEngine

namespace TimedStore

/-- An empty store with an empty engine bound to it. -/
def start (maxDepth : Nat) (window limit : ℕ+) : TimedStore :=
  ⟨.sized maxDepth window limit, {}⟩

/-- One `apply`, with the listener it calls. -/
def step (m : TimedStore) (call : ApplyCall) : Option TimedStore :=
  let (_, store, change) := m.store.apply call.now call.event call.sequence
  match change with
  | none => some ⟨store, m.engine⟩
  | some change => some ⟨store, (m.engine.observe store.registry change).1⟩

/-- The store and the engine agree on the log of the run. -/
structure Logged (limit : Nat) (log : List (String × TransitionRecord)) (m : TimedStore) :
    Prop where
  kept : m.store.registry.Kept
  sized : m.store.history.Sized
  limit_eq : m.store.history.limit = limit
  keys : ∀ id, id ∈ m.store.history.records ↔ ∃ record, (id, record) ∈ log
  get_eq : ∀ id, m.store.history.get id = ((part log id).map Prod.snd).rtake limit
  ordered : Strict ReplayOrder log
  below : ∀ entry ∈ log, ∃ n, entry.2.sequence = some n ∧ n ≤ m.store.lastSequence
  tracked : ∀ entry ∈ log, entry.1 ∈ m.store.registry
  engine_eq : m.engine = foldEntries m.store.registry {} log

theorem logged_start (maxDepth : Nat) (window limit : ℕ+) :
    Logged limit [] (start maxDepth window limit) :=
  { kept := TaskRegistry.kept_initial maxDepth
    sized := fun _ _ h => by cases h
    limit_eq := rfl
    keys := fun _ => iff_of_false (List.not_mem_nil) (by rintro ⟨_, h⟩; cases h)
    get_eq := fun _ => (List.rtake_nil _).symm
    ordered := List.Pairwise.nil
    below := fun _ h => by cases h
    tracked := fun _ h => by cases h
    engine_eq := rfl }

/-- A record above every sequence of the log comes last in the replay. -/
theorem strict_snoc {log : List (String × TransitionRecord)} {mark n : Int}
    {entry : String × TransitionRecord} (h : Strict ReplayOrder log)
    (hbelow : ∀ e ∈ log, ∃ k, e.2.sequence = some k ∧ k ≤ mark)
    (hentry : entry.2.sequence = some n) (hlt : mark < n) :
    Strict ReplayOrder (log ++ [entry]) := by
  refine List.pairwise_append.mpr ⟨h, List.pairwise_singleton _ _, ?_⟩
  intro e he last hlast
  rw [List.mem_singleton.mp hlast]
  obtain ⟨k, hk, hle⟩ := hbelow e he
  -- the sequences decide, times and ids do not matter
  have hkey : replayKey e < replayKey entry := by
    refine Prod.Lex.toLex_lt_toLex.mpr (.inl ?_)
    rw [hk, hentry, Option.getD_some, Option.getD_some]
    omega
  exact ⟨le_of_lt hkey, not_le_of_gt hkey⟩

theorem part_append_singleton (log : List (String × TransitionRecord))
    (entry : String × TransitionRecord) (id : String) :
    part (log ++ [entry]) id = if id = entry.1 then part log id ++ [entry] else part log id := by
  unfold part
  rw [List.filter_append]
  by_cases hid : id = entry.1
  · simp [hid]
  · simp [hid, Ne.symm hid]

theorem entries_singleton (s : RuntimeStateStore) (call : ApplyCall) :
    entries s [call] =
      if (s.apply call.now call.event call.sequence).1 = .apply then (entryOf call).toList
      else [] := by
  unfold entries RuntimeStateStore.appliedCalls RuntimeStateStore.appliedCalls
  dsimp only
  split
  · cases hentry : entryOf call <;> simp [hentry]
  · rfl

/-- An admitted task event puts one record behind the log, on both sides. -/
theorem Logged.snoc {limit : Nat} {log : List (String × TransitionRecord)} {m : TimedStore}
    (h : Logged limit log m) {event : RuntimeEvent} {n : Int} {now : ℚ}
    {store : RuntimeStateStore} {task : TaskEventBase} {target : TaskState}
    (htask : event.body.task? = some task) (htarget : event.body.targetState? = some target)
    (htransits : m.store.Transits now event (some n) task target store) :
    Logged limit (log ++ [(task.taskId, stamp event (some n) target)])
      ⟨store, (m.engine.observe store.registry (store.change event (some n))).1⟩ := by
  obtain ⟨hlt, hle⟩ := htransits.mark_new n rfl
  have hregistry := htransits.registry_eq
  have hhistory := htransits.history_eq
  have hself : task.taskId ∈ store.registry := by
    rw [TaskRegistry.mem_iff_stateOf]
    show (store.states task.taskId).isSome = true
    rw [htransits.states_eq htask htarget, Function.update_self]
    rfl
  refine
    { kept := ?_
      sized := ?_
      limit_eq := ?_
      keys := fun id => ?_
      get_eq := fun id => ?_
      ordered := strict_snoc h.ordered h.below rfl hlt
      below := fun e he => ?_
      tracked := fun e he => ?_
      engine_eq := ?_ }
  · rw [hregistry]
    exact h.kept.handleEvent now event
  · rw [hhistory]
    exact h.sized.append _ _
  · rw [hhistory]
    exact h.limit_eq
  · have hset : store.history.records = m.store.history.records.set task.taskId
        (((m.store.history.records.get? task.taskId).getD (.empty m.store.history.limit)).push
          (stamp event (some n) target)) := by
      rw [hhistory]
      rfl
    simp only [hset, Dict.mem_set_iff, h.keys, List.mem_append, List.mem_singleton, Prod.mk.injEq]
    constructor
    · rintro (rfl | ⟨record, hrecord⟩)
      · exact ⟨_, .inr ⟨rfl, rfl⟩⟩
      · exact ⟨record, .inl hrecord⟩
    · rintro ⟨record, hrecord | ⟨rfl, -⟩⟩
      · exact .inr ⟨record, hrecord⟩
      · exact .inl rfl
  · rw [part_append_singleton]
    dsimp only
    rw [hhistory, TransitionHistory.get_append h.sized, h.limit_eq, h.get_eq, h.get_eq]
    by_cases hid : id = task.taskId
    · rw [if_pos hid, if_pos hid, BoundedRing.rtake_rtake_append, List.map_append, hid]
      rfl
    · rw [if_neg hid, if_neg hid]
  · rcases List.mem_append.mp he with hold | hlast
    · obtain ⟨k, hk, hbound⟩ := h.below e hold
      exact ⟨k, hk, le_trans hbound htransits.mark_le⟩
    · rw [List.mem_singleton.mp hlast]
      exact ⟨n, rfl, hle⟩
  · rcases List.mem_append.mp he with hold | hlast
    · exact htransits.tracked (h.tracked e hold)
    · rw [List.mem_singleton.mp hlast]
      exact hself
  · -- what the registry says about the earlier tasks has not changed
    have hsame : ∀ e ∈ log, metadataAt store.registry e.1 = metadataAt m.store.registry e.1 := by
      intro e he
      rw [hregistry]
      exact metadataAt_handleEvent h.kept now event (h.tracked e he)
    rw [foldEntries_append, foldEntries_congr hsame, ← h.engine_eq]
    rw [TimelineSegmentEngine.observe]
    rw [transitionOf_task store.registry htask htarget]
    rfl

/-- A call that leaves the tasks alone keeps the log. -/
theorem Logged.idle {limit : Nat} {log : List (String × TransitionRecord)} {m : TimedStore}
    (h : Logged limit log m) {store : RuntimeStateStore} (hidle : m.store.Idle store) :
    Logged limit log ⟨store, m.engine⟩ := by
  obtain ⟨hregistry, hhistory, hup⟩ := hidle
  refine
    { kept := ?_
      sized := ?_
      limit_eq := ?_
      keys := ?_
      get_eq := ?_
      ordered := h.ordered
      below := fun e he => ?_
      tracked := ?_
      engine_eq := ?_ }
  · exact hregistry ▸ h.kept
  · exact hhistory ▸ h.sized
  · exact hhistory ▸ h.limit_eq
  · exact hhistory ▸ h.keys
  · exact hhistory ▸ h.get_eq
  · obtain ⟨k, hk, hbound⟩ := h.below e he
    exact ⟨k, hk, le_trans hbound hup⟩
  · exact hregistry ▸ h.tracked
  · exact hregistry ▸ h.engine_eq

theorem Logged.step {limit : Nat} {log : List (String × TransitionRecord)} {m m' : TimedStore}
    {call : ApplyCall} (h : Logged limit log m) (hclass : OfClass call.event)
    (hsequenced : call.sequence ≠ none) (hstep : step m call = some m') :
    Logged limit (log ++ entries m.store [call]) m' := by
  obtain ⟨n, hn⟩ := Option.ne_none_iff_exists'.mp hsequenced
  have hadvances := RuntimeStateStore.apply_advances m.store call.now call.event call.sequence
  rw [entries_singleton]
  rw [TimedStore.step] at hstep
  generalize m.store.apply call.now call.event call.sequence = r at hadvances hstep
  cases hadvances with
  | refused decision_ne idle =>
    obtain rfl := Option.some.inj hstep
    rw [if_neg decision_ne, List.append_nil]
    exact h.idle idle
  | @other store task_eq idle =>
    obtain rfl := Option.some.inj hstep
    have hother := EventBody.isTaskEvent_eq_false_iff.mpr task_eq
    have hentry : entryOf call = none := by rw [entryOf, task_eq]
    have hignored : (m.engine.observe store.registry
        (store.change call.event call.sequence)).1 = m.engine := by
      rw [TimelineSegmentEngine.observe, transitionOf_other store.registry hclass hother]
    rw [if_pos rfl, hentry, Option.toList_none, List.append_nil]
    show Logged limit log
      ⟨store, (m.engine.observe store.registry (store.change call.event call.sequence)).1⟩
    rw [hignored]
    exact h.idle idle
  | @moved store task target task_eq target_eq transits =>
    obtain rfl := Option.some.inj hstep
    have hentry : entryOf call = some (task.taskId, stamp call.event (some n) target) := by
      rw [entryOf, task_eq, target_eq, hn]
    rw [if_pos rfl, hentry, Option.toList_some, hn]
    rw [hn] at transits
    exact h.snoc task_eq target_eq transits

/-! ## The rebuild -/

/-- The fold of `replay_history`, over entries whose metadata is the registry's. -/
theorem foldl_replay (registry : TaskRegistry) (metadata : Dict String TimelineMetadata)
    {log : List (String × TransitionRecord)}
    (h : ∀ e ∈ log, (metadata.get? e.1).getD {} = metadataAt registry e.1)
    (applied : Nat) (engine : TimelineSegmentEngine) :
    (log.foldl (fun (applied, engine) (taskId, record) =>
      let metadata := (metadata.get? taskId).getD {}
      let (outcome, engine, _) := engine.applyTransition (replayTransition metadata taskId record)
      (if outcome.applied then applied + 1 else applied, engine)) (applied, engine)).2 =
      foldEntries registry engine log := by
  induction log generalizing applied engine with
  | nil => rfl
  | cons entry log ih =>
    have hhead := h entry List.mem_cons_self
    have hrest : ∀ e ∈ log, (metadata.get? e.1).getD {} = metadataAt registry e.1 :=
      fun e he => h e (List.mem_cons_of_mem entry he)
    rw [List.foldl_cons]
    dsimp only
    rw [hhead, ih hrest]
    rfl

/-- The parts of the log that the history keeps, with their task ids put back. -/
theorem map_get_eq_part {limit : Nat} {log : List (String × TransitionRecord)} {m : TimedStore}
    (h : Logged limit log m) (id : String) (hroom : (part log id).length ≤ limit) :
    ((m.store.history.get id).map fun record => (id, record)) = part log id := by
  rw [h.get_eq, BoundedRing.rtake_of_length_le (by rw [List.length_map]; exact hroom),
    List.map_map]
  refine (List.map_congr_left fun entry hentry => ?_).trans (List.map_id _)
  have hid : entry.1 = id := by simpa using (List.mem_filter.mp hentry).2
  exact Prod.ext hid.symm rfl

/-- As long as no part of the log was evicted, the rebuilt engine is the bound one. -/
theorem Logged.replay {limit : Nat} {log : List (String × TransitionRecord)} {m : TimedStore}
    (h : Logged limit log m) (hroom : ∀ id, (part log id).length ≤ limit) :
    (TimelineSegmentEngine.replayStateStore {} m.store).2 = m.engine := by
  have hnodup : m.store.history.records.keys.Nodup := m.store.history.records.nodup_keys
  have hcover : ∀ e ∈ log, e.1 ∈ m.store.history.records.keys :=
    fun e he => (h.keys e.1).mpr ⟨e.2, he⟩
  -- flattening the history gives the parts of the log
  have hflat : (m.store.history.records.keys.map fun id =>
      (id, m.store.history.get id)).flatMap
        (fun (taskId, records) => records.map fun record => (taskId, record)) =
      m.store.history.records.keys.flatMap (part log) := by
    rw [List.flatMap_map]
    exact congrArg (List.flatMap · _) (funext fun id => map_get_eq_part h id (hroom id))
  -- sorting the parts restores the log, in which the keys increase
  have hsorted : (m.store.history.records.keys.flatMap (part log)).insertionSort ReplayOrder =
      log := insertionSort_eq_of_strict (perm_flatMap_filter hnodup hcover) h.ordered
  have hentries : (m.store.history.records.keys.foldl (fun records taskId =>
      records.set taskId (m.store.history.get taskId)) Dict.empty).entries =
      m.store.history.records.keys.map fun id => (id, m.store.history.get id) :=
    Dict.entries_foldl_set _ hnodup (fun k _ => Dict.not_mem_empty k)
  rw [TimelineSegmentEngine.replayStateStore, TimelineSegmentEngine.replayHistory]
  rw [hentries, hflat, hsorted, h.engine_eq]
  refine foldl_replay m.store.registry _ (fun e he => ?_) 0 {}
  -- the metadata of a task is set when the fold reaches its id
  have hstep : ∀ (metadata : Dict String TimelineMetadata) (taskId id : String),
      (match m.store.registry.get taskId with
        | none => metadata
        | some task => metadata.set taskId (metadataOf task)).get? id =
      if id = taskId then ((m.store.registry.get taskId).map metadataOf).or (metadata.get? taskId)
      else metadata.get? id := by
    intro metadata taskId id
    by_cases hid : id = taskId
    · rw [hid]
      cases m.store.registry.get taskId <;> simp
    · cases m.store.registry.get taskId <;> simp [hid, Dict.get?_set]
  rw [Dict.get?_foldl_of_step hstep, if_pos (hcover e he), Dict.get?_empty, Option.or_none]
  rfl

theorem logged_exec {limit : Nat} {log : List (String × TransitionRecord)} {m m' : TimedStore}
    {calls : List ApplyCall} (h : Logged limit log m)
    (hclasses : ∀ call ∈ calls, OfClass call.event)
    (hsequenced : ∀ call ∈ calls, call.sequence ≠ none) (hrun : exec step m calls = some m') :
    Logged limit (log ++ entries m.store calls) m' := by
  induction calls generalizing log m with
  | nil =>
    obtain rfl := Option.some.inj hrun
    rw [show entries m.store [] = [] from rfl, List.append_nil]
    exact h
  | cons call calls ih =>
    obtain ⟨mid, hmid, hrest⟩ := exec_cons_eq_some.mp hrun
    have hlog := h.step (hclasses call List.mem_cons_self) (hsequenced call List.mem_cons_self) hmid
    have hstore : mid.store = (m.store.apply call.now call.event call.sequence).2.1 := by
      unfold TimedStore.step at hmid
      dsimp only at hmid
      split at hmid <;> exact (congrArg TimedStore.store (Option.some.inj hmid)).symm
    have hsplit : entries m.store (call :: calls) =
        entries m.store [call] ++ entries mid.store calls := by
      unfold entries
      rw [RuntimeStateStore.appliedCalls_cons, List.filterMap_append, hstore]
    rw [hsplit, ← List.append_assoc]
    exact ih hlog (fun c hc => hclasses c (List.mem_cons_of_mem call hc))
      (fun c hc => hsequenced c (List.mem_cons_of_mem call hc)) hrest

/-- Over every run on sequenced events in which no task has more records than the
    history keeps, the engine that `replay_state_store` rebuilds has the same state of
    every task and the same last sequence as the engine bound from the start. -/
theorem replayStateStore_eq_bound (maxDepth : Nat) (window limit : ℕ+) (calls : List ApplyCall)
    (hclasses : ∀ call ∈ calls, OfClass call.event)
    (hsequenced : ∀ call ∈ calls, call.sequence ≠ none)
    (hroom : ∀ id, (part (entries (.sized maxDepth window limit) calls) id).length ≤ limit)
    {m : TimedStore} (hrun : exec step (start maxDepth window limit) calls = some m) :
    (∀ id, (TimelineSegmentEngine.replayStateStore {} m.store).2.states.get? id =
        m.engine.states.get? id) ∧
      (TimelineSegmentEngine.replayStateStore {} m.store).2.lastSequence =
        m.engine.lastSequence := by
  have hlog := logged_exec (logged_start maxDepth window limit) hclasses hsequenced hrun
  rw [List.nil_append] at hlog
  have hsame := hlog.replay hroom
  rw [hsame]
  exact ⟨fun _ => rfl, rfl⟩

/-- Two tasks, interleaved, one of them run to its end. -/
private def timedRun : List ApplyCall :=
  let task (id : String) : TaskEventBase := { taskId := id, coroutineName := some "work" }
  [⟨{ eventId := "e1", body := .taskCreated (task "t") }, some 1, 0⟩,
   ⟨{ eventId := "e2", body := .taskCreated (task "u") }, some 2, 0⟩,
   ⟨{ eventId := "e3", monotonicNs := 5, body := .taskStarted (task "t") }, some 3, 0⟩,
   ⟨{ eventId := "e4", monotonicNs := 9, body := .taskCompleted (task "t") {} }, some 4, 0⟩]

theorem replayStateStore_eq_bound_interleaved :
    ∃ m, exec step (start 64 4096 1024) timedRun = some m ∧
      (∀ id, (TimelineSegmentEngine.replayStateStore {} m.store).2.states.get? id =
        m.engine.states.get? id) ∧
      (TimelineSegmentEngine.replayStateStore {} m.store).2.lastSequence =
        m.engine.lastSequence := by
  have hclasses : ∀ call ∈ timedRun, OfClass call.event := by decide
  have hsequenced : ∀ call ∈ timedRun, call.sequence ≠ none := by decide
  have hroom : ∀ id, (part (entries (.sized 64 4096 1024) timedRun) id).length ≤ (1024 : ℕ+) := by
    intro id
    have hfew : (entries (.sized 64 4096 1024) timedRun).length ≤ (1024 : ℕ+) := by decide +kernel
    exact le_trans (List.length_filter_le _ _) hfew
  exact ⟨_, rfl, replayStateStore_eq_bound 64 4096 1024 timedRun hclasses hsequenced hroom rfl⟩

end TimedStore

end AsyncViz.Runtime.Timeline
