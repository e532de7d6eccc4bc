/-
  AsyncViz.Runtime.State.Lifecycle

  Runs of `RuntimeStateStore.apply` and the transition history they leave behind.

  * `Settles` says what a reducer does to the registry and to the history: both
    change together, exactly when the reducer applies.
  * `Advances` says what a call does to the tasks: it leaves them alone (`Idle`), or
    takes one of them through one allowed transition (`Transits`).
  * `Remembers` is the invariant of a store.  The records retained for a task are
    the end of a path of the lifecycle table that starts at `created` and ends in
    the state the registry holds, and their sequences increase up to the policy's
    mark.  A call either leaves the tasks alone, or extends that path by one transition
    (`Remembers.apply`).
  * `lifecycle_history` reads the invariant off every run.
-/

import AsyncViz.Lib.Transition
import AsyncViz.Runtime.State.Store
import AsyncViz.Runtime.Tasks.Calls
import Mathlib.Data.PNat.Notation
import Mathlib.Data.PNat.Defs

namespace AsyncViz.Runtime.State

open AsyncViz.Lib AsyncViz.Lib.Transition AsyncViz.Runtime.Tasks

/-! ## Paths of the lifecycle table -/

/-- A path of the lifecycle table from `created` to `state`. -/
structure LifecyclePath (path : List TaskState) (state : TaskState) : Prop where
  starts : path.head? = some .created
  steps : path.IsChain fun a b => canTransition a b = true
  ends : path.getLast? = some state

theorem LifecyclePath.created : LifecyclePath [.created] .created :=
  ⟨rfl, List.isChain_singleton _, rfl⟩

theorem LifecyclePath.snoc {path : List TaskState} {state target : TaskState}
    (h : LifecyclePath path state) (hcan : canTransition state target = true) :
    LifecyclePath (path ++ [target]) target := by
  refine ⟨?_, ?_, List.getLast?_concat⟩
  · rw [List.head?_append, h.starts]
    rfl
  · refine List.IsChain.append h.steps (List.isChain_singleton _) ?_
    intro a ha b hb
    rw [h.ends] at ha
    rw [← Option.some.inj ha, ← Option.some.inj hb]
    exact hcan

/-- A terminal state survives every event. -/
theorem TaskStates.after_of_isTerminal {σ : TaskStates} {id : String} {state : TaskState}
    (hstate : σ id = some state) (hterminal : isTerminal state = true) (body : EventBody) :
    σ.after body id = some state := by
  rw [after]
  split
  · next hlegal =>
    rw [legal] at hlegal
    rw [move]
    split at hlegal
    · next task target htask htarget =>
      simp only [htask, htarget]
      by_cases hid : id = task.taskId
      · -- the event would move the terminal task itself
        rw [← hid, hstate] at hlegal
        by_cases hcreated : target = .created
        · rw [hcreated] at hlegal
          cases evaluateTransition_created_allowed_iff.mp hlegal
        · obtain ⟨current, hcurrent, hcan⟩ := (evaluateTransition_allowed_iff hcreated).mp hlegal
          rw [← Option.some.inj hcurrent, canTransition_of_isTerminal hterminal] at hcan
          cases hcan
      · rw [Function.update_of_ne hid]
        exact hstate
    · exact hstate
  · exact hstate

/-- The lifecycle never untracks a task. -/
theorem TaskStates.after_ne_none {σ : TaskStates} {id : String} (h : σ id ≠ none)
    (body : EventBody) : σ.after body id ≠ none := by
  rw [TaskStates.after, TaskStates.move]
  split
  · cases body.task? with
    | none => exact h
    | some task =>
      cases body.targetState? with
      | none => exact h
      | some target =>
        by_cases hid : id = task.taskId
        · simp [hid]
        · simp only [Function.update_of_ne hid]
          exact h
  · exact h

/-! ## The bounded history -/

namespace TransitionHistory

/-- Every ring was created with the limit of the history. -/
def Sized (h : TransitionHistory) : Prop :=
  ∀ id ring, h.records.get? id = some ring → ring.capacity = h.limit

theorem Sized.append {h : TransitionHistory} (hsized : h.Sized) (taskId : String)
    (record : TransitionRecord) : (h.append taskId record).Sized := by
  intro id ring hring
  rw [TransitionHistory.append] at hring
  rw [Dict.get?_set] at hring
  split at hring
  · rw [← Option.some.inj hring, BoundedRing.push_capacity]
    cases hbucket : h.records.get? taskId with
    | none => rfl
    | some bucket => exact hsized taskId bucket hbucket
  · exact hsized id ring hring

/-- An append keeps the last records of the task, up to the limit, and every record of
    any other task. -/
theorem get_append {h : TransitionHistory} (hsized : h.Sized) (taskId : String)
    (record : TransitionRecord) (id : String) :
    (h.append taskId record).get id =
      if id = taskId then (h.get taskId ++ [record]).rtake h.limit else h.get id := by
  unfold TransitionHistory.append TransitionHistory.get
  dsimp only
  rw [Dict.get?_set]
  by_cases hid : id = taskId
  · rw [if_pos hid, if_pos hid]
    cases hbucket : h.records.get? taskId with
    | none => rfl
    | some bucket =>
      show (bucket.items ++ [record]).rtake bucket.capacity = _
      rw [hsized taskId bucket hbucket]
  · rw [if_neg hid, if_neg hid]

theorem getLast?_rtake {α : Type _} {n : Nat} (hpos : 0 < n) (l : List α) :
    (l.rtake n).getLast? = l.getLast? := by
  obtain ⟨m, rfl⟩ := Nat.exists_eq_add_of_lt hpos
  rw [Nat.zero_add]
  rcases List.eq_nil_or_concat l with rfl | ⟨init, last, rfl⟩
  · rw [List.rtake_nil]
  · rw [List.concat_eq_append, List.rtake_concat_succ, List.getLast?_concat, List.getLast?_concat]

end TransitionHistory

/-! ## What a reducer leaves behind -/

/-- The record `record_transition` stamps. -/
def stamp (event : RuntimeEvent) (sequence : Option Int) (target : TaskState) :
    TransitionRecord :=
  { sequence := sequence
    state := target
    monotonicNs := event.monotonicNs
    wallSeconds := event.timestamp
    eventId := event.eventId
    eventType := event.eventType }

/-- Registry and history change together, exactly when the reducer applies. -/
structure Settles (ctx : ReducerContext) (now : ℚ) (event : RuntimeEvent) (task : TaskEventBase)
    (target : TaskState) (r : ReducerResult × ReducerContext) : Prop where
  registry_eq : r.2.registry =
    if r.1.applied then ctx.registry.handleEvent now event else ctx.registry
  history_eq : r.2.history =
    if r.1.applied then ctx.history.append task.taskId (stamp event ctx.sequence target)
    else ctx.history

theorem reduceTaskCreated_settles (ctx : ReducerContext) (now : ℚ) (event : RuntimeEvent)
    (task : TaskEventBase) (hbody : event.body = .taskCreated task) :
    Settles ctx now event task .created (reduceTaskCreated ctx now event task) := by
  have hhandle : ctx.registry.handleEvent now event =
      ctx.registry.handleCreated now event task := by
    rw [TaskRegistry.handleEvent]
    rw [hbody]
  rw [reduceTaskCreated]
  by_cases hmem : task.taskId ∈ ctx.registry
  · rw [if_pos hmem]
    exact ⟨rfl, rfl⟩
  · -- the registry takes every unknown task, so the second check never fails
    have htracked : task.taskId ∈ ctx.registry.handleEvent now event := by
      rw [hhandle, TaskRegistry.mem_iff_stateOf, TaskRegistry.stateOf_handleCreated,
        if_pos ⟨rfl, hmem⟩]
      rfl
    rw [if_neg hmem, if_pos htracked]
    exact ⟨rfl, rfl⟩

theorem safeTargetTransition_settles (ctx : ReducerContext) (now : ℚ) (task : TaskEventBase)
    {target : TaskState} (htarget : target ≠ .created) (name : String) (event : RuntimeEvent)
    (projections : List ProjectionName) (u : TaskRegistry.TaskUpdate)
    (hhandle : ctx.registry.handleEvent now event =
      ctx.registry.safeUpdate now task.taskId target u) :
    Settles ctx now event task target
      (safeTargetTransition ctx now task.taskId target name event projections) := by
  rw [safeTargetTransition]
  cases hreason : (evaluateTransition (ctx.registry.stateOf task.taskId) target).reason with
  | some reason => exact ⟨rfl, rfl⟩
  | none =>
    -- the registry moves the task whenever the plan allows it
    have hyes : (evaluateTransition (ctx.registry.stateOf task.taskId) target).allowed = true := by
      rw [TransitionPlan.allowed]
      rw [hreason]
      rfl
    obtain ⟨current, hcurrent, hcan⟩ := (evaluateTransition_allowed_iff htarget).mp hyes
    have hstate := TaskRegistry.stateOf_safeUpdate ctx.registry now task.taskId target u task.taskId
    simp only [hcurrent, hcan, true_and, if_true] at hstate
    dsimp only
    rw [hhandle, if_pos hstate, ← hhandle]
    exact ⟨rfl, rfl⟩

theorem reduce_settles {ctx : ReducerContext} {now : ℚ} {event : RuntimeEvent}
    {task : TaskEventBase} {target : TaskState} {r : ReducerResult × ReducerContext}
    (htask : event.body.task? = some task) (htarget : event.body.targetState? = some target)
    (h : reduce ctx now event = some r) : Settles ctx now event task target r := by
  rw [reduce] at h
  have hhandle : ∀ b, event.body = b → ctx.registry.handleEvent now event =
      ctx.registry.handleEvent now { event with body := b } := by
    rintro b rfl
    rfl
  cases hbody : event.body with
  | other eventType fields =>
    rw [hbody] at h
    cases h
  | taskCreated base =>
    rw [hbody] at h htask htarget
    obtain rfl := Option.some.inj h
    obtain rfl := Option.some.inj htask
    obtain rfl := Option.some.inj htarget
    exact reduceTaskCreated_settles ctx now event base hbody
  | taskStarted base | taskWaiting base | taskResumed base | taskCompleted base
  | taskCancelled base | taskFailed base =>
    rw [hbody] at h htask htarget
    obtain rfl := Option.some.inj h
    obtain rfl := Option.some.inj htask
    obtain rfl := Option.some.inj htarget
    exact safeTargetTransition_settles ctx now base (by decide) _ event _ _ (hhandle _ hbody)

/-! ## What a call leaves behind -/

namespace RuntimeStateStore

/-- The history after an admitted event: a task event appends its record. -/
def remember (h : TransitionHistory) (event : RuntimeEvent) (sequence : Option Int) :
    TransitionHistory :=
  match event.body.task?, event.body.targetState? with
  | some task, some target => h.append task.taskId (stamp event sequence target)
  | _, _ => h

theorem remember_of_not_task (h : TransitionHistory) {event : RuntimeEvent}
    (sequence : Option Int) (hother : event.body.isTaskEvent = false) :
    remember h event sequence = h := by
  rw [remember, EventBody.isTaskEvent_eq_false_iff.mp hother]

/-- The two outcomes of a call, for the parts that hold tasks: a refused event changes
    none of them, an admitted one reaches each of them once. -/
inductive Commits (s : RuntimeStateStore) (now : ℚ) (event : RuntimeEvent)
    (sequence : Option Int) :
    ReconciliationDecision × RuntimeStateStore × Option StateChange → Prop where
  | refused {decision : ReconciliationDecision} {s' : RuntimeStateStore}
      (decision_ne : decision ≠ .apply) (registry_eq : s'.registry = s.registry)
      (history_eq : s'.history = s.history) (policy_eq : s'.policy = s.policy) :
      Commits s now event sequence (decision, s', none)
  | admitted {s' : RuntimeStateStore}
      (evaluated : s.policy.evaluate sequence event.eventId = .apply)
      (legal : s.states.legal event.body = true)
      (registry_eq : s'.registry = s.registry.handleEvent now event)
      (history_eq : s'.history = remember s.history event sequence)
      (policy_eq : s'.policy = s.policy.recordApplied sequence event.eventId) :
      Commits s now event sequence (.apply, s', some (s'.change event sequence))

theorem apply_commits (s : RuntimeStateStore) (now : ℚ) (event : RuntimeEvent)
    (sequence : Option Int) :
    Commits s now event sequence (s.apply now event sequence) := by
  rw [apply]
  cases heval : s.policy.evaluate sequence event.eventId with
  | stale => exact .refused (by decide) rfl rfl rfl
  | duplicate => exact .refused (by decide) rfl rfl rfl
  | apply =>
    by_cases htask : event.body.isTaskEvent = true
    · simp only [htask, if_true]
      cases hreduce : reduce (s.reducerContext sequence) now event with
      | none =>
        have hsome := reduce_isSome (s.reducerContext sequence) now event
        rw [hreduce, htask] at hsome
        cases hsome
      | some r =>
        obtain ⟨task, target, hbase, htarget, hreduces⟩ := reduce_reduces hreduce
        obtain ⟨happlied, -⟩ := states_of_reduces hbase htarget hreduces
        obtain ⟨hregistry, hhistory⟩ := reduce_settles hbase htarget hreduce
        dsimp only
        by_cases hyes : r.1.applied = true
        · rw [if_pos hyes] at hregistry hhistory ⊢
          refine .admitted heval (happlied.symm.trans hyes) hregistry ?_ rfl
          rw [remember]
          rw [hbase, htarget]
          exact hhistory
        · rw [if_neg hyes] at hregistry hhistory ⊢
          exact .refused (by decide) hregistry hhistory rfl
    · have hother : event.body.isTaskEvent = false := Bool.eq_false_iff.mpr htask
      obtain ⟨hlegal, -⟩ := TaskStates.legal_of_not_task (σ := s.states) hother
      simp only [hother, if_false, Bool.false_eq_true]
      refine .admitted heval hlegal ?_ ?_ rfl
      · exact (s.registry.handleEvent_of_not_task now hother).symm
      · exact (remember_of_not_task s.history sequence hother).symm

/-- An admitted event reaches the mark, and its sequence lies above the old one. -/
theorem mark_of_admitted {p p' : ReconciliationPolicy} {sequence : Option Int} {eventId : String}
    (hadmits : p.evaluate sequence eventId = .apply)
    (hpolicy : p' = p.recordApplied sequence eventId) :
    p.lastSequence ≤ p'.lastSequence ∧
      ∀ n, sequence = some n → p.lastSequence < n ∧ n ≤ p'.lastSequence := by
  have hmark := (ReconciliationPolicy.evaluate_eq_apply_iff.mp hadmits).2
  rw [hpolicy]
  cases sequence with
  | none => exact ⟨le_refl _, nofun⟩
  | some n =>
    rw [ReconciliationPolicy.recordApplied_lastSequence_some (hmark n rfl)]
    refine ⟨le_of_lt (hmark n rfl), ?_⟩
    rintro m ⟨rfl⟩
    exact ⟨hmark n rfl, le_refl n⟩

/-- The tasks are left alone; the mark may still move on. -/
structure Idle (s s' : RuntimeStateStore) : Prop where
  registry_eq : s'.registry = s.registry
  history_eq : s'.history = s.history
  mark_le : s.lastSequence ≤ s'.lastSequence

theorem Idle.states_eq {s s' : RuntimeStateStore} (h : Idle s s') : s'.states = s.states := by
  funext id
  exact congrArg (TaskRegistry.stateOf · id) h.registry_eq

/-- One task goes through one allowed transition, in the registry, the history and the
    states alike. -/
structure Transits (s : RuntimeStateStore) (now : ℚ) (event : RuntimeEvent)
    (sequence : Option Int) (task : TaskEventBase) (target : TaskState) (s' : RuntimeStateStore) :
    Prop where
  allowed : (evaluateTransition (s.states task.taskId) target).allowed = true
  mark_le : s.lastSequence ≤ s'.lastSequence
  mark_new : ∀ n, sequence = some n → s.lastSequence < n ∧ n ≤ s'.lastSequence
  registry_eq : s'.registry = s.registry.handleEvent now event
  history_eq : s'.history = s.history.append task.taskId (stamp event sequence target)
  states_after : s'.states = s.states.after event.body
  states_move : s'.states = s.states.move event.body

section Transits

variable {s s' : RuntimeStateStore} {now : ℚ} {event : RuntimeEvent} {sequence : Option Int}
  {task : TaskEventBase} {target : TaskState}

theorem Transits.states_eq (h : Transits s now event sequence task target s')
    (htask : event.body.task? = some task) (htarget : event.body.targetState? = some target) :
    s'.states = Function.update s.states task.taskId (some target) := by
  rw [h.states_move, TaskStates.move, htask, htarget]

/-- No event untracks a task. -/
theorem Transits.tracked (h : Transits s now event sequence task target s') {id : String}
    (hid : id ∈ s.registry) : id ∈ s'.registry := by
  have hsome : s.states id ≠ none := fun hnone => TaskRegistry.stateOf_eq_none_iff.mp hnone hid
  by_contra hnot
  have hnone : s'.states id = none := TaskRegistry.stateOf_eq_none_iff.mpr hnot
  rw [h.states_after] at hnone
  exact TaskStates.after_ne_none hsome event.body hnone

end Transits

/-- What a call does to the tasks, by its outcome: a refused event and one of another
    class leave them alone, an admitted task event moves its task. -/
inductive Advances (s : RuntimeStateStore) (now : ℚ) (event : RuntimeEvent)
    (sequence : Option Int) :
    ReconciliationDecision × RuntimeStateStore × Option StateChange → Prop where
  | refused {decision : ReconciliationDecision} {s' : RuntimeStateStore}
      (decision_ne : decision ≠ .apply) (idle : Idle s s') :
      Advances s now event sequence (decision, s', none)
  | other {s' : RuntimeStateStore} (task_eq : event.body.task? = none) (idle : Idle s s') :
      Advances s now event sequence (.apply, s', some (s'.change event sequence))
  | moved {s' : RuntimeStateStore} {task : TaskEventBase} {target : TaskState}
      (task_eq : event.body.task? = some task)
      (target_eq : event.body.targetState? = some target)
      (transits : Transits s now event sequence task target s') :
      Advances s now event sequence (.apply, s', some (s'.change event sequence))

theorem apply_advances (s : RuntimeStateStore) (now : ℚ) (event : RuntimeEvent)
    (sequence : Option Int) :
    Advances s now event sequence (s.apply now event sequence) := by
  have hcommits := apply_commits s now event sequence
  have hmoves : s.policy.evaluate sequence event.eventId = .apply →
      (s.apply now event sequence).2.1.states = s.states.after event.body := states_apply
  generalize s.apply now event sequence = r at hcommits hmoves ⊢
  cases hcommits with
  | @refused decision s' decision_ne registry_eq history_eq policy_eq =>
    refine .refused decision_ne ⟨registry_eq, history_eq, ?_⟩
    have hmark : s'.lastSequence = s.lastSequence :=
      congrArg ReconciliationPolicy.lastSequence policy_eq
    exact hmark.ge
  | @admitted s' evaluated legal registry_eq history_eq policy_eq =>
    obtain ⟨hup, hnew⟩ := mark_of_admitted evaluated policy_eq
    cases htask : event.body.task? with
    | none =>
      -- registry and history pass over what is no task event, the mark does not
      have hother := EventBody.isTaskEvent_eq_false_iff.mpr htask
      refine .other htask ⟨?_, ?_, hup⟩
      · rw [registry_eq, TaskRegistry.handleEvent_of_not_task _ now hother]
      · rw [history_eq, remember_of_not_task _ sequence hother]
    | some task =>
      obtain ⟨target, htarget⟩ := EventBody.exists_targetState htask
      have hafter : s'.states = s.states.after event.body := hmoves evaluated
      have hallowed := legal
      rw [TaskStates.legal, htask, htarget] at hallowed
      refine .moved htask htarget ⟨hallowed, hup, hnew, registry_eq, ?_, hafter, ?_⟩
      · rw [history_eq, remember, htask, htarget]
      · rw [hafter, TaskStates.after_of_legal legal]

/-! ## Runs -/

/-- One call of a run. -/
def step (s : RuntimeStateStore) (call : ApplyCall) : Option RuntimeStateStore :=
  some (s.apply call.now call.event call.sequence).2.1

theorem exec_step (s : RuntimeStateStore) (calls : List ApplyCall) :
    exec step s calls = some (s.applyAll calls).2.1 := by
  induction calls generalizing s with
  | nil => rfl
  | cons call calls ih => exact ih (s.apply call.now call.event call.sequence).2.1

/-- `RuntimeStateStore(TaskRegistry(lineage=...), policy=..., history=...)`, over empty
    parts of any size. -/
def sized (maxDepth : Nat) (window limit : ℕ+) : RuntimeStateStore :=
  { new with
    registry := .initial maxDepth
    policy := .new window window.pos
    history := { TransitionHistory.new with limit := limit, limit_pos := limit.pos } }

end RuntimeStateStore

/-! ## One task -/

/-- What the retained records of a task in `state` look like. -/
structure LifecycleRecord (records : List TransitionRecord) (state : TaskState) : Prop where
  path : ∃ path, LifecyclePath path state ∧ records.map TransitionRecord.state <:+ path
  last_eq : (records.map TransitionRecord.state).getLast? = some state
  sequences : (records.filterMap TransitionRecord.sequence).Pairwise (· < ·)

/-- The records retained for a task whose registered state is `current`, under a
    policy whose mark is `mark`. -/
structure Remembered (records : List TransitionRecord) (current : Option TaskState)
    (mark : Int) : Prop where
  untracked : current = none → records = []
  tracked : ∀ state, current = some state → LifecycleRecord records state
  bounded : ∀ n ∈ records.filterMap TransitionRecord.sequence, n ≤ mark

namespace Remembered

variable {records : List TransitionRecord} {current : Option TaskState} {mark mark' : Int}

theorem mono (h : Remembered records current mark) (hle : mark ≤ mark') :
    Remembered records current mark' :=
  ⟨h.untracked, h.tracked, fun n hn => le_trans (h.bounded n hn) hle⟩

theorem sequences (h : Remembered records current mark) :
    (records.filterMap TransitionRecord.sequence).Pairwise (· < ·) := by
  -- an untracked task has no records
  cases hcurrent : current with
  | none =>
    rw [h.untracked hcurrent]
    exact List.Pairwise.nil
  | some state => exact (h.tracked state hcurrent).sequences

/-- A record that the validation allows continues the path of its task, or starts it. -/
theorem path_append (h : Remembered records current mark) {record : TransitionRecord}
    (hallowed : (evaluateTransition current record.state).allowed = true) :
    ∃ path, LifecyclePath path record.state ∧
      (records ++ [record]).map TransitionRecord.state <:+ path := by
  rw [List.map_append]
  by_cases hcreated : record.state = .created
  · rw [hcreated] at hallowed
    have hnone := evaluateTransition_created_allowed_iff.mp hallowed
    refine ⟨[.created], ?_, ?_⟩
    · rw [hcreated]
      exact .created
    · rw [h.untracked hnone, List.map_singleton, hcreated]
      exact List.suffix_refl _
  · obtain ⟨state, hstate, hcan⟩ := (evaluateTransition_allowed_iff hcreated).mp hallowed
    -- what the ring dropped stands in `earlier`, before the retained records
    obtain ⟨path, hpath, earlier, rfl⟩ := (h.tracked state hstate).path
    refine ⟨_, hpath.snoc hcan, earlier, ?_⟩
    rw [List.append_assoc]
    rfl

/-- The sequences of the task grow by one that lies above the mark. -/
theorem sequences_append (h : Remembered records current mark) {record : TransitionRecord}
    (hle : mark ≤ mark') (hnew : ∀ n, record.sequence = some n → mark < n ∧ n ≤ mark') :
    ((records ++ [record]).filterMap TransitionRecord.sequence).Pairwise (· < ·) ∧
      ∀ n ∈ (records ++ [record]).filterMap TransitionRecord.sequence, n ≤ mark' := by
  rw [List.filterMap_append]
  cases hseq : record.sequence with
  | none =>
    rw [List.filterMap_cons_none hseq, List.filterMap_nil, List.append_nil]
    exact ⟨h.sequences, fun n hn => le_trans (h.bounded n hn) hle⟩
  | some m =>
    obtain ⟨hmark, hbound⟩ := hnew m hseq
    rw [List.filterMap_cons_some hseq, List.filterMap_nil]
    refine ⟨List.pairwise_append.mpr ⟨h.sequences, List.pairwise_singleton _ _, ?_⟩, ?_⟩
    · intro n hn k hk
      rw [List.mem_singleton.mp hk]
      exact lt_of_le_of_lt (h.bounded n hn) hmark
    · intro n hn
      rcases List.mem_append.mp hn with hn | hn
      · exact le_trans (h.bounded n hn) hle
      · rw [List.mem_singleton.mp hn]
        exact hbound

/-- One allowed transition puts one record behind those of its task. -/
theorem append (h : Remembered records current mark) {record : TransitionRecord}
    (hallowed : (evaluateTransition current record.state).allowed = true) (hle : mark ≤ mark')
    (hnew : ∀ n, record.sequence = some n → mark < n ∧ n ≤ mark') :
    Remembered (records ++ [record]) (some record.state) mark' := by
  obtain ⟨hsequences, hbounded⟩ := h.sequences_append hle hnew
  refine ⟨nofun, ?_, hbounded⟩
  rintro state ⟨rfl⟩
  refine ⟨h.path_append hallowed, ?_, hsequences⟩
  rw [List.map_append]
  exact List.getLast?_concat

/-- Keeping the last records of a task keeps what was said of all of them. -/
theorem rtake (h : Remembered records current mark) {limit : Nat} (hpos : 0 < limit) :
    Remembered (records.rtake limit) current mark := by
  have hshort := BoundedRing.rtake_suffix limit records
  refine ⟨fun hnone => ?_, fun state hstate => ?_, fun n hn => ?_⟩
  · rw [h.untracked hnone]
    exact List.rtake_nil limit
  · obtain ⟨⟨path, hpath, hsuffix⟩, hlast, hsequences⟩ := h.tracked state hstate
    refine ⟨⟨path, hpath, (hshort.map _).trans hsuffix⟩, ?_,
      List.Pairwise.sublist (hshort.sublist.filterMap _) hsequences⟩
    rw [List.getLast?_map] at hlast ⊢
    rw [TransitionHistory.getLast?_rtake hpos]
    exact hlast
  · exact h.bounded n ((hshort.sublist.filterMap _).subset hn)

end Remembered

/-! ## Every task -/

namespace RuntimeStateStore

/-- The history remembers every task of the registry, and no other. -/
structure Remembers (s : RuntimeStateStore) : Prop where
  sized : s.history.Sized
  remembered : ∀ id, Remembered (s.history.get id) (s.states id) s.lastSequence

theorem remembers_sized (maxDepth : Nat) (window limit : ℕ+) :
    (sized maxDepth window limit).Remembers :=
  ⟨fun _ _ h => (nomatch h),
    fun _ => ⟨fun _ => rfl, fun _ h => (nomatch h), fun _ h => (nomatch h)⟩⟩

theorem Remembers.apply {s : RuntimeStateStore} (h : s.Remembers) (now : ℚ) (event : RuntimeEvent)
    (sequence : Option Int) : (s.apply now event sequence).2.1.Remembers := by
  have hidle : ∀ s', Idle s s' → s'.Remembers := by
    refine fun s' idle => ⟨idle.history_eq ▸ h.sized, fun id => ?_⟩
    rw [idle.history_eq, idle.states_eq]
    exact (h.remembered id).mono idle.mark_le
  have hadvances := apply_advances s now event sequence
  generalize s.apply now event sequence = r at hadvances ⊢
  cases hadvances with
  | refused decision_ne idle => exact hidle _ idle
  | other task_eq idle => exact hidle _ idle
  | @moved s' task target task_eq target_eq transits =>
    have hstates := transits.states_eq task_eq target_eq
    refine ⟨?_, fun id => ?_⟩
    · dsimp only
      rw [transits.history_eq]
      exact h.sized.append _ _
    · dsimp only
      rw [transits.history_eq, hstates, TransitionHistory.get_append h.sized]
      by_cases hid : id = task.taskId
      · -- the record of the transition goes behind those of its task
        rw [hid, if_pos rfl, Function.update_self]
        have happended : Remembered (s.history.get task.taskId ++ [stamp event sequence target])
            (some target) s'.lastSequence :=
          (h.remembered task.taskId).append transits.allowed transits.mark_le transits.mark_new
        exact happended.rtake s.history.limit_pos
      · rw [if_neg hid, Function.update_of_ne hid]
        exact (h.remembered id).mono transits.mark_le

/-- Every run leaves a store that remembers its tasks. -/
theorem remembers_applyAll (maxDepth : Nat) (window limit : ℕ+) (calls : List ApplyCall) :
    ((sized maxDepth window limit).applyAll calls).2.1.Remembers := by
  refine exec_invariant ?_ (remembers_sized maxDepth window limit) (exec_step _ _)
  intro s call s' h hstep
  rw [← Option.some.inj hstep]
  exact h.apply call.now call.event call.sequence

/-- A terminal state is never left. -/
theorem states_applyAll_of_isTerminal (s : RuntimeStateStore) (calls : List ApplyCall)
    {id : String} {state : TaskState} (hstate : s.states id = some state)
    (hterminal : isTerminal state = true) : (s.applyAll calls).2.1.states id = some state := by
  refine exec_invariant (I := fun s => s.states id = some state) ?_ hstate
    (exec_step s calls)
  intro s call s' h hstep
  rw [← Option.some.inj hstep]
  by_cases hadmits : s.policy.evaluate call.sequence call.event.eventId = .apply
  · rw [states_apply hadmits]
    exact TaskStates.after_of_isTerminal h hterminal call.event.body
  · rw [states_apply_of_refused hadmits]
    exact h

/-- Over every run, the records retained for a task are the end of a path of the
    lifecycle table from `created` to its state, with increasing sequences; a
    terminal state stays; and a call that does not apply changes neither the states
    nor the history nor the mark. -/
theorem lifecycle_history (maxDepth : Nat) (window limit : ℕ+) (calls : List ApplyCall) :
    let s := ((sized maxDepth window limit).applyAll calls).2.1
    (∀ id state, s.states id = some state → LifecycleRecord (s.history.get id) state) ∧
      (∀ later id state, s.states id = some state → isTerminal state = true →
        (s.applyAll later).2.1.states id = some state) ∧
      ∀ now event sequence, (s.apply now event sequence).1 ≠ .apply →
        (s.apply now event sequence).2.1.states = s.states ∧
          (s.apply now event sequence).2.1.history = s.history ∧
          (s.apply now event sequence).2.1.lastSequence = s.lastSequence := by
  intro s
  refine ⟨fun id state hstate => ?_, fun later id state hstate hterminal =>
    states_applyAll_of_isTerminal s later hstate hterminal, fun now event sequence hne => ?_⟩
  · have hremembers := remembers_applyAll maxDepth window limit calls
    exact (hremembers.remembered id).tracked state hstate
  · have hcommits := apply_commits s now event sequence
    generalize s.apply now event sequence = r at hcommits hne ⊢
    cases hcommits with
    | refused decision_ne registry_eq history_eq policy_eq =>
      exact ⟨by unfold states; rw [registry_eq], history_eq, by unfold lastSequence; rw [policy_eq]⟩
    | admitted => exact absurd rfl hne

end RuntimeStateStore

end AsyncViz.Runtime.State
