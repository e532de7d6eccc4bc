/-
  AsyncViz.Runtime.Replay.StateReplay

  `replay_into_state_store` (`runtime/replay/reconstruction.py`) and
  `EventReplayBuffer.replay_into_state`: the frames of the log applied to a store that
  is reset first.

  Only applied events become frames, and a refused event leaves registry, history and
  policy as they were (`apply_commits`), so the replay meets at each frame the store
  that the live path had when it applied the event (`SameStore`).  The clocks of the
  two paths differ; they reach the stamps of the records only.
-/

import AsyncViz.Runtime.Replay.Completeness
import AsyncViz.Runtime.State.Lifecycle
import AsyncViz.Runtime.Tasks.Retiming

namespace AsyncViz.Runtime.Replay

open AsyncViz.Lib AsyncViz.Runtime.State AsyncViz.Runtime.Tasks

/-! ## Replay -/

/-- The `apply` calls of a replay; call `i` reads `clock i`. -/
def replayCalls (clock : Nat → ℚ) (typed : List (RuntimeEvent × Int)) : List ApplyCall :=
  typed.mapIdx fun i entry => ⟨entry.1, some entry.2, clock i⟩

/-- `replay_into_state_store(frames, store)`: the payloads are read before the store is
    reset, and a payload that `from_dict` cannot read raises. -/
def replayIntoStateStore (fromDict : Json → Option RuntimeEvent) (clock : Nat → ℚ)
    (frames : List ReplayFrame) (store : RuntimeStateStore) :
    Option (Nat × RuntimeStateStore × List StateChange) :=
  (frames.mapM fun frame => (fromDict frame.payload).map fun event => (event, frame.sequence)).map
    fun typed => store.rebuild (replayCalls clock typed)

/-- `buffer.replay_into_state(store, since_sequence)`. -/
def EventReplayBuffer.replayIntoState (b : EventReplayBuffer) (fromDict : Json → Option RuntimeEvent)
    (clock : Nat → ℚ) (store : RuntimeStateStore) (since : Int := 0) :
    Option (Nat × RuntimeStateStore × List StateChange) :=
  replayIntoStateStore fromDict clock (b.retention.since since) store

/-! ## Two stores after the same applied events -/

/-- The stores hold the same tasks, histories and reconciliation state. -/
structure SameStore (s s' : RuntimeStateStore) : Prop where
  registry : s.registry.SameTasks s'.registry
  history_eq : s'.history = s.history
  policy_eq : s'.policy = s.policy

namespace SameStore

variable {s s' : RuntimeStateStore}

theorem states_eq (h : SameStore s s') : s'.states = s.states :=
  funext h.registry.stateOf_eq

/-- A refused event is as if it had not been received. -/
theorem refused (h : SameStore s s') {now : ℚ} {event : RuntimeEvent} {sequence : Option Int}
    (hrefused : (s.apply now event sequence).1 ≠ .apply) :
    SameStore (s.apply now event sequence).2.1 s' := by
  have hcommits := s.apply_commits now event sequence
  generalize s.apply now event sequence = out at hcommits hrefused ⊢
  cases hcommits with
  | refused _ registry_eq history_eq policy_eq =>
    exact ⟨registry_eq ▸ h.registry, h.history_eq.trans history_eq.symm,
      h.policy_eq.trans policy_eq.symm⟩
  | admitted => exact absurd rfl hrefused

/-- An event that one store applies is applied by the other, with the same effect. -/
theorem applied (h : SameStore s s') {now : ℚ} (now' : ℚ) {event : RuntimeEvent}
    {sequence : Option Int} (happlied : (s.apply now event sequence).1 = .apply) :
    (s'.apply now' event sequence).1 = .apply ∧
      SameStore (s.apply now event sequence).2.1 (s'.apply now' event sequence).2.1 := by
  have happlied' : (s'.apply now' event sequence).1 = .apply := by
    rw [RuntimeStateStore.apply_eq_apply_iff] at happlied ⊢
    rw [h.policy_eq, h.states_eq]
    exact happlied
  refine ⟨happlied', ?_⟩
  have hcommits := s.apply_commits now event sequence
  have hcommits' := s'.apply_commits now' event sequence
  generalize s.apply now event sequence = out at hcommits happlied ⊢
  generalize s'.apply now' event sequence = out' at hcommits' happlied' ⊢
  cases hcommits with
  | refused decision_ne => exact absurd happlied decision_ne
  | admitted _ _ registry_eq history_eq policy_eq =>
    cases hcommits' with
    | refused decision_ne => exact absurd happlied' decision_ne
    | admitted _ _ registry_eq' history_eq' policy_eq' =>
      refine ⟨?_, ?_, ?_⟩
      · rw [registry_eq, registry_eq']
        exact h.registry.handleEvent now now' event
      · rw [history_eq, history_eq', h.history_eq]
      · rw [policy_eq, policy_eq', h.policy_eq]

/-- Replaying the applied calls of a run, at any clock, ends in the same store. -/
theorem run (h : SameStore s s') (calls replayed : List ApplyCall)
    (hreplayed : replayed.map (fun call => (call.event, call.sequence))
      = (s.appliedCalls calls).map fun call => (call.event, call.sequence)) :
    SameStore (s.applyAll calls).2.1 (s'.applyAll replayed).2.1 := by
  induction calls generalizing s s' replayed with
  | nil =>
    obtain rfl := List.map_eq_nil_iff.mp hreplayed
    exact h
  | cons call calls ih =>
    rw [RuntimeStateStore.appliedCalls] at hreplayed
    dsimp only at hreplayed
    split at hreplayed
    · next happlied =>
      -- the replay applies its first call here
      obtain ⟨first, rest, rfl, hfirst, hrest⟩ := List.map_eq_cons_iff.mp hreplayed
      obtain ⟨hevent, hsequence⟩ := Prod.mk.inj hfirst
      have hstep := (h.applied first.now happlied).2
      rw [← hevent, ← hsequence] at hstep hrest
      have htail := ih hstep rest hrest
      show SameStore (RuntimeStateStore.applyAll _ calls).2.1
        (RuntimeStateStore.applyAll _ rest).2.1
      rw [← hevent, ← hsequence]
      exact htail
    · next hrefused => exact ih (h.refused hrefused) replayed hreplayed

end SameStore

/-! ## The log of a run -/

namespace BoundStore

/-- A run of `apply` calls moves the store of a bound pair as it moves the store alone. -/
theorem store_run (b : BoundStore) (calls : List ApplyCall) :
    (b.run (calls.map .apply)).store = (b.store.applyAll calls).2.1 := by
  induction calls generalizing b with
  | nil => rfl
  | cons call calls ih => exact ih (b.next (.apply call))

/-- What a run of `apply` calls hands to the ring. -/
theorem retention_run (b : BoundStore) (calls : List ApplyCall) :
    (b.run (calls.map .apply)).buffer.retention =
      b.buffer.retention.appendAll (appliedFrames b.store calls) := by
  induction calls generalizing b with
  | nil => rfl
  | cons call calls ih =>
    rw [appliedFrames_cons, FrameRetention.appendAll, List.foldl_append]
    have hnext := next_retention b (.apply call)
    rw [FrameRetention.appendAll] at hnext
    rw [← hnext]
    exact ih (b.next (.apply call))

/-- A store that started at mark 0 applies positive sequences only. -/
theorem appliedFrames_pos {store : RuntimeStateStore} (hmark : store.lastSequence = 0)
    (calls : List ApplyCall) : ∀ f ∈ appliedFrames store calls, 0 < f.sequence := by
  intro f hf
  rw [appliedFrames, (RuntimeStateStore.applyAll_admitted store calls).1] at hf
  have hmem : f.sequence ∈ (RuntimeStateStore.admitted store.policy store.states calls).filterMap
      ApplyCall.sequence :=
    (filterMap_callFrame_sequences _).subset (List.mem_map_of_mem hf)
  have habove := (RuntimeStateStore.admitted_sequences store.policy store.states calls).2 _ hmem
  rwa [show store.policy.lastSequence = 0 from hmark] at habove

end BoundStore

/-- The applied calls are among the calls. -/
theorem appliedCalls_sublist (s : RuntimeStateStore) (calls : List ApplyCall) :
    (s.appliedCalls calls).Sublist calls := by
  induction calls generalizing s with
  | nil => exact List.Sublist.refl _
  | cons call calls ih =>
    rw [RuntimeStateStore.appliedCalls]
    dsimp only
    split
    · exact (ih _).cons_cons call
    · exact (ih _).cons call

/-- Frames of sequenced events read back as the calls that made them. -/
theorem mapM_frames {fromDict : Json → Option RuntimeEvent} {calls : List ApplyCall}
    (hsequenced : ∀ call ∈ calls, call.sequence.isSome)
    (hinverse : ∀ call ∈ calls, call.event.toDict.bind fromDict = some call.event) :
    ∃ typed, ((calls.filterMap callFrame).mapM fun frame : ReplayFrame =>
        (fromDict frame.payload).map fun event => (event, frame.sequence)) = some typed ∧
      typed.map (fun entry => (entry.1, some entry.2))
        = calls.map fun call => (call.event, call.sequence) := by
  induction calls with
  | nil => exact ⟨[], rfl, rfl⟩
  | cons call calls ih =>
    obtain ⟨typed, hread, htyped⟩ := ih (fun c hc => hsequenced c (List.mem_cons_of_mem call hc))
      fun c hc => hinverse c (List.mem_cons_of_mem call hc)
    obtain ⟨n, hn⟩ := Option.isSome_iff_exists.mp (hsequenced call List.mem_cons_self)
    obtain ⟨payload, hpayload, hevent⟩ :=
      Option.bind_eq_some_iff.mp (hinverse call List.mem_cons_self)
    have hframe : callFrame call = some (frameOf call.event n payload) := by
      rw [callFrame, hn, Option.bind_some, frameFromEvent, hpayload]
      rfl
    refine ⟨(call.event, n) :: typed, ?_, ?_⟩
    · have hread' : fromDict (frameOf call.event n payload).payload = some call.event := hevent
      rw [List.filterMap_cons_some hframe, List.mapM_cons, hread, hread']
      rfl
    · rw [List.map_cons, List.map_cons, htyped, hn]

theorem map_replayCalls (clock : Nat → ℚ) (typed : List (RuntimeEvent × Int)) :
    (replayCalls clock typed).map (fun call => (call.event, call.sequence))
      = typed.map fun entry => (entry.1, some entry.2) := by
  refine List.ext_getElem? fun i => ?_
  rw [replayCalls, List.getElem?_map, List.getElem?_mapIdx, List.getElem?_map, Option.map_map]
  rfl

/-- **The log rebuilds the store**: after every run of `apply` calls under sequences, with a
    buffer bound from the start that has evicted nothing, replaying the buffer into a fresh
    store of the same sizes leaves, whatever its clock reads, the same tasks with the same
    state, parent, depth and root, the same histories and the same mark. -/
theorem replayIntoState_eq_live (maxDepth : Nat) (window limit : ℕ+)
    (capacity checkpointCapacity : ℕ+) (calls : List ApplyCall)
    (hsequenced : ∀ call ∈ calls, call.sequence.isSome)
    (fromDict : Json → Option RuntimeEvent)
    (hinverse : ∀ call ∈ calls, call.event.toDict.bind fromDict = some call.event)
    (hkept : (BoundStore.run ⟨.sized maxDepth window limit,
      .new capacity capacity.pos checkpointCapacity checkpointCapacity.pos⟩
      (calls.map .apply)).buffer.retention.evictedCount = 0)
    (clock : Nat → ℚ) :
    let live := BoundStore.run ⟨.sized maxDepth window limit,
      .new capacity capacity.pos checkpointCapacity checkpointCapacity.pos⟩ (calls.map .apply)
    ∃ applied store changes,
      live.buffer.replayIntoState fromDict clock (.sized maxDepth window limit)
        = some (applied, store, changes) ∧
      (∀ id, (store.registry.get id).map
          (fun task => (task.state, task.parentTaskId, task.depth, task.rootTaskId))
        = (live.store.registry.get id).map
          fun task => (task.state, task.parentTaskId, task.depth, task.rootTaskId)) ∧
      (∀ id, store.history.get id = live.store.history.get id) ∧
      store.lastSequence = live.store.lastSequence := by
  intro live
  have hframes : live.buffer.retention.items
      = BoundStore.appliedFrames (.sized maxDepth window limit) calls := by
    have hretention := BoundStore.retention_run ⟨.sized maxDepth window limit,
      .new capacity capacity.pos checkpointCapacity checkpointCapacity.pos⟩ calls
    rw [hretention] at hkept
    show (BoundStore.run _ _).buffer.retention.items = _
    rw [hretention, FrameRetention.appendAll_items_of_kept hkept]
    rfl
  have hsince : live.buffer.retention.since 0
      = (RuntimeStateStore.appliedCalls (.sized maxDepth window limit) calls).filterMap
          callFrame := by
    rw [FrameRetention.since, hframes]
    exact List.filter_eq_self.mpr fun f hf =>
      decide_eq_true (BoundStore.appliedFrames_pos rfl calls f hf)
  -- the payloads of the frames are those of applied calls
  have hsublist := appliedCalls_sublist (.sized maxDepth window limit) calls
  obtain ⟨typed, hread, htyped⟩ := mapM_frames
    (fun call hcall => hsequenced call (hsublist.subset hcall))
    (fun call hcall => hinverse call (hsublist.subset hcall))
  have hstart : SameStore (.sized maxDepth window limit)
      (RuntimeStateStore.resetForRebuild (.sized maxDepth window limit)) :=
    ⟨⟨rfl, fun _ => rfl⟩, rfl, rfl⟩
  have hsame := hstart.run calls (replayCalls clock typed)
    ((map_replayCalls clock typed).trans htyped)
  have hlive : live.store = (RuntimeStateStore.applyAll (.sized maxDepth window limit) calls).2.1 :=
    BoundStore.store_run _ calls
  rw [← hlive] at hsame
  let rebuilt := RuntimeStateStore.rebuild (.sized maxDepth window limit) (replayCalls clock typed)
  refine ⟨rebuilt.1, rebuilt.2.1, rebuilt.2.2, ?_, ?_, ?_, ?_⟩
  · rw [EventReplayBuffer.replayIntoState, replayIntoStateStore, hsince, hread]
    rfl
  · exact hsame.registry.read _ fun _ => rfl
  · exact fun id => congrArg (TransitionHistory.get · id) hsame.history_eq
  · exact congrArg ReconciliationPolicy.lastSequence hsame.policy_eq

/-- `from_dict` on a created or started event with no fields but its ids. -/
private def readLifecycleEvent : Json → Option RuntimeEvent
  | .obj fields =>
    match fields.lookup "event_id", fields.lookup "event_type", fields.lookup "task_id",
      fields.lookup "parent_task_id" with
    | some (.str eventId), some (.str eventType), some (.str taskId), some parent =>
      let parentTaskId := match parent with
        | .str parentTaskId => some parentTaskId
        | _ => none
      let task : TaskEventBase := { taskId := taskId, parentTaskId := parentTaskId }
      if eventType = "asyncio.task.created" then
        some { eventId := eventId, body := .taskCreated task }
      else some { eventId := eventId, body := .taskStarted task }
    | _, _, _, _ => none
  | _ => none

/-- A parent, its child and their starts, with a repeated, a stale and an illegal call in
    between. -/
private def lineageRun : List ApplyCall :=
  [⟨{ eventId := "e1", body := .taskCreated { taskId := "p" } }, some 1, 3⟩,
   ⟨{ eventId := "e2", body := .taskCreated { taskId := "c", parentTaskId := some "p" } }, some 4, 5⟩,
   ⟨{ eventId := "e1", body := .taskCreated { taskId := "p" } }, some 6, 6⟩,
   ⟨{ eventId := "e3", body := .taskStarted { taskId := "p" } }, some 2, 7⟩,
   ⟨{ eventId := "e4", body := .taskStarted { taskId := "q" } }, some 7, 7⟩,
   ⟨{ eventId := "e5", body := .taskStarted { taskId := "c", parentTaskId := some "p" } },
    some 9, 8⟩]

theorem replayIntoState_eq_live_lineage :
    let live := BoundStore.run ⟨.sized 64 4096 1024, .new 4096 (by decide) 16 (by decide)⟩
      (lineageRun.map .apply)
    ∃ applied store changes,
      live.buffer.replayIntoState readLifecycleEvent (fun _ => 0) (.sized 64 4096 1024)
        = some (applied, store, changes) ∧
      (∀ id, (store.registry.get id).map
          (fun task => (task.state, task.parentTaskId, task.depth, task.rootTaskId))
        = (live.store.registry.get id).map
          fun task => (task.state, task.parentTaskId, task.depth, task.rootTaskId)) ∧
      (∀ id, store.history.get id = live.store.history.get id) ∧
      store.lastSequence = live.store.lastSequence := by
  have hsequenced : ∀ call ∈ lineageRun, call.sequence.isSome := by decide
  have hinverse : ∀ call ∈ lineageRun,
      call.event.toDict.bind readLifecycleEvent = some call.event := by
    intro call hcall
    simp only [lineageRun, List.mem_cons, List.not_mem_nil, or_false] at hcall
    rcases hcall with rfl | rfl | rfl | rfl | rfl | rfl <;> rfl
  exact replayIntoState_eq_live 64 4096 1024 4096 16 lineageRun hsequenced readLifecycleEvent
    hinverse (by decide +kernel) fun _ => 0

end AsyncViz.Runtime.Replay
