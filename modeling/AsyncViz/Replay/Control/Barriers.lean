/-
  AsyncViz.Replay.Control.Barriers

  The barriers that `request_pause` returned: each is resolved at most once, and only at
  a position that meets its trigger; until then it is tracked as pending, and it is not
  left unresolved in `PAUSED` with its trigger met, nor in `STOPPED` or `FAILED`.

  `Filed` is what every call preserves: pending entries are filed under the ids of their
  requests, no pending barrier is resolved, and ids are never given twice.
  `keepsBarriers` names the calls that settle the right set.  The request queue is never
  drained, so a full queue cancels the oldest request; a finalised pause resolves every
  pending barrier; the end of a step burst and a strict stop resolve none.
  A run keeps the law exactly when all its calls do (`allStates_barrierSound_iff`).
-/

import AsyncViz.Replay.Control.Calls

namespace AsyncViz.Replay.Control

open AsyncViz.Lib AsyncViz.Lib.Transition

/-! ## Handles -/

/-- The request whose barrier a call returned. -/
def handleOf (config : ReplayPlaybackCoordinationConfig) : Call × Reply → Option PauseRequest
  | (.requestPause trigger targetSequence targetMonotonicNs reason now, .barrier barrier) =>
    some (ReplayPlaybackCoordinator.pauseRequest config barrier.requestId trigger targetSequence
      targetMonotonicNs reason now)
  | _ => none

/-- The requests whose barriers the callers hold. -/
def Session.handles (s : Session) : List PauseRequest :=
  s.calls.filterMap (handleOf s.coordinator.config)

/-- A caller holds the barrier of the request, and it is not resolved. -/
def Outstanding (handles : List PauseRequest) (table : PauseController) (request : PauseRequest) :
    Prop :=
  request ∈ handles ∧ ¬table.Resolved request.requestId

/-- The law of the pause barriers that callers hold. -/
structure BarrierSound (handles : List PauseRequest) (c : ReplayPlaybackCoordinator) : Prop where
  once : (c.pause.resolutions.map BarrierResolution.requestId).Nodup
  met : ∀ request ∈ handles, ∀ r ∈ c.pause.resolutions,
    r.requestId = request.requestId → request.met r.atSequence r.atMonotonicNs = true
  tracked : ∀ request, Outstanding handles c.pause request → request.requestId ∈ c.pause.pending
  paused : ∀ request, Outstanding handles c.pause request → c.phase = .paused →
    request.met c.state.snapshot.lastSequence c.state.snapshot.lastMonotonicNs = false
  running : ∀ request, Outstanding handles c.pause request →
    c.phase ≠ .stopped ∧ c.phase ≠ .failed

/-- The next request drops no request whose barrier is outstanding from the queue. -/
def KeepsQueued (handles : List PauseRequest) (c : ReplayPlaybackCoordinator) : Prop :=
  ∀ old, c.dispatch.pauseQueue.evictee = some old →
    ∀ request, Outstanding handles c.pause request → request.requestId ≠ old.requestId

/-- The call settles the barriers that are to be settled, and no others. -/
def KeepsBarriers (handles : List PauseRequest) (c : ReplayPlaybackCoordinator) : Call → Prop
  | .requestPause trigger targetSequence targetMonotonicNs reason now =>
    let request := c.nextPause trigger targetSequence targetMonotonicNs reason now
    KeepsQueued handles c ∧
    (c.phase = .stopped ∨ c.phase = .failed →
      c.config.strictTransitions = true ∧ request.trigger.deferred = false) ∧
    (c.phase = .paused → request.trigger.deferred = true →
      request.met c.state.snapshot.lastSequence c.state.snapshot.lastMonotonicNs = false)
  | .onFrameDispatched sequence monotonicNs _ =>
    if c.phase = .stepping ∧ c.pendingStepFrames = 0 then
      ∀ request, Outstanding handles c.pause request → request.met sequence monotonicNs = false
    else
      PauseController.triggered c sequence monotonicNs = true →
        Legal c.phase .paused ∨ c.config.strictTransitions = false →
          ∀ request, Outstanding handles c.pause request →
            request.met sequence monotonicNs = true
  | .updatePosition sequence monotonicNs =>
    c.phase = .paused →
      ∀ request, Outstanding handles c.pause request → request.met sequence monotonicNs = false
  | .markStopped _ _ =>
    ∀ request, Outstanding handles c.pause request →
      c.config.strictTransitions = false ∧
      request.met c.state.snapshot.lastSequence c.state.snapshot.lastMonotonicNs = true
  | _ => True

/-! ## The table -/

/-- What every call preserves: `pending` is filed by request id, its barriers are
    unresolved, and all ids are below the counter. -/
structure Filed (handles : List PauseRequest) (table : PauseController) (counter : Nat) :
    Prop where
  keyed : ∀ id entry, table.pending.get? id = some entry →
    entry.request.requestId = id ∧ entry.barrier.requestId = id
  unresolved : ∀ id, table.Resolved id → id ∉ table.pending
  once : (table.resolutions.map BarrierResolution.requestId).Nodup
  pending_le : ∀ id ∈ table.pending, id ≤ counter
  resolved_le : ∀ id, table.Resolved id → id ≤ counter
  handle_le : ∀ request ∈ handles, request.requestId ≤ counter
  requests : ∀ request ∈ handles, ∀ entry,
    table.pending.get? request.requestId = some entry → entry.request = request

/-- A prompt trigger is met everywhere. -/
theorem met_of_prompt {request : PauseRequest} (hprompt : request.trigger.deferred = false)
    (lastSequence lastMonotonicNs : Int) : request.met lastSequence lastMonotonicNs = true := by
  rw [PauseRequest.met]
  cases htrigger : request.trigger with
  | immediate | afterCurrentFrame => rfl
  | atSequence | atTimestamp =>
    rw [htrigger] at hprompt
    exact absurd hprompt.symm Bool.false_ne_true

section Table

variable {handles : List PauseRequest} {table : PauseController} {counter : Nat}

theorem filed_empty : Filed [] {} 0 where
  keyed := fun _ _ h => absurd h (Option.some_ne_none _).symm
  unresolved := fun _ ⟨_, hr, _⟩ => absurd hr List.not_mem_nil
  once := List.nodup_nil
  pending_le := fun _ h => absurd h (Dict.not_mem_empty _)
  resolved_le := fun _ ⟨_, hr, _⟩ => absurd hr List.not_mem_nil
  handle_le := fun _ h => absurd h List.not_mem_nil
  requests := fun _ h => absurd h List.not_mem_nil

theorem Filed.mono (h : Filed handles table counter) {counter' : Nat} (hle : counter ≤ counter') :
    Filed handles table counter' :=
  { h with
    pending_le := fun id hid => (h.pending_le id hid).trans hle
    resolved_le := fun id hid => (h.resolved_le id hid).trans hle
    handle_le := fun request hrequest => (h.handle_le request hrequest).trans hle }

theorem Filed.cancel (h : Filed handles table counter) (id : Nat) :
    Filed handles (table.cancel id) counter := by
  have hget : ∀ id' entry, (table.cancel id).pending.get? id' = some entry →
      table.pending.get? id' = some entry := by
    intro id' entry hentry
    rw [PendingTable.cancel, Dict.get?_pop] at hentry
    split at hentry
    · exact absurd hentry (Option.some_ne_none _).symm
    · exact hentry
  have hmem : ∀ id' ∈ (table.cancel id).pending, id' ∈ table.pending := fun id' hid' =>
    ((Dict.mem_pop_iff _ _ _).mp hid').2
  exact
    { keyed := fun id' entry hentry => h.keyed id' entry (hget id' entry hentry)
      unresolved := fun id' hid' hmem' => h.unresolved id' hid' (hmem id' hmem')
      once := h.once
      pending_le := fun id' hid' => h.pending_le id' (hmem id' hid')
      resolved_le := h.resolved_le
      handle_le := h.handle_le
      requests := fun request hrequest entry hentry =>
        h.requests request hrequest entry (hget _ _ hentry) }

/-- A request under a new id. -/
theorem Filed.enter (h : Filed handles table counter) {request : PauseRequest}
    (hid : request.requestId = counter + 1) (now : Int) :
    Filed handles (table.enter request.requestId request now) (counter + 1) := by
  have hne : ∀ id, id ≤ counter → id ≠ request.requestId := by
    intro id hle
    omega
  refine
    { keyed := ?_
      unresolved := ?_
      once := h.once
      pending_le := ?_
      resolved_le := fun id hid => (h.resolved_le id hid).trans (Nat.le_succ _)
      handle_le := fun other hother => (h.handle_le other hother).trans (Nat.le_succ _)
      requests := ?_ }
  · intro id entry hentry
    rw [PendingTable.enter, Dict.get?_set] at hentry
    split at hentry
    next heq =>
      rw [← Option.some.inj hentry, heq]
      exact ⟨rfl, rfl⟩
    next => exact h.keyed id entry hentry
  · intro id hresolved hmem
    rcases (Dict.mem_set_iff _ _ _ _).mp hmem with heq | hold
    · exact hne id (h.resolved_le id hresolved) heq
    · exact h.unresolved id hresolved hold
  · intro id hmem
    rcases (Dict.mem_set_iff _ _ _ _).mp hmem with heq | hold
    · exact heq.trans hid |>.le
    · exact (h.pending_le id hold).trans (Nat.le_succ _)
  · intro other hother entry hentry
    rw [PendingTable.enter, Dict.get?_set_of_ne _ _ (hne _ (h.handle_le other hother))] at hentry
    exact h.requests other hother entry hentry

/-- The caller gets the barrier of a request that has just been entered. -/
theorem Filed.hand (h : Filed handles table counter) {request : PauseRequest}
    (hle : request.requestId ≤ counter)
    (hentry : ∀ entry, table.pending.get? request.requestId = some entry →
      entry.request = request) :
    Filed (handles ++ [request]) table counter := by
  refine { h with handle_le := ?_, requests := ?_ }
  · intro other hother
    rcases List.mem_append.mp hother with hold | hnew
    · exact h.handle_le other hold
    · rwa [List.mem_singleton.mp hnew]
  · intro other hother
    rcases List.mem_append.mp hother with hold | hnew
    · exact h.requests other hold
    · rwa [List.mem_singleton.mp hnew]

theorem Filed.fire (h : Filed handles table counter) {barrier : Barrier}
    (hle : barrier.requestId ≤ counter) (hnew : barrier.requestId ∉ table.pending)
    (sequence monotonicNs now : Int) :
    Filed handles (table.fire sequence monotonicNs now barrier) counter := by
  refine
    { keyed := ?_
      unresolved := ?_
      once := PendingTable.nodup_fire h.once ..
      pending_le := ?_
      resolved_le := ?_
      handle_le := h.handle_le
      requests := ?_ }
  · rw [PendingTable.fire_pending]
    exact h.keyed
  · intro id hid
    rw [PendingTable.fire_pending]
    rcases PendingTable.resolved_fire_iff.mp hid with rfl | hold
    · exact hnew
    · exact h.unresolved id hold
  · rw [PendingTable.fire_pending]
    exact h.pending_le
  · intro id hid
    rcases PendingTable.resolved_fire_iff.mp hid with rfl | hold
    · exact hle
    · exact h.resolved_le id hold
  · rw [PendingTable.fire_pending]
    exact h.requests

theorem Filed.resolvePending (h : Filed handles table counter) (id : Nat)
    (snapshot : PlaybackPhaseSnapshot) (now : Int) :
    Filed handles (table.resolvePending id snapshot now) counter := by
  rw [PendingTable.resolvePending]
  split
  · exact h
  next entry hentry =>
    have hid := (h.keyed id entry hentry).2
    refine (h.cancel id).fire ?_ ?_ ..
    · rw [hid]
      exact h.pending_le id (Dict.mem_of_get?_eq_some hentry)
    · rw [hid]
      exact fun hmem => ((Dict.mem_pop_iff _ _ _).mp hmem).1 rfl

/-- The entries of the table are those of its ids. -/
theorem Filed.exists_entry (h : Filed handles table counter) {entry : Pending PauseRequest}
    (hentry : entry ∈ table.pending.values) :
    table.pending.get? entry.barrier.requestId = some entry := by
  obtain ⟨id, hid⟩ := Dict.mem_values_iff.mp hentry
  rwa [(h.keyed id entry hid).2]

theorem Filed.resolved_resolveAll_iff (h : Filed handles table counter)
    {sequence monotonicNs now : Int} {id : Nat} :
    (table.resolveAll sequence monotonicNs now).Resolved id ↔
      id ∈ table.pending ∨ table.Resolved id := by
  refine PendingTable.resolved_fireAll_iff.trans (or_congr ?_ Iff.rfl)
  constructor
  · rintro ⟨entry, hentry, rfl⟩
    exact Dict.mem_of_get?_eq_some (h.exists_entry hentry)
  · intro hmem
    obtain ⟨entry, hentry⟩ := Dict.mem_iff_exists_get?.mp hmem
    exact ⟨entry, Dict.mem_values_iff.mpr ⟨id, hentry⟩, (h.keyed id entry hentry).2.symm⟩

theorem Filed.resolveAll (h : Filed handles table counter) (sequence monotonicNs now : Int) :
    Filed handles (table.resolveAll sequence monotonicNs now) counter := by
  have hpending : (table.resolveAll sequence monotonicNs now).pending = .empty :=
    PendingTable.fireAll_pending ..
  refine
    { keyed := ?_
      unresolved := ?_
      once := ?_
      pending_le := ?_
      resolved_le := ?_
      handle_le := h.handle_le
      requests := ?_ }
  · rw [hpending]
    exact fun _ _ hentry => absurd hentry (Option.some_ne_none _).symm
  · rw [hpending]
    exact fun _ _ => Dict.not_mem_empty _
  · refine PendingTable.nodup_fireAll ?_ _
    exact h.once
  · rw [hpending]
    exact fun _ hid => absurd hid (Dict.not_mem_empty _)
  · intro id hid
    exact (h.resolved_resolveAll_iff.mp hid).elim (h.pending_le id) (h.resolved_le id)
  · rw [hpending]
    exact fun _ _ _ hentry => absurd hentry (Option.some_ne_none _).symm

end Table

/-! ## One call -/

section Calls

variable {handles : List PauseRequest} {c c' : ReplayPlaybackCoordinator} {a : Call} {reply : Reply}

theorem config_called (hcalled : Called c a c' reply) : c'.config = c.config := by
  cases hcalled <;> rfl

/-- The table after a request is entered; the evicted request is gone from it. -/
theorem mem_enterPause_iff {request : PauseRequest} {now : Int} {id : Nat} :
    id ∈ (c.enterPause request now).pause.pending ↔
      id = request.requestId ∨
        (id ∈ c.pause.pending ∧
          ∀ old, c.dispatch.pauseQueue.evictee = some old → id ≠ old.requestId) := by
  refine (Dict.mem_set_iff _ _ _ _).trans (or_congr_right ?_)
  cases c.dispatch.pauseQueue.evictee with
  | none => simp [PendingTable.cancelEvicted]
  | some old =>
    change id ∈ c.pause.pending.pop old.requestId ↔ _
    rw [Dict.mem_pop_iff, and_comm]
    simp

theorem filed_enterPause (h : Filed handles c.pause c.dispatch.requestCounter)
    {request : PauseRequest} (hid : request.requestId = c.dispatch.requestCounter + 1) (now : Int) :
    Filed handles (c.enterPause request now).pause (c.dispatch.requestCounter + 1) := by
  rw [ReplayPlaybackCoordinator.enterPause]
  cases c.dispatch.pauseQueue.evictee with
  | none => exact h.enter hid now
  | some old => exact (h.cancel old.requestId).enter hid now

/-- The entered request, in the hands of its caller. -/
theorem filed_hand_enterPause (h : Filed handles c.pause c.dispatch.requestCounter)
    {request : PauseRequest} (hid : request.requestId = c.dispatch.requestCounter + 1) (now : Int) :
    Filed (handles ++ [request]) (c.enterPause request now).pause
      (c.dispatch.requestCounter + 1) := by
  refine (filed_enterPause h hid now).hand hid.le fun entry hentry => ?_
  rw [ReplayPlaybackCoordinator.enterPause, PendingTable.enter, Dict.get?_set_self] at hentry
  rw [← Option.some.inj hentry]

theorem handleOf_requestPause {config : ReplayPlaybackCoordinationConfig}
    {trigger : Option PauseTrigger} {targetSequence targetMonotonicNs : Int} {reason : String}
    {now : Int} {request : PauseRequest} (hconfig : c.config = config)
    (hrequest : request = c.nextPause trigger targetSequence targetMonotonicNs reason now) :
    (handleOf config (.requestPause trigger targetSequence targetMonotonicNs reason now,
      .barrier (c.nextBarrier now))).toList = [request] := by
  rw [hrequest, ← hconfig]
  rfl

/-- Every call keeps the table filed. -/
theorem filed_called (h : Filed handles c.pause c.dispatch.requestCounter)
    (hcalled : Called c a c' reply) :
    Filed (handles ++ (handleOf c.config (a, reply)).toList) c'.pause
      c'.dispatch.requestCounter := by
  cases hcalled with
  | pauseDeferred request hrequest | pauseIgnored request hrequest
  | pausePausing request hrequest =>
    rw [handleOf_requestPause rfl hrequest]
    exact filed_hand_enterPause h (by rw [hrequest]; rfl) _
  | pauseResolved request hrequest =>
    rw [handleOf_requestPause rfl hrequest]
    exact (filed_hand_enterPause h (by rw [hrequest]; rfl) _).resolvePending ..
  | pauseRejected request hrequest =>
    rw [handleOf, Option.toList_none, List.append_nil]
    · exact filed_enterPause h (by rw [hrequest]; rfl) _
    · exact fun _ _ _ _ _ _ h => Reply.noConfusion (Prod.mk.inj h).2
  | framePaused | stopPaused =>
    simp only [handleOf, Option.toList_none, List.append_nil]
    exact h.resolveAll ..
  | resumePlaying | resumeResumed | resumeIgnored | resumeRejected | stepRejected | stepTaken =>
    simp only [handleOf, Option.toList_none, List.append_nil]
    exact h.mono (Nat.le_succ _)
  | _ =>
    simp only [handleOf, Option.toList_none, List.append_nil]
    exact h

/-- A call that leaves the table alone has to look at where the coordinator ends up. -/
theorem barrierSound_of_pause_eq_iff (h : BarrierSound handles c) (hpause : c'.pause = c.pause) :
    BarrierSound handles c' ↔ ∀ request, Outstanding handles c.pause request →
      (c'.phase = .paused → request.met c'.state.snapshot.lastSequence
        c'.state.snapshot.lastMonotonicNs = false) ∧ c'.phase ≠ .stopped ∧ c'.phase ≠ .failed := by
  constructor
  · intro h' request hout
    rw [← hpause] at hout
    exact ⟨h'.paused request hout, h'.running request hout⟩
  · intro hends
    refine ⟨?_, ?_, ?_, ?_, ?_⟩
    · rw [hpause]
      exact h.once
    · rw [hpause]
      exact h.met
    · rw [hpause]
      exact h.tracked
    · rw [hpause]
      exact fun request hout => (hends request hout).1
    · rw [hpause]
      exact fun request hout => (hends request hout).2

/-- Nothing is owed in a phase that is neither `PAUSED` nor the end. -/
theorem barrierSound_of_pause_eq (h : BarrierSound handles c) (hpause : c'.pause = c.pause)
    {nextPhase : PlaybackPhase} (hphase : c'.phase = nextPhase)
    (hnext : nextPhase ≠ .paused ∧ nextPhase ≠ .stopped ∧ nextPhase ≠ .failed) :
    BarrierSound handles c' := by
  refine (barrierSound_of_pause_eq_iff h hpause).mpr fun _ _ => ?_
  rw [hphase]
  exact ⟨fun hpaused => absurd hpaused hnext.1, hnext.2⟩

/-- Nothing new is owed where phase and position stay. -/
theorem barrierSound_of_state_eq (h : BarrierSound handles c) (hpause : c'.pause = c.pause)
    (hstate : c'.state = c.state) : BarrierSound handles c' := by
  refine (barrierSound_of_pause_eq_iff h hpause).mpr fun request hout => ?_
  rw [ReplayPlaybackCoordinator.phase, hstate]
  exact ⟨h.paused request hout, h.running request hout⟩

theorem enterPause_resolutions (request : PauseRequest) (now : Int) :
    (c.enterPause request now).pause.resolutions = c.pause.resolutions := by
  rw [ReplayPlaybackCoordinator.enterPause]
  cases c.dispatch.pauseQueue.evictee <;> rfl

/-- No barrier of a new id is resolved. -/
theorem not_resolved_next (hfiled : Filed handles c.pause c.dispatch.requestCounter) :
    ¬c.pause.Resolved (c.dispatch.requestCounter + 1) := fun hresolved =>
  absurd (hfiled.resolved_le _ hresolved) (Nat.not_succ_le_self _)

/-- A request is entered; `given` is what the caller gets of it. -/
theorem barrierSound_entered_iff (h : BarrierSound handles c)
    (hfiled : Filed handles c.pause c.dispatch.requestCounter) {request : PauseRequest} {now : Int}
    (hid : request.requestId = c.dispatch.requestCounter + 1) {given : Option PauseRequest}
    (hgiven : ∀ other ∈ given, other = request)
    (hpause : c'.pause = (c.enterPause request now).pause)
    (hsequence : c'.state.snapshot.lastSequence = c.state.snapshot.lastSequence)
    (hmonotonic : c'.state.snapshot.lastMonotonicNs = c.state.snapshot.lastMonotonicNs)
    (hphase : c'.phase = c.phase ∨ c'.phase = .pausing) :
    BarrierSound (handles ++ given.toList) c' ↔
      KeepsQueued handles c ∧ ∀ other ∈ given,
        (c'.phase = .paused → other.met c.state.snapshot.lastSequence
          c.state.snapshot.lastMonotonicNs = false) ∧ c'.phase ≠ .stopped ∧ c'.phase ≠ .failed := by
  have hresolutions : c'.pause.resolutions = c.pause.resolutions := by
    rw [hpause, enterPause_resolutions]
  have hresolved : ∀ id, c'.pause.Resolved id ↔ c.pause.Resolved id := by
    intro id
    rw [PendingTable.Resolved, hresolutions]
    rfl
  have hold : ∀ other ∈ handles, other.requestId ≠ request.requestId := by
    intro other hother
    have := hfiled.handle_le other hother
    omega
  -- outstanding are the old ones and the one that was given
  have hout : ∀ other, Outstanding (handles ++ given.toList) c'.pause other ↔
      Outstanding handles c.pause other ∨ other ∈ given := by
    intro other
    rw [Outstanding, Outstanding, List.mem_append, Option.mem_toList, hresolved, or_and_right]
    refine or_congr_right (and_iff_left_of_imp fun hother => ?_)
    rw [hgiven other hother, hid]
    exact not_resolved_next hfiled
  constructor
  · intro h'
    refine ⟨fun old hold' other hother hsame => ?_, fun other hother => ?_⟩
    · have htracked := h'.tracked other ((hout other).mpr (.inl hother))
      rw [hpause, mem_enterPause_iff] at htracked
      rcases htracked with hnew | ⟨-, hkept⟩
      · exact hold other hother.1 hnew
      · exact hkept old hold' hsame
    · have hother' := (hout other).mpr (.inr hother)
      have hpaused := h'.paused other hother'
      rw [hsequence, hmonotonic] at hpaused
      exact ⟨hpaused, h'.running other hother'⟩
  · rintro ⟨hkept, hends⟩
    refine ⟨?_, ?_, ?_, ?_, ?_⟩
    · rw [hresolutions]
      exact h.once
    · rw [hresolutions]
      intro other hother r hr hsame
      rcases List.mem_append.mp hother with hmem | hmem
      · exact h.met other hmem r hr hsame
      · rw [hgiven other (Option.mem_toList.mp hmem), hid] at hsame
        exact absurd ⟨r, hr, hsame⟩ (not_resolved_next hfiled)
    · intro other hother
      rw [hpause, mem_enterPause_iff]
      rcases (hout other).mp hother with hmem | hmem
      · exact .inr ⟨h.tracked other hmem, fun old hold' => hkept old hold' other hmem⟩
      · exact .inl (by rw [hgiven other hmem])
    · intro other hother hpaused
      rw [hsequence, hmonotonic]
      rcases (hout other).mp hother with hmem | hmem
      · refine h.paused other hmem (hphase.elim (fun hsame => hsame ▸ hpaused) fun hpausing => ?_)
        rw [hpaused] at hpausing
        exact absurd hpausing (by decide)
      · exact (hends other hmem).1 hpaused
    · intro other hother
      rcases (hout other).mp hother with hmem | hmem
      · rcases hphase with hsame | hpausing
        · rw [hsame]
          exact h.running other hmem
        · rw [hpausing]
          decide
      · exact (hends other hmem).2

/-- A finalised pause resolves every outstanding barrier at its position. -/
theorem barrierSound_settleAt_iff (h : BarrierSound handles c)
    (hfiled : Filed handles c.pause c.dispatch.requestCounter) (before : ReplayPlaybackCoordinator)
    (hbefore : before.pause = c.pause) (sequence monotonicNs now : Int) :
    BarrierSound handles (before.settleAt sequence monotonicNs now) ↔
      ∀ request, Outstanding handles c.pause request → request.met sequence monotonicNs = true := by
  have hpause : (before.settleAt sequence monotonicNs now).pause =
      c.pause.resolveAll sequence monotonicNs now := by
    rw [← hbefore]
    rfl
  have hall : ∀ request, Outstanding handles c.pause request →
      (c.pause.resolveAll sequence monotonicNs now).Resolved request.requestId := fun request hout =>
    hfiled.resolved_resolveAll_iff.mpr (.inl (h.tracked request hout))
  -- so nothing is outstanding afterwards
  have hnone : ∀ request, ¬Outstanding handles (c.pause.resolveAll sequence monotonicNs now)
      request := by
    rintro request ⟨hmem, hnot⟩
    by_cases hresolved : c.pause.Resolved request.requestId
    · exact hnot (hfiled.resolved_resolveAll_iff.mpr (.inr hresolved))
    · exact hnot (hall request ⟨hmem, hresolved⟩)
  constructor
  · intro h' request hout
    obtain ⟨r, hr, hid⟩ := hall request hout
    have hmet := h'.met request hout.1 r (hpause ▸ hr) hid
    rcases PendingTable.mem_fireAll hr with hold | ⟨-, hsequence, hmonotonic⟩
    · exact absurd ⟨r, hold, hid⟩ hout.2
    · rwa [hsequence, hmonotonic] at hmet
  · intro hmet
    refine ⟨?_, ?_, ?_, ?_, ?_⟩
    · rw [hpause]
      exact (hfiled.resolveAll ..).once
    · rw [hpause]
      intro request hrequest r hr hid
      rcases PendingTable.mem_fireAll hr with hold | ⟨⟨entry, hentry, hid'⟩, hsequence, hmonotonic⟩
      · exact h.met request hrequest r hold hid
      · -- the entry is pending, so its barrier was outstanding
        have hpending := Dict.mem_of_get?_eq_some (hfiled.exists_entry hentry)
        rw [← hid', hid] at hpending
        rw [hsequence, hmonotonic]
        exact hmet request ⟨hrequest, fun hresolved => hfiled.unresolved _ hresolved hpending⟩
    · rw [hpause]
      exact fun request hout => absurd hout (hnone request)
    · rw [hpause]
      exact fun request hout => absurd hout (hnone request)
    · rw [hpause]
      exact fun request hout => absurd hout (hnone request)

/-- A pause that finds the coordinator paused is entered and resolved at once. -/
theorem barrierSound_resolved_iff (h : BarrierSound handles c)
    (hfiled : Filed handles c.pause c.dispatch.requestCounter) {request : PauseRequest} (now : Int)
    (hid : request.requestId = c.dispatch.requestCounter + 1)
    (hprompt : request.trigger.deferred = false)
    (hpause : c'.pause =
      (c.enterPause request now).pause.resolvePending request.requestId c.state.snapshot now)
    (hstate : c'.state = c.state) :
    BarrierSound (handles ++ [request]) c' ↔ KeepsQueued handles c := by
  obtain ⟨barrier, hbarrier⟩ : ∃ barrier : Barrier,
    barrier = { requestId := request.requestId, requestedAtNs := now } := ⟨_, rfl⟩
  have hfire : c'.pause = ((c.enterPause request now).pause.cancel request.requestId).fire
      c.state.snapshot.lastSequence c.state.snapshot.lastMonotonicNs now barrier := by
    have hentry : (c.enterPause request now).pause.pending.get? request.requestId =
        some { request := request, barrier := barrier } := by
      rw [hbarrier]
      exact Dict.get?_set_self ..
    rw [hpause, PendingTable.resolvePending, hentry]
  have hkeeps : barrier.requestId = request.requestId := by rw [hbarrier]
  have hresolutions : ∀ r ∈ ((c.enterPause request now).pause.cancel request.requestId).resolutions,
      r ∈ c.pause.resolutions := fun r hr => enterPause_resolutions (c := c) request now ▸ hr
  have hresolved : ∀ id, c'.pause.Resolved id ↔ id = request.requestId ∨ c.pause.Resolved id := by
    intro id
    rw [hfire, PendingTable.resolved_fire_iff, hkeeps]
    refine or_congr_right ?_
    rw [PendingTable.Resolved, PendingTable.cancel, enterPause_resolutions]
    rfl
  have hold : ∀ other ∈ handles, other.requestId ≠ request.requestId := by
    intro other hother
    have := hfiled.handle_le other hother
    omega
  -- what is outstanding stays so; the new barrier is not
  have hout : ∀ other, Outstanding (handles ++ [request]) c'.pause other ↔
      Outstanding handles c.pause other := by
    intro other
    rw [Outstanding, Outstanding, List.mem_append, List.mem_singleton, hresolved, not_or]
    constructor
    · rintro ⟨hmem | rfl, hne, hnot⟩
      · exact ⟨hmem, hnot⟩
      · exact absurd rfl hne
    · rintro ⟨hmem, hnot⟩
      exact ⟨.inl hmem, hold other hmem, hnot⟩
  have hpending : ∀ id, id ∈ c'.pause.pending ↔
      id ≠ request.requestId ∧ id ∈ (c.enterPause request now).pause.pending := by
    intro id
    rw [hfire, PendingTable.fire_pending]
    exact Dict.mem_pop_iff _ _ _
  constructor
  · intro h' old hold' other hother hsame
    have htracked := h'.tracked other ((hout other).mpr hother)
    rw [hpending, mem_enterPause_iff] at htracked
    rcases htracked.2 with hnew | ⟨-, hkept⟩
    · exact hold other hother.1 hnew
    · exact hkept old hold' hsame
  · intro hkept
    refine ⟨?_, ?_, ?_, ?_, ?_⟩
    · rw [hfire]
      refine PendingTable.nodup_fire ?_ ..
      rw [PendingTable.cancel, enterPause_resolutions]
      exact h.once
    · intro other hother r hr hsame
      rw [hfire] at hr
      rcases List.mem_append.mp hother with hmem | hmem
      · rcases PendingTable.mem_fire hr with hr' | ⟨hnew, -⟩
        · exact h.met other hmem r (hresolutions r hr') hsame
        · exact absurd (hsame.symm.trans (hnew.trans hkeeps)) (hold other hmem)
      · rw [List.mem_singleton.mp hmem]
        exact met_of_prompt hprompt ..
    · intro other hother
      have hother' := (hout other).mp hother
      rw [hpending, mem_enterPause_iff]
      exact ⟨hold other hother'.1,
        .inr ⟨h.tracked other hother', fun old hold' => hkept old hold' other hother'⟩⟩
    · intro other hother
      rw [ReplayPlaybackCoordinator.phase, hstate]
      exact h.paused other ((hout other).mp hother)
    · intro other hother
      rw [ReplayPlaybackCoordinator.phase, hstate]
      exact h.running other ((hout other).mp hother)

theorem keepsBarriers_requestPause_iff {trigger : Option PauseTrigger}
    {targetSequence targetMonotonicNs now : Int} {reason : String} {request : PauseRequest}
    (hrequest : request = c.nextPause trigger targetSequence targetMonotonicNs reason now) :
    KeepsBarriers handles c (.requestPause trigger targetSequence targetMonotonicNs reason now) ↔
      KeepsQueued handles c ∧
      (c.phase = .stopped ∨ c.phase = .failed →
        c.config.strictTransitions = true ∧ request.trigger.deferred = false) ∧
      (c.phase = .paused → request.trigger.deferred = true →
        request.met c.state.snapshot.lastSequence c.state.snapshot.lastMonotonicNs = false) := by
  rw [hrequest]
  rfl

/-- The request is entered, and its barrier handed out unresolved. -/
theorem barrierSound_handed_iff (h : BarrierSound handles c)
    (hfiled : Filed handles c.pause c.dispatch.requestCounter) {request : PauseRequest} {now : Int}
    (hid : request.requestId = c.dispatch.requestCounter + 1)
    (hpause : c'.pause = (c.enterPause request now).pause)
    (hsequence : c'.state.snapshot.lastSequence = c.state.snapshot.lastSequence)
    (hmonotonic : c'.state.snapshot.lastMonotonicNs = c.state.snapshot.lastMonotonicNs)
    (hphase : c'.phase = c.phase ∨ c'.phase = .pausing) :
    BarrierSound (handles ++ [request]) c' ↔
      KeepsQueued handles c ∧
        (c'.phase = .paused → request.met c.state.snapshot.lastSequence
          c.state.snapshot.lastMonotonicNs = false) ∧ c'.phase ≠ .stopped ∧ c'.phase ≠ .failed := by
  change BarrierSound (handles ++ (some request).toList) _ ↔ _
  rw [barrierSound_entered_iff h hfiled hid (fun _ hother => (Option.mem_some.mp hother).symm)
    hpause hsequence hmonotonic hphase]
  simp only [Option.mem_some, forall_eq']

/-- A pause request keeps the law exactly when it drops no barrier, and hands none out
    that is due already. -/
theorem barrierSound_requestPause_iff (h : BarrierSound handles c)
    (hfiled : Filed handles c.pause c.dispatch.requestCounter) {trigger : Option PauseTrigger}
    {targetSequence targetMonotonicNs now : Int} {reason : String}
    (hcalled :
      Called c (.requestPause trigger targetSequence targetMonotonicNs reason now) c' reply) :
    BarrierSound (handles ++ (handleOf c.config
        (.requestPause trigger targetSequence targetMonotonicNs reason now, reply)).toList) c' ↔
      KeepsBarriers handles c
        (.requestPause trigger targetSequence targetMonotonicNs reason now) := by
  cases hcalled with
  | pauseDeferred request hrequest hdeferred =>
    have hid : request.requestId = c.dispatch.requestCounter + 1 := by rw [hrequest]; rfl
    rw [handleOf_requestPause rfl hrequest, keepsBarriers_requestPause_iff hrequest, hdeferred]
    refine Iff.trans (barrierSound_handed_iff h hfiled hid rfl rfl rfl (.inl rfl))
      (and_congr_right fun _ => ?_)
    constructor
    · rintro ⟨hpaused, hstopped, hfailed⟩
      exact ⟨fun hphase => absurd hphase (not_or.mpr ⟨hstopped, hfailed⟩),
        fun hphase _ => hpaused hphase⟩
    · rintro ⟨hends, hpaused⟩
      refine ⟨fun hphase => hpaused hphase rfl, fun hphase => ?_, fun hphase => ?_⟩
      · exact Bool.false_ne_true (hends (.inl hphase)).2.symm
      · exact Bool.false_ne_true (hends (.inr hphase)).2.symm
  | pauseIgnored request hrequest hprompt hillegal hphase hstrict =>
    have hid : request.requestId = c.dispatch.requestCounter + 1 := by rw [hrequest]; rfl
    rw [handleOf_requestPause rfl hrequest, keepsBarriers_requestPause_iff hrequest, hstrict]
    refine Iff.trans (barrierSound_handed_iff h hfiled hid rfl rfl rfl (.inl rfl))
      (and_congr_right fun _ => ?_)
    constructor
    · rintro ⟨-, hstopped, hfailed⟩
      exact ⟨fun hends => absurd hends (not_or.mpr ⟨hstopped, hfailed⟩),
        fun hpaused => absurd hpaused hphase⟩
    · rintro ⟨hends, -⟩
      refine ⟨fun hpaused => absurd hpaused hphase, fun hstopped => ?_, fun hfailed => ?_⟩
      · exact Bool.false_ne_true (hends (.inl hstopped)).1
      · exact Bool.false_ne_true (hends (.inr hfailed)).1
  | pausePausing request hrequest hprompt hphase hlegal =>
    have hid : request.requestId = c.dispatch.requestCounter + 1 := by rw [hrequest]; rfl
    rw [handleOf_requestPause rfl hrequest, keepsBarriers_requestPause_iff hrequest]
    have hends : ¬(c.phase = .stopped ∨ c.phase = .failed) := by
      rintro (hstopped | hfailed)
      · rw [hstopped] at hlegal
        exact absurd hlegal (by decide)
      · rw [hfailed] at hlegal
        exact absurd hlegal (by decide)
    refine Iff.trans (barrierSound_handed_iff h hfiled hid rfl ?_ ?_ (.inr ?_))
      (and_congr_right fun _ => iff_of_true ⟨?_, ?_, ?_⟩ ⟨fun h => absurd h hends,
        fun hpaused => absurd hpaused hphase⟩)
    all_goals
      simp [ReplayPlaybackCoordinator.phase]
  | pauseResolved request hrequest hprompt hphase =>
    have hid : request.requestId = c.dispatch.requestCounter + 1 := by rw [hrequest]; rfl
    rw [handleOf_requestPause rfl hrequest, keepsBarriers_requestPause_iff hrequest, hphase, hprompt]
    refine Iff.trans (barrierSound_resolved_iff h hfiled now hid hprompt ?_ ?_) ?_
    · rfl
    · rfl
    · refine (and_iff_left ⟨fun hends => ?_, fun _ hdeferred => ?_⟩).symm
      · exact absurd hends (by decide)
      · exact absurd hdeferred Bool.false_ne_true
  | pauseRejected request hrequest hprompt hillegal hphase hstrict =>
    have hid : request.requestId = c.dispatch.requestCounter + 1 := by rw [hrequest]; rfl
    rw [keepsBarriers_requestPause_iff hrequest]
    change BarrierSound (handles ++ (none : Option PauseRequest).toList) _ ↔ _
    refine Iff.trans (barrierSound_entered_iff h hfiled hid ?_ rfl rfl rfl (.inl rfl))
      (and_congr_right fun _ => iff_of_true ?_ ?_)
    · exact fun _ hother => absurd hother (Option.not_mem_none _)
    · exact fun _ hother => absurd hother (Option.not_mem_none _)
    · exact ⟨fun _ => ⟨hstrict, hprompt⟩, fun hpaused => absurd hpaused hphase⟩

/-- What is outstanding and met triggers the pause. -/
theorem triggered_of_outstanding (h : BarrierSound handles c)
    (hfiled : Filed handles c.pause c.dispatch.requestCounter) {request : PauseRequest}
    (hout : Outstanding handles c.pause request) {sequence monotonicNs : Int}
    (hmet : request.met sequence monotonicNs = true) :
    PauseController.triggered c sequence monotonicNs = true := by
  obtain ⟨entry, hentry⟩ := Dict.mem_iff_exists_get?.mp (h.tracked request hout)
  refine List.any_eq_true.mpr ⟨entry, Dict.mem_values_iff.mpr ⟨_, hentry⟩, ?_⟩
  rwa [hfiled.requests request hout.1 entry hentry]

theorem met_eq_false_of_untriggered (h : BarrierSound handles c)
    (hfiled : Filed handles c.pause c.dispatch.requestCounter) {request : PauseRequest}
    (hout : Outstanding handles c.pause request) {sequence monotonicNs : Int}
    (huntriggered : PauseController.triggered c sequence monotonicNs = false) :
    request.met sequence monotonicNs = false := by
  refine Bool.eq_false_iff.mpr fun hmet => ?_
  rw [triggered_of_outstanding h hfiled hout hmet] at huntriggered
  exact Bool.false_ne_true huntriggered.symm

/-- The position is told, and nothing is resolved. -/
theorem barrierSound_updatePosition_iff (h : BarrierSound handles c) (sequence monotonicNs : Int) :
    BarrierSound handles (c.updatePosition sequence monotonicNs) ↔
      (c.phase = .paused →
        ∀ request, Outstanding handles c.pause request → request.met sequence monotonicNs = false) := by
  have hpause : (c.updatePosition sequence monotonicNs).pause = c.pause := rfl
  rw [barrierSound_of_pause_eq_iff h hpause, updatePosition_phase]
  have hsnapshot : (c.updatePosition sequence monotonicNs).state.snapshot =
      { c.state.snapshot with lastSequence := sequence, lastMonotonicNs := monotonicNs } :=
    ReplayPlaybackStateHolder.updatePosition_snapshot ..
  rw [hsnapshot]
  constructor
  · intro hends hphase request hout
    exact (hends request hout).1 hphase
  · intro hpaused request hout
    exact ⟨fun hphase => hpaused hphase request hout, h.running request hout⟩

/-- A frame keeps the law exactly when the pause it brings resolves what is due. -/
theorem barrierSound_onFrameDispatched_iff (h : BarrierSound handles c)
    (hfiled : Filed handles c.pause c.dispatch.requestCounter) {sequence monotonicNs now : Int}
    (hcalled : Called c (.onFrameDispatched sequence monotonicNs now) c' reply) :
    BarrierSound handles c' ↔
      KeepsBarriers handles c (.onFrameDispatched sequence monotonicNs now) := by
  rw [KeepsBarriers]
  cases hcalled with
  | stepCompleted hphase hsteps =>
    rw [if_pos ⟨hphase, hsteps⟩]
    refine Iff.trans (barrierSound_of_pause_eq_iff h rfl) (forall₂_congr fun request _ => ?_)
    rw [finalizeToPaused_phase, ReplayPlaybackCoordinator.finalizeToPaused,
      ReplayPlaybackStateHolder.transitionTo_snapshot]
    exact ⟨fun hends => hends.1 rfl, fun hmet => ⟨fun _ => hmet, by decide, by decide⟩⟩
  | frameUntriggered hsteps huntriggered =>
    rw [if_neg (not_and.mpr hsteps), barrierSound_updatePosition_iff h]
    refine iff_of_true (fun _ request hout => ?_) fun htriggered => ?_
    · exact met_eq_false_of_untriggered h hfiled hout huntriggered
    · rw [huntriggered] at htriggered
      exact absurd htriggered Bool.false_ne_true
  | framePaused hsteps htriggered hallowed =>
    rw [if_neg (not_and.mpr hsteps), barrierSound_settleAt_iff h hfiled
      (c.updatePosition sequence monotonicNs) rfl]
    exact ⟨fun hmet _ _ => hmet, fun hkeeps => hkeeps htriggered hallowed⟩
  | frameRejected hsteps htriggered hillegal hstrict =>
    rw [if_neg (not_and.mpr hsteps), barrierSound_updatePosition_iff h]
    refine iff_of_true (fun hphase => ?_) fun _ hallowed => ?_
    · rw [hphase] at hillegal
      exact absurd (by decide) hillegal
    · rcases hallowed with hlegal | hlax
      · exact absurd hlegal hillegal
      · rw [hstrict] at hlax
        exact absurd hlax.symm Bool.false_ne_true

/-- A stop keeps the law exactly when it finds nothing outstanding, or finalises a pause
    that everything outstanding is due for. -/
theorem barrierSound_markStopped_iff (h : BarrierSound handles c)
    (hfiled : Filed handles c.pause c.dispatch.requestCounter) {errorDetail : String} {now : Int}
    (hcalled : Called c (.markStopped errorDetail now) c' reply) :
    BarrierSound handles c' ↔ KeepsBarriers handles c (.markStopped errorDetail now) := by
  rw [KeepsBarriers]
  cases hcalled with
  | stopped hquiet =>
    refine Iff.trans (barrierSound_of_pause_eq_iff h rfl)
      (forall₂_congr fun request hout => iff_of_false ?_ ?_)
    · rintro ⟨-, hstopped, hfailed⟩
      rw [halt_phase, ReplayPlaybackCoordinator.stopTarget] at hstopped hfailed
      split at hstopped
      · exact hfailed (if_pos ‹_›)
      · exact hstopped rfl
    · rintro ⟨hlax, hmet⟩
      rcases hquiet with huntriggered | hstrict
      · rw [triggered_of_outstanding h hfiled hout hmet] at huntriggered
        exact Bool.false_ne_true huntriggered.symm
      · rw [hstrict] at hlax
        exact Bool.false_ne_true hlax.symm
  | stopPaused htriggered hstrict =>
    rw [barrierSound_settleAt_iff h hfiled (c.halt errorDetail) rfl]
    exact forall₂_congr fun request _ => (and_iff_right hstrict).symm

/-- A call that returns no barrier adds no handle. -/
theorem barrierSound_other_iff (hother : handleOf c.config (a, reply) = none)
    (hkeeps : BarrierSound handles c' ↔ KeepsBarriers handles c a) :
    BarrierSound (handles ++ (handleOf c.config (a, reply)).toList) c' ↔
      KeepsBarriers handles c a := by
  rw [hother, Option.toList_none, List.append_nil]
  exact hkeeps

/-- A call keeps the law exactly when it settles the right barriers. -/
theorem barrierSound_called_iff (h : BarrierSound handles c)
    (hfiled : Filed handles c.pause c.dispatch.requestCounter) (hcalled : Called c a c' reply) :
    BarrierSound (handles ++ (handleOf c.config (a, reply)).toList) c' ↔
      KeepsBarriers handles c a := by
  cases a with
  | requestPause trigger targetSequence targetMonotonicNs reason now =>
    exact barrierSound_requestPause_iff h hfiled hcalled
  | requestResume reason now =>
    refine barrierSound_other_iff rfl (iff_of_true ?_ trivial)
    cases hcalled with
    | resumeResumed hphase hlegal playing hplaying =>
      have hplaying : playing.phase = .playing := by rw [hplaying]
      exact barrierSound_of_pause_eq h rfl (phase_of_transitionTo rfl hplaying) (by decide)
    | _ => exact barrierSound_of_state_eq h rfl rfl
  | requestStep frames reason now =>
    refine barrierSound_other_iff rfl (iff_of_true ?_ trivial)
    cases hcalled with
    | stepRejected => exact barrierSound_of_state_eq h rfl rfl
    | stepTaken hframes state hstate =>
      by_cases hphase : c.phase = .paused
      · rw [if_pos hphase] at hstate
        have hnext : PlaybackPhase.stepping ≠ .paused ∧ PlaybackPhase.stepping ≠ .stopped ∧
          PlaybackPhase.stepping ≠ .failed := by decide
        exact barrierSound_of_pause_eq h rfl (phase_of_transitionTo hstate rfl) hnext
      · rw [if_neg hphase] at hstate
        exact barrierSound_of_state_eq h rfl hstate
  | consumeStep =>
    refine barrierSound_other_iff rfl (iff_of_true ?_ trivial)
    cases hcalled with
    | consumed => exact barrierSound_of_state_eq h rfl rfl
  | onFrameDispatched sequence monotonicNs now =>
    exact barrierSound_other_iff rfl (barrierSound_onFrameDispatched_iff h hfiled hcalled)
  | updatePosition sequence monotonicNs =>
    refine barrierSound_other_iff rfl ?_
    cases hcalled with
    | positioned => exact barrierSound_updatePosition_iff h sequence monotonicNs
  | markStarted =>
    refine barrierSound_other_iff rfl (iff_of_true ?_ trivial)
    cases hcalled with
    | started hphase =>
      have hnext : PlaybackPhase.playing ≠ .paused ∧ PlaybackPhase.playing ≠ .stopped ∧
        PlaybackPhase.playing ≠ .failed := by decide
      exact barrierSound_of_pause_eq h rfl (phase_of_transitionTo rfl rfl) hnext
    | startIgnored => exact h
  | markStopped errorDetail now =>
    exact barrierSound_other_iff rfl (barrierSound_markStopped_iff h hfiled hcalled)

end Calls

/-! ## Runs -/

section Runs

variable {config : ReplayPlaybackCoordinationConfig} {clock : ReplayClock}
  {scheduler : ReplayScheduler} {s : Session}

theorem handles_next (s : Session) (a : Call) :
    (s.next a).handles =
      s.handles ++ (handleOf s.coordinator.config (a, (call s.coordinator a).2)).toList := by
  rw [Session.handles, Session.next_calls, Session.next_coordinator,
    config_called (called_call s.coordinator a), List.filterMap_append]
  refine congrArg (s.handles ++ ·) ?_
  rw [List.filterMap_cons]
  cases handleOf s.coordinator.config (a, (call s.coordinator a).2) <;> rfl

theorem filed_next (h : Filed s.handles s.coordinator.pause s.coordinator.dispatch.requestCounter)
    (a : Call) :
    Filed (s.next a).handles (s.next a).coordinator.pause
      (s.next a).coordinator.dispatch.requestCounter := by
  rw [handles_next]
  exact filed_called h (called_call s.coordinator a)

theorem barrierSound_next_iff (h : BarrierSound s.handles s.coordinator)
    (hfiled : Filed s.handles s.coordinator.pause s.coordinator.dispatch.requestCounter)
    (a : Call) :
    BarrierSound (s.next a).handles (s.next a).coordinator ↔
      KeepsBarriers s.handles s.coordinator a := by
  rw [handles_next]
  exact barrierSound_called_iff h hfiled (called_call s.coordinator a)

theorem barrierSound_start :
    BarrierSound (Session.start config clock scheduler).handles
      (Session.start config clock scheduler).coordinator where
  once := List.nodup_nil
  met := fun _ hrequest => absurd hrequest List.not_mem_nil
  tracked := fun _ hout => absurd hout.1 List.not_mem_nil
  paused := fun _ hout => absurd hout.1 List.not_mem_nil
  running := fun _ hout => absurd hout.1 List.not_mem_nil

/-- The callers' barriers are settled as they should be throughout a run exactly when
    each of its calls settles the right ones. -/
theorem allStates_barrierSound_iff (calls : List Call) :
    AllStates Session.step (fun s => BarrierSound s.handles s.coordinator)
        (Session.start config clock scheduler) calls ↔
      AllSteps Session.step (fun s a => KeepsBarriers s.handles s.coordinator a)
        (Session.start config clock scheduler) calls := by
  obtain ⟨s', hrun⟩ := exec_isSome Session.step_isSome (Session.start config clock scheduler) calls
  refine allStates_iff_allSteps
    (J := fun s => Filed s.handles s.coordinator.pause s.coordinator.dispatch.requestCounter)
    ?_ ?_ filed_empty barrierSound_start hrun
  · intro s a s' hfiled hstep
    rw [Session.eq_next_of_step hstep]
    exact filed_next hfiled a
  · intro s a s' hfiled hsound hstep
    rw [Session.eq_next_of_step hstep]
    exact barrierSound_next_iff hsound hfiled a

end Runs

/-- Two deferred pauses; the first frame that is far enough for one resolves both. -/
theorem not_barrierSound_two_targets :
    ¬AllStates Session.step (fun s => BarrierSound s.handles s.coordinator)
      (Session.start {} { wallAnchorNs := 0 } {})
      [.markStarted, .requestPause (some .atSequence) 5 0 "" 1,
        .requestPause (some .atSequence) 100 0 "" 2, .onFrameDispatched 5 50 3] := by
  intro hall
  have hsound := (((hall.2 _ rfl).2 _ rfl).2 _ rfl).2 _ rfl
  have hmet := hsound.met _ (List.mem_cons_of_mem _ List.mem_cons_self) _
    (List.mem_cons_of_mem _ List.mem_cons_self) rfl
  exact absurd hmet (by decide)

end AsyncViz.Replay.Control
