/-
  AsyncViz.Replay.Control.Calls

  What a call on a `ReplayPlaybackCoordinator` can do.

  `Called` lists it, one constructor for each way through a method: the condition on the
  state before the call, the state after it and the reply.  `called_call` says that the
  list is complete; invariants of the coordinator are proved from it, without looking
  into the controllers again.
-/

import AsyncViz.Replay.Control.Coordinator

namespace AsyncViz.Replay.Control

open AsyncViz.Lib

namespace ReplayPlaybackCoordinator

/-- The pause request is entered in queue and table, before any phase is looked at. -/
def enterPause (c : ReplayPlaybackCoordinator) (request : PauseRequest) (now : Int) :
    ReplayPlaybackCoordinator :=
  { c with
    dispatch :=
      { c.dispatch with
        requestCounter := c.dispatch.requestCounter + 1
        pauseQueue := (c.dispatch.pauseQueue.offer request).1 }
    pause :=
      (c.pause.cancelEvicted PauseRequest.requestId c.dispatch.pauseQueue.evictee).enter
        request.requestId request now }

/-- The resume request is entered in queue and table. -/
def enterResume (c : ReplayPlaybackCoordinator) (request : ResumeRequest) (now : Int) :
    ReplayPlaybackCoordinator :=
  { c with
    dispatch :=
      { c.dispatch with
        requestCounter := c.dispatch.requestCounter + 1
        resumeQueue := (c.dispatch.resumeQueue.offer request).1 }
    resume :=
      (c.resume.cancelEvicted ResumeRequest.requestId c.dispatch.resumeQueue.evictee).enter
        request.requestId request now }

/-- The request that the next `request_pause` builds. -/
def nextPause (c : ReplayPlaybackCoordinator) (trigger : Option PauseTrigger)
    (targetSequence targetMonotonicNs : Int) (reason : String) (now : Int) : PauseRequest :=
  pauseRequest c.config (c.dispatch.requestCounter + 1) trigger targetSequence targetMonotonicNs
    reason now

/-- The request that the next `request_resume` builds. -/
def nextResume (c : ReplayPlaybackCoordinator) (reason : String) (now : Int) : ResumeRequest :=
  { requestId := c.dispatch.requestCounter + 1, reason := reason, requestedAtNs := now }

/-- The barrier that the next request is given. -/
def nextBarrier (c : ReplayPlaybackCoordinator) (now : Int) : Barrier :=
  { requestId := c.dispatch.requestCounter + 1, requestedAtNs := now }

/-- The coordinator stops, before the pending pauses are looked at. -/
def halt (c : ReplayPlaybackCoordinator) (errorDetail : String) : ReplayPlaybackCoordinator :=
  { c with
    state := c.state.transitionTo
      { c.state.snapshot with phase := stopTarget errorDetail, errorDetail := errorDetail }
    gate := c.gate.openGate }

/-- `_finalize_pause` where it goes through. -/
def settleAt (c : ReplayPlaybackCoordinator) (sequence monotonicNs now : Int) :
    ReplayPlaybackCoordinator :=
  { c with
    clock := c.clock.pause now
    gate := c.gate.closeGate
    state := c.state.transitionTo
      { c.state.snapshot with
        phase := .paused, lastSequence := sequence, lastMonotonicNs := monotonicNs }
    pause := c.pause.resolveAll sequence monotonicNs now }

end ReplayPlaybackCoordinator

/-- What a call can do to a coordinator, and what it replies. -/
inductive Called (c : ReplayPlaybackCoordinator) :
    Call → ReplayPlaybackCoordinator → Reply → Prop where
  | pauseDeferred {trigger targetSequence targetMonotonicNs reason now} (request : PauseRequest)
      (hrequest : request = c.nextPause trigger targetSequence targetMonotonicNs reason now)
      (hdeferred : request.trigger.deferred = true) :
      Called c (.requestPause trigger targetSequence targetMonotonicNs reason now)
        (c.enterPause request now) (.barrier (c.nextBarrier now))
  | pauseResolved {trigger targetSequence targetMonotonicNs reason now} (request : PauseRequest)
      (hrequest : request = c.nextPause trigger targetSequence targetMonotonicNs reason now)
      (hprompt : request.trigger.deferred = false) (hphase : c.phase = .paused) :
      Called c (.requestPause trigger targetSequence targetMonotonicNs reason now)
        { c.enterPause request now with
          pause :=
            (c.enterPause request now).pause.resolvePending request.requestId c.state.snapshot now }
        (.barrier (c.nextBarrier now))
  | pausePausing {trigger targetSequence targetMonotonicNs reason now} (request : PauseRequest)
      (hrequest : request = c.nextPause trigger targetSequence targetMonotonicNs reason now)
      (hprompt : request.trigger.deferred = false) (hphase : c.phase ≠ .paused)
      (hlegal : Legal c.phase .pausing) :
      Called c (.requestPause trigger targetSequence targetMonotonicNs reason now)
        { c.enterPause request now with
          state := c.state.transitionTo
            { c.state.snapshot with phase := .pausing, pauseRequestId := request.requestId }
          gate := c.gate.closeGate }
        (.barrier (c.nextBarrier now))
  | pauseIgnored {trigger targetSequence targetMonotonicNs reason now} (request : PauseRequest)
      (hrequest : request = c.nextPause trigger targetSequence targetMonotonicNs reason now)
      (hprompt : request.trigger.deferred = false) (hillegal : ¬Legal c.phase .pausing)
      (hphase : c.phase ≠ .paused) (hstrict : c.config.strictTransitions = false) :
      Called c (.requestPause trigger targetSequence targetMonotonicNs reason now)
        (c.enterPause request now) (.barrier (c.nextBarrier now))
  | pauseRejected {trigger targetSequence targetMonotonicNs reason now} (request : PauseRequest)
      (hrequest : request = c.nextPause trigger targetSequence targetMonotonicNs reason now)
      (hprompt : request.trigger.deferred = false) (hillegal : ¬Legal c.phase .pausing)
      (hphase : c.phase ≠ .paused) (hstrict : c.config.strictTransitions = true) :
      Called c (.requestPause trigger targetSequence targetMonotonicNs reason now)
        (c.enterPause request now) (.raised (checkTransition c.phase .pausing).error)
  | resumePlaying {reason now} (hphase : c.phase = .playing) :
      Called c (.requestResume reason now)
        { c.enterResume (c.nextResume reason now) now with
          resume := (c.enterResume (c.nextResume reason now) now).resume.resolvePending
            (c.dispatch.requestCounter + 1) c.state.snapshot now }
        (.barrier (c.nextBarrier now))
  | resumeResumed {reason now} (hphase : c.phase ≠ .playing) (hlegal : Legal c.phase .resuming)
      (playing : PlaybackPhaseSnapshot)
      (hplaying : playing = { c.state.snapshot with
        phase := .playing, resumeRequestId := c.dispatch.requestCounter + 1 }) :
      Called c (.requestResume reason now)
        { c.enterResume (c.nextResume reason now) now with
          state := (c.state.transitionTo { playing with phase := .resuming }).transitionTo playing
          clock := c.clock.resume now
          gate := c.gate.openGate
          resume := (c.enterResume (c.nextResume reason now) now).resume.resolvePending
            (c.dispatch.requestCounter + 1) playing now }
        (.barrier (c.nextBarrier now))
  | resumeIgnored {reason now} (hphase : c.phase ≠ .playing) (hillegal : ¬Legal c.phase .resuming)
      (hstrict : c.config.strictTransitions = false) :
      Called c (.requestResume reason now) (c.enterResume (c.nextResume reason now) now)
        (.barrier (c.nextBarrier now))
  | resumeRejected {reason now} (hphase : c.phase ≠ .playing) (hillegal : ¬Legal c.phase .resuming)
      (hstrict : c.config.strictTransitions = true) :
      Called c (.requestResume reason now) (c.enterResume (c.nextResume reason now) now)
        (.raised (checkTransition c.phase .resuming).error)
  | stepRejected {frames reason now} (hframes : frames < 1) :
      Called c (.requestStep frames reason now)
        { c with dispatch :=
            { c.dispatch with requestCounter := c.dispatch.requestCounter + 1 } }
        (.raised (.value "StepRequest.frame_count must be >= 1"))
  | stepTaken {frames reason now} (hframes : ¬frames < 1) (state : ReplayPlaybackStateHolder)
      (hstate : state =
        if c.phase = .paused then c.state.transitionTo { c.state.snapshot with phase := .stepping }
        else c.state) :
      Called c (.requestStep frames reason now)
        { c with
          dispatch :=
            { c.dispatch with
              requestCounter := c.dispatch.requestCounter + 1
              stepPending := c.dispatch.stepPending + frames }
          scheduler := c.scheduler.beginStep
          gate := c.gate.openGate
          state := state }
        (.requestId (c.dispatch.requestCounter + 1))
  | consumed (stepPending : Int) (value : Bool) :
      Called c .consumeStep { c with dispatch := { c.dispatch with stepPending := stepPending } }
        (.flag value)
  | stepCompleted {sequence monotonicNs now} (hphase : c.phase = .stepping)
      (hsteps : c.pendingStepFrames = 0) :
      Called c (.onFrameDispatched sequence monotonicNs now)
        ({ c with scheduler := c.scheduler.endStep }.finalizeToPaused sequence monotonicNs now)
        (.flag true)
  | frameUntriggered {sequence monotonicNs now}
      (hsteps : c.phase = .stepping → c.pendingStepFrames ≠ 0)
      (htriggered : PauseController.triggered c sequence monotonicNs = false) :
      Called c (.onFrameDispatched sequence monotonicNs now) (c.updatePosition sequence monotonicNs)
        (.flag false)
  | framePaused {sequence monotonicNs now} (hsteps : c.phase = .stepping → c.pendingStepFrames ≠ 0)
      (htriggered : PauseController.triggered c sequence monotonicNs = true)
      (hallowed : Legal c.phase .paused ∨ c.config.strictTransitions = false) :
      Called c (.onFrameDispatched sequence monotonicNs now)
        ((c.updatePosition sequence monotonicNs).settleAt sequence monotonicNs now) (.flag true)
  | frameRejected {sequence monotonicNs now}
      (hsteps : c.phase = .stepping → c.pendingStepFrames ≠ 0)
      (htriggered : PauseController.triggered c sequence monotonicNs = true)
      (hillegal : ¬Legal c.phase .paused) (hstrict : c.config.strictTransitions = true) :
      Called c (.onFrameDispatched sequence monotonicNs now) (c.updatePosition sequence monotonicNs)
        (.raised (checkTransition c.phase .paused).error)
  | positioned {sequence monotonicNs} :
      Called c (.updatePosition sequence monotonicNs) (c.updatePosition sequence monotonicNs)
        (.snapshot (c.updatePosition sequence monotonicNs).state.snapshot)
  | started (hphase : c.phase = .idle) :
      Called c .markStarted
        { c with
          state := c.state.transitionTo
            { c.state.snapshot with phase := .playing, errorDetail := "" } } .done
  | startIgnored (hphase : c.phase ≠ .idle) : Called c .markStarted c .done
  | stopped {errorDetail now}
      (hquiet : PauseController.triggered c c.state.snapshot.lastSequence
        c.state.snapshot.lastMonotonicNs = false ∨ c.config.strictTransitions = true) :
      Called c (.markStopped errorDetail now) (c.halt errorDetail) .done
  | stopPaused {errorDetail now}
      (htriggered : PauseController.triggered c c.state.snapshot.lastSequence
        c.state.snapshot.lastMonotonicNs = true)
      (hstrict : c.config.strictTransitions = false) :
      Called c (.markStopped errorDetail now)
        ((c.halt errorDetail).settleAt c.state.snapshot.lastSequence
          c.state.snapshot.lastMonotonicNs now) .done

/-! ## The calls, one by one -/

section Calls

variable {c : ReplayPlaybackCoordinator}

/-- The phase after a transition is the one it was made to. -/
theorem phase_of_transitionTo {holder : ReplayPlaybackStateHolder}
    {nextSnapshot : PlaybackPhaseSnapshot} {nextPhase : PlaybackPhase}
    (hstate : c.state = holder.transitionTo nextSnapshot)
    (hphase : nextSnapshot.phase = nextPhase) : c.phase = nextPhase := by
  rw [ReplayPlaybackCoordinator.phase, hstate, ReplayPlaybackStateHolder.transitionTo_snapshot,
    hphase]

theorem beginPausing_eq (current : PlaybackPhaseSnapshot) (request : PauseRequest) (now : Int) :
    PauseController.beginPausing c current request now =
      if current.phase = .paused then
        ({ c with pause := c.pause.resolvePending request.requestId current now }, .ok ())
      else if Legal current.phase .pausing then
        ({ c with
            state := c.state.transitionTo
              { current with phase := .pausing, pauseRequestId := request.requestId }
            gate := c.gate.closeGate }, .ok ())
      else if c.config.strictTransitions then
        (c, .error (checkTransition current.phase .pausing).error)
      else (c, .ok ()) := by
  rw [PauseController.beginPausing]
  by_cases hlegal : (checkTransition current.phase .pausing).allowed = true
  · simp only [Legal, hlegal, not_true, if_false, if_true]
  · simp only [Legal, hlegal, Bool.false_eq_true, not_false_eq_true, if_false, if_true]

theorem finalizeResume_eq (request : ResumeRequest) (now : Int) (playing : PlaybackPhaseSnapshot)
    (hplaying : playing =
      { c.state.snapshot with phase := .playing, resumeRequestId := request.requestId }) :
    ResumeController.finalizeResume c request now =
      if c.phase = .playing then
        ({ c with resume := c.resume.resolvePending request.requestId c.state.snapshot now }, .ok ())
      else if Legal c.phase .resuming then
        ({ c with
            state := (c.state.transitionTo { playing with phase := .resuming }).transitionTo playing
            clock := c.clock.resume now
            gate := c.gate.openGate
            resume := c.resume.resolvePending request.requestId playing now }, .ok ())
      else if c.config.strictTransitions then
        (c, .error (checkTransition c.phase .resuming).error)
      else (c, .ok ()) := by
  rw [ResumeController.finalizeResume, hplaying]
  by_cases hlegal : (checkTransition c.state.snapshot.phase .resuming).allowed = true
  · simp only [Legal, ReplayPlaybackCoordinator.phase, hlegal, not_true, if_false, if_true]
  · simp only [Legal, ReplayPlaybackCoordinator.phase, hlegal, Bool.false_eq_true,
      not_false_eq_true, if_false, if_true]

/-- A controller returns the barrier of a request that goes through. -/
theorem ofExcept_barrier (outcome : Outcome Unit) (barrier : Barrier) :
    Prod.map id (Reply.ofExcept .barrier)
        (Prod.map id (fun result => result.map fun _ => barrier) outcome) =
      outcome.map id (Reply.ofExcept fun _ => .barrier barrier) := by
  obtain ⟨c, error | value⟩ := outcome <;> rfl

/-- A pause request is entered, whatever comes of it. -/
theorem call_requestPause_eq (trigger : Option PauseTrigger)
    (targetSequence targetMonotonicNs : Int) (reason : String) (now : Int) {request : PauseRequest}
    (hrequest : request = c.nextPause trigger targetSequence targetMonotonicNs reason now) :
    call c (.requestPause trigger targetSequence targetMonotonicNs reason now) =
      if request.trigger.deferred then (c.enterPause request now, .barrier (c.nextBarrier now))
      else
        (PauseController.beginPausing (c.enterPause request now) c.state.snapshot request now).map
          id (Reply.ofExcept fun _ => .barrier (c.nextBarrier now)) := by
  have hcall : call c (.requestPause trigger targetSequence targetMonotonicNs reason now) =
      (PauseController.request { c.enterPause request now with
          pause := c.pause.cancelEvicted PauseRequest.requestId c.dispatch.pauseQueue.evictee }
        request now).map id (Reply.ofExcept .barrier) := by
    rw [hrequest]
    rfl
  have hbarrier : c.nextBarrier now = { requestId := request.requestId, requestedAtNs := now } := by
    rw [hrequest]
    rfl
  rw [hcall, hbarrier, PauseController.request]
  by_cases hdeferred : request.trigger.deferred = true
  · rw [if_pos hdeferred]
    cases htrigger : request.trigger with
    | immediate | afterCurrentFrame =>
      rw [htrigger] at hdeferred
      exact absurd hdeferred Bool.false_ne_true
    | atSequence | atTimestamp => rfl
  · rw [if_neg hdeferred]
    cases htrigger : request.trigger with
    | immediate | afterCurrentFrame =>
      exact ofExcept_barrier _ _
    | atSequence | atTimestamp =>
      rw [htrigger] at hdeferred
      exact absurd rfl hdeferred

theorem called_requestPause (trigger : Option PauseTrigger) (targetSequence targetMonotonicNs : Int)
    (reason : String) (now : Int) :
    Called c (.requestPause trigger targetSequence targetMonotonicNs reason now)
      (call c (.requestPause trigger targetSequence targetMonotonicNs reason now)).1
      (call c (.requestPause trigger targetSequence targetMonotonicNs reason now)).2 := by
  obtain ⟨request, hrequest⟩ : ∃ request, request =
    c.nextPause trigger targetSequence targetMonotonicNs reason now := ⟨_, rfl⟩
  have hstrictEntered :
      (c.enterPause request now).config.strictTransitions = c.config.strictTransitions := rfl
  rw [call_requestPause_eq _ _ _ _ _ hrequest]
  by_cases hdeferred : request.trigger.deferred = true
  · rw [if_pos hdeferred]
    exact .pauseDeferred request hrequest hdeferred
  · rw [if_neg hdeferred, beginPausing_eq, hstrictEntered]
    have hprompt : request.trigger.deferred = false := Bool.eq_false_iff.mpr hdeferred
    by_cases hphase : c.state.snapshot.phase = .paused
    · rw [if_pos hphase]
      exact .pauseResolved request hrequest hprompt hphase
    · rw [if_neg hphase]
      by_cases hlegal : Legal c.phase .pausing
      · rw [if_pos (show Legal c.state.snapshot.phase .pausing from hlegal)]
        exact .pausePausing request hrequest hprompt hphase hlegal
      · rw [if_neg (show ¬Legal c.state.snapshot.phase .pausing from hlegal)]
        cases hstrict : c.config.strictTransitions with
        | true =>
          rw [if_pos rfl]
          exact .pauseRejected request hrequest hprompt hlegal hphase hstrict
        | false =>
          rw [if_neg Bool.false_ne_true]
          exact .pauseIgnored request hrequest hprompt hlegal hphase hstrict

/-- A resume request is entered and finalised at once. -/
theorem call_requestResume_eq (reason : String) (now : Int) :
    call c (.requestResume reason now) =
      (ResumeController.finalizeResume (c.enterResume (c.nextResume reason now) now)
        (c.nextResume reason now) now).map id
        (Reply.ofExcept fun _ => .barrier (c.nextBarrier now)) :=
  ofExcept_barrier _ _

theorem called_requestResume (reason : String) (now : Int) :
    Called c (.requestResume reason now) (call c (.requestResume reason now)).1
      (call c (.requestResume reason now)).2 := by
  obtain ⟨entered, hentered⟩ : ∃ entered, entered = c.enterResume (c.nextResume reason now) now :=
    ⟨_, rfl⟩
  have hsame : entered.phase = c.phase ∧
      entered.config.strictTransitions = c.config.strictTransitions := by
    rw [hentered]
    exact ⟨rfl, rfl⟩
  rw [call_requestResume_eq, ← hentered, finalizeResume_eq _ _ _ rfl, hsame.1, hsame.2, hentered]
  by_cases hphase : c.phase = .playing
  · rw [if_pos hphase]
    exact .resumePlaying hphase
  · rw [if_neg hphase]
    by_cases hlegal : Legal c.phase .resuming
    · rw [if_pos hlegal]
      exact .resumeResumed hphase hlegal _ rfl
    · rw [if_neg hlegal]
      cases hstrict : c.config.strictTransitions with
      | true =>
        rw [if_pos rfl]
        exact .resumeRejected hphase hlegal hstrict
      | false =>
        rw [if_neg Bool.false_ne_true]
        exact .resumeIgnored hphase hlegal hstrict

theorem called_requestStep (frames : Int) (reason : String) (now : Int) :
    Called c (.requestStep frames reason now) (call c (.requestStep frames reason now)).1
      (call c (.requestStep frames reason now)).2 := by
  rw [call, ReplayPlaybackCoordinator.requestStep]
  simp only [CoordinationDispatch.allocateRequestId, CoordinationDispatch.submitStep]
  by_cases hframes : frames < 1
  · rw [if_pos hframes]
    exact .stepRejected hframes
  · rw [if_neg hframes]
    by_cases hphase : c.state.snapshot.phase = .paused
    · simp only [if_pos hphase]
      exact .stepTaken hframes _ (if_pos hphase).symm
    · simp only [if_neg hphase]
      exact .stepTaken hframes _ (if_neg hphase).symm

theorem finalizePause_eq (sequence monotonicNs now : Int) :
    PauseController.finalizePause c sequence monotonicNs now =
      if ¬Legal c.phase .paused ∧ c.config.strictTransitions = true then
        (c, .error (checkTransition c.phase .paused).error)
      else (c.settleAt sequence monotonicNs now, .ok ()) := rfl

@[simp] theorem updatePosition_phase (sequence monotonicNs : Int) :
    (c.updatePosition sequence monotonicNs).phase = c.phase := by
  rw [ReplayPlaybackCoordinator.phase, ReplayPlaybackCoordinator.updatePosition,
    ReplayPlaybackStateHolder.updatePosition_snapshot]
  rfl

/-- What the pause controller does with a frame. -/
theorem onFrameDispatched_eq (sequence monotonicNs now : Int) :
    PauseController.onFrameDispatched c sequence monotonicNs now =
      if PauseController.triggered c sequence monotonicNs then
        if ¬Legal c.phase .paused ∧ c.config.strictTransitions = true then
          (c.updatePosition sequence monotonicNs, .error (checkTransition c.phase .paused).error)
        else ((c.updatePosition sequence monotonicNs).settleAt sequence monotonicNs now, .ok true)
      else (c.updatePosition sequence monotonicNs, .ok false) := by
  have hunfold : PauseController.onFrameDispatched c sequence monotonicNs now =
      if PauseController.triggered c sequence monotonicNs then
        (PauseController.finalizePause (c.updatePosition sequence monotonicNs) sequence monotonicNs
          now).map id (·.map fun _ => true)
      else (c.updatePosition sequence monotonicNs, .ok false) := rfl
  have hstrict : (c.updatePosition sequence monotonicNs).config.strictTransitions =
      c.config.strictTransitions := rfl
  rw [hunfold, finalizePause_eq, updatePosition_phase, hstrict]
  by_cases hrejected : ¬Legal c.phase .paused ∧ c.config.strictTransitions = true
  · rw [if_pos hrejected, if_pos hrejected]
    rfl
  · rw [if_neg hrejected, if_neg hrejected]
    rfl

theorem called_onFrameDispatched (sequence monotonicNs now : Int) :
    Called c (.onFrameDispatched sequence monotonicNs now)
      (call c (.onFrameDispatched sequence monotonicNs now)).1
      (call c (.onFrameDispatched sequence monotonicNs now)).2 := by
  rw [call, ReplayPlaybackCoordinator.onFrameDispatched]
  by_cases hdone : c.phase = .stepping ∧ c.pendingStepFrames = 0
  · rw [if_pos hdone]
    exact .stepCompleted hdone.1 hdone.2
  · rw [if_neg hdone, onFrameDispatched_eq]
    have hsteps : c.phase = .stepping → c.pendingStepFrames ≠ 0 := not_and.mp hdone
    by_cases htriggered : PauseController.triggered c sequence monotonicNs = true
    · rw [if_pos htriggered]
      by_cases hrejected : ¬Legal c.phase .paused ∧ c.config.strictTransitions = true
      · rw [if_pos hrejected]
        exact .frameRejected hsteps htriggered hrejected.1 hrejected.2
      · rw [if_neg hrejected]
        refine .framePaused hsteps htriggered ?_
        rwa [not_and, Decidable.not_imp_comm, Bool.not_eq_true, ← or_iff_not_imp_left,
          or_comm] at hrejected
    · rw [if_neg htriggered]
      exact .frameUntriggered hsteps (Bool.eq_false_iff.mpr htriggered)

/-- The coordinator has stopped at the position it was told before. -/
theorem halt_updatePosition (errorDetail : String) :
    (c.halt errorDetail).updatePosition c.state.snapshot.lastSequence
      c.state.snapshot.lastMonotonicNs = c.halt errorDetail := by
  have hsame : (c.halt errorDetail).state.snapshot.lastSequence = c.state.snapshot.lastSequence ∧
      (c.halt errorDetail).state.snapshot.lastMonotonicNs = c.state.snapshot.lastMonotonicNs := by
    rw [ReplayPlaybackCoordinator.halt, ReplayPlaybackStateHolder.transitionTo_snapshot]
    exact ⟨rfl, rfl⟩
  rw [ReplayPlaybackCoordinator.updatePosition, ReplayPlaybackStateHolder.updatePosition,
    if_pos hsame]

@[simp] theorem settleAt_phase (sequence monotonicNs now : Int) :
    (c.settleAt sequence monotonicNs now).phase = .paused := phase_of_transitionTo rfl rfl

@[simp] theorem finalizeToPaused_phase (sequence monotonicNs now : Int) :
    (c.finalizeToPaused sequence monotonicNs now).phase = .paused := phase_of_transitionTo rfl rfl

@[simp] theorem halt_phase (errorDetail : String) :
    (c.halt errorDetail).phase = ReplayPlaybackCoordinator.stopTarget errorDetail :=
  phase_of_transitionTo rfl rfl

/-- Nothing pauses what has stopped. -/
theorem not_legal_stopTarget (errorDetail : String) :
    ¬Legal (ReplayPlaybackCoordinator.stopTarget errorDetail) .paused := by
  rw [ReplayPlaybackCoordinator.stopTarget]
  split <;> decide

theorem called_markStopped (errorDetail : String) (now : Int) :
    Called c (.markStopped errorDetail now) (call c (.markStopped errorDetail now)).1
      (call c (.markStopped errorDetail now)).2 := by
  have hcall : call c (.markStopped errorDetail now) =
      ((PauseController.onFrameDispatched (c.halt errorDetail) c.state.snapshot.lastSequence
        c.state.snapshot.lastMonotonicNs now).1, .done) := rfl
  have hsame : PauseController.triggered (c.halt errorDetail) c.state.snapshot.lastSequence
        c.state.snapshot.lastMonotonicNs =
      PauseController.triggered c c.state.snapshot.lastSequence
        c.state.snapshot.lastMonotonicNs := rfl
  have hstrict : (c.halt errorDetail).config.strictTransitions = c.config.strictTransitions := rfl
  rw [hcall, onFrameDispatched_eq, halt_updatePosition, halt_phase, hsame, hstrict]
  cases htriggered : PauseController.triggered c c.state.snapshot.lastSequence
      c.state.snapshot.lastMonotonicNs with
  | false =>
    rw [if_neg Bool.false_ne_true]
    exact .stopped (.inl htriggered)
  | true =>
    rw [if_pos rfl]
    cases hconfig : c.config.strictTransitions with
    | true =>
      rw [if_pos ⟨not_legal_stopTarget errorDetail, rfl⟩]
      exact .stopped (.inr hconfig)
    | false =>
      rw [if_neg (fun h => Bool.false_ne_true h.2)]
      exact .stopPaused htriggered hconfig

/-- Every call does one of these things. -/
theorem called_call (c : ReplayPlaybackCoordinator) (a : Call) :
    Called c a (call c a).1 (call c a).2 := by
  cases a with
  | requestPause trigger targetSequence targetMonotonicNs reason now =>
    exact called_requestPause trigger targetSequence targetMonotonicNs reason now
  | requestResume reason now => exact called_requestResume reason now
  | requestStep frames reason now => exact called_requestStep frames reason now
  | consumeStep =>
    rw [call, ReplayPlaybackCoordinator.consumeStep, CoordinationDispatch.consumeStep]
    by_cases hnone : c.dispatch.stepPending ≤ 0
    · rw [if_pos hnone]
      exact .consumed c.dispatch.stepPending false
    · rw [if_neg hnone]
      exact .consumed (c.dispatch.stepPending - 1) true
  | onFrameDispatched sequence monotonicNs now =>
    exact called_onFrameDispatched sequence monotonicNs now
  | updatePosition sequence monotonicNs => exact .positioned
  | markStarted =>
    rw [call, ReplayPlaybackCoordinator.markStarted]
    by_cases hphase : c.state.snapshot.phase = .idle
    · rw [if_pos hphase]
      exact .started hphase
    · rw [if_neg hphase]
      exact .startIgnored hphase
  | markStopped errorDetail now => exact called_markStopped errorDetail now

end Calls

end AsyncViz.Replay.Control
