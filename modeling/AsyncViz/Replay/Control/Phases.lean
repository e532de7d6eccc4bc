/-
  AsyncViz.Replay.Control.Phases

  The phase machine of a `ReplayPlaybackCoordinator`: every change of phase that a
  listener hears is in the transition table, the gate is closed exactly in `PAUSING` and
  `PAUSED`, and the scheduler is in step mode exactly in `STEPPING`.

  Phase, gate and scheduler mode are three pieces of state, so a call keeps them in
  agreement only where it moves all of them.  `Coordinated` names the calls that do:
  `request_step` leaves the phase alone unless it is `PAUSED`, a pause that a frame or a
  stop finalises leaves the step mode alone, and `mark_stopped` asks no guard.  A run
  keeps the law exactly when all its calls are coordinated (`allStates_sound_iff`).
-/

import AsyncViz.Replay.Control.Calls

namespace AsyncViz.Replay.Control

open AsyncViz.Lib AsyncViz.Lib.Transition

/-- Every change of phase that was heard is one that the table allows. -/
def ReplayPlaybackStateHolder.AllLegal (holder : ReplayPlaybackStateHolder) : Prop :=
  ∀ change ∈ holder.heard, Legal change.1.phase change.2.phase

/-- The law of the phase machine. -/
structure PhaseSound (c : ReplayPlaybackCoordinator) : Prop where
  legal : c.state.AllLegal
  gate : c.gate.isOpen = false ↔ c.phase = .pausing ∨ c.phase = .paused
  mode : c.scheduler.mode = .step ↔ c.phase = .stepping

/-- The scheduler is in its normal mode, or it steps and remembers it. -/
def Restorable (normalMode : PlaybackMode) (scheduler : SchedulerCoordinator) : Prop :=
  (scheduler.normalMode = none ∧ scheduler.mode = normalMode) ∨
    (scheduler.normalMode = some normalMode ∧ scheduler.mode = .step)

/-- The call moves phase, gate and scheduler together. -/
def Coordinated (c : ReplayPlaybackCoordinator) : Call → Prop
  | .requestStep frames _ _ => frames < 1 ∨ c.phase = .paused ∨ c.phase = .stepping
  | .onFrameDispatched sequence monotonicNs _ =>
    PauseController.triggered c sequence monotonicNs = true →
      (c.phase = .stepping → c.pendingStepFrames = 0) ∧
      (¬Legal c.phase .paused → c.config.strictTransitions = true)
  | .markStopped errorDetail _ =>
    c.phase ≠ .stepping ∧ Legal c.phase (ReplayPlaybackCoordinator.stopTarget errorDetail) ∧
      (PauseController.triggered c c.state.snapshot.lastSequence
        c.state.snapshot.lastMonotonicNs = true → c.config.strictTransitions = true)
  | _ => True

/-! ## Notifications -/

section Holder

variable {holder : ReplayPlaybackStateHolder}

@[simp] theorem legal_self (phase : PlaybackPhase) : Legal phase phase := legal_iff.mpr (.inl rfl)

theorem allLegal_transitionTo {nextSnapshot : PlaybackPhaseSnapshot} :
    (holder.transitionTo nextSnapshot).AllLegal ↔
      holder.AllLegal ∧ Legal holder.snapshot.phase nextSnapshot.phase := by
  rw [ReplayPlaybackStateHolder.transitionTo]
  by_cases hsame : holder.snapshot = nextSnapshot
  · rw [if_pos hsame, ← hsame]
    exact (and_iff_left (legal_self _)).symm
  · rw [if_neg hsame]
    simp [ReplayPlaybackStateHolder.AllLegal, or_imp, forall_and]

theorem allLegal_updatePosition {lastSequence lastMonotonicNs : Int} :
    (holder.updatePosition lastSequence lastMonotonicNs).AllLegal ↔ holder.AllLegal := by
  rw [ReplayPlaybackStateHolder.updatePosition]
  split
  · rfl
  · simp [ReplayPlaybackStateHolder.AllLegal, or_imp, forall_and]

end Holder

/-! ## One call -/

section Calls

variable {c : ReplayPlaybackCoordinator} {normalMode : PlaybackMode}

/-- `end_step` leaves the step mode. -/
theorem endStep_mode (h : Restorable normalMode c.scheduler) :
    c.scheduler.endStep.mode = normalMode := by
  rw [SchedulerCoordinator.endStep]
  rcases h with ⟨hnone, hmode⟩ | ⟨hsome, hmode⟩
  · rw [hnone]
    exact hmode
  · rw [hsome]
    rfl

/-- No call loses the normal mode. -/
theorem restorable_call (h : Restorable normalMode c.scheduler) (a : Call) :
    Restorable normalMode (call c a).1.scheduler := by
  have hcalled := called_call c a
  generalize (call c a).1 = c', (call c a).2 = reply at hcalled ⊢
  cases hcalled with
  | stepTaken =>
    refine .inr ⟨?_, rfl⟩
    rcases h with ⟨hnone, hmode⟩ | ⟨hsome, -⟩
    · rw [← hmode]
      exact congrArg some (by rw [hnone]; rfl)
    · exact congrArg some (by rw [hsome]; rfl)
  | stepCompleted =>
    change Restorable normalMode c.scheduler.endStep
    rw [SchedulerCoordinator.endStep]
    rcases h with ⟨hnone, hmode⟩ | ⟨hsome, -⟩
    · rw [hnone]
      exact .inl ⟨hnone, hmode⟩
    · rw [hsome]
      exact .inl ⟨rfl, rfl⟩
  | _ => exact h

/-- Entering a request moves nothing that the law speaks of. -/
theorem PhaseSound.congr {c' : ReplayPlaybackCoordinator} (h : PhaseSound c)
    (hstate : c'.state = c.state) (hgate : c'.gate = c.gate)
    (hscheduler : c'.scheduler = c.scheduler) : PhaseSound c' := by
  have hphase : c'.phase = c.phase := by
    rw [ReplayPlaybackCoordinator.phase, hstate]
    rfl
  refine ⟨?_, ?_, ?_⟩
  · rw [hstate]
    exact h.legal
  · rw [hgate, hphase]
    exact h.gate
  · rw [hscheduler, hphase]
    exact h.mode

/-- Outside `STEPPING` the scheduler does not step. -/
theorem PhaseSound.mode_ne_step (h : PhaseSound c) (hphase : c.phase ≠ .stepping) :
    c.scheduler.mode ≠ .step := fun hmode => hphase (h.mode.mp hmode)

/-- The law after a change of phase that brings the gate along: the change has to be
    legal, and the scheduler's mode has to fit. -/
theorem phaseSound_of_transition {c' : ReplayPlaybackCoordinator} {nextPhase : PlaybackPhase}
    (h : PhaseSound c) (hphase : c'.phase = nextPhase)
    (hlegal : c'.state.AllLegal ↔ c.state.AllLegal ∧ Legal c.phase nextPhase)
    (hgate : c'.gate.isOpen = false ↔ nextPhase = .pausing ∨ nextPhase = .paused) :
    PhaseSound c' ↔ Legal c.phase nextPhase ∧ (c'.scheduler.mode = .step ↔ nextPhase = .stepping) := by
  constructor
  · intro h'
    exact ⟨(hlegal.mp h'.legal).2, hphase ▸ h'.mode⟩
  · rintro ⟨hchange, hmode⟩
    refine ⟨hlegal.mpr ⟨h.legal, hchange⟩, ?_, ?_⟩
    · rw [hphase]
      exact hgate
    · rw [hphase]
      exact hmode

/-- A change of phase that leaves the scheduler alone must not leave `STEPPING`. -/
theorem phaseSound_of_unscheduled {c' : ReplayPlaybackCoordinator} {nextPhase : PlaybackPhase}
    (h : PhaseSound c) (hphase : c'.phase = nextPhase)
    (hlegal : c'.state.AllLegal ↔ c.state.AllLegal ∧ Legal c.phase nextPhase)
    (hgate : c'.gate.isOpen = false ↔ nextPhase = .pausing ∨ nextPhase = .paused)
    (hscheduler : c'.scheduler = c.scheduler) (hnext : nextPhase ≠ .stepping) :
    PhaseSound c' ↔ Legal c.phase nextPhase ∧ c.phase ≠ .stepping := by
  rw [phaseSound_of_transition h hphase hlegal hgate, hscheduler, h.mode, iff_false_right hnext]

/-- A legal change of phase other than to or from `STEPPING`. -/
theorem PhaseSound.move {c' : ReplayPlaybackCoordinator} {nextPhase : PlaybackPhase}
    (h : PhaseSound c) (hchange : Legal c.phase nextPhase) (hnot : c.phase ≠ .stepping)
    (hphase : c'.phase = nextPhase)
    (hlegal : c'.state.AllLegal ↔ c.state.AllLegal ∧ Legal c.phase nextPhase)
    (hgate : c'.gate.isOpen = false ↔ nextPhase = .pausing ∨ nextPhase = .paused)
    (hscheduler : c'.scheduler = c.scheduler) (hnext : nextPhase ≠ .stepping) : PhaseSound c' :=
  (phaseSound_of_unscheduled h hphase hlegal hgate hscheduler hnext).mpr ⟨hchange, hnot⟩

theorem phaseSound_updatePosition (h : PhaseSound c) (sequence monotonicNs : Int) :
    PhaseSound (c.updatePosition sequence monotonicNs) := by
  refine ⟨allLegal_updatePosition.mpr h.legal, ?_, ?_⟩
  · rw [updatePosition_phase]
    exact h.gate
  · rw [updatePosition_phase]
    exact h.mode

theorem phaseSound_settleAt_iff (h : PhaseSound c) (sequence monotonicNs now : Int) :
    PhaseSound (c.settleAt sequence monotonicNs now) ↔
      Legal c.phase .paused ∧ c.phase ≠ .stepping := by
  refine phaseSound_of_unscheduled h (settleAt_phase ..) allLegal_transitionTo ?_ rfl (by decide)
  exact iff_of_true rfl (.inr rfl)

theorem phaseSound_halt_iff (h : PhaseSound c) (errorDetail : String) :
    PhaseSound (c.halt errorDetail) ↔
      Legal c.phase (ReplayPlaybackCoordinator.stopTarget errorDetail) ∧ c.phase ≠ .stepping := by
  have htarget : ReplayPlaybackCoordinator.stopTarget errorDetail = .failed ∨
      ReplayPlaybackCoordinator.stopTarget errorDetail = .stopped := ite_eq_or_eq _ _ _
  refine phaseSound_of_unscheduled h (halt_phase errorDetail) allLegal_transitionTo ?_ rfl ?_
  · refine iff_of_false Bool.false_ne_true.symm ?_
    rcases htarget with h | h <;> simp [h]
  · rcases htarget with h | h <;> simp [h]

/-- A request that steps moves the phase along only from `PAUSED`. -/
theorem phaseSound_stepTaken_iff {dispatch : CoordinationDispatch}
    {state : ReplayPlaybackStateHolder} (h : PhaseSound c)
    (hstate : state =
      if c.phase = .paused then c.state.transitionTo { c.state.snapshot with phase := .stepping }
      else c.state) :
    PhaseSound
        { c with
          dispatch := dispatch, scheduler := c.scheduler.beginStep, gate := c.gate.openGate
          state := state } ↔
      c.phase = .paused ∨ c.phase = .stepping := by
  by_cases hphase : c.phase = .paused
  · rw [if_pos hphase] at hstate
    have hlegal : Legal c.phase .stepping := by
      rw [hphase]
      decide
    refine iff_of_true (Iff.mpr (phaseSound_of_transition h ?_ ?_ ?_)
      ⟨hlegal, iff_of_true rfl rfl⟩) (.inl hphase)
    · exact phase_of_transitionTo hstate rfl
    · rw [hstate]
      exact allLegal_transitionTo
    · exact iff_of_false Bool.false_ne_true.symm (by decide)
  · rw [if_neg hphase] at hstate
    subst hstate
    constructor
    · intro h'
      exact .inr (h'.mode.mp rfl)
    · rintro (hpaused | hstepping)
      · exact absurd hpaused hphase
      · refine ⟨h.legal, iff_of_false Bool.false_ne_true.symm ?_, iff_of_true rfl hstepping⟩
        change ¬(c.phase = .pausing ∨ c.phase = .paused)
        rw [hstepping]
        decide

theorem legal_resuming_playing : Legal .resuming .playing := by decide

/-- A resume goes by way of `RESUMING`. -/
theorem phaseSound_resumed {playing : PlaybackPhaseSnapshot} (h : PhaseSound c)
    (hlegal : Legal c.phase .resuming) (hplaying : playing.phase = .playing) :
    PhaseSound
      { c with
        state := (c.state.transitionTo { playing with phase := .resuming }).transitionTo playing
        gate := c.gate.openGate } := by
  have hnot : c.phase ≠ .stepping := by
    intro hstepping
    rw [hstepping] at hlegal
    exact absurd hlegal (by decide)
  refine ⟨?_, iff_of_false Bool.false_ne_true.symm ?_,
    iff_of_false (h.mode_ne_step hnot) ?_⟩
  · refine allLegal_transitionTo.mpr ⟨allLegal_transitionTo.mpr ⟨h.legal, hlegal⟩, ?_⟩
    rw [ReplayPlaybackStateHolder.transitionTo_snapshot, hplaying]
    exact legal_resuming_playing
  · rw [ReplayPlaybackCoordinator.phase, ReplayPlaybackStateHolder.transitionTo_snapshot, hplaying]
    decide
  · rw [ReplayPlaybackCoordinator.phase, ReplayPlaybackStateHolder.transitionTo_snapshot, hplaying]
    decide

/-- The end of a step burst restores the mode. -/
theorem phaseSound_stepCompleted (hnormal : normalMode ≠ .step) (h : PhaseSound c)
    (hmode : Restorable normalMode c.scheduler) (hphase : c.phase = .stepping)
    {sequence monotonicNs now : Int} :
    PhaseSound
      ({ c with scheduler := c.scheduler.endStep }.finalizeToPaused sequence monotonicNs now) := by
  have hlegal : Legal c.phase .paused := by
    rw [hphase]
    decide
  refine Iff.mpr (phaseSound_of_transition h (finalizeToPaused_phase _ _ _)
    allLegal_transitionTo (iff_of_true rfl (.inr rfl))) ⟨hlegal, ?_⟩
  change c.scheduler.endStep.mode = .step ↔ _
  rw [endStep_mode hmode]
  exact iff_of_false hnormal (by decide)

/-- A call keeps the law exactly when it is coordinated. -/
theorem phaseSound_call_iff (hnormal : normalMode ≠ .step) (h : PhaseSound c)
    (hmode : Restorable normalMode c.scheduler) (a : Call) :
    PhaseSound (call c a).1 ↔ Coordinated c a := by
  have hcalled := called_call c a
  generalize (call c a).1 = c', (call c a).2 = reply at hcalled ⊢
  cases hcalled with
  | pauseDeferred | pauseResolved | pauseIgnored | pauseRejected | resumePlaying | resumeIgnored
  | resumeRejected | consumed =>
    exact iff_of_true (h.congr rfl rfl rfl) trivial
  | pausePausing request hrequest hprompt hphase hlegal =>
    have hnot : c.phase ≠ .stepping := by
      intro hstepping
      rw [hstepping] at hlegal
      exact absurd hlegal (by decide)
    refine iff_of_true (h.move hlegal hnot ?_ allLegal_transitionTo ?_ rfl (by decide)) trivial
    · exact phase_of_transitionTo rfl rfl
    · exact iff_of_true rfl (.inl rfl)
  | resumeResumed hphase hlegal playing hplaying =>
    refine iff_of_true (PhaseSound.congr (phaseSound_resumed h hlegal ?_) rfl rfl rfl) trivial
    rw [hplaying]
  | stepRejected hframes => exact iff_of_true (h.congr rfl rfl rfl) (.inl hframes)
  | stepTaken hframes state hstate =>
    rw [phaseSound_stepTaken_iff h hstate]
    exact (or_iff_right hframes).symm
  | stepCompleted hphase hsteps =>
    refine iff_of_true (phaseSound_stepCompleted hnormal h hmode hphase) fun _ => ⟨fun _ => hsteps, ?_⟩
    rw [hphase]
    exact fun hillegal => absurd (by decide) hillegal
  | frameUntriggered hsteps htriggered =>
    refine iff_of_true (phaseSound_updatePosition h _ _) fun htriggered' => ?_
    rw [htriggered] at htriggered'
    exact absurd htriggered' Bool.false_ne_true
  | framePaused hsteps htriggered hallowed =>
    rw [phaseSound_settleAt_iff (phaseSound_updatePosition h _ _), updatePosition_phase]
    constructor
    · rintro ⟨hlegal, hnot⟩ -
      exact ⟨fun hphase => absurd hphase hnot, fun hillegal => absurd hlegal hillegal⟩
    · intro hcoordinated
      obtain ⟨hdone, hguarded⟩ := hcoordinated htriggered
      refine ⟨?_, fun hphase => hsteps hphase (hdone hphase)⟩
      by_contra hillegal
      rcases hallowed with hlegal | hstrict
      · exact hillegal hlegal
      · rw [hguarded hillegal] at hstrict
        exact Bool.false_ne_true hstrict.symm
  | frameRejected hsteps htriggered hillegal hstrict =>
    refine iff_of_true (phaseSound_updatePosition h _ _) fun _ => ⟨fun hphase => ?_, fun _ => hstrict⟩
    rw [hphase] at hillegal
    exact absurd (by decide) hillegal
  | positioned => exact iff_of_true (phaseSound_updatePosition h _ _) trivial
  | started hphase =>
    have hlegal : Legal c.phase .playing := by
      rw [hphase]
      decide
    have hnot : c.phase ≠ .stepping := by
      rw [hphase]
      decide
    refine iff_of_true (h.move hlegal hnot ?_ allLegal_transitionTo ?_ rfl (by decide)) trivial
    · exact phase_of_transitionTo rfl rfl
    · rw [h.gate, hphase]
      decide
  | startIgnored => exact iff_of_true h trivial
  | stopped hquiet =>
    rw [phaseSound_halt_iff h]
    constructor
    · rintro ⟨hlegal, hnot⟩
      refine ⟨hnot, hlegal, fun htriggered => ?_⟩
      rcases hquiet with huntriggered | hstrict
      · rw [htriggered] at huntriggered
        exact absurd huntriggered.symm Bool.false_ne_true
      · exact hstrict
    · rintro ⟨hnot, hlegal, -⟩
      exact ⟨hlegal, hnot⟩
  | stopPaused htriggered hstrict =>
    refine iff_of_false (fun h' => ?_) fun hcoordinated => ?_
    · -- the table allows no pause after the stop
      have hlegal := (allLegal_transitionTo.mp h'.legal).2
      rw [ReplayPlaybackCoordinator.halt, ReplayPlaybackStateHolder.transitionTo_snapshot] at hlegal
      exact not_legal_stopTarget _ hlegal
    · have hstrict' := hcoordinated.2.2 htriggered
      rw [hstrict] at hstrict'
      exact Bool.false_ne_true hstrict'

end Calls

/-! ## Runs -/

section Runs

variable {config : ReplayPlaybackCoordinationConfig} {clock : ReplayClock}
  {scheduler : ReplayScheduler}

theorem phaseSound_new (hmode : scheduler.mode ≠ .step) :
    PhaseSound (ReplayPlaybackCoordinator.new config clock scheduler) where
  legal := fun _ hchange => absurd hchange List.not_mem_nil
  gate := iff_of_false Bool.false_ne_true.symm
    (show ¬(PlaybackPhase.idle = .pausing ∨ PlaybackPhase.idle = .paused) by decide)
  mode := iff_of_false hmode (show PlaybackPhase.idle ≠ .stepping by decide)

/-- Whatever the calls, the coordinator keeps the law of the phase machine as long as,
    and only as long as, they are coordinated. -/
theorem allStates_sound_iff (hmode : scheduler.mode ≠ .step) (calls : List Call) :
    AllStates Session.step (fun s => PhaseSound s.coordinator)
        (Session.start config clock scheduler) calls ↔
      AllSteps Session.step (fun s a => Coordinated s.coordinator a)
        (Session.start config clock scheduler) calls := by
  obtain ⟨s', hrun⟩ := exec_isSome Session.step_isSome (Session.start config clock scheduler) calls
  refine allStates_iff_allSteps (J := fun s => Restorable scheduler.mode s.coordinator.scheduler)
    ?_ ?_ (.inl ⟨rfl, rfl⟩) (phaseSound_new hmode) hrun
  · rintro s a s' hrestorable hstep
    rw [Session.eq_next_of_step hstep]
    exact restorable_call hrestorable a
  · rintro s a s' hrestorable hsound hstep
    rw [Session.eq_next_of_step hstep]
    exact phaseSound_call_iff hmode hsound hrestorable a

end Runs

/-- Pause, step and resume, each when its turn has come. -/
theorem allStates_sound_paused_step :
    AllStates Session.step (fun s => PhaseSound s.coordinator)
      (Session.start {} { wallAnchorNs := 0 } {})
      [.markStarted, .requestPause none 0 0 "" 1, .onFrameDispatched 1 10 2,
        .requestStep 1 "" 3, .consumeStep, .onFrameDispatched 2 20 4, .requestResume "" 5,
        .markStopped "" 6] := by
  refine (allStates_sound_iff (by decide) _).mpr ?_
  refine .cons rfl trivial (.cons rfl trivial (.cons rfl ?_ (.cons rfl ?_ (.cons rfl trivial
    (.cons rfl ?_ (.cons rfl trivial (.cons rfl ?_ trivial)))))))
  · exact fun _ => ⟨by decide, fun _ => rfl⟩
  · exact .inr (.inl rfl)
  · exact fun _ => ⟨fun _ => rfl, fun _ => rfl⟩
  · exact ⟨by decide, by decide, fun _ => rfl⟩

/-- A step requested while playing leaves the scheduler in step mode in `PLAYING`. -/
theorem not_sound_step_while_playing :
    ({} : ReplayScheduler).mode ≠ .step ∧
      ¬AllStates Session.step (fun s => PhaseSound s.coordinator)
        (Session.start {} { wallAnchorNs := 0 } {}) [.markStarted, .requestStep 1 "" 1] := by
  refine ⟨by decide, fun hall => ?_⟩
  have hplaying := ((hall.2 _ rfl).2 _ rfl).mode.mp rfl
  exact absurd hplaying (by decide)

end AsyncViz.Replay.Control
