/-
  AsyncViz.Runtime.Shutdown.Lifecycle

  The coordinator over whole runs, whatever its services do and whenever other tasks call
  it: `_running` is held exactly while a `run` is active, cancellations are attributed to the
  shutdown only then, the report is published with the terminal phase, once, and from then on
  nothing changes.

  `Sound` is the invariant.  Most steps of the coroutine leave what it speaks of alone
  (`Sound.move`); a phase that begins, the way out of the phases and `_finalize` have a lemma
  each.
-/

import AsyncViz.Runtime.Shutdown.Coordinator

namespace AsyncViz.Runtime.Shutdown

open AsyncViz.Lib.Transition

/-! ## Points and phases -/

/-- The coroutine is inside the `try` around the phases. -/
def Point.inPhases : Point → Bool
  | .entering _ | .leaving _ => false
  | _ => true

/-- The phases that the coordinator can be in while `run` stands at `point`. -/
def Point.fits (phase : ShutdownPhase) : Point → Prop
  | .entering _ => isTerminal phase = false
  | .drainStart => isInProgress phase
  | .broadcasting _ | .notifying _ | .joining _ | .finalizeStart => phase = .draining
  | .capturing _ | .stopStart => phase = .finalizing
  | .betweenServices _ _ | .awaitingService _ _ => phase = .stopping
  | .forcing _ _ | .disconnecting _ _ _ => phase = .stopping
  | .leaving finalPhase => isInProgress phase ∧ isTerminal finalPhase

theorem not_terminal_of_inProgress {phase : ShutdownPhase} (h : isInProgress phase) :
    isTerminal phase = false := by
  cases phase <;> simp_all [isInProgress, isTerminal]

/-- While `run` is active the phase is not terminal. -/
theorem Point.fits_not_terminal {phase : ShutdownPhase} {point : Point}
    (h : point.fits phase) : isTerminal phase = false := by
  cases point with
  | entering reason => exact h
  | drainStart => exact not_terminal_of_inProgress h
  | leaving finalPhase => exact not_terminal_of_inProgress h.1
  | _ => rw [show phase = _ from h]; rfl

/-- Inside the phases the phase is one of the three in progress. -/
theorem Point.fits_inProgress {phase : ShutdownPhase} {point : Point} (hin : point.inPhases)
    (h : point.fits phase) : isInProgress phase := by
  cases point with
  | entering reason => cases hin
  | drainStart => exact h
  | leaving finalPhase => cases hin
  | _ => rw [show phase = _ from h]; rfl

theorem Point.inPhases_of_suspended {point : Point} (h : point.suspended) :
    point.inPhases := by
  cases point <;> first | rfl | cases h

/-! ## The invariant -/

/-- What holds of the coordinator in every state. -/
structure Sound (c : Coordinator) : Prop where
  running : c.running = c.point.isSome
  attributed : c.shutdownInProgress = c.point.any Point.inPhases
  filtered : c.filterInstalled = c.point.any Point.inPhases
  shown : c.metrics.currentPhase = c.phase
  requested : c.metrics.shutdownsRequested = if c.phase = .idle then 0 else 1
  reported : c.report.map (·.finalPhase) = if isTerminal c.phase then some c.phase else none
  completed : c.metrics.shutdownsCompleted = if c.phase = .stopped then 1 else 0
  failed : c.metrics.shutdownsFailed = if c.phase = .failed then 1 else 0
  marked : c.markedStopped = if isTerminal c.phase then 1 else 0
  fits : ∀ point, c.point = some point → point.fits c.phase

theorem sound_initial : Sound Coordinator.initial where
  running := rfl
  attributed := rfl
  filtered := rfl
  shown := rfl
  requested := rfl
  reported := rfl
  completed := rfl
  failed := rfl
  marked := rfl
  fits := by
    intro point hpoint
    cases hpoint

/-- Two coordinators that differ in the point and in what the report is built from. -/
structure SameStanding (c c' : Coordinator) : Prop where
  running : c'.running = c.running
  attributed : c'.shutdownInProgress = c.shutdownInProgress
  filtered : c'.filterInstalled = c.filterInstalled
  phase : c'.phase = c.phase
  metrics : c'.metrics = c.metrics
  report : c'.report = c.report
  marked : c'.markedStopped = c.markedStopped

/-- The coroutine moves on inside the phases. -/
theorem Sound.move {c c' : Coordinator} {point point' : Point} (h : Sound c)
    (hpoint : c.point = some point) (hin : point.inPhases) (hsame : SameStanding c c')
    (hpoint' : c'.point = some point') (hin' : point'.inPhases)
    (hfits : point'.fits c.phase) : Sound c' where
  running := by rw [hsame.running, h.running, hpoint, hpoint']; rfl
  attributed := by
    rw [hsame.attributed, h.attributed, hpoint, hpoint', Option.any_some, Option.any_some,
      hin, hin']
  filtered := by
    rw [hsame.filtered, h.filtered, hpoint, hpoint', Option.any_some, Option.any_some, hin,
      hin']
  shown := by rw [hsame.metrics, hsame.phase, h.shown]
  requested := by rw [hsame.metrics, hsame.phase, h.requested]
  reported := by rw [hsame.report, hsame.phase, h.reported]
  completed := by rw [hsame.metrics, hsame.phase, h.completed]
  failed := by rw [hsame.metrics, hsame.phase, h.failed]
  marked := by rw [hsame.marked, hsame.phase, h.marked]
  fits := by
    intro other hother
    rw [hpoint', Option.some_inj] at hother
    rw [← hother, hsame.phase]
    exact hfits

/-- One of the three phases begins. -/
theorem Sound.setPhase {c : Coordinator} {phase : ShutdownPhase} (h : Sound c)
    (hold : isInProgress c.phase) (hnew : isInProgress phase) {point : Point}
    (hpoint : c.point = some point) (hin : point.inPhases) {point' : Point}
    (hin' : point'.inPhases) (hfits : point'.fits phase) :
    Sound { c.setPhase phase with point := some point' } := by
  have hnot := not_terminal_of_inProgress hold
  have hnot' := not_terminal_of_inProgress hnew
  have hidle : c.phase ≠ .idle := by rintro heq; rw [heq] at hold; cases hold
  have hidle' : phase ≠ .idle := by rintro heq; rw [heq] at hnew; cases hnew
  have hends : c.phase ≠ .stopped ∧ c.phase ≠ .failed := by
    simpa [isTerminal] using hnot
  have hends' : phase ≠ .stopped ∧ phase ≠ .failed := by
    simpa [isTerminal] using hnot'
  refine ⟨?_, ?_, ?_, rfl, ?_, ?_, ?_, ?_, ?_, ?_⟩
  · exact h.running.trans (by rw [hpoint]; rfl)
  · exact h.attributed.trans (by rw [hpoint, Option.any_some, Option.any_some, hin, hin'])
  · exact h.filtered.trans (by rw [hpoint, Option.any_some, Option.any_some, hin, hin'])
  · exact h.requested.trans (by rw [if_neg hidle]; exact (if_neg hidle').symm)
  · exact h.reported.trans (by rw [hnot]; exact (if_neg (by simp [hnot', Coordinator.setPhase])).symm)
  · exact h.completed.trans (by rw [if_neg hends.1]; exact (if_neg hends'.1).symm)
  · exact h.failed.trans (by rw [if_neg hends.2]; exact (if_neg hends'.2).symm)
  · exact h.marked.trans (by rw [hnot]; exact (if_neg (by simp [hnot', Coordinator.setPhase])).symm)
  · rintro other hother
    cases hother
    exact hfits

/-- The way out of the phases, whatever happened to what the report is built from. -/
theorem Sound.leave {c c' : Coordinator} {point : Point} {finalPhase : ShutdownPhase}
    (h : Sound c) (hpoint : c.point = some point) (hin : point.inPhases)
    (hsame : SameStanding c c') (hterminal : isTerminal finalPhase) :
    Sound (c'.leave finalPhase) where
  running := by
    change c'.running = true
    rw [hsame.running, h.running, hpoint]
    rfl
  attributed := rfl
  filtered := rfl
  shown := by
    change c'.metrics.currentPhase = c'.phase
    rw [hsame.metrics, hsame.phase, h.shown]
  requested := by
    change c'.metrics.shutdownsRequested = if c'.phase = .idle then 0 else 1
    rw [hsame.metrics, hsame.phase, h.requested]
  reported := by
    change c'.report.map _ = if isTerminal c'.phase then some c'.phase else none
    rw [hsame.report, hsame.phase, h.reported]
  completed := by
    change c'.metrics.shutdownsCompleted = if c'.phase = .stopped then 1 else 0
    rw [hsame.metrics, hsame.phase, h.completed]
  failed := by
    change c'.metrics.shutdownsFailed = if c'.phase = .failed then 1 else 0
    rw [hsame.metrics, hsame.phase, h.failed]
  marked := by
    change c'.markedStopped = if isTerminal c'.phase then 1 else 0
    rw [hsame.marked, hsame.phase, h.marked]
  fits := by
    rintro other hother
    cases hother
    change isInProgress c'.phase ∧ isTerminal finalPhase
    rw [hsame.phase]
    exact ⟨Point.fits_inProgress hin (h.fits point hpoint), hterminal⟩

/-- `_finalize` with the end of `run`. -/
theorem Sound.finalize {c : Coordinator} {finalPhase : ShutdownPhase} {now : Int}
    (h : Sound c) (hpoint : c.point = some (.leaving finalPhase)) :
    Sound { c.finalize finalPhase now with running := false, point := none } := by
  obtain ⟨hprogress, hterminal⟩ := h.fits _ hpoint
  have hcompleted := h.completed
  have hfailed := h.failed
  have hmarked := h.marked
  have hrequested := h.requested
  have hattributed := h.attributed
  have hfiltered := h.filtered
  rw [hpoint] at hattributed hfiltered
  rw [not_terminal_of_inProgress hprogress] at hmarked
  refine ⟨rfl, hattributed, hfiltered, rfl, ?_, ?_, ?_, ?_, ?_, ?_⟩
  · change c.metrics.shutdownsRequested = if finalPhase = .idle then 0 else 1
    rw [hrequested]
    revert hprogress hterminal
    cases c.phase <;> cases finalPhase <;> simp [isInProgress, isTerminal]
  · change some finalPhase = if isTerminal finalPhase then some finalPhase else none
    rw [if_pos hterminal]
  · change (if decide (finalPhase = .stopped) then c.metrics.shutdownsCompleted + 1
      else c.metrics.shutdownsCompleted) = if finalPhase = .stopped then 1 else 0
    rw [hcompleted]
    revert hprogress hterminal
    cases c.phase <;> cases finalPhase <;> simp [isInProgress, isTerminal]
  · change (if decide (finalPhase = .stopped) then c.metrics.shutdownsFailed
      else c.metrics.shutdownsFailed + 1) = if finalPhase = .failed then 1 else 0
    rw [hfailed]
    revert hprogress hterminal
    cases c.phase <;> cases finalPhase <;> simp [isInProgress, isTerminal]
  · change c.markedStopped + 1 = if isTerminal finalPhase then 1 else 0
    rw [hmarked, hterminal]
    rfl
  · rintro other hother
    cases hother

/-! ## What a step preserves -/

theorem Sound.requestShutdown {c : Coordinator} (h : Sound c) (reason : String) (now : Int)
    (hpoint : ∀ point, c.point = some point → point.fits .draining ∨ c.phase ≠ .idle) :
    Sound (c.requestShutdown reason now) := by
  unfold Coordinator.requestShutdown
  by_cases hidle : c.phase = .idle
  · rw [if_neg (not_not.mpr hidle)]
    have hrequested := h.requested
    have hreported := h.reported
    have hcompleted := h.completed
    have hfailed := h.failed
    have hmarked := h.marked
    rw [hidle] at hrequested hreported hcompleted hfailed hmarked
    refine ⟨h.running, h.attributed, h.filtered, rfl, ?_, hreported, hcompleted, hfailed,
      hmarked, ?_⟩
    · exact congrArg (· + 1) hrequested
    · intro point hsome
      exact (hpoint point hsome).resolve_right (not_not.mpr hidle)
  · rw [if_pos hidle]
    exact h

/-- `request_shutdown` from another task. -/
theorem Sound.requestShutdown_quiet {c : Coordinator} (h : Sound c) (hquiet : c.quiet)
    (reason : String) (now : Int) : Sound (c.requestShutdown reason now) := by
  refine h.requestShutdown reason now fun point hpoint => Or.inr ?_
  rw [Coordinator.quiet, hpoint] at hquiet
  have hprogress := Point.fits_inProgress (Point.inPhases_of_suspended hquiet)
    (h.fits point hpoint)
  intro hidle
  rw [hidle] at hprogress
  cases hprogress

/-- A call of `run`. -/
theorem Sound.run {c : Coordinator} (h : Sound c) (reason : String) :
    Sound (c.run reason) := by
  unfold Coordinator.run
  by_cases hrunning : c.running
  · rw [if_pos hrunning]
    exact h
  by_cases hterminal : isTerminal c.phase
  · rw [if_neg hrunning, if_pos hterminal]
    exact h
  rw [if_neg hrunning, if_neg hterminal]
  have hnone : c.point = none := by
    cases hpoint : c.point with
    | none => rfl
    | some point => exact absurd (by rw [h.running, hpoint]; rfl) hrunning
  refine ⟨rfl, ?_, ?_, h.shown, h.requested, h.reported, h.completed, h.failed, h.marked, ?_⟩
  · exact h.attributed.trans (by rw [hnone]; rfl)
  · exact h.filtered.trans (by rw [hnone]; rfl)
  · rintro point hpoint
    cases hpoint
    exact Bool.eq_false_iff.mpr hterminal

/-- `run` claims its way in: the request, if there was none, and the attribution. -/
theorem Sound.enter {setup : Setup} {c : Coordinator} {reads : Reads} {reason : String}
    (h : Sound c) (hpoint : c.point = some (.entering reason)) :
    Sound (c.advanceAt setup reads (.entering reason)) := by
  have hfits : isTerminal c.phase = false := h.fits _ hpoint
  have hrequested : Sound (if c.phase = .idle then c.requestShutdown reason reads.now else c) := by
    by_cases hidle : c.phase = .idle
    · rw [if_pos hidle]
      refine h.requestShutdown reason reads.now fun point hsome => Or.inl ?_
      rw [hpoint, Option.some_inj] at hsome
      rw [← hsome]
      exact rfl
    · rw [if_neg hidle]
      exact h
  have hstanding : ∀ c' : Coordinator,
      c' = (if c.phase = .idle then c.requestShutdown reason reads.now else c) →
      c'.running = true ∧ isInProgress c'.phase := by
    rintro c' rfl
    have hrunning : c.running = true := by rw [h.running, hpoint]; rfl
    by_cases hidle : c.phase = .idle
    · rw [if_pos hidle, Coordinator.requestShutdown, if_neg (not_not.mpr hidle)]
      exact ⟨hrunning, rfl⟩
    · rw [if_neg hidle]
      refine ⟨hrunning, ?_⟩
      revert hfits hidle
      cases c.phase <;> simp [isInProgress, isTerminal]
  change Sound { (if c.phase = .idle then c.requestShutdown reason reads.now else c) with
    shutdownInProgress := true, filterInstalled := true, point := some .drainStart }
  generalize (if c.phase = .idle then c.requestShutdown reason reads.now else c) = c'
    at hrequested hstanding ⊢
  obtain ⟨hrunning, hprogress⟩ := hstanding c' rfl
  refine ⟨hrunning, rfl, rfl, hrequested.shown, hrequested.requested, hrequested.reported,
    hrequested.completed, hrequested.failed, hrequested.marked, ?_⟩
  rintro point hsome
  cases hsome
  exact hprogress

/-- The artifacts are captured without a word on the coordinator's standing. -/
theorem sameStanding_captureArtifacts (c : Coordinator) (reads : Reads) :
    SameStanding c (c.captureArtifacts reads) := by
  unfold Coordinator.captureArtifacts
  cases reads.checkpoint <;> cases reads.snapshot <;> constructor <;> rfl

/-- One step of the coroutine. -/
theorem Sound.advance {setup : Setup} {c : Coordinator} {reads : Reads} {point : Point}
    (h : Sound c) (hpoint : c.point = some point) : Sound (c.advanceAt setup reads point) := by
  have hfits := h.fits point hpoint
  cases point with
  | entering reason => exact h.enter hpoint
  | drainStart =>
    have hdraining : ∀ point' : Point, point'.inPhases → point'.fits .draining →
        Sound { c.setPhase .draining with point := some point' } := fun point' hin' hfits' =>
      h.setPhase hfits rfl hpoint rfl hin' hfits'
    unfold Coordinator.advanceAt
    cases reads.clientCount with
    | none =>
      have hstarted := hdraining .finalizeStart rfl rfl
      exact hstarted.leave rfl rfl ⟨rfl, rfl, rfl, rfl, rfl, rfl, rfl⟩ rfl
    | some clients =>
      cases clients with
      | zero => exact hdraining (.joining reads.now) rfl rfl
      | succ clients => exact hdraining (.broadcasting reads.now) rfl rfl
  | broadcasting started =>
    unfold Coordinator.advanceAt
    cases reads.raised with
    | none => exact h.move hpoint rfl ⟨rfl, rfl, rfl, rfl, rfl, rfl, rfl⟩ rfl rfl hfits
    | some text => exact h.move hpoint rfl ⟨rfl, rfl, rfl, rfl, rfl, rfl, rfl⟩ rfl rfl hfits
  | notifying started => exact h.move hpoint rfl ⟨rfl, rfl, rfl, rfl, rfl, rfl, rfl⟩ rfl rfl hfits
  | joining started => exact h.move hpoint rfl ⟨rfl, rfl, rfl, rfl, rfl, rfl, rfl⟩ rfl rfl hfits
  | finalizeStart =>
    refine h.setPhase ?_ rfl hpoint rfl rfl rfl
    rw [show c.phase = .draining from hfits]
    rfl
  | capturing started =>
    have hsame := sameStanding_captureArtifacts c reads
    exact h.move hpoint rfl ⟨hsame.running, hsame.attributed, hsame.filtered, hsame.phase,
      hsame.metrics, hsame.report, hsame.marked⟩ rfl rfl hfits
  | stopStart =>
    refine h.setPhase ?_ rfl hpoint rfl rfl rfl
    rw [show c.phase = .finalizing from hfits]
    rfl
  | betweenServices started left =>
    cases left with
    | nil => exact h.move hpoint rfl ⟨rfl, rfl, rfl, rfl, rfl, rfl, rfl⟩ rfl rfl hfits
    | cons service left =>
      have hnext : (if service.awaited then Point.awaitingService started left
          else .betweenServices started left).inPhases = true := by
        cases service.awaited <;> rfl
      refine h.move hpoint rfl ⟨rfl, rfl, rfl, rfl, rfl, rfl, rfl⟩ rfl hnext ?_
      cases service.awaited <;> exact hfits
  | awaitingService started left =>
    exact h.move hpoint rfl ⟨rfl, rfl, rfl, rfl, rfl, rfl, rfl⟩ rfl rfl hfits
  | forcing started timedOut =>
    unfold Coordinator.advanceAt
    cases reads.clientCount with
    | none => exact h.leave hpoint rfl ⟨rfl, rfl, rfl, rfl, rfl, rfl, rfl⟩ rfl
    | some clients => exact h.move hpoint rfl ⟨rfl, rfl, rfl, rfl, rfl, rfl, rfl⟩ rfl rfl hfits
  | disconnecting started timedOut clients =>
    exact h.leave hpoint rfl ⟨rfl, rfl, rfl, rfl, rfl, rfl, rfl⟩ rfl
  | leaving finalPhase => exact h.finalize hpoint

/-- The budget of a phase runs out. -/
theorem Sound.phaseTimeout {c c' : Coordinator} {now : Int} {point : Point} (h : Sound c)
    (hpoint : c.point = some point) (hstep : c.phaseTimeoutAt now point = some c') :
    Sound c' := by
  have hfits := h.fits point hpoint
  cases point with
  | broadcasting started =>
    cases hstep
    exact h.move hpoint rfl ⟨rfl, rfl, rfl, rfl, rfl, rfl, rfl⟩ rfl rfl hfits
  | notifying started =>
    cases hstep
    exact h.move hpoint rfl ⟨rfl, rfl, rfl, rfl, rfl, rfl, rfl⟩ rfl rfl hfits
  | joining started =>
    cases hstep
    exact h.move hpoint rfl ⟨rfl, rfl, rfl, rfl, rfl, rfl, rfl⟩ rfl rfl hfits
  | capturing started =>
    cases hstep
    exact h.move hpoint rfl ⟨rfl, rfl, rfl, rfl, rfl, rfl, rfl⟩ rfl rfl hfits
  | awaitingService started left =>
    cases hstep
    exact h.move hpoint rfl ⟨rfl, rfl, rfl, rfl, rfl, rfl, rfl⟩ rfl rfl hfits
  | disconnecting started timedOut clients =>
    cases timedOut with
    | true => cases hstep
    | false =>
      cases hstep
      exact h.move hpoint rfl ⟨rfl, rfl, rfl, rfl, rfl, rfl, rfl⟩ rfl rfl hfits
  | _ => cases hstep

/-- The task of `run` is cancelled. -/
theorem Sound.cancelRun {c : Coordinator} (h : Sound c) : Sound c.cancelRun where
  running := rfl
  attributed := rfl
  filtered := rfl
  shown := h.shown
  requested := h.requested
  reported := h.reported
  completed := h.completed
  failed := h.failed
  marked := h.marked
  fits := by
    intro point hpoint
    cases hpoint

/-- What one step preserves. -/
theorem sound_step {setup : Setup} {c c' : Coordinator} {action : Coordinator.Action}
    (h : Sound c) (hstep : Coordinator.step setup c action = some c') : Sound c' := by
  cases action with
  | requestShutdown reason now =>
    obtain ⟨hquiet, heq⟩ := Option.ite_none_right_eq_some.mp hstep
    cases heq
    exact h.requestShutdown_quiet hquiet reason now
  | run reason =>
    obtain ⟨_, heq⟩ := Option.ite_none_right_eq_some.mp hstep
    cases heq
    exact h.run reason
  | advance reads =>
    obtain ⟨point, hpoint, heq⟩ := Option.map_eq_some_iff.mp hstep
    cases heq
    exact h.advance hpoint
  | phaseTimeout now =>
    obtain ⟨point, hpoint, heq⟩ := Option.bind_eq_some_iff.mp hstep
    exact h.phaseTimeout hpoint heq
  | totalTimeout =>
    obtain ⟨⟨_, hsuspended⟩, heq⟩ := Option.ite_none_right_eq_some.mp hstep
    cases heq
    obtain ⟨point, hpoint, hsuspended⟩ := (Option.any_eq_true _ _).mp hsuspended
    exact h.leave hpoint (Point.inPhases_of_suspended hsuspended)
      ⟨rfl, rfl, rfl, rfl, rfl, rfl, rfl⟩ rfl
  | cancel =>
    obtain ⟨_, heq⟩ := Option.ite_none_right_eq_some.mp hstep
    cases heq
    exact h.cancelRun

/-- What a run preserves. -/
theorem sound_exec {setup : Setup} {actions : List Coordinator.Action} {c : Coordinator}
    (hrun : exec (Coordinator.step setup) Coordinator.initial actions = some c) : Sound c :=
  exec_invariant (fun _ _ _ h hstep => sound_step h hstep) sound_initial hrun

/-! ## After the report -/

/-- In a terminal phase no `run` is active. -/
theorem Sound.point_eq_none {c : Coordinator} (h : Sound c) (hterminal : isTerminal c.phase) :
    c.point = none := by
  cases hpoint : c.point with
  | none => rfl
  | some point =>
    rw [Point.fits_not_terminal (h.fits point hpoint)] at hterminal
    cases hterminal

/-- In a terminal phase no step changes anything. -/
theorem step_of_terminal {setup : Setup} {c c' : Coordinator} {action : Coordinator.Action}
    (h : Sound c) (hterminal : isTerminal c.phase)
    (hstep : Coordinator.step setup c action = some c') : c' = c := by
  have hnone := h.point_eq_none hterminal
  cases action with
  | requestShutdown reason now =>
    obtain ⟨_, heq⟩ := Option.ite_none_right_eq_some.mp hstep
    cases heq
    have hidle : c.phase ≠ .idle := by
      intro hidle
      rw [hidle] at hterminal
      cases hterminal
    rw [Coordinator.requestShutdown, if_pos hidle]
  | run reason =>
    obtain ⟨_, heq⟩ := Option.ite_none_right_eq_some.mp hstep
    cases heq
    rw [Coordinator.run, if_pos hterminal, ite_self]
  | advance reads =>
    rw [Coordinator.step, hnone] at hstep
    cases hstep
  | phaseTimeout now =>
    rw [Coordinator.step, hnone] at hstep
    cases hstep
  | totalTimeout =>
    rw [Coordinator.step, hnone, if_neg (by simp)] at hstep
    cases hstep
  | cancel =>
    rw [Coordinator.step, hnone, if_neg (by simp)] at hstep
    cases hstep

/-- In a terminal phase no run changes anything. -/
theorem exec_of_terminal {setup : Setup} {actions : List Coordinator.Action} {c c' : Coordinator}
    (h : Sound c) (hterminal : isTerminal c.phase)
    (hrun : exec (Coordinator.step setup) c actions = some c') : c' = c := by
  have hkeep : c' = c ∧ Sound c' :=
    exec_invariant (I := fun s => s = c ∧ Sound s)
      (fun s action s' hs hstep => by
        obtain ⟨rfl, hsound⟩ := hs
        exact ⟨step_of_terminal hsound hterminal hstep, sound_step hsound hstep⟩)
      ⟨rfl, h⟩ hrun
  exact hkeep.1

/-- Whatever the services do and whoever calls, in every state of every run: `_running` is
    held exactly while a `run` is active, cancellations are attributed to the shutdown and the
    filter is in place only then; the shutdown is requested at most once; the report, the
    terminal phase that it names, one completion or failure and the one `mark_stopped` come
    together; and from then on no call and no event changes anything. -/
theorem coordinator_lifecycle {setup : Setup} {actions : List Coordinator.Action}
    {c : Coordinator}
    (hrun : exec (Coordinator.step setup) Coordinator.initial actions = some c) :
    c.running = c.point.isSome ∧
      (c.shutdownInProgress → c.running) ∧ c.filterInstalled = c.shutdownInProgress ∧
      c.metrics.shutdownsRequested = (if c.phase = .idle then 0 else 1) ∧
      c.readReport.map (·.finalPhase) = (if isTerminal c.phase then some c.phase else none) ∧
      c.metrics.shutdownsCompleted + c.metrics.shutdownsFailed = c.markedStopped ∧
      c.markedStopped = (if isTerminal c.phase then 1 else 0) ∧
      (isTerminal c.phase → ∀ later c', exec (Coordinator.step setup) c later = some c' →
        c' = c) := by
  have h := sound_exec hrun
  refine ⟨h.running, ?_, h.filtered.trans h.attributed.symm, h.requested, h.reported, ?_,
    h.marked, fun hterminal later c' hlater => exec_of_terminal h hterminal hlater⟩
  · intro hattributed
    rw [h.attributed] at hattributed
    obtain ⟨point, hpoint, _⟩ := (Option.any_eq_true _ _).mp hattributed
    rw [h.running, hpoint]
    rfl
  · rw [h.completed, h.failed, h.marked]
    cases c.phase <;> rfl

theorem coordinator_lifecycle_smooth :
    ∃ c, exec (Coordinator.step Coordinator.busOnly) Coordinator.initial
        Coordinator.smoothShutdown = some c ∧ c.phase = .stopped ∧ c.markedStopped = 1 ∧
      ∀ later c', exec (Coordinator.step Coordinator.busOnly) c later = some c' → c' = c := by
  have hphase : (exec (Coordinator.step Coordinator.busOnly) Coordinator.initial
      Coordinator.smoothShutdown).map (·.phase) = some .stopped := rfl
  obtain ⟨c, hrun, hstopped⟩ := Option.map_eq_some_iff.mp hphase
  obtain ⟨_, _, _, _, _, _, hmarked, hfinal⟩ := coordinator_lifecycle hrun
  rw [hstopped] at hmarked hfinal
  exact ⟨c, hrun, hstopped, hmarked, hfinal rfl⟩

end AsyncViz.Runtime.Shutdown
