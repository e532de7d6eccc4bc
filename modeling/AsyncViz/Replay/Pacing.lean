/-
  AsyncViz.Replay.Pacing

  When the playback loop lets a frame through.

  The loop looks at the pause gate, the mode, the clock and the stop event once each for a
  frame, with awaits in between.  `Orderly` says which calls keep clear of what it does not
  look at again; `Relies` is what it can rely on at each point in their absence, and `Paced`
  the invariant of a run.  In an orderly run no frame is dispatched while paused, none early,
  and none without a step in step mode (`Safe`).
-/

import AsyncViz.Replay.PlaybackLoop

namespace AsyncViz.Replay

open AsyncViz.Lib.Transition

namespace PlaybackController

/-! ## The pace -/

/-- The frames that have been dispatched in step mode. -/
def stepDispatches (s : PlaybackController) : Nat :=
  s.dispatched.countP fun dispatch => dispatch.mode = .step

/-- No frame has been dispatched while the controller was paused, none in realtime mode
    before the virtual time had reached it, and in step mode no more than `step()` was
    called. -/
structure Safe (s : PlaybackController) : Prop where
  unpaused : ∀ dispatch ∈ s.dispatched, dispatch.paused = false
  timely : ∀ dispatch ∈ s.dispatched, dispatch.mode = .realtime →
    dispatch.frame.monotonicNs ≤ dispatch.virtualNs
  stepped : s.stepDispatches ≤ s.steps

/-- The loop's next check finds what it goes by: the step event, if a step is to let the
    frame through, has been set by `step()`, and the wait for the frame is not cut short. -/
def Founded (s : PlaybackController) : LoopPoint → Prop
  | .passed _ _ =>
    s.stopEvent = true ∨
      (s.scheduler.mode = .step → s.stepEvent = true → s.stepAsked = true)
  | .ready frame _ _ => s.scheduler.Uncapped s.engine.clock frame.monotonicNs s.now
  | _ => True

/-- No call lands where the loop does not look again: none pauses a loop that is past its
    gate, or lets one go on with a step while paused, and none changes the clock, or turns to
    step mode, during a sleep.  A loop that is to stop is of no concern. -/
def Orderly (s : PlaybackController) : Action → Prop
  | .play _ => s.taskRunning = true ∨ s.stopping = []
  | .pause =>
    s.stopEvent = true ∨ ∀ i point, s.running i = some point → point.pastGate = false
  | .step =>
    s.stopEvent = true ∨ s.engine.clock.paused = false ∨
      ∀ i point, s.running i = some point → point.awaitsStep = false
  | .setSpeed speed =>
    s.stopEvent = true ∨ s.engine.clock.speed = clampSpeed speed ∨
      ∀ i point, s.running i = some point → point.sleeps = false
  | .setMode mode =>
    mode = .step → s.stopEvent = true ∨
      ∀ i point, s.running i = some point → point.sleeps = true → point.stepped = true
  | .loop i => ∀ point, s.running i = some point → Founded s point
  | _ => True

/-- What a loop can rely on where it is. -/
def Relies (s : PlaybackController) : LoopPoint → Prop
  | .created _ | .top _ | .sinking _ _ _ _ => True
  | .gated _ _ woken => woken = true → s.stopEvent = false → s.engine.clock.paused = false
  | .passed _ _ => s.stopEvent = false → s.engine.clock.paused = false
  | .stepping _ _ woken =>
    woken = true → s.stopEvent = false → s.engine.clock.paused = false ∧ s.stepAsked = true
  | .ready _ _ stepped =>
    s.engine.clock.paused = false ∧ (s.scheduler.mode = .step → stepped = true)
  | .sleeping frame _ stepped deadline woken =>
    s.stopEvent = false → woken = false ∧ s.engine.clock.paused = false ∧
      (s.scheduler.mode = .step → stepped = true) ∧
      ∀ t : Int, deadline ≤ t → frame.monotonicNs ≤ s.engine.clock.currentVirtualNs t
  | .due frame _ stepped =>
    s.engine.clock.paused = false ∧ (s.scheduler.mode = .step → stepped = true) ∧
      (s.scheduler.mode = .realtime → ∀ t : Int, s.now ≤ t →
        frame.monotonicNs ≤ s.engine.clock.currentVirtualNs t)

/-- What an orderly run keeps.  Only the loop of `_task` runs; the `step()` calls cover the
    frames that were stepped, one call that is not used yet, and the frame in hand. -/
structure Paced (s : PlaybackController) : Prop where
  event : s.pauseEvent = !s.engine.clock.paused
  speed : 0 < s.engine.clock.speed
  anchored : s.engine.clock.wallAnchorNs ≤ s.now
  single : ∀ i point, s.running i = some point → s.task = some i
  awaited : ∀ i ∈ s.stopping, ∀ j, s.task = some j → i = j
  relies : ∀ i point, s.running i = some point → Relies s point
  covered : s.stepDispatches + s.stepAsked.toNat ≤ s.steps
  held : ∀ i point, s.running i = some point →
    s.stepDispatches + s.stepAsked.toNat + point.stepped.toNat ≤ s.steps
  unpaused : ∀ dispatch ∈ s.dispatched, dispatch.paused = false
  timely : ∀ dispatch ∈ s.dispatched, dispatch.mode = .realtime →
    dispatch.frame.monotonicNs ≤ dispatch.virtualNs

theorem Paced.safe {s : PlaybackController} (h : Paced s) : Safe s :=
  ⟨h.unpaused, h.timely, (Nat.le_add_right _ _).trans h.covered⟩

/-! ### Loops -/

theorem lt_of_running {s : PlaybackController} {i : Nat} {point : LoopPoint}
    (h : s.running i = some point) : i < s.loops.length := by
  have hloop : s.loops[i]? = some (some point) := Option.join_eq_some_iff.mp h
  exact (List.getElem?_eq_some_iff.mp hloop).1

theorem running_set {s : PlaybackController} {i : Nat} {point : LoopPoint}
    (h : s.running i = some point) (loop : Option LoopPoint) (j : Nat) :
    ((s.loops.set i loop)[j]?).join = if j = i then loop else s.running j := by
  rw [List.getElem?_set]
  by_cases hij : j = i
  · rw [if_pos hij.symm, if_pos hij, if_pos (lt_of_running h)]
    rfl
  · rw [if_neg (Ne.symm hij), if_neg hij]
    rfl

@[simp] theorem running_wake (s : PlaybackController) (f : LoopPoint → LoopPoint) (j : Nat) :
    (s.wake f).running j = (s.running j).map f := by
  rw [running, running, wake, List.getElem?_map]
  cases s.loops[j]? <;> rfl

/-- While every loop is at an await, each is. -/
theorem awaits_of_atAwait {s : PlaybackController} (h : s.atAwait = true) {i : Nat}
    {point : LoopPoint} (hi : s.running i = some point) : point.awaits = true := by
  have hloop : s.loops[i]? = some (some point) := Option.join_eq_some_iff.mp hi
  have hmem : some point ∈ s.loops := List.mem_of_getElem? hloop
  exact List.all_eq_true.mp h _ hmem

theorem atAwait_wake {s : PlaybackController} {f : LoopPoint → LoopPoint}
    (hf : ∀ point, (f point).awaits = point.awaits) (h : s.atAwait = true) :
    (s.wake f).atAwait = true := by
  refine List.all_eq_true.mpr fun loop hloop => ?_
  obtain ⟨old, hold, rfl⟩ := List.mem_map.mp hloop
  have hawaits := List.all_eq_true.mp h old hold
  cases old with
  | none => rfl
  | some point => exact (hf point).trans hawaits

theorem atAwait_resume {s : PlaybackController} (h : s.atAwait = true) :
    s.resume.atAwait = true := by
  rw [resume]
  split
  next => exact atAwait_wake LoopPoint.awaits_wakeGate h
  next => exact h

/-- `resume()` leaves the stop event and the tasks alone. -/
theorem resume_frame (s : PlaybackController) :
    s.resume.stopEvent = s.stopEvent ∧ s.resume.task = s.task ∧
      ∀ j, s.running j = none → s.resume.running j = none := by
  rw [resume]
  split
  next =>
    refine ⟨rfl, rfl, fun j hj => ?_⟩
    rw [running_wake]
    exact Option.map_eq_none_iff.mpr hj
  next => exact ⟨rfl, rfl, fun _ hj => hj⟩

theorem signalStop_frame (s : PlaybackController) :
    s.signalStop.task = s.task ∧ ∀ j, s.running j = none → s.signalStop.running j = none := by
  obtain ⟨-, htask, hrunning⟩ :=
    resume_frame ({ s with stopEvent := true }.wake LoopPoint.wakeSleep)
  refine ⟨htask, fun j hj => ?_⟩
  rw [signalStop, setStepEvent, running_wake, Option.map_eq_none_iff]
  refine hrunning j ?_
  rw [running_wake]
  exact Option.map_eq_none_iff.mpr hj

section Relies

variable {s s' : PlaybackController} {point : LoopPoint}

/-- What a loop relies on does not depend on the rest of the state, nor on time. -/
theorem Relies.mono (h : Relies s point) (hclock : s'.engine.clock = s.engine.clock)
    (hnow : s.now ≤ s'.now) (hstop : s'.stopEvent = s.stopEvent)
    (hmode : s'.scheduler.mode = s.scheduler.mode) (hasked : s'.stepAsked = s.stepAsked) :
    Relies s' point := by
  cases point <;> simp only [Relies, hclock, hstop, hmode, hasked] at h ⊢
  case due => exact ⟨h.1, h.2.1, fun hreal t ht => h.2.2 hreal t (hnow.trans ht)⟩
  all_goals exact h

/-- A loop that waits and is to stop relies on nothing. -/
theorem Relies.of_stop (hawaits : point.awaits = true) (hstop : s.stopEvent = true) :
    Relies s point := by
  cases point <;> simp_all [Relies, LoopPoint.awaits]

/-- Neither does one that waits before its gate, or for a step. -/
theorem Relies.of_pastGate (hawaits : point.awaits = true) (hpast : point.pastGate = false) :
    Relies s point := by
  cases point <;> simp_all [Relies, LoopPoint.awaits, LoopPoint.pastGate]

/-- While the controller is paused, no loop that goes on is past its gate. -/
theorem Relies.pastGate (h : Relies s point) (hpaused : s.engine.clock.paused = true)
    (hstop : s.stopEvent = false) : point.pastGate = false := by
  cases point <;> simp_all [Relies, LoopPoint.pastGate]

end Relies

/-! ### Calls -/

section Calls

variable {s : PlaybackController}

/-- While the task is not running, nothing runs. -/
theorem Paced.running_eq_none (h : Paced s) (hidle : s.taskRunning = false) (i : Nat) :
    s.running i = none := by
  cases hi : s.running i with
  | none => rfl
  | some point =>
    rw [taskRunning, h.single i point hi, Option.bind_some, hi] at hidle
    exact absurd hidle (by simp)

theorem Paced.elapse (h : Paced s) (ns : Nat) : Paced { s with now := s.now + ns } :=
  { h with
    anchored := by
      have := h.anchored
      change s.engine.clock.wallAnchorNs ≤ s.now + ns
      omega
    relies := fun i point hi =>
      (h.relies i point hi).mono rfl (by change s.now ≤ s.now + ns; omega) rfl rfl rfl }

theorem Paced.play (h : Paced s) (frames : List ReplayFrame)
    (horderly : s.taskRunning = true ∨ s.stopping = []) : Paced (s.play frames) := by
  rw [PlaybackController.play]
  by_cases hidle : s.taskRunning = true
  · rwa [if_pos hidle]
  · rw [if_neg hidle]
    -- nothing runs but the new loop
    have hnone := h.running_eq_none (Bool.eq_false_iff.mpr hidle)
    have hnew : ∀ {i point},
        ((s.loops ++ [some (.created frames)])[i]?).join = some point →
          i = s.loops.length ∧ point = .created frames := by
      intro i point hi
      rcases Nat.lt_trichotomy i s.loops.length with hlt | rfl | hgt
      · rw [List.getElem?_append_left hlt] at hi
        exact absurd ((hnone i).symm.trans hi) (by simp)
      · rw [List.getElem?_concat_length] at hi
        exact ⟨rfl, (Option.some.inj hi).symm⟩
      · rw [List.getElem?_eq_none (by rw [List.length_append, List.length_singleton]; omega)] at hi
        exact absurd hi (by simp)
    have hstopping := horderly.resolve_left hidle
    exact
      { h with
        single := fun i point hi => by rw [(hnew hi).1]
        awaited := fun i hi => by
          rw [hstopping] at hi
          exact absurd hi List.not_mem_nil
        relies := fun i point hi => by
          rw [(hnew hi).2]
          trivial
        held := fun i point hi => by
          rw [(hnew hi).2]
          exact h.covered }

/-- What an event wakes is still the same loop, with the same frame in hand. -/
theorem Paced.wake (h : Paced s) {f : LoopPoint → LoopPoint}
    (hstepped : ∀ point, (f point).stepped = point.stepped)
    (hrelies : ∀ i point, s.running i = some point → Relies s (f point)) : Paced (s.wake f) := by
  have hold : ∀ {i point}, (s.wake f).running i = some point →
      ∃ old, s.running i = some old ∧ f old = point := by
    intro i point hi
    rw [running_wake] at hi
    exact Option.map_eq_some_iff.mp hi
  exact
    { h with
      single := fun i point hi => by
        obtain ⟨old, hold, -⟩ := hold hi
        exact h.single i old hold
      relies := fun i point hi => by
        obtain ⟨old, hold, rfl⟩ := hold hi
        exact (hrelies i old hold).mono rfl le_rfl rfl rfl rfl
      held := fun i point hi => by
        obtain ⟨old, hold, rfl⟩ := hold hi
        rw [hstepped old]
        exact h.held i old hold }

theorem Paced.pause (h : Paced s) (hawait : s.atAwait = true)
    (horderly : s.stopEvent = true ∨
      ∀ i point, s.running i = some point → point.pastGate = false) : Paced s.pause := by
  rw [PlaybackController.pause]
  by_cases hpaused : s.engine.clock.paused = true
  · rwa [if_pos hpaused]
  · rw [if_neg hpaused]
    have hclock : (s.engine.clock.pause s.now).speed = s.engine.clock.speed ∧
        (s.engine.clock.pause s.now).wallAnchorNs = s.engine.clock.wallAnchorNs := by
      rw [ReplayClock.pause, if_neg hpaused]
      exact ⟨rfl, rfl⟩
    exact
      { h with
        event := by
          change false = !(s.engine.clock.pause s.now).paused
          rw [ReplayClock.paused_pause]
          rfl
        speed := hclock.1 ▸ h.speed
        anchored := hclock.2 ▸ h.anchored
        relies := fun i point hi => by
          have hawaits := awaits_of_atAwait hawait hi
          rcases horderly with hstop | hpast
          · exact .of_stop hawaits hstop
          · exact .of_pastGate hawaits (hpast i point hi) }

theorem Paced.resume (h : Paced s) (hawait : s.atAwait = true) : Paced s.resume := by
  rw [PlaybackController.resume]
  by_cases hpaused : s.engine.clock.paused = true
  · rw [if_pos hpaused]
    have hclock : (s.engine.clock.resume s.now).speed = s.engine.clock.speed ∧
        (s.engine.clock.resume s.now).wallAnchorNs ≤ s.now := by
      rw [ReplayClock.resume]
      split
      next => exact ⟨rfl, h.anchored⟩
      next => exact ⟨rfl, le_rfl⟩
    have hrunning : (s.engine.clock.resume s.now).paused = false := ReplayClock.paused_resume s.now
    have hresumed : Paced { s with
        engine := { s.engine with clock := s.engine.clock.resume s.now }
        pauseEvent := true } :=
      { h with
        event := by
          change true = !(s.engine.clock.resume s.now).paused
          rw [hrunning]
          rfl
        speed := hclock.1 ▸ h.speed
        anchored := hclock.2
        relies := fun i point hi => by
          have hawaits := awaits_of_atAwait hawait hi
          by_cases hstop : s.stopEvent = true
          · exact .of_stop hawaits hstop
          · exact .of_pastGate hawaits
              ((h.relies i point hi).pastGate hpaused (Bool.eq_false_iff.mpr hstop)) }
    refine hresumed.wake LoopPoint.stepped_wakeGate fun i point hi => ?_
    have hawaits := awaits_of_atAwait hawait hi
    by_cases hstop : s.stopEvent = true
    · exact .of_stop ((LoopPoint.awaits_wakeGate point).trans hawaits) hstop
    · have hpast := (h.relies i point hi).pastGate hpaused (Bool.eq_false_iff.mpr hstop)
      cases point with
      | gated frame rest woken => exact fun _ _ => hrunning
      | _ => exact .of_pastGate hawaits hpast
  · rwa [if_neg hpaused]

theorem Paced.setSpeed (h : Paced s) (hawait : s.atAwait = true) (speed : ℚ)
    (horderly : s.stopEvent = true ∨ s.engine.clock.speed = clampSpeed speed ∨
      ∀ i point, s.running i = some point → point.sleeps = false) :
    Paced (s.setSpeed speed) := by
  by_cases hsame : s.engine.clock.speed = clampSpeed speed
  · have hclock : s.engine.clock.withSpeed speed s.now = s.engine.clock := by
      rw [ReplayClock.withSpeed, if_pos hsame]
    rw [PlaybackController.setSpeed, hclock]
    exact h
  · have hclock : s.engine.clock.withSpeed speed s.now
        = { wallAnchorNs := s.now
            virtualAnchorNs := s.engine.clock.currentVirtualNs s.now
            speed := clampSpeed speed
            pausedVirtualNs := s.engine.clock.pausedVirtualNs.map fun _ =>
              s.engine.clock.currentVirtualNs s.now } := by
      rw [ReplayClock.withSpeed, if_neg hsame, ReplayClock.setSpeed_clampSpeed]
      rfl
    have hpaused : (s.engine.clock.withSpeed speed s.now).paused = s.engine.clock.paused := by
      rw [hclock, ReplayClock.paused, ReplayClock.paused, Option.isSome_map]
    exact
      { h with
        event := h.event.trans (by rw [← hpaused]; rfl)
        speed := by
          change 0 < (s.engine.clock.withSpeed speed s.now).speed
          rw [hclock]
          exact clampSpeed_pos speed
        anchored := by
          change (s.engine.clock.withSpeed speed s.now).wallAnchorNs ≤ s.now
          rw [hclock]
        relies := fun i point hi => by
          have hawaits := awaits_of_atAwait hawait hi
          rcases horderly with hstop | heq | hsleeps
          · exact .of_stop hawaits hstop
          · exact absurd heq hsame
          · have hrelies := h.relies i point hi
            have hawake := hsleeps i point hi
            cases point with
            | gated frame rest woken =>
              exact fun hwoken hstop => hpaused.trans (hrelies hwoken hstop)
            | stepping frame rest woken =>
              exact fun hwoken hstop => (hrelies hwoken hstop).imp_left hpaused.trans
            | sleeping => exact absurd hawake (by simp [LoopPoint.sleeps])
            | _ => exact .of_pastGate hawaits rfl }

theorem Paced.setMode (h : Paced s) (hawait : s.atAwait = true) (mode : PlaybackMode)
    (horderly : mode = .step → s.stopEvent = true ∨
      ∀ i point, s.running i = some point → point.sleeps = true → point.stepped = true) :
    Paced (s.setMode mode) :=
  { h with
    relies := fun i point hi => by
      have hawaits := awaits_of_atAwait hawait hi
      have hrelies := h.relies i point hi
      cases point with
      | sleeping frame rest stepped deadline woken =>
        intro hstop
        obtain ⟨hwoken, hpaused, -, htimely⟩ := hrelies hstop
        refine ⟨hwoken, hpaused, fun hmode => ?_, htimely⟩
        rcases horderly hmode with hstopped | hsleeps
        · exact absurd (hstop.symm.trans hstopped) Bool.false_ne_true
        · exact hsleeps i _ hi rfl
      | gated => exact hrelies
      | stepping => exact hrelies
      | _ => exact .of_pastGate hawaits rfl }

theorem Paced.stepOnce (h : Paced s)
    (horderly : s.stopEvent = true ∨ s.engine.clock.paused = false ∨
      ∀ i point, s.running i = some point → point.awaitsStep = false) : Paced s.stepOnce := by
  have hasked : s.stepDispatches + 1 ≤ s.steps + 1 := by
    have := h.covered
    omega
  have hcalled : Paced { s with stepAsked := true, steps := s.steps + 1, stepEvent := true } :=
    { h with
      relies := fun i point hi => by
        have hrelies := h.relies i point hi
        cases point with
        | stepping => exact fun hwoken hstop => ⟨(hrelies hwoken hstop).1, rfl⟩
        | _ => exact hrelies
      covered := hasked
      held := fun i point hi => by
        have hheld := h.held i point hi
        change s.stepDispatches + 1 + point.stepped.toNat ≤ s.steps + 1
        omega }
  refine hcalled.wake LoopPoint.stepped_wakeStep fun i point hi => ?_
  have hrelies := hcalled.relies i point hi
  cases point with
  | stepping frame rest woken =>
    intro _ hstop
    rcases horderly with hstopped | hrunning | hawaits
    · exact absurd (hstop.symm.trans hstopped) Bool.false_ne_true
    · exact ⟨hrunning, rfl⟩
    · exact absurd (hawaits i _ hi) (by simp [LoopPoint.awaitsStep])
  | _ => exact hrelies

/-- A loop that is to stop may be woken in any way. -/
theorem Paced.signalStop (h : Paced s) (hawait : s.atAwait = true) : Paced s.signalStop := by
  have hstopped : Paced ({ s with stopEvent := true }.wake LoopPoint.wakeSleep) := by
    have hset : Paced { s with stopEvent := true } :=
      { h with
        relies := fun i point hi => .of_stop (awaits_of_atAwait hawait hi) rfl }
    refine hset.wake LoopPoint.stepped_wakeSleep fun i point hi => ?_
    have hawaits := awaits_of_atAwait hawait hi
    exact .of_stop ((LoopPoint.awaits_wakeSleep point).trans hawaits) rfl
  have hawait' : ({ s with stopEvent := true }.wake LoopPoint.wakeSleep).atAwait = true :=
    atAwait_wake LoopPoint.awaits_wakeSleep hawait
  have hstop := (resume_frame ({ s with stopEvent := true }.wake LoopPoint.wakeSleep)).1
  have hawait'' := atAwait_resume hawait'
  have hset : Paced { ({ s with stopEvent := true }.wake LoopPoint.wakeSleep).resume with
      stepEvent := true } :=
    { hstopped.resume hawait' with
      relies := fun i point hi => .of_stop (awaits_of_atAwait hawait'' hi) hstop }
  refine hset.wake LoopPoint.stepped_wakeStep fun i point hi => ?_
  exact .of_stop ((LoopPoint.awaits_wakeStep point).trans (awaits_of_atAwait hawait'' hi)) hstop

theorem Paced.dropTask (h : Paced s) (hnone : ∀ i, s.running i = none) (stopping : List Nat) :
    Paced { s.dropTask with stopping := stopping } :=
  { h with
    single := fun i point hi => absurd ((hnone i).symm.trans hi) (by simp)
    awaited := fun i _ j hj => absurd hj (by simp [PlaybackController.dropTask])
    relies := fun i point hi => absurd ((hnone i).symm.trans hi) (by simp)
    held := fun i point hi => absurd ((hnone i).symm.trans hi) (by simp) }

theorem Paced.stop (h : Paced s) (hawait : s.atAwait = true) : Paced s.stop := by
  rw [PlaybackController.stop]
  split
  next => exact h
  next i htask =>
    have hsignalled := h.signalStop hawait
    obtain ⟨hsame, hrunning⟩ := signalStop_frame s
    by_cases hdone : (s.running i).isNone = true
    · rw [if_pos hdone]
      have hidle : s.taskRunning = false := by
        rw [taskRunning, htask, Option.bind_some, Option.isNone_iff_eq_none.mp hdone]
        rfl
      exact hsignalled.dropTask (fun j => hrunning j (h.running_eq_none hidle j)) _
    · rw [if_neg hdone]
      exact
        { hsignalled with
          awaited := fun j hj k hk => by
            have hk : s.task = some k := hsame ▸ hk
            rcases List.mem_append.mp hj with hold | hnew
            · exact h.awaited j hold k hk
            · rw [List.mem_singleton.mp hnew]
              exact Option.some.inj (htask.symm.trans hk) }

end Calls

/-! ### The loop -/

section Loop

variable {s : PlaybackController} {i : Nat} {point next : LoopPoint}

/-- As there is one loop, its next point is the only one. -/
theorem Paced.only (h : Paced s) (hi : s.running i = some point) {loop : Option LoopPoint}
    {j : Nat} {point' : LoopPoint} (hj : ((s.loops.set i loop)[j]?).join = some point') :
    j = i ∧ loop = some point' := by
  rw [running_set hi] at hj
  by_cases hij : j = i
  · rw [if_pos hij] at hj
    exact ⟨hij, hj⟩
  · rw [if_neg hij] at hj
    exact absurd (Option.some.inj ((h.single j _ hj).symm.trans (h.single i _ hi))) hij

/-- What holds of the next point of the loop holds of every loop. -/
theorem Paced.forall_set (h : Paced s) (hi : s.running i = some point) {P : Nat → LoopPoint → Prop}
    (hnext : P i next) (j : Nat) (point' : LoopPoint)
    (hj : ((s.loops.set i (some next))[j]?).join = some point') : P j point' := by
  obtain ⟨rfl, heq⟩ := h.only hi hj
  rw [← Option.some.inj heq]
  exact hnext

theorem Paced.goto (h : Paced s) (hi : s.running i = some point) (hrelies : Relies s next)
    (hheld : s.stepDispatches + s.stepAsked.toNat + next.stepped.toNat ≤ s.steps) :
    Paced (s.goto i next) :=
  { h with
    single := h.forall_set hi (h.single i _ hi)
    relies := h.forall_set hi (hrelies.mono rfl le_rfl rfl rfl rfl)
    held := h.forall_set hi hheld }

/-- A point that holds no stepped frame asks for nothing more. -/
theorem Paced.goto' (h : Paced s) (hi : s.running i = some point) (hrelies : Relies s next)
    (hnext : next.stepped = false) : Paced (s.goto i next) :=
  h.goto hi hrelies (by rw [hnext]; exact h.covered)

/-- Once it has ended, nothing runs. -/
theorem Paced.running_finish (h : Paced s) (hi : s.running i = some point)
    (playbackState : PlaybackState) (errorDetail : String) (j : Nat) :
    (s.finish i playbackState errorDetail).running j = none := by
  cases hj : (s.finish i playbackState errorDetail).running j with
  | none => rfl
  | some point' => exact absurd (h.only hi hj).2 (by simp)

theorem Paced.finish (h : Paced s) (hi : s.running i = some point) (playbackState : PlaybackState)
    (errorDetail : String) : Paced (s.finish i playbackState errorDetail) :=
  { h with
    single := fun j point' hj => absurd ((h.running_finish hi _ _ j).symm.trans hj) (by simp)
    relies := fun j point' hj => absurd ((h.running_finish hi _ _ j).symm.trans hj) (by simp)
    held := fun j point' hj => absurd ((h.running_finish hi _ _ j).symm.trans hj) (by simp) }

/-- The step event lets the loop through and is cleared: the call behind it is used. -/
theorem Paced.stepThrough (h : Paced s) (hi : s.running i = some point) (frame : ReplayFrame)
    (rest : List ReplayFrame) (hpaused : s.engine.clock.paused = false)
    (hasked : s.stepAsked = true) : Paced (s.clearStepEvent.goto i (.ready frame rest true)) := by
  have hcovered : s.stepDispatches + 1 ≤ s.steps := by
    have := h.covered
    rwa [hasked] at this
  exact
    { h with
      single := h.forall_set hi (h.single i _ hi)
      relies := h.forall_set hi ⟨hpaused, fun _ => rfl⟩
      covered := (Nat.le_succ _).trans hcovered
      held := h.forall_set hi hcovered }

/-- A loop that ends behind the step wait has cleared the event as well. -/
theorem Paced.clearStepEvent (h : Paced s) (hnone : ∀ j, s.running j = none) :
    Paced s.clearStepEvent :=
  { h with
    single := fun j point' hj => absurd ((hnone j).symm.trans hj) (by simp)
    relies := fun j point' hj => absurd ((hnone j).symm.trans hj) (by simp)
    covered := (Nat.le_add_right _ _).trans h.covered
    held := fun j point' hj => absurd ((hnone j).symm.trans hj) (by simp) }

/-- A frame that is due is dispatched in time, and a step covers it if it has to. -/
theorem Paced.dispatch (registry : ReducerRegistry) (config : ReplayEngineConfig) (h : Paced s)
    {frame : ReplayFrame} {rest : List ReplayFrame} {stepped : Bool}
    (hi : s.running i = some (.due frame rest stepped)) :
    Paced (s.dispatch registry config i frame rest) := by
  obtain ⟨hpaused, hstepped, htimely⟩ := h.relies i _ hi
  have hheld := h.held i _ hi
  rw [PlaybackController.dispatch]
  split
  next violation _ =>
    by_cases hstrict : config.enforceStrictOrdering = true
    · rw [if_pos hstrict]
      exact h.finish hi _ _
    · rw [if_neg hstrict]
      exact h.goto' hi trivial rfl
  next =>
    -- the one dispatch more
    have hcount : ∀ d : Dispatch, d.mode = s.scheduler.mode →
        (s.dispatched ++ [d]).countP (fun dispatch => dispatch.mode = .step)
          + s.stepAsked.toNat ≤ s.steps := by
      intro d hmode
      have hcovered := h.covered
      rw [stepDispatches] at hheld hcovered
      rw [List.countP_append, List.countP_singleton, hmode]
      by_cases hstep : s.scheduler.mode = .step
      · rw [hstepped hstep] at hheld
        simp only [hstep, decide_true, if_true]
        change _ + _ + 1 ≤ _ at hheld
        omega
      · simp only [hstep, decide_false, Bool.false_eq_true, if_false]
        omega
    have hmem : ∀ {P : Dispatch → Prop} {d : Dispatch}, (∀ e ∈ s.dispatched, P e) → P d →
        ∀ e ∈ s.dispatched ++ [d], P e := by
      intro P d hold hnew e he
      rcases List.mem_append.mp he with hin | hin
      · exact hold e hin
      · rwa [List.mem_singleton.mp hin]
    exact
      { h with
        single := h.forall_set hi (h.single i _ hi)
        relies := h.forall_set hi trivial
        covered := hcount _ rfl
        held := h.forall_set hi (hcount _ rfl)
        unpaused := hmem h.unpaused hpaused
        timely := hmem h.timely fun hmode => htimely hmode s.now le_rfl }

theorem Paced.settle (config : ReplayEngineConfig) (h : Paced s) (frame : ReplayFrame)
    (newCursor : EngineCursor) (newState : VirtualRuntimeState) (rest : List ReplayFrame)
    (hi : s.running i = some point) :
    Paced (s.settle config i frame newCursor newState rest) := by
  have hclock := Player.clock_commit config s.engine newCursor newState
  have hcommitted : Paced { s with engine := Player.commit config s.engine newCursor newState } :=
    { h with
      event := h.event.trans (by rw [hclock])
      speed := by rw [hclock]; exact h.speed
      anchored := by rw [hclock]; exact h.anchored
      relies := fun j point' hj => (h.relies j point' hj).mono hclock le_rfl rfl rfl rfl }
  rw [PlaybackController.settle]
  split
  next violation _ =>
    by_cases hstrict : config.enforceStrictOrdering = true
    · rw [if_pos hstrict]
      exact hcommitted.finish hi _ _
    · rw [if_neg hstrict]
      exact hcommitted.goto' hi trivial rfl
  next => exact hcommitted.goto' hi trivial rfl

/-- Wherever the loop is, its next step keeps the pace. -/
theorem Paced.advance {registry : ReducerRegistry} {config : ReplayEngineConfig} (h : Paced s)
    (hi : s.running i = some point) (hfounded : Founded s point) {s' : PlaybackController}
    (hadvance : s.advance registry config i point = some s') : Paced s' := by
  have hrelies := h.relies i point hi
  cases point with
  | created rest =>
    cases hadvance
    exact h.goto' hi trivial rfl
  | top rest =>
    cases rest with
    | nil =>
      cases hadvance
      exact h.finish hi _ _
    | cons frame rest =>
      cases hadvance
      split
      next => exact h.finish hi _ _
      next =>
        split
        next hevent =>
          refine h.goto' hi (fun _ => ?_) rfl
          rw [h.event, Bool.not_eq_true'] at hevent
          exact hevent
        next => exact h.goto' hi (fun hwoken => absurd hwoken Bool.false_ne_true) rfl
  | gated frame rest woken =>
    rw [PlaybackController.advance] at hadvance
    by_cases hwoken : woken = true
    · rw [if_pos hwoken] at hadvance
      cases hadvance
      exact h.goto' hi (hrelies hwoken) rfl
    · rw [if_neg hwoken] at hadvance
      cases hadvance
  | passed frame rest =>
    cases hadvance
    split
    next => exact h.finish hi _ _
    next hstop =>
      have hpaused := hrelies (Bool.eq_false_iff.mpr hstop)
      split
      next hmode =>
        exact h.goto' hi ⟨hpaused, fun hstep => absurd hstep hmode⟩ rfl
      next hmode =>
        split
        next hevent =>
          have hasked := hfounded.resolve_left hstop (not_not.mp hmode) hevent
          exact h.stepThrough hi frame rest hpaused hasked
        next => exact h.goto' hi (fun hwoken => absurd hwoken Bool.false_ne_true) rfl
  | stepping frame rest woken =>
    rw [PlaybackController.advance] at hadvance
    by_cases hwoken : woken = true
    · rw [if_pos hwoken] at hadvance
      cases hadvance
      split
      next =>
        exact (h.finish hi .stopped s.errorDetail).clearStepEvent (h.running_finish hi _ _)
      next hstop =>
        obtain ⟨hpaused, hasked⟩ := hrelies hwoken (Bool.eq_false_iff.mpr hstop)
        exact h.stepThrough hi frame rest hpaused hasked
    · rw [if_neg hwoken] at hadvance
      cases hadvance
  | ready frame rest stepped =>
    obtain ⟨hpaused, hstepped⟩ := hrelies
    have hheld := h.held i _ hi
    cases hadvance
    split
    next hwait =>
      refine h.goto hi (fun _ => ⟨rfl, hpaused, hstepped, fun t ht => ?_⟩) hheld
      exact ReplayScheduler.due_of_sleep hpaused h.speed h.anchored hfounded hwait ht
    next hwait =>
      refine h.goto hi ⟨hpaused, hstepped, fun hmode t ht => ?_⟩ hheld
      have hdue := ReplayScheduler.due_of_schedule h.speed hmode hwait
      exact hdue.trans (ReplayClock.currentVirtualNs_mono hpaused h.speed ht)
  | sleeping frame rest stepped deadline woken =>
    rw [PlaybackController.advance] at hadvance
    have hheld := h.held i _ hi
    by_cases hwake : woken = true ∨ deadline ≤ s.now
    · rw [if_pos hwake] at hadvance
      cases hadvance
      split
      next => exact h.finish hi _ _
      next hstop =>
        obtain ⟨hasleep, hpaused, hstepped, htimely⟩ := hrelies (Bool.eq_false_iff.mpr hstop)
        -- the stop event has not woken it, so it slept until the deadline
        have hdeadline := hwake.resolve_left (by rw [hasleep]; exact Bool.false_ne_true)
        refine h.goto hi ⟨hpaused, hstepped, fun _ t ht => ?_⟩ hheld
        exact htimely t (hdeadline.trans (by exact_mod_cast ht))
    · rw [if_neg hwake] at hadvance
      cases hadvance
  | due frame rest stepped =>
    cases hadvance
    exact h.dispatch registry config hi
  | sinking frame newCursor newState rest =>
    cases hadvance
    exact h.settle config frame newCursor newState rest hi

end Loop

/-! ### Runs -/

theorem Paced.step {registry : ReducerRegistry} {config : ReplayEngineConfig}
    {s s' : PlaybackController} {a : Action} (h : Paced s) (horderly : Orderly s a)
    (hstep : step registry config s a = some s') : Paced s' := by
  cases a with
  | elapse ns =>
    cases hstep
    exact h.elapse ns
  | play frames =>
    obtain ⟨-, heq⟩ := Option.ite_none_right_eq_some.mp hstep
    cases heq
    exact h.play frames horderly
  | stop =>
    obtain ⟨hawait, heq⟩ := Option.ite_none_right_eq_some.mp hstep
    cases heq
    exact h.stop hawait
  | stopReturn k =>
    rw [PlaybackController.step] at hstep
    split at hstep
    next => cases hstep
    next i hk =>
      obtain ⟨⟨-, hdone⟩, heq⟩ := Option.ite_none_right_eq_some.mp hstep
      cases heq
      refine h.dropTask (fun j => ?_) _
      cases hj : s.running j with
      | none => rfl
      | some point =>
        -- the task it has waited for is the one that runs, and that one is done
        obtain rfl := h.awaited i (List.mem_of_getElem? hk) j (h.single j point hj)
        rw [hj] at hdone
        exact absurd hdone Bool.false_ne_true
  | pause =>
    obtain ⟨hawait, heq⟩ := Option.ite_none_right_eq_some.mp hstep
    cases heq
    exact h.pause hawait horderly
  | resume =>
    obtain ⟨hawait, heq⟩ := Option.ite_none_right_eq_some.mp hstep
    cases heq
    exact h.resume hawait
  | setSpeed speed =>
    obtain ⟨hawait, heq⟩ := Option.ite_none_right_eq_some.mp hstep
    cases heq
    exact h.setSpeed hawait speed horderly
  | setMode mode =>
    obtain ⟨hawait, heq⟩ := Option.ite_none_right_eq_some.mp hstep
    cases heq
    exact h.setMode hawait mode horderly
  | step =>
    obtain ⟨-, heq⟩ := Option.ite_none_right_eq_some.mp hstep
    cases heq
    exact h.stepOnce horderly
  | loop i =>
    rw [PlaybackController.step] at hstep
    split at hstep
    next => cases hstep
    next point hi =>
      split at hstep
      next => cases hstep
      next => exact h.advance hi (horderly point hi) hstep

theorem paced_start {initialVirtualNs : Int} {initialSpeed : ℚ} {now : Int} {clock : ReplayClock}
    (hclock : ReplayClock.new initialVirtualNs initialSpeed now = some clock)
    (scheduler : ReplayScheduler) (checkpointCapacity : ℕ+) :
    Paced (start clock scheduler checkpointCapacity now) := by
  rw [ReplayClock.new] at hclock
  split at hclock
  next => cases hclock
  next hspeed =>
    cases hclock
    have hnone : ∀ clock i, (start clock scheduler checkpointCapacity now).running i = none :=
      fun _ _ => rfl
    exact
      { event := rfl
        speed := not_le.mp hspeed
        anchored := le_rfl
        single := fun i point hi => absurd ((hnone _ i).symm.trans hi) (by simp)
        awaited := fun i hi => absurd hi List.not_mem_nil
        relies := fun i point hi => absurd ((hnone _ i).symm.trans hi) (by simp)
        covered := Nat.zero_le _
        held := fun i point hi => absurd ((hnone _ i).symm.trans hi) (by simp)
        unpaused := fun dispatch hdispatch => absurd hdispatch List.not_mem_nil
        timely := fun dispatch hdispatch => absurd hdispatch List.not_mem_nil }

/-- In an orderly run no frame is dispatched while paused, none before its time, and none
    without a step in step mode. -/
theorem allStates_safe (registry : ReducerRegistry) (config : ReplayEngineConfig)
    {initialVirtualNs : Int} {initialSpeed : ℚ} {now : Int} {clock : ReplayClock}
    (hclock : ReplayClock.new initialVirtualNs initialSpeed now = some clock)
    (scheduler : ReplayScheduler) (checkpointCapacity : ℕ+) {acts : List Action}
    (h : AllSteps (step registry config) Orderly (start clock scheduler checkpointCapacity now)
      acts) :
    AllStates (step registry config) Safe (start clock scheduler checkpointCapacity now) acts :=
  (allStates_of_allSteps (fun _ _ _ hs horderly hstep => Paced.step hs horderly hstep)
    (paced_start hclock scheduler checkpointCapacity) h).mono fun _ hs => hs.safe

/-! ## Instances -/

/-- A frame of a given time. -/
def frameDue (monotonicNs : Int) : ReplayFrame :=
  { sequence := 1, monotonicNs := monotonicNs, payloadType := "t", payload := .null }

/-- A new engine at speed one, with a threshold of half a second. -/
def fresh (mode : PlaybackMode) : PlaybackController :=
  start { wallAnchorNs := 0 } { mode := mode } 8 0

/-- One frame, let through by a step; the controller is paused and resumed before. -/
def stepFrame : List Action :=
  [.play [frameDue 100], .loop 0, .loop 0, .loop 0, .pause, .resume, .step, .loop 0, .loop 0,
    .loop 0]

theorem allStates_safe_stepFrame :
    (∃ s, exec (step {} {}) (fresh .step) stepFrame = some s ∧ s.stepDispatches = 1) ∧
    AllStates (step {} {}) Safe (fresh .step) stepFrame := by
  have hclock : ReplayClock.new 0 1 0 = some { wallAnchorNs := 0 } := rfl
  have hloop : ∀ {s : PlaybackController} (point : LoopPoint), s.running 0 = some point →
      Founded s point → Orderly s (.loop 0) := fun _ hi hfounded _ hpoint =>
    Option.some.inj (hi.symm.trans hpoint) ▸ hfounded
  have hall : AllSteps (step {} {}) Orderly (fresh .step) stepFrame := by
    refine .cons rfl (.inr rfl) (.cons rfl (hloop (.created _) rfl trivial)
      (.cons rfl (hloop (.top _) rfl trivial)
      (.cons rfl (hloop (.passed _ _) rfl (.inr fun _ hevent => by cases hevent))
      (.cons rfl (.inr fun i point hi => ?_) (.cons rfl trivial (.cons rfl (.inr (.inl rfl))
      (.cons rfl (hloop (.stepping _ _ _) rfl trivial)
      (.cons rfl (hloop (.ready _ _ _) rfl fun hmode => by cases hmode)
      (.cons rfl (hloop (.due _ _ _) rfl trivial) trivial)))))))))
    cases i with
    | zero =>
      cases hi
      rfl
    | succ i => cases hi
  exact ⟨⟨_, rfl, rfl⟩, allStates_safe {} {} hclock { mode := .step } 8 hall⟩

/-- A loop over one frame, up to its timed sleep. -/
def upToSleep (monotonicNs : Int) : List Action :=
  [.play [frameDue monotonicNs], .loop 0, .loop 0, .loop 0, .loop 0]

/-- The controller is paused during the sleep. -/
def pauseAsleep : List Action := upToSleep 100 ++ [.pause, .elapse 100, .loop 0, .loop 0]

/-- The frame is a second away, and the sleep is half a second. -/
def secondAway : List Action := upToSleep 1000000000 ++ [.elapse 500000000, .loop 0, .loop 0]

/-- `stop()` before the loop gets to run leaves the step event set, and the next loop takes a
    frame for it. -/
def stopAndPlay : List Action :=
  [.play [frameDue 100], .stop, .loop 0, .loop 0, .stopReturn 0, .play [frameDue 100], .loop 1,
    .loop 1, .loop 1, .loop 1, .loop 1]

/-- What the dispatches of a run look like: paused or not, the mode, the frame's time and the
    virtual time. -/
def dispatches (mode : PlaybackMode) (acts : List Action) :
    Option (List (Bool × PlaybackMode × Int × Int)) :=
  (exec (step {} {}) (fresh mode) acts).map fun s =>
    s.dispatched.map fun d => (d.paused, d.mode, d.frame.monotonicNs, d.virtualNs)

/-- A frame is dispatched while paused; one is dispatched half a second early; one is
    dispatched in step mode though `step()` is never called. -/
theorem not_safe_calls :
    (∃ s dispatch, exec (step {} {}) (fresh .realtime) pauseAsleep = some s ∧
      s.dispatched = [dispatch] ∧ dispatch.paused = true ∧ ¬ s.Safe) ∧
    (∃ s dispatch, exec (step {} {}) (fresh .realtime) secondAway = some s ∧
      s.dispatched = [dispatch] ∧ dispatch.mode = .realtime ∧
      dispatch.frame.monotonicNs = 1000000000 ∧ dispatch.virtualNs = 500000000 ∧ ¬ s.Safe) ∧
    ∃ s, exec (step {} {}) (fresh .step) stopAndPlay = some s ∧ s.stepDispatches = 1 ∧
      s.steps = 0 ∧ ¬ s.Safe := by
  have hpaused : dispatches .realtime pauseAsleep = some [(true, .realtime, 100, 0)] := by
    decide +kernel
  have hearly : dispatches .realtime secondAway
      = some [(false, .realtime, 1000000000, 500000000)] := by
    decide +kernel
  refine ⟨?_, ?_, ⟨_, rfl, rfl, rfl, fun hsafe => ?_⟩⟩
  · obtain ⟨s, hrun, hsummary⟩ := Option.map_eq_some_iff.mp hpaused
    obtain ⟨d, hd, heq⟩ := List.map_eq_singleton_iff.mp hsummary
    obtain ⟨hpause, -⟩ := Prod.mk.inj heq
    refine ⟨s, d, hrun, hd, hpause, fun hsafe => ?_⟩
    have hunpaused := hsafe.unpaused d (hd ▸ List.mem_singleton_self d)
    exact Bool.false_ne_true (hunpaused.symm.trans hpause)
  · obtain ⟨s, hrun, hsummary⟩ := Option.map_eq_some_iff.mp hearly
    obtain ⟨d, hd, heq⟩ := List.map_eq_singleton_iff.mp hsummary
    simp only [Prod.mk.injEq] at heq
    obtain ⟨-, hmode, hframe, hvirtual⟩ := heq
    refine ⟨s, d, hrun, hd, hmode, hframe, hvirtual, fun hsafe => ?_⟩
    have htimely := hsafe.timely d (hd ▸ List.mem_singleton_self d) hmode
    omega
  · exact absurd hsafe.stepped (by decide)

end PlaybackController

end AsyncViz.Replay
