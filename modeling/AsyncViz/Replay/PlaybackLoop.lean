/-
  AsyncViz.Replay.PlaybackLoop

  The loop of `PlaybackController` and the calls that come in while it waits
  (`replay/runtime/replay_playback.py`, `replay_pause.py`, `replay_speed.py`,
  `replay_clock.py`).

  `_run` is cut where it awaits, and once more at each of its checks.  A `LoopPoint` is one
  such place.  Calls come in only while every loop is at an await; from there a loop runs on
  to its next await by itself.  An event that is set wakes what waits for it, and the waiter
  goes on even if the event is cleared again before it gets to run: this is `woken`.  Wall
  time passes at any moment.

  A `stop()` waits for its loop and drops the task only when it goes on, so that a `play()`
  may come in before: nothing here assumes that there is one loop.

  `Player` leaves open how long a wait takes, and what calls do besides pausing; here the
  waits are spelled out, and the seeks left out.
-/

import AsyncViz.Replay.Playback
import AsyncViz.Replay.Scheduler

namespace AsyncViz.Replay

open AsyncViz.Lib.Transition

/-! ## Clock -/

/-- `MIN_SPEED`. -/
def minSpeed : ℚ := 1 / 20

/-- `MAX_SPEED`. -/
def maxSpeed : ℚ := 32

/-- The speed that `SpeedController.set` sets. -/
def clampSpeed (speed : ℚ) : ℚ := max minSpeed (min maxSpeed speed)

theorem clampSpeed_pos (speed : ℚ) : 0 < clampSpeed speed :=
  lt_of_lt_of_le (by norm_num [minSpeed]) (le_max_left _ _)

namespace ReplayClock

/-- `SpeedController.set(speed)`; what it hands to the clock is positive.  No wall time
    passes here between the two readings of the clock. -/
def withSpeed (clock : ReplayClock) (speed : ℚ) (now : Int) : ReplayClock :=
  if clock.speed = clampSpeed speed then clock
  else (clock.setSpeed (clampSpeed speed) now now).getD clock

theorem setSpeed_clampSpeed (clock : ReplayClock) (speed : ℚ) (now : Int) :
    clock.setSpeed (clampSpeed speed) now now
      = some
          { wallAnchorNs := now
            virtualAnchorNs := clock.currentVirtualNs now
            speed := clampSpeed speed
            pausedVirtualNs := clock.pausedVirtualNs.map fun _ => clock.currentVirtualNs now } := by
  rw [setSpeed, if_neg (not_le.mpr (clampSpeed_pos speed))]

variable {clock : ReplayClock}

@[simp] theorem paused_pause (now : Int) : (clock.pause now).paused = true := by
  cases hpaused : clock.paused with
  | true => rw [pause, if_pos hpaused, hpaused]
  | false =>
    rw [pause, if_neg (by rw [hpaused]; exact Bool.false_ne_true)]
    rfl

@[simp] theorem paused_resume (now : Int) : (clock.resume now).paused = false := by
  rw [resume]
  split
  next hrunning => rw [paused, hrunning]; rfl
  next => rfl

/-- The virtual time of a running clock. -/
theorem currentVirtualNs_running (hrunning : clock.paused = false) (now : Int) :
    clock.currentVirtualNs now
      = clock.virtualAnchorNs
        + ⌊((max 0 (now - clock.wallAnchorNs) : Int) : ℚ) * clock.speed⌋ := by
  rw [paused, Option.isSome_eq_false_iff, Option.isNone_iff_eq_none] at hrunning
  rw [currentVirtualNs, hrunning]

/-- A running clock does not go back. -/
theorem currentVirtualNs_mono (hrunning : clock.paused = false) (hspeed : 0 < clock.speed)
    {t t' : Int} (hle : t ≤ t') : clock.currentVirtualNs t ≤ clock.currentVirtualNs t' := by
  rw [currentVirtualNs_running hrunning, currentVirtualNs_running hrunning]
  have hwall : max 0 (t - clock.wallAnchorNs) ≤ max 0 (t' - clock.wallAnchorNs) := by omega
  have hscaled : ((max 0 (t - clock.wallAnchorNs) : Int) : ℚ) * clock.speed
      ≤ ((max 0 (t' - clock.wallAnchorNs) : Int) : ℚ) * clock.speed :=
    mul_le_mul_of_nonneg_right (by exact_mod_cast hwall) hspeed.le
  have := Int.floor_le_floor hscaled
  omega

/-- Wall time `delta / speed` moves a running clock by `delta`. -/
theorem currentVirtualNs_add_le (hrunning : clock.paused = false) {now t delta : Int}
    (hanchor : clock.wallAnchorNs ≤ now) (hnow : now ≤ t)
    (hdelta : (delta : ℚ) ≤ ((t - now : Int) : ℚ) * clock.speed) :
    clock.currentVirtualNs now + delta ≤ clock.currentVirtualNs t := by
  rw [currentVirtualNs_running hrunning, currentVirtualNs_running hrunning]
  have hthen : max 0 (now - clock.wallAnchorNs) = now - clock.wallAnchorNs := by omega
  have hlater : max 0 (t - clock.wallAnchorNs) = (now - clock.wallAnchorNs) + (t - now) := by omega
  have hfloor : ⌊((now - clock.wallAnchorNs : Int) : ℚ) * clock.speed⌋ + delta
      ≤ ⌊((now - clock.wallAnchorNs + (t - now) : Int) : ℚ) * clock.speed⌋ := by
    rw [← Int.floor_add_intCast, Int.cast_add (now - clock.wallAnchorNs), add_mul]
    exact Int.floor_le_floor (by linarith)
  rw [hthen, hlater]
  omega

end ReplayClock

namespace ReplayScheduler

variable {scheduler : ReplayScheduler} {clock : ReplayClock} {frameMonotonicNs now : Int}

/-- The threshold does not cut the wait for the frame short. -/
def Uncapped (scheduler : ReplayScheduler) (clock : ReplayClock) (frameMonotonicNs now : Int) :
    Prop :=
  scheduler.mode = .realtime → scheduler.catchUpThresholdNs ≤ 0 ∨
    frameMonotonicNs - clock.currentVirtualNs now ≤ scheduler.catchUpThresholdNs

/-- Without a wait the frame is due, in realtime mode. -/
theorem due_of_schedule (hspeed : 0 < clock.speed) (hmode : scheduler.mode = .realtime)
    (hwait : ¬ (scheduler.schedule clock frameMonotonicNs now).waitSeconds > 0) :
    frameMonotonicNs ≤ clock.currentVirtualNs now := by
  by_contra hlt
  have hdelta : ¬ frameMonotonicNs - clock.currentVirtualNs now ≤ 0 := by omega
  refine hwait ?_
  simp only [schedule, hmode, reduceCtorEq, or_self, if_false, hdelta, hspeed, if_true, gt_iff_lt,
    lt_max_iff, lt_self_iff_false, false_or]
  have hpos : (0 : ℚ) < ((frameMonotonicNs - clock.currentVirtualNs now : Int) : ℚ) := by
    exact_mod_cast not_le.mp hdelta
  split
  next hcap =>
    have hthreshold : (0 : ℚ) < (scheduler.catchUpThresholdNs : ℚ) := by exact_mod_cast hcap.1
    positivity
  next => positivity

/-- Only realtime mode waits. -/
theorem mode_of_schedule
    (hwait : (scheduler.schedule clock frameMonotonicNs now).waitSeconds > 0) :
    scheduler.mode = .realtime := by
  cases hmode : scheduler.mode with
  | realtime => rfl
  | asFastAsPossible => simp [schedule, hmode] at hwait
  | step => simp [schedule, hmode] at hwait

/-- A wait that is not cut short ends when the frame is due, if the clock is left alone. -/
theorem due_of_sleep (hrunning : clock.paused = false) (hspeed : 0 < clock.speed)
    (hanchor : clock.wallAnchorNs ≤ now)
    (huncapped : scheduler.Uncapped clock frameMonotonicNs now)
    (hwait : (scheduler.schedule clock frameMonotonicNs now).waitSeconds > 0) {t : Int}
    (ht : (now : ℚ) + (scheduler.schedule clock frameMonotonicNs now).waitSeconds * 1000000000
      ≤ t) :
    frameMonotonicNs ≤ clock.currentVirtualNs t := by
  have hmode := mode_of_schedule hwait
  by_cases hdelta : frameMonotonicNs - clock.currentVirtualNs now ≤ 0
  · simp [schedule, hmode, hdelta] at hwait
  have hcap : ¬ (scheduler.catchUpThresholdNs > 0 ∧
      frameMonotonicNs - clock.currentVirtualNs now > scheduler.catchUpThresholdNs) := by
    have := huncapped hmode
    omega
  have hseconds : (scheduler.schedule clock frameMonotonicNs now).waitSeconds
      = ((frameMonotonicNs - clock.currentVirtualNs now : Int) : ℚ) / 1000000000 / clock.speed := by
    have hpos : (0 : ℚ) < ((frameMonotonicNs - clock.currentVirtualNs now : Int) : ℚ) := by
      exact_mod_cast not_le.mp hdelta
    simp only [schedule, hmode, reduceCtorEq, or_self, if_false, hdelta, hcap, hspeed, if_true]
    exact max_eq_right (by positivity)
  have hreached : ((frameMonotonicNs - clock.currentVirtualNs now : Int) : ℚ)
      ≤ ((t - now : Int) : ℚ) * clock.speed := by
    rw [hseconds] at ht
    have hslept : ((frameMonotonicNs - clock.currentVirtualNs now : Int) : ℚ) / clock.speed
        ≤ ((t - now : Int) : ℚ) := by
      rw [Int.cast_sub t now]
      have : ((frameMonotonicNs - clock.currentVirtualNs now : Int) : ℚ) / 1000000000
          / clock.speed * 1000000000
          = ((frameMonotonicNs - clock.currentVirtualNs now : Int) : ℚ) / clock.speed := by
        field_simp
      linarith
    exact (div_le_iff₀ hspeed).mp hslept
  have hnow : now ≤ t := by
    have : (now : ℚ) ≤ t := le_trans (le_add_of_nonneg_right (by positivity)) ht
    exact_mod_cast this
  have := ReplayClock.currentVirtualNs_add_le hrunning hanchor hnow hreached
  omega

end ReplayScheduler

/-! ## The controller -/

/-- Where a playback loop is, with the frame it holds and what its iterator has not yielded
    yet.  `stepped` only observes: a step let the frame through. -/
inductive LoopPoint where
  /-- the task is created and has not run yet -/
  | created (rest : List ReplayFrame)
  /-- `for frame in frames` -/
  | top (rest : List ReplayFrame)
  /-- in `wait_until_running` -/
  | gated (frame : ReplayFrame) (rest : List ReplayFrame) (woken : Bool)
  /-- behind the gate -/
  | passed (frame : ReplayFrame) (rest : List ReplayFrame)
  /-- in `_wait_for_step` -/
  | stepping (frame : ReplayFrame) (rest : List ReplayFrame) (woken : Bool)
  /-- about to be scheduled -/
  | ready (frame : ReplayFrame) (rest : List ReplayFrame) (stepped : Bool)
  /-- in `_sleep_or_stop`, until the deadline or the stop event -/
  | sleeping (frame : ReplayFrame) (rest : List ReplayFrame) (stepped : Bool) (deadline : ℚ)
      (woken : Bool)
  /-- about to be dispatched -/
  | due (frame : ReplayFrame) (rest : List ReplayFrame) (stepped : Bool)
  /-- dispatched, with the sink awaited -/
  | sinking (frame : ReplayFrame) (newCursor : EngineCursor) (newState : VirtualRuntimeState)
      (rest : List ReplayFrame)

namespace LoopPoint

/-- Other calls may come in. -/
def awaits : LoopPoint → Bool
  | created _ | gated _ _ _ | stepping _ _ _ | sleeping _ _ _ _ _ | sinking _ _ _ _ => true
  | top _ | passed _ _ | ready _ _ _ | due _ _ _ => false

/-- The pause event is set. -/
def wakeGate : LoopPoint → LoopPoint
  | gated frame rest _ => gated frame rest true
  | point => point

/-- The step event is set. -/
def wakeStep : LoopPoint → LoopPoint
  | stepping frame rest _ => stepping frame rest true
  | point => point

/-- The stop event is set. -/
def wakeSleep : LoopPoint → LoopPoint
  | sleeping frame rest stepped deadline _ => sleeping frame rest stepped deadline true
  | point => point

/-- The loop waits, and will not look at the pause gate again before it dispatches. -/
def pastGate : LoopPoint → Bool
  | gated _ _ woken => woken
  | stepping _ _ woken => woken
  | sleeping _ _ _ _ _ => true
  | _ => false

/-- The loop waits for a step. -/
def awaitsStep : LoopPoint → Bool
  | stepping _ _ _ => true
  | _ => false

/-- The loop waits for the frame's time. -/
def sleeps : LoopPoint → Bool
  | sleeping _ _ _ _ _ => true
  | _ => false

/-- A step let the frame through that the loop holds. -/
def stepped : LoopPoint → Bool
  | ready _ _ stepped | sleeping _ _ stepped _ _ | due _ _ stepped => stepped
  | _ => false

@[simp] theorem awaits_wakeGate (point : LoopPoint) : point.wakeGate.awaits = point.awaits := by
  cases point <;> rfl

@[simp] theorem awaits_wakeStep (point : LoopPoint) : point.wakeStep.awaits = point.awaits := by
  cases point <;> rfl

@[simp] theorem awaits_wakeSleep (point : LoopPoint) : point.wakeSleep.awaits = point.awaits := by
  cases point <;> rfl

@[simp] theorem stepped_wakeGate (point : LoopPoint) : point.wakeGate.stepped = point.stepped := by
  cases point <;> rfl

@[simp] theorem stepped_wakeStep (point : LoopPoint) : point.wakeStep.stepped = point.stepped := by
  cases point <;> rfl

@[simp] theorem stepped_wakeSleep (point : LoopPoint) :
    point.wakeSleep.stepped = point.stepped := by
  cases point <;> rfl

end LoopPoint

/-- A dispatch, with what held at the moment. -/
structure Dispatch where
  frame : ReplayFrame
  paused : Bool
  mode : PlaybackMode
  virtualNs : Int

/-- `PlaybackController`, with the parts of the engine that it is given and the wall time.
    `loops` are the tasks it has created, `none` where one has ended; `stopping` are the tasks
    that a `stop()` waits for.  `stepAsked`, `steps` and `dispatched` only observe: whether
    `step()` has been called since the step event was cleared, how often it has been called
    at all, and the dispatches. -/
structure PlaybackController where
  engine : ReplayEngine
  scheduler : ReplayScheduler
  now : Int
  pauseEvent : Bool := true
  stopEvent : Bool := false
  stepEvent : Bool := false
  playbackState : PlaybackState := .idle
  errorDetail : String := ""
  task : Option Nat := none
  loops : List (Option LoopPoint) := []
  stopping : List Nat := []
  stepAsked : Bool := false
  steps : Nat := 0
  dispatched : List Dispatch := []

namespace PlaybackController

/-- A new engine. -/
def start (clock : ReplayClock) (scheduler : ReplayScheduler) (checkpointCapacity : ℕ+)
    (now : Int) : PlaybackController :=
  { engine := { clock := clock, checkpoints := { capacity := checkpointCapacity } }
    scheduler := scheduler
    now := now }

/-- Where a loop is, while it runs. -/
def running (s : PlaybackController) (i : Nat) : Option LoopPoint := (s.loops[i]?).join

/-- `_task` is there and not done. -/
def taskRunning (s : PlaybackController) : Bool := (s.task.bind s.running).isSome

/-- Every loop is at an await. -/
def atAwait (s : PlaybackController) : Bool :=
  s.loops.all fun loop => loop.all LoopPoint.awaits

/-- An event wakes its waiters. -/
def wake (s : PlaybackController) (f : LoopPoint → LoopPoint) : PlaybackController :=
  { s with loops := s.loops.map (Option.map f) }

/-- The loop goes on at a point. -/
def goto (s : PlaybackController) (i : Nat) (point : LoopPoint) : PlaybackController :=
  { s with loops := s.loops.set i (some point) }

/-! ### Calls -/

/-- `play(frames)`. -/
def play (s : PlaybackController) (frames : List ReplayFrame) : PlaybackController :=
  if s.taskRunning then s
  else
    { s with
      stopEvent := false
      playbackState := .playing
      errorDetail := ""
      task := some s.loops.length
      loops := s.loops ++ [some (.created frames)] }

/-- `PauseController.pause()`. -/
def pause (s : PlaybackController) : PlaybackController :=
  if s.engine.clock.paused then s
  else
    { s with
      engine := { s.engine with clock := s.engine.clock.pause s.now }
      pauseEvent := false }

/-- `PauseController.resume()`. -/
def resume (s : PlaybackController) : PlaybackController :=
  if s.engine.clock.paused then
    { s with
      engine := { s.engine with clock := s.engine.clock.resume s.now }
      pauseEvent := true }.wake LoopPoint.wakeGate
  else s

/-- `engine.set_speed(speed)`. -/
def setSpeed (s : PlaybackController) (speed : ℚ) : PlaybackController :=
  { s with engine := { s.engine with clock := s.engine.clock.withSpeed speed s.now } }

/-- `scheduler.set_mode(mode)`. -/
def setMode (s : PlaybackController) (mode : PlaybackMode) : PlaybackController :=
  { s with scheduler := s.scheduler.setMode mode }

/-- `_step_event.set()`. -/
def setStepEvent (s : PlaybackController) : PlaybackController :=
  { s with stepEvent := true }.wake LoopPoint.wakeStep

/-- `_step_event.clear()`. -/
def clearStepEvent (s : PlaybackController) : PlaybackController :=
  { s with stepEvent := false, stepAsked := false }

/-- `step()`. -/
def stepOnce (s : PlaybackController) : PlaybackController :=
  { s with stepAsked := true, steps := s.steps + 1 }.setStepEvent

/-- What `stop()` does before it awaits the task. -/
def signalStop (s : PlaybackController) : PlaybackController :=
  (({ s with stopEvent := true }.wake LoopPoint.wakeSleep).resume).setStepEvent

/-- What `stop()` does once the task is done. -/
def dropTask (s : PlaybackController) : PlaybackController :=
  { s with
    task := none
    playbackState := if s.playbackState = .failed then .failed else .stopped }

/-- `stop()`.  A task that is done is not waited for. -/
def stop (s : PlaybackController) : PlaybackController :=
  match s.task with
  | none => s
  | some i =>
    if (s.running i).isNone then s.signalStop.dropTask
    else { s.signalStop with stopping := s.stopping ++ [i] }

/-! ### The loop -/

/-- The task ends. -/
def finish (s : PlaybackController) (i : Nat) (playbackState : PlaybackState)
    (errorDetail : String) : PlaybackController :=
  { s with
    playbackState := playbackState
    errorDetail := errorDetail
    loops := s.loops.set i none }

/-- The loop ended by itself or by the stop event. -/
def finishStopped (s : PlaybackController) (i : Nat) : PlaybackController :=
  s.finish i .stopped s.errorDetail

/-- The pre-dispatch check, and `dispatch` up to the point where it awaits the sink. -/
def dispatch (registry : ReducerRegistry) (config : ReplayEngineConfig) (s : PlaybackController)
    (i : Nat) (frame : ReplayFrame) (rest : List ReplayFrame) : PlaybackController :=
  match checkPreDispatch frame s.engine.cursor with
  | some violation =>
    if config.enforceStrictOrdering then s.finish i .failed violation.detail
    else s.goto i (.top rest)
  | none =>
    let newState := registry.apply s.engine.state frame
    let virtualNs := s.engine.clock.currentVirtualNs s.now
    let newCursor := s.engine.cursor.advance frame.sequence frame.monotonicNs virtualNs
    { s.goto i (.sinking frame newCursor newState rest) with
      engine := { s.engine with state := newState }
      dispatched := s.dispatched ++
        [{ frame := frame
           paused := s.engine.clock.paused
           mode := s.scheduler.mode
           virtualNs := virtualNs }] }

/-- The rest of `dispatch`, and the post-dispatch check. -/
def settle (config : ReplayEngineConfig) (s : PlaybackController) (i : Nat) (frame : ReplayFrame)
    (newCursor : EngineCursor) (newState : VirtualRuntimeState) (rest : List ReplayFrame) :
    PlaybackController :=
  let s := { s with engine := Player.commit config s.engine newCursor newState }
  match checkPostDispatch frame newState with
  | some violation =>
    if config.enforceStrictOrdering then s.finish i .failed violation.detail
    else s.goto i (.top rest)
  | none => s.goto i (.top rest)

/-- `_run`, from one point to the next; `none` where it has to wait. -/
def advance (registry : ReducerRegistry) (config : ReplayEngineConfig) (s : PlaybackController)
    (i : Nat) : LoopPoint → Option PlaybackController
  | .created rest => some (s.goto i (.top rest))
  | .top [] => some (s.finishStopped i)
  | .top (frame :: rest) =>
    some (if s.stopEvent then s.finishStopped i
      else if s.pauseEvent then s.goto i (.passed frame rest)
      else s.goto i (.gated frame rest false))
  | .gated frame rest woken => if woken then some (s.goto i (.passed frame rest)) else none
  | .passed frame rest =>
    some (if s.stopEvent then s.finishStopped i
      else if s.scheduler.mode ≠ .step then s.goto i (.ready frame rest false)
      else if s.stepEvent then s.clearStepEvent.goto i (.ready frame rest true)
      else s.goto i (.stepping frame rest false))
  | .stepping frame rest woken =>
    if woken then
      some (if s.stopEvent then s.clearStepEvent.finishStopped i
        else s.clearStepEvent.goto i (.ready frame rest true))
    else none
  | .ready frame rest stepped =>
    let schedule := s.scheduler.schedule s.engine.clock frame.monotonicNs s.now
    some (if schedule.waitSeconds > 0 then
        s.goto i
          (.sleeping frame rest stepped (s.now + schedule.waitSeconds * 1000000000) false)
      else s.goto i (.due frame rest stepped))
  | .sleeping frame rest stepped deadline woken =>
    if woken = true ∨ deadline ≤ s.now then
      some (if s.stopEvent then s.finishStopped i else s.goto i (.due frame rest stepped))
    else none
  | .due frame rest _ => some (s.dispatch registry config i frame rest)
  | .sinking frame newCursor newState rest =>
    some (s.settle config i frame newCursor newState rest)

/-! ### Steps -/

/-- Wall time, the calls, the rest of a `stop()`, and the steps of a loop. -/
inductive Action where
  | elapse (ns : Nat)
  | play (frames : List ReplayFrame)
  | stop
  | stopReturn (k : Nat)
  | pause
  | resume
  | setSpeed (speed : ℚ)
  | setMode (mode : PlaybackMode)
  | step
  | loop (i : Nat)

/-- One action.  Calls, and loops that wait, get their turn only while every loop is at an
    await. -/
def step (registry : ReducerRegistry) (config : ReplayEngineConfig) (s : PlaybackController) :
    Action → Option PlaybackController
  | .elapse ns => some { s with now := s.now + ns }
  | .play frames => if s.atAwait then some (s.play frames) else none
  | .stop => if s.atAwait then some s.stop else none
  | .stopReturn k =>
    match s.stopping[k]? with
    | none => none
    | some i =>
      if s.atAwait ∧ (s.running i).isNone then
        some { s.dropTask with stopping := s.stopping.eraseIdx k }
      else none
  | .pause => if s.atAwait then some s.pause else none
  | .resume => if s.atAwait then some s.resume else none
  | .setSpeed speed => if s.atAwait then some (s.setSpeed speed) else none
  | .setMode mode => if s.atAwait then some (s.setMode mode) else none
  | .step => if s.atAwait then some s.stepOnce else none
  | .loop i =>
    match s.running i with
    | none => none
    | some point =>
      if point.awaits = true ∧ s.atAwait = false then none else s.advance registry config i point

end PlaybackController

end AsyncViz.Replay
