/-
  AsyncViz.Replay.Scheduler

  `ReplayScheduler` (`replay/runtime/replay_scheduler.py`) and the playback modes
  (`replay_configuration.py`): how long the engine waits before a frame.

  The clock is an argument, as the scheduler keeps none of its readings.  Seconds are
  rationals.
-/

import AsyncViz.Replay.Models

namespace AsyncViz.Replay

/-- `PlaybackMode`. -/
inductive PlaybackMode where
  | realtime
  | asFastAsPossible
  | step
deriving DecidableEq, Repr

/-- `FrameSchedule`. -/
structure FrameSchedule where
  waitSeconds : ℚ
  behindByNs : Int
  targetVirtualNs : Int

/-- `ReplayScheduler`. -/
structure ReplayScheduler where
  mode : PlaybackMode := .realtime
  catchUpThresholdNs : Int := 500000000
deriving DecidableEq, Repr

namespace ReplayScheduler

/-- `scheduler.set_mode(mode)`. -/
def setMode (scheduler : ReplayScheduler) (mode : PlaybackMode) : ReplayScheduler :=
  { scheduler with mode := mode }

/-- `scheduler.schedule(frame_monotonic_ns)`. -/
def schedule (scheduler : ReplayScheduler) (clock : ReplayClock) (frameMonotonicNs now : Int) :
    FrameSchedule :=
  let target := frameMonotonicNs
  if scheduler.mode = .asFastAsPossible ∨ scheduler.mode = .step then
    { waitSeconds := 0, behindByNs := 0, targetVirtualNs := target }
  else
    let deltaNs := target - clock.currentVirtualNs now
    if deltaNs ≤ 0 then
      { waitSeconds := 0, behindByNs := -deltaNs, targetVirtualNs := target }
    else
      -- a threshold of zero caps nothing
      let waitNs :=
        if scheduler.catchUpThresholdNs > 0 ∧ deltaNs > scheduler.catchUpThresholdNs then
          scheduler.catchUpThresholdNs
        else deltaNs
      let waitSeconds : ℚ := waitNs / 1000000000
      let waitSeconds := if clock.speed > 0 then waitSeconds / clock.speed else waitSeconds
      { waitSeconds := max 0 waitSeconds, behindByNs := 0, targetVirtualNs := target }

end ReplayScheduler

end AsyncViz.Replay
