/-
  AsyncViz.Frontend.Live.Engine

  `TimelineLiveEngine` (`dashboard/timeline/live/TimelineLiveEngine.ts`) with its batcher, its
  animation clock and its frame scheduler, on the event loop that runs their microtasks and frames.

  The renderer is the journal's calls of `invalidate`; the journal also has what was pushed into
  the tracker and drained from it.  The engine is not disposed; metrics and traces are left out.
-/

import Mathlib.Algebra.Order.Ring.Rat
import AsyncViz.Frontend.Live.Invalidation
import AsyncViz.Lib.EventLoop

namespace AsyncViz.Frontend.Live

open AsyncViz.Lib

/-- What the batcher queues as a microtask. -/
inductive Microtask where
  | flush
deriving DecidableEq, Repr

/-- What the batcher and the clock ask a frame for. -/
inductive Frame where
  | flush
  | clockTick
deriving DecidableEq, Repr

/-- The event loop as the engine sees it. -/
abbrev LiveLoop := EventLoop Microtask Frame

/-- Less than the interval for so many per second has passed since the last one. -/
def tooSoon (perSecond : ℚ) (last : Option ℚ) (now : ℚ) : Bool :=
  match last with
  | none => false
  | some last => now - last < 1000 / perSecond

/-! ## Batcher -/

/-- `ScheduleStrategy`. -/
inductive ScheduleStrategy where
  | microtask
  | raf
deriving DecidableEq, Repr

/-- `TimelineUpdateBatcher`. -/
structure TimelineUpdateBatcher where
  strategy : ScheduleStrategy
  pendingMicrotask : Bool := false
  pendingRafHandle : Option Nat := none

namespace TimelineUpdateBatcher

/-- `batcher.schedule()`. -/
def schedule (b : TimelineUpdateBatcher) (loop : LiveLoop) :
    TimelineUpdateBatcher × LiveLoop :=
  match b.strategy with
  | .microtask =>
    if b.pendingMicrotask then (b, loop)
    else ({ b with pendingMicrotask := true }, loop.queueMicrotask .flush)
  | .raf =>
    match b.pendingRafHandle with
    | some _ => (b, loop)
    | none =>
      let (handle, loop) := loop.raf .flush
      ({ b with pendingRafHandle := some handle }, loop)

/-- `cancelPending()`.  A microtask that is queued stays so. -/
def cancelPending (b : TimelineUpdateBatcher) (loop : LiveLoop) :
    TimelineUpdateBatcher × LiveLoop :=
  let b := { b with pendingMicrotask := false }
  match b.pendingRafHandle with
  | none => (b, loop)
  | some handle => ({ b with pendingRafHandle := none }, loop.caf handle)

/-- A flush is pending. -/
def isPending (b : TimelineUpdateBatcher) : Bool :=
  b.pendingMicrotask || b.pendingRafHandle.isSome

end TimelineUpdateBatcher

/-! ## Frame scheduler -/

/-- `TimelineFrameScheduler`; before the first request there is no last one. -/
structure TimelineFrameScheduler where
  maxFlushesPerSecond : ℚ
  lastRequestMs : Option ℚ := none

/-- `scheduler.requestFrame(reason)`: whether the reason goes on to the renderer. -/
def TimelineFrameScheduler.requestFrame (s : TimelineFrameScheduler) (now : ℚ) :
    Bool × TimelineFrameScheduler :=
  if s.maxFlushesPerSecond > 0 then
    if tooSoon s.maxFlushesPerSecond s.lastRequestMs now then (false, s)
    else (true, { s with lastRequestMs := some now })
  else (true, s)

/-! ## Animation clock -/

/-- `TimelineAnimationClock`. -/
structure TimelineAnimationClock where
  maxTicksPerSecond : ℚ
  activeCount : Nat := 0
  running : Bool := false
  pendingHandle : Option Nat := none
  lastTickMs : Option ℚ := none

namespace TimelineAnimationClock

/-- `scheduleNext()`. -/
def scheduleNext (c : TimelineAnimationClock) (loop : LiveLoop) :
    TimelineAnimationClock × LiveLoop :=
  if c.running then
    match c.pendingHandle with
    | some _ => (c, loop)
    | none =>
      let (handle, loop) := loop.raf .clockTick
      ({ c with pendingHandle := some handle }, loop)
  else (c, loop)

/-- `start()`. -/
def start (c : TimelineAnimationClock) (loop : LiveLoop) :
    TimelineAnimationClock × LiveLoop :=
  if c.running then (c, loop) else { c with running := true }.scheduleNext loop

/-- `stop()`. -/
def stop (c : TimelineAnimationClock) (loop : LiveLoop) :
    TimelineAnimationClock × LiveLoop :=
  let c := { c with running := false }
  match c.pendingHandle with
  | none => (c, loop)
  | some handle => ({ c with pendingHandle := none }, loop.caf handle)

/-- `clock.setActiveSegmentCount(count)`. -/
def setActiveSegmentCount (c : TimelineAnimationClock) (loop : LiveLoop) (count : Nat) :
    TimelineAnimationClock × LiveLoop :=
  if count = c.activeCount then (c, loop)
  else
    let next := { c with activeCount := count }
    if count > 0 ∧ c.running = false then next.start loop
    else if count = 0 ∧ c.running = true then next.stop loop
    else (next, loop)

/-- `clock.pause()`. -/
def pause (c : TimelineAnimationClock) (loop : LiveLoop) :
    TimelineAnimationClock × LiveLoop :=
  if c.running then c.stop loop else (c, loop)

/-- `clock.resume()`. -/
def resume (c : TimelineAnimationClock) (loop : LiveLoop) :
    TimelineAnimationClock × LiveLoop :=
  if c.running = true ∨ c.activeCount = 0 then (c, loop) else c.start loop

end TimelineAnimationClock

/-! ## The engine -/

/-- What happened to the dirty regions, and the calls of `renderer.invalidate`. -/
inductive LiveEvent where
  | pushed (region : DirtyRegion)
  | drained (regions : List DirtyRegion)
  | invalidated (reason : DirtyReason)
deriving DecidableEq, Repr

/-- `TimelineLiveEngine`, with the event loop and the journal. -/
structure TimelineLiveEngine where
  tracker : TimelineInvalidationTracker := {}
  replayCoordinator : TimelineReplayCoordinator := {}
  batcher : TimelineUpdateBatcher
  animationClock : TimelineAnimationClock
  frameScheduler : TimelineFrameScheduler
  loop : LiveLoop := .empty
  journal : List LiveEvent := []

/-- A call of the engine, or a callback that the event loop runs.  Where a clock is read, it reads
    `now`. -/
inductive LiveAction where
  | processEnvelope (envelope : RuntimeEnvelope)
  | processReplayBatch (envelopes : List RuntimeEnvelope) (now : ℚ)
  | goLive
  | pause
  | resume
  | invalidateAll
  | invalidateRow (taskId : String) (sequence : Option Int)
  | invalidateSegment (segmentId : String) (taskId : Option String) (sequence : Option Int)
  | setActiveSegmentCount (count : Nat)
  | scheduleFlush
  | flushNow (now : ℚ)
  | runMicrotask (now : ℚ)
  | runFrame (handle : Nat) (now : ℚ)

namespace TimelineLiveEngine

/-- `new TimelineLiveEngine({...})`; a cap below 0 is none. -/
def new (strategy : ScheduleStrategy) (maxFlushesPerSecond maxTicksPerSecond : ℚ)
    (startLive : Bool) : TimelineLiveEngine where
  replayCoordinator := if startLive then TimelineReplayCoordinator.goLive {} else {}
  batcher := { strategy := strategy }
  animationClock := { maxTicksPerSecond := max 0 maxTicksPerSecond }
  frameScheduler := { maxFlushesPerSecond := max 0 maxFlushesPerSecond }

/-- The tracker after some pushes. -/
def track (e : TimelineLiveEngine) (tracker : TimelineInvalidationTracker) : TimelineLiveEngine :=
  { e with
    tracker := tracker
    journal := e.journal ++ (tracker.regions.drop e.tracker.regions.length).map .pushed }

/-- `scheduleFlush()`. -/
def scheduleFlush (e : TimelineLiveEngine) : TimelineLiveEngine :=
  if e.tracker.isDirty then
    let (batcher, loop) := e.batcher.schedule e.loop
    { e with batcher := batcher, loop := loop }
  else e

/-- `flushBatchInternal()`. -/
def flushBatchInternal (e : TimelineLiveEngine) (now : ℚ) : TimelineLiveEngine :=
  if e.tracker.isDirty then
    let (batch, tracker) := e.tracker.drain
    let e := { e with tracker := tracker, journal := e.journal ++ [.drained e.tracker.regions] }
    if batchIsActionable batch then
      let (forwarded, frameScheduler) := e.frameScheduler.requestFrame now
      -- nobody looks at what `requestFrame` returns
      { e with
        frameScheduler := frameScheduler
        journal := if forwarded then e.journal ++ [.invalidated (batchToRendererReason batch)]
          else e.journal }
    else e
  else e

/-- `batcher.flushNow()`. -/
def flushNow (e : TimelineLiveEngine) (now : ℚ) : TimelineLiveEngine :=
  let (batcher, loop) := e.batcher.cancelPending e.loop
  { e with batcher := batcher, loop := loop }.flushBatchInternal now

/-- `runMicrotaskFlush()`; a microtask that was cancelled finds nothing pending, or runs what was
    scheduled after it. -/
def runMicrotaskFlush (e : TimelineLiveEngine) (now : ℚ) : TimelineLiveEngine :=
  if e.batcher.pendingMicrotask then
    { e with batcher := { e.batcher with pendingMicrotask := false } }.flushBatchInternal now
  else e

/-- `runRafFlush()`. -/
def runRafFlush (e : TimelineLiveEngine) (now : ℚ) : TimelineLiveEngine :=
  { e with batcher := { e.batcher with pendingRafHandle := none } }.flushBatchInternal now

/-- `processEnvelope(envelope)`. -/
def processEnvelope (e : TimelineLiveEngine) (envelope : RuntimeEnvelope) : TimelineLiveEngine :=
  let (result, tracker) := process envelope e.tracker
  let e := e.track tracker
  if result.invalidated then e.scheduleFlush else e

/-- `processReplayBatch(envelopes)`. -/
def processReplayBatch (e : TimelineLiveEngine) (envelopes : List RuntimeEnvelope) (now : ℚ) :
    TimelineLiveEngine :=
  let (replayCoordinator, tracker) :=
    e.replayCoordinator.beginReplay.applyReplayBatch envelopes e.tracker
  ({ e with replayCoordinator := replayCoordinator }.track tracker).flushNow now

/-- `goLive()`. -/
def goLive (e : TimelineLiveEngine) : TimelineLiveEngine :=
  { e with replayCoordinator := e.replayCoordinator.goLive }

/-- `pause()`. -/
def pause (e : TimelineLiveEngine) : TimelineLiveEngine :=
  let (animationClock, loop) := e.animationClock.pause e.loop
  { e with
    replayCoordinator := e.replayCoordinator.pause
    animationClock := animationClock
    loop := loop }

/-- `resume()`. -/
def resume (e : TimelineLiveEngine) : TimelineLiveEngine :=
  let (animationClock, loop) := e.animationClock.resume e.loop
  { e with
    replayCoordinator :=
      if e.replayCoordinator.mode = .paused then e.replayCoordinator.goLive
      else e.replayCoordinator
    animationClock := animationClock
    loop := loop }

/-- A region is pushed, and a flush scheduled. -/
def invalidate (e : TimelineLiveEngine) (region : DirtyRegion) : TimelineLiveEngine :=
  (e.track (e.tracker.push region)).scheduleFlush

/-- `invalidateAll()`. -/
def invalidateAll (e : TimelineLiveEngine) : TimelineLiveEngine :=
  e.invalidate { reason := .viewport }

/-- `invalidateRow(taskId, sequence)`. -/
def invalidateRow (e : TimelineLiveEngine) (taskId : String) (sequence : Option Int) :
    TimelineLiveEngine :=
  e.invalidate { reason := .row, taskIds := some [taskId], sequence := sequence }

/-- `invalidateSegment(segmentId, taskId, sequence)`. -/
def invalidateSegment (e : TimelineLiveEngine) (segmentId : String) (taskId : Option String)
    (sequence : Option Int) : TimelineLiveEngine :=
  e.invalidate
    { reason := .segment
      taskIds := taskId.map fun id => [id]
      segmentIds := some [segmentId]
      sequence := sequence }

/-- `onAnimationTick()`. -/
def onAnimationTick (e : TimelineLiveEngine) : TimelineLiveEngine :=
  e.invalidate { reason := .activeTick }

/-- `setActiveSegmentCount(count)`. -/
def setActiveSegmentCount (e : TimelineLiveEngine) (count : Nat) : TimelineLiveEngine :=
  let (animationClock, loop) := e.animationClock.setActiveSegmentCount e.loop count
  { e with animationClock := animationClock, loop := loop }

/-- The clock goes on to its next frame. -/
def scheduleNext (e : TimelineLiveEngine) : TimelineLiveEngine :=
  let (animationClock, loop) := e.animationClock.scheduleNext e.loop
  { e with animationClock := animationClock, loop := loop }

/-- `tick()` of the clock. -/
def clockTick (e : TimelineLiveEngine) (now : ℚ) : TimelineLiveEngine :=
  let clock := { e.animationClock with pendingHandle := none }
  if clock.running then
    if clock.maxTicksPerSecond > 0 then
      if tooSoon clock.maxTicksPerSecond clock.lastTickMs now then
        { e with animationClock := clock }.scheduleNext
      else
        { e with
          animationClock := { clock with lastTickMs := some now } }.onAnimationTick.scheduleNext
    else { e with animationClock := clock }.onAnimationTick.scheduleNext
  else { e with animationClock := clock }

/-- The callback of a frame. -/
def frame (e : TimelineLiveEngine) (now : ℚ) : Frame → TimelineLiveEngine
  | .flush => e.runRafFlush now
  | .clockTick => e.clockTick now

/-- One action; `none` when no such callback waits. -/
def step (e : TimelineLiveEngine) : LiveAction → Option TimelineLiveEngine
  | .processEnvelope envelope => some (e.processEnvelope envelope)
  | .processReplayBatch envelopes now => some (e.processReplayBatch envelopes now)
  | .goLive => some e.goLive
  | .pause => some e.pause
  | .resume => some e.resume
  | .invalidateAll => some e.invalidateAll
  | .invalidateRow taskId sequence => some (e.invalidateRow taskId sequence)
  | .invalidateSegment segmentId taskId sequence =>
    some (e.invalidateSegment segmentId taskId sequence)
  | .setActiveSegmentCount count => some (e.setActiveSegmentCount count)
  | .scheduleFlush => some e.scheduleFlush
  | .flushNow now => some (e.flushNow now)
  | .runMicrotask now =>
    (e.loop.takeMicrotask .flush).map fun loop =>
      { e with loop := loop }.runMicrotaskFlush now
  | .runFrame handle now =>
    (e.loop.takeFrame handle).map fun (cb, loop) => { e with loop := loop }.frame now cb

end TimelineLiveEngine

end AsyncViz.Frontend.Live
