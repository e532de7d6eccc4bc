/-
  AsyncViz.Replay.Playback

  `PlaybackController` and the calls of `ReplayRuntimeEngine` on it
  (`replay/runtime/replay_playback.py`, `replay_runtime_engine.py`,
  `replay_dispatch.py`, `replay_integrity_runtime.py`), as a transition system.

  The loop is a coroutine, so other calls come in only where it awaits.  A `LoopPhase`
  is one such place: before the first frame is taken, at the pause gate, in the wait for
  the frame's time (or for a step), and in the sink that a dispatched frame is pushed to.
  How long a wait takes is left open: the loop's own steps `pull`, `pass`, `dispatch` and
  `settle` are actions like the calls.  `play` and `stop` come from one caller, which
  awaits `stop`; seeks may come in at any time.

  `dispatched` and `origin` only observe: the frames dispatched since the latest seek,
  and the cursor's position right after it.
-/

import AsyncViz.Lib.Transition
import AsyncViz.Replay.SeekRuntime

namespace AsyncViz.Replay

open AsyncViz.Lib AsyncViz.Lib.Bisect AsyncViz.Lib.SortedLog AsyncViz.Lib.Transition

/-! ## Invariant guards -/

/-- `IntegrityViolation`. -/
structure IntegrityViolation where
  kind : String
  detail : String
deriving DecidableEq, Repr

/-- `check_pre_dispatch`. -/
def checkPreDispatch (frame : ReplayFrame) (cursor : EngineCursor) : Option IntegrityViolation :=
  if frame.sequence = cursor.lastSequence ∧ cursor.lastSequence ≠ 0 then
    some
      { kind := "duplicate"
        detail := s!"sequence {frame.sequence} already dispatched" }
  else if frame.sequence < cursor.lastSequence then
    some
      { kind := "out_of_order"
        detail :=
          s!"sequence {frame.sequence} not strictly after cursor {cursor.lastSequence}" }
  else if frame.monotonicNs < cursor.lastMonotonicNs then
    some
      { kind := "time_regression"
        detail :=
          s!"monotonic_ns {frame.monotonicNs} regresses from cursor {cursor.lastMonotonicNs}" }
  else none

/-- `check_post_dispatch`. -/
def checkPostDispatch (frame : ReplayFrame) (state : VirtualRuntimeState) :
    Option IntegrityViolation :=
  if state.lastSequence ≠ frame.sequence then
    some
      { kind := "state_sequence_mismatch"
        detail :=
          s!"state last_sequence={state.lastSequence} after dispatching frame seq={frame.sequence}" }
  else none

/-- A frame passes when it comes strictly after the cursor, at no earlier time. -/
theorem checkPreDispatch_eq_none_iff {frame : ReplayFrame} (cursor : EngineCursor)
    (hpos : 0 < frame.sequence) :
    checkPreDispatch frame cursor = none ↔
      cursor.lastSequence < frame.sequence ∧ cursor.lastMonotonicNs ≤ frame.monotonicNs := by
  -- one case for each check, in the order of the source
  rw [checkPreDispatch]
  split
  next heq =>
    simp only [reduceCtorEq, false_iff]
    omega
  next hne =>
    split
    next hlt =>
      simp only [reduceCtorEq, false_iff]
      omega
    next hge =>
      split
      next hback =>
        simp only [reduceCtorEq, false_iff]
        omega
      next hforth =>
        simp only [true_iff]
        omega

theorem checkPostDispatch_eq_none_iff {frame : ReplayFrame} {state : VirtualRuntimeState} :
    checkPostDispatch frame state = none ↔ state.lastSequence = frame.sequence := by
  rw [checkPostDispatch]
  split
  next hne => simp [hne]
  next heq => simpa using heq

/-! ## The controller -/

/-- `PlaybackState`. -/
inductive PlaybackState where
  | idle
  | playing
  | paused
  | seeking
  | stopped
  | failed
deriving DecidableEq, Repr

/-- `ReplayEngineConfig`, as far as the loop reads it. -/
structure ReplayEngineConfig where
  checkpointIntervalFrames : ℕ+ := 256
  enforceStrictOrdering : Bool := true

/-- Where the loop awaits; `rest` is what its iterator has not yielded yet. -/
inductive LoopPhase where
  /-- about to take the next frame -/
  | top (rest : List ReplayFrame)
  /-- holding a frame at the pause gate -/
  | gated (frame : ReplayFrame) (rest : List ReplayFrame)
  /-- holding a frame that waits for its time, or for a step -/
  | timed (frame : ReplayFrame) (rest : List ReplayFrame)
  /-- dispatching: the store has the new state, the sink is awaited, the new cursor is
      not set yet -/
  | sinking (frame : ReplayFrame) (newCursor : EngineCursor) (newState : VirtualRuntimeState)
      (rest : List ReplayFrame)

namespace LoopPhase

/-- The frames that the loop has not dispatched yet. -/
def pending : LoopPhase → List ReplayFrame
  | top rest => rest
  | gated frame rest => frame :: rest
  | timed frame rest => frame :: rest
  | sinking _ _ _ rest => rest

/-- The frame whose dispatch is under way. -/
def inSink : LoopPhase → Option ReplayFrame
  | sinking frame _ _ _ => some frame
  | _ => none

end LoopPhase

/-- `_task`: none, a finished one, or a running one. -/
inductive LoopTask where
  | none
  | done
  | running (phase : LoopPhase)

/-- A `ReplayRuntimeEngine` with its `PlaybackController`. -/
structure Player where
  engine : ReplayEngine
  playbackState : PlaybackState := .idle
  errorDetail : String := ""
  task : LoopTask := .none
  stopEvent : Bool := false
  dispatched : List ReplayFrame := []
  origin : Int := 0

namespace Player

/-- A new engine. -/
def start (clock : ReplayClock) (checkpointCapacity : ℕ+) : Player :=
  { engine := { clock := clock, checkpoints := { capacity := checkpointCapacity } } }

/-- What the loop holds, while it runs. -/
def phase (p : Player) : Option LoopPhase :=
  match p.task with
  | .running phase => some phase
  | _ => none

/-! ### Calls -/

/-- `engine.play()`: a loop over all frames, unless one is running. -/
def play (session : ReplaySession StateDict) (p : Player) : Player :=
  match p.task with
  | .running _ => p
  | _ =>
    { p with
      stopEvent := false
      playbackState := .playing
      errorDetail := ""
      -- `iter_frames()` without a cursor: the loop starts at the first frame
      task := .running (.top session.frames) }

/-- `engine.stop()`, up to the point where it awaits the task. -/
def stop (p : Player) (now : Int) : Player :=
  match p.task with
  | .none => p
  | .done =>
    { p with
      stopEvent := true
      engine := { p.engine with clock := p.engine.clock.resume now }
      task := .none }
  | .running _ =>
    { p with
      stopEvent := true
      engine := { p.engine with clock := p.engine.clock.resume now } }

/-- `engine.pause()`. -/
def pause (p : Player) (now : Int) : Player :=
  { p with engine := { p.engine with clock := p.engine.clock.pause now } }

/-- `engine.resume()`. -/
def resume (p : Player) (now : Int) : Player :=
  { p with engine := { p.engine with clock := p.engine.clock.resume now } }

/-- `engine.seek_to_sequence(target_sequence)`. -/
def seek (session : ReplaySession StateDict) (registry : ReducerRegistry) (p : Player)
    (targetSequence now : Int) : Player :=
  let engine := (p.engine.seekToSequence session registry targetSequence now).1
  { p with engine := engine, dispatched := [], origin := engine.cursor.lastSequence }

/-! ### The loop -/

/-- The task ends; `stop`, if it is waiting for it, then drops it. -/
def finish (p : Player) (playbackState : PlaybackState) (errorDetail : String) : Player :=
  { p with
    playbackState := playbackState
    errorDetail := errorDetail
    task := if p.stopEvent then .none else .done }

/-- The loop ended by itself or by the stop event. -/
def finishStopped (p : Player) : Player := p.finish .stopped p.errorDetail

/-- `for frame in frames`, and the stop check behind it. -/
def pull (p : Player) (rest : List ReplayFrame) : Player :=
  match rest with
  | [] => p.finishStopped
  | frame :: rest =>
    if p.stopEvent then p.finishStopped else { p with task := .running (.gated frame rest) }

/-- The pause gate lets the frame through. -/
def pass (p : Player) (frame : ReplayFrame) (rest : List ReplayFrame) : Player :=
  if p.stopEvent then p.finishStopped else { p with task := .running (.timed frame rest) }

/-- The pre-dispatch check, and `dispatch` up to the point where it awaits the sink. -/
def dispatch (registry : ReducerRegistry) (config : ReplayEngineConfig) (p : Player)
    (frame : ReplayFrame) (rest : List ReplayFrame) (now : Int) : Player :=
  if p.stopEvent then p.finishStopped
  else
    match checkPreDispatch frame p.engine.cursor with
    -- outside strict ordering a refused frame is skipped
    | some violation =>
      if config.enforceStrictOrdering then p.finish .failed violation.detail
      else { p with task := .running (.top rest) }
    | none =>
      let newState := registry.apply p.engine.state frame
      -- computed before the sink is awaited, and stored behind it
      let newCursor := p.engine.cursor.advance frame.sequence frame.monotonicNs
        (p.engine.clock.currentVirtualNs now)
      { p with
        engine := { p.engine with state := newState }
        task := .running (.sinking frame newCursor newState rest)
        dispatched := p.dispatched ++ [frame] }

/-- The checkpoint cadence of `dispatch`, and the cursor update behind it. -/
def commit (config : ReplayEngineConfig) (engine : ReplayEngine) (newCursor : EngineCursor)
    (newState : VirtualRuntimeState) : ReplayEngine :=
  if newCursor.framesDispatched % config.checkpointIntervalFrames = 0 then
    { engine with
      checkpoints := engine.checkpoints.record newState
      cursor := newCursor.withCheckpoint newState.lastSequence }
  else { engine with cursor := newCursor }

/-- The rest of `dispatch`, and the post-dispatch check. -/
def settle (config : ReplayEngineConfig) (p : Player) (frame : ReplayFrame)
    (newCursor : EngineCursor) (newState : VirtualRuntimeState) (rest : List ReplayFrame) :
    Player :=
  -- overwrites the cursor, also where a seek came in during the sink
  let p := { p with engine := commit config p.engine newCursor newState }
  match checkPostDispatch frame newState with
  | some violation =>
    if config.enforceStrictOrdering then p.finish .failed violation.detail
    else { p with task := .running (.top rest) }
  | none => { p with task := .running (.top rest) }

/-- What `commit` changes: the cursor, and maybe one checkpoint more. -/
theorem commit_spec (config : ReplayEngineConfig) (engine : ReplayEngine)
    (newCursor : EngineCursor) (newState : VirtualRuntimeState) :
    (commit config engine newCursor newState).state = engine.state ∧
    (commit config engine newCursor newState).cursor.lastSequence = newCursor.lastSequence ∧
    (commit config engine newCursor newState).cursor.lastMonotonicNs
      = newCursor.lastMonotonicNs ∧
    ∀ cp ∈ (commit config engine newCursor newState).checkpoints.checkpoints,
      cp = CheckpointRuntime.checkpointOf newState ∨ cp ∈ engine.checkpoints.checkpoints := by
  rw [commit]
  by_cases hcadence : newCursor.framesDispatched % config.checkpointIntervalFrames = 0
  · rw [if_pos hcadence]
    exact ⟨rfl, rfl, rfl, fun cp hcp => CheckpointRuntime.mem_record hcp⟩
  · rw [if_neg hcadence]
    exact ⟨rfl, rfl, rfl, fun cp hcp => .inr hcp⟩

theorem clock_commit (config : ReplayEngineConfig) (engine : ReplayEngine)
    (newCursor : EngineCursor) (newState : VirtualRuntimeState) :
    (commit config engine newCursor newState).clock = engine.clock := by
  rw [commit]
  split
  next => rfl
  next => rfl

/-! ### Steps -/

/-- The calls, and the steps of the loop. -/
inductive Action where
  | play
  | stop (now : Int)
  | pause (now : Int)
  | resume (now : Int)
  | seek (targetSequence now : Int)
  | pull
  | pass
  | dispatch (now : Int)
  | settle
deriving DecidableEq, Repr

/-- One action.  A step of the loop is enabled in its phase only, and the gate only
    opens while the clock runs. -/
def step (session : ReplaySession StateDict) (registry : ReducerRegistry)
    (config : ReplayEngineConfig) (p : Player) : Action → Option Player
  | .play => some (p.play session)
  | .stop now => some (p.stop now)
  | .pause now => some (p.pause now)
  | .resume now => some (p.resume now)
  | .seek targetSequence now => some (p.seek session registry targetSequence now)
  | .pull =>
    match p.task with
    | .running (.top rest) => some (p.pull rest)
    | _ => none
  | .pass =>
    match p.task with
    | .running (.gated frame rest) =>
      if p.engine.clock.paused then none else some (p.pass frame rest)
    | _ => none
  | .dispatch now =>
    match p.task with
    | .running (.timed frame rest) => some (p.dispatch registry config frame rest now)
    | _ => none
  | .settle =>
    match p.task with
    | .running (.sinking frame newCursor newState rest) =>
      some (p.settle config frame newCursor newState rest)
    | _ => none

/-- What a step does: the call itself, or the one step that the loop can take in its
    phase. -/
inductive Stepped (session : ReplaySession StateDict) (registry : ReducerRegistry)
    (config : ReplayEngineConfig) (p : Player) : Action → Player → Prop
  | play : Stepped session registry config p .play (p.play session)
  | stop (now : Int) : Stepped session registry config p (.stop now) (p.stop now)
  | pause (now : Int) : Stepped session registry config p (.pause now) (p.pause now)
  | resume (now : Int) : Stepped session registry config p (.resume now) (p.resume now)
  | seek (t now : Int) :
    Stepped session registry config p (.seek t now) (p.seek session registry t now)
  | pull {rest : List ReplayFrame} (hphase : p.phase = some (.top rest)) :
    Stepped session registry config p .pull (p.pull rest)
  | pass {frame : ReplayFrame} {rest : List ReplayFrame}
    (hphase : p.phase = some (.gated frame rest)) (hrunning : p.engine.clock.paused = false) :
    Stepped session registry config p .pass (p.pass frame rest)
  | dispatch (now : Int) {frame : ReplayFrame} {rest : List ReplayFrame}
    (hphase : p.phase = some (.timed frame rest)) :
    Stepped session registry config p (.dispatch now) (p.dispatch registry config frame rest now)
  | settle {frame : ReplayFrame} {newCursor : EngineCursor} {newState : VirtualRuntimeState}
    {rest : List ReplayFrame} (hphase : p.phase = some (.sinking frame newCursor newState rest)) :
    Stepped session registry config p .settle (p.settle config frame newCursor newState rest)

theorem stepped_of_step {session : ReplaySession StateDict} {registry : ReducerRegistry}
    {config : ReplayEngineConfig} {p p' : Player} {a : Action}
    (h : step session registry config p a = some p') : Stepped session registry config p a p' := by
  cases a with
  | play =>
    cases h
    exact .play
  | stop now =>
    cases h
    exact .stop now
  | pause now =>
    cases h
    exact .pause now
  | resume now =>
    cases h
    exact .resume now
  | seek t now =>
    cases h
    exact .seek t now
  | pull =>
    rw [step] at h
    split at h
    next rest htask =>
      cases h
      exact .pull (by rw [phase, htask])
    next => cases h
  | pass =>
    rw [step] at h
    split at h
    next frame rest htask =>
      cases hpaused : p.engine.clock.paused with
      | true => simp [hpaused] at h
      | false =>
        simp only [hpaused] at h
        cases h
        exact .pass (by rw [phase, htask]) hpaused
    next => cases h
  | dispatch now =>
    rw [step] at h
    split at h
    next frame rest htask =>
      cases h
      exact .dispatch now (by rw [phase, htask])
    next => cases h
  | settle =>
    rw [step] at h
    split at h
    next frame newCursor newState rest htask =>
      cases h
      exact .settle (by rw [phase, htask])
    next => cases h

end Player

end AsyncViz.Replay
