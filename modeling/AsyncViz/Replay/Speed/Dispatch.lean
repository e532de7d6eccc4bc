/-
  AsyncViz.Replay.Speed.Dispatch

  The coordination of speed changes (`replay/runtime/speed/`): `clamp_speed`,
  `SpeedClockCoordinator`, `check_transition`, `SpeedQueue`, and `SpeedDispatch.submit`.

  Every reading of the wall clock, by the clock or by the coordinator, has a moment of its
  own: `apply_speed` makes four of them, `sample_drift` two.  Speeds are rationals; what is no
  number is no request.  Latencies, metrics, traces, listeners and the history of transitions
  are left out, and with them the texts of the violations.
-/

import AsyncViz.Replay.Models

namespace AsyncViz.Replay.Speed

/-! ## Configuration -/

/-- `InvalidSpeedPolicy`. -/
inductive InvalidSpeedPolicy where
  | clamp
  | reject
deriving DecidableEq, Repr

/-- `ReplaySpeedConfig`, as far as the dispatch is made of it, with what `__post_init__`
    checks. -/
structure ReplaySpeedConfig where
  minSpeed : ℚ
  maxSpeed : ℚ
  invalidSpeedPolicy : InvalidSpeedPolicy := .clamp
  queueCapacity : Nat
  coalesceRepeatedRequests : Bool := true
  min_pos : 0 < minSpeed
  min_lt_max : minSpeed < maxSpeed
  capacity_pos : 1 ≤ queueCapacity

/-- `DEFAULT_MIN_SPEED`. -/
def defaultMinSpeed : ℚ := 1 / 20

/-- `DEFAULT_MAX_SPEED`. -/
def defaultMaxSpeed : ℚ := 32

/-- `DEFAULT_QUEUE_CAPACITY`. -/
def defaultQueueCapacity : Nat := 16

theorem defaultMinSpeed_pos : 0 < defaultMinSpeed := by norm_num [defaultMinSpeed]

theorem defaultMinSpeed_lt : defaultMinSpeed < defaultMaxSpeed := by
  norm_num [defaultMinSpeed, defaultMaxSpeed]

theorem defaultQueueCapacity_pos : 1 ≤ defaultQueueCapacity := by decide

/-- `ReplaySpeedConfig()`. -/
def ReplaySpeedConfig.default : ReplaySpeedConfig :=
  { minSpeed := defaultMinSpeed
    maxSpeed := defaultMaxSpeed
    queueCapacity := defaultQueueCapacity
    min_pos := defaultMinSpeed_pos
    min_lt_max := defaultMinSpeed_lt
    capacity_pos := defaultQueueCapacity_pos }

/-! ## Clamping -/

/-- `ClampVerdict`; the reason of a clamped value is not read. -/
structure ClampVerdict where
  accepted : Bool
  clamped : Bool
  requested : ℚ
  resolved : ℚ
  reason : String := ""

/-- `clamp_speed(requested, min_speed, max_speed)`.  A refused value resolves to NaN, which is
    not read. -/
def clampSpeed (requested minSpeed maxSpeed : ℚ) : ClampVerdict :=
  if requested ≤ 0 then
    { accepted := false, clamped := false, requested := requested, resolved := requested
      reason := "speed must be > 0" }
  else if requested < minSpeed then
    { accepted := true, clamped := true, requested := requested, resolved := minSpeed }
  else if requested > maxSpeed then
    { accepted := true, clamped := true, requested := requested, resolved := maxSpeed }
  else { accepted := true, clamped := false, requested := requested, resolved := requested }

/-- What is accepted resolves to a positive speed. -/
theorem clampSpeed_pos {requested minSpeed maxSpeed : ℚ} (hmin : 0 < minSpeed)
    (hmax : minSpeed < maxSpeed) (h : (clampSpeed requested minSpeed maxSpeed).accepted = true) :
    0 < (clampSpeed requested minSpeed maxSpeed).resolved := by
  rw [clampSpeed] at h ⊢
  by_cases hrefused : requested ≤ 0
  · rw [if_pos hrefused] at h
    cases h
  rw [if_neg hrefused]
  split_ifs
  · exact hmin
  · exact hmin.trans hmax
  · exact not_le.mp hrefused

/-! ## The clock side -/

/-- `ClockScalingAnchor`. -/
structure ClockScalingAnchor where
  speed : ℚ
  virtualNs : Int
  wallNs : Int
  paused : Bool
deriving DecidableEq

/-- `DriftSample`. -/
structure DriftSample where
  observedVirtualNs : Int
  expectedVirtualNs : Int
  driftNs : Int
  atWallNs : Int
deriving DecidableEq

/-- `SpeedClockCoordinator`. -/
structure SpeedClockCoordinator where
  clock : ReplayClock
  anchor : ClockScalingAnchor

namespace SpeedClockCoordinator

/-- The anchor that is read off a clock: the virtual time first, then the wall time. -/
def anchorOf (clock : ReplayClock) (readAt wallAt : Int) : ClockScalingAnchor :=
  { speed := clock.speed
    virtualNs := clock.currentVirtualNs readAt
    wallNs := wallAt
    paused := clock.paused }

/-- `SpeedClockCoordinator(clock)`. -/
def new (clock : ReplayClock) (readAt wallAt : Int) : SpeedClockCoordinator :=
  { clock := clock, anchor := anchorOf clock readAt wallAt }

/-- When `apply_speed` reads the wall clock: twice in `set_speed`, once in
    `current_virtual_ns`, and once by itself. -/
structure ApplyTimes where
  readAt : Int
  anchoredAt : Int
  shownAt : Int
  wallAt : Int

/-- `coordinator.current_speed`. -/
def currentSpeed (c : SpeedClockCoordinator) : ℚ := c.clock.speed

/-- `coordinator.apply_speed(new_speed)`; it raises unless the speed is positive. -/
def applySpeed (c : SpeedClockCoordinator) (newSpeed : ℚ) (times : ApplyTimes) :
    Option SpeedClockCoordinator :=
  (c.clock.setSpeed newSpeed times.readAt times.anchoredAt).map fun clock =>
    { clock := clock, anchor := anchorOf clock times.shownAt times.wallAt }

/-- `coordinator.sample_drift()`: the wall time for the expected time is read first, and the
    clock at `observedAt`. -/
def sampleDrift (c : SpeedClockCoordinator) (now observedAt : Int) : DriftSample :=
  let elapsedWall := max 0 (now - c.anchor.wallNs)
  let expected :=
    if c.anchor.paused || c.clock.paused then c.anchor.virtualNs
    else c.anchor.virtualNs + ⌊((elapsedWall : Int) : ℚ) * c.anchor.speed⌋
  let observed := c.clock.currentVirtualNs observedAt
  { observedVirtualNs := observed
    expectedVirtualNs := expected
    driftNs := observed - expected
    atWallNs := now }

/-- `coordinator.re_anchor_from_seek(virtual_ns)`. -/
def reAnchorFromSeek (c : SpeedClockCoordinator) (virtualNs now : Int) : SpeedClockCoordinator :=
  { c with
    anchor :=
      { speed := c.clock.speed
        virtualNs := virtualNs
        wallNs := now
        paused := c.clock.paused } }

end SpeedClockCoordinator

/-! ## Requests and phases -/

/-- `SpeedChangeRequest`. -/
structure SpeedChangeRequest where
  requestId : Nat
  targetSpeed : ℚ
  reason : String := ""

/-- `SpeedChangeResult`. -/
structure SpeedChangeResult where
  requestId : Nat
  requestedSpeed : ℚ
  appliedSpeed : ℚ
  previousSpeed : ℚ
  coalesced : Bool
  rejected : Bool
  clamped : Bool
  errorDetail : String := ""

/-- `SpeedTransition`, as far as `check_transition` reads it. -/
structure SpeedTransition where
  newSpeed : ℚ
  atVirtualNs : Int

/-- `SpeedPhase`. -/
inductive SpeedPhase where
  | idle
  | applying
  | applied
  | coalesced
  | rejected
deriving DecidableEq, Repr

/-- `SpeedPhaseSnapshot`. -/
structure SpeedPhaseSnapshot where
  phase : SpeedPhase
  inFlightRequestId : Nat := 0
  targetSpeed : ℚ := 0
  currentSpeed : ℚ := 0
  lastCompletedSpeed : ℚ := 0
  errorDetail : String := ""

/-- `SpeedIntegrityViolation.kind`. -/
inductive SpeedIntegrityViolation where
  | speedMismatch
  | outOfBounds
  | timeRegression
deriving DecidableEq, Repr

/-- `check_transition`. -/
def checkTransition (transition : SpeedTransition) (observedSpeed : ℚ) (previousVirtualNs : Int)
    (minSpeed maxSpeed : ℚ) : Option SpeedIntegrityViolation :=
  if |transition.newSpeed - observedSpeed| > 1 / 1000000000 then some .speedMismatch
  else if ¬ (minSpeed ≤ transition.newSpeed ∧ transition.newSpeed ≤ maxSpeed) then
    some .outOfBounds
  else if transition.atVirtualNs < previousVirtualNs then some .timeRegression
  else none

/-- `queue.offer(item)`. -/
def offer (queue : List SpeedChangeRequest) (capacity : Nat) (request : SpeedChangeRequest) :
    List SpeedChangeRequest :=
  if queue.length ≥ capacity then queue.tail ++ [request] else queue ++ [request]

/-! ## The dispatch -/

/-- What `submit` can raise. -/
inductive SpeedError where
  | value
  | integrity (violation : SpeedIntegrityViolation)

/-- `SpeedDispatch`. -/
structure SpeedDispatch where
  config : ReplaySpeedConfig
  strictIntegrity : Bool := false
  clock : SpeedClockCoordinator
  state : SpeedPhaseSnapshot
  queue : List SpeedChangeRequest := []

namespace SpeedDispatch

/-- The dispatch of a new controller. -/
def new (config : ReplaySpeedConfig) (strictIntegrity : Bool) (clock : ReplayClock)
    (readAt wallAt : Int) : SpeedDispatch :=
  { config := config
    strictIntegrity := strictIntegrity
    clock := .new clock readAt wallAt
    state := { phase := .idle, currentSpeed := clock.speed, lastCompletedSpeed := clock.speed } }

/-- The rejection of a request, under both policies. -/
def rejectRequest (d : SpeedDispatch) (request : SpeedChangeRequest) (verdict : ClampVerdict) :
    SpeedChangeResult × SpeedDispatch :=
  let previousSpeed := d.clock.currentSpeed
  ({ requestId := request.requestId
     requestedSpeed := verdict.requested
     appliedSpeed := previousSpeed
     previousSpeed := previousSpeed
     coalesced := false
     rejected := true
     clamped := false
     errorDetail := verdict.reason },
    { d with
      state :=
        { phase := .rejected
          targetSpeed := request.targetSpeed
          currentSpeed := previousSpeed
          lastCompletedSpeed := previousSpeed
          errorDetail := verdict.reason } })

/-- A request for the speed that the clock has. -/
def coalesceRequest (d : SpeedDispatch) (request : SpeedChangeRequest) (verdict : ClampVerdict) :
    SpeedChangeResult × SpeedDispatch :=
  let previousSpeed := d.clock.currentSpeed
  ({ requestId := request.requestId
     requestedSpeed := verdict.requested
     appliedSpeed := previousSpeed
     previousSpeed := previousSpeed
     coalesced := true
     rejected := false
     clamped := verdict.clamped },
    { d with
      state :=
        { phase := .coalesced
          targetSpeed := verdict.resolved
          currentSpeed := previousSpeed
          lastCompletedSpeed := previousSpeed } })

/-- The request is queued, applied and checked; a violation raises in strict mode only, when
    the speed has been installed. -/
def applyRequest (d : SpeedDispatch) (request : SpeedChangeRequest) (verdict : ClampVerdict)
    (times : SpeedClockCoordinator.ApplyTimes) :
    Except SpeedError SpeedChangeResult × SpeedDispatch :=
  let previousSpeed := d.clock.currentSpeed
  let applying :=
    { d with
      queue := offer d.queue d.config.queueCapacity request
      state :=
        { phase := .applying
          inFlightRequestId := request.requestId
          targetSpeed := verdict.resolved
          currentSpeed := previousSpeed
          lastCompletedSpeed := previousSpeed } }
  match d.clock.applySpeed verdict.resolved times with
  | none => (.error .value, applying)
  | some clock =>
    let transition : SpeedTransition :=
      { newSpeed := clock.anchor.speed, atVirtualNs := clock.anchor.virtualNs }
    let violation := checkTransition transition clock.currentSpeed d.clock.anchor.virtualNs
      d.config.minSpeed d.config.maxSpeed
    match violation, d.strictIntegrity with
    | some violation, true => (.error (.integrity violation), { applying with clock := clock })
    | _, _ =>
      (.ok
        { requestId := request.requestId
          requestedSpeed := verdict.requested
          appliedSpeed := transition.newSpeed
          previousSpeed := previousSpeed
          coalesced := false
          rejected := false
          clamped := verdict.clamped },
        { applying with
          clock := clock
          queue := []
          state :=
            { phase := .applied
              targetSpeed := verdict.resolved
              currentSpeed := transition.newSpeed
              lastCompletedSpeed := transition.newSpeed } })

/-- `dispatch.submit(request)`. -/
def submit (d : SpeedDispatch) (request : SpeedChangeRequest)
    (times : SpeedClockCoordinator.ApplyTimes) :
    Except SpeedError SpeedChangeResult × SpeedDispatch :=
  let verdict := clampSpeed request.targetSpeed d.config.minSpeed d.config.maxSpeed
  if verdict.accepted = false then
    let (result, d) := d.rejectRequest request verdict
    (.ok result, d)
  else if d.config.coalesceRepeatedRequests ∧
      |verdict.resolved - d.clock.currentSpeed| < 1 / 1000000000 then
    let (result, d) := d.coalesceRequest request verdict
    (.ok result, d)
  else d.applyRequest request verdict times

/-- The request gets as far as the clock. -/
def Applies (d : SpeedDispatch) (request : SpeedChangeRequest) : Prop :=
  let verdict := clampSpeed request.targetSpeed d.config.minSpeed d.config.maxSpeed
  verdict.accepted = true ∧
    ¬ (d.config.coalesceRepeatedRequests ∧
      |verdict.resolved - d.clock.currentSpeed| < 1 / 1000000000)

instance (d : SpeedDispatch) (request : SpeedChangeRequest) : Decidable (d.Applies request) :=
  inferInstanceAs (Decidable (_ ∧ _))

/-- A request that does not get there leaves the clock and the anchor alone. -/
theorem submit_clock_of_not_applies {d : SpeedDispatch} {request : SpeedChangeRequest}
    (h : ¬ d.Applies request) (times : SpeedClockCoordinator.ApplyTimes) :
    (d.submit request times).2.clock = d.clock := by
  rw [submit]
  dsimp only
  by_cases haccepted : (clampSpeed request.targetSpeed d.config.minSpeed
      d.config.maxSpeed).accepted = false
  · rw [if_pos haccepted]
    rfl
  · rw [if_neg haccepted]
    have htrue := Bool.not_eq_false _ ▸ haccepted
    rw [if_pos (not_not.mp fun hnot => h ⟨htrue, hnot⟩)]
    rfl

/-- Any other installs a positive speed and reads the anchor off, whether or not it raises
    after that. -/
theorem submit_clock_of_applies {d : SpeedDispatch} {request : SpeedChangeRequest}
    (h : d.Applies request) (times : SpeedClockCoordinator.ApplyTimes) :
    ∃ speed clock, 0 < speed ∧
      d.clock.clock.setSpeed speed times.readAt times.anchoredAt = some clock ∧
      (d.submit request times).2.clock =
        { clock := clock
          anchor := SpeedClockCoordinator.anchorOf clock times.shownAt times.wallAt } := by
  obtain ⟨haccepted, hdistinct⟩ := h
  have hpos := clampSpeed_pos d.config.min_pos d.config.min_lt_max haccepted
  refine ⟨_, _, hpos, if_neg (not_le.mpr hpos), ?_⟩
  rw [submit]
  dsimp only
  rw [if_neg (by rw [haccepted]; exact Bool.noConfusion), if_neg hdistinct]
  rw [applyRequest, SpeedClockCoordinator.applySpeed, ReplayClock.setSpeed,
    if_neg (not_le.mpr hpos)]
  dsimp only [Option.map_some]
  split <;> rfl

end SpeedDispatch

end AsyncViz.Replay.Speed
