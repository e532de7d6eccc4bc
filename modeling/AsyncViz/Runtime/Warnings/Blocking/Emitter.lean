/-
  AsyncViz.Runtime.Warnings.Blocking.Emitter

  `BlockingWarningEmitter` (`blocking_warning_emitter.py`): `on_detection`, `on_capture`,
  `sweep_expirations` and `reconfigure`, as functions on the emitter's state.

  What the bus does with an event is a parameter: `raises payload` says that the dispatch of the
  payload raises.  The counters, the statistics and the tracer are left out; `history` keeps what
  they and the router are told: the groups opened and expired and the payloads handed on.
-/

import AsyncViz.Runtime.Warnings.Blocking.Models

namespace AsyncViz.Runtime.Warnings.Blocking

open AsyncViz.Lib

/-- `_NO_WINDOW_KEY`. -/
def noWindowKey : String := "_no_window_"

/-- What the emitter has told the statistics and the router, oldest first. -/
structure History where
  opened : List WarningGroup := []
  dispatched : List BlockingWarningPayload := []
  expired : List WarningGroup := []

/-- `BlockingWarningEmitter`. -/
structure BlockingWarningEmitter where
  runtimeId : String
  configuration : BlockingWarningConfiguration
  policy : BlockingWarningPolicy
  registry : WarningGroupRegistry
  dedup : TransitionDeduplicator
  backpressure : WarningEmitterBackpressure
  inDispatch : Bool := false
  latestMonotonicNs : Int := 0
  history : History := {}

namespace BlockingWarningEmitter

/-- `BlockingWarningEmitter(configuration=...)`. -/
def new (runtimeId : String) (configuration : BlockingWarningConfiguration) :
    BlockingWarningEmitter where
  runtimeId := runtimeId
  configuration := configuration
  policy := configuration.policy
  registry := .new configuration.recentCapacity
  dedup := { cooldownsNs := configuration.cooldowns }
  backpressure := { capacity := configuration.maxPendingEvents }

/-- `_update_latest_ns`. -/
def updateLatestNs (e : BlockingWarningEmitter) (ns : Int) : BlockingWarningEmitter :=
  { e with latestMonotonicNs := if ns > e.latestMonotonicNs then ns else e.latestMonotonicNs }

/-! ## Pipeline internals -/

/-- The router's `dispatch`, between taking and releasing a slot of the backpressure: the bus gets
    the event only where events are on, and what it raises keeps the payload from the caller. -/
def dispatch (e : BlockingWarningEmitter) (raises : BlockingWarningPayload → Bool)
    (payload : BlockingWarningPayload) : Option BlockingWarningPayload × BlockingWarningEmitter :=
  (if e.configuration.emitEvents && raises payload then none else some payload,
    { e with
      inDispatch := false
      backpressure := e.backpressure.release
      history := { e.history with dispatched := e.history.dispatched ++ [payload] } })

/-- `_emit_transition`. -/
def emitTransition (e : BlockingWarningEmitter) (raises : BlockingWarningPayload → Bool)
    (group : WarningGroup) (transition : Transition) (monotonicNs : Int) :
    Option BlockingWarningPayload × BlockingWarningEmitter :=
  let (suppressed, dedup) := e.dedup.checkAndRecord group.groupId transition monotonicNs
  let e := { e with dedup := dedup }
  if suppressed then (none, e)
  else
    let (sequence, registry) := e.registry.nextSequence
    let payload := buildPayload group transition sequence
    let (accepted, backpressure) := e.backpressure.acquire
    let e := { e with registry := registry, backpressure := backpressure }
    if accepted then e.dispatch raises payload else (none, e)

/-- `_finalize_recovered`. -/
def finalizeRecovered (e : BlockingWarningEmitter) (raises : BlockingWarningPayload → Bool)
    (group : WarningGroup) (monotonicNs : Int) : BlockingWarningEmitter :=
  if group.state = .recovered then e
  else
    let group := group.markRecovered monotonicNs
    ({ e with registry := e.registry.put group }.emitTransition raises group .recovered
      monotonicNs).2

/-- `_window_key`. -/
def windowKey (t : WindowTransition) : String := (t.current <|> t.closed).getD noWindowKey

/-- The group and warning id of a sequence number. -/
def warningIdOf (runtimeId : String) (sequence : Nat) : String := s!"bw:{runtimeId}:{sequence}"

/-- The group that `_open_group` builds; it is shown with the window id it is tracked under,
    or with none outside any window. -/
def newGroup (runtimeId warningId windowKey : String) (outcome : DetectionOutcome) (ns : Int) :
    WarningGroup where
  groupId := warningId
  warningId := warningId
  runtimeId := runtimeId
  windowId := if windowKey = noWindowKey then none else some windowKey
  state := .opened
  severity := outcome.effectiveSeverity
  peakSeverity := outcome.effectiveSeverity
  firstSeenNs := ns
  lastSeenNs := ns
  peakLagNs := outcome.lagNs
  lastLagNs := outcome.lagNs
  violationCount := 1
  escalationCount := 0

/-- `_open_group`: the registry files the group while it has the key as its window id. -/
def openGroup (e : BlockingWarningEmitter) (outcome : DetectionOutcome) (windowKey : String)
    (ns : Int) : WarningGroup × BlockingWarningEmitter :=
  let (sequence, registry) := e.registry.nextSequence
  let group := newGroup e.runtimeId (warningIdOf e.runtimeId sequence) windowKey outcome ns
  (group,
    { e with
      registry := (registry.add { group with windowId := some windowKey }).put group
      history := { e.history with opened := e.history.opened ++ [group] } })

/-! ## Public hooks -/

/-- The first part of `on_detection`: the group of a window that the outcome closes recovers. -/
def recoverClosed (e : BlockingWarningEmitter) (raises : BlockingWarningPayload → Bool)
    (outcome : DetectionOutcome) : BlockingWarningEmitter :=
  match outcome.windowTransition.closed.bind e.registry.findByWindowId with
  | some existing => e.finalizeRecovered raises existing outcome.actualNs
  | none => e

/-- The refresh path of `on_detection`. -/
def refresh (e : BlockingWarningEmitter) (raises : BlockingWarningPayload → Bool)
    (existing : WarningGroup) (outcome : DetectionOutcome) :
    Option BlockingWarningPayload × BlockingWarningEmitter :=
  let group := existing.recordObservation outcome.effectiveSeverity outcome.lagNs outcome.actualNs
    outcome.sampleIndex
  let e := { e with registry := e.registry.put group }
  if group.state = .escalating then e.emitTransition raises group .escalated outcome.actualNs
  else e.emitTransition raises group .active outcome.actualNs

/-- A rejected outcome still opens a group, silently, where only escalations are to be told. -/
def opensSilently (e : BlockingWarningEmitter) (outcome : DetectionOutcome) : Bool :=
  e.policy.escalationsOnly &&
    e.configuration.minSeverity.rank ≤ outcome.effectiveSeverity.rank

/-- The rest of `on_detection`, after the close. -/
def handle (e : BlockingWarningEmitter) (raises : BlockingWarningPayload → Bool)
    (outcome : DetectionOutcome) : Option BlockingWarningPayload × BlockingWarningEmitter :=
  let key := windowKey outcome.windowTransition
  let ns := outcome.actualNs
  match e.registry.findByWindowId key, (e.policy.evaluate outcome).accept with
  | none, false =>
    if e.opensSilently outcome then (none, (e.openGroup outcome key ns).2) else (none, e)
  | some _, false => (none, e)
  | none, true =>
    let (group, e) := e.openGroup outcome key ns
    e.emitTransition raises group .opened ns
  | some existing, true =>
    if existing.state.isTerminal then (none, e) else e.refresh raises existing outcome

/-- `emitter.on_detection(outcome)`. -/
def onDetection (e : BlockingWarningEmitter) (raises : BlockingWarningPayload → Bool)
    (outcome : DetectionOutcome) : Option BlockingWarningPayload × BlockingWarningEmitter :=
  if !e.configuration.enabled then (none, e)
  else if e.inDispatch then (none, e)
  else ((e.updateLatestNs outcome.actualNs).recoverClosed raises outcome).handle raises outcome

/-- `emitter.on_capture(stack)`, with `CaptureCorrelator.correlate`. -/
def onCapture (e : BlockingWarningEmitter) (stack : CapturedStack) :
    Bool × BlockingWarningEmitter :=
  if !e.configuration.enabled then (false, e)
  else
    match stack.windowId.bind e.registry.findByWindowId with
    | none => (false, e)
    | some group =>
      let group := (group.recordCapture stack.captureId).attachTask stack.taskId stack.taskName
        stack.coroutineName
      (true, { e with registry := e.registry.put group })

/-- One turn of the loop of `sweep_expirations`. -/
def expireOne (raises : BlockingWarningPayload → Bool) (ttl : Nat) (nowNs : Int)
    (swept : Nat × BlockingWarningEmitter) (snap : WarningGroup) : Nat × BlockingWarningEmitter :=
  let (expired, e) := swept
  let recoveredNs := snap.recoveredNs.getD 0
  if snap.state ≠ .recovered then (expired, e)
  else if recoveredNs = 0 ∨ nowNs - recoveredNs < ttl then (expired, e)
  else
    match e.registry.findByGroupId snap.groupId with
    | none => (expired, e)
    | some live =>
      let live := live.markExpired nowNs
      let e :=
        { e with
          registry := e.registry.put live
          dedup := e.dedup.forgetGroup live.groupId
          history := { e.history with expired := e.history.expired ++ [live] } }
      let e := (e.emitTransition raises live .expired nowNs).2
      (expired + 1, { e with registry := e.registry.finalize live })

/-- `emitter.sweep_expirations(now_monotonic_ns=...)`: the count of the groups it expires. -/
def sweepExpirations (e : BlockingWarningEmitter) (raises : BlockingWarningPayload → Bool)
    (nowMonotonicNs : Option Int) : Nat × BlockingWarningEmitter :=
  let ttl := e.configuration.expirationTtlNs
  let nowNs := nowMonotonicNs.getD e.latestMonotonicNs
  if ttl = 0 then (0, e)
  else if nowNs ≤ 0 then (0, e)
  else e.registry.active.values.foldl (expireOne raises ttl nowNs) (0, e)

/-- The registry after a swap of its capacity: a new one, with the groups that the old one
    holds. -/
def swapRegistry (r : WarningGroupRegistry) (recentCapacity : Nat) : WarningGroupRegistry :=
  r.active.values.foldl
    (fun new snap =>
      match r.findByGroupId snap.groupId with
      | some live => new.add live
      | none => new)
    (.new recentCapacity)

/-- `emitter.reconfigure(configuration)`; a configuration with the same values changes nothing,
    as `configuration is previous` does. -/
def reconfigure (e : BlockingWarningEmitter) (configuration : BlockingWarningConfiguration) :
    BlockingWarningEmitter :=
  let previous := e.configuration
  { e with
    registry :=
      if configuration.recentCapacity ≠ previous.recentCapacity then
        swapRegistry e.registry configuration.recentCapacity
      else e.registry
    backpressure :=
      if configuration.maxPendingEvents ≠ previous.maxPendingEvents then
        { capacity := configuration.maxPendingEvents }
      else e.backpressure
    dedup :=
      if configuration.cooldowns ≠ previous.cooldowns then
        { cooldownsNs := configuration.cooldowns }
      else e.dedup
    policy := configuration.policy
    configuration := configuration }

end BlockingWarningEmitter

end AsyncViz.Runtime.Warnings.Blocking
