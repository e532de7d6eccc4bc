/-
  AsyncViz.Runtime.Monitoring.Blocking.Detector

  `BlockingThresholdDetector` (`runtime/monitoring/blocking/blocking_detector.py`) with the parts
  that its windows rest on: the classifier, the escalation engine, the window tracker, the
  statistics, the backpressure and the lifecycle.

  The tracker is the one of the feed (`Warnings.Blocking.BlockingWindowTracker`) with the ring of
  the closed windows and the totals; `BlockingWindowTracker.process_eq` says that the two go
  together.  Violation and escalation events, cooldowns, metrics, traces and listeners are left
  out.  The emitter is known by whether there is one: what it answers only reaches the metrics.
-/

import AsyncViz.Runtime.Warnings.Blocking.Feed

namespace AsyncViz.Runtime.Monitoring.Blocking

open AsyncViz.Lib
open AsyncViz.Runtime.Warnings.Blocking (BlockingSeverity EscalationOutcome ActiveWindow)
open AsyncViz.Runtime.Warnings.Blocking.BlockingWindowTracker (windowIdOf extend)

/-! ## Classification and escalation -/

/-- `LagSeverity`. -/
inductive LagSeverity where
  | normal
  | warning
  | critical
  | freeze
deriving DecidableEq, Repr

/-- `LagMeasurement`, as far as the windows go. -/
structure LagMeasurement where
  sampleIndex : Int
  actualNs : Int

/-- `LagThresholdEvaluation`. -/
structure LagThresholdEvaluation where
  severity : LagSeverity
  lagNs : Int

/-- `BlockingClassification`. -/
structure BlockingClassification where
  severity : BlockingSeverity
  measurement : LagMeasurement
  lagNs : Int

/-- `_LAG_TO_BLOCKING`. -/
def lagToBlocking : LagSeverity → BlockingSeverity
  | .normal => .none
  | .warning => .warning
  | .critical => .critical
  | .freeze => .freeze

/-- `BlockingClassifier.classify`. -/
def classify (measurement : LagMeasurement) (evaluation : LagThresholdEvaluation) :
    BlockingClassification :=
  ⟨lagToBlocking evaluation.severity, measurement, evaluation.lagNs⟩

/-- `BlockingThresholdPolicy` and what `__post_init__` checks. -/
structure BlockingThresholdPolicy extends Warnings.Blocking.BlockingThresholdPolicy where
  escalationWarningThreshold : Nat
  escalationCriticalThreshold : Nat
  close_pos : 1 ≤ windowCloseConsecutiveNormals
  warning_pos : 1 ≤ escalationWarningThreshold
  critical_pos : 1 ≤ escalationCriticalThreshold
  open_ne_none : windowOpenSeverity ≠ .none

theorem warning_ne_none : BlockingSeverity.warning ≠ .none := by decide

/-- `BlockingThresholdPolicy()`. -/
def BlockingThresholdPolicy.default : BlockingThresholdPolicy where
  windowOpenSeverity := .warning
  windowCloseConsecutiveNormals := 2
  escalationWarningThreshold := 5
  escalationCriticalThreshold := 3
  close_pos := Nat.succ_pos 1
  warning_pos := Nat.succ_pos 4
  critical_pos := Nat.succ_pos 2
  open_ne_none := warning_ne_none

/-- `EscalationEngine`. -/
structure EscalationEngine where
  policy : BlockingThresholdPolicy
  consecutiveWarning : Nat := 0
  consecutiveCritical : Nat := 0
  consecutiveFreeze : Nat := 0

namespace EscalationEngine

/-- `engine.configure(policy)`: the counters stay. -/
def configure (engine : EscalationEngine) (policy : BlockingThresholdPolicy) : EscalationEngine :=
  { engine with policy := policy }

/-- The counters after one more source severity. -/
def count (engine : EscalationEngine) (source : BlockingSeverity) : EscalationEngine :=
  { engine with
    consecutiveWarning :=
      if source.rank ≥ BlockingSeverity.warning.rank then engine.consecutiveWarning + 1 else 0
    consecutiveCritical :=
      if source.rank ≥ BlockingSeverity.critical.rank then engine.consecutiveCritical + 1 else 0
    consecutiveFreeze :=
      if source.rank ≥ BlockingSeverity.freeze.rank then engine.consecutiveFreeze + 1 else 0 }

/-- The severity that the pressure so far makes of the source severity. -/
def upgrade (engine : EscalationEngine) (source : BlockingSeverity) : BlockingSeverity :=
  let effective :=
    if source = .warning ∧ engine.consecutiveWarning ≥ engine.policy.escalationWarningThreshold then
      .critical
    else source
  if effective = .critical ∧
      engine.consecutiveCritical ≥ engine.policy.escalationCriticalThreshold then
    .freeze
  else effective

/-- `engine.process(classification)`. -/
def process (engine : EscalationEngine) (classification : BlockingClassification) :
    EscalationOutcome × EscalationEngine :=
  let source := classification.severity
  let engine := engine.count source
  let effective := engine.upgrade source
  (⟨classification.measurement.sampleIndex, classification.measurement.actualNs,
      classification.lagNs, effective, effective.rank > source.rank⟩, engine)

end EscalationEngine

/-! ## Windows -/

/-- `BlockingWindowSnapshot`. -/
structure BlockingWindowSnapshot where
  windowId : String
  runtimeId : String
  openSampleIndex : Int
  closeSampleIndex : Option Int
  openMonotonicNs : Int
  closeMonotonicNs : Option Int
  peakLagNs : Int
  peakSeverity : BlockingSeverity
  violationCount : Nat
  escalationCount : Nat
  closed : Bool
deriving DecidableEq, Repr

/-- `window.to_snapshot()`. -/
def toSnapshot (runtimeId : String) (w : ActiveWindow) : BlockingWindowSnapshot where
  windowId := w.windowId
  runtimeId := runtimeId
  openSampleIndex := w.openSampleIndex
  closeSampleIndex := none
  openMonotonicNs := w.openMonotonicNs
  closeMonotonicNs := none
  peakLagNs := w.peakLagNs
  peakSeverity := w.peakSeverity
  violationCount := w.violationCount
  escalationCount := w.escalationCount
  closed := false

/-- `window.to_closed_snapshot(...)`. -/
def toClosedSnapshot (runtimeId : String) (w : ActiveWindow)
    (closeSampleIndex closeMonotonicNs : Int) : BlockingWindowSnapshot :=
  { toSnapshot runtimeId w with
    closeSampleIndex := some closeSampleIndex
    closeMonotonicNs := some closeMonotonicNs
    closed := true }

/-- `WindowTransition`. -/
structure WindowTransition where
  opened : Option BlockingWindowSnapshot
  extended : Option BlockingWindowSnapshot
  closed : Option BlockingWindowSnapshot
  active : Option BlockingWindowSnapshot

/-- The ids that a transition names, as the warning emitter is told of it. -/
def WindowTransition.ids (t : WindowTransition) : Warnings.Blocking.WindowTransition :=
  ⟨t.opened.map (·.windowId), t.extended.map (·.windowId), t.closed.map (·.windowId),
    t.active.map (·.windowId)⟩

/-- `BlockingWindowTracker`. -/
structure BlockingWindowTracker extends Warnings.Blocking.BlockingWindowTracker where
  history : BoundedRing BlockingWindowSnapshot
  totalOpened : Nat := 0
  totalClosed : Nat := 0

namespace BlockingWindowTracker

/-- `BlockingWindowTracker(policy=..., runtime_id=..., history_capacity=...)`. -/
def new (policy : BlockingThresholdPolicy) (runtimeId : String) (historyCapacity : Nat) :
    BlockingWindowTracker where
  policy := policy.toBlockingThresholdPolicy
  runtimeId := runtimeId
  history := .empty historyCapacity

/-- `tracker.configure(policy)`. -/
def configure (t : BlockingWindowTracker) (policy : BlockingThresholdPolicy) :
    BlockingWindowTracker :=
  { t with policy := policy.toBlockingThresholdPolicy }

/-- `tracker.active_snapshot()`. -/
def activeSnapshot (t : BlockingWindowTracker) : Option BlockingWindowSnapshot :=
  t.active.map (toSnapshot t.runtimeId)

/-- The open window `w` is closed and goes to the history. -/
def close (t : BlockingWindowTracker) (w : ActiveWindow) (closeMonotonicNs : Int) :
    BlockingWindowSnapshot × BlockingWindowTracker :=
  let snap := toClosedSnapshot t.runtimeId w w.lastViolationSampleIndex closeMonotonicNs
  (snap,
    { t with
      active := none
      history := t.history.push snap
      totalClosed := t.totalClosed + 1 })

/-- `tracker.process(outcome)`. -/
def process (t : BlockingWindowTracker) (o : EscalationOutcome) :
    WindowTransition × BlockingWindowTracker :=
  if t.policy.shouldOpenWindow o.effectiveSeverity then
    match t.active with
    | none =>
      let w := t.openWindow o
      let snap := toSnapshot t.runtimeId w
      (⟨some snap, none, none, some snap⟩,
        { t with
          active := some w
          nextId := t.nextId + 1
          totalOpened := t.totalOpened + 1 })
    | some w =>
      let w := extend w o
      let snap := toSnapshot t.runtimeId w
      (⟨none, some snap, none, some snap⟩, { t with active := some w })
  else
    match t.active with
    | none => (⟨none, none, none, none⟩, t)
    | some w =>
      let normals := w.consecutiveNormals + 1
      if normals ≥ t.policy.windowCloseConsecutiveNormals then
        let (snap, t) := t.close w w.lastViolationMonotonicNs
        (⟨none, none, some snap, none⟩, t)
      else
        let w := { w with consecutiveNormals := normals }
        (⟨none, none, none, some (toSnapshot t.runtimeId w)⟩, { t with active := some w })

/-- `tracker.force_close(monotonic_ns=...)`. -/
def forceClose (t : BlockingWindowTracker) (monotonicNs : Int) :
    Option BlockingWindowSnapshot × BlockingWindowTracker :=
  match t.active with
  | none => (none, t)
  | some w =>
    let (snap, t) := t.close w (max monotonicNs w.openMonotonicNs)
    (some snap, t)

end BlockingWindowTracker

namespace BlockingWindowTracker

variable {t : BlockingWindowTracker} {o : EscalationOutcome} {w : ActiveWindow}

theorem process_idle (hlow : t.policy.shouldOpenWindow o.effectiveSeverity = false)
    (hactive : t.active = none) : t.process o = (⟨none, none, none, none⟩, t) := by
  rw [process, hlow, hactive]
  rfl

theorem process_open (hhigh : t.policy.shouldOpenWindow o.effectiveSeverity = true)
    (hactive : t.active = none) :
    t.process o =
      (⟨some (toSnapshot t.runtimeId (t.openWindow o)), none, none,
          some (toSnapshot t.runtimeId (t.openWindow o))⟩,
        { t with
          active := some (t.openWindow o)
          nextId := t.nextId + 1
          totalOpened := t.totalOpened + 1 }) := by
  rw [process, hhigh, hactive]
  rfl

theorem process_extend (hhigh : t.policy.shouldOpenWindow o.effectiveSeverity = true)
    (hactive : t.active = some w) :
    t.process o =
      (⟨none, some (toSnapshot t.runtimeId (extend w o)), none,
          some (toSnapshot t.runtimeId (extend w o))⟩,
        { t with active := some (extend w o) }) := by
  rw [process, hhigh, hactive]
  rfl

theorem process_wait (hlow : t.policy.shouldOpenWindow o.effectiveSeverity = false)
    (hactive : t.active = some w)
    (hfew : w.consecutiveNormals + 1 < t.policy.windowCloseConsecutiveNormals) :
    t.process o =
      (⟨none, none, none,
          some (toSnapshot t.runtimeId { w with consecutiveNormals := w.consecutiveNormals + 1 })⟩,
        { t with active := some { w with consecutiveNormals := w.consecutiveNormals + 1 } }) := by
  rw [process, hlow, hactive]
  exact if_neg (Nat.not_le_of_lt hfew)

theorem process_close (hlow : t.policy.shouldOpenWindow o.effectiveSeverity = false)
    (hactive : t.active = some w)
    (hmany : t.policy.windowCloseConsecutiveNormals ≤ w.consecutiveNormals + 1) :
    t.process o =
      (⟨none, none, some (t.close w w.lastViolationMonotonicNs).1, none⟩,
        (t.close w w.lastViolationMonotonicNs).2) := by
  rw [process, hlow, hactive]
  exact if_pos hmany

theorem forceClose_none (hactive : t.active = none) (monotonicNs : Int) :
    t.forceClose monotonicNs = (none, t) := by
  rw [forceClose, hactive]

theorem forceClose_some (hactive : t.active = some w) (monotonicNs : Int) :
    t.forceClose monotonicNs =
      (some (t.close w (max monotonicNs w.openMonotonicNs)).1,
        (t.close w (max monotonicNs w.openMonotonicNs)).2) := by
  rw [forceClose, hactive]

/-- What the feed of the warning emitter knows of the tracker goes its own way: the same ids, and
    the same tracker under the ring and the totals. -/
theorem process_eq (t : BlockingWindowTracker) (o : EscalationOutcome) :
    ((t.process o).1.ids, (t.process o).2.toBlockingWindowTracker) =
      t.toBlockingWindowTracker.process o := by
  unfold process Warnings.Blocking.BlockingWindowTracker.process
  cases t.policy.shouldOpenWindow o.effectiveSeverity <;> cases hactive : t.active
  case false.some w =>
    simp only [Bool.false_eq_true, if_false]
    split
    · rfl
    · rfl
  all_goals rfl

end BlockingWindowTracker

/-! ## The other parts -/

/-- `BlockingStatistics`, as far as it counts windows. -/
structure BlockingStatistics where
  windowsSeen : Nat := 0
  closedWindows : Nat := 0
  totalViolationsInWindows : Nat := 0

namespace BlockingStatistics

/-- `statistics.observe_window_opened()`. -/
def observeWindowOpened (s : BlockingStatistics) : BlockingStatistics :=
  { s with windowsSeen := s.windowsSeen + 1 }

/-- `statistics.observe_window_closed(window)`. -/
def observeWindowClosed (s : BlockingStatistics) (window : BlockingWindowSnapshot) :
    BlockingStatistics :=
  { s with
    closedWindows := s.closedWindows + 1
    totalViolationsInWindows := s.totalViolationsInWindows + window.violationCount }

end BlockingStatistics

/-- `BlockingDetectorBackpressure`. -/
structure BlockingDetectorBackpressure where
  capacity : Nat
  pending : Nat := 0
  denied : Nat := 0

namespace BlockingDetectorBackpressure

/-- `backpressure.acquire()`: whether the event is accepted; capacity zero is no cap. -/
def acquire (b : BlockingDetectorBackpressure) : Bool × BlockingDetectorBackpressure :=
  if b.capacity = 0 then (true, { b with pending := b.pending + 1 })
  else if b.pending ≥ b.capacity then (false, { b with denied := b.denied + 1 })
  else (true, { b with pending := b.pending + 1 })

/-- `backpressure.release()`. -/
def release (b : BlockingDetectorBackpressure) : BlockingDetectorBackpressure :=
  { b with pending := b.pending - 1 }

/-- Where nothing is pending there is a slot, whatever the capacity. -/
theorem acquire_of_drained {b : BlockingDetectorBackpressure} (h : b.pending = 0) :
    b.acquire.1 = true ∧ b.acquire.2.release = b := by
  obtain ⟨capacity, pending, denied⟩ := b
  cases h
  unfold acquire
  dsimp only
  by_cases hcap : capacity = 0
  · rw [if_pos hcap]
    exact ⟨rfl, rfl⟩
  · rw [if_neg hcap, if_neg (by omega)]
    exact ⟨rfl, rfl⟩

end BlockingDetectorBackpressure

/-- `BlockingDetectorState`. -/
inductive BlockingDetectorState where
  | idle
  | starting
  | running
  | stopping
  | stopped
  | failed
deriving DecidableEq, Repr

/-- `BlockingDetectorConfiguration`, as far as the windows go, and what `__post_init__` checks. -/
structure BlockingDetectorConfiguration where
  thresholds : BlockingThresholdPolicy
  windowHistoryCapacity : Nat
  maxPendingEvents : Nat
  emitWindowEvents : Bool
  capacity_pos : 0 < windowHistoryCapacity

theorem default_capacity_pos : 0 < 64 := Nat.succ_pos 63

/-- `BlockingDetectorConfiguration.default()`. -/
def BlockingDetectorConfiguration.default : BlockingDetectorConfiguration where
  thresholds := .default
  windowHistoryCapacity := 64
  maxPendingEvents := 512
  emitWindowEvents := true
  capacity_pos := default_capacity_pos

/-- The events about windows: `window.opened` and `window.closed`. -/
inductive WindowEvent where
  | opened (window : BlockingWindowSnapshot)
  | closed (window : BlockingWindowSnapshot)
deriving DecidableEq, Repr

/-! ## The detector -/

/-- `BlockingThresholdDetector`. -/
structure BlockingThresholdDetector where
  runtimeId : String
  configuration : BlockingDetectorConfiguration
  hasEmitter : Bool
  escalation : EscalationEngine
  windows : BlockingWindowTracker
  statistics : BlockingStatistics := {}
  backpressure : BlockingDetectorBackpressure
  state : BlockingDetectorState := .idle

/-- What a call reports: the outcome, the transition and the window events that the emitter got. -/
structure Report where
  outcome : EscalationOutcome
  transition : WindowTransition
  handed : List WindowEvent

namespace BlockingThresholdDetector

/-- `BlockingThresholdDetector(runtime_clock=..., configuration=..., event_emitter=...)`. -/
def new (runtimeId : String) (configuration : BlockingDetectorConfiguration) (hasEmitter : Bool) :
    BlockingThresholdDetector where
  runtimeId := runtimeId
  configuration := configuration
  hasEmitter := hasEmitter
  escalation := { policy := configuration.thresholds }
  windows := .new configuration.thresholds runtimeId configuration.windowHistoryCapacity
  backpressure := { capacity := configuration.maxPendingEvents }

/-- Whether the detector tells anyone of its windows. -/
def tellsWindows (d : BlockingThresholdDetector) : Bool :=
  d.configuration.emitWindowEvents && d.hasEmitter

/-- `_emit_window_opened` and `_emit_window_closed`. -/
def emitWindow (d : BlockingThresholdDetector) (event : WindowEvent) :
    List WindowEvent × BlockingThresholdDetector :=
  if d.tellsWindows = false then ([], d)
  else
    let (accepted, backpressure) := d.backpressure.acquire
    if accepted = false then ([], { d with backpressure := backpressure })
    else ([event], { d with backpressure := backpressure.release })

/-- `_emit_window_opened`. -/
def emitWindowOpened (d : BlockingThresholdDetector) (window : BlockingWindowSnapshot) :
    List WindowEvent × BlockingThresholdDetector :=
  d.emitWindow (.opened window)

/-- `_emit_window_closed`. -/
def emitWindowClosed (d : BlockingThresholdDetector) (window : BlockingWindowSnapshot) :
    List WindowEvent × BlockingThresholdDetector :=
  d.emitWindow (.closed window)

/-- The branch of `process` for a window that opens. -/
def whenOpened (d : BlockingThresholdDetector) :
    Option BlockingWindowSnapshot → List WindowEvent × BlockingThresholdDetector
  | none => ([], d)
  | some window =>
    { d with statistics := d.statistics.observeWindowOpened }.emitWindowOpened window

/-- The branch of `process`, and of `stop`, for a window that closes. -/
def whenClosed (d : BlockingThresholdDetector) :
    Option BlockingWindowSnapshot → List WindowEvent × BlockingThresholdDetector
  | none => ([], d)
  | some window =>
    { d with statistics := d.statistics.observeWindowClosed window }.emitWindowClosed window

/-- `detector.process(measurement, evaluation)`. -/
def process (d : BlockingThresholdDetector) (measurement : LagMeasurement)
    (evaluation : LagThresholdEvaluation) : Report × BlockingThresholdDetector :=
  let classification := classify measurement evaluation
  let (outcome, escalation) := d.escalation.process classification
  let (transition, windows) := d.windows.process outcome
  let d := { d with escalation := escalation, windows := windows }
  let (opened, d) := d.whenOpened transition.opened
  let (closed, d) := d.whenClosed transition.closed
  (⟨outcome, transition, opened ++ closed⟩, d)

/-- `detector.start()`: whatever it was before, the detector runs. -/
def start (d : BlockingThresholdDetector) : BlockingThresholdDetector :=
  { d with state := .running }

/-- A call of `stop` shuts the detector down, rather than finding nothing to do. -/
def stops (d : BlockingThresholdDetector) : Bool := d.state ≠ .idle && d.state ≠ .stopped

/-- `detector.stop()`, at the time `nowNs` of the runtime clock. -/
def stop (d : BlockingThresholdDetector) (nowNs : Int) :
    Option BlockingWindowSnapshot × List WindowEvent × BlockingThresholdDetector :=
  if d.stops = false then (none, [], { d with state := .stopped })
  else
    let (closed, windows) := d.windows.forceClose nowNs
    let (handed, d) := { d with windows := windows }.whenClosed closed
    (closed, handed, { d with state := .stopped })

/-- `detector.reconfigure(configuration)`.  The early return for the configuration that is in force
    is left out: with it the rest changes nothing. -/
def reconfigure (d : BlockingThresholdDetector) (configuration : BlockingDetectorConfiguration) :
    BlockingThresholdDetector :=
  { d with
    windows :=
      if configuration.windowHistoryCapacity ≠ d.configuration.windowHistoryCapacity then
        .new configuration.thresholds d.runtimeId configuration.windowHistoryCapacity
      else d.windows.configure configuration.thresholds
    backpressure :=
      if configuration.maxPendingEvents ≠ d.configuration.maxPendingEvents then
        { capacity := configuration.maxPendingEvents }
      else d.backpressure
    escalation := d.escalation.configure configuration.thresholds
    configuration := configuration }

end BlockingThresholdDetector

/-! ## What one call does, where nothing is pending -/

namespace BlockingThresholdDetector

variable {d : BlockingThresholdDetector}

theorem emitWindow_of_drained (h : d.backpressure.pending = 0) (event : WindowEvent) :
    d.emitWindow event = (if d.tellsWindows then [event] else [], d) := by
  obtain ⟨haccepted, hreleased⟩ := BlockingDetectorBackpressure.acquire_of_drained h
  unfold emitWindow
  cases d.tellsWindows with
  | false => rfl
  | true =>
    rw [if_neg (by decide)]
    dsimp only
    rw [if_neg (by rw [haccepted]; decide), hreleased]
    rfl

theorem whenOpened_some (h : d.backpressure.pending = 0) (window : BlockingWindowSnapshot) :
    d.whenOpened (some window) =
      (if d.tellsWindows then [.opened window] else [],
        { d with statistics := d.statistics.observeWindowOpened }) :=
  emitWindow_of_drained (d := { d with statistics := d.statistics.observeWindowOpened }) h _

theorem whenClosed_some (h : d.backpressure.pending = 0) (window : BlockingWindowSnapshot) :
    d.whenClosed (some window) =
      (if d.tellsWindows then [.closed window] else [],
        { d with statistics := d.statistics.observeWindowClosed window }) :=
  emitWindow_of_drained (d := { d with statistics := d.statistics.observeWindowClosed window }) h _

/-- What the escalation makes of a measurement. -/
def outcomeOf (d : BlockingThresholdDetector) (measurement : LagMeasurement)
    (evaluation : LagThresholdEvaluation) : EscalationOutcome :=
  (d.escalation.process (classify measurement evaluation)).1

/-- The detector with the pressure of one more measurement. -/
def pressed (d : BlockingThresholdDetector) (measurement : LagMeasurement)
    (evaluation : LagThresholdEvaluation) : BlockingThresholdDetector :=
  { d with escalation := (d.escalation.process (classify measurement evaluation)).2 }

variable {measurement : LagMeasurement} {evaluation : LagThresholdEvaluation}
  {transition : WindowTransition} {windows : BlockingWindowTracker}

theorem process_quiet
    (h : d.windows.process (d.outcomeOf measurement evaluation) = (transition, windows))
    (hopened : transition.opened = none) (hclosed : transition.closed = none) :
    d.process measurement evaluation =
      (⟨d.outcomeOf measurement evaluation, transition, []⟩,
        { d.pressed measurement evaluation with windows := windows }) := by
  unfold process
  dsimp only [outcomeOf] at h ⊢
  rw [h]
  dsimp only
  rw [hopened, hclosed]
  rfl

theorem process_opened (hdrained : d.backpressure.pending = 0) {window : BlockingWindowSnapshot}
    (h : d.windows.process (d.outcomeOf measurement evaluation) = (transition, windows))
    (hopened : transition.opened = some window) (hclosed : transition.closed = none) :
    d.process measurement evaluation =
      (⟨d.outcomeOf measurement evaluation, transition,
          if d.tellsWindows then [.opened window] else []⟩,
        { d.pressed measurement evaluation with
          windows := windows
          statistics := d.statistics.observeWindowOpened }) := by
  unfold process
  dsimp only [outcomeOf] at h ⊢
  rw [h]
  dsimp only
  rw [hopened, hclosed, whenOpened_some (by exact hdrained)]
  exact congrArg (fun handed => (Report.mk _ transition handed, _)) (List.append_nil _)

theorem process_closed (hdrained : d.backpressure.pending = 0) {window : BlockingWindowSnapshot}
    (h : d.windows.process (d.outcomeOf measurement evaluation) = (transition, windows))
    (hopened : transition.opened = none) (hclosed : transition.closed = some window) :
    d.process measurement evaluation =
      (⟨d.outcomeOf measurement evaluation, transition,
          if d.tellsWindows then [.closed window] else []⟩,
        { d.pressed measurement evaluation with
          windows := windows
          statistics := d.statistics.observeWindowClosed window }) := by
  unfold process
  dsimp only [outcomeOf] at h ⊢
  rw [h]
  dsimp only
  rw [hopened, hclosed]
  dsimp only [whenOpened]
  rw [whenClosed_some (by exact hdrained)]
  rfl

theorem stop_idle (h : d.stops = false) (nowNs : Int) :
    d.stop nowNs = (none, [], { d with state := .stopped }) := by
  rw [stop, if_pos h]

theorem stop_none (h : d.stops = true) (hactive : d.windows.active = none) (nowNs : Int) :
    d.stop nowNs = (none, [], { d with state := .stopped }) := by
  rw [stop, if_neg (by rw [h]; decide)]
  dsimp only
  rw [BlockingWindowTracker.forceClose_none hactive]
  rfl

theorem stop_some (hdrained : d.backpressure.pending = 0) (h : d.stops = true) {w : ActiveWindow}
    (hactive : d.windows.active = some w) (nowNs : Int) :
    d.stop nowNs =
      (some (d.windows.close w (max nowNs w.openMonotonicNs)).1,
        if d.tellsWindows then [.closed (d.windows.close w (max nowNs w.openMonotonicNs)).1] else [],
        { d with
          windows := (d.windows.close w (max nowNs w.openMonotonicNs)).2
          statistics :=
            d.statistics.observeWindowClosed (d.windows.close w (max nowNs w.openMonotonicNs)).1
          state := .stopped }) := by
  rw [stop, if_neg (by rw [h]; decide)]
  dsimp only
  rw [BlockingWindowTracker.forceClose_some hactive]
  dsimp only
  rw [whenClosed_some (by exact hdrained)]
  rfl

end BlockingThresholdDetector

end AsyncViz.Runtime.Monitoring.Blocking
