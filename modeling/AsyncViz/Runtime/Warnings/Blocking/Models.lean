/-
  AsyncViz.Runtime.Warnings.Blocking.Models

  The values of the blocking warning emitter (`runtime/warnings/blocking`): what it is told
  (`DetectionOutcome`, `CapturedStack`), the groups and their registry
  (`blocking_warning_grouping.py`), the policy, the cooldowns and the configuration.

  A group is an object that the registry, the emitter and the correlator share; here it is a
  value that is written back under its id (`WarningGroupRegistry.put`).
-/

import Mathlib.Data.Int.Notation
import AsyncViz.Lib.BoundedRing
import AsyncViz.Lib.Dict

namespace AsyncViz.Runtime.Warnings.Blocking

open AsyncViz.Lib

/-! ## What the emitter is told -/

/-- `BlockingSeverity`. -/
inductive BlockingSeverity where
  | none
  | warning
  | critical
  | freeze
deriving DecidableEq, Repr

/-- `_severity_rank`, the order of the enumeration as well. -/
def BlockingSeverity.rank : BlockingSeverity → Nat
  | .none => 0
  | .warning => 1
  | .critical => 2
  | .freeze => 3

/-- `WindowTransition`, by the ids of its windows. -/
structure WindowTransition where
  opened : Option String
  extended : Option String
  closed : Option String
  active : Option String

/-- `transition.active or transition.opened`. -/
def WindowTransition.current (t : WindowTransition) : Option String := t.active <|> t.opened

/-- `DetectionOutcome`, with the values of its measurement. -/
structure DetectionOutcome where
  actualNs : Int
  sampleIndex : Int
  lagNs : Int
  effectiveSeverity : BlockingSeverity
  escalated : Bool
  windowTransition : WindowTransition

/-- `CapturedStack`, with the values of its task. -/
structure CapturedStack where
  captureId : Int
  windowId : Option String
  taskId : Option String
  taskName : Option String
  coroutineName : Option String

/-! ## Groups -/

/-- `BlockingWarningGroupState`. -/
inductive BlockingWarningGroupState where
  | opened
  | escalating
  | active
  | recovered
  | expired
deriving DecidableEq, Repr

/-- `state.is_terminal`. -/
def BlockingWarningGroupState.isTerminal : BlockingWarningGroupState → Bool
  | .recovered | .expired => true
  | _ => false

/-- The labels that `_emit_transition` is called with. -/
inductive Transition where
  | opened
  | escalated
  | active
  | recovered
  | expired
deriving DecidableEq, Repr

/-- `EscalationEntry`. -/
structure EscalationEntry where
  fromSeverity : BlockingSeverity
  toSeverity : BlockingSeverity
  monotonicNs : Int
  sampleIndex : Int

/-- `WarningGroup`; a value is its own snapshot. -/
structure WarningGroup where
  groupId : String
  warningId : String
  runtimeId : String
  windowId : Option String
  state : BlockingWarningGroupState
  severity : BlockingSeverity
  peakSeverity : BlockingSeverity
  firstSeenNs : Int
  lastSeenNs : Int
  peakLagNs : Int
  lastLagNs : Int
  violationCount : Nat
  escalationCount : Nat
  captureIds : List Int := []
  escalationHistory : BoundedRing EscalationEntry := .empty 16
  recoveredNs : Option Int := none
  expiredNs : Option Int := none
  taskId : Option String := none
  taskName : Option String := none
  coroutineName : Option String := none

namespace WarningGroup

/-- `group.record_observation(...)`; the state it returns is the one of the group. -/
def recordObservation (g : WarningGroup) (severity : BlockingSeverity) (lagNs monotonicNs : Int)
    (sampleIndex : Int) : WarningGroup :=
  let g :=
    { g with
      lastSeenNs := monotonicNs
      lastLagNs := lagNs
      violationCount := g.violationCount + 1
      peakLagNs := if lagNs > g.peakLagNs then lagNs else g.peakLagNs
      peakSeverity := if severity.rank > g.peakSeverity.rank then severity else g.peakSeverity }
  if severity.rank > g.severity.rank then
    { g with
      escalationCount := g.escalationCount + 1
      escalationHistory :=
        g.escalationHistory.push ⟨g.severity, severity, monotonicNs, sampleIndex⟩
      severity := severity
      state := .escalating }
  else
    { g with
      state := match g.state with
        | .opened | .escalating => .active
        | state => state
      severity := severity }

/-- `group.record_capture(capture_id)`. -/
def recordCapture (g : WarningGroup) (captureId : Int) : WarningGroup :=
  { g with captureIds := g.captureIds ++ [captureId] }

/-- `group.attach_task(...)`: only empty slots are filled. -/
def attachTask (g : WarningGroup) (taskId taskName coroutineName : Option String) : WarningGroup :=
  { g with
    taskId := g.taskId <|> taskId
    taskName := g.taskName <|> taskName
    coroutineName := g.coroutineName <|> coroutineName }

/-- `group.mark_recovered(...)`. -/
def markRecovered (g : WarningGroup) (monotonicNs : Int) : WarningGroup :=
  { g with state := .recovered, recoveredNs := some monotonicNs }

/-- `group.mark_expired(...)`. -/
def markExpired (g : WarningGroup) (monotonicNs : Int) : WarningGroup :=
  { g with state := .expired, expiredNs := some monotonicNs }

/-- `snapshot.freeze_duration_ns`. -/
def freezeDurationNs (g : WarningGroup) : Int :=
  let delta := g.recoveredNs.getD g.lastSeenNs - g.firstSeenNs
  if delta > 0 then delta else 0

end WarningGroup

/-- `BlockingWarningPayload`. -/
structure BlockingWarningPayload extends WarningGroup where
  freezeDurationNs : Int
  transition : Transition
  sequence : Nat

/-- `build_payload`. -/
def buildPayload (snapshot : WarningGroup) (transition : Transition) (sequence : Nat) :
    BlockingWarningPayload :=
  { snapshot with
    freezeDurationNs := snapshot.freezeDurationNs
    transition := transition
    sequence := sequence }

/-! ## The registry -/

/-- `WarningGroupRegistry`. -/
structure WarningGroupRegistry where
  active : Dict String WarningGroup
  recent : BoundedRing WarningGroup
  byWindow : Dict String String
  sequence : Nat

namespace WarningGroupRegistry

/-- `WarningGroupRegistry(recent_capacity=...)`. -/
def new (recentCapacity : Nat) : WarningGroupRegistry :=
  ⟨.empty, .empty recentCapacity, .empty, 0⟩

/-- `registry.next_sequence()`. -/
def nextSequence (r : WarningGroupRegistry) : Nat × WarningGroupRegistry :=
  (r.sequence + 1, { r with sequence := r.sequence + 1 })

/-- `registry.add(group)`. -/
def add (r : WarningGroupRegistry) (g : WarningGroup) : WarningGroupRegistry :=
  { r with
    active := r.active.set g.groupId g
    byWindow := match g.windowId with
      | some windowId => r.byWindow.set windowId g.groupId
      | none => r.byWindow }

/-- The group that the registry holds under its id has changed to `g`. -/
def put (r : WarningGroupRegistry) (g : WarningGroup) : WarningGroupRegistry :=
  { r with active := r.active.set g.groupId g }

/-- `registry.find_by_group_id(group_id)`. -/
def findByGroupId (r : WarningGroupRegistry) (groupId : String) : Option WarningGroup :=
  r.active.get? groupId

/-- `registry.find_by_window_id(window_id)`. -/
def findByWindowId (r : WarningGroupRegistry) (windowId : String) : Option WarningGroup :=
  (r.byWindow.get? windowId).bind r.active.get?

/-- `registry.finalize(group)`. -/
def finalize (r : WarningGroupRegistry) (g : WarningGroup) : WarningGroupRegistry :=
  { r with
    active := r.active.pop g.groupId
    byWindow := match g.windowId with
      | some windowId =>
        if r.byWindow.get? windowId = some g.groupId then r.byWindow.pop windowId else r.byWindow
      | none => r.byWindow
    recent := r.recent.push g }

end WarningGroupRegistry

/-! ## Configuration, policy, cooldowns and backpressure -/

/-- `BlockingWarningConfiguration`, as far as it decides about groups and events. -/
structure BlockingWarningConfiguration where
  enabled : Bool := true
  minSeverity : BlockingSeverity := .critical
  includeNoWindow : Bool := false
  escalationsOnly : Bool := false
  openedCooldownNs : Nat := 0
  escalatedCooldownNs : Nat := 0
  activeCooldownNs : Nat := 250000000
  recoveredCooldownNs : Nat := 0
  expiredCooldownNs : Nat := 0
  recentCapacity : Nat := 64
  expirationTtlNs : Nat := 30000000000
  maxPendingEvents : Nat := 256
  emitEvents : Bool := true
  recentCapacity_pos : 0 < recentCapacity

/-- `BlockingWarningConfiguration.default()`. -/
def BlockingWarningConfiguration.default : BlockingWarningConfiguration :=
  { recentCapacity_pos := Nat.succ_pos 63 }

/-- `BlockingWarningPolicy`. -/
structure BlockingWarningPolicy where
  minSeverity : BlockingSeverity
  includeNoWindow : Bool
  escalationsOnly : Bool

/-- `PolicyDecision.reason`. -/
inductive PolicyReason where
  | severityNone
  | belowMinSeverity
  | noWindow
  | escalationsOnlyNonEscalation
  | accepted
deriving DecidableEq, Repr

/-- `decision.accept`. -/
def PolicyReason.accept : PolicyReason → Bool
  | .accepted => true
  | _ => false

/-- `policy.evaluate(outcome)`. -/
def BlockingWarningPolicy.evaluate (p : BlockingWarningPolicy) (outcome : DetectionOutcome) :
    PolicyReason :=
  if outcome.effectiveSeverity = .none then .severityNone
  else if outcome.effectiveSeverity.rank < p.minSeverity.rank then .belowMinSeverity
  else if outcome.windowTransition.current = none ∧ p.includeNoWindow = false then .noWindow
  else if p.escalationsOnly = true ∧ outcome.escalated = false then .escalationsOnlyNonEscalation
  else .accepted

/-- The policy that a configuration asks for. -/
def BlockingWarningConfiguration.policy (c : BlockingWarningConfiguration) :
    BlockingWarningPolicy :=
  ⟨c.minSeverity, c.includeNoWindow, c.escalationsOnly⟩

/-- `_cooldowns_ns`. -/
structure Cooldowns where
  opened : Nat
  escalated : Nat
  active : Nat
  recovered : Nat
  expired : Nat
deriving DecidableEq, Repr

/-- `dedup.cooldown_for(transition)`. -/
def Cooldowns.for (c : Cooldowns) : Transition → Nat
  | .opened => c.opened
  | .escalated => c.escalated
  | .active => c.active
  | .recovered => c.recovered
  | .expired => c.expired

/-- The cooldowns that a configuration asks for. -/
def BlockingWarningConfiguration.cooldowns (c : BlockingWarningConfiguration) : Cooldowns :=
  ⟨c.openedCooldownNs, c.escalatedCooldownNs, c.activeCooldownNs, c.recoveredCooldownNs,
    c.expiredCooldownNs⟩

/-- `TransitionDeduplicator`. -/
structure TransitionDeduplicator where
  cooldownsNs : Cooldowns
  lastEmit : Dict (String × Transition) Int := .empty

namespace TransitionDeduplicator

/-- `dedup.check_and_record(...)`: whether the transition is suppressed. -/
def checkAndRecord (d : TransitionDeduplicator) (groupId : String) (transition : Transition)
    (nowNs : Int) : Bool × TransitionDeduplicator :=
  let cooldown : Int := d.cooldownsNs.for transition
  let recorded := { d with lastEmit := d.lastEmit.set (groupId, transition) nowNs }
  if cooldown ≤ 0 then (false, recorded)
  else
    match d.lastEmit.get? (groupId, transition) with
    | none => (false, recorded)
    | some last => if nowNs - last ≥ cooldown then (false, recorded) else (true, d)

/-- `dedup.forget_group(group_id)`. -/
def forgetGroup (d : TransitionDeduplicator) (groupId : String) : TransitionDeduplicator :=
  { d with
    lastEmit := (d.lastEmit.keys.filter fun key => key.1 = groupId).foldl Dict.pop d.lastEmit }

end TransitionDeduplicator

/-- `WarningEmitterBackpressure`. -/
structure WarningEmitterBackpressure where
  capacity : Nat
  pending : Nat := 0
  denied : Nat := 0

namespace WarningEmitterBackpressure

/-- `backpressure.acquire()`: whether the event is accepted; capacity zero is no cap. -/
def acquire (b : WarningEmitterBackpressure) : Bool × WarningEmitterBackpressure :=
  if b.capacity = 0 then (true, { b with pending := b.pending + 1 })
  else if b.pending ≥ b.capacity then (false, { b with denied := b.denied + 1 })
  else (true, { b with pending := b.pending + 1 })

/-- `backpressure.release()`. -/
def release (b : WarningEmitterBackpressure) : WarningEmitterBackpressure :=
  { b with pending := b.pending - 1 }

end WarningEmitterBackpressure

end AsyncViz.Runtime.Warnings.Blocking
