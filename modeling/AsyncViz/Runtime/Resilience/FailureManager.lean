/-
  AsyncViz.Runtime.Resilience.FailureManager

  `RuntimeFailureManager` with its recovery supervisors and its backpressure bridge
  (`runtime/resilience/{runtime_failure_manager,recovery_supervisor,degradation_policy,
  isolation_backpressure}.py`).

  The runtime mode is stored.  `report_exception`, `report_marker`, a boundary that
  records a failure, a recovery and `reset()` compute it anew; an entry that turns an
  open breaker half open and an exit that closes one do not.  So the mode agrees with
  the breakers after every operation exactly when no such entry or exit changes the mode
  that the breakers call for (`KeepsMode`).

  A recovery hook is a function on its domain; `false` stands for a hook that raises, too.
  Mode listeners and trace records are left out.
-/

import AsyncViz.Lib.Dict
import AsyncViz.Lib.Transition
import AsyncViz.Runtime.Resilience.CircuitBreaker

namespace AsyncViz.Runtime.Resilience

open AsyncViz.Lib AsyncViz.Lib.Transition

/-! ## Runtime modes -/

/-- `EmergencyMode`. -/
inductive EmergencyMode where
  | normal
  | degraded
  | shed
  | emergency
  | halt
deriving DecidableEq, Repr

/-- `name in {s.value for s in CRITICAL_SUBSYSTEMS}`. -/
def criticalSubsystems : List String := ["replay", "recorder"]

/-- The breakers in the state `target`; `open_count` and `half_open_count` of the loop. -/
def countState (target : BreakerState) (states : List (String × BreakerState)) : Nat :=
  states.countP fun p => p.2 = target

/-- `critical_open` of the loop. -/
def criticalOpen (states : List (String × BreakerState)) : Bool :=
  states.any fun p => p.2 = .opened && criticalSubsystems.contains p.1

/-- `derive_runtime_mode(states, halt_on_critical)`. -/
def deriveRuntimeMode (states : List (String × BreakerState)) (haltOnCritical : Bool) :
    EmergencyMode :=
  if states = [] then .normal
  else if criticalOpen states && haltOnCritical then .halt
  else if criticalOpen states then .emergency
  else if countState .opened states ≥ 2 then .shed
  else if countState .opened states = 1 ∨ countState .halfOpen states > 0 then .degraded
  else .normal

theorem countState_append_closed {target : BreakerState} (hne : target ≠ .closed)
    (states : List (String × BreakerState)) (name : String) :
    countState target (states ++ [(name, .closed)]) = countState target states := by
  simp [countState, hne.symm]

theorem criticalOpen_append_closed (states : List (String × BreakerState)) (name : String) :
    criticalOpen (states ++ [(name, .closed)]) = criticalOpen states := by
  simp [criticalOpen]

/-- A subsystem whose breaker is closed does not count. -/
theorem deriveRuntimeMode_append_closed (states : List (String × BreakerState)) (name : String)
    (haltOnCritical : Bool) :
    deriveRuntimeMode (states ++ [(name, .closed)]) haltOnCritical
      = deriveRuntimeMode states haltOnCritical := by
  by_cases hnil : states = []
  · subst hnil
    rfl
  · simp [deriveRuntimeMode, hnil, countState_append_closed, criticalOpen_append_closed]

/-- With every breaker closed the runtime is in normal mode. -/
theorem deriveRuntimeMode_of_closed {states : List (String × BreakerState)}
    (haltOnCritical : Bool) (h : ∀ p ∈ states, p.2 = .closed) :
    deriveRuntimeMode states haltOnCritical = .normal := by
  have hnone : ∀ target : BreakerState, target ≠ .closed → countState target states = 0 := by
    intro target hne
    rw [countState, List.countP_eq_zero]
    intro p hp
    simp [h p hp, hne.symm]
  have hcritical : criticalOpen states = false := by
    rw [criticalOpen, List.any_eq_false]
    intro p hp
    simp [h p hp]
  unfold deriveRuntimeMode
  split
  · rfl
  · simp [hnone .opened (by decide), hnone .halfOpen (by decide), hcritical]

/-! ## The backpressure bridge -/

/-- `BackpressureSuggestion`. -/
structure BackpressureSuggestion where
  runtimeMode : EmergencyMode
  suggestedDropPolicy : String
  suggestedSamplingTier : String
  detail : String
deriving DecidableEq, Repr

/-- `_DEFAULT_SUGGESTIONS`. -/
def defaultSuggestion : EmergencyMode → BackpressureSuggestion
  | .normal => ⟨.normal, "drop-low-priority", "full", ""⟩
  | .degraded => ⟨.degraded, "drop-low-priority", "structural", "one subsystem on fallback"⟩
  | .shed => ⟨.shed, "drop-newest", "structural", "overload shedding active"⟩
  | .emergency => ⟨.emergency, "drop-newest", "critical-only", "critical subsystem unavailable"⟩
  | .halt => ⟨.halt, "block", "critical-only", "runtime halted for diagnostics"⟩

/-- `IsolationBackpressureBridge`. -/
structure IsolationBackpressureBridge where
  mode : EmergencyMode
  suggestion : BackpressureSuggestion
deriving DecidableEq, Repr

/-- `on_mode_change(mode)`. -/
def IsolationBackpressureBridge.onModeChange (bridge : IsolationBackpressureBridge)
    (mode : EmergencyMode) : IsolationBackpressureBridge :=
  if bridge.mode = mode then bridge else ⟨mode, defaultSuggestion mode⟩

/-! ## Recovery supervisors -/

/-- `RecoveryVerdict`. -/
inductive RecoveryVerdict where
  | succeeded
  | failed
  | deferred
  | abandoned
  | skipped
deriving DecidableEq, Repr

/-- `RecoveryOutcome`. -/
structure RecoveryOutcome where
  subsystem : String
  attempt : Nat
  verdict : RecoveryVerdict
deriving DecidableEq, Repr

/-- What a recovery hook does to its domain, and whether it reports success. -/
abbrev RecoveryHook := FailureDomain → Bool × FailureDomain

/-- `RecoverySupervisor`. -/
structure RecoverySupervisor where
  hook : Option RecoveryHook
  asyncHook : Bool
  attempts : Nat
  successes : Nat
  failures : Nat
  abandoned : Bool
  history : BoundedRing RecoveryOutcome

namespace RecoverySupervisor

/-- `RecoverySupervisor(domain)`. -/
def new : RecoverySupervisor := ⟨none, false, 0, 0, 0, false, .empty 64⟩

/-- `_record_outcome`. -/
def recordOutcome (s : RecoverySupervisor) (d : FailureDomain) (verdict : RecoveryVerdict) :
    RecoverySupervisor :=
  { s with history := s.history.push ⟨d.name, s.attempts, verdict⟩ }

/-- `_finalize_outcome(ok)`. -/
def finalizeOutcome (s : RecoverySupervisor) (d : FailureDomain) (ok : Bool) :
    RecoverySupervisor × FailureDomain :=
  if ok then
    ({ s with successes := s.successes + 1 }.recordOutcome d .succeeded,
      { d with breaker := d.breaker.forceClose })
  else
    let s := { s with failures := s.failures + 1 }
    if d.policy.maxRecoveryAttempts ≤ s.attempts then
      ({ s with abandoned := true }.recordOutcome d .abandoned, d)
    else (s.recordOutcome d .failed, d)

/-- `_invoke_sync(hook)`. -/
def invokeSync (s : RecoverySupervisor) (d : FailureDomain) (hook : RecoveryHook) :
    RecoverySupervisor × FailureDomain :=
  let (ok, d) := hook d
  s.finalizeOutcome d ok

/-- `attempt()`. -/
def attempt (s : RecoverySupervisor) (d : FailureDomain) : RecoverySupervisor × FailureDomain :=
  if s.abandoned then (s.recordOutcome d .abandoned, d)
  else if d.breaker.state = .closed then (s.recordOutcome d .skipped, d)
  else
    match s.hook with
    | none => (s.recordOutcome d .deferred, d)
    | some hook => { s with attempts := s.attempts + 1 }.invokeSync d hook

/-- `attempt_async()` up to its `await`; the flag says that it waits for the hook. -/
def attemptAsync (s : RecoverySupervisor) (d : FailureDomain) :
    Bool × RecoverySupervisor × FailureDomain :=
  if s.abandoned then (false, s.recordOutcome d .abandoned, d)
  else if d.breaker.state = .closed then (false, s.recordOutcome d .skipped, d)
  else
    match s.asyncHook, s.hook with
    | true, _ => (true, { s with attempts := s.attempts + 1 }, d)
    | false, none => (false, s.recordOutcome d .deferred, d)
    | false, some hook => (false, { s with attempts := s.attempts + 1 }.invokeSync d hook)

/-- `clear_hooks()` and `reset_abandoned()`. -/
def reset (s : RecoverySupervisor) : RecoverySupervisor :=
  { s with hook := none, asyncHook := false, abandoned := false, attempts := 0 }

end RecoverySupervisor

/-! ## The manager -/

/-- `IsolationConfig`, as far as the manager reads it. -/
structure IsolationConfig where
  defaultPolicy : SubsystemPolicy
  perSubsystem : Dict String SubsystemPolicy
  haltOnCriticalSubsystem : Bool

/-- `_SubsystemEntry`. -/
structure SubsystemEntry where
  domain : FailureDomain
  supervisor : RecoverySupervisor

/-- `RuntimeFailureManager`. -/
structure RuntimeFailureManager where
  config : IsolationConfig
  subsystems : Dict String SubsystemEntry
  mode : EmergencyMode
  bridge : IsolationBackpressureBridge

namespace RuntimeFailureManager

/-- `RuntimeFailureManager(config)`. -/
def new (config : IsolationConfig) : RuntimeFailureManager :=
  ⟨config, .empty, .normal, ⟨.normal, defaultSuggestion .normal⟩⟩

/-- The entry `register` creates. -/
def freshEntry (m : RuntimeFailureManager) (name : String) (policy : Option SubsystemPolicy) :
    SubsystemEntry :=
  ⟨.new name (policy.getD ((m.config.perSubsystem.get? name).getD m.config.defaultPolicy)), .new⟩

/-- `register(subsystem, policy)`: the entry it leads to, and the manager. -/
def register (m : RuntimeFailureManager) (name : String) (policy : Option SubsystemPolicy) :
    SubsystemEntry × RuntimeFailureManager :=
  match m.subsystems.get? name with
  | some entry => (entry, m)
  | none =>
    let entry := m.freshEntry name policy
    (entry, { m with subsystems := m.subsystems.set name entry })

/-- What a call has left of the domain and the supervisor of a subsystem. -/
def store (m : RuntimeFailureManager) (name : String) (entry : SubsystemEntry) :
    RuntimeFailureManager :=
  { m with subsystems := m.subsystems.set name entry }

/-- `{name: entry.domain.breaker.state for name, entry in self._subsystems.items()}`. -/
def states (m : RuntimeFailureManager) : List (String × BreakerState) :=
  m.subsystems.entries.map fun p => (p.1, p.2.domain.breaker.state)

/-- The mode that the breakers call for. -/
def derived (m : RuntimeFailureManager) : EmergencyMode :=
  deriveRuntimeMode m.states m.config.haltOnCriticalSubsystem

/-- `_transition_mode(target)`. -/
def transitionMode (m : RuntimeFailureManager) (target : EmergencyMode) : RuntimeFailureManager :=
  if m.mode = target then m
  else { m with mode := target, bridge := m.bridge.onModeChange target }

/-- `_reevaluate_mode()`. -/
def reevaluateMode (m : RuntimeFailureManager) : RuntimeFailureManager :=
  m.transitionMode m.derived

/-- `domain.record_failure(event)` with the manager among the domain's listeners. -/
def recordFailure (m : RuntimeFailureManager) (name : String) (entry : SubsystemEntry)
    (event : FailureEvent) (nowNs : Int) : RuntimeFailureManager :=
  (m.store name { entry with domain := (entry.domain.recordFailure event nowNs).2 }).reevaluateMode

/-- `_submit_failure(event)`. -/
def submitFailure (m : RuntimeFailureManager) (event : FailureEvent) (nowNs : Int) :
    RuntimeFailureManager :=
  let (entry, m) := m.register event.subsystem none
  m.recordFailure event.subsystem entry event nowNs

/-- `report_exception(subsystem, exc, payload_kind)`. -/
def reportException (m : RuntimeFailureManager) (name : String) (exc : PyException)
    (payloadKind : String) (nowNs : Int) : RuntimeFailureManager :=
  m.submitFailure (.ofException name exc payloadKind nowNs) nowNs

/-- `report_marker(subsystem, marker, payload_kind)`. -/
def reportMarker (m : RuntimeFailureManager) (name marker payloadKind : String) (nowNs : Int) :
    RuntimeFailureManager :=
  m.submitFailure (.ofMarker name marker payloadKind nowNs) nowNs

/-- `reset()`. -/
def reset (m : RuntimeFailureManager) : RuntimeFailureManager :=
  { m with
    subsystems := m.subsystems.mapValues fun entry =>
      ⟨entry.domain.reset, entry.supervisor.reset⟩
    mode := .normal
    bridge := m.bridge.onModeChange .normal }

/-! ### Breaker states -/

variable {m : RuntimeFailureManager}

/-- The states with that of one subsystem replaced. -/
def withState (states : List (String × BreakerState)) (name : String) (state : BreakerState) :
    List (String × BreakerState) :=
  states.map fun p => if p.1 = name then (p.1, state) else p

theorem states_store {name : String} {entry entry' : SubsystemEntry}
    (hget : m.subsystems.get? name = some entry) :
    (m.store name entry').states = withState m.states name entry'.domain.breaker.state := by
  have hmem : name ∈ m.subsystems := Dict.mem_of_get?_eq_some hget
  have hset : (m.subsystems.set name entry').entries
      = Dict.replaceEntry name entry' m.subsystems.entries := by
    rw [Dict.set]
    split
    next => rfl
    next hnot => exact absurd hmem hnot
  rw [states, store, hset, Dict.replaceEntry, withState, states, List.map_map, List.map_map]
  refine List.map_congr_left fun p _ => ?_
  by_cases hname : p.1 = name <;> simp [hname]

/-- A stored entry with the breaker where it was changes no state. -/
theorem withState_self {name : String} {entry : SubsystemEntry}
    (hget : m.subsystems.get? name = some entry) :
    withState m.states name entry.domain.breaker.state = m.states := by
  rw [withState, states, List.map_map]
  refine List.map_congr_left fun p hp => ?_
  by_cases hname : p.1 = name
  · have hentry : m.subsystems.get? p.1 = some p.2 := Dict.mem_entries_iff.mp hp
    rw [hname, hget] at hentry
    cases hentry
    simp [hname]
  · simp [hname]

end RuntimeFailureManager

end AsyncViz.Runtime.Resilience
