/-
  AsyncViz.Runtime.Resilience.CircuitBreaker

  `CircuitBreaker`, `FailureDomain` and the boundary around a subsystem's code
  (`runtime/resilience/{circuit_breaker,failure_domain,subsystem_boundary}.py`).

  A domain's listeners and a boundary's `on_failure` hook never touch the domain;
  the event they get is part of the result.  Every call is one step.
-/

import AsyncViz.Lib.BoundedRing
import AsyncViz.Runtime.Resilience.Models

namespace AsyncViz.Runtime.Resilience

open AsyncViz.Lib

/-! ## The breaker -/

/-- `CircuitBreaker`. -/
structure CircuitBreaker where
  policy : SubsystemPolicy
  state : BreakerState
  failures : List Int
  halfOpenProbesRemaining : Int
  openedAtNs : Int
  lastFailureNs : Int
  lastSuccessNs : Int
  trips : Nat
  transitions : Nat
  successesSinceOpen : Nat
deriving DecidableEq, Repr

namespace CircuitBreaker

/-- `CircuitBreaker(name, policy)`; `reset()` leads back to it. -/
def new (policy : SubsystemPolicy) : CircuitBreaker :=
  { policy := policy
    state := .closed
    failures := []
    halfOpenProbesRemaining := policy.halfOpenProbes
    openedAtNs := 0
    lastFailureNs := 0
    lastSuccessNs := 0
    trips := 0
    transitions := 0
    successesSinceOpen := 0 }

/-- `_transition_locked`. -/
def transition (b : CircuitBreaker) (target : BreakerState) : CircuitBreaker :=
  if b.state = target then b
  else { b with state := target, transitions := b.transitions + 1 }

/-- The reading at which the open period is over has come. -/
def Elapsed (b : CircuitBreaker) (whenNs : Int) : Prop :=
  whenNs - b.openedAtNs ≥ b.policy.openDurationNs

instance (b : CircuitBreaker) (whenNs : Int) : Decidable (b.Elapsed whenNs) :=
  inferInstanceAs (Decidable (_ ≥ _))

/-- `_maybe_reopen_probe_locked`. -/
def maybeReopenProbe (b : CircuitBreaker) (whenNs : Int) : CircuitBreaker :=
  if b.state ≠ .opened then b
  else if b.Elapsed whenNs then
    { b.transition .halfOpen with
      halfOpenProbesRemaining := b.policy.halfOpenProbes
      successesSinceOpen := 0 }
  else b

/-- `_trip_locked`. -/
def trip (b : CircuitBreaker) (whenNs : Int) : CircuitBreaker :=
  let b :=
    if b.state ≠ .opened then
      transition { b with trips := b.trips + 1, openedAtNs := whenNs } .opened
    else b
  { b with failures := [], halfOpenProbesRemaining := 0 }

/-- `_prune_window_locked`. -/
def pruneWindow (b : CircuitBreaker) (whenNs : Int) : CircuitBreaker :=
  { b with failures := b.failures.dropWhile (· < whenNs - b.policy.failureWindowNs) }

/-- `allow_request(now_ns)`. -/
def allowRequest (b : CircuitBreaker) (nowNs : Int) : Bool × CircuitBreaker :=
  let b := b.maybeReopenProbe nowNs
  match b.state with
  | .opened => (false, b)
  | .halfOpen =>
    if b.halfOpenProbesRemaining ≤ 0 then (false, b)
    else (true, { b with halfOpenProbesRemaining := b.halfOpenProbesRemaining - 1 })
  | .closed => (true, b)

/-- `record_success(now_ns)`. -/
def recordSuccess (b : CircuitBreaker) (nowNs : Int) : CircuitBreaker :=
  let b := { b with lastSuccessNs := nowNs }
  match b.state with
  | .halfOpen =>
    let b := { b with successesSinceOpen := b.successesSinceOpen + 1 }
    { b.transition .closed with failures := [] }
  | .closed => b.pruneWindow nowNs
  | .opened => b

/-- `record_failure(now_ns)`. -/
def recordFailure (b : CircuitBreaker) (nowNs : Int) : CircuitBreaker :=
  let b := { b with lastFailureNs := nowNs }
  if b.state = .halfOpen then b.trip nowNs
  else
    let b := { b with failures := b.failures ++ [nowNs] }.pruneWindow nowNs
    if b.policy.failureThreshold ≤ b.failures.length then b.trip nowNs else b

/-- `force_open(now_ns)`. -/
def forceOpen (b : CircuitBreaker) (nowNs : Int) : CircuitBreaker := b.trip nowNs

/-- `force_close()`. -/
def forceClose (b : CircuitBreaker) : CircuitBreaker :=
  let b := if b.state ≠ .closed then b.transition .closed else b
  { b with failures := [], halfOpenProbesRemaining := b.policy.halfOpenProbes }

/-- `reset()`. -/
def reset (b : CircuitBreaker) : CircuitBreaker := new b.policy

/-! ## What the calls do -/

variable {b : CircuitBreaker} {nowNs : Int}

@[simp] theorem new_policy (policy : SubsystemPolicy) : (new policy).policy = policy := rfl
@[simp] theorem new_state (policy : SubsystemPolicy) : (new policy).state = .closed := rfl

@[simp] theorem transition_state (target : BreakerState) : (b.transition target).state = target := by
  unfold transition
  split
  next heq => exact heq
  next => rfl

@[simp] theorem transition_policy (target : BreakerState) :
    (b.transition target).policy = b.policy := by
  unfold transition
  split <;> rfl

@[simp] theorem trip_state : (b.trip nowNs).state = .opened := by
  unfold trip
  by_cases hopen : b.state = .opened <;> simp [hopen]

@[simp] theorem trip_policy : (b.trip nowNs).policy = b.policy := by
  unfold trip
  by_cases hopen : b.state = .opened <;> simp [hopen]

/-- A breaker that is open already keeps the time it was opened at. -/
theorem trip_openedAtNs :
    (b.trip nowNs).openedAtNs = if b.state = .opened then b.openedAtNs else nowNs := by
  unfold trip
  by_cases hopen : b.state = .opened
  · simp [hopen]
  · simp [hopen, transition]

@[simp] theorem forceClose_state : b.forceClose.state = .closed := by
  unfold forceClose
  by_cases hclosed : b.state = .closed <;> simp [hclosed]

@[simp] theorem forceClose_policy : b.forceClose.policy = b.policy := by
  unfold forceClose
  by_cases hclosed : b.state = .closed <;> simp [hclosed]

/-- What an admission decision does: nothing to a closed breaker or one that turns
    requests away, one probe less in a half-open period, which an open breaker
    starts once its time is over. -/
theorem allowRequest_cases (b : CircuitBreaker) (nowNs : Int) :
    (b.state = .closed ∧ b.allowRequest nowNs = (true, b)) ∨
    (b.state = .opened ∧ ¬ b.Elapsed nowNs ∧ b.allowRequest nowNs = (false, b)) ∨
    (b.state = .opened ∧ b.Elapsed nowNs ∧ b.policy.halfOpenProbes ≤ 0 ∧
      b.allowRequest nowNs = (false, b.maybeReopenProbe nowNs)) ∨
    (b.state = .opened ∧ b.Elapsed nowNs ∧ 0 < b.policy.halfOpenProbes ∧
      b.allowRequest nowNs = (true, { b.maybeReopenProbe nowNs with
        halfOpenProbesRemaining := b.policy.halfOpenProbes - 1 })) ∨
    (b.state = .halfOpen ∧ b.halfOpenProbesRemaining ≤ 0 ∧ b.allowRequest nowNs = (false, b)) ∨
    (b.state = .halfOpen ∧ 0 < b.halfOpenProbesRemaining ∧
      b.allowRequest nowNs = (true, { b with
        halfOpenProbesRemaining := b.halfOpenProbesRemaining - 1 })) := by
  cases hstate : b.state with
  | closed => exact .inl ⟨rfl, by simp [allowRequest, maybeReopenProbe, hstate]⟩
  | opened =>
    by_cases helapsed : b.Elapsed nowNs
    · rcases Int.lt_or_le 0 b.policy.halfOpenProbes with hprobes | hprobes
      · refine .inr (.inr (.inr (.inl ⟨rfl, helapsed, hprobes, ?_⟩)))
        simp [allowRequest, maybeReopenProbe, hstate, helapsed, hprobes]
      · refine .inr (.inr (.inl ⟨rfl, helapsed, hprobes, ?_⟩))
        simp [allowRequest, maybeReopenProbe, hstate, helapsed, hprobes]
    · refine .inr (.inl ⟨rfl, helapsed, ?_⟩)
      simp [allowRequest, maybeReopenProbe, hstate, helapsed]
  | halfOpen =>
    rcases Int.lt_or_le 0 b.halfOpenProbesRemaining with hprobes | hprobes
    · refine .inr (.inr (.inr (.inr (.inr ⟨rfl, hprobes, ?_⟩))))
      simp [allowRequest, maybeReopenProbe, hstate, hprobes]
    · refine .inr (.inr (.inr (.inr (.inl ⟨rfl, hprobes, ?_⟩))))
      simp [allowRequest, maybeReopenProbe, hstate, hprobes]

theorem maybeReopenProbe_state (hopen : b.state = .opened) (helapsed : b.Elapsed nowNs) :
    (b.maybeReopenProbe nowNs).state = .halfOpen := by
  simp [maybeReopenProbe, hopen, helapsed]

@[simp] theorem maybeReopenProbe_policy : (b.maybeReopenProbe nowNs).policy = b.policy := by
  unfold maybeReopenProbe
  split
  · rfl
  · split
    · exact transition_policy _
    · rfl

@[simp] theorem allowRequest_policy : (b.allowRequest nowNs).2.policy = b.policy := by
  rcases allowRequest_cases b nowNs with ⟨-, h⟩ | ⟨-, -, h⟩ | ⟨-, -, -, h⟩ | ⟨-, -, -, h⟩ |
    ⟨-, -, h⟩ | ⟨-, -, h⟩ <;> simp [h]

/-- A success closes a half-open breaker and moves no other. -/
theorem recordSuccess_state :
    (b.recordSuccess nowNs).state = if b.state = .halfOpen then .closed else b.state := by
  unfold recordSuccess
  cases b.state <;> simp [pruneWindow]

@[simp] theorem recordSuccess_policy : (b.recordSuccess nowNs).policy = b.policy := by
  unfold recordSuccess
  cases b.state <;> simp [pruneWindow]

theorem recordSuccess_openedAtNs : (b.recordSuccess nowNs).openedAtNs = b.openedAtNs := by
  unfold recordSuccess
  cases b.state <;> simp [pruneWindow, transition]

/-- A failure trips a half-open breaker, may trip a closed one and leaves an open one open;
    what it opens, it opens now. -/
theorem recordFailure_cases (b : CircuitBreaker) (nowNs : Int) :
    ((b.recordFailure nowNs).state = .closed ∧ b.state = .closed) ∨
    ((b.recordFailure nowNs).state = .opened ∧
      (b.recordFailure nowNs).openedAtNs =
        if b.state = .opened then b.openedAtNs else nowNs) := by
  unfold recordFailure
  cases b.state with
  | halfOpen => exact .inr (by simp [trip_openedAtNs])
  | closed =>
    simp only [reduceCtorEq, if_false]
    split
    · exact .inr (by simp [trip_openedAtNs, pruneWindow])
    · exact .inl ⟨rfl, trivial⟩
  | opened =>
    simp only [reduceCtorEq, if_false]
    split
    · exact .inr (by simp [trip_openedAtNs, pruneWindow])
    · exact .inr ⟨rfl, rfl⟩

@[simp] theorem recordFailure_policy : (b.recordFailure nowNs).policy = b.policy := by
  unfold recordFailure
  dsimp only
  split
  · exact trip_policy
  · split
    · exact trip_policy
    · rfl

end CircuitBreaker

/-! ## The failure domain -/

/-- `_HISTORY_CAPACITY`. -/
def historyCapacity : Nat := 64

/-- `FailureDomain`. -/
structure FailureDomain where
  name : String
  breaker : CircuitBreaker
  history : BoundedRing FailureEvent
  quarantine : List String
  totalFailures : Nat
  totalSuccesses : Nat
  lastFailure : Option FailureEvent
deriving DecidableEq, Repr

namespace FailureDomain

/-- `FailureDomain(name, policy)`. -/
def new (name : String) (policy : SubsystemPolicy) : FailureDomain :=
  { name := name
    breaker := .new policy
    history := .empty historyCapacity
    quarantine := []
    totalFailures := 0
    totalSuccesses := 0
    lastFailure := none }

/-- The domain's `policy`, which its breaker shares. -/
def policy (d : FailureDomain) : SubsystemPolicy := d.breaker.policy

/-- The payload is turned away whatever the breaker says. -/
def Quarantined (d : FailureDomain) (payloadKind : String) : Prop :=
  payloadKind ≠ "" ∧ d.policy.quarantinePayloadKind = true ∧ payloadKind ∈ d.quarantine

instance (d : FailureDomain) (payloadKind : String) : Decidable (d.Quarantined payloadKind) :=
  inferInstanceAs (Decidable (_ ∧ _ ∧ _))

/-- `allow_request(payload_kind, now_ns)`. -/
def allowRequest (d : FailureDomain) (payloadKind : String) (nowNs : Int) :
    Bool × FailureDomain :=
  if d.Quarantined payloadKind then (false, d)
  else
    let (admitted, breaker) := d.breaker.allowRequest nowNs
    (admitted, { d with breaker := breaker })

/-- `record_success(now_ns)`. -/
def recordSuccess (d : FailureDomain) (nowNs : Int) : FailureDomain :=
  { d with
    totalSuccesses := d.totalSuccesses + 1
    breaker := d.breaker.recordSuccess nowNs }

/-- `record_failure(event)`; `clock` is the reading taken where the event has none.
    The listeners get the event and the two states. -/
def recordFailure (d : FailureDomain) (event : FailureEvent) (clock : Int) :
    (BreakerState × BreakerState) × FailureDomain :=
  let nowNs := if event.atNs = 0 then clock else event.atNs
  let quarantine :=
    if d.policy.quarantinePayloadKind = true ∧ event.payloadKind ≠ "" ∧ event.recoverable = false
    then d.quarantine.insert event.payloadKind
    else d.quarantine
  let breaker := d.breaker.recordFailure nowNs
  ((d.breaker.state, breaker.state),
    { d with
      totalFailures := d.totalFailures + 1
      history := d.history.push event
      lastFailure := some event
      quarantine := quarantine
      breaker := breaker })

/-- `reset()`. -/
def reset (d : FailureDomain) : FailureDomain := new d.name d.policy

@[simp] theorem recordSuccess_breaker (d : FailureDomain) (nowNs : Int) :
    (d.recordSuccess nowNs).breaker = d.breaker.recordSuccess nowNs := rfl

@[simp] theorem recordFailure_breaker (d : FailureDomain) (event : FailureEvent) (clock : Int) :
    (d.recordFailure event clock).2.breaker
      = d.breaker.recordFailure (if event.atNs = 0 then clock else event.atNs) := rfl

/-- A quarantined payload does not get to the breaker. -/
theorem allowRequest_cases (d : FailureDomain) (payloadKind : String) (nowNs : Int) :
    (d.Quarantined payloadKind ∧ d.allowRequest payloadKind nowNs = (false, d)) ∨
    (¬ d.Quarantined payloadKind ∧ d.allowRequest payloadKind nowNs
      = ((d.breaker.allowRequest nowNs).1,
          { d with breaker := (d.breaker.allowRequest nowNs).2 })) := by
  unfold allowRequest
  split
  next h => exact .inl ⟨h, rfl⟩
  next h => exact .inr ⟨h, rfl⟩

end FailureDomain

/-! ## The boundary -/

/-- A boundary that has been entered (`_BoundaryCore`). -/
structure Boundary where
  payloadKind : String
  suppress : Bool
  admitted : Bool
deriving DecidableEq, Repr

namespace Boundary

/-- `_admit()`; `none` is the boundary of a raised `SubsystemUnavailable`, which is not
    entered. -/
def tryEnter (d : FailureDomain) (payloadKind : String) (suppress swallowUnavailable : Bool)
    (nowNs : Int) : Option Boundary × FailureDomain :=
  let (admitted, d) := d.allowRequest payloadKind nowNs
  if admitted = false ∧ swallowUnavailable = false then (none, d)
  else (some ⟨payloadKind, suppress, admitted⟩, d)

/-- The exit has nothing to tell the breaker: a cancellation, unless the policy counts
    those as failures. -/
def Structural (d : FailureDomain) (exc : PyException) : Prop :=
  classifyException exc = .cancelled ∧ d.policy.treatCancelledAsFailure = false

instance (d : FailureDomain) (exc : PyException) : Decidable (Structural d exc) :=
  inferInstanceAs (Decidable (_ ∧ _))

/-- What `_handle_exit` makes of an exit. -/
structure Exit where
  domain : FailureDomain
  /-- The event that `on_failure` gets. -/
  reported : Option FailureEvent
  /-- The event that went through `record_failure`, for the domain's listeners. -/
  recorded : Option (FailureEvent × BreakerState × BreakerState)
  /-- The exception is swallowed. -/
  swallowed : Bool
deriving DecidableEq, Repr

/-- `_handle_exit(exc)`. -/
def handleExit (boundary : Boundary) (d : FailureDomain) (exc : Option PyException)
    (nowNs : Int) : Exit :=
  match exc with
  | none =>
    { domain := if boundary.admitted then d.recordSuccess nowNs else d
      reported := none
      recorded := none
      swallowed := false }
  | some exc =>
    if Structural d exc then ⟨d, none, none, false⟩
    else
      let event := FailureEvent.ofException d.name exc boundary.payloadKind nowNs
      let swallowed := boundary.suppress && !event.kind.doNotRetry
      if boundary.admitted then
        let (states, d) := d.recordFailure event nowNs
        ⟨d, some event, some (event, states), swallowed⟩
      else ⟨d, some event, none, swallowed⟩

/-- How an exit can change the domain: not at all, by a success or by a failure, and only
    that of an admitted request. -/
theorem handleExit_cases (boundary : Boundary) (d : FailureDomain) (exc : Option PyException)
    (nowNs : Int) :
    (boundary.admitted = false ∧ (boundary.handleExit d exc nowNs).domain = d ∧
      (boundary.handleExit d exc nowNs).recorded = none) ∨
    (boundary.admitted = true ∧ (∃ e, exc = some e ∧ Structural d e) ∧
      (boundary.handleExit d exc nowNs).domain = d ∧
      (boundary.handleExit d exc nowNs).recorded = none) ∨
    (boundary.admitted = true ∧ exc = none ∧
      (boundary.handleExit d exc nowNs).domain = d.recordSuccess nowNs ∧
      (boundary.handleExit d exc nowNs).recorded = none) ∨
    (boundary.admitted = true ∧ (∃ e, exc = some e ∧ ¬ Structural d e) ∧
      ∃ event : FailureEvent, event.atNs = nowNs ∧
        (boundary.handleExit d exc nowNs).domain = (d.recordFailure event nowNs).2 ∧
        (boundary.handleExit d exc nowNs).recorded
          = some (event, (d.recordFailure event nowNs).1)) := by
  cases hadmitted : boundary.admitted with
  | false =>
    refine .inl ⟨rfl, ?_⟩
    cases exc with
    | none => simp [handleExit, hadmitted]
    | some e => by_cases hstructural : Structural d e <;> simp [handleExit, hadmitted, hstructural]
  | true =>
    cases exc with
    | none => exact .inr (.inr (.inl ⟨rfl, rfl, by simp [handleExit, hadmitted]⟩))
    | some e =>
      by_cases hstructural : Structural d e
      · exact .inr (.inl ⟨rfl, ⟨e, rfl, hstructural⟩, by simp [handleExit, hstructural]⟩)
      · refine .inr (.inr (.inr ⟨rfl, ⟨e, rfl, hstructural⟩,
          FailureEvent.ofException d.name e boundary.payloadKind nowNs, rfl, ?_⟩))
        simp [handleExit, hadmitted, hstructural]

/-- What an exit does to the breaker. -/
theorem handleExit_state (boundary : Boundary) (d : FailureDomain) (exc : Option PyException)
    (nowNs : Int) :
    (boundary.handleExit d exc nowNs).domain.breaker = d.breaker ∨
    (boundary.handleExit d exc nowNs).domain.breaker = d.breaker.recordSuccess nowNs ∨
    (boundary.handleExit d exc nowNs).domain.breaker = d.breaker.recordFailure nowNs := by
  rcases handleExit_cases boundary d exc nowNs with ⟨-, h, -⟩ | ⟨-, -, h, -⟩ | ⟨-, -, h, -⟩ |
    ⟨-, -, event, hat, h, -⟩
  · exact .inl (by rw [h])
  · exact .inl (by rw [h])
  · exact .inr (.inl (by rw [h]; rfl))
  · refine .inr (.inr ?_)
    rw [h, FailureDomain.recordFailure_breaker, hat]
    simp

end Boundary

end AsyncViz.Runtime.Resilience
