/-
  AsyncViz.Runtime.Warnings.Models

  The values of the warning subsystem (`runtime/warnings`): severities
  (`severity.py`), the working state of a warning (`lifecycle.py`), triggers
  (`normalization.py`), the dedup decision (`deduplication.py`), expiration
  (`expiration.py`) and the deltas a subscriber is told (`streaming.py`).
-/

import AsyncViz.Runtime.Events

namespace AsyncViz.Runtime.Warnings

open AsyncViz.Lib

/-! ## Severities -/

/-- `WarningSeverity`. -/
inductive WarningSeverity where
  | info
  | warning
  | error
  | critical
deriving DecidableEq, Repr

/-- `severity_rank`, over `SEVERITY_ORDER`. -/
def severityRank : WarningSeverity → Nat
  | .info => 0
  | .warning => 1
  | .error => 2
  | .critical => 3

/-! ## Warnings -/

/-- `WarningLifecycle`. -/
structure WarningLifecycle where
  warningId : String
  warningKey : String
  warningType : String
  severity : WarningSeverity
  detector : String
  message : String
  createdSequence : Option Int
  createdMonotonicNs : Int
  createdAtWall : ℚ
  lastObservedSequence : Option Int
  lastObservedMonotonicNs : Int
  lastObservedWall : ℚ
  occurrenceCount : Nat := 1
  resolved : Bool := false
  resolvedSequence : Option Int := none
  resolvedMonotonicNs : Option Int := none
  resolvedAtWall : Option ℚ := none
  expired : Bool := false
  relatedTaskIds : List String := []
  lineageRootId : Option String := none
  metadata : Dict String Json := .empty
  runtimeId : Option String := none

namespace WarningLifecycle

/-- `lifecycle.mark_observed(...)`. -/
def markObserved (w : WarningLifecycle) (sequence : Option Int) (monotonicNs : Int)
    (wallSeconds : ℚ) (message : Option String) : WarningLifecycle :=
  { w with
    occurrenceCount := w.occurrenceCount + 1
    lastObservedSequence := match sequence with
      | none => w.lastObservedSequence
      | some n => some n
    lastObservedMonotonicNs := monotonicNs
    lastObservedWall := wallSeconds
    message := message.getD w.message }

/-- `lifecycle.mark_resolved(...)`, idempotent. -/
def markResolved (w : WarningLifecycle) (sequence : Option Int) (monotonicNs : Int)
    (wallSeconds : ℚ) : WarningLifecycle :=
  if w.resolved then w
  else
    { w with
      resolved := true
      resolvedSequence := sequence
      resolvedMonotonicNs := some monotonicNs
      resolvedAtWall := some wallSeconds }

/-- `lifecycle.mark_expired(...)`. -/
def markExpired (w : WarningLifecycle) (monotonicNs : Int) (wallSeconds : ℚ) : WarningLifecycle :=
  if w.expired then w
  else if w.resolved then { w with expired := true }
  else
    { w with
      expired := true
      resolved := true
      resolvedSequence := none
      resolvedMonotonicNs := some monotonicNs
      resolvedAtWall := some wallSeconds }

end WarningLifecycle

/-- `ActiveWarning`: the copy of a lifecycle, field by field. -/
abbrev ActiveWarning := WarningLifecycle

/-- `lifecycle_to_active`. -/
def lifecycleToActive (w : WarningLifecycle) : ActiveWarning := w

/-- `WarningTrigger`. -/
structure WarningTrigger where
  warningType : String
  warningKey : String
  severity : WarningSeverity
  message : String
  detector : String
  sequence : Option Int
  monotonicNs : Int
  wallSeconds : ℚ
  relatedTaskIds : List String := []
  lineageRootId : Option String := none
  metadata : Dict String Json := .empty

/-- `WarningChange`. -/
inductive WarningChange where
  | activated
  | updated
  | deduplicated
  | resolved
  | expired
deriving DecidableEq, Repr

/-- `WarningDelta`, with the warning as the payload serializes it. -/
structure WarningDelta where
  warning : ActiveWarning
  change : WarningChange
  sequence : Option Int
  lastSequence : Int

/-! ## Deduplication and expiration -/

/-- `DedupDecision`. -/
inductive DedupDecision where
  | activate
  | refresh
  | suppress
deriving DecidableEq, Repr

/-- `evaluate_dedup`. -/
def evaluateDedup (existing : Option WarningLifecycle) (sequence : Option Int) : DedupDecision :=
  match existing with
  | none => .activate
  | some existing =>
    match sequence, existing.lastObservedSequence with
    | some n, some last =>
      if n ≤ last then .suppress
      else if existing.resolved then .activate
      else .refresh
    -- without two sequences to compare, an observation is never a repetition
    | _, _ => if existing.resolved then .activate else .refresh

/-- `ExpirationPolicy`. -/
structure ExpirationPolicy where
  ttlSeconds : ℚ := 60

/-- `int(self.ttl_seconds * 1_000_000_000)`, truncated towards zero. -/
def ExpirationPolicy.ttlNs (p : ExpirationPolicy) : Int :=
  let ns := p.ttlSeconds * 1000000000
  ns.num.tdiv ns.den

/-- `policy.is_expired(lifecycle, now_monotonic_ns)`. -/
def ExpirationPolicy.isExpired (p : ExpirationPolicy) (w : WarningLifecycle)
    (nowMonotonicNs : Int) : Bool :=
  !w.resolved && decide (nowMonotonicNs - w.lastObservedMonotonicNs ≥ p.ttlNs)

end AsyncViz.Runtime.Warnings
