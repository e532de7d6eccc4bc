/-
  AsyncViz.Runtime.Resilience.Models

  The value types of `runtime/resilience`: breaker states, policies, failure kinds
  and events (`models/*.py`, `isolation_configuration.py`) and what the classifier
  makes of an exception or a marker (`failure_classifier.py`).

  Seconds are whole nanoseconds here, as `int(seconds * 1e9)` makes them.  An
  exception is what the classifier reads of it: the first `isinstance` test it
  passes, its `errno`, its class name and its texts.
-/

import Mathlib.Data.List.Infix

namespace AsyncViz.Runtime.Resilience

/-- `BreakerState`. -/
inductive BreakerState where
  | closed
  | opened
  | halfOpen
deriving DecidableEq, Repr

/-- `FailureKind`. -/
inductive FailureKind where
  | transient
  | corruption
  | protocol
  | resource
  | cancelled
  | programmer
  | unknown
deriving DecidableEq, Repr

/-- `kind in DO_NOT_RETRY`. -/
def FailureKind.doNotRetry : FailureKind → Bool
  | .programmer | .corruption => true
  | _ => false

/-- `FailureEvent`. -/
structure FailureEvent where
  subsystem : String
  kind : FailureKind
  detail : String
  atNs : Int
  payloadKind : String
  recoverable : Bool
deriving DecidableEq, Repr

/-- `SubsystemPolicy`, with its defaults. -/
structure SubsystemPolicy where
  failureThreshold : Int := 5
  failureWindowNs : Int := 30000000000
  openDurationNs : Int := 5000000000
  halfOpenProbes : Int := 1
  maxRecoveryAttempts : Int := 6
  quarantinePayloadKind : Bool := false
  treatCancelledAsFailure : Bool := false
deriving DecidableEq, Repr

/-! ## The classifier -/

/-- `_CORRUPTION_HINTS`. -/
def corruptionHints : List String :=
  ["corrupted", "corruption", "checksum", "decode-failed", "deserialize", "schema", "integrity"]

/-- `_PROTOCOL_HINTS`. -/
def protocolHints : List String := ["handshake", "protocol", "websocket", "frame-too-large"]

/-- `_RESOURCE_HINTS`. -/
def resourceHints : List String :=
  ["memory", "disk", "no-space", "queue-full", "semaphore", "exhaust"]

/-- `any(hint in text for hint in hints)`. -/
def hinted (hints : List String) (text : String) : Bool :=
  hints.any fun hint => decide (hint.toList <:+: text.toList)

/-- The three groups of hints in the order they are tried; `rest` is what follows them. -/
def classifyText (text : String) (rest : FailureKind) : FailureKind :=
  if hinted corruptionHints text then .corruption
  else if hinted protocolHints text then .protocol
  else if hinted resourceHints text then .resource
  else rest

/-- The first `isinstance` test of `classify_exception` that an exception passes. -/
inductive ExceptionClass where
  | cancelledError
  /-- `AssertionError`, `TypeError`, `AttributeError`, `NameError` or `SyntaxError`. -/
  | programmer
  | memoryError
  | timeoutError
  /-- `OSError`, `BrokenPipeError` or `ConnectionError`. -/
  | osError
  | other
deriving DecidableEq, Repr

/-- An exception as the classifier reads it; `lowered` is
    `(str(exc) or exc.__class__.__name__).lower()`. -/
structure PyException where
  exceptionClass : ExceptionClass
  errno : Option Int
  name : String
  message : String
  lowered : String
deriving DecidableEq, Repr

/-- `text[:200]`. -/
def clip (text : String) : String := String.ofList (text.toList.take 200)

/-- `classify_exception(exc)`. -/
def classifyException (exc : PyException) : FailureKind :=
  match exc.exceptionClass with
  | .cancelledError => .cancelled
  | .programmer => .programmer
  | .memoryError => .resource
  | .timeoutError => .transient
  | .osError => if exc.errno = some 28 then .resource else .transient
  | .other => classifyText (clip exc.lowered) .unknown

/-- `classify_marker(marker)`. -/
def classifyMarker (marker : String) : FailureKind :=
  if marker = "cancelled" ∨ marker = "cancellation" then .cancelled
  else classifyText marker <|
    if "-timeout".toList <:+ marker.toList ∨ marker = "timeout" then .transient
    else if "assert".toList <+: marker.toList ∨ marker = "programmer-error" then .programmer
    else .unknown

/-- `FailureEvent(...)` as the boundary and `report_exception` build it. -/
def FailureEvent.ofException (subsystem : String) (exc : PyException) (payloadKind : String)
    (atNs : Int) : FailureEvent :=
  let kind := classifyException exc
  { subsystem := subsystem
    kind := kind
    detail := exc.name ++ ": " ++ clip exc.message
    atNs := atNs
    payloadKind := payloadKind
    recoverable := !kind.doNotRetry }

/-- `FailureEvent(...)` as `report_marker` builds it. -/
def FailureEvent.ofMarker (subsystem marker payloadKind : String) (atNs : Int) : FailureEvent :=
  let kind := classifyMarker marker
  { subsystem := subsystem
    kind := kind
    detail := marker
    atNs := atNs
    payloadKind := payloadKind
    recoverable := !kind.doNotRetry }

end AsyncViz.Runtime.Resilience
