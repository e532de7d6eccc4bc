/-
  AsyncViz.Frontend.Client

  `RuntimeWebSocketClient` (`runtime/websocket/client.ts`) with its
  `ReconnectScheduler` and `HeartbeatMonitor`.

  A method of the client is a function from the client to the client and the
  effects it had on the outside, in order: hooks, fan-out and calls on the
  transport.  What happens asynchronously is an action of its own: a fetch that
  settles, a timer that fires, an event of the transport.  `stop()` aborts the
  fetch in flight, which may have its answer by then, so that a fetch settles
  either way at any later time.

  Delays, the diagnostics ring and the text of a rejection are left out; a frame
  is what `parseEnvelope` makes of it.
-/

import AsyncViz.Frontend.Models
import AsyncViz.Frontend.Sequencing

namespace AsyncViz.Frontend

/-- `isTerminalPhase(phase)`. -/
def isTerminalPhase : ConnectionPhase → Bool
  | .failed | .disconnected => true
  | .idle | .hydrating | .connecting | .replaying | .live | .reconnecting => false

/-- `_isPreLivePhase(phase)`. -/
def isPreLivePhase : ConnectionPhase → Bool
  | .idle | .hydrating | .connecting | .replaying | .reconnecting => true
  | .live | .disconnected | .failed => false

/-- `ParseOutcome`. -/
inductive ParseOutcome where
  | ok (envelope : RuntimeEnvelope)
  | invalidJson
  | invalidShape
  | unknownType
  | protocolMismatch

/-- `RejectReason`. -/
inductive RejectReason where
  | invalidJson
  | invalidShape
  | unknownType
  | protocolMismatch
  | duplicate
  | stale
deriving DecidableEq, Repr

/-- What the client does to the outside. -/
inductive ClientEffect where
  | phase (phase : ConnectionPhase) (reconnectAttempt : Nat)
  | hydrated (snapshot : RuntimeSnapshot)
  | envelope (envelope : RuntimeEnvelope)
  | reject (reason : RejectReason)
  | error
  | transportOpen (sinceSequence : Option Int)
  | transportClose (code : Nat)

/-! ## Reconnect and heartbeat -/

/-- `ReconnectScheduler`; no cap on the attempts is `none`. -/
structure ReconnectScheduler where
  attempt : Nat := 0
  maxAttempts : Option Nat := none
deriving DecidableEq, Repr

/-- `scheduler.next()`, as the scheduler with its advanced attempt counter. -/
def ReconnectScheduler.next (r : ReconnectScheduler) : Option ReconnectScheduler :=
  match r.maxAttempts with
  | none => some { r with attempt := r.attempt + 1 }
  | some cap => if r.attempt < cap then some { r with attempt := r.attempt + 1 } else none

/-- `HeartbeatMonitor`: whether `onStale` is set, and whether its timer is pending. -/
structure HeartbeatMonitor where
  onStale : Bool := false
  timer : Bool := false
  heartbeatsSeen : Nat := 0
  staleTriggers : Nat := 0
deriving DecidableEq, Repr

namespace HeartbeatMonitor

/-- `monitor.start(onStale)`. -/
def start (h : HeartbeatMonitor) : HeartbeatMonitor := { h with onStale := true, timer := true }

/-- `monitor.stop()`. -/
def stop (h : HeartbeatMonitor) : HeartbeatMonitor := { h with onStale := false, timer := false }

/-- `monitor.recordFrame(isHeartbeat)`. -/
def recordFrame (h : HeartbeatMonitor) (isHeartbeat : Bool) : HeartbeatMonitor :=
  { h with
    heartbeatsSeen := if isHeartbeat then h.heartbeatsSeen + 1 else h.heartbeatsSeen
    timer := h.onStale || h.timer }

end HeartbeatMonitor

/-! ## The client -/

/-- `RuntimeWebSocketClient`.  `hydrating` counts the fetches in flight; `timers`
    are the reconnect timers that may still fire, of which the client remembers
    the one in `reconnectTimer`. -/
structure RuntimeWebSocketClient where
  sequence : SequenceTracker := {}
  reconnect : ReconnectScheduler := {}
  heartbeat : HeartbeatMonitor := {}
  phase : ConnectionPhase := .idle
  hydration : Option RuntimeSnapshot := none
  reconnectTimer : Option Nat := none
  stopped : Bool := false
  hydrating : Nat := 0
  timers : List Nat := []
  nextTimer : Nat := 0

namespace RuntimeWebSocketClient

/-- `_setPhase(phase)`. -/
def setPhase (c : RuntimeWebSocketClient) (phase : ConnectionPhase) :
    RuntimeWebSocketClient × List ClientEffect :=
  if c.phase = phase then (c, [])
  else
    ({ c with
        phase := phase
        heartbeat := if isTerminalPhase phase then c.heartbeat.stop else c.heartbeat },
      [.phase phase c.reconnect.attempt])

/-- `_connect()`; the url carries the cursor when it is above 0. -/
def connect (c : RuntimeWebSocketClient) : RuntimeWebSocketClient × List ClientEffect :=
  if c.stopped then (c, [])
  else
    let (c, phased) := c.setPhase .connecting
    let cursor := c.sequence.lastSequence
    (c, phased ++ [.transportOpen (if cursor ≤ 0 then none else some cursor)])

/-- `start()`, up to the `await` on the fetch. -/
def start (c : RuntimeWebSocketClient) : RuntimeWebSocketClient × List ClientEffect :=
  let (c, phased) := { c with stopped := false }.setPhase .hydrating
  ({ c with hydrating := c.hydrating + 1 }, phased)

/-- The rest of `_hydrateThenConnect` when the fetch has an answer. -/
def hydrationSucceeded (c : RuntimeWebSocketClient) (snapshot : RuntimeSnapshot) :
    RuntimeWebSocketClient × List ClientEffect :=
  let (c, connected) := { c with
    hydration := some snapshot
    sequence := c.sequence.resnap snapshot.lastSequence }.connect
  (c, .hydrated snapshot :: connected)

/-- `_handleHydrationFailure(error)`: fall back to a plain connect, from 0. -/
def handleHydrationFailure (c : RuntimeWebSocketClient) :
    RuntimeWebSocketClient × List ClientEffect :=
  if c.stopped then (c, [.error])
  else
    let (c, connected) := { c with sequence := c.sequence.reset 0 }.connect
    (c, .error :: connected)

/-- `stop()`. -/
def stop (c : RuntimeWebSocketClient) : RuntimeWebSocketClient × List ClientEffect :=
  -- only the timer that the client remembers is cleared
  let timers := match c.reconnectTimer with
    | none => c.timers
    | some id => c.timers.erase id
  let (c, phased) := { c with
    stopped := true
    timers := timers
    reconnectTimer := none
    heartbeat := c.heartbeat.stop }.setPhase .disconnected
  (c, .transportClose 1000 :: phased)

/-- `forceReconnect()`. -/
def forceReconnect (c : RuntimeWebSocketClient) : RuntimeWebSocketClient × List ClientEffect :=
  if c.stopped then (c, []) else (c, [.transportClose 4000])

/-- `_handleOpen()`. -/
def handleOpen (c : RuntimeWebSocketClient) : RuntimeWebSocketClient × List ClientEffect :=
  let (c, phased) := { c with reconnect := { c.reconnect with attempt := 0 } }.setPhase .replaying
  ({ c with heartbeat := c.heartbeat.start }, phased)

/-- `_scheduleReconnect()`.  A timer that is already pending is left to fire. -/
def scheduleReconnect (c : RuntimeWebSocketClient) :
    RuntimeWebSocketClient × List ClientEffect :=
  if c.stopped then (c, [])
  else
    match c.reconnect.next with
    | none => c.setPhase .failed
    | some reconnect =>
      let (c, phased) := { c with reconnect := reconnect }.setPhase .reconnecting
      -- the timer of an earlier schedule is overwritten, not cleared
      ({ c with
          timers := c.timers ++ [c.nextTimer]
          reconnectTimer := some c.nextTimer
          nextTimer := c.nextTimer + 1 },
        phased)

/-- `_handleClose()`. -/
def handleClose (c : RuntimeWebSocketClient) : RuntimeWebSocketClient × List ClientEffect :=
  let c := { c with heartbeat := c.heartbeat.stop }
  if c.stopped then c.setPhase .disconnected else c.scheduleReconnect

/-- The callback of the reconnect timer. -/
def reconnectFired (c : RuntimeWebSocketClient) (id : Nat) :
    RuntimeWebSocketClient × List ClientEffect :=
  { c with timers := c.timers.erase id, reconnectTimer := none }.connect

/-- The callback of the heartbeat timer. -/
def heartbeatFired (c : RuntimeWebSocketClient) :
    RuntimeWebSocketClient × List ClientEffect :=
  { c with heartbeat := { c.heartbeat with
      timer := false
      staleTriggers := c.heartbeat.staleTriggers + 1 } }.forceReconnect

/-! ## Messages -/

/-- `_handleRejection(outcome)`. -/
def handleRejection : ParseOutcome → List ClientEffect
  | .ok _ => []
  | .protocolMismatch => [.reject .protocolMismatch]
  | .unknownType => [.reject .unknownType]
  | .invalidJson => [.reject .invalidJson]
  | .invalidShape => [.reject .invalidShape]

/-- `_handleMessage` on a `runtime_snapshot`: the cursor goes to the snapshot's,
    back as well as forth. -/
def handleSnapshot (c : RuntimeWebSocketClient) (envelope : RuntimeEnvelope)
    (payload : RuntimeSnapshotPayload) : RuntimeWebSocketClient × List ClientEffect :=
  let c := match payload.lastSequence with
    | none => c
    | some last => { c with sequence := c.sequence.resnap last }
  let (c, phased) := c.setPhase .live
  (c, .envelope envelope :: phased)

/-- `_handleMessage` on any other envelope. -/
def handleSequenced (c : RuntimeWebSocketClient) (envelope : RuntimeEnvelope) :
    RuntimeWebSocketClient × List ClientEffect :=
  let (decision, sequence) := c.sequence.receive envelope.sequence
  let c := { c with sequence := sequence }
  match decision with
  | .duplicate => (c, [.reject .duplicate])
  | .stale => (c, [.reject .stale])
  | .accept | .outOfOrder =>
    let (c, phased) := if isPreLivePhase c.phase then c.setPhase .live else (c, [])
    (c, phased ++ [.envelope envelope])

/-- `_handleMessage(raw)`. -/
def handleMessage (c : RuntimeWebSocketClient) (outcome : ParseOutcome) :
    RuntimeWebSocketClient × List ClientEffect :=
  match outcome with
  | .ok envelope =>
    let isHeartbeat := match envelope.payload with
      | .heartbeat _ _ => true
      | _ => false
    let c := { c with heartbeat := c.heartbeat.recordFrame isHeartbeat }
    match envelope.payload with
    -- a snapshot does not go through the tracker's decision
    | .runtimeSnapshot payload => c.handleSnapshot envelope payload
    | _ => c.handleSequenced envelope
  | outcome => (c, handleRejection outcome)

/-! ## What may happen to a client -/

/-- A call of the user, a settled fetch, a fired timer or an event of the transport. -/
inductive ClientAction where
  | start
  | stop
  | forceReconnect
  | hydrationSucceeded (snapshot : RuntimeSnapshot)
  | hydrationFailed
  | reconnectFired (id : Nat)
  | heartbeatFired
  | opened
  | message (outcome : ParseOutcome)
  | transportError
  | closed

/-- One action; `none` when there is no such fetch or timer. -/
def act (c : RuntimeWebSocketClient) :
    ClientAction → Option (RuntimeWebSocketClient × List ClientEffect)
  | .start => some c.start
  | .stop => some c.stop
  | .forceReconnect => some c.forceReconnect
  | .hydrationSucceeded snapshot =>
    if c.hydrating = 0 then none
    else some ({ c with hydrating := c.hydrating - 1 }.hydrationSucceeded snapshot)
  | .hydrationFailed =>
    if c.hydrating = 0 then none
    else some { c with hydrating := c.hydrating - 1 }.handleHydrationFailure
  | .reconnectFired id => if id ∈ c.timers then some (c.reconnectFired id) else none
  | .heartbeatFired => if c.heartbeat.timer then some c.heartbeatFired else none
  | .opened => some c.handleOpen
  | .message outcome => some (c.handleMessage outcome)
  | .transportError => some (c, [.error])
  | .closed => some c.handleClose

end RuntimeWebSocketClient

end AsyncViz.Frontend
