/-
  AsyncViz.Runtime.Backpressure.Controller

  `EventBackpressureController` (`runtime/backpressure/event_backpressure_controller.py`): the
  bounded channels (`backpressure_queue.py`, `bounded_event_channel.py`), the adapters of the
  websocket, the recorder and the reducers, and the adaptive controller that samples them.

  A source is the closure that reads a channel or an adapter, known by what it reads (`Source`); a
  listener is the controller's own `_on_action` or somebody else's.  The topology view, the budget,
  the overflow counters and markers, metrics and traces are left out.
-/

import Mathlib.Data.Rat.Floor
import AsyncViz.Runtime.Backpressure.Adaptive

namespace AsyncViz.Runtime.Backpressure

open AsyncViz.Lib AsyncViz.Lib.Smoothing

/-! ## Channels -/

/-- `PriorityBoundedQueue`: the items with their priorities, oldest first.  The heap of
    `drop-low-priority` orders by priority and then by age. -/
structure PriorityBoundedQueue (α : Type _) where
  capacity : Nat
  policy : DropPolicy
  buf : List (Int × α) := []

/-- `EnqueueVerdict`. -/
structure EnqueueVerdict (α : Type _) where
  accepted : Bool
  evicted : Option α

namespace PriorityBoundedQueue

variable {α : Type _}

/-- `_peek_lowest_priority_locked()`. -/
def peekLowestPriority (q : PriorityBoundedQueue α) : Option Int := (q.buf.map Prod.fst).min?

/-- `_push_locked(item, priority)` on what is left of the items. -/
def pushOnto (q : PriorityBoundedQueue α) (buf : List (Int × α)) (item : α) (priority : Int) :
    PriorityBoundedQueue α :=
  { q with buf := buf ++ [(priority, item)] }

/-- `queue.offer(item, priority=...)`. -/
def offer (q : PriorityBoundedQueue α) (item : α) (priority : Int) :
    EnqueueVerdict α × PriorityBoundedQueue α :=
  if q.buf.length < q.capacity then (⟨true, none⟩, q.pushOnto q.buf item priority)
  else
    match q.policy with
    | .dropNewest | .block => (⟨false, none⟩, q)
    | .dropOldest =>
      (⟨true, q.buf.head?.map Prod.snd⟩, q.pushOnto q.buf.tail item priority)
    | .dropLowPriority =>
      match q.peekLowestPriority with
      | none => (⟨false, none⟩, q)
      | some lowest =>
        if priority < lowest then (⟨false, none⟩, q)
        else
          (⟨true, (q.buf.find? (·.1 = lowest)).map Prod.snd⟩,
            q.pushOnto (q.buf.eraseP (·.1 = lowest)) item priority)

/-- `queue.clear()`. -/
def clear (q : PriorityBoundedQueue α) : PriorityBoundedQueue α := { q with buf := [] }

end PriorityBoundedQueue

/-- `BoundedEventChannel`, whose name is the key that it is kept under. -/
structure BoundedEventChannel (α : Type _) where
  queue : PriorityBoundedQueue α

namespace BoundedEventChannel

variable {α : Type _}

/-- `BoundedEventChannel(name, capacity=..., policy=...)`. -/
def new (capacity : Nat) (policy : DropPolicy) : BoundedEventChannel α := ⟨{ capacity, policy }⟩

/-- `channel.depth`. -/
def depth (ch : BoundedEventChannel α) : Nat := ch.queue.buf.length

/-- `channel.pressure_ratio`. -/
def pressureRatio (ch : BoundedEventChannel α) : ℚ :=
  if ch.queue.capacity = 0 then 0 else ch.depth / ch.queue.capacity

/-- `channel.offer(item, priority=...)`. -/
def offer (ch : BoundedEventChannel α) (item : α) (priority : Int) :
    EnqueueVerdict α × BoundedEventChannel α :=
  let (verdict, queue) := ch.queue.offer item priority
  (verdict, ⟨queue⟩)

/-- `channel.clear()`. -/
def clear (ch : BoundedEventChannel α) : BoundedEventChannel α := ⟨ch.queue.clear⟩

end BoundedEventChannel

/-! ## Adapters -/

/-- `WebsocketSubscriberChannel`. -/
structure WebsocketSubscriberChannel (α : Type _) where
  channel : BoundedEventChannel α
  slowClient : Bool := false
  disconnectCount : Nat := 0

/-- `subscriber.disconnect()`. -/
def WebsocketSubscriberChannel.disconnect {α : Type _} (s : WebsocketSubscriberChannel α) :
    WebsocketSubscriberChannel α :=
  ⟨s.channel.clear, false, s.disconnectCount + 1⟩

/-- `WebsocketBackpressureRegistry`. -/
structure WebsocketBackpressureRegistry (α : Type _) where
  capacity : Nat
  policy : DropPolicy
  channels : Dict String (WebsocketSubscriberChannel α) := .empty

namespace WebsocketBackpressureRegistry

variable {α : Type _}

/-- `WebsocketBackpressureRegistry(config, policy=...)`. -/
def new (config : BackpressureConfig) (policy : Option DropPolicy) :
    WebsocketBackpressureRegistry α where
  capacity := config.websocketCapacity
  policy := policy.getD config.websocketDropPolicy

/-- `registry.attach(subscriber_id)`. -/
def attach (r : WebsocketBackpressureRegistry α) (subscriberId : String) :
    WebsocketBackpressureRegistry α :=
  if subscriberId ∈ r.channels then r
  else { r with channels := r.channels.set subscriberId { channel := .new r.capacity r.policy } }

/-- The subscriber has changed, if it is there. -/
def modify (r : WebsocketBackpressureRegistry α) (subscriberId : String)
    (f : WebsocketSubscriberChannel α → WebsocketSubscriberChannel α) :
    WebsocketBackpressureRegistry α :=
  match r.channels.get? subscriberId with
  | none => r
  | some s => { r with channels := r.channels.set subscriberId (f s) }

/-- `registry.get(subscriber_id).offer(frame, priority=...)`. -/
def offer (r : WebsocketBackpressureRegistry α) (subscriberId : String) (frame : α)
    (priority : Int) : WebsocketBackpressureRegistry α :=
  r.modify subscriberId fun s => { s with channel := (s.channel.offer frame priority).2 }

/-- `registry.get(subscriber_id).mark_slow()`. -/
def markSlow (r : WebsocketBackpressureRegistry α) (subscriberId : String) :
    WebsocketBackpressureRegistry α :=
  r.modify subscriberId fun s => { s with slowClient := true }

/-- `registry.disconnect_slow_clients()`: how many there were. -/
def disconnectSlowClients (r : WebsocketBackpressureRegistry α) :
    Nat × WebsocketBackpressureRegistry α :=
  (r.channels.values.countP (·.slowClient),
    { r with channels := r.channels.mapValues fun s => if s.slowClient then s.disconnect else s })

/-- `registry.max_pressure_ratio()`. -/
def maxPressureRatio (r : WebsocketBackpressureRegistry α) : ℚ :=
  peak (r.channels.values.map (·.channel.pressureRatio))

/-- `registry.reset()`. -/
def reset (r : WebsocketBackpressureRegistry α) : WebsocketBackpressureRegistry α :=
  { r with channels := .empty }

end WebsocketBackpressureRegistry

/-- `ReplayBackpressureAdapter`, without its overflow markers. -/
structure ReplayBackpressureAdapter (α : Type _) where
  channel : BoundedEventChannel α

/-- `ReplayBackpressureAdapter(config, policy=...)`. -/
def ReplayBackpressureAdapter.new {α : Type _} (config : BackpressureConfig)
    (policy : Option DropPolicy) : ReplayBackpressureAdapter α :=
  ⟨.new config.recorderCapacity (policy.getD config.recorderDropPolicy)⟩

/-- `adapter.reset()`. -/
def ReplayBackpressureAdapter.reset {α : Type _} (a : ReplayBackpressureAdapter α) :
    ReplayBackpressureAdapter α := ⟨a.channel.clear⟩

/-- `ReducerBackpressureAdapter`. -/
structure ReducerBackpressureAdapter (α : Type _) where
  channel : BoundedEventChannel α
  shedCount : Nat := 0

/-- `adapter.offer(item, priority=...)` of a reducer. -/
def ReducerBackpressureAdapter.offer {α : Type _} (a : ReducerBackpressureAdapter α) (item : α)
    (priority : Int) : ReducerBackpressureAdapter α :=
  let (verdict, channel) := a.channel.offer item priority
  ⟨channel,
    if verdict.accepted = false ∨ verdict.evicted.isSome then a.shedCount + 1 else a.shedCount⟩

/-! ## The controller -/

/-- What a closure reads. -/
inductive Source where
  | channel (name : String)
  | websocket
  | recorder
  | reducer (name : String)
deriving DecidableEq, Repr

/-- `_on_action`, or a listener of somebody else. -/
inductive Listener where
  | onAction
  | other (id : Nat)
deriving DecidableEq, Repr

/-- `EventBackpressureController`. -/
structure EventBackpressureController (α : Type _) where
  config : BackpressureConfig
  adaptive : AdaptiveBackpressureController Source Listener
  channels : Dict String (BoundedEventChannel α) := .empty
  reducerAdapters : Dict String (ReducerBackpressureAdapter α) := .empty
  websocketRegistry : Option (WebsocketBackpressureRegistry α) := none
  recorderAdapter : Option (ReplayBackpressureAdapter α) := none

/-- A call on the controller, or on what an earlier call has returned.  A capacity of zero asks for
    the default, as `capacity or ...` has it. -/
inductive Action (α : Type _) where
  | registerChannel (name : String) (capacity : Nat) (policy : Option DropPolicy)
  | attachWebsocketRegistry (policy : Option DropPolicy)
  | attachRecorderAdapter (policy : Option DropPolicy)
  | attachReducerAdapter (name : String) (capacity : Nat) (policy : Option DropPolicy)
  | offer (name : String) (item : α) (priority : Int)
  | offerReducer (name : String) (item : α) (priority : Int)
  | offerRecorder (item : α) (priority : Int)
  | attachSubscriber (subscriberId : String)
  | offerSubscriber (subscriberId : String) (frame : α) (priority : Int)
  | markSlow (subscriberId : String)

/-- What one tick shows: the state after it, what was sampled, and what the listeners did with the
    actions, with the number of subscribers that were disconnected. -/
structure Report where
  state : OverloadState
  sampled : List (String × Source × Int)
  performed : List (DegradationAction × Listener × Nat)
deriving DecidableEq, Repr

namespace EventBackpressureController

variable {α : Type _}

/-- `EventBackpressureController(config)`: its own listener is wired here. -/
def new (config : BackpressureConfig) : EventBackpressureController α where
  config := config
  adaptive := (AdaptiveBackpressureController.new config).subscribeActions .onAction

/-- `capacity or default`. -/
def orDefault (capacity default : Nat) : Nat := if capacity = 0 then default else capacity

/-- `controller.register_channel(name, capacity=..., policy=...)`. -/
def registerChannel (c : EventBackpressureController α) (name : String) (capacity : Nat)
    (policy : Option DropPolicy) : EventBackpressureController α :=
  if name ∈ c.channels then c
  else
    let capacity := orDefault capacity c.config.busCapacity
    { c with
      channels := c.channels.set name (.new capacity (policy.getD c.config.busDropPolicy))
      adaptive := c.adaptive.registerSource name (.channel name) capacity }

/-- `controller.attach_websocket_registry(policy=...)`. -/
def attachWebsocketRegistry (c : EventBackpressureController α) (policy : Option DropPolicy) :
    EventBackpressureController α :=
  match c.websocketRegistry with
  | some _ => c
  | none =>
    { c with
      websocketRegistry := some (.new c.config policy)
      adaptive := c.adaptive.registerSource "websocket" .websocket 100 }

/-- `controller.attach_recorder_adapter(policy=...)`. -/
def attachRecorderAdapter (c : EventBackpressureController α) (policy : Option DropPolicy) :
    EventBackpressureController α :=
  match c.recorderAdapter with
  | some _ => c
  | none =>
    { c with
      recorderAdapter := some (.new c.config policy)
      adaptive := c.adaptive.registerSource "recorder" .recorder c.config.recorderCapacity }

/-- `controller.attach_reducer_adapter(name, capacity=..., policy=...)`. -/
def attachReducerAdapter (c : EventBackpressureController α) (name : String) (capacity : Nat)
    (policy : Option DropPolicy) : EventBackpressureController α :=
  if name ∈ c.reducerAdapters then c
  else
    let capacity := orDefault capacity c.config.reducerCapacity
    { c with
      reducerAdapters := c.reducerAdapters.set name
        { channel := .new capacity (policy.getD c.config.reducerDropPolicy) }
      adaptive := c.adaptive.registerSource ("reducer:" ++ name) (.reducer name) capacity }

/-- The handle that the call needs has been returned. -/
def hasHandle (c : EventBackpressureController α) : Action α → Bool
  | .offer name _ _ => name ∈ c.channels
  | .offerReducer name _ _ => name ∈ c.reducerAdapters
  | .offerRecorder _ _ => c.recorderAdapter.isSome
  | .attachSubscriber _ | .offerSubscriber _ _ _ | .markSlow _ => c.websocketRegistry.isSome
  | _ => true

/-- One call; one without its handle does nothing. -/
def call (c : EventBackpressureController α) : Action α → EventBackpressureController α
  | .registerChannel name capacity policy => c.registerChannel name capacity policy
  | .attachWebsocketRegistry policy => c.attachWebsocketRegistry policy
  | .attachRecorderAdapter policy => c.attachRecorderAdapter policy
  | .attachReducerAdapter name capacity policy => c.attachReducerAdapter name capacity policy
  | .offer name item priority =>
    match c.channels.get? name with
    | none => c
    | some ch => { c with channels := c.channels.set name (ch.offer item priority).2 }
  | .offerReducer name item priority =>
    match c.reducerAdapters.get? name with
    | none => c
    | some a => { c with reducerAdapters := c.reducerAdapters.set name (a.offer item priority) }
  | .offerRecorder item priority =>
    { c with
      recorderAdapter := c.recorderAdapter.map fun a => ⟨(a.channel.offer item priority).2⟩ }
  | .attachSubscriber subscriberId =>
    { c with websocketRegistry := c.websocketRegistry.map (·.attach subscriberId) }
  | .offerSubscriber subscriberId frame priority =>
    { c with websocketRegistry := c.websocketRegistry.map (·.offer subscriberId frame priority) }
  | .markSlow subscriberId =>
    { c with websocketRegistry := c.websocketRegistry.map (·.markSlow subscriberId) }

/-- What a closure returns. -/
def read (c : EventBackpressureController α) : Source → Int
  | .channel name => ((c.channels.get? name).map (·.depth)).getD 0
  | .websocket => ⌊(c.websocketRegistry.map (·.maxPressureRatio)).getD 0 * 100⌋
  | .recorder => ((c.recorderAdapter.map (·.channel.depth)).getD 0 : Nat)
  | .reducer name => ((c.reducerAdapters.get? name).map (·.channel.depth)).getD 0

/-- What a tick samples now. -/
def sampled (c : EventBackpressureController α) : List (String × Source × Int) :=
  c.adaptive.sources.entries.map fun p => (p.1, p.2.callable, c.read p.2.callable)

/-- `_on_action(action, snapshot)`: the number of subscribers that it disconnects. -/
def onAction (c : EventBackpressureController α) (action : DegradationAction) :
    Nat × EventBackpressureController α :=
  match c.websocketRegistry with
  | none => (0, c)
  | some r =>
    if action.kind = .disconnectSlowClients then
      let (disconnected, r) := r.disconnectSlowClients
      (disconnected, { c with websocketRegistry := some r })
    else (0, c)

/-- The listeners are called one after another. -/
def perform : List (DegradationAction × Listener) → EventBackpressureController α →
    List (DegradationAction × Listener × Nat) × EventBackpressureController α
  | [], c => ([], c)
  | (action, .onAction) :: rest, c =>
    let (disconnected, c) := c.onAction action
    let (performed, c) := perform rest c
    ((action, .onAction, disconnected) :: performed, c)
  | (action, .other id) :: rest, c =>
    let (performed, c) := perform rest c
    ((action, .other id, 0) :: performed, c)

/-- `controller.tick()`, with the clock. -/
def tick (c : EventBackpressureController α) (passes : String → Nat) (clock : Int) :
    Report × Int × EventBackpressureController α :=
  let (observations, dispatched, adaptive) :=
    c.adaptive.tick (fun _ entry => some (c.read entry.callable)) passes clock
  let (performed, next) := perform dispatched { c with adaptive := adaptive }
  (⟨adaptive.detector.state, c.sampled, performed⟩,
    AdaptiveBackpressureController.lastClock observations clock, next)

/-- `controller.reset()`. -/
def reset (c : EventBackpressureController α) : EventBackpressureController α :=
  { c with
    channels := .empty
    reducerAdapters := .empty
    websocketRegistry := c.websocketRegistry.map (·.reset)
    recorderAdapter := c.recorderAdapter.map (·.reset)
    adaptive := c.adaptive.reset }

end EventBackpressureController

end AsyncViz.Runtime.Backpressure
