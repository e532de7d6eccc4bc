/-
  AsyncViz.Runtime.Events.Bus

  `EventBus` with its own queue and dispatcher (`runtime/events/{bus,dispatcher,queue}.py`): the
  publishers on the loop and on other threads, the dispatcher, and the callbacks of the
  subscribers.

  The dispatcher takes the head of the queue, looks its subscriptions up and gathers one call for
  each, in the order of a set (`take`).  The loop begins the calls of a gather before anything
  that comes later (`beginCall`); a callback that is not done then goes on among all others
  (`finishCall`), and the dispatcher behind the last one (`complete`).  A callback that raises
  `CancelledError` ends the dispatcher, not the calls beside it.  `stop` takes the calls away that
  have not begun and waits (`stopped`); how long is left open.

  Nothing keeps `start` from being called while a `stop` waits.  The stop then forgets the new
  dispatcher instead of the old one: it goes on with a queue that nobody else has (`Orphan`), and
  the bus is running without a queue.  `Orderly` leaves such a call out.

  A bus that was given an `InternalEventQueue` is not modelled here.  The last fields of the state
  are histories.
-/

import AsyncViz.Lib.Transition
import AsyncViz.Runtime.Events.Subscriptions
import Mathlib.Data.Finset.Dedup

namespace AsyncViz.Runtime.Events

open AsyncViz.Lib AsyncViz.Lib.Transition

/-! ## The bus -/

/-- `EventBusMetrics`. -/
structure EventBusMetrics where
  published : Nat := 0
  dispatched : Nat := 0
  dropped : Nat := 0
  subscriberFailures : Nat := 0
deriving DecidableEq, Repr

/-- A call of `_invoke`; `batch` is the number of the event among those taken. -/
structure Call where
  sub : Nat
  event : RuntimeEvent
  batch : Nat

/-- How a callback ends. -/
inductive Ending where
  | returned
  | failed
  | cancelled
deriving DecidableEq, Repr

/-- The task of `Dispatcher.run`. -/
inductive Dispatcher where
  | absent
  | idle
  | fanning (batch : Nat)
  | dead
deriving DecidableEq, Repr

/-- The task is not done. -/
def Dispatcher.alive : Dispatcher → Bool
  | .idle | .fanning _ => true
  | .absent | .dead => false

/-- The fan-outs that are going on. -/
def Dispatcher.fanOuts : Dispatcher → Nat
  | .fanning _ => 1
  | _ => 0

/-- A `CancelledError` gets out of the fan-out of an event. -/
def Dispatcher.cancelled (d : Dispatcher) (batch : Nat) : Dispatcher :=
  if d = .fanning batch then .dead else d

/-- A dispatcher that the bus has forgotten, and its queue. -/
structure Orphan where
  queue : List RuntimeEvent
  dispatcher : Dispatcher

/-- A taken event, with the subscriptions there were and the ids of those that `matching` gave. -/
structure Taking where
  event : RuntimeEvent
  live : List Subscription
  order : List Nat

/-- The calls of its fan-out. -/
def Taking.calls (taking : Taking) (batch : Nat) : List Call :=
  taking.order.map fun sub => ⟨sub, taking.event, batch⟩

/-- `EventBus`.  `stopping` are the calls of `stop` that wait, `callbacks` the calls of
    `_enqueue_local` that other threads have scheduled, `waiting` the calls of `_invoke` that the
    loop has to begin and `active` those that await something; a bus without a limit has
    `maxsize` 0. -/
structure EventBus where
  maxsize : Nat
  registry : SubscriptionRegistry
  running : Bool
  stopping : Nat
  queue : Option (List RuntimeEvent)
  dispatcher : Dispatcher
  orphans : List Orphan
  waiting : List Call
  active : List Call
  callbacks : List RuntimeEvent
  metrics : EventBusMetrics
  /-- History: the calls of `publish`. -/
  publishCalls : Nat
  /-- History: the events that got onto the queue. -/
  accepted : List RuntimeEvent
  /-- History: the events that the dispatcher has taken. -/
  taken : List Taking
  /-- History: the callbacks that were called. -/
  invoked : List Call
  /-- History: the fan-outs that went through. -/
  finished : List Nat
  /-- History: the fan-outs that `stop` or a `CancelledError` has ended. -/
  cut : Nat
  /-- History: the events that were on the queue of a bus that stopped. -/
  discarded : Nat

namespace EventBus

/-- `EventBus(maxsize=maxsize)`. -/
def new (maxsize : Nat) : EventBus where
  maxsize := maxsize
  registry := .new
  running := false
  stopping := 0
  queue := none
  dispatcher := .absent
  orphans := []
  waiting := []
  active := []
  callbacks := []
  metrics := {}
  publishCalls := 0
  accepted := []
  taken := []
  invoked := []
  finished := []
  cut := 0
  discarded := 0

/-- What waits on the queue. -/
def queued (b : EventBus) : List RuntimeEvent := b.queue.getD []

def countDropped (b : EventBus) : EventBus :=
  { b with metrics := { b.metrics with dropped := b.metrics.dropped + 1 } }

/-- `_enqueue_local`, with `BoundedEventQueue.offer`. -/
def enqueueLocal (b : EventBus) (event : RuntimeEvent) : Bool × EventBus :=
  match b.queue with
  | none => (false, b.countDropped)
  | some queue =>
    if b.maxsize ≠ 0 ∧ b.maxsize ≤ queue.length then (false, b.countDropped)
    else
      (true,
        { b with
          queue := some (queue ++ [event])
          metrics := { b.metrics with published := b.metrics.published + 1 }
          accepted := b.accepted ++ [event] })

/-- `publish`, on the thread of the loop or on another one. -/
def publish (b : EventBus) (onLoop : Bool) (event : RuntimeEvent) : Bool × EventBus :=
  let called := { b with publishCalls := b.publishCalls + 1 }
  if b.running = false ∨ b.queue = none then (false, called.countDropped)
  else if onLoop then called.enqueueLocal event
  else (true, { called with callbacks := called.callbacks ++ [event] })

/-- `start`: what is on a queue that it replaces is lost. -/
def start (b : EventBus) : EventBus :=
  if b.running then b
  else
    { b with
      queue := some [], dispatcher := .idle, running := true
      discarded := b.discarded + b.queued.length }

/-- `stop`, behind its wait: the bus forgets its dispatcher and its queue. -/
def forget (b : EventBus) : EventBus :=
  if b.dispatcher.alive then
    { b with
      dispatcher := .absent, queue := none
      orphans := b.orphans ++ [⟨b.queued, b.dispatcher⟩] }
  else
    { b with
      dispatcher := .absent, queue := none, discarded := b.discarded + b.queued.length }

/-- `stop`, up to its wait for the dispatcher; a task that is done is not waited for. -/
def stop (b : EventBus) : EventBus :=
  if b.running then
    match b.dispatcher with
    | .idle => { b with running := false, stopping := b.stopping + 1, dispatcher := .dead }
    | .fanning batch =>
      { b with
        running := false, stopping := b.stopping + 1, dispatcher := .dead
        waiting := b.waiting.filter (·.batch ≠ batch), cut := b.cut + 1 }
    | .absent | .dead => { b with running := false }.forget
  else b

/-- A `stop` goes on. -/
def stopped (b : EventBus) : Option EventBus :=
  if b.stopping = 0 then none else some { b with stopping := b.stopping - 1 }.forget

/-- `Dispatcher.run` takes an event, and `_fanout` gathers its calls in this order. -/
def take (b : EventBus) (order : List Nat) : Option EventBus :=
  match b.dispatcher, b.queued with
  | .idle, event :: rest =>
    if order.Nodup ∧ order.toFinset = b.registry.matching event.eventType then
      let taking : Taking := ⟨event, b.registry.subscriptions, order⟩
      let taken : EventBus := { b with queue := some rest, taken := b.taken ++ [taking] }
      if order = [] then
        some { taken with
          metrics := { b.metrics with dispatched := b.metrics.dispatched + 1 }
          finished := b.finished ++ [b.taken.length] }
      else
        some { taken with
          dispatcher := .fanning b.taken.length
          waiting := b.waiting ++ taking.calls b.taken.length }
    else none
  | _, _ => none

/-- What the end of a callback does to the dispatcher of its event and to the count. -/
def ended (b : EventBus) (call : Call) : Ending → EventBus
  | .returned => b
  | .failed =>
    { b with metrics := { b.metrics with subscriberFailures := b.metrics.subscriberFailures + 1 } }
  | .cancelled =>
    let fanning (d : Dispatcher) : Bool := d = .fanning call.batch
    { b with
      dispatcher := b.dispatcher.cancelled call.batch
      orphans := b.orphans.map fun o => { o with dispatcher := o.dispatcher.cancelled call.batch }
      cut := b.cut + if fanning b.dispatcher || b.orphans.any (fanning ·.dispatcher) then 1 else 0 }

/-- The loop begins a call of `_invoke`: its callback ends, or awaits something. -/
def beginCall (b : EventBus) (ending : Option Ending) : Option EventBus :=
  match b.waiting with
  | [] => none
  | call :: waiting =>
    let begun := { b with waiting := waiting, invoked := b.invoked ++ [call] }
    match ending with
    | none => some { begun with active := b.active ++ [call] }
    | some ending => some (begun.ended call ending)

/-- A callback that has awaited ends. -/
def finishCall (b : EventBus) (index : Nat) (ending : Ending) : Option EventBus :=
  match b.active[index]? with
  | none => none
  | some call => some ({ b with active := b.active.eraseIdx index }.ended call ending)

/-- The gather of the dispatcher is over. -/
def complete (b : EventBus) : Option EventBus :=
  match b.dispatcher with
  | .fanning batch =>
    if ∀ call ∈ b.waiting ++ b.active, call.batch ≠ batch then
      some { b with
        dispatcher := .idle
        metrics := { b.metrics with dispatched := b.metrics.dispatched + 1 }
        finished := b.finished ++ [batch] }
    else none
  | _ => none

/-- A step of the dispatcher of the bus, or of a forgotten one in its place. -/
def byDispatcher (b : EventBus) (orphan : Option Nat) (step : EventBus → Option EventBus) :
    Option EventBus :=
  match orphan with
  | none => step b
  | some index =>
    b.orphans[index]?.bind fun orphan =>
      (step { b with queue := some orphan.queue, dispatcher := orphan.dispatcher }).map fun b' =>
        { b' with
          queue := b.queue, dispatcher := b.dispatcher
          orphans := b.orphans.set index ⟨b'.queued, b'.dispatcher⟩ }

/-- The steps of the bus, its callers and its subscribers. -/
inductive Action where
  | start
  | stop
  | stopped
  | subscribe (eventTypes : Option (List String))
  | unsubscribe (subId : Nat)
  | publish (onLoop : Bool) (event : RuntimeEvent)
  | runCallback
  | take (orphan : Option Nat) (order : List Nat)
  | beginCall (ending : Option Ending)
  | finishCall (index : Nat) (ending : Ending)
  | complete (orphan : Option Nat)

/-- One step; `none` when the action is not enabled. -/
def step (b : EventBus) : Action → Option EventBus
  | .start => some b.start
  | .stop => some b.stop
  | .stopped => b.stopped
  | .subscribe eventTypes => some { b with registry := (b.registry.add eventTypes).2 }
  | .unsubscribe subId => some { b with registry := (b.registry.remove subId).2 }
  | .publish onLoop event => some (b.publish onLoop event).2
  | .runCallback =>
    match b.callbacks with
    | [] => none
    | event :: rest => some ({ b with callbacks := rest }.enqueueLocal event).2
  | .take orphan order => b.byDispatcher orphan (take · order)
  | .beginCall ending => b.beginCall ending
  | .finishCall index ending => b.finishCall index ending
  | .complete orphan => b.byDispatcher orphan complete

/-- `start` is not called while a `stop` waits. -/
def Orderly (b : EventBus) : Action → Prop
  | .start => b.stopping = 0
  | _ => True

instance decidableOrderly (b : EventBus) : ∀ a, Decidable (b.Orderly a)
  | .start => inferInstanceAs (Decidable (b.stopping = 0))
  | .stop | .stopped | .subscribe _ | .unsubscribe _ | .publish _ _ | .runCallback | .take _ _
  | .beginCall _ | .finishCall _ _ | .complete _ => .isTrue trivial

/-! ## What each call does -/

variable {b b' : EventBus}

/-- An event gets onto the queue, or is dropped. -/
theorem enqueueLocal_cases (b : EventBus) (event : RuntimeEvent) :
    (b.enqueueLocal event).2 = b.countDropped ∨
    ∃ queue, b.queue = some queue ∧ (b.maxsize = 0 ∨ queue.length < b.maxsize) ∧
      (b.enqueueLocal event).2 =
        { b with
          queue := some (queue ++ [event])
          metrics := { b.metrics with published := b.metrics.published + 1 }
          accepted := b.accepted ++ [event] } := by
  rw [enqueueLocal]
  cases hqueue : b.queue with
  | none => exact .inl rfl
  | some queue =>
    dsimp only
    by_cases hfull : b.maxsize ≠ 0 ∧ b.maxsize ≤ queue.length
    · rw [if_pos hfull]
      exact .inl rfl
    · rw [if_neg hfull]
      exact .inr ⟨queue, rfl, by omega, rfl⟩

/-- An event is taken from an idle dispatcher's queue, and each subscription that matches is
    going to be called. -/
theorem take_cases {order : List Nat} (h : b.take order = some b') :
    ∃ event rest, b.dispatcher = .idle ∧ b.queue = some (event :: rest) ∧ order.Nodup ∧
      (∀ i, i ∈ order ↔ i ∈ b.registry.matching event.eventType) ∧
      b' = if order = [] then
        { b with
          queue := some rest, taken := b.taken ++ [⟨event, b.registry.subscriptions, order⟩]
          metrics := { b.metrics with dispatched := b.metrics.dispatched + 1 }
          finished := b.finished ++ [b.taken.length] }
      else
        { b with
          queue := some rest, taken := b.taken ++ [⟨event, b.registry.subscriptions, order⟩]
          dispatcher := .fanning b.taken.length
          waiting := b.waiting ++ order.map fun sub => Call.mk sub event b.taken.length } := by
  unfold take at h
  split at h
  · next event rest hdispatcher hqueued =>
    obtain ⟨⟨hnodup, hmatching⟩, heq⟩ := Option.ite_none_right_eq_some.mp h
    -- an event to take means that there is a queue
    have hqueue : b.queue = some (event :: rest) := by
      rw [queued] at hqueued
      cases hq : b.queue with
      | none =>
        rw [hq] at hqueued
        cases hqueued
      | some queue =>
        rw [hq] at hqueued
        exact congrArg some hqueued
    refine ⟨event, rest, hdispatcher, hqueue, hnodup, fun i => ?_, ?_⟩
    · rw [← hmatching, List.mem_toFinset]
    · dsimp only at heq
      split at heq
      · next hnil => rw [if_pos hnil, ← Option.some.inj heq]
      · next hnil =>
        rw [if_neg hnil, ← Option.some.inj heq]
        rfl
  · cases h

/-- A fan-out is over when none of its calls waits or goes on. -/
theorem complete_cases (h : b.complete = some b') :
    ∃ batch, b.dispatcher = .fanning batch ∧
      (∀ call ∈ b.waiting ++ b.active, call.batch ≠ batch) ∧
      b' = { b with
        dispatcher := .idle
        metrics := { b.metrics with dispatched := b.metrics.dispatched + 1 }
        finished := b.finished ++ [batch] } := by
  unfold complete at h
  split at h
  · next batch hfanning =>
    obtain ⟨hover, heq⟩ := Option.ite_none_right_eq_some.mp h
    exact ⟨batch, hfanning, hover, (Option.some.inj heq).symm⟩
  · cases h

end EventBus

end AsyncViz.Runtime.Events
