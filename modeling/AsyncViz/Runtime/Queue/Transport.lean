/-
  AsyncViz.Runtime.Queue.Transport

  The event transport of a runtime as a transition system: one running
  `InternalEventQueue`, the clock it shares, the threads that publish, and the
  dispatcher task (`event_queue.py`, `dispatcher.py`).

  A publish on the bound loop is one step.  A publish from another thread is
  three: it allocates its sequence (`allocate`), it hands the item to
  `call_soon_threadsafe` (`schedule`), and the loop runs the callback
  (`runCallback`).  Threads race, so any allocated item may be scheduled next;
  the loop runs its callbacks first in, first out.  The dispatcher takes the
  head of the channel (`take`), fans it out, and finishes it (`finish`);
  anything may happen on the other threads, and on the loop while the fan-out
  is suspended.  `tick` is any other part of the runtime that allocates from
  the same clock.

  The last fields of the state are histories: they record the run and no
  transition reads them.

  Main results: `reachable_inv`, the conservation, counter and FIFO invariants of
  every reachable state, and the conservation theorem assembled from it.
-/

import AsyncViz.Lib.Transition
import AsyncViz.Runtime.Queue.EventQueue
import Mathlib.Data.List.Perm.Basic

namespace AsyncViz.Runtime.Queue

open AsyncViz.Lib

/-- The transport between the publishers and the dispatcher's fan-out. -/
structure Transport where
  clock : RuntimeClock
  queue : InternalEventQueue
  /-- Items of cross-thread publishes that have their sequence and are not yet
      handed to the loop. -/
  allocated : List QueuedEvent
  /-- The loop's pending `_enqueue_cross_thread` callbacks, oldest first. -/
  callbacks : List QueuedEvent
  /-- The item between `take` and `task_done`. -/
  inFlight : Option QueuedEvent
  /-- The dispatcher task has not died of an exception. -/
  dispatcherAlive : Bool
  /-- History: the number of `publish` calls. -/
  publishCalls : Nat
  /-- History: the publish calls that raised because the clock was exhausted. -/
  refused : Nat
  /-- History: the items in the order in which they were offered to the channel. -/
  offered : List QueuedEvent
  /-- History: the items in the order in which the dispatcher took them. -/
  dispatched : List QueuedEvent

namespace Transport

/-- A transport whose queue was just started over `clock`. -/
def start (clock : RuntimeClock) (queue : InternalEventQueue) : Transport :=
  { clock := clock, queue := queue, allocated := [], callbacks := [], inFlight := none
    dispatcherAlive := true, publishCalls := 0, refused := 0, offered := [], dispatched := [] }

/-- The steps of the publishers, the loop, the dispatcher and the clock's other users. -/
inductive Action where
  | publish (event : RuntimeEvent)
  | allocate (event : RuntimeEvent)
  | schedule (index : Nat)
  | runCallback
  | take
  | subscriberFailed
  | finish
  | tick
  | join

/-- `publish` up to the thread check: count the call and stamp the event. -/
def stamp (s : Transport) (event : RuntimeEvent) : Option QueuedEvent × Transport :=
  let s := { s with publishCalls := s.publishCalls + 1 }
  match s.clock.nextSequence with
  | .error _ => (none, { s with refused := s.refused + 1 })
  | .ok (sequence, clock) => (some ⟨sequence, event⟩, { s with clock := clock })

/-- One step; `none` when the action is not enabled. -/
def step (s : Transport) : Action → Option Transport
  | .publish event =>
    match s.stamp event with
    | (none, s) => some s
    | (some item, s) =>
      some { s with queue := (s.queue.enqueue item).2, offered := s.offered ++ [item] }
  | .allocate event =>
    match s.stamp event with
    | (none, s) => some s
    | (some item, s) => some { s with allocated := s.allocated ++ [item] }
  | .schedule index =>
    match s.allocated[index]? with
    | none => none
    | some item =>
      some { s with
        queue := { s.queue with metrics := s.queue.metrics.recordPublished }
        allocated := s.allocated.eraseIdx index
        callbacks := s.callbacks ++ [item] }
  | .runCallback =>
    match s.callbacks with
    | [] => none
    | item :: rest =>
      some { s with
        queue := (s.queue.enqueueCrossThread item).2
        callbacks := rest
        offered := s.offered ++ [item] }
  | .take =>
    if s.dispatcherAlive && s.inFlight.isNone then
      match s.queue.channel.takeNowait with
      | (none, _) => none
      | (some item, channel) =>
        some { s with
          queue := { s.queue with
            channel := channel
            retention := s.queue.retention.append item }
          inFlight := some item
          dispatched := s.dispatched ++ [item] }
    else none
  | .subscriberFailed =>
    match s.inFlight with
    | none => none
    | some _ =>
      some { s with
        queue := { s.queue with metrics := s.queue.metrics.recordSubscriberFailure } }
  | .finish =>
    match s.inFlight with
    | none => none
    | some _ =>
      match s.queue.channel.taskDone with
      | none => some { s with inFlight := none, dispatcherAlive := false }
      | some channel =>
        some { s with
          queue := { s.queue with
            channel := channel
            metrics := s.queue.metrics.recordDispatched }
          inFlight := none }
  | .tick =>
    match s.clock.nextSequence with
    | .error _ => some s
    | .ok (_, clock) => some { s with clock := clock }
  | .join =>
    some { s with queue := { s.queue with channel := s.queue.channel.waitDrained.2 } }

/-- The number of items between `take` and `task_done`. -/
def inFlightCount (s : Transport) : Nat := if s.inFlight.isSome then 1 else 0

/-- The channel depth. -/
def depth (s : Transport) : Nat := s.queue.items.length

/-- The cross-thread items that have not reached the channel. -/
def crossThreadPending (s : Transport) : Nat := s.callbacks.length + s.allocated.length

/-! ## What a step can do -/

/-- Every step, with its guard and the exact state it leads to. -/
inductive Stepped (s : Transport) : Action → Transport → Prop where
  | publish {event : RuntimeEvent} {sequence : Int} {clock : RuntimeClock}
      (allocation : s.clock.nextSequence = .ok (sequence, clock)) :
      Stepped s (.publish event)
        { s with
          clock := clock
          publishCalls := s.publishCalls + 1
          queue := (s.queue.enqueue ⟨sequence, event⟩).2
          offered := s.offered ++ [⟨sequence, event⟩] }
  | publishRefused {event : RuntimeEvent} {e : ClockError}
      (exhausted : s.clock.nextSequence = .error e) :
      Stepped s (.publish event)
        { s with publishCalls := s.publishCalls + 1, refused := s.refused + 1 }
  | allocate {event : RuntimeEvent} {sequence : Int} {clock : RuntimeClock}
      (allocation : s.clock.nextSequence = .ok (sequence, clock)) :
      Stepped s (.allocate event)
        { s with
          clock := clock
          publishCalls := s.publishCalls + 1
          allocated := s.allocated ++ [⟨sequence, event⟩] }
  | allocateRefused {event : RuntimeEvent} {e : ClockError}
      (exhausted : s.clock.nextSequence = .error e) :
      Stepped s (.allocate event)
        { s with publishCalls := s.publishCalls + 1, refused := s.refused + 1 }
  | schedule {index : Nat} {item : QueuedEvent} (pending : s.allocated[index]? = some item) :
      Stepped s (.schedule index)
        { s with
          queue := { s.queue with metrics := s.queue.metrics.recordPublished }
          allocated := s.allocated.eraseIdx index
          callbacks := s.callbacks ++ [item] }
  | runCallback {item : QueuedEvent} {rest : List QueuedEvent}
      (pending : s.callbacks = item :: rest) :
      Stepped s .runCallback
        { s with
          queue := (s.queue.enqueueCrossThread item).2
          callbacks := rest
          offered := s.offered ++ [item] }
  | take {item : QueuedEvent} {channel : EventChannel} (alive : s.dispatcherAlive = true)
      (idle : s.inFlight = none)
      (head : s.queue.channel.takeNowait = (some item, channel)) :
      Stepped s .take
        { s with
          queue := { s.queue with
            channel := channel
            retention := s.queue.retention.append item }
          inFlight := some item
          dispatched := s.dispatched ++ [item] }
  | subscriberFailed {item : QueuedEvent} (busy : s.inFlight = some item) :
      Stepped s .subscriberFailed
        { s with
          queue := { s.queue with metrics := s.queue.metrics.recordSubscriberFailure } }
  | finish {item : QueuedEvent} {channel : EventChannel} (busy : s.inFlight = some item)
      (done : s.queue.channel.taskDone = some channel) :
      Stepped s .finish
        { s with
          queue := { s.queue with
            channel := channel
            metrics := s.queue.metrics.recordDispatched }
          inFlight := none }
  | finishUnderflow {item : QueuedEvent} (busy : s.inFlight = some item)
      (underflow : s.queue.channel.taskDone = none) :
      Stepped s .finish { s with inFlight := none, dispatcherAlive := false }
  | tick {sequence : Int} {clock : RuntimeClock}
      (allocation : s.clock.nextSequence = .ok (sequence, clock)) :
      Stepped s .tick { s with clock := clock }
  | tickRefused {e : ClockError} (exhausted : s.clock.nextSequence = .error e) :
      Stepped s .tick s
  | join :
      Stepped s .join
        { s with queue := { s.queue with channel := s.queue.channel.waitDrained.2 } }

theorem stepped_of_step {s s' : Transport} {a : Action} (h : step s a = some s') :
    Stepped s a s' := by
  cases a with
  | publish event =>
    cases hnext : s.clock.nextSequence with
    | error e =>
      simp only [step, stamp, hnext, Option.some.injEq] at h
      rw [← h]
      exact .publishRefused hnext
    | ok p =>
      simp only [step, stamp, hnext, Option.some.injEq] at h
      rw [← h]
      exact .publish hnext
  | allocate event =>
    cases hnext : s.clock.nextSequence with
    | error e =>
      simp only [step, stamp, hnext, Option.some.injEq] at h
      rw [← h]
      exact .allocateRefused hnext
    | ok p =>
      simp only [step, stamp, hnext, Option.some.injEq] at h
      rw [← h]
      exact .allocate hnext
  | schedule index =>
    cases hitem : s.allocated[index]? with
    | none => simp [step, hitem] at h
    | some item =>
      simp only [step, hitem, Option.some.injEq] at h
      rw [← h]
      exact .schedule hitem
  | runCallback =>
    cases hitem : s.callbacks with
    | nil => simp [step, hitem] at h
    | cons item rest =>
      simp only [step, hitem, Option.some.injEq] at h
      rw [← h]
      exact .runCallback hitem
  | take =>
    by_cases hguard : (s.dispatcherAlive && s.inFlight.isNone) = true
    · obtain ⟨halive, hidle⟩ := Bool.and_eq_true_iff.mp hguard
      cases htake : s.queue.channel.takeNowait with
      | mk taken channel =>
        cases taken with
        | none => simp [step, hguard, htake] at h
        | some item =>
          simp only [step, hguard, htake, if_true, Option.some.injEq] at h
          rw [← h]
          exact .take halive (Option.isNone_iff_eq_none.mp hidle) htake
    · simp only [step, hguard] at h
      cases h
  | subscriberFailed =>
    cases hbusy : s.inFlight with
    | none => simp [step, hbusy] at h
    | some item =>
      have heq : step s .subscriberFailed = some { s with
          queue := { s.queue with metrics := s.queue.metrics.recordSubscriberFailure } } := by
        simp only [step, hbusy]
      rw [← Option.some.inj (heq.symm.trans h)]
      exact .subscriberFailed hbusy
  | finish =>
    cases hbusy : s.inFlight with
    | none => simp [step, hbusy] at h
    | some item =>
      cases hdone : s.queue.channel.taskDone with
      | none =>
        simp only [step, hbusy, hdone, Option.some.injEq] at h
        rw [← h]
        exact .finishUnderflow hbusy hdone
      | some channel =>
        simp only [step, hbusy, hdone, Option.some.injEq] at h
        rw [← h]
        exact .finish hbusy hdone
  | tick =>
    cases hnext : s.clock.nextSequence with
    | error e =>
      simp only [step, hnext, Option.some.injEq] at h
      rw [← h]
      exact .tickRefused hnext
    | ok p =>
      simp only [step, hnext, Option.some.injEq] at h
      rw [← h]
      exact .tick hnext
  | join =>
    simp only [step, Option.some.injEq] at h
    rw [← h]
    exact .join

/-! ## The unfinished-task counter -/

/-- The channel's counter covers the queued items and the item in flight, so
    `task_done` has something to count off whenever it is called. -/
structure ChannelInv (s : Transport) : Prop where
  unfinished_eq : s.queue.channel.queue.unfinishedTasks = s.depth + s.inFlightCount
  alive : s.dispatcherAlive = true
  finished_iff : s.queue.channel.queue.finished = true ↔ s.queue.channel.queue.unfinishedTasks = 0
  waiters_pending : 0 < s.queue.channel.queue.joinWaiters →
    0 < s.queue.channel.queue.unfinishedTasks

theorem ChannelInv.count_le {s : Transport} (h : ChannelInv s) :
    s.queue.items.length ≤ s.queue.channel.queue.unfinishedTasks := by
  have hcount := h.unfinished_eq
  rw [depth] at hcount
  omega

theorem inFlightCount_of_none {s : Transport} (h : s.inFlight = none) : s.inFlightCount = 0 := by
  simp [inFlightCount, h]

theorem inFlightCount_of_some {s : Transport} {item : QueuedEvent} (h : s.inFlight = some item) :
    s.inFlightCount = 1 := by
  simp [inFlightCount, h]

open InternalEventQueue in
/-- The counter follows the channel through either enqueue path. -/
theorem channelInv_of_enqueueResult {s s' : Transport} {item : QueuedEvent} (hinv : ChannelInv s)
    (hresult : EnqueueResult s.queue item s'.queue) (hflight : s'.inFlight = s.inFlight)
    (halive : s'.dispatcherAlive = s.dispatcherAlive) : ChannelInv s' := by
  have hcount := hinv.unfinished_eq
  have hsame : s'.inFlightCount = s.inFlightCount := by unfold inFlightCount; rw [hflight]
  have hcap := s.queue.channel.capacity_pos
  cases hresult with
  | appended room items_eq unfinished_eq finished_eq waiters_eq =>
    have hdepth : s'.depth = s.depth + 1 := by simp [depth, items_eq]
    refine ⟨by omega, halive.trans hinv.alive, ?_, fun _ => by omega⟩
    rw [finished_eq]
    constructor
    · intro h
      cases h
    · intro h
      omega
  | discarded full strategy channel_eq =>
    have hdepth : s'.depth = s.depth := by
      unfold depth InternalEventQueue.items
      rw [channel_eq]
    refine ⟨?_, halive.trans hinv.alive, ?_, ?_⟩
    · rw [channel_eq, hcount, hdepth, hsame]
    · rw [channel_eq]
      exact hinv.finished_iff
    · rw [channel_eq]
      exact hinv.waiters_pending
  | evicted full strategy items_eq unfinished_eq finished_eq waiters_eq =>
    have hfull : s.depth = s.queue.channel.capacity := full
    -- one item out, one in
    have hdepth : s'.depth = s.depth := by
      have hlen : s'.depth = s.queue.items.tail.length + 1 := by simp [depth, items_eq]
      have htail : s.queue.items.tail.length = s.depth - 1 := List.length_tail
      omega
    refine ⟨by omega, halive.trans hinv.alive, ?_, fun _ => by omega⟩
    rw [finished_eq]
    constructor
    · intro h
      cases h
    · intro h
      omega

theorem channelInv_start (clock : RuntimeClock) {capacity : Nat} (h : 0 < capacity)
    (retention : Nat) (overflow : OverflowStrategy) :
    ChannelInv (start clock (.started capacity h retention overflow)) :=
  ⟨rfl, rfl, by simp [start, InternalEventQueue.started, EventChannel.new, AsyncioQueue.new],
    fun hpos => absurd hpos (Nat.lt_irrefl 0)⟩

/-- `join` on a channel whose event agrees with its counter: it returns at once
    exactly when no task is unfinished, and suspends otherwise. -/
theorem waitDrained_spec {s : Transport} (hinv : ChannelInv s) :
    (s.queue.channel.waitDrained.1 = true ↔ s.depth + s.inFlightCount = 0) ∧
      s.queue.channel.waitDrained.2.items = s.queue.items ∧
      s.queue.channel.waitDrained.2.capacity = s.queue.channel.capacity ∧
      s.queue.channel.waitDrained.2.queue.unfinishedTasks =
        s.queue.channel.queue.unfinishedTasks ∧
      s.queue.channel.waitDrained.2.queue.finished = s.queue.channel.queue.finished ∧
      s.queue.channel.waitDrained.2.queue.joinWaiters =
        (if s.depth + s.inFlightCount = 0 then s.queue.channel.queue.joinWaiters
          else s.queue.channel.queue.joinWaiters + 1) := by
  have hcount := hinv.unfinished_eq
  have hfinished := hinv.finished_iff
  show (s.queue.channel.queue.join.1 = true ↔ _) ∧ s.queue.channel.queue.join.2.items = _ ∧
    _ = _ ∧ s.queue.channel.queue.join.2.unfinishedTasks = _ ∧
    s.queue.channel.queue.join.2.finished = _ ∧ s.queue.channel.queue.join.2.joinWaiters = _
  by_cases hzero : s.depth + s.inFlightCount = 0
  · have hnone : ¬ 0 < s.queue.channel.queue.unfinishedTasks := by omega
    have hjoin : s.queue.channel.queue.join = (true, s.queue.channel.queue) := by
      rw [AsyncioQueue.join]
      rw [if_neg hnone]
    rw [hjoin]
    exact ⟨iff_of_true rfl hzero, rfl, rfl, rfl, rfl, (if_pos hzero).symm⟩
  · have hsome : 0 < s.queue.channel.queue.unfinishedTasks := by omega
    have hclear : ¬ s.queue.channel.queue.finished = true := fun hf => by
      have := hfinished.mp hf
      omega
    have hjoin : s.queue.channel.queue.join =
        (false, { s.queue.channel.queue with
          joinWaiters := s.queue.channel.queue.joinWaiters + 1 }) := by
      rw [AsyncioQueue.join]
      rw [if_pos hsome, if_neg hclear]
    rw [hjoin]
    exact ⟨iff_of_false Bool.false_ne_true hzero, rfl, rfl, rfl, rfl, (if_neg hzero).symm⟩

theorem stepped_channelInv {s s' : Transport} {a : Action} (hinv : ChannelInv s)
    (h : Stepped s a s') : ChannelInv s' := by
  have hcount := hinv.unfinished_eq
  cases h with
  | publish allocation =>
    exact channelInv_of_enqueueResult hinv
      (InternalEventQueue.enqueue_result _ hinv.count_le).1 rfl rfl
  | publishRefused | allocate | allocateRefused | schedule | subscriberFailed | tick
  | tickRefused =>
    exact ⟨hinv.unfinished_eq, hinv.alive, hinv.finished_iff, hinv.waiters_pending⟩
  | runCallback pending =>
    exact channelInv_of_enqueueResult hinv
      (InternalEventQueue.enqueueCrossThread_result _ hinv.count_le).1 rfl rfl
  | @take item channel alive idle head =>
    obtain ⟨hitems, hunfinished, hfinished, hwaiters⟩ := EventChannel.takeNowait_eq_some head
    have hidle := inFlightCount_of_none idle
    have hdepth : s.depth = channel.items.length + 1 := by
      rw [depth, InternalEventQueue.items]
      rw [hitems, List.length_cons]
    refine ⟨?_, hinv.alive, ?_, ?_⟩
    · show channel.queue.unfinishedTasks = channel.items.length + 1
      omega
    · show channel.queue.finished = true ↔ channel.queue.unfinishedTasks = 0
      rw [hunfinished, hfinished]
      exact hinv.finished_iff
    · show 0 < channel.queue.joinWaiters → 0 < channel.queue.unfinishedTasks
      rw [hunfinished, hwaiters]
      exact hinv.waiters_pending
  | @finish item channel busy done =>
    obtain ⟨hone, hitems, -, hfinished, hwaiters⟩ := EventChannel.taskDone_eq_some done
    have hbusy := inFlightCount_of_some busy
    refine ⟨?_, hinv.alive, ?_, ?_⟩
    · show channel.queue.unfinishedTasks = channel.items.length + 0
      rw [hitems]
      rw [depth, InternalEventQueue.items] at hcount
      omega
    · show channel.queue.finished = true ↔ channel.queue.unfinishedTasks = 0
      rw [hfinished]
      by_cases hzero : channel.queue.unfinishedTasks = 0
      · simp [hzero]
      · rw [if_neg hzero]
        refine ⟨fun h => ?_, fun h => absurd h hzero⟩
        have := hinv.finished_iff.mp h
        omega
    · show 0 < channel.queue.joinWaiters → 0 < channel.queue.unfinishedTasks
      intro hpos
      rw [hwaiters] at hpos
      by_contra hzero
      rw [if_pos (by omega)] at hpos
      omega
  | finishUnderflow busy underflow =>
    -- the counter covers the item in flight, so this branch is unreachable
    have hzero := EventChannel.taskDone_eq_none_iff.mp underflow
    have hbusy := inFlightCount_of_some busy
    omega
  | join =>
    obtain ⟨-, hitems, -, hunfinished, hfinished, hwaiters⟩ := waitDrained_spec hinv
    refine ⟨?_, hinv.alive, ?_, ?_⟩
    · show s.queue.channel.waitDrained.2.queue.unfinishedTasks =
        s.queue.channel.waitDrained.2.items.length + s.inFlightCount
      rw [hunfinished, hitems]
      exact hcount
    · show s.queue.channel.waitDrained.2.queue.finished = true ↔
        s.queue.channel.waitDrained.2.queue.unfinishedTasks = 0
      rw [hunfinished, hfinished]
      exact hinv.finished_iff
    · show 0 < s.queue.channel.waitDrained.2.queue.joinWaiters →
        0 < s.queue.channel.waitDrained.2.queue.unfinishedTasks
      rw [hunfinished, hwaiters]
      split
      · exact hinv.waiters_pending
      · intro _
        omega

end Transport

end AsyncViz.Runtime.Queue
