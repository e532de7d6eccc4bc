/-
  AsyncViz.Runtime.Queue.EventQueue

  The publish and dispatch counters of `QueueMetrics` (`runtime/queue/metrics.py`)
  and the two enqueue paths of a
  running `InternalEventQueue` (`event_queue.py`): `_enqueue` on the bound loop
  and `_enqueue_cross_thread` behind `call_soon_threadsafe`, each under the
  three overflow strategies.

  The queue is taken while it runs: `start` has installed the channel, `stop`
  has not been called, so the running-guards at the head of the two paths pass.

  Whatever the strategy and the path, an enqueue is one of three things
  (`EnqueueResult`): the item is appended, the item is dropped, or the head is
  evicted to make room.  Everything else about enqueueing is derived from that.
-/

import AsyncViz.Runtime.Clock
import AsyncViz.Runtime.Queue.Channel

namespace AsyncViz.Runtime.Queue

/-! ## Metrics -/

/-- `QueueMetrics`. -/
structure QueueMetrics where
  published : Nat := 0
  dispatched : Nat := 0
  droppedOverflow : Nat := 0
  droppedOldest : Nat := 0
  droppedNewest : Nat := 0
  failFastRejections : Nat := 0
  subscriberFailures : Nat := 0
deriving DecidableEq, Repr

namespace QueueMetrics

def recordPublished (m : QueueMetrics) : QueueMetrics :=
  { m with published := m.published + 1 }

def recordDroppedOldest (m : QueueMetrics) : QueueMetrics :=
  { m with
    droppedOverflow := m.droppedOverflow + 1
    droppedOldest := m.droppedOldest + 1 }

def recordDroppedNewest (m : QueueMetrics) : QueueMetrics :=
  { m with
    droppedOverflow := m.droppedOverflow + 1
    droppedNewest := m.droppedNewest + 1 }

def recordFailFast (m : QueueMetrics) : QueueMetrics :=
  { m with
    droppedOverflow := m.droppedOverflow + 1
    failFastRejections := m.failFastRejections + 1 }

def recordDispatched (m : QueueMetrics) : QueueMetrics :=
  { m with dispatched := m.dispatched + 1 }

def recordSubscriberFailure (m : QueueMetrics) : QueueMetrics :=
  { m with subscriberFailures := m.subscriberFailures + 1 }

end QueueMetrics

/-! ## The queue -/

/-- What a publish can raise. -/
inductive PublishError where
  /-- `ClockSequenceOverflowError`, from `next_sequence`. -/
  | clock (error : ClockError)
  /-- `EventQueueOverflowError`, from the `FAIL_FAST` strategy. -/
  | overflow (qsize capacity : Nat)
  /-- The `ValueError` of a `task_done` called too many times. -/
  | taskDoneUnderflow
deriving DecidableEq, Repr

/-- The text each of them carries. -/
def PublishError.message : PublishError → String
  | .clock e => e.message
  | .overflow qsize capacity => s!"queue is full ({qsize}/{capacity})"
  | .taskDoneUnderflow => "task_done() called too many times"

/-- A running `InternalEventQueue`.  The clock it shares with the rest of the
    runtime is passed to the operations that use it. -/
structure InternalEventQueue where
  overflow : OverflowStrategy
  metrics : QueueMetrics
  retention : RetentionBuffer
  channel : EventChannel

namespace InternalEventQueue

/-- A queue that has just been started. -/
def started (capacity : Nat) (h : 0 < capacity) (retention : Nat) (overflow : OverflowStrategy) :
    InternalEventQueue :=
  ⟨overflow, {}, .new retention, .new capacity h⟩

/-- The items waiting in the channel, head first. -/
def items (q : InternalEventQueue) : List QueuedEvent := q.channel.items

/-- The eviction of `DROP_OLDEST`: pop the head, count the drop, and call
    `task_done` for it.  The error is the one `task_done` raises. -/
def evictHead (q : InternalEventQueue) : Option PublishError × InternalEventQueue :=
  let taken := q.channel.takeNowait
  let popped := { q with channel := taken.2 }
  match taken.1 with
  | none => (none, popped)
  | some _ =>
    let counted := { popped with metrics := popped.metrics.recordDroppedOldest }
    match counted.channel.taskDone with
    | none => (some .taskDoneUnderflow, counted)
    | some channel => (none, { counted with channel := channel })

/-- `InternalEventQueue._enqueue`: the enqueue of a publish on the bound loop. -/
def enqueue (q : InternalEventQueue) (item : QueuedEvent) :
    Except PublishError Bool × InternalEventQueue :=
  let offered := q.channel.offer item
  if offered.1 then
    (.ok true, { q with channel := offered.2, metrics := q.metrics.recordPublished })
  else
    match q.overflow with
    | .failFast =>
      (.error (.overflow q.channel.qsize q.channel.capacity),
        { q with metrics := q.metrics.recordFailFast })
    | .dropNewest => (.ok false, { q with metrics := q.metrics.recordDroppedNewest })
    | .dropOldest =>
      match q.evictHead with
      | (some e, q) => (.error e, q)
      | (none, q) =>
        (.ok true,
          { q with
            channel := (q.channel.offer item).2
            metrics := q.metrics.recordPublished })

/-- `InternalEventQueue._enqueue_cross_thread`: the deferred enqueue.  `publish`
    has counted the item already, and an error stays on the loop. -/
def enqueueCrossThread (q : InternalEventQueue) (item : QueuedEvent) :
    Option PublishError × InternalEventQueue :=
  let offered := q.channel.offer item
  if offered.1 then
    (none, { q with channel := offered.2 })
  else
    match q.overflow with
    | .failFast => (none, { q with metrics := q.metrics.recordFailFast })
    | .dropNewest => (none, { q with metrics := q.metrics.recordDroppedNewest })
    | .dropOldest =>
      match q.evictHead with
      | (some e, q) => (some e, q)
      | (none, q) => (none, { q with channel := (q.channel.offer item).2 })

/-! ## What an enqueue does -/

/-- The three outcomes of an enqueue of `item`, by their effect on the queue. -/
inductive EnqueueResult (q : InternalEventQueue) (item : QueuedEvent) (q' : InternalEventQueue) :
    Prop where
  /-- There was room: the item is the new tail and one more task is unfinished. -/
  | appended
      (room : q.items.length < q.channel.capacity)
      (items_eq : q'.items = q.items ++ [item])
      (unfinished_eq : q'.channel.queue.unfinishedTasks = q.channel.queue.unfinishedTasks + 1)
      (finished_eq : q'.channel.queue.finished = false)
      (waiters_eq : q'.channel.queue.joinWaiters = q.channel.queue.joinWaiters)
      (dropped_eq : q'.metrics.droppedOverflow = q.metrics.droppedOverflow)
  /-- The channel was full and the strategy discards the item. -/
  | discarded
      (full : q.items.length = q.channel.capacity)
      (strategy : q.overflow ≠ .dropOldest)
      (channel_eq : q'.channel = q.channel)
      (dropped_eq : q'.metrics.droppedOverflow = q.metrics.droppedOverflow + 1)
  /-- The channel was full and `DROP_OLDEST` evicted the head for the item. -/
  | evicted
      (full : q.items.length = q.channel.capacity)
      (strategy : q.overflow = .dropOldest)
      (items_eq : q'.items = q.items.tail ++ [item])
      (unfinished_eq : q'.channel.queue.unfinishedTasks = q.channel.queue.unfinishedTasks)
      (finished_eq : q'.channel.queue.finished = false)
      (waiters_eq : q'.channel.queue.joinWaiters =
        if q.channel.queue.unfinishedTasks = 1 then 0 else q.channel.queue.joinWaiters)
      (dropped_eq : q'.metrics.droppedOverflow = q.metrics.droppedOverflow + 1)

/-- What no enqueue touches. -/
structure EnqueueFrame (q q' : InternalEventQueue) : Prop where
  overflow_eq : q'.overflow = q.overflow
  retention_eq : q'.retention = q.retention
  capacity_eq : q'.channel.capacity = q.channel.capacity
  dispatched_eq : q'.metrics.dispatched = q.metrics.dispatched

/-- The eviction from a full channel whose counter covers its items: the head is
    gone, its task is counted off, and the joiners are released exactly if that
    was the last task. -/
theorem evictHead_of_full {q : InternalEventQueue} (hfull : q.items.length = q.channel.capacity)
    (hcount : q.items.length ≤ q.channel.queue.unfinishedTasks) :
    ∃ q₁, q.evictHead = (none, q₁) ∧ q₁.items = q.items.tail ∧ EnqueueFrame q q₁ ∧
      q.channel.queue.unfinishedTasks = q₁.channel.queue.unfinishedTasks + 1 ∧
      q₁.channel.queue.joinWaiters =
        (if q₁.channel.queue.unfinishedTasks = 0 then 0 else q.channel.queue.joinWaiters) ∧
      q₁.metrics = q.metrics.recordDroppedOldest := by
  have hcap := q.channel.capacity_pos
  cases hitems : q.items with
  | nil =>
    rw [hitems, List.length_nil] at hfull
    omega
  | cons head rest =>
    obtain ⟨hhead, hrest, hcap', hcount', -, hwaiters⟩ := EventChannel.takeNowait_of_cons hitems
    -- the counter covers the head, so `task_done` has something to count off
    have hpos : 0 < q.channel.queue.unfinishedTasks := by
      rw [hitems, List.length_cons] at hcount
      omega
    cases hdone : q.channel.takeNowait.2.taskDone with
    | none =>
      have hzero := EventChannel.taskDone_eq_none_iff.mp hdone
      rw [hcount'] at hzero
      omega
    | some c =>
      obtain ⟨hone, hsame, hcap'', -, hreleased⟩ := EventChannel.taskDone_eq_some hdone
      refine ⟨{ q with channel := c, metrics := q.metrics.recordDroppedOldest }, ?_, ?_, ?_, ?_, ?_,
        rfl⟩
      · rw [evictHead]
        simp only [hhead, hdone]
      · show c.items = rest
        rw [hsame, hrest]
      · exact ⟨rfl, rfl, hcap''.trans hcap', rfl⟩
      · show q.channel.queue.unfinishedTasks = c.queue.unfinishedTasks + 1
        rw [← hcount', hone]
      · show c.queue.joinWaiters = _
        rw [hreleased, hwaiters]

/-- With `DROP_OLDEST` on a full channel the retried put finds the room the
    eviction made, on either path. -/
theorem room_after_eviction {q q₁ : InternalEventQueue}
    (hfull : q.items.length = q.channel.capacity) (htail : q₁.items = q.items.tail)
    (hcap : q₁.channel.capacity = q.channel.capacity) :
    q₁.channel.items.length < q₁.channel.capacity := by
  have hpos := q.channel.capacity_pos
  have hlen : q₁.items.length = q.items.length - 1 := by rw [htail, List.length_tail]
  show q₁.items.length < q₁.channel.capacity
  omega

theorem enqueue_result {q : InternalEventQueue} (item : QueuedEvent)
    (hcount : q.items.length ≤ q.channel.queue.unfinishedTasks) :
    EnqueueResult q item (q.enqueue item).2 ∧ EnqueueFrame q (q.enqueue item).2 := by
  have hle : q.items.length ≤ q.channel.capacity := q.channel.depth_le
  by_cases hroom : q.items.length < q.channel.capacity
  · obtain ⟨hput, hitems, hcap, hcount', hfinished, hwaiters⟩ :=
      EventChannel.offer_of_room item hroom
    have heq : q.enqueue item = (.ok true,
        { q with channel := (q.channel.offer item).2, metrics := q.metrics.recordPublished }) := by
      rw [enqueue]
      simp only [hput, if_true]
    rw [heq]
    exact ⟨.appended hroom hitems hcount' hfinished hwaiters rfl, rfl, rfl, hcap, rfl⟩
  · have hfull : q.items.length = q.channel.capacity := by omega
    -- no room: the strategy decides
    have hput : q.channel.offer item = (false, q.channel) := EventChannel.offer_of_full item hfull
    cases hstrategy : q.overflow with
    | failFast =>
      have heq : (q.enqueue item).2 = { q with metrics := q.metrics.recordFailFast } := by
        rw [enqueue]
        simp [hput, hstrategy]
      rw [heq]
      exact ⟨.discarded hfull (by simp [hstrategy]) rfl rfl, rfl, rfl, rfl, rfl⟩
    | dropNewest =>
      have heq : (q.enqueue item).2 = { q with metrics := q.metrics.recordDroppedNewest } := by
        rw [enqueue]
        simp [hput, hstrategy]
      rw [heq]
      exact ⟨.discarded hfull (by simp [hstrategy]) rfl rfl, rfl, rfl, rfl, rfl⟩
    | dropOldest =>
      obtain ⟨q₁, hevict, htail, hframe, hone, hreleased, hmetrics⟩ :=
        evictHead_of_full hfull hcount
      obtain ⟨-, hitems, hcap, hcount', hfinished, hwaiters⟩ :=
        EventChannel.offer_of_room item
          (room_after_eviction hfull htail hframe.capacity_eq)
      have heq : (q.enqueue item).2 =
          { q₁ with
            channel := (q₁.channel.offer item).2
            metrics := q₁.metrics.recordPublished } := by
        rw [enqueue]
        simp [hput, hstrategy, hevict]
      rw [heq]
      refine ⟨.evicted hfull hstrategy ?_ ?_ hfinished ?_ ?_, hframe.overflow_eq,
        hframe.retention_eq, hcap.trans hframe.capacity_eq, hframe.dispatched_eq⟩
      · show (q₁.channel.offer item).2.items = _
        rw [hitems]
        exact congrArg (· ++ [item]) htail
      · show (q₁.channel.offer item).2.queue.unfinishedTasks = _
        omega
      · show (q₁.channel.offer item).2.queue.joinWaiters = _
        rw [hwaiters, hreleased]
        congr 1
        simp only [eq_iff_iff]
        omega
      · show q₁.metrics.droppedOverflow = _
        rw [hmetrics]
        rfl

/-- The cross-thread path is the local one minus the publish counter. -/
theorem enqueueCrossThread_eq (q : InternalEventQueue) (item : QueuedEvent) :
    (q.enqueueCrossThread item).2 =
      { (q.enqueue item).2 with
        metrics := { (q.enqueue item).2.metrics with published := q.metrics.published } } := by
  -- the eviction counts a drop, not a publish
  have hpublished : q.evictHead.2.metrics.published = q.metrics.published := by
    rw [evictHead]
    cases q.channel.takeNowait with
    | mk taken c =>
      cases taken with
      | none => rfl
      | some head =>
        dsimp only
        cases c.taskDone <;> rfl
  rw [enqueueCrossThread, enqueue]
  cases hput : (q.channel.offer item).1 with
  | true => simp [QueueMetrics.recordPublished]
  | false =>
    dsimp only
    cases hstrategy : q.overflow with
    | failFast => simp [QueueMetrics.recordFailFast]
    | dropNewest => simp [QueueMetrics.recordDroppedNewest]
    | dropOldest =>
      cases hevict : q.evictHead with
      | mk error q₁ =>
        rw [hevict] at hpublished
        have hmetrics : ({ q₁.metrics with published := q.metrics.published } : QueueMetrics) =
            q₁.metrics := by
          rw [← hpublished]
        cases error with
        | some e => simp [hmetrics]
        | none => simp [QueueMetrics.recordPublished, hmetrics]

theorem enqueueCrossThread_result {q : InternalEventQueue} (item : QueuedEvent)
    (hcount : q.items.length ≤ q.channel.queue.unfinishedTasks) :
    EnqueueResult q item (q.enqueueCrossThread item).2 ∧
      EnqueueFrame q (q.enqueueCrossThread item).2 := by
  obtain ⟨hresult, hframe⟩ := enqueue_result item hcount
  rw [enqueueCrossThread_eq]
  refine ⟨?_, hframe.overflow_eq, hframe.retention_eq, hframe.capacity_eq, hframe.dispatched_eq⟩
  cases hresult with
  | appended room items_eq unfinished_eq finished_eq waiters_eq dropped_eq =>
    exact .appended room items_eq unfinished_eq finished_eq waiters_eq dropped_eq
  | discarded full strategy channel_eq dropped_eq =>
    exact .discarded full strategy channel_eq dropped_eq
  | evicted full strategy items_eq unfinished_eq finished_eq waiters_eq dropped_eq =>
    exact .evicted full strategy items_eq unfinished_eq finished_eq waiters_eq dropped_eq

/-- Neither path can make `task_done` raise while the counter covers the items. -/
theorem enqueueCrossThread_no_error {q : InternalEventQueue} (item : QueuedEvent)
    (hcount : q.items.length ≤ q.channel.queue.unfinishedTasks) :
    (q.enqueueCrossThread item).1 = none := by
  rw [enqueueCrossThread]
  cases hput : (q.channel.offer item).1 with
  | true => simp
  | false =>
    -- a refused put means a full channel
    have hfull : q.items.length = q.channel.capacity := by
      by_contra hne
      have hle : q.items.length ≤ q.channel.capacity := q.channel.depth_le
      have hroom : q.items.length < q.channel.capacity := by omega
      rw [(EventChannel.offer_of_room item hroom).1] at hput
      cases hput
    obtain ⟨q₁, hevict, -⟩ := evictHead_of_full hfull hcount
    cases hstrategy : q.overflow with
    | failFast => simp
    | dropNewest => simp
    | dropOldest => simp [hevict]

/-- What `publish` returns on the bound loop: `True` when the item got onto the
    channel, `False` or the overflow error when the strategy discarded it. -/
theorem enqueue_returns {q : InternalEventQueue} (item : QueuedEvent)
    (hcount : q.items.length ≤ q.channel.queue.unfinishedTasks) :
    (q.enqueue item).1 =
      if q.items.length < q.channel.capacity ∨ q.overflow = .dropOldest then .ok true
      else if q.overflow = .dropNewest then .ok false
      else .error (.overflow q.channel.qsize q.channel.capacity) := by
  have hle : q.items.length ≤ q.channel.capacity := q.channel.depth_le
  rw [enqueue]
  by_cases hroom : q.items.length < q.channel.capacity
  · have hput := (EventChannel.offer_of_room item hroom).1
    simp [hput, hroom]
  · have hfull : q.items.length = q.channel.capacity := by omega
    have hput : q.channel.offer item = (false, q.channel) := EventChannel.offer_of_full item hfull
    obtain ⟨q₁, hevict, -⟩ := evictHead_of_full hfull hcount
    cases hstrategy : q.overflow with
    | failFast => simp [hput, hroom]
    | dropNewest => simp [hput, hroom]
    | dropOldest => simp [hput, hevict]

namespace EnqueueResult

/-- An enqueue leaves the old items in order, possibly without their head, and
    puts the new one behind them or nowhere. -/
theorem items_sublist {q q' : InternalEventQueue} {item : QueuedEvent}
    (h : EnqueueResult q item q') : q'.items.Sublist (q.items ++ [item]) := by
  cases h with
  | appended _ items_eq => rw [items_eq]
  | discarded _ _ channel_eq =>
    have hitems : q'.items = q.items := congrArg EventChannel.items channel_eq
    rw [hitems]
    exact List.sublist_append_left _ _
  | evicted _ _ items_eq =>
    rw [items_eq]
    exact (List.tail_sublist _).append_right [item]

/-- `DROP_OLDEST` always admits the new item, as the tail of the channel. -/
theorem admitted_of_dropOldest {q q' : InternalEventQueue} {item : QueuedEvent}
    (h : EnqueueResult q item q') (hstrategy : q.overflow = .dropOldest) :
    q'.items.getLast? = some item := by
  cases h with
  | appended _ items_eq => rw [items_eq, List.getLast?_concat]
  | discarded _ strategy => exact absurd hstrategy strategy
  | evicted _ _ items_eq => rw [items_eq, List.getLast?_concat]

end EnqueueResult

end InternalEventQueue

end AsyncViz.Runtime.Queue
