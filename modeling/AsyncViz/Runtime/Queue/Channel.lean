/-
  AsyncViz.Runtime.Queue.Channel

  `QueuedEvent` (`runtime/queue/buffering.py`), the overflow strategies
  (`backpressure.py`), the bounded `EventChannel` over `asyncio.Queue`
  (`channels.py`) and the `RetentionBuffer` of dispatched events
  (`retention.py`).

  The positive capacity that both constructors insist on, and the bound on the
  depth, are fields of `EventChannel`.
-/

import AsyncViz.Lib.AsyncioQueue
import AsyncViz.Lib.BoundedRing
import AsyncViz.Runtime.Events

namespace AsyncViz.Runtime.Queue

open AsyncViz.Lib

/-- An event with the sequence that `publish` allocated for it. -/
structure QueuedEvent where
  sequence : Int
  event : RuntimeEvent

/-- `OverflowStrategy`. -/
inductive OverflowStrategy where
  | dropOldest
  | dropNewest
  | failFast
deriving DecidableEq, Repr

/-! ## The channel -/

/-- `EventChannel`: a bounded `asyncio.Queue` of queued events. -/
structure EventChannel where
  capacity : Nat
  capacity_pos : 0 < capacity
  queue : AsyncioQueue QueuedEvent
  maxsize_eq : queue.maxsize = capacity
  depth_le : queue.items.length ≤ capacity

namespace EventChannel

/-- `EventChannel(capacity)`. -/
def new (capacity : Nat) (h : 0 < capacity) : EventChannel :=
  ⟨capacity, h, .new capacity, rfl, Nat.zero_le _⟩

/-- The queued items, head first. -/
def items (c : EventChannel) : List QueuedEvent := c.queue.items

/-- `channel.qsize()`. -/
def qsize (c : EventChannel) : Nat := c.queue.qsize

theorem maxsize_pos (c : EventChannel) : 0 < c.queue.maxsize := c.maxsize_eq ▸ c.capacity_pos

/-- `channel.offer(item)`: whether the put succeeded, and the channel after it. -/
def offer (c : EventChannel) (item : QueuedEvent) : Bool × EventChannel :=
  match h : c.queue.putNowait item with
  | none => (false, c)
  | some q => (true,
      { c with
        queue := q
        maxsize_eq := by
          rw [(AsyncioQueue.putNowait_eq_some h).2]
          exact c.maxsize_eq
        depth_le := by
          have hput := AsyncioQueue.putNowait_eq_some h
          have hroom : ¬ c.queue.maxsize ≤ c.queue.items.length := fun hle => by
            have hfull := (AsyncioQueue.full_iff c.maxsize_pos).mpr hle
            rw [hput.1] at hfull
            cases hfull
          have hlen : q.items.length = c.queue.items.length + 1 := by simp [hput.2]
          have hmax := c.maxsize_eq
          omega })

/-- `channel.take_nowait()`: the popped head, if any. -/
def takeNowait (c : EventChannel) : Option QueuedEvent × EventChannel :=
  match h : c.queue.getNowait with
  | none => (none, c)
  | some (item, q) => (some item,
      { c with
        queue := q
        maxsize_eq := (AsyncioQueue.getNowait_eq_some h).2.1.trans c.maxsize_eq
        depth_le := by
          have hget := (AsyncioQueue.getNowait_eq_some h).1
          have hdepth := c.depth_le
          rw [hget, List.length_cons] at hdepth
          omega })

/-- `channel.task_done()`; `none` is the `ValueError` of the underlying queue. -/
def taskDone (c : EventChannel) : Option EventChannel :=
  match h : c.queue.taskDone with
  | none => none
  | some q => some
      { c with
        queue := q
        maxsize_eq := by
          rw [(AsyncioQueue.taskDone_eq_some h).2.2.1]
          exact c.maxsize_eq
        depth_le := by
          rw [(AsyncioQueue.taskDone_eq_some h).2.1]
          exact c.depth_le }

/-- `channel.wait_drained()` up to its suspension. -/
def waitDrained (c : EventChannel) : Bool × EventChannel :=
  let joined := c.queue.join
  (joined.1,
    { c with
      queue := joined.2
      maxsize_eq := by
        show c.queue.join.2.maxsize = c.capacity
        rw [AsyncioQueue.join]
        split
        · split <;> exact c.maxsize_eq
        · exact c.maxsize_eq
      depth_le := by
        show c.queue.join.2.items.length ≤ c.capacity
        rw [AsyncioQueue.join]
        split
        · split <;> exact c.depth_le
        · exact c.depth_le })

/-! ### What the channel operations do -/

theorem offer_of_room {c : EventChannel} (item : QueuedEvent) (h : c.items.length < c.capacity) :
    (c.offer item).1 = true ∧ (c.offer item).2.items = c.items ++ [item] ∧
      (c.offer item).2.capacity = c.capacity ∧
      (c.offer item).2.queue.unfinishedTasks = c.queue.unfinishedTasks + 1 ∧
      (c.offer item).2.queue.finished = false ∧
      (c.offer item).2.queue.joinWaiters = c.queue.joinWaiters := by
  have hmax := c.maxsize_eq
  have hroom : c.queue.full ≠ true := fun hfull => by
    have hle := (AsyncioQueue.full_iff c.maxsize_pos).mp hfull
    have hlen : c.queue.items.length < c.capacity := h
    omega
  rw [offer]
  split
  -- with room the put cannot fail
  · next hput => exact absurd (AsyncioQueue.putNowait_eq_none_iff.mp hput) hroom
  · next q hput =>
    obtain ⟨-, rfl⟩ := AsyncioQueue.putNowait_eq_some hput
    exact ⟨rfl, rfl, rfl, rfl, rfl, rfl⟩

theorem offer_of_full {c : EventChannel} (item : QueuedEvent) (h : c.items.length = c.capacity) :
    c.offer item = (false, c) := by
  have hfull : c.queue.full = true := by
    refine (AsyncioQueue.full_iff c.maxsize_pos).mpr ?_
    have hlen : c.queue.items.length = c.capacity := h
    rw [c.maxsize_eq, hlen]
  rw [offer]
  split
  · rfl
  · next q hput =>
    rw [(AsyncioQueue.putNowait_eq_some hput).1] at hfull
    cases hfull

theorem takeNowait_of_nil {c : EventChannel} (h : c.items = []) : c.takeNowait = (none, c) := by
  rw [takeNowait]
  split
  · rfl
  · next item q hget =>
    have hitems : c.queue.items = [] := h
    rw [(AsyncioQueue.getNowait_eq_some hget).1] at hitems
    cases hitems

theorem takeNowait_of_cons {c : EventChannel} {item : QueuedEvent} {rest : List QueuedEvent}
    (h : c.items = item :: rest) :
    c.takeNowait.1 = some item ∧ c.takeNowait.2.items = rest ∧
      c.takeNowait.2.capacity = c.capacity ∧
      c.takeNowait.2.queue.unfinishedTasks = c.queue.unfinishedTasks ∧
      c.takeNowait.2.queue.finished = c.queue.finished ∧
      c.takeNowait.2.queue.joinWaiters = c.queue.joinWaiters := by
  have hitems : c.queue.items = item :: rest := h
  rw [takeNowait]
  split
  · next hget =>
    rw [AsyncioQueue.getNowait_eq_none_iff.mp hget] at hitems
    cases hitems
  · next item' q hget =>
    obtain ⟨hcons, -, hcount, hfinished, hwaiters⟩ := AsyncioQueue.getNowait_eq_some hget
    rw [hitems] at hcons
    obtain ⟨rfl, hrest⟩ := List.cons.inj hcons
    exact ⟨rfl, hrest.symm, rfl, hcount, hfinished, hwaiters⟩

/-- A take that got an item got the head of the channel. -/
theorem takeNowait_eq_some {c c' : EventChannel} {item : QueuedEvent}
    (h : c.takeNowait = (some item, c')) :
    c.items = item :: c'.items ∧ c'.queue.unfinishedTasks = c.queue.unfinishedTasks ∧
      c'.queue.finished = c.queue.finished ∧ c'.queue.joinWaiters = c.queue.joinWaiters := by
  cases hitems : c.items with
  | nil =>
    rw [takeNowait_of_nil hitems] at h
    cases h
  | cons head rest =>
    obtain ⟨hhead, hrest, -, hunfinished, hfinished, hwaiters⟩ := takeNowait_of_cons hitems
    rw [h] at hhead hrest hunfinished hfinished hwaiters
    obtain rfl := Option.some.inj hhead
    rw [show c'.items = rest from hrest]
    exact ⟨rfl, hunfinished, hfinished, hwaiters⟩

theorem taskDone_eq_none_iff {c : EventChannel} :
    c.taskDone = none ↔ c.queue.unfinishedTasks = 0 := by
  rw [← AsyncioQueue.taskDone_eq_none_iff]
  rw [taskDone]
  split
  · next h => simp [h]
  · next q h => simp [h]

theorem taskDone_eq_some {c c' : EventChannel} (h : c.taskDone = some c') :
    c.queue.unfinishedTasks = c'.queue.unfinishedTasks + 1 ∧ c'.items = c.items ∧
      c'.capacity = c.capacity ∧
      c'.queue.finished = (if c'.queue.unfinishedTasks = 0 then true else c.queue.finished) ∧
      c'.queue.joinWaiters =
        (if c'.queue.unfinishedTasks = 0 then 0 else c.queue.joinWaiters) := by
  rw [taskDone] at h
  split at h
  · cases h
  · next q hq =>
    obtain rfl := Option.some.inj h
    obtain ⟨hcount, hitems, -, hfinished, hwaiters⟩ := AsyncioQueue.taskDone_eq_some hq
    exact ⟨hcount, hitems, rfl, hfinished, hwaiters⟩

end EventChannel

/-! ## Retention -/

/-- `RetentionBuffer`: the ring of dispatched events kept for replay.  A capacity
    of zero disables it. -/
structure RetentionBuffer where
  ring : BoundedRing QueuedEvent
  oldestEvictedSequence : Option Int

namespace RetentionBuffer

/-- `RetentionBuffer(capacity)`. -/
def new (capacity : Nat) : RetentionBuffer := ⟨.empty capacity, none⟩

/-- The retained items, oldest first. -/
def items (r : RetentionBuffer) : List QueuedEvent := r.ring.items

/-- `retention.append(item)`. -/
def append (r : RetentionBuffer) (item : QueuedEvent) : RetentionBuffer :=
  -- retention is switched off
  if r.ring.capacity = 0 then r
  else
    { ring := r.ring.push item
      oldestEvictedSequence :=
        match r.ring.items with
        | oldest :: _ =>
            if r.ring.Full then some oldest.sequence else r.oldestEvictedSequence
        | [] => r.oldestEvictedSequence }

/-- An append never disturbs the order of the retained items. -/
theorem append_items_sublist (r : RetentionBuffer) (item : QueuedEvent) :
    (r.append item).items.Sublist (r.items ++ [item]) := by
  rw [append, items]
  by_cases h : r.ring.capacity = 0
  · rw [if_pos h]
    exact List.sublist_append_left _ _
  · rw [if_neg h]
    exact (BoundedRing.push_items_suffix r.ring item).sublist

end RetentionBuffer

end AsyncViz.Runtime.Queue
