/-
  AsyncViz.Runtime.Queue.Conservation

  What the transport neither loses nor duplicates.

  * `AccountInv`: every publish call is refused by the clock, dispatched,
    counted as a drop, waiting in the channel, in flight, or on its way from
    another thread.
  * `OrderInv`: what the dispatcher took followed by what waits in the channel
    is a subsequence of what was offered, and no two items share a sequence.

  Both are preserved by every step (`stepped_accountInv`, `stepped_orderInv`) and
  so hold in every reachable state.

  `join` returns when the queue's event resumes it.  The `task_done` that
  `DROP_OLDEST` calls for the head it discards can set that event one instruction
  before the new item is put: `Strands` is the state in which an enqueue does so, and
  `conservation_iff` says that nothing else goes wrong.
-/

import AsyncViz.Runtime.Queue.Transport
import Mathlib.Data.List.Nodup

namespace AsyncViz.Runtime.Queue

open AsyncViz.Lib AsyncViz.Lib.Transition

namespace Transport

open InternalEventQueue (EnqueueResult EnqueueFrame)

/-! ## Accounting -/

/-- Every publish call is accounted for, and the clock refuses none before its
    ceiling. -/
structure AccountInv (s : Transport) : Prop where
  publishCalls_eq : s.publishCalls = s.refused + s.queue.metrics.dispatched +
    s.queue.metrics.droppedOverflow + s.depth + s.inFlightCount + s.crossThreadPending
  refused_eq_zero : s.clock.currentSequence < s.clock.sequence.max → s.refused = 0

/-- An enqueue moves one item into the channel or into the drop count. -/
theorem depth_add_dropped_of_enqueueResult {q q' : InternalEventQueue} {item : QueuedEvent}
    (h : EnqueueResult q item q') :
    q'.items.length + q'.metrics.droppedOverflow =
      q.items.length + q.metrics.droppedOverflow + 1 := by
  have hcap := q.channel.capacity_pos
  cases h with
  | appended room items_eq unfinished_eq finished_eq waiters_eq dropped_eq =>
    rw [items_eq, dropped_eq, List.length_append, List.length_singleton]
    omega
  | discarded full strategy channel_eq dropped_eq =>
    have hitems : q'.items = q.items := congrArg EventChannel.items channel_eq
    rw [hitems, dropped_eq]
    omega
  | evicted full strategy items_eq unfinished_eq finished_eq waiters_eq dropped_eq =>
    rw [items_eq, dropped_eq, List.length_append, List.length_singleton, List.length_tail]
    omega

/-- An enqueue, and the item that it takes off the publishers' hands. -/
theorem accountInv_of_enqueue {s s' : Transport} {item : QueuedEvent} (hinv : AccountInv s)
    (hresult : EnqueueResult s.queue item s'.queue) (hframe : EnqueueFrame s.queue s'.queue)
    (hflight : s'.inFlight = s.inFlight) (hrefused : s'.refused = s.refused)
    (hmoved : s'.publishCalls + s.crossThreadPending =
      s.publishCalls + 1 + s'.crossThreadPending)
    (hceiling : s'.clock.currentSequence < s'.clock.sequence.max →
      s.clock.currentSequence < s.clock.sequence.max) : AccountInv s' := by
  have hcalls := hinv.publishCalls_eq
  have hitems := depth_add_dropped_of_enqueueResult hresult
  have hsame : s'.inFlightCount = s.inFlightCount := by rw [inFlightCount, inFlightCount, hflight]
  refine ⟨?_, fun hlt => hrefused.trans (hinv.refused_eq_zero (hceiling hlt))⟩
  rw [depth] at hcalls ⊢
  rw [hrefused, hframe.dispatched_eq, hsame]
  omega

theorem accountInv_publish {s s' : Transport} {event : RuntimeEvent} (hchannel : ChannelInv s)
    (hinv : AccountInv s) (h : Stepped s (.publish event) s') : AccountInv s' := by
  have hmax := s.clock.currentSequence_le_max
  cases h with
  | @publish _ sequence clock allocation =>
    obtain ⟨hseq, hcur, hceil, -⟩ := RuntimeClock.nextSequence_eq_ok allocation
    obtain ⟨hresult, hframe⟩ :=
      InternalEventQueue.enqueue_result ⟨sequence, event⟩ hchannel.count_le
    refine accountInv_of_enqueue hinv hresult hframe rfl rfl rfl fun hlt => ?_
    have hlt' : clock.currentSequence < clock.sequence.max := hlt
    omega
  | publishRefused exhausted =>
    have hcalls := hinv.publishCalls_eq
    have hat := RuntimeClock.nextSequence_isError exhausted
    refine ⟨?_, fun hlt => ?_⟩
    · show s.publishCalls + 1 = (s.refused + 1) + s.queue.metrics.dispatched
        + s.queue.metrics.droppedOverflow + s.depth + s.inFlightCount + s.crossThreadPending
      omega
    · have hlt' : s.clock.currentSequence < s.clock.sequence.max := hlt
      omega

theorem accountInv_allocate {s s' : Transport} {event : RuntimeEvent} (hinv : AccountInv s)
    (h : Stepped s (.allocate event) s') : AccountInv s' := by
  have hcalls := hinv.publishCalls_eq
  have hmax := s.clock.currentSequence_le_max
  rw [crossThreadPending] at hcalls
  cases h with
  | @allocate _ sequence clock allocation =>
    obtain ⟨hseq, hcur, hceil, -⟩ := RuntimeClock.nextSequence_eq_ok allocation
    refine ⟨?_, fun hlt => hinv.refused_eq_zero ?_⟩
    · show s.publishCalls + 1 = s.refused + s.queue.metrics.dispatched
        + s.queue.metrics.droppedOverflow + s.depth + s.inFlightCount
        + (s.callbacks.length + (s.allocated ++ [_]).length)
      rw [List.length_append, List.length_singleton]
      omega
    · have hlt' : clock.currentSequence < clock.sequence.max := hlt
      omega
  | allocateRefused exhausted =>
    have hat := RuntimeClock.nextSequence_isError exhausted
    refine ⟨?_, fun hlt => ?_⟩
    · show s.publishCalls + 1 = (s.refused + 1) + s.queue.metrics.dispatched
        + s.queue.metrics.droppedOverflow + s.depth + s.inFlightCount
        + (s.callbacks.length + s.allocated.length)
      omega
    · have hlt' : s.clock.currentSequence < s.clock.sequence.max := hlt
      omega

/-- The item moves from one list of the other threads to the next. -/
theorem accountInv_schedule {s s' : Transport} {index : Nat} (hinv : AccountInv s)
    (h : Stepped s (.schedule index) s') : AccountInv s' := by
  have hcalls := hinv.publishCalls_eq
  rw [crossThreadPending] at hcalls
  cases h with
  | @schedule _ item pending =>
    obtain ⟨hindex, -⟩ := List.getElem?_eq_some_iff.mp pending
    refine ⟨?_, hinv.refused_eq_zero⟩
    show s.publishCalls = s.refused + s.queue.metrics.dispatched
      + s.queue.metrics.droppedOverflow + s.depth + s.inFlightCount
      + ((s.callbacks ++ [item]).length + (s.allocated.eraseIdx index).length)
    rw [List.length_append, List.length_singleton, List.length_eraseIdx_of_lt hindex]
    omega

theorem accountInv_runCallback {s s' : Transport} (hchannel : ChannelInv s)
    (hinv : AccountInv s) (h : Stepped s .runCallback s') : AccountInv s' := by
  cases h with
  | @runCallback item rest pending =>
    obtain ⟨hresult, hframe⟩ :=
      InternalEventQueue.enqueueCrossThread_result item hchannel.count_le
    refine accountInv_of_enqueue hinv hresult hframe rfl rfl ?_ id
    show s.publishCalls + (s.callbacks.length + s.allocated.length)
      = s.publishCalls + 1 + (rest.length + s.allocated.length)
    rw [pending, List.length_cons]
    omega

/-- The head moves from the channel into the dispatcher's hands. -/
theorem accountInv_take {s s' : Transport} (hinv : AccountInv s) (h : Stepped s .take s') :
    AccountInv s' := by
  have hcalls := hinv.publishCalls_eq
  cases h with
  | @take item channel alive idle head =>
    have hidle := inFlightCount_of_none idle
    obtain ⟨hitems, -⟩ := EventChannel.takeNowait_eq_some head
    have hlen : s.depth = channel.items.length + 1 := by
      rw [depth, InternalEventQueue.items, hitems, List.length_cons]
    refine ⟨?_, hinv.refused_eq_zero⟩
    show s.publishCalls = s.refused + s.queue.metrics.dispatched
      + s.queue.metrics.droppedOverflow + channel.items.length + 1 + s.crossThreadPending
    omega

/-- The item in flight becomes a dispatched one. -/
theorem accountInv_finish {s s' : Transport} (hchannel : ChannelInv s) (hinv : AccountInv s)
    (h : Stepped s .finish s') : AccountInv s' := by
  have hcalls := hinv.publishCalls_eq
  cases h with
  | @finish item channel busy done =>
    obtain ⟨-, hitems, -⟩ := EventChannel.taskDone_eq_some done
    have hbusy := inFlightCount_of_some busy
    refine ⟨?_, hinv.refused_eq_zero⟩
    show s.publishCalls = s.refused + (s.queue.metrics.dispatched + 1)
      + s.queue.metrics.droppedOverflow + channel.items.length + 0 + s.crossThreadPending
    rw [hitems]
    rw [depth, InternalEventQueue.items] at hcalls
    omega
  | finishUnderflow busy underflow =>
    -- unreachable: the counter covers the item in flight
    have hnone := EventChannel.taskDone_eq_none_iff.mp underflow
    have hbusy := inFlightCount_of_some busy
    have hcount := hchannel.unfinished_eq
    omega

/-- One lemma for each way of counting; the other steps count nothing. -/
theorem stepped_accountInv {s s' : Transport} {a : Action} (hchannel : ChannelInv s)
    (hinv : AccountInv s) (h : Stepped s a s') : AccountInv s' := by
  cases a with
  | publish event => exact accountInv_publish hchannel hinv h
  | allocate event => exact accountInv_allocate hinv h
  | schedule index => exact accountInv_schedule hinv h
  | runCallback => exact accountInv_runCallback hchannel hinv h
  | take => exact accountInv_take hinv h
  | finish => exact accountInv_finish hchannel hinv h
  | subscriberFailed =>
    cases h
    exact ⟨hinv.publishCalls_eq, hinv.refused_eq_zero⟩
  | tick =>
    cases h with
    | @tick sequence clock allocation =>
      obtain ⟨hseq, hcur, hceil, -⟩ := RuntimeClock.nextSequence_eq_ok allocation
      refine ⟨hinv.publishCalls_eq, fun hlt => hinv.refused_eq_zero ?_⟩
      have hlt' : clock.currentSequence < clock.sequence.max := hlt
      omega
    | tickRefused => exact hinv
  | join =>
    cases h
    obtain ⟨-, hitems, -⟩ := waitDrained_spec hchannel
    have hdepth : s.queue.channel.waitDrained.2.items.length = s.depth := congrArg _ hitems
    refine ⟨?_, hinv.refused_eq_zero⟩
    show s.publishCalls = s.refused + s.queue.metrics.dispatched
      + s.queue.metrics.droppedOverflow + s.queue.channel.waitDrained.2.items.length
      + s.inFlightCount + s.crossThreadPending
    rw [hdepth]
    exact hinv.publishCalls_eq

theorem accountInv_start (clock : RuntimeClock) {capacity : Nat} (h : 0 < capacity)
    (retention : Nat) (overflow : OverflowStrategy) :
    AccountInv (start clock (.started capacity h retention overflow)) :=
  ⟨rfl, fun _ => rfl⟩

/-! ## Order -/

/-- The items that have a sequence, in the order of their offers, then in the
    order in which the loop and the threads hold them. -/
def stamped (s : Transport) : List QueuedEvent := s.offered ++ s.callbacks ++ s.allocated

/-- First in, first out, without repetition. -/
structure OrderInv (s : Transport) : Prop where
  fifo : (s.dispatched ++ s.queue.items).Sublist s.offered
  nodup : (s.stamped.map QueuedEvent.sequence).Nodup
  sequence_le : ∀ item ∈ s.stamped, item.sequence ≤ s.clock.currentSequence
  inFlight_last : ∀ item, s.inFlight = some item → s.dispatched.getLast? = some item

theorem orderInv_start (clock : RuntimeClock) {capacity : Nat} (h : 0 < capacity)
    (retention : Nat) (overflow : OverflowStrategy) :
    OrderInv (start clock (.started capacity h retention overflow)) :=
  ⟨.refl _, List.nodup_nil, fun item hitem => absurd hitem List.not_mem_nil,
    fun item hitem => by cases hitem⟩

/-- A freshly allocated sequence is not among the stamped ones. -/
theorem OrderInv.fresh {s : Transport} (h : OrderInv s) {sequence : Int}
    (hseq : sequence = s.clock.currentSequence + 1) :
    sequence ∉ s.stamped.map QueuedEvent.sequence := by
  intro hmem
  obtain ⟨item, hitem, heq⟩ := List.mem_map.mp hmem
  have hle := h.sequence_le item hitem
  omega

/-- The order invariant only looks at the multiset of stamped items, so a new
    one may be recorded anywhere. -/
theorem OrderInv.stamped_cons {s : Transport} (h : OrderInv s) (s' : Transport)
    (item : QueuedEvent) {clock : RuntimeClock}
    (hnext : s.clock.nextSequence = .ok (item.sequence, clock))
    (hclock : s'.clock = clock) (hperm : s'.stamped.Perm (item :: s.stamped)) :
    (s'.stamped.map QueuedEvent.sequence).Nodup ∧
      ∀ x ∈ s'.stamped, x.sequence ≤ s'.clock.currentSequence := by
  obtain ⟨hseq, hcur, -, -⟩ := RuntimeClock.nextSequence_eq_ok hnext
  constructor
  · rw [(hperm.map _).nodup_iff, List.map_cons, List.nodup_cons]
    exact ⟨h.fresh hseq, h.nodup⟩
  · intro x hx
    rw [hclock, hcur]
    rcases List.mem_cons.mp (hperm.mem_iff.mp hx) with rfl | hold
    · exact le_refl _
    · have hle := h.sequence_le x hold
      omega

theorem fifo_of_enqueueResult {q q' : InternalEventQueue} {item : QueuedEvent}
    {dispatched offered : List QueuedEvent} (h : EnqueueResult q item q')
    (hfifo : (dispatched ++ q.items).Sublist offered) :
    (dispatched ++ q'.items).Sublist (offered ++ [item]) := by
  have hitems := (List.Sublist.refl dispatched).append h.items_sublist
  rw [← List.append_assoc] at hitems
  exact hitems.trans (hfifo.append_right [item])

theorem stepped_orderInv {s s' : Transport} {a : Action} (hchannel : ChannelInv s)
    (hinv : OrderInv s) (h : Stepped s a s') : OrderInv s' := by
  cases h with
  | @publish event sequence clock allocation =>
    obtain ⟨hresult, -⟩ := InternalEventQueue.enqueue_result ⟨sequence, event⟩ hchannel.count_le
    obtain ⟨hnodup, hle⟩ := hinv.stamped_cons
      { s with clock := clock, offered := s.offered ++ [⟨sequence, event⟩] }
      ⟨sequence, event⟩ allocation rfl (by
          show (s.offered ++ [_] ++ s.callbacks ++ s.allocated).Perm
            (_ :: (s.offered ++ s.callbacks ++ s.allocated))
          simp only [List.append_assoc, List.singleton_append]
          exact List.perm_middle)
    exact ⟨fifo_of_enqueueResult hresult hinv.fifo, hnodup, hle, hinv.inFlight_last⟩
  | publishRefused | allocateRefused | subscriberFailed | tickRefused =>
    exact ⟨hinv.fifo, hinv.nodup, hinv.sequence_le, hinv.inFlight_last⟩
  | @allocate event sequence clock allocation =>
    obtain ⟨hnodup, hle⟩ := hinv.stamped_cons
      { s with clock := clock, allocated := s.allocated ++ [⟨sequence, event⟩] }
      ⟨sequence, event⟩ allocation rfl (by
          show (s.offered ++ s.callbacks ++ (s.allocated ++ [_])).Perm
            (_ :: (s.offered ++ s.callbacks ++ s.allocated))
          rw [← List.append_assoc]
          exact List.perm_append_singleton _ _)
    exact ⟨hinv.fifo, hnodup, hle, hinv.inFlight_last⟩
  | @schedule index item pending =>
    obtain ⟨hindex, hget⟩ := List.getElem?_eq_some_iff.mp pending
    -- the item moves from one list to the other, wherever it stood
    have hperm : (s.offered ++ (s.callbacks ++ [item]) ++ s.allocated.eraseIdx index).Perm
        s.stamped := by
      have hback := List.getElem_cons_eraseIdx_perm hindex
      rw [hget] at hback
      have happend := hback.append_left (s.offered ++ s.callbacks)
      simpa only [stamped, List.append_assoc, List.singleton_append] using happend
    refine ⟨hinv.fifo, ?_, ?_, hinv.inFlight_last⟩
    · rw [stamped, (hperm.map QueuedEvent.sequence).nodup_iff]
      exact hinv.nodup
    · intro x hx
      exact hinv.sequence_le x (hperm.mem_iff.mp hx)
  | @runCallback item rest pending =>
    obtain ⟨hresult, -⟩ := InternalEventQueue.enqueueCrossThread_result item hchannel.count_le
    have hsame : s.offered ++ [item] ++ rest ++ s.allocated = s.stamped := by
      rw [stamped, pending]
      simp only [List.append_assoc, List.cons_append, List.nil_append]
    refine ⟨fifo_of_enqueueResult hresult hinv.fifo, ?_, ?_, hinv.inFlight_last⟩
    · rw [stamped, hsame]
      exact hinv.nodup
    · intro x hx
      exact hinv.sequence_le x (hsame ▸ hx)
  | @take item channel alive idle head =>
    obtain ⟨hitems, -⟩ := EventChannel.takeNowait_eq_some head
    refine ⟨?_, hinv.nodup, hinv.sequence_le, ?_⟩
    · show ((s.dispatched ++ [item]) ++ channel.items).Sublist s.offered
      have hfifo := hinv.fifo
      rw [InternalEventQueue.items] at hfifo
      rw [hitems] at hfifo
      rw [List.append_assoc, List.singleton_append]
      exact hfifo
    · intro y hy
      obtain rfl : item = y := Option.some.inj hy
      exact List.getLast?_concat
  | @finish item channel busy done =>
    obtain ⟨-, hitems, -⟩ := EventChannel.taskDone_eq_some done
    refine ⟨?_, hinv.nodup, hinv.sequence_le, fun y hy => by cases hy⟩
    show (s.dispatched ++ channel.items).Sublist s.offered
    rw [hitems]
    exact hinv.fifo
  | finishUnderflow busy underflow =>
    exact ⟨hinv.fifo, hinv.nodup, hinv.sequence_le, fun y hy => by cases hy⟩
  | @tick sequence clock allocation =>
    obtain ⟨hseq, hcur, -, -⟩ := RuntimeClock.nextSequence_eq_ok allocation
    refine ⟨hinv.fifo, hinv.nodup, fun x hx => ?_, hinv.inFlight_last⟩
    have hle := hinv.sequence_le x hx
    show x.sequence ≤ clock.currentSequence
    omega
  | join =>
    obtain ⟨-, hitems, -⟩ := waitDrained_spec hchannel
    refine ⟨?_, hinv.nodup, hinv.sequence_le, hinv.inFlight_last⟩
    show (s.dispatched ++ s.queue.channel.waitDrained.2.items).Sublist s.offered
    rw [hitems]
    exact hinv.fifo

/-! ## Every reachable state -/

/-- The invariants of the transport. -/
structure Inv (s : Transport) : Prop where
  channel : ChannelInv s
  account : AccountInv s
  order : OrderInv s

theorem inv_start (clock : RuntimeClock) {capacity : Nat} (h : 0 < capacity)
    (retention : Nat) (overflow : OverflowStrategy) :
    Inv (start clock (.started capacity h retention overflow)) :=
  ⟨channelInv_start clock h retention overflow, accountInv_start clock h retention overflow,
    orderInv_start clock h retention overflow⟩

theorem step_inv {s s' : Transport} {a : Action} (hinv : Inv s) (h : step s a = some s') :
    Inv s' := by
  have hstepped := stepped_of_step h
  exact ⟨stepped_channelInv hinv.channel hstepped,
    stepped_accountInv hinv.channel hinv.account hstepped,
    stepped_orderInv hinv.channel hinv.order hstepped⟩

theorem step_overflow_eq {s s' : Transport} {a : Action} (hinv : Inv s)
    (h : step s a = some s') : s'.queue.overflow = s.queue.overflow := by
  cases stepped_of_step h with
  | publish =>
    exact (InternalEventQueue.enqueue_result _ hinv.channel.count_le).2.overflow_eq
  | runCallback =>
    exact (InternalEventQueue.enqueueCrossThread_result _ hinv.channel.count_le).2.overflow_eq
  | publishRefused | allocate | allocateRefused | schedule | take | subscriberFailed | finish
  | finishUnderflow | tick | tickRefused | join => rfl

/-! ## Joiners -/

/-- The items that `join` waits for. -/
def pending (s : Transport) : Nat := s.depth + s.inFlightCount

/-- The coroutines suspended in `join`. -/
def joinWaiters (s : Transport) : Nat := s.queue.channel.queue.joinWaiters

/-- The next enqueue evicts the only item there is while a joiner waits for it. -/
def Strands (s : Transport) : Prop :=
  s.queue.overflow = .dropOldest ∧ s.queue.channel.capacity = 1 ∧ s.depth = 1 ∧
    s.inFlight = none ∧ 0 < s.joinWaiters

/-- The step does not enqueue in such a state. -/
def LeavesJoiners (s : Transport) : Action → Prop
  | .publish _ => s.clock.currentSequence < s.clock.sequence.max → ¬ Strands s
  | .runCallback => s.callbacks ≠ [] → ¬ Strands s
  | _ => True

instance (s : Transport) : Decidable (Strands s) := inferInstanceAs (Decidable (_ ∧ _))

instance (s : Transport) : ∀ a, Decidable (LeavesJoiners s a)
  | .publish _ => inferInstanceAs (Decidable (_ → _))
  | .runCallback => inferInstanceAs (Decidable (_ → _))
  | .allocate _ | .schedule _ | .take | .subscriberFailed | .finish | .tick | .join =>
    .isTrue trivial

/-- If the step resumes the joiners, it leaves nothing pending. -/
def JoinsReturn (s : Transport) (a : Action) : Prop :=
  ∀ s', step s a = some s' → s'.joinWaiters < s.joinWaiters → s'.pending = 0

/-- A `task_done` of the dispatcher resumes the suspended joiners exactly when it
    leaves nothing queued and nothing in flight. -/
theorem finish_joinWaiters {s s' : Transport} (hinv : ChannelInv s)
    (hstepped : Stepped s .finish s') :
    s'.joinWaiters = if s'.pending = 0 then 0 else s.joinWaiters := by
  have hcount := (stepped_channelInv hinv hstepped).unfinished_eq
  rw [pending, ← hcount]
  cases hstepped with
  | finish busy done => exact (EventChannel.taskDone_eq_some done).2.2.2.2
  | finishUnderflow busy underflow =>
    have hnone := EventChannel.taskDone_eq_none_iff.mp underflow
    have hbusy := inFlightCount_of_some busy
    have hold := hinv.unfinished_eq
    omega

/-- An enqueue resumes joiners exactly when it evicts the only item pending, and then
    its own item is. -/
theorem enqueue_joinWaiters {s t : Transport} {item : QueuedEvent} (hinv : ChannelInv s)
    (hresult : EnqueueResult s.queue item t.queue) :
    (t.joinWaiters < s.joinWaiters ↔ Strands s) ∧ (Strands s → t.pending ≠ 0) := by
  have hcap := s.queue.channel.capacity_pos
  have hcount := hinv.unfinished_eq
  cases hresult with
  | appended room items_eq unfinished_eq finished_eq waiters_eq =>
    have hnot : ¬ Strands s := fun h => by
      have hroom : s.depth < s.queue.channel.capacity := room
      rw [h.2.1, h.2.2.1] at hroom
      omega
    exact ⟨iff_of_false (by rw [joinWaiters, joinWaiters, waiters_eq]; omega) hnot,
      fun h => absurd h hnot⟩
  | discarded full strategy channel_eq =>
    exact ⟨iff_of_false (by rw [joinWaiters, joinWaiters, channel_eq]; omega)
      fun h => strategy h.1, fun h => absurd h.1 strategy⟩
  | evicted full strategy items_eq unfinished_eq finished_eq waiters_eq =>
    have hfull : s.depth = s.queue.channel.capacity := full
    refine ⟨?_, fun h => ?_⟩
    · rw [joinWaiters, waiters_eq]
      by_cases hone : s.queue.channel.queue.unfinishedTasks = 1
      · -- the head is all that is pending
        have hidle : s.inFlight = none := by
          cases hbusy : s.inFlight with
          | none => rfl
          | some flying =>
            have hflight := inFlightCount_of_some hbusy
            omega
        rw [if_pos hone]
        have hflight := inFlightCount_of_none hidle
        exact ⟨fun hwaiting => ⟨strategy, by omega, by omega, hidle, hwaiting⟩,
          fun h => h.2.2.2.2⟩
      · rw [if_neg hone]
        refine iff_of_false (Nat.lt_irrefl _) fun h => hone ?_
        have hflight := inFlightCount_of_none h.2.2.2.1
        have hdepth := h.2.2.1
        omega
    · have hdepth : t.depth = s.queue.items.tail.length + 1 := by simp [depth, items_eq]
      rw [pending]
      omega

/-- A step resumes joiners with something pending exactly when it enqueues in a state
    that strands them. -/
theorem joinsReturn_iff {s : Transport} (hinv : ChannelInv s) (a : Action) :
    JoinsReturn s a ↔ LeavesJoiners s a := by
  cases a with
  | publish event =>
    constructor
    · -- `LeavesJoiners` looks at the state before, so the step has to be made
      intro hreturns hlt hstrands
      cases hnext : s.clock.nextSequence with
      | error e =>
        have hat := RuntimeClock.nextSequence_isError hnext
        omega
      | ok p =>
        obtain ⟨hwaiters, hleft⟩ := enqueue_joinWaiters
          (t := { s with queue := (s.queue.enqueue ⟨p.1, event⟩).2 }) hinv
          (InternalEventQueue.enqueue_result ⟨p.1, event⟩ hinv.count_le).1
        have hstep : step s (.publish event) = some { s with
            clock := p.2
            publishCalls := s.publishCalls + 1
            queue := (s.queue.enqueue ⟨p.1, event⟩).2
            offered := s.offered ++ [⟨p.1, event⟩] } := by
          simp only [step, stamp, hnext]
        have hnone := hreturns _ hstep (hwaiters.mpr hstrands)
        exact hleft hstrands hnone
    · intro hleaves s' hstep hless
      cases stepped_of_step hstep with
      | @publish _ sequence clock allocation =>
        obtain ⟨hseq, hcur, hceil, -⟩ := RuntimeClock.nextSequence_eq_ok allocation
        have hmax := clock.currentSequence_le_max
        have hresult := (InternalEventQueue.enqueue_result ⟨sequence, event⟩ hinv.count_le).1
        exact absurd ((enqueue_joinWaiters (t := { s with
          queue := (s.queue.enqueue ⟨sequence, event⟩).2 }) hinv hresult).1.mp hless)
          (hleaves (by omega))
      | publishRefused => exact absurd hless (Nat.lt_irrefl _)
  | runCallback =>
    constructor
    · intro hreturns hsome hstrands
      obtain ⟨item, rest, hcallbacks⟩ := List.exists_cons_of_ne_nil hsome
      obtain ⟨hwaiters, hleft⟩ := enqueue_joinWaiters
        (t := { s with queue := (s.queue.enqueueCrossThread item).2 }) hinv
        (InternalEventQueue.enqueueCrossThread_result item hinv.count_le).1
      have hstep : step s .runCallback = some { s with
          queue := (s.queue.enqueueCrossThread item).2
          callbacks := rest
          offered := s.offered ++ [item] } := by
        simp only [step, hcallbacks]
      have hnone := hreturns _ hstep (hwaiters.mpr hstrands)
      exact hleft hstrands hnone
    · intro hleaves s' hstep hless
      cases stepped_of_step hstep with
      | @runCallback item rest hcallbacks =>
        have hresult := (InternalEventQueue.enqueueCrossThread_result item hinv.count_le).1
        exact absurd ((enqueue_joinWaiters (t := { s with
          queue := (s.queue.enqueueCrossThread item).2 }) hinv hresult).1.mp hless)
          (hleaves (by rw [hcallbacks]; exact List.cons_ne_nil _ _))
  | finish =>
    refine iff_of_true (fun s' hstep hless => ?_) trivial
    -- `task_done` behind a dispatch resumes joiners at zero only
    have hwaiters := finish_joinWaiters hinv (stepped_of_step hstep)
    by_contra hpending
    rw [if_neg hpending] at hwaiters
    omega
  | join =>
    refine iff_of_true (fun s' hstep hless => ?_) trivial
    cases stepped_of_step hstep with
    | join =>
      obtain ⟨-, -, -, -, -, hwaiters⟩ := waitDrained_spec hinv
      have hless' : s.queue.channel.waitDrained.2.queue.joinWaiters <
          s.queue.channel.queue.joinWaiters := hless
      rw [hwaiters] at hless'
      split at hless' <;> omega
  | take =>
    refine iff_of_true (fun s' hstep hless => ?_) trivial
    cases stepped_of_step hstep with
    | take alive idle head =>
      have hsame := (EventChannel.takeNowait_eq_some head).2.2.2
      exact absurd hless (by rw [joinWaiters, joinWaiters, hsame]; exact Nat.lt_irrefl _)
  | allocate | schedule | subscriberFailed | tick =>
    refine iff_of_true (fun s' hstep hless => ?_) trivial
    cases stepped_of_step hstep <;> exact absurd hless (Nat.lt_irrefl _)

/-! ## Conservation -/

/-- Conservation and FIFO in one state of a running queue:

    (a) every publish call is dispatched, dropped, queued, in flight or pending on
    another thread, except those an exhausted clock refused, of which there are
    none below its ceiling;
    (b) the unfinished-task counter is the depth plus the item in flight, so
    `task_done` never underflows (the dispatcher is alive), `join` returns at once
    exactly when nothing is pending, and no joiner sleeps while nothing is pending;
    (c) no item is dispatched twice, and the dispatch order is a subsequence of
    the order of the offers;
    (d) `DROP_OLDEST` admits every item it is offered, on both paths. -/
structure Conserved (overflow : OverflowStrategy) (s : Transport) : Prop where
  publishCalls_eq : s.publishCalls = s.refused + s.queue.metrics.dispatched +
    s.queue.metrics.droppedOverflow + s.depth + s.inFlightCount + s.crossThreadPending
  refused_eq_zero : s.clock.currentSequence < s.clock.sequence.max → s.refused = 0
  unfinished_eq : s.queue.channel.queue.unfinishedTasks = s.depth + s.inFlightCount
  alive : s.dispatcherAlive = true
  join_iff : s.queue.channel.waitDrained.1 = true ↔ s.pending = 0
  waiters_pending : 0 < s.joinWaiters → 0 < s.pending
  once : (s.dispatched.map QueuedEvent.sequence).Nodup
  fifo : s.dispatched.Sublist s.offered
  admits : overflow = .dropOldest → ∀ item,
    (s.queue.enqueue item).1 = .ok true ∧
    (s.queue.enqueue item).2.items.getLast? = some item ∧
    (s.queue.enqueueCrossThread item).1 = none ∧
    (s.queue.enqueueCrossThread item).2.items.getLast? = some item

theorem conserved_of_inv {s : Transport} {overflow : OverflowStrategy} (hinv : Inv s)
    (hoverflow : s.queue.overflow = overflow) : Conserved overflow s := by
  have hcount := hinv.channel.unfinished_eq
  have htaken : s.dispatched.Sublist s.offered :=
    (List.sublist_append_left _ _).trans hinv.order.fifo
  -- dispatched items were offered, and offered ones have been stamped
  have hoffered : s.offered.Sublist s.stamped := by
    rw [stamped, List.append_assoc]
    exact List.sublist_append_left _ _
  refine ⟨hinv.account.publishCalls_eq, hinv.account.refused_eq_zero, hcount, hinv.channel.alive,
    (waitDrained_spec hinv.channel).1, fun hwaiting => ?_,
    hinv.order.nodup.sublist ((htaken.trans hoffered).map _), htaken, fun hdrop item => ?_⟩
  · have hpending := hinv.channel.waiters_pending hwaiting
    rw [pending]
    omega
  · have hstrategy : s.queue.overflow = .dropOldest := hoverflow.trans hdrop
    have hlocal := (InternalEventQueue.enqueue_result item hinv.channel.count_le).1
    have hcross := (InternalEventQueue.enqueueCrossThread_result item hinv.channel.count_le).1
    have hreturns := InternalEventQueue.enqueue_returns item hinv.channel.count_le
    rw [if_pos (Or.inr hstrategy)] at hreturns
    exact ⟨hreturns, hlocal.admitted_of_dropOldest hstrategy,
      InternalEventQueue.enqueueCrossThread_no_error item hinv.channel.count_le,
      hcross.admitted_of_dropOldest hstrategy⟩

/-- What every step of a queue with this strategy keeps. -/
theorem step_kept {overflow : OverflowStrategy} {s s' : Transport} {a : Action}
    (hs : Inv s ∧ s.queue.overflow = overflow) (h : step s a = some s') :
    Inv s' ∧ s'.queue.overflow = overflow :=
  ⟨step_inv hs.1 h, (step_overflow_eq hs.1 h).trans hs.2⟩

/-- **Conservation and FIFO.**  For every strategy and capacity and every run of a
    queue that was just started: each state is conserved, and each step that resumes
    joiners leaves nothing pending, exactly when no step enqueues in a state that
    strands them. -/
theorem conservation_iff (clock : RuntimeClock) (capacity : Nat) (hcap : 0 < capacity)
    (retention : Nat) (overflow : OverflowStrategy) (acts : List Action) :
    let s := start clock (.started capacity hcap retention overflow)
    (AllStates step (Conserved overflow) s acts ∧ AllSteps step JoinsReturn s acts) ↔
      AllSteps step LeavesJoiners s acts := by
  intro s
  have hstart : Inv s ∧ s.queue.overflow = overflow :=
    ⟨inv_start clock hcap retention overflow, rfl⟩
  have hkeep : ∀ (s : Transport) (a : Action) (s' : Transport),
      Inv s ∧ s.queue.overflow = overflow → True → step s a = some s' →
      Inv s' ∧ s'.queue.overflow = overflow := fun _ _ _ hs _ hstep => step_kept hs hstep
  have hstates : AllStates step (Conserved overflow) s acts :=
    (allStates_of_allSteps hkeep hstart allSteps_true).mono
      fun s hs => conserved_of_inv hs.1 hs.2
  have hsteps : AllSteps step JoinsReturn s acts ↔ AllSteps step LeavesJoiners s acts :=
    allSteps_iff_of_keep (fun s a hs _ => joinsReturn_iff hs.1.channel a)
      (fun s a s' hs hR _ hstep => hkeep s a s' hs hR hstep) hstart allSteps_true
  exact ⟨fun h => hsteps.mp h.2, fun h => ⟨hstates, hsteps.mpr h⟩⟩

/-- A runtime event with nothing but an id and a task. -/
private def sampleEvent (id : String) : RuntimeEvent :=
  { eventId := id, body := .taskCreated { taskId := id } }

/-- A burst into a queue of capacity one while the dispatcher is busy: the second
    publish evicts nothing, the third evicts the second beside a waiting joiner, whom the
    dispatcher's last `task_done` resumes. -/
theorem conservation_iff_burst :
    let s := start (.start "r") (.started 1 Nat.one_pos 4 .dropOldest)
    let acts : List Action := [.publish (sampleEvent "a"), .take, .publish (sampleEvent "b"), .join,
      .publish (sampleEvent "c"), .finish, .take, .allocate (sampleEvent "d"), .finish]
    AllStates step (Conserved .dropOldest) s acts ∧ AllSteps step JoinsReturn s acts := by
  intro s acts
  exact (conservation_iff (.start "r") 1 Nat.one_pos 4 .dropOldest acts).mpr (by decide)

/-- A full queue of capacity one evicts its only item for the second publish while a
    joiner waits: the joiner is resumed with the new item pending, and no step of the
    dispatcher came in between. -/
theorem eviction_resumes_joiner :
    ∃ s s', exec step (start (.start "r") (.started 1 Nat.one_pos 4 .dropOldest))
        [.publish (sampleEvent "a"), .join] = some s ∧
      step s (.publish (sampleEvent "b")) = some s' ∧
      s.joinWaiters = 1 ∧ s'.joinWaiters = 0 ∧ s'.pending = 1 ∧
      ¬ JoinsReturn s (.publish (sampleEvent "b")) := by
  obtain ⟨s, hs⟩ : ∃ s, exec step (start (.start "r") (.started 1 Nat.one_pos 4 .dropOldest))
      [.publish (sampleEvent "a"), .join] = some s := ⟨_, rfl⟩
  obtain ⟨s', hs'⟩ : ∃ s', step s (.publish (sampleEvent "b")) = some s' := by
    obtain rfl := Option.some.inj hs
    exact ⟨_, rfl⟩
  have hbefore : s.joinWaiters = 1 := by
    obtain rfl := Option.some.inj hs
    rfl
  have hafter : s'.joinWaiters = 0 ∧ s'.pending = 1 := by
    obtain rfl := Option.some.inj hs
    obtain rfl := Option.some.inj hs'
    exact ⟨rfl, rfl⟩
  refine ⟨s, s', hs, hs', hbefore, hafter.1, hafter.2, fun hreturns => ?_⟩
  have hnone := hreturns s' hs' (by omega)
  omega

end Transport

end AsyncViz.Runtime.Queue
