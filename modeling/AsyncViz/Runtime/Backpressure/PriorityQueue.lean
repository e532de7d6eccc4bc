/-
  AsyncViz.Runtime.Backpressure.PriorityQueue

  `PriorityBoundedQueue` with its two storages and its counters
  (`runtime/backpressure/backpressure_queue.py`).

  `Holds` relates a storage to the tickets that it keeps, in the order in which they
  leave: a ticket is an item with the priority that it was offered under, which a deque
  does not record.  `Offers` is what an offer does to the tickets, and the queue does
  just that (`offer_offers`), so the results about runs are about lists of tickets.
-/

import AsyncViz.Lib.BoundedRing
import AsyncViz.Lib.StableSort
import AsyncViz.Lib.Transition
import AsyncViz.Runtime.Backpressure.Controller

namespace AsyncViz.Runtime.Backpressure.PriorityQueue

open AsyncViz.Lib.Bisect AsyncViz.Lib.Transition
open AsyncViz.Lib.BoundedRing
  (length_rtake rtake_append_of_length_eq rtake_of_length_le rtake_suffix)

variable {α β : Type _}

/-! ## Storage -/

/-- An entry of the heap: `(priority, counter, item)`. -/
structure HeapEntry (α : Type _) where
  priority : Int
  counter : Nat
  value : α

/-- Entries compare by priority, then by counter. -/
def HeapEntry.key (e : HeapEntry α) : Int ×ₗ Nat := toLex (e.priority, e.counter)

/-- A heap of `heapq`, by its entries in the order in which they are popped. -/
structure Heap (α : Type _) where
  entries : List (HeapEntry α)
  sorted : entries.Pairwise fun a b => a.key ≤ b.key

namespace Heap

/-- `[]`. -/
def empty : Heap α := ⟨[], List.Pairwise.nil⟩

/-- `heapq.heappush(heap, entry)`. -/
def heappush (heap : Heap α) (entry : HeapEntry α) : Heap α where
  entries := insertLate HeapEntry.key entry heap.entries
  sorted := pairwise_insertLate heap.sorted

/-- `heapq.heappop(heap)`; `none` is the `IndexError`. -/
def heappop (heap : Heap α) : Option (HeapEntry α × Heap α) :=
  heap.entries.head?.map fun entry => (entry, ⟨heap.entries.tail, heap.sorted.tail⟩)

/-- `heappop` until nothing is left. -/
def popAll : Nat → Heap α → List α
  | 0, _ => []
  | n + 1, heap =>
    match heap.heappop with
    | none => []
    | some (entry, rest) => entry.value :: popAll n rest

end Heap

/-- The storage of a policy: a heap for `drop-low-priority`, a deque for the others. -/
inductive Storage (α : Type _) : DropPolicy → Type _
  | heap (h : Heap α) : Storage α .dropLowPriority
  | deque {policy : DropPolicy} (hpolicy : policy ≠ .dropLowPriority) (items : List α) :
      Storage α policy

namespace Storage

variable {policy : DropPolicy}

/-- The storage that a policy begins with. -/
def empty : (policy : DropPolicy) → Storage α policy
  | .dropLowPriority => .heap .empty
  | .dropOldest => .deque DropPolicy.noConfusion []
  | .dropNewest => .deque DropPolicy.noConfusion []
  | .block => .deque DropPolicy.noConfusion []

/-- `len(self._buf)`. -/
def length : Storage α policy → Nat
  | .heap h => h.entries.length
  | .deque _ items => items.length

/-- `_push_locked(item, priority)`: the storage, and the counter after it. -/
def pushLocked (counter : Nat) (item : α) (priority : Int) :
    Storage α policy → Storage α policy × Nat
  -- the counter is given out by the heap only
  | .heap h => (.heap (h.heappush ⟨priority, counter, item⟩), counter + 1)
  | .deque hpolicy items => (.deque hpolicy (items ++ [item]), counter)

/-- `_pop_oldest_locked()`, and `_pop_lowest_priority_locked()` on the heap; `none` is the
    `IndexError`. -/
def popLocked : Storage α policy → Option (α × Storage α policy)
  | .heap h => h.heappop.map fun p => (p.1.value, .heap p.2)
  | .deque hpolicy items => items.head?.map fun item => (item, .deque hpolicy items.tail)

/-- `_peek_lowest_priority_locked()`. -/
def peekLowestPriorityLocked : Storage α policy → Option Int
  | .heap h => h.entries.head?.map (·.priority)
  | .deque _ _ => none

/-- All items at once: the heap is popped empty, the deque copied. -/
def drainLocked : Storage α policy → List α
  | .heap h => h.popAll h.entries.length
  | .deque _ items => items

/-- What is kept, in the order in which it is taken. -/
def items : Storage α policy → List α
  | .heap h => h.entries.map (·.value)
  | .deque _ items => items

end Storage

/-! ## The queue -/

/-- `EnqueueVerdict`. -/
structure EnqueueVerdict (α : Type _) where
  accepted : Bool
  evicted : Option α := none
  reason : String := ""

/-- `PriorityBoundedQueue`. -/
structure PriorityBoundedQueue (α : Type _) where
  capacity : Nat
  capacity_pos : 1 ≤ capacity
  policy : DropPolicy
  buf : Storage α policy
  counter : Nat := 0
  accepted : Nat := 0
  rejected : Nat := 0
  evictedOldest : Nat := 0
  evictedLowPriority : Nat := 0

namespace PriorityBoundedQueue

theorem toNat_pos {capacity : Int} (h : ¬ capacity < 1) : 1 ≤ capacity.toNat := by omega

/-- `PriorityBoundedQueue(capacity=..., policy=...)`; `none` is the `ValueError`. -/
def new (capacity : Int) (policy : DropPolicy) : Option (PriorityBoundedQueue α) :=
  if h : capacity < 1 then none
  else
    some {
      capacity := capacity.toNat
      capacity_pos := toNat_pos h
      policy
      buf := .empty policy }

/-- `len(queue)`. -/
def depth (q : PriorityBoundedQueue α) : Nat := q.buf.length

/-- The queue with the item pushed onto `buf`, one more accepted. -/
def accept (q : PriorityBoundedQueue α) (buf : Storage α q.policy) (item : α) (priority : Int) :
    PriorityBoundedQueue α :=
  let (buf, counter) := buf.pushLocked q.counter item priority
  { q with buf, counter, accepted := q.accepted + 1 }

/-- The queue with one more rejected. -/
def reject (q : PriorityBoundedQueue α) : PriorityBoundedQueue α :=
  { q with rejected := q.rejected + 1 }

/-- `queue.offer(item, priority=...)`; `none` is the `IndexError` of an empty storage. -/
def offer (q : PriorityBoundedQueue α) (item : α) (priority : Int) :
    Option (EnqueueVerdict α × PriorityBoundedQueue α) :=
  if q.buf.length < q.capacity then
    some ({ accepted := true }, q.accept q.buf item priority)
  else
    match q.policy with
    | .dropNewest => some ({ accepted := false, reason := "drop-newest" }, q.reject)
    | .block => some ({ accepted := false, reason := "block-full" }, q.reject)
    | .dropOldest =>
      q.buf.popLocked.map fun (evicted, buf) =>
        ({ accepted := true, evicted := some evicted, reason := "drop-oldest" },
          { q.accept buf item priority with evictedOldest := q.evictedOldest + 1 })
    | .dropLowPriority =>
      if ∃ head ∈ q.buf.peekLowestPriorityLocked, priority < head then
        some ({ accepted := false, reason := "drop-low-priority-incoming" }, q.reject)
      else
        q.buf.popLocked.map fun (evicted, buf) =>
          ({ accepted := true, evicted := some evicted, reason := "drop-low-priority" },
            { q.accept buf item priority with
              evictedLowPriority := q.evictedLowPriority + 1 })

/-- `queue.take()`. -/
def take (q : PriorityBoundedQueue α) : Option α × PriorityBoundedQueue α :=
  match q.buf.popLocked with
  | none => (none, q)
  | some (item, buf) => (some item, { q with buf })

/-- `queue.drain()`. -/
def drain (q : PriorityBoundedQueue α) : List α × PriorityBoundedQueue α :=
  (q.buf.drainLocked, { q with buf := .empty q.policy })

/-- `queue.clear()`. -/
def clear (q : PriorityBoundedQueue α) : PriorityBoundedQueue α :=
  { q with buf := .empty q.policy }

end PriorityBoundedQueue

/-! ## What is kept -/

/-- An item with the priority that it is offered under. -/
structure Ticket (α : Type _) where
  priority : Int
  item : α

/-- Where a ticket goes among those that are kept. -/
def place (policy : DropPolicy) (t : Ticket α) (kept : List (Ticket α)) : List (Ticket α) :=
  if policy = .dropLowPriority then insertLate Ticket.priority t kept else kept ++ [t]

theorem perm_place (policy : DropPolicy) (t : Ticket α) (kept : List (Ticket α)) :
    (place policy t kept).Perm (kept ++ [t]) := by
  -- both places differ in the order only
  rw [place]
  split
  · exact (perm_insertLate t kept).trans (List.perm_append_singleton t kept).symm
  · exact List.Perm.refl _

namespace Storage

variable {policy : DropPolicy}

/-- The storage keeps these tickets, in the order in which they leave.  The heap has given out
    the counters below its own. -/
def Holds (buf : Storage α policy) (counter : Nat) (kept : List (Ticket α)) : Prop :=
  match buf with
  | .heap h =>
    h.entries.map (fun e => ⟨e.priority, e.value⟩) = kept ∧ ∀ e ∈ h.entries, e.counter < counter
  | .deque _ items => items = kept.map Ticket.item

variable {counter : Nat} {buf : Storage α policy} {kept : List (Ticket α)}

theorem holds_empty (counter : Nat) (policy : DropPolicy) :
    (empty policy : Storage α policy).Holds counter [] := by
  cases policy with
  | dropLowPriority => exact ⟨rfl, fun e he => absurd he List.not_mem_nil⟩
  | dropOldest => rfl
  | dropNewest => rfl
  | block => rfl

theorem Holds.items_eq (h : buf.Holds counter kept) : buf.items = kept.map Ticket.item := by
  cases buf with
  | heap heap =>
    rw [← h.1, List.map_map]
    rfl
  | deque => exact h

theorem length_items (buf : Storage α policy) : buf.items.length = buf.length := by
  cases buf with
  | heap h => exact List.length_map _
  | deque => rfl

theorem Holds.length_eq (h : buf.Holds counter kept) : buf.length = kept.length := by
  rw [← length_items, h.items_eq, List.length_map]

theorem popAll_eq (heap : Heap α) :
    heap.popAll heap.entries.length = heap.entries.map (·.value) := by
  obtain ⟨entries, sorted⟩ := heap
  induction entries with
  | nil => rfl
  | cons entry entries ih => exact congrArg (entry.value :: ·) (ih sorted.of_cons)

theorem drainLocked_eq (buf : Storage α policy) : buf.drainLocked = buf.items := by
  cases buf with
  | heap h => exact popAll_eq h
  | deque => rfl

theorem Holds.pop_nil (h : buf.Holds counter []) : buf.popLocked = none := by
  cases buf with
  | heap heap =>
    obtain ⟨entries, sorted⟩ := heap
    obtain rfl : entries = [] := List.map_eq_nil_iff.mp h.1
    rfl
  | deque hpolicy items =>
    cases h
    rfl

/-- A pop takes the first ticket. -/
theorem Holds.pop_cons {t : Ticket α} (h : buf.Holds counter (t :: kept)) :
    ∃ buf', buf.popLocked = some (t.item, buf') ∧ buf'.Holds counter kept := by
  cases buf with
  | heap heap =>
    obtain ⟨entries, sorted⟩ := heap
    obtain ⟨hentries, hcounter⟩ := h
    cases entries with
    | nil => cases hentries
    | cons entry entries =>
      cases hentries
      exact ⟨.heap ⟨entries, sorted.of_cons⟩, rfl, rfl,
        fun e he => hcounter e (List.mem_cons_of_mem entry he)⟩
  | deque hpolicy items =>
    cases h
    exact ⟨.deque hpolicy (kept.map Ticket.item), rfl, rfl⟩

/-- A push places the ticket: the counter only breaks ties, and in favour of the older. -/
theorem Holds.push (h : buf.Holds counter kept) (t : Ticket α) :
    (buf.pushLocked counter t.item t.priority).1.Holds
      (buf.pushLocked counter t.item t.priority).2 (place policy t kept) := by
  cases buf with
  | heap heap =>
    obtain ⟨rfl, hcounter⟩ := h
    constructor
    · refine map_insertLate (fun e : HeapEntry α => (⟨e.priority, e.value⟩ : Ticket α))
        fun e he => ?_
      -- by priority, then by counter; the new counter is above all that are in the heap
      rw [HeapEntry.key, HeapEntry.key, Prod.Lex.toLex_le_toLex]
      constructor
      · rintro (hlt | ⟨heq, -⟩)
        · exact hlt.le
        · exact heq.le
      · intro hle
        exact hle.lt_or_eq.imp_right fun heq => ⟨heq, (hcounter e he).le⟩
    · intro e he
      rcases List.mem_cons.mp ((perm_insertLate _ _).mem_iff.mp he) with rfl | he
      · exact Nat.lt_succ_self counter
      · exact Nat.lt_succ_of_lt (hcounter e he)
  | deque hpolicy items =>
    cases h
    rw [place, if_neg hpolicy]
    show kept.map Ticket.item ++ [t.item] = (kept ++ [t]).map Ticket.item
    rw [List.map_append]
    rfl

/-- The heap keeps its tickets by priority. -/
theorem Holds.pairwise (h : buf.Holds counter kept) (hpolicy : policy = .dropLowPriority) :
    kept.Pairwise fun a b => a.priority ≤ b.priority := by
  cases buf with
  | heap heap =>
    rw [← h.1, List.pairwise_map]
    refine heap.sorted.imp fun {a b} hle => ?_
    rcases Prod.Lex.toLex_le_toLex.mp hle with hlt | ⟨heq, -⟩
    · exact hlt.le
    · exact heq.le
  | deque hne => exact absurd hpolicy hne

theorem Holds.peek_eq (h : buf.Holds counter kept) (hpolicy : policy = .dropLowPriority) :
    buf.peekLowestPriorityLocked = kept.head?.map (·.priority) := by
  cases buf with
  | heap heap =>
    rw [← h.1, List.head?_map, Option.map_map]
    rfl
  | deque hne => exact absurd hpolicy hne

end Storage

/-! ## What an offer does to the tickets -/

/-- An offer of `t` where `kept` is kept: what is evicted when it is accepted (`none` when
    it is refused), and what is kept after it. -/
inductive Offers (policy : DropPolicy) (capacity : Nat) (t : Ticket α) (kept : List (Ticket α)) :
    Option (List (Ticket α)) → List (Ticket α) → Prop
  | room (h : kept.length < capacity) :
    Offers policy capacity t kept (some []) (place policy t kept)
  | refused (h : capacity ≤ kept.length)
    (hpolicy : policy = .dropLowPriority → ∀ head ∈ kept.head?, t.priority < head.priority)
    (hne : policy ≠ .dropOldest) : Offers policy capacity t kept none kept
  | evicts (head : Ticket α) (rest : List (Ticket α)) (h : capacity ≤ kept.length)
    (hkept : kept = head :: rest)
    (hpolicy : policy = .dropOldest ∨ policy = .dropLowPriority ∧ head.priority ≤ t.priority) :
    Offers policy capacity t kept (some [head]) (place policy t rest)

namespace PriorityBoundedQueue

/-- The queue keeps these tickets. -/
def Holds (q : PriorityBoundedQueue α) (kept : List (Ticket α)) : Prop :=
  q.buf.Holds q.counter kept

variable {q : PriorityBoundedQueue α} {kept : List (Ticket α)}

theorem Holds.depth_eq (h : q.Holds kept) : q.depth = kept.length := h.length_eq

theorem Holds.accept {buf : Storage α q.policy} (h : buf.Holds q.counter kept) (t : Ticket α) :
    (q.accept buf t.item t.priority).Holds (place q.policy t kept) := h.push t

/-- `q'` is `q` with other tickets and counters. -/
structure SameQueue (q q' : PriorityBoundedQueue α) : Prop where
  capacity : q'.capacity = q.capacity
  policy : q'.policy = q.policy

/-- What the counters say after an offer with this outcome. -/
structure Counted (q q' : PriorityBoundedQueue α) (outcome : Option (List (Ticket α))) :
    Prop where
  accepted : q'.accepted = q.accepted + if outcome.isSome then 1 else 0
  rejected : q'.rejected = q.rejected + if outcome.isSome then 0 else 1
  evicted : q'.evictedOldest + q'.evictedLowPriority
    = q.evictedOldest + q.evictedLowPriority + (outcome.getD []).length

theorem Holds.offer_room (h : q.Holds kept) (t : Ticket α) (hroom : kept.length < q.capacity) :
    q.offer t.item t.priority
      = some ({ accepted := true }, q.accept q.buf t.item t.priority) := by
  rw [offer, if_pos (h.length_eq ▸ hroom)]

/-- Each offer is counted as accepted or as rejected. -/
theorem Counted.offered {q q' : PriorityBoundedQueue α} {outcome : Option (List (Ticket α))}
    (h : q.Counted q' outcome) : q'.accepted + q'.rejected = q.accepted + q.rejected + 1 := by
  rw [h.accepted, h.rejected]
  cases outcome with
  | none => exact (Nat.add_assoc _ _ _).symm
  | some gone => exact Nat.add_right_comm _ _ _

/-- An offer does to the queue what it does to its tickets, and says what became of them. -/
theorem Holds.offer_offers (h : q.Holds kept) (t : Ticket α) :
    ∃ verdict q' outcome kept', q.offer t.item t.priority = some (verdict, q') ∧
      Offers q.policy q.capacity t kept outcome kept' ∧ q'.Holds kept' ∧ SameQueue q q' ∧
      verdict.accepted = outcome.isSome ∧
      verdict.evicted.toList = (outcome.getD []).map Ticket.item ∧ Counted q q' outcome := by
  by_cases hroom : kept.length < q.capacity
  · exact ⟨_, _, some [], _, h.offer_room t hroom, .room hroom, Holds.accept h t, ⟨rfl, rfl⟩, rfl,
      rfl, rfl, rfl, rfl⟩
  -- from here on the storage is full, and not empty as the capacity is at least 1
  have hfull : q.capacity ≤ kept.length := Nat.le_of_not_lt hroom
  obtain ⟨head, rest, rfl⟩ : ∃ head rest, kept = head :: rest :=
    List.exists_cons_of_length_pos (q.capacity_pos.trans hfull)
  have hlength : ¬ q.buf.length < q.capacity := h.length_eq ▸ hroom
  obtain ⟨buf, hpop, hrest⟩ := Storage.Holds.pop_cons h
  rw [offer, if_neg hlength]
  obtain ⟨capacity, hpos, policy, buf₀, counter, accepted, rejected, oldest, low⟩ := q
  cases policy with
  | dropNewest =>
    have hrefused : Offers .dropNewest capacity t (head :: rest) none (head :: rest) :=
      .refused hfull (fun heq => absurd heq (by decide)) (by decide)
    exact ⟨_, _, none, _, rfl, hrefused, h, ⟨rfl, rfl⟩, rfl, rfl, rfl, rfl, rfl⟩
  | block =>
    have hrefused : Offers .block capacity t (head :: rest) none (head :: rest) :=
      .refused hfull (fun heq => absurd heq (by decide)) (by decide)
    exact ⟨_, _, none, _, rfl, hrefused, h, ⟨rfl, rfl⟩, rfl, rfl, rfl, rfl, rfl⟩
  | dropOldest =>
    dsimp only
    rw [hpop]
    exact ⟨_, _, some [head], _, rfl, .evicts head rest hfull rfl (.inl rfl), hrest.push t,
      ⟨rfl, rfl⟩, rfl, rfl, rfl, rfl, Nat.add_right_comm oldest 1 low⟩
  | dropLowPriority =>
    dsimp only
    rw [h.peek_eq rfl, hpop]
    -- only an item of a lower priority than the head is refused; an equal one evicts it
    by_cases hless : t.priority < head.priority
    · rw [if_pos ⟨head.priority, rfl, hless⟩]
      have hrefused : Offers .dropLowPriority capacity t (head :: rest) none (head :: rest) :=
        .refused hfull (fun _ _ he => Option.some.inj he ▸ hless) (by decide)
      exact ⟨_, _, none, _, rfl, hrefused, h, ⟨rfl, rfl⟩, rfl, rfl, rfl, rfl, rfl⟩
    · rw [if_neg]
      · exact ⟨_, _, some [head], _, rfl,
          .evicts head rest hfull rfl (.inr ⟨rfl, not_lt.mp hless⟩), hrest.push t,
          ⟨rfl, rfl⟩, rfl, rfl, rfl, rfl, rfl⟩
      · rintro ⟨p, hp, hlt⟩
        cases hp
        exact hless hlt

theorem Holds.take_nil (h : q.Holds []) : q.take = (none, q) := by
  rw [take, Storage.Holds.pop_nil h]

theorem Holds.take_cons {t : Ticket α} (h : q.Holds (t :: kept)) :
    ∃ buf, q.take = (some t.item, { q with buf }) ∧ { q with buf }.Holds kept := by
  obtain ⟨buf, hpop, hbuf⟩ := Storage.Holds.pop_cons h
  exact ⟨buf, by rw [take, hpop], hbuf⟩

theorem Holds.drain_eq (h : q.Holds kept) : q.drain = (kept.map Ticket.item, q.clear) := by
  rw [drain, Storage.drainLocked_eq, Storage.Holds.items_eq h]
  rfl

theorem holds_clear (q : PriorityBoundedQueue α) : q.clear.Holds [] :=
  Storage.holds_empty q.counter q.policy

end PriorityBoundedQueue

/-! ## Runs -/

/-- How an accepted item leaves. -/
inductive Departure
  | taken
  | drained
  | evicted
  | cleared
  deriving DecidableEq

/-- A call of the queue. -/
inductive Call (α : Type _)
  | offer (t : Ticket α)
  | take
  | drain
  | clear

/-- The call is an offer. -/
def Call.isOffer : Call α → Bool
  | .offer _ => true
  | _ => false

/-- The queue, with the offers that it has accepted and the items that have left it, both in
    order. -/
structure History (α : Type _) where
  queue : PriorityBoundedQueue α
  accepted : List (Ticket α) := []
  left : List (Departure × α) := []

namespace History

/-- One call: an item leaves as what the call returns, or with the storage that it clears. -/
def step (h : History α) : Call α → Option (History α)
  | .offer t =>
    (h.queue.offer t.item t.priority).map fun (verdict, queue) =>
      { queue
        accepted := if verdict.accepted then h.accepted ++ [t] else h.accepted
        left := h.left ++ verdict.evicted.toList.map ((.evicted, ·)) }
  | .take =>
    let (item, queue) := h.queue.take
    some { h with queue, left := h.left ++ item.toList.map ((.taken, ·)) }
  | .drain =>
    let (items, queue) := h.queue.drain
    some { h with queue, left := h.left ++ items.map ((.drained, ·)) }
  | .clear =>
    some {
      h with
      queue := h.queue.clear
      left := h.left ++ h.queue.buf.items.map ((.cleared, ·)) }

/-- How many items have left so. -/
def count (h : History α) (departure : Departure) : Nat :=
  h.left.countP (·.1 = departure)

end History

/-- The tickets that have left and those that are kept account for the accepted ones: each is
    there once, those of one priority in the order of their arrival, and all of them in that
    order unless the policy looks at the priority. -/
structure Accounts (policy : DropPolicy) (accepted gone kept : List (Ticket α)) : Prop where
  perm : accepted.Perm (gone ++ kept)
  tier : ∀ p, accepted.filter (·.priority = p)
    = gone.filter (·.priority = p) ++ kept.filter (·.priority = p)
  fifo : policy ≠ .dropLowPriority → accepted = gone ++ kept

namespace Accounts

variable {policy : DropPolicy} {accepted gone kept : List (Ticket α)}

theorem nil (policy : DropPolicy) : Accounts (α := α) policy [] [] [] :=
  ⟨List.Perm.refl _, fun _ => rfl, fun _ => rfl⟩

/-- The first of the kept tickets leave. -/
theorem leave {gone' : List (Ticket α)} (h : Accounts policy accepted gone (gone' ++ kept)) :
    Accounts policy accepted (gone ++ gone') kept where
  perm := by
    rw [List.append_assoc]
    exact h.perm
  tier := fun p => by
    have htier := h.tier p
    rwa [List.filter_append, ← List.append_assoc, ← List.filter_append] at htier
  fifo := fun hne => by
    rw [List.append_assoc]
    exact h.fifo hne

/-- A ticket arrives. -/
theorem arrive (h : Accounts policy accepted gone kept) (t : Ticket α)
    (hsorted : policy = .dropLowPriority → kept.Pairwise fun a b => a.priority ≤ b.priority) :
    Accounts policy (accepted ++ [t]) gone (place policy t kept) where
  perm := by
    refine (h.perm.append_right [t]).trans ?_
    rw [List.append_assoc]
    exact (perm_place policy t kept).symm.append_left gone
  tier := fun p => by
    -- within one priority the late place is the last one
    have hplace : (place policy t kept).filter (·.priority = p)
        = kept.filter (·.priority = p) ++ [t].filter (·.priority = p) := by
      rw [place]
      split
      · rename_i hpolicy
        rw [filter_insertLate (hsorted hpolicy) p, List.filter_singleton]
        by_cases hp : t.priority = p <;> simp [hp]
      · exact List.filter_append _ _
    rw [List.filter_append, h.tier p, hplace, List.append_assoc]
  fifo := fun hne => by
    rw [place, if_neg hne, h.fifo hne, List.append_assoc]

end Accounts

namespace History

/-- The tickets behind a history: with their departures those that have left, and those that
    the queue keeps. -/
structure Valid (h : History α) (leaves : List (Departure × Ticket α)) (kept : List (Ticket α)) :
    Prop where
  holds : h.queue.Holds kept
  length_le : kept.length ≤ h.queue.capacity
  left_eq : h.left = leaves.map (Prod.map id Ticket.item)
  accounts : Accounts h.queue.policy h.accepted (leaves.map Prod.snd) kept
  accepted_eq : h.queue.accepted = h.accepted.length
  evicted_eq : h.queue.evictedOldest + h.queue.evictedLowPriority = h.count .evicted

theorem Valid.new (q : PriorityBoundedQueue α) (hbuf : q.Holds []) (haccepted : q.accepted = 0)
    (hevicted : q.evictedOldest + q.evictedLowPriority = 0) : Valid { queue := q } [] [] :=
  ⟨hbuf, Nat.zero_le _, rfl, .nil q.policy, haccepted, hevicted⟩

variable {h : History α} {leaves : List (Departure × Ticket α)} {kept : List (Ticket α)}

theorem map_snd_departed (departure : Departure) (gone : List (Ticket α)) :
    (gone.map ((departure, ·))).map Prod.snd = gone := by
  rw [List.map_map]
  exact List.map_id gone

/-- Those that leave in one way are counted there. -/
theorem countP_departed (departure departure' : Departure) (items : List α) :
    (items.map ((departure, ·))).countP (·.1 = departure')
      = if departure = departure' then items.length else 0 := by
  rw [List.countP_map]
  by_cases h : departure = departure'
  · rw [if_pos h, List.countP_eq_length]
    exact fun _ _ => decide_eq_true h
  · rw [if_neg h, List.countP_eq_zero]
    exact fun _ _ => ne_true_of_eq_false (decide_eq_false h)

/-- The tickets `gone` leave from the front, and nothing else changes. -/
theorem Valid.leave (gone : List (Ticket α)) {kept : List (Ticket α)}
    (hv : h.Valid leaves (gone ++ kept)) (departure : Departure) {q : PriorityBoundedQueue α}
    (hsame : h.queue.SameQueue q)
    (hholds : q.Holds kept) (haccepted : q.accepted = h.queue.accepted)
    (hevicted : q.evictedOldest + q.evictedLowPriority
      = h.queue.evictedOldest + h.queue.evictedLowPriority
        + if departure = .evicted then gone.length else 0) :
    Valid { h with
      queue := q
      left := h.left ++ (gone.map Ticket.item).map ((departure, ·)) }
      (leaves ++ gone.map ((departure, ·))) kept where
  holds := hholds
  length_le := by
    have hlength : gone.length + kept.length ≤ h.queue.capacity := by
      rw [← List.length_append]
      exact hv.length_le
    rw [hsame.capacity]
    omega
  left_eq := by
    rw [hv.left_eq, List.map_append, List.map_map, List.map_map]
    rfl
  accounts := by
    -- what leaves stands at the front of what was kept
    rw [hsame.policy, List.map_append, map_snd_departed]
    exact hv.accounts.leave
  accepted_eq := haccepted.trans hv.accepted_eq
  evicted_eq := by
    rw [hevicted, hv.evicted_eq, count, count, List.countP_append, countP_departed,
      List.length_map]

theorem Valid.pairwise (hv : h.Valid leaves kept) (hpolicy : h.queue.policy = .dropLowPriority) :
    kept.Pairwise fun a b => a.priority ≤ b.priority := Storage.Holds.pairwise hv.holds hpolicy

/-- An accepted ticket arrives, after what it evicts has left. -/
theorem Valid.arrive (gone : List (Ticket α)) {kept : List (Ticket α)}
    (hv : h.Valid leaves (gone ++ kept)) (t : Ticket α) {q : PriorityBoundedQueue α}
    (hsame : h.queue.SameQueue q)
    (hholds : q.Holds (place h.queue.policy t kept)) (hroom : kept.length < h.queue.capacity)
    (haccepted : q.accepted = h.queue.accepted + 1)
    (hevicted : q.evictedOldest + q.evictedLowPriority
      = h.queue.evictedOldest + h.queue.evictedLowPriority + gone.length) :
    Valid {
      queue := q
      accepted := h.accepted ++ [t]
      left := h.left ++ (gone.map Ticket.item).map ((.evicted, ·)) }
      (leaves ++ gone.map ((.evicted, ·))) (place h.queue.policy t kept) where
  holds := hholds
  length_le := by
    show (place h.queue.policy t kept).length ≤ q.capacity
    rw [(perm_place h.queue.policy t kept).length_eq, List.length_append, hsame.capacity]
    exact hroom
  left_eq := by
    rw [hv.left_eq, List.map_append, List.map_map, List.map_map]
    rfl
  accounts := by
    show Accounts q.policy _ _ _
    rw [hsame.policy, List.map_append, map_snd_departed]
    -- what is left of a sorted list is sorted
    refine hv.accounts.leave.arrive t fun hpolicy => ?_
    exact (List.pairwise_append.mp (hv.pairwise hpolicy)).2.1
  accepted_eq := by
    rw [List.length_append, ← hv.accepted_eq]
    exact haccepted
  evicted_eq := by
    rw [hevicted, hv.evicted_eq, count, count, List.countP_append, countP_departed,
      List.length_map, if_pos rfl]

theorem Valid.offer (hv : h.Valid leaves kept) (t : Ticket α) :
    ∃ h' leaves' kept' outcome, h.step (.offer t) = some h' ∧ h'.Valid leaves' kept' ∧
      h.queue.SameQueue h'.queue ∧
      h'.queue.accepted + h'.queue.rejected = h.queue.accepted + h.queue.rejected + 1 ∧
      Offers h.queue.policy h.queue.capacity t kept outcome kept' := by
  obtain ⟨verdict, q, outcome, kept', hoffer, hoffers, hholds, hsame, hverdict, hevicted, hcounted⟩ :=
    hv.holds.offer_offers t
  -- the history sees the outcome of the tickets only
  have hstep : h.step (.offer t) = some {
      queue := q
      accepted := if outcome.isSome then h.accepted ++ [t] else h.accepted
      left := h.left ++ ((outcome.getD []).map Ticket.item).map ((.evicted, ·)) } := by
    rw [step, hoffer, ← hevicted, ← hverdict]
    rfl
  -- room and an eviction are both an arrival, behind none or one that leaves
  cases hoffers with
  | room hroom =>
    exact ⟨_, _, _, _, hstep,
      Valid.arrive [] hv t hsame hholds hroom hcounted.accepted hcounted.evicted,
      hsame, hcounted.offered, .room hroom⟩
  | refused hfull hpolicy hne =>
    exact ⟨_, _, _, _, hstep,
      Valid.leave [] hv .evicted hsame hholds hcounted.accepted hcounted.evicted, hsame,
      hcounted.offered, .refused hfull hpolicy hne⟩
  | evicts head rest hfull hkept hpolicy =>
    subst hkept
    have hroom : rest.length < h.queue.capacity := hv.length_le
    exact ⟨_, _, _, _, hstep,
      Valid.arrive [head] hv t hsame hholds hroom hcounted.accepted hcounted.evicted, hsame,
      hcounted.offered, .evicts head rest hfull rfl hpolicy⟩

/-- Every call goes through and keeps the account. -/
theorem Valid.step (hv : h.Valid leaves kept) (call : Call α) :
    ∃ h' leaves' kept', h.step call = some h' ∧ h'.Valid leaves' kept' ∧
      h.queue.SameQueue h'.queue ∧
      h'.queue.accepted + h'.queue.rejected
        = h.queue.accepted + h.queue.rejected + [call].countP Call.isOffer := by
  cases call with
  | offer t =>
    obtain ⟨h', leaves', kept', -, hstep, hv', hsame, hoffered, -⟩ := hv.offer t
    exact ⟨h', leaves', kept', hstep, hv', hsame, hoffered⟩
  | take =>
    rw [History.step]
    cases kept with
    | nil =>
      -- a take of an empty queue is a leave of no ticket
      rw [hv.holds.take_nil]
      exact ⟨_, _, [], rfl, Valid.leave [] hv .taken ⟨rfl, rfl⟩ hv.holds rfl rfl, ⟨rfl, rfl⟩, rfl⟩
    | cons t kept =>
      obtain ⟨buf, htake, hbuf⟩ := hv.holds.take_cons
      rw [htake]
      exact ⟨_, _, kept, rfl, Valid.leave [t] hv .taken ⟨rfl, rfl⟩ hbuf rfl rfl, ⟨rfl, rfl⟩, rfl⟩
  | drain =>
    rw [History.step, hv.holds.drain_eq]
    rw [← List.append_nil kept] at hv
    exact ⟨_, _, [], rfl, Valid.leave kept hv .drained ⟨rfl, rfl⟩
      (PriorityBoundedQueue.holds_clear _) rfl rfl, ⟨rfl, rfl⟩, rfl⟩
  | clear =>
    rw [History.step, Storage.Holds.items_eq hv.holds]
    rw [← List.append_nil kept] at hv
    exact ⟨_, _, [], rfl, Valid.leave kept hv .cleared ⟨rfl, rfl⟩
      (PriorityBoundedQueue.holds_clear _) rfl rfl, ⟨rfl, rfl⟩, rfl⟩

theorem Valid.run (hv : h.Valid leaves kept) (calls : List (Call α)) :
    ∃ h' leaves' kept', exec History.step h calls = some h' ∧
      h'.Valid leaves' kept' ∧ h.queue.SameQueue h'.queue ∧
      h'.queue.accepted + h'.queue.rejected
        = h.queue.accepted + h.queue.rejected + calls.countP Call.isOffer := by
  -- by induction on the calls; capacity and policy stay, so the account is one of the whole run
  induction calls generalizing h leaves kept with
  | nil => exact ⟨h, leaves, kept, rfl, hv, ⟨rfl, rfl⟩, rfl⟩
  | cons call calls ih =>
    obtain ⟨mid, leaves₁, kept₁, hstep, hmid, hsame, hfirst⟩ := hv.step call
    obtain ⟨h', leaves', kept', hrun, hv', hsame', hrest⟩ := ih hmid
    refine ⟨h', leaves', kept', exec_cons_eq_some.mpr ⟨mid, hstep, hrun⟩, hv',
      ⟨hsame'.capacity.trans hsame.capacity, hsame'.policy.trans hsame.policy⟩, ?_⟩
    rw [hrest, hfirst, Nat.add_assoc, ← List.countP_append]
    rfl

/-- Every departure is of one of the four kinds. -/
theorem length_left (h : History α) :
    h.left.length = h.count .taken + h.count .drained + h.count .evicted + h.count .cleared := by
  simp only [count]
  induction h.left with
  | nil => rfl
  -- each departure adds to one of the four counts
  | cons p left ih =>
    obtain ⟨departure, item⟩ := p
    simp only [List.countP_cons, List.length_cons, ih]
    cases departure <;> simp <;> omega

theorem Valid.accepted_eq_count (hv : h.Valid leaves kept) :
    h.queue.accepted = h.count .taken + h.count .drained + h.count .evicted + h.count .cleared
      + h.queue.depth := by
  have hleft : h.left.length = leaves.length := by rw [hv.left_eq, List.length_map]
  rw [hv.accepted_eq, hv.accounts.perm.length_eq, List.length_append, List.length_map, ← hleft,
    length_left, hv.holds.depth_eq]

end History

/-! ## What offers alone leave in the queue -/

/-- The tickets of these offers that a queue without takes keeps. -/
def retained (policy : DropPolicy) (capacity : Nat) (offers : List (Ticket α)) :
    List (Ticket α) :=
  match policy with
  | .dropNewest | .block => offers.take capacity
  | .dropOldest => offers.rtake capacity
  | .dropLowPriority => (sortedBy Ticket.priority offers).rtake capacity

theorem Offers.retained_take {policy : DropPolicy} {capacity : Nat} {offers : List (Ticket α)}
    {t : Ticket α} {outcome : Option (List (Ticket α))} {kept' : List (Ticket α)}
    (hpolicy : policy = .dropNewest ∨ policy = .block)
    (h : Offers policy capacity t (offers.take capacity) outcome kept') :
    kept' = (offers ++ [t]).take capacity := by
  cases h with
  -- below the capacity all offers are kept, and from there on no more
  | room hroom =>
    have hlength : offers.length < capacity := by
      rw [List.length_take] at hroom
      omega
    have hplace : policy ≠ .dropLowPriority := by rcases hpolicy with rfl | rfl <;> decide
    rw [place, if_neg hplace, List.take_of_length_le hlength.le, List.take_of_length_le]
    rw [List.length_append]
    exact hlength
  | refused hfull =>
    have hlength : capacity ≤ offers.length := by
      rw [List.length_take] at hfull
      omega
    exact (List.take_append_of_le_length hlength).symm
  | evicts head rest hfull hkept hevicts =>
    rcases hpolicy with rfl | rfl <;> simp at hevicts

theorem Offers.retained_rtake {capacity : Nat} {offers : List (Ticket α)}
    {t : Ticket α} {outcome : Option (List (Ticket α))} {kept' : List (Ticket α)}
    (h : Offers .dropOldest capacity t (offers.rtake capacity) outcome kept') :
    kept' = (offers ++ [t]).rtake capacity := by
  cases h with
  | room hroom =>
    have hlength : offers.length < capacity := by
      rw [length_rtake] at hroom
      omega
    rw [rtake_of_length_le hlength.le, rtake_of_length_le]
    · rfl
    · rw [List.length_append]
      exact hlength
  | refused hfull hlow hne => exact absurd rfl hne
  | evicts head rest hfull hkept hevicts =>
    obtain ⟨before, hbefore⟩ := rtake_suffix capacity offers
    -- the kept are as many as fit, so the head makes place for the offer
    have hlength : (head :: rest).length = capacity := by
      rw [← hkept] at *
      rw [length_rtake] at *
      omega
    rw [hkept] at hbefore
    rw [← hbefore, show before ++ head :: rest ++ [t] = (before ++ [head]) ++ (rest ++ [t]) by simp,
      rtake_append_of_length_eq]
    · rfl
    · rw [List.length_append]
      exact hlength

/-- Offers that are not above the least of the kept are refused; another takes the place of the
    least, and what is not kept is below what is. -/
theorem Offers.retained_sorted {capacity : Nat} {offers : List (Ticket α)}
    {t : Ticket α} {outcome : Option (List (Ticket α))} {kept' : List (Ticket α)}
    (h : Offers .dropLowPriority capacity t ((sortedBy Ticket.priority offers).rtake capacity)
      outcome kept') :
    kept' = (sortedBy Ticket.priority (offers ++ [t])).rtake capacity := by
  have hsorted := pairwise_sortedBy Ticket.priority offers
  rw [sortedBy_concat]
  generalize sortedBy Ticket.priority offers = sorted at h hsorted
  obtain ⟨before, hbefore⟩ := rtake_suffix capacity sorted
  have hlength := length_rtake capacity sorted
  cases h with
  | room hroom =>
    have hless : sorted.length < capacity := by omega
    rw [rtake_of_length_le hless.le, rtake_of_length_le]
    · rfl
    · rw [(perm_insertLate t sorted).length_eq]
      exact hless
  | refused hfull hlow hne =>
    generalize hkept : sorted.rtake capacity = kept at *
    rw [← hbefore] at hsorted ⊢
    -- the first of the kept is the least, and the offer is below it
    have habove : ∀ a ∈ kept, t.priority < a.priority := by
      cases kept with
      | nil => exact fun a ha => absurd ha List.not_mem_nil
      | cons head rest =>
        have hhead : t.priority < head.priority := hlow rfl head rfl
        have hrest := List.pairwise_cons.mp (List.pairwise_append.mp hsorted).2.1
        intro a ha
        rcases List.mem_cons.mp ha with rfl | ha
        · exact hhead
        · exact hhead.trans_le (hrest.1 a ha)
    rw [insertLate_append_of_lt before habove, rtake_append_of_length_eq]
    omega
  | evicts head rest hfull hkept hevicts =>
    have hle : head.priority ≤ t.priority := hevicts.elim (fun heq => by cases heq) And.right
    rw [hkept] at hbefore hlength hfull
    rw [← hbefore] at hsorted ⊢
    have hsplit : before ++ head :: rest = (before ++ [head]) ++ rest := by simp
    -- the evicted head is no higher than the offer, so the offer goes behind it
    have hbelow : ∀ a ∈ before ++ [head], a.priority ≤ t.priority := by
      intro a ha
      rcases List.mem_append.mp ha with ha | ha
      · exact ((List.pairwise_append.mp hsorted).2.2 a ha head List.mem_cons_self).trans hle
      · rw [List.mem_singleton.mp ha]
        exact hle
    rw [hsplit, insertLate_append hbelow, rtake_append_of_length_eq]
    · rfl
    · rw [(perm_insertLate t rest).length_eq]
      simp only [List.length_cons] at *
      omega

/-- One more offer leaves what is retained of all of them. -/
theorem Offers.retained {policy : DropPolicy} {capacity : Nat} {offers : List (Ticket α)}
    {t : Ticket α} {outcome : Option (List (Ticket α))} {kept' : List (Ticket α)}
    (h : Offers policy capacity t (retained policy capacity offers) outcome kept') :
    kept' = PriorityQueue.retained policy capacity (offers ++ [t]) := by
  cases policy with
  | dropNewest => exact h.retained_take (.inl rfl)
  | block => exact h.retained_take (.inr rfl)
  | dropOldest => exact h.retained_rtake
  | dropLowPriority => exact h.retained_sorted

namespace History

variable {h : History α} {leaves : List (Departure × Ticket α)}

/-- Offers go on from what is retained of the offers before them. -/
theorem Valid.offers {before : List (Ticket α)}
    (hv : h.Valid leaves (retained h.queue.policy h.queue.capacity before))
    (offers : List (Ticket α)) :
    ∃ h' leaves', exec History.step h (offers.map .offer) = some h' ∧
      h'.Valid leaves' (retained h.queue.policy h.queue.capacity (before ++ offers)) := by
  -- by induction on the offers, each of which goes on from what is retained so far
  induction offers generalizing h leaves before with
  | nil =>
    rw [List.append_nil]
    exact ⟨h, leaves, rfl, hv⟩
  | cons t offers ih =>
    obtain ⟨mid, leaves₁, kept₁, outcome, hstep, hmid, hsame, -, hoffers⟩ := hv.offer t
    rw [hoffers.retained, ← hsame.policy, ← hsame.capacity] at hmid
    obtain ⟨h', leaves', hrun, hv'⟩ := ih hmid
    rw [hsame.policy, hsame.capacity, List.append_assoc] at hv'
    exact ⟨h', leaves', exec_cons_eq_some.mpr ⟨mid, hstep, hrun⟩, hv'⟩

end History

theorem retained_nil (policy : DropPolicy) (capacity : Nat) :
    retained (α := α) policy capacity [] = [] := by
  cases policy with
  | dropNewest => exact List.take_nil
  | block => exact List.take_nil
  | dropOldest => exact List.rtake_nil capacity
  | dropLowPriority => exact List.rtake_nil capacity

theorem History.valid_new {capacity : Int} {policy : DropPolicy} {q : PriorityBoundedQueue α}
    (hnew : PriorityBoundedQueue.new capacity policy = some q) :
    Valid { queue := q } [] [] ∧ q.policy = policy ∧ q.capacity = capacity.toNat ∧
      (q.capacity : Int) = capacity ∧ q.accepted + q.rejected = 0 := by
  rw [PriorityBoundedQueue.new] at hnew
  split at hnew
  · cases hnew
  · rename_i hcapacity
    cases hnew
    exact ⟨.new _ (Storage.holds_empty 0 policy) rfl rfl, rfl, rfl,
      Int.toNat_of_nonneg (by omega), rfl⟩

/-- A queue never holds more than its capacity, what it accepts leaves once or is still there,
    in the order of arrival within a priority, its own counters say how many offers were
    accepted, rejected and evicted, and offers alone leave in it what its policy says. -/
theorem accepted_leave_once {capacity : Int} {policy : DropPolicy} {q : PriorityBoundedQueue α}
    (hnew : PriorityBoundedQueue.new capacity policy = some q) :
    (∀ calls : List (Call α), ∃ h, ∃ leaves : List (Departure × Ticket α), ∃ kept,
      exec History.step { queue := q } calls = some h ∧ (h.queue.depth : Int) ≤ capacity ∧
        h.left = leaves.map (Prod.map id Ticket.item) ∧
        h.queue.drain.1 = kept.map Ticket.item ∧
        Accounts policy h.accepted (leaves.map Prod.snd) kept ∧
        h.queue.accepted = h.accepted.length ∧
        h.queue.accepted = h.count .taken + h.count .drained + h.count .evicted
          + h.count .cleared + h.queue.depth ∧
        h.queue.evictedOldest + h.queue.evictedLowPriority = h.count .evicted ∧
        h.queue.accepted + h.queue.rejected = calls.countP Call.isOffer) ∧
    ∀ offers : List (Ticket α), ∃ h,
      exec History.step { queue := q } (offers.map .offer) = some h ∧
        h.queue.drain.1 = (retained policy capacity.toNat offers).map Ticket.item := by
  obtain ⟨hvalid, rfl, hcapacity, hcast, hunused⟩ := History.valid_new hnew
  constructor
  · intro calls
    obtain ⟨h, leaves, kept, hrun, hv, hsame, hoffered⟩ := hvalid.run calls
    have hdepth : h.queue.depth ≤ q.capacity := by
      rw [hv.holds.depth_eq, ← hsame.capacity]
      exact hv.length_le
    rw [hunused, Nat.zero_add] at hoffered
    refine ⟨h, leaves, kept, hrun, by omega, hv.left_eq, ?_, ?_, hv.accepted_eq,
      hv.accepted_eq_count, hv.evicted_eq, hoffered⟩
    · rw [hv.holds.drain_eq]
    · rw [← hsame.policy]
      exact hv.accounts
  · intro offers
    have hstart : History.Valid { queue := q } [] (retained q.policy q.capacity []) := by
      rw [retained_nil]
      exact hvalid
    obtain ⟨h, leaves, hrun, hv⟩ := hstart.offers offers
    refine ⟨h, hrun, ?_⟩
    rw [hv.holds.drain_eq, ← hcapacity]
    rfl

/-- Two places for four offers: the last is refused, the second is evicted, and the two that are
    left are of one priority. -/
theorem accepted_leave_once_lowPriority :
    ∃ (q : PriorityBoundedQueue Char) (h : History Char),
      PriorityBoundedQueue.new 2 .dropLowPriority = some q ∧
        exec History.step { queue := q }
          ([⟨5, 'a'⟩, ⟨1, 'b'⟩, ⟨5, 'c'⟩, ⟨0, 'd'⟩].map .offer) = some h ∧
        h.queue.drain.1 = ['a', 'c'] :=
  have hnew : PriorityBoundedQueue.new 2 .dropLowPriority
      = some ⟨2, by decide, .dropLowPriority, .empty _, 0, 0, 0, 0, 0⟩ := rfl
  have ⟨h, hrun, hdrain⟩ := (accepted_leave_once hnew).2 [⟨5, 'a'⟩, ⟨1, 'b'⟩, ⟨5, 'c'⟩, ⟨0, 'd'⟩]
  ⟨_, h, hnew, hrun, hdrain⟩

/-! ## The queue of the controllers -/

/-- A pair of the buffer of `Backpressure.PriorityBoundedQueue` as a ticket. -/
def ticket (p : Int × α) : Ticket α := ⟨p.1, p.2⟩

/-- The order in which the pairs of that buffer leave. -/
def leaving (policy : DropPolicy) (buf : List (Int × α)) : List (Int × α) :=
  if policy = .dropLowPriority then sortedBy Prod.fst buf else buf

theorem length_leaving (policy : DropPolicy) (buf : List (Int × α)) :
    (leaving policy buf).length = buf.length := by
  rw [leaving]
  split
  · exact (perm_sortedBy _ _).length_eq
  · rfl

theorem place_leaving (policy : DropPolicy) (p : Int × α) (buf : List (Int × α)) :
    place policy (ticket p) ((leaving policy buf).map ticket)
      = (leaving policy (buf ++ [p])).map ticket := by
  rw [place, leaving, leaving]
  split
  · rw [sortedBy_concat]
    exact (map_insertLate ticket fun _ _ => Iff.rfl).symm
  · rw [List.map_append]
    rfl

theorem min?_eq_of_sortedBy {buf : List (Int × α)} {p : Int × α} {rest : List (Int × α)}
    (h : sortedBy Prod.fst buf = p :: rest) : (buf.map Prod.fst).min? = some p.1 := by
  have hperm : (p :: rest).Perm buf := h ▸ perm_sortedBy Prod.fst buf
  have hsorted := pairwise_sortedBy Prod.fst buf
  rw [h] at hsorted
  -- the first in order is a least priority
  refine List.min?_eq_some_iff.mpr ⟨List.mem_map_of_mem (hperm.mem_iff.mp List.mem_cons_self), ?_⟩
  intro k hk
  obtain ⟨r, hr, rfl⟩ := List.mem_map.mp hk
  rcases List.mem_cons.mp (hperm.mem_iff.mpr hr) with rfl | hr
  · exact le_refl _
  · exact (List.pairwise_cons.mp hsorted).1 r hr

/-- What an offer does to the tickets, it does to that queue. -/
theorem Offers.offer_eq {o : Backpressure.PriorityBoundedQueue α} {p : Int × α}
    {outcome : Option (List (Ticket α))} {kept' : List (Ticket α)}
    (h : Offers o.policy o.capacity (ticket p) ((leaving o.policy o.buf).map ticket) outcome
      kept') :
    (o.offer p.2 p.1).1.accepted = outcome.isSome ∧
      (o.offer p.2 p.1).1.evicted.toList = (outcome.getD []).map Ticket.item ∧
      (leaving o.policy (o.offer p.2 p.1).2.buf).map ticket = kept' := by
  have hlength : ((leaving o.policy o.buf).map ticket).length = o.buf.length := by
    rw [List.length_map, length_leaving]
  rw [Backpressure.PriorityBoundedQueue.offer]
  cases h with
  | room hroom =>
    rw [if_pos (hlength ▸ hroom)]
    exact ⟨rfl, rfl, (place_leaving o.policy p o.buf).symm⟩
  | refused hfull hless hne =>
    rw [if_neg (hlength ▸ Nat.not_lt.mpr hfull)]
    cases hpolicy : o.policy with
    | dropNewest => exact ⟨rfl, rfl, rfl⟩
    | block => exact ⟨rfl, rfl, rfl⟩
    | dropOldest => exact absurd hpolicy hne
    | dropLowPriority =>
      dsimp only
      -- the least priority of the pairs is that of the first in order
      cases hbuf : sortedBy Prod.fst o.buf with
      | nil =>
        have hnil : o.buf = [] := (hbuf ▸ perm_sortedBy Prod.fst o.buf).nil_eq.symm
        have hpeek : o.peekLowestPriority = none := by
          rw [Backpressure.PriorityBoundedQueue.peekLowestPriority, hnil]
          rfl
        rw [hpeek]
        exact ⟨rfl, rfl, rfl⟩
      | cons head rest =>
        rw [Backpressure.PriorityBoundedQueue.peekLowestPriority, min?_eq_of_sortedBy hbuf]
        have hlt : p.1 < head.1 := by
          refine hless hpolicy (ticket head) ?_
          rw [hpolicy, leaving, if_pos rfl, hbuf]
          rfl
        dsimp only
        rw [if_pos hlt]
        exact ⟨rfl, rfl, rfl⟩
  | evicts head rest hfull hkept hevicts =>
    rw [if_neg (hlength ▸ Nat.not_lt.mpr hfull)]
    -- the evicted ticket is the first pair in the order of the policy
    obtain ⟨first, others, hfirst, rfl, rfl⟩ := List.map_eq_cons_iff.mp hkept
    rcases hevicts with hpolicy | ⟨hpolicy, hle⟩
    · rw [hpolicy] at hfirst ⊢
      have hbuf : o.buf = first :: others := hfirst
      dsimp only
      rw [hbuf]
      exact ⟨rfl, rfl, (place_leaving .dropOldest p others).symm⟩
    · rw [hpolicy] at hfirst ⊢
      have hbuf : sortedBy Prod.fst o.buf = first :: others := hfirst
      -- the pair that `eraseP` finds is the first in the order
      obtain ⟨hfind, hothers⟩ := sortedBy_eq_cons hbuf
      dsimp only
      rw [Backpressure.PriorityBoundedQueue.peekLowestPriority, min?_eq_of_sortedBy hbuf]
      dsimp only
      have hnot : ¬ p.1 < first.1 := not_lt.mpr hle
      rw [if_neg hnot, hfind]
      refine ⟨rfl, rfl, ?_⟩
      rw [hothers]
      exact (place_leaving .dropLowPriority p (o.buf.eraseP (·.1 = first.1))).symm

/-- `PriorityBoundedQueue` with its storages answers as that queue does. -/
theorem offer_refines {q : PriorityBoundedQueue α} {o : Backpressure.PriorityBoundedQueue α}
    (hcapacity : q.capacity = o.capacity) (hpolicy : q.policy = o.policy)
    (h : q.Holds ((leaving o.policy o.buf).map ticket)) (item : α) (priority : Int) :
    ∃ verdict q', q.offer item priority = some (verdict, q') ∧ q.SameQueue q' ∧
      verdict.accepted = (o.offer item priority).1.accepted ∧
      verdict.evicted = (o.offer item priority).1.evicted ∧
      q'.Holds ((leaving o.policy (o.offer item priority).2.buf).map ticket) := by
  obtain ⟨verdict, q', outcome, kept', hoffer, hoffers, hholds, hsame, haccepted, hevicted, -⟩ :=
    h.offer_offers (ticket (priority, item))
  rw [hcapacity, hpolicy] at hoffers
  obtain ⟨haccepted', hevicted', hkept'⟩ := hoffers.offer_eq
  refine ⟨verdict, q', hoffer, hsame, haccepted.trans haccepted'.symm, ?_, hkept' ▸ hholds⟩
  -- an offer evicts at most one, so the lists say the same as the options
  have hlists := congrArg List.head? (hevicted.trans hevicted'.symm)
  rwa [Option.head?_toList, Option.head?_toList] at hlists

end AsyncViz.Runtime.Backpressure.PriorityQueue
