/-
  AsyncViz.Dashboard.Ordering

  The publish order as the store sees it.

  `publish` allocates the sequence at the call, but a call from another thread
  enters the channel later, through `call_soon_threadsafe`.  An item published on
  the loop in between overtakes it, and the store then rejects the older one as
  stale (`overtaken_is_stale`).  As long as no step lets an item overtake an older
  one, every history is increasing and nothing is stale (`publish_order`).
-/

import AsyncViz.Dashboard.Pipeline

namespace AsyncViz.Dashboard

open AsyncViz.Lib AsyncViz.Lib.Transition AsyncViz.Runtime AsyncViz.Runtime.Queue
open AsyncViz.Runtime.State AsyncViz.Runtime.Replay

namespace Pipeline

/-- The step does not let an item overtake an older one. -/
def InOrder (s : Pipeline) : Action → Prop
  | .transport a => s.transport.InOrder a
  | .deliver _ => True

/-- Step lemma: a step in order keeps the path of the transport increasing. -/
theorem step_increasing {s s' : Pipeline} {a : Action} (hinv : Inv s)
    (hpath : s.transport.Increasing) (horder : InOrder s a) (h : step s a = some s') :
    s'.transport.Increasing := by
  cases stepped_of_step h with
  | transport guard moved => exact Transport.step_increasing hinv.transport hpath horder moved
  | deliver busy pending => exact hpath

/-- Run lemma. -/
theorem exec_increasing {s s' : Pipeline} {acts : List Action} (hinv : Inv s)
    (hpath : s.transport.Increasing) (horder : AllSteps step InOrder s acts)
    (h : exec step s acts = some s') : Inv s' ∧ s'.transport.Increasing :=
  exec_invariant_of_allSteps (I := fun s => Inv s ∧ s.transport.Increasing)
    (fun _ _ _ hs ha hstep => ⟨step_inv hs.1 hstep, step_increasing hs.1 hs.2 ha hstep⟩)
    ⟨hinv, hpath⟩ horder h

/-- In order, what waits after a step of the transport waited before or got its
    sequence in the step. -/
theorem waiting_transport {s s' : Pipeline} {a : Transport.Action} (hinv : Inv s) (hinv' : Inv s')
    (hpath' : s'.transport.Increasing) (h : step s (.transport a) = some s')
    {item : QueuedEvent} (hitem : item ∈ s'.waiting) :
    item ∈ s.waiting ∨ s.transport.clock.currentSequence < item.sequence := by
  rw [Transport.Increasing] at hpath'
  rw [path_eq hinv'] at hpath'
  have hnew : item ∈ s'.transport.path := by
    rw [path_eq hinv']
    exact List.mem_append_right _ hitem
  cases stepped_of_step h with
  | transport guard moved =>
    -- it was on its way before, or it is new
    rcases Transport.path_step hinv.transport moved hnew with hold | ⟨hfresh, -⟩
    · rw [path_eq hinv] at hold
      rcases List.mem_append.mp hold with hforwarded | hwaiting
      · -- a forwarded item comes before all that waits
        have hbefore := (List.pairwise_append.mp hpath').2.2 item hforwarded item hitem
        exact absurd hbefore (lt_irrefl item.sequence)
      · exact .inl hwaiting
    · exact .inr hfresh

/-- The hook takes the first item that waits. -/
theorem waiting_deliver {s s' : Pipeline} {now : ℚ} (h : step s (.deliver now) = some s') :
    ∃ item, s.transport.inFlight = some item ∧ s'.forwarded = s.forwarded ++ [item] ∧
      s.waiting = item :: s'.waiting ∧ s'.transport = s.transport := by
  cases stepped_of_step h with
  | @deliver now item busy pending =>
    refine ⟨item, busy, rfl, ?_, rfl⟩
    rw [waiting, undelivered]
    rw [pending, busy]
    rfl

/-- It is broadcast if it serializes. -/
theorem wire_deliver {s s' : Pipeline} {item : QueuedEvent}
    (h : s'.forwarded = s.forwarded ++ [item]) :
    s'.wire = s.wire ++ [item].filter fun item => item.event.serializes := by
  rw [wire, wire, h, List.filter_append]

/-- Every item of a fresh runtime has a positive sequence. -/
theorem sequence_pos {clock : RuntimeClock} {queue : InternalEventQueue} {s : Transport}
    {acts : List Transport.Action} (hinv : (Transport.start clock queue).Inv)
    (h : exec Transport.step (.start clock queue) acts = some s) {item : QueuedEvent}
    (hitem : item ∈ s.stamped) : 0 < item.sequence := by
  obtain ⟨-, hextends⟩ := Transport.exec_extends hinv h
  have hnonneg := clock.currentSequence_nonneg
  -- a fresh runtime has stamped nothing, so the item is new since
  rcases hextends.fresh item hitem with hold | hnew
  · cases hold
  · have hnew' : clock.currentSequence < item.sequence := hnew
    omega

/-- The store's mark lies below an item that the hook has yet to see, when that
    item comes after all those forwarded. -/
theorem mark_lt_of_before {s : Pipeline} (hinv : Inv s) {item : QueuedEvent}
    (hpos : 0 < item.sequence) (hbefore : ∀ x ∈ s.forwarded, x.sequence < item.sequence) :
    s.bound.store.lastSequence < item.sequence := by
  rw [hinv.mark_eq]
  cases hlast : s.applied.getLast? with
  | none => exact hpos
  | some x => exact hbefore x (hinv.applied_sublist.subset (List.mem_of_getLast? hlast))

/-- **Publish order.**  In every state of a run whose steps are all in order, the
    items dispatched and queued, the retained ones and the ones applied are in
    strictly increasing sequence order, and the item the store is about to see is
    not stale. -/
theorem publish_order (clock : RuntimeClock) (capacity : Nat) (hcap : 0 < capacity)
    (retention : Nat) (overflow : OverflowStrategy) (frames checkpoints : Nat) (hf : 0 < frames)
    (hc : 0 < checkpoints) (acts : List Action) (s : Pipeline)
    (hrun : exec step (fresh clock hcap retention overflow hf hc) acts = some s)
    (horder : AllSteps step InOrder (fresh clock hcap retention overflow hf hc) acts) :
    (s.transport.dispatched ++ s.transport.queue.items).Pairwise Transport.Before ∧
      s.transport.queue.retention.items.Pairwise Transport.Before ∧
      s.forwarded.Pairwise Transport.Before ∧
      ∀ item, s.transport.inFlight = some item → s.delivered = false →
        s.bound.store.policy.evaluate (some item.sequence) item.event.eventId ≠ .stale := by
  have hstart := inv_start clock hcap retention overflow hf hc
  obtain ⟨hinv, hpath⟩ := exec_increasing hstart List.Pairwise.nil horder hrun
  have htransport := exec_transport hrun
  have hqueued : (s.transport.dispatched ++ s.transport.queue.items).Pairwise Transport.Before := by
    rw [Transport.Increasing, Transport.path] at hpath
    rw [List.append_assoc] at hpath
    exact (List.pairwise_append.mp hpath).1
  have hdispatched := (List.pairwise_append.mp hqueued).1
  have hretention := Transport.reachable_retention_sublist ⟨_, htransport⟩
  rw [hinv.dispatched_eq] at hdispatched
  refine ⟨hqueued, ?_, (List.pairwise_append.mp hdispatched).1, ?_⟩
  -- the retained items are some of the dispatched ones
  · rw [← hinv.dispatched_eq] at hdispatched
    exact List.Pairwise.sublist hretention hdispatched
  · intro item hbusy hpending
    apply ReconciliationPolicy.evaluate_ne_stale
    have hundelivered : s.undelivered = [item] := by
      rw [undelivered]
      rw [hpending, hbusy]
      rfl
    rw [hundelivered] at hdispatched
    have hmem : item ∈ s.transport.stamped := by
      apply Transport.mem_stamped_of_mem_path hinv.transport
      rw [Transport.path]
      rw [hinv.dispatched_eq, hundelivered]
      simp
    -- all forwarded items were dispatched before it
    apply mark_lt_of_before hinv (sequence_pos hstart.transport htransport hmem)
    intro x hx
    exact (List.pairwise_append.mp hdispatched).2.2 x hx item (List.mem_singleton_self item)

/-- The creation of a task, with the task's id as the event's. -/
private def sampleCreated (id : String) : RuntimeEvent :=
  { eventId := id, body := .taskCreated { taskId := id } }

/-- A small runtime. -/
private abbrev sampleRuntime : Pipeline := small

/-- A cross-thread publish that reaches the loop before the next local publish. -/
theorem publish_order_handed_over :
    ∃ s item, exec step sampleRuntime
        [.transport (.allocate (sampleCreated "a")), .transport (.schedule 0),
          .transport .runCallback, .transport (.publish (sampleCreated "b")), .transport .take,
          .deliver 0, .transport .finish, .transport .take] = some s ∧
      s.transport.inFlight = some item ∧
      s.bound.store.policy.evaluate (some item.sequence) item.event.eventId ≠ .stale := by
  obtain ⟨s, hs⟩ : ∃ s, exec step sampleRuntime
      [.transport (.allocate (sampleCreated "a")), .transport (.schedule 0),
        .transport .runCallback, .transport (.publish (sampleCreated "b")), .transport .take,
        .deliver 0, .transport .finish, .transport .take] = some s := ⟨_, rfl⟩
  have hbusy : s.transport.inFlight = some ⟨2, sampleCreated "b"⟩ := by
    obtain rfl := Option.some.inj hs
    rfl
  have hpending : s.delivered = false := by
    obtain rfl := Option.some.inj hs
    rfl
  have horder : AllSteps step InOrder sampleRuntime
      [.transport (.allocate (sampleCreated "a")), .transport (.schedule 0),
        .transport .runCallback, .transport (.publish (sampleCreated "b")), .transport .take,
        .deliver 0, .transport .finish, .transport .take] := by
    exact .cons rfl trivial <| .cons rfl rfl <| .cons rfl trivial <| .cons rfl (.inl rfl) <|
      .cons rfl trivial <| .cons rfl trivial <| .cons rfl trivial <| .cons rfl trivial trivial
  obtain ⟨-, -, -, hfresh⟩ := publish_order (.start "r") 8 (by decide) 8 .dropOldest 8 2
    (by decide) (by decide) _ s hs horder
  exact ⟨s, _, hs, hbusy, hfresh _ hbusy hpending⟩

/-- A thread publishes the creation of a task and gets sequence 1; before the loop
    runs its callback, the loop publishes another creation under sequence 2.  The
    item of sequence 1 is dispatched second, and the store calls it stale. -/
theorem overtaken_is_stale :
    ∃ s item, exec step sampleRuntime
        [.transport (.allocate (sampleCreated "a")), .transport (.publish (sampleCreated "b")),
          .transport (.schedule 0), .transport .runCallback, .transport .take, .deliver 0,
          .transport .finish, .transport .take] = some s ∧
      s.transport.dispatched.map QueuedEvent.sequence = [2, 1] ∧
      s.transport.inFlight = some item ∧ s.delivered = false ∧
      s.bound.store.policy.evaluate (some item.sequence) item.event.eventId = .stale := by
  refine ⟨_, ⟨1, sampleCreated "a"⟩, rfl, ?_, ?_, ?_, ?_⟩
  · decide
  · rfl
  · decide
  · decide

end Pipeline

end AsyncViz.Dashboard
