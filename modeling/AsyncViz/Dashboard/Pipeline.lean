/-
  AsyncViz.Dashboard.Pipeline

  The dashboard's event path as a transition system: the transport of the queue,
  and the post-dispatch hook `WebSocketBridge._forward_queued`
  (`dashboard/websocket/bridge.py`) that applies each dispatched item to the state
  store, whose bound replay buffer observes it, and broadcasts it as a
  `runtime_event`.

  The hook runs once for the item in flight, before its `task_done`.  The bridge
  broadcasts every dispatched item that serializes, also one the store refuses; one
  that does not is offered to the store all the same, and the log keeps no frame of it.

  `capture` is what a snapshot pairs: the clock's sequence and the task list.
  Both `WebSocketBridge.capture_snapshot` and `SnapshotService.capture` read them on
  the loop that dispatches, with no suspension in between, so a capture is one step.
-/

import AsyncViz.Runtime.Queue.Ordering
import AsyncViz.Runtime.Replay.Completeness

namespace AsyncViz.Dashboard

open AsyncViz.Lib AsyncViz.Lib.Transition AsyncViz.Runtime AsyncViz.Runtime.Queue
open AsyncViz.Runtime.State AsyncViz.Runtime.Replay

/-- The replay frame of a queued event, if it serializes. -/
def itemFrame (item : QueuedEvent) : Option ReplayFrame := frameFromEvent item.event item.sequence

/-- The arguments `apply_queued` passes to the store. -/
def applyQueued (item : QueuedEvent) (now : ℚ) : ApplyCall := ⟨item.event, some item.sequence, now⟩

/-- The path from the publishers to the websocket. -/
structure Pipeline where
  transport : Transport
  /-- The state store and the replay buffer bound to it. -/
  bound : BoundStore
  /-- The hook has run for the item in flight. -/
  delivered : Bool
  /-- History: the items that the hook offered to the store, in order. -/
  forwarded : List QueuedEvent
  /-- History: the items the store applied, in order. -/
  applied : List QueuedEvent

namespace Pipeline

/-- A runtime whose queue, store and buffer were just set up. -/
def start (clock : RuntimeClock) (queue : InternalEventQueue) (buffer : EventReplayBuffer) :
    Pipeline :=
  { transport := .start clock queue
    bound := ⟨.new, buffer⟩
    delivered := false
    forwarded := []
    applied := [] }

/-- The steps of the transport, and the hook on the item in flight. -/
inductive Action where
  | transport (a : Transport.Action)
  | deliver (now : ℚ)

/-- The `task_done` of the dispatcher, which comes after the hook. -/
def isFinish : Transport.Action → Bool
  | .finish => true
  | _ => false

/-- `_forward_queued(item)`: apply, then broadcast (`wire`). -/
def forwardQueued (s : Pipeline) (item : QueuedEvent) (now : ℚ) : Pipeline :=
  let call := applyQueued item now
  let decision := (s.bound.store.apply call.now call.event call.sequence).1
  { s with
    bound := s.bound.next (.apply call)
    delivered := true
    forwarded := s.forwarded ++ [item]
    applied := if decision = .apply then s.applied ++ [item] else s.applied }

/-- One step; `none` when the action is not enabled. -/
def step (s : Pipeline) : Action → Option Pipeline
  | .transport a =>
    -- `task_done` has to wait for the hook
    if isFinish a && !s.delivered then none
    else
      match s.transport.step a with
      | none => none
      | some transport =>
        some { s with transport := transport, delivered := s.delivered && !isFinish a }
  | .deliver now =>
    match s.transport.inFlight with
    | none => none
    | some item => if s.delivered then none else some (s.forwardQueued item now)

/-- The items broadcast as `runtime_event`, in order: where `to_dict` raises, the bridge
    counts a failure and sends nothing. -/
def wire (s : Pipeline) : List QueuedEvent :=
  s.forwarded.filter fun item => item.event.serializes

/-- The item in flight that has not been through the hook. -/
def undelivered (s : Pipeline) : List QueuedEvent :=
  if s.delivered then [] else s.transport.inFlight.toList

/-- The items that have a sequence and have not been offered to the store. -/
def waiting (s : Pipeline) : List QueuedEvent :=
  s.undelivered ++ s.transport.queue.items ++ s.transport.callbacks ++ s.transport.allocated

/-- The two fields of a snapshot that a client resumes from. -/
structure Capture where
  lastSequence : Int
  tasks : List Tasks.TaskSnapshot

/-- `capture_snapshot` and `SnapshotService.capture`. -/
def capture (s : Pipeline) : Capture :=
  { lastSequence := s.transport.clock.currentSequence
    tasks := s.bound.store.snapshot.1.tasks }

/-! ## What a step can do -/

/-- Every step, with its guard and the state it leads to. -/
inductive Stepped (s : Pipeline) : Action → Pipeline → Prop where
  | transport {a : Transport.Action} {transport : Transport}
      (guard : isFinish a = true → s.delivered = true)
      (moved : s.transport.step a = some transport) :
      Stepped s (.transport a)
        { s with transport := transport, delivered := s.delivered && !isFinish a }
  | deliver {now : ℚ} {item : QueuedEvent} (busy : s.transport.inFlight = some item)
      (pending : s.delivered = false) :
      Stepped s (.deliver now) (s.forwardQueued item now)

theorem stepped_of_step {s s' : Pipeline} {a : Action} (h : step s a = some s') :
    Stepped s a s' := by
  cases a with
  | transport a =>
    rw [step] at h
    split at h
    · cases h
    · next hguard =>
      have hdelivered : isFinish a = true → s.delivered = true := by
        intro hfinish
        rw [hfinish] at hguard
        simpa using hguard
      cases hmoved : s.transport.step a with
      | none =>
        rw [hmoved] at h
        cases h
      | some transport =>
        rw [hmoved] at h
        rw [← Option.some.inj h]
        exact .transport hdelivered hmoved
  | deliver now =>
    rw [step] at h
    cases hbusy : s.transport.inFlight with
    | none =>
      rw [hbusy] at h
      cases h
    | some item =>
      rw [hbusy] at h
      dsimp only at h
      split at h
      · cases h
      · next hpending =>
        rw [← Option.some.inj h]
        exact .deliver hbusy (Bool.eq_false_iff.mpr hpending)

/-- Every run of the pipeline is a run of its transport. -/
theorem exec_transport {s s' : Pipeline} {acts : List Action} (h : exec step s acts = some s') :
    exec Transport.step s.transport
      (acts.filterMap fun
        | .transport a => some a
        | .deliver _ => none) = some s'.transport := by
  refine exec_project transport _ (fun s a s' hstep => ?_) h
  cases stepped_of_step hstep with
  | transport guard moved => exact moved
  | deliver busy pending => rfl

/-! ## The two outcomes of the hook -/

/-- What the hook did: the store refused the item and keeps its mark and its
    states, or it applied the item, which then lies above the old mark. -/
inductive Forwarded (s : Pipeline) (item : QueuedEvent) (s' : Pipeline) : Prop where
  | refused
      (refusal : s.bound.store.policy.evaluate (some item.sequence) item.event.eventId ≠ .apply ∨
        s.bound.store.states.legal item.event.body = false)
      (applied_eq : s'.applied = s.applied)
      (mark_eq : s'.bound.store.lastSequence = s.bound.store.lastSequence)
      (states_eq : s'.bound.store.states = s.bound.store.states)
      (appends_eq : ∀ now, s.bound.appends (.apply (applyQueued item now)) = [])
  | admitted
      (evaluated : s.bound.store.policy.evaluate (some item.sequence) item.event.eventId = .apply)
      (applied_eq : s'.applied = s.applied ++ [item])
      (mark_lt : s.bound.store.lastSequence < item.sequence)
      (mark_eq : s'.bound.store.lastSequence = item.sequence)
      (states_eq : s'.bound.store.states = s.bound.store.states.move item.event.body)
      (appends_eq : ∀ now,
        s.bound.appends (.apply (applyQueued item now)) = (itemFrame item).toList)

/-- What the hook does with an item: the store decides, the log follows, the wire may lack it. -/
theorem forwardQueued_forwarded (s : Pipeline) (item : QueuedEvent) (now : ℚ) :
    Forwarded s item (s.forwardQueued item now) := by
  have happlies := RuntimeStateStore.apply_applies s.bound.store now item.event
    (some item.sequence)
  have happends : ∀ now, s.bound.appends (.apply (applyQueued item now)) =
      if s.bound.store.policy.evaluate (some item.sequence) item.event.eventId = .apply ∧
        s.bound.store.states.legal item.event.body = true then (itemFrame item).toList else [] := by
    intro now'
    rw [BoundStore.appends]
    by_cases hboth :
        s.bound.store.policy.evaluate (some item.sequence) item.event.eventId = .apply ∧
          s.bound.store.states.legal item.event.body = true
    · have hone : RuntimeStateStore.admitted s.bound.store.policy s.bound.store.states
          [applyQueued item now'] = [applyQueued item now'] := if_pos hboth
      have hframe : callFrame (applyQueued item now') = itemFrame item := rfl
      rw [hone, if_pos hboth, List.filterMap_cons, hframe]
      cases itemFrame item <;> rfl
    · have hnone : RuntimeStateStore.admitted s.bound.store.policy s.bound.store.states
          [applyQueued item now'] = [] := if_neg hboth
      rw [hnone, if_neg hboth]
      rfl
  -- from here on only these two fields of the state after the hook matter
  have hstore : (s.forwardQueued item now).bound.store =
      (s.bound.store.apply now item.event (some item.sequence)).2.1 := rfl
  have happlied : (s.forwardQueued item now).applied =
      if (s.bound.store.apply now item.event (some item.sequence)).1 = .apply
        then s.applied ++ [item] else s.applied := rfl
  generalize s.forwardQueued item now = s' at hstore happlied ⊢
  generalize s.bound.store.apply now item.event (some item.sequence) = r
    at happlies hstore happlied
  cases happlies with
  | refused refusal decision_ne policy_eq states_eq =>
    have hno : ¬ (s.bound.store.policy.evaluate (some item.sequence) item.event.eventId = .apply ∧
        s.bound.store.states.legal item.event.body = true) :=
      RuntimeStateStore.not_admitted_of_refusal refusal
    refine .refused refusal (happlied.trans (if_neg decision_ne)) ?_ ?_
      (fun now => (happends now).trans (if_neg hno))
    · unfold RuntimeStateStore.lastSequence
      rw [hstore, policy_eq]
    · rw [hstore, states_eq]
  | admitted evaluated legal policy_eq states_eq =>
    have hlt := (ReconciliationPolicy.evaluate_eq_apply_iff.mp evaluated).2 item.sequence rfl
    refine .admitted evaluated (happlied.trans (if_pos rfl)) hlt ?_ ?_
      (fun now => (happends now).trans (if_pos ⟨evaluated, legal⟩))
    · rw [RuntimeStateStore.lastSequence]
      rw [hstore, policy_eq, ReconciliationPolicy.recordApplied_lastSequence_some hlt]
    · rw [hstore, states_eq]

/-! ## Invariants -/

/-- What holds in every reachable state: the dispatched items are those forwarded
    and the one the hook has yet to see; the store applied some of those forwarded, its
    mark is the last of them, and the replay log is theirs. -/
structure Inv (s : Pipeline) : Prop where
  transport : s.transport.Inv
  dispatched_eq : s.transport.dispatched = s.forwarded ++ s.undelivered
  delivered_busy : s.delivered = true → s.transport.inFlight.isSome = true
  applied_sublist : s.applied.Sublist s.forwarded
  mark_eq : s.bound.store.lastSequence = (s.applied.getLast?.map QueuedEvent.sequence).getD 0
  log : BoundStore.LogInv s.bound (s.applied.filterMap itemFrame)
  states_eq : s.bound.store.states =
    (s.applied.map fun item => item.event.body).foldl TaskStates.move .initial

/-- The path of the transport is what was forwarded and what waits. -/
theorem path_eq {s : Pipeline} (hinv : Inv s) : s.transport.path = s.forwarded ++ s.waiting := by
  rw [Transport.path, waiting]
  rw [hinv.dispatched_eq]
  simp only [List.append_assoc]

/-- What waits has its sequence from the clock. -/
theorem waiting_le_clock {s : Pipeline} (hinv : Inv s) {item : QueuedEvent}
    (h : item ∈ s.waiting) : item.sequence ≤ s.transport.clock.currentSequence := by
  apply hinv.transport.order.sequence_le
  apply Transport.mem_stamped_of_mem_path hinv.transport
  rw [path_eq hinv]
  exact List.mem_append_right _ h

/-- A step of the transport other than `take` and `finish` leaves the dispatcher's
    hands alone. -/
theorem transport_dispatched {t t' : Transport} {a : Transport.Action}
    (h : t.step a = some t') :
    (t'.dispatched = t.dispatched ∧ t'.inFlight = t.inFlight ∧ isFinish a = false) ∨
    (∃ item, t.inFlight = none ∧ t'.inFlight = some item ∧
      t'.dispatched = t.dispatched ++ [item] ∧ isFinish a = false) ∨
    (t'.dispatched = t.dispatched ∧ t'.inFlight = none ∧ isFinish a = true) := by
  cases Transport.stepped_of_step h with
  | publish | publishRefused | allocate | allocateRefused | schedule | runCallback
  | subscriberFailed | tick | tickRefused | join => exact .inl ⟨rfl, rfl, rfl⟩
  | take alive idle head => exact .inr (.inl ⟨_, idle, rfl, rfl, rfl⟩)
  | finish busy done => exact .inr (.inr ⟨rfl, rfl, rfl⟩)
  | finishUnderflow busy underflow => exact .inr (.inr ⟨rfl, rfl, rfl⟩)

theorem inv_start (clock : RuntimeClock) {capacity : Nat} (h : 0 < capacity) (retention : Nat)
    (overflow : OverflowStrategy) {frames checkpoints : Nat} (hf : 0 < frames)
    (hc : 0 < checkpoints) :
    Inv (start clock (.started capacity h retention overflow) (.new frames hf checkpoints hc)) :=
  { transport := Transport.inv_start clock h retention overflow
    dispatched_eq := rfl
    delivered_busy := fun h => by cases h
    applied_sublist := .refl _
    mark_eq := rfl
    log := BoundStore.logInv_bound .new hf hc
    states_eq := rfl }

/-- Every step keeps the invariants of transport and store; the hook alone moves the latter. -/
theorem step_inv {s s' : Pipeline} {a : Action} (hinv : Inv s) (h : step s a = some s') :
    Inv s' := by
  have hdispatched := hinv.dispatched_eq
  cases stepped_of_step h with
  | @transport a transport guard moved =>
    have hnext := Transport.step_inv hinv.transport moved
    refine ⟨hnext, ?_, ?_, hinv.applied_sublist, hinv.mark_eq, hinv.log, hinv.states_eq⟩
    -- dispatched items were forwarded, or the hook has yet to see them
    · show transport.dispatched = s.forwarded ++
        if (s.delivered && !isFinish a) = true then [] else transport.inFlight.toList
      rw [undelivered] at hdispatched
      rcases transport_dispatched moved with
        ⟨hsame, hflight, hno⟩ | ⟨item, hidle, hbusy, hone, hno⟩ | ⟨hsame, hidle, hyes⟩
      · rw [hsame, hflight, hno, Bool.not_false, Bool.and_true]
        exact hdispatched
      -- the dispatcher was idle, so the hook cannot have run for an item in flight
      · have hnot : s.delivered = false := by
          cases hd : s.delivered with
          | false => rfl
          | true =>
            have hsome := hinv.delivered_busy hd
            rw [hidle] at hsome
            cases hsome
        rw [hone, hbusy, hno, hnot, hdispatched, hnot, hidle]
        simp
      · have hd := guard hyes
        rw [hsame, hidle, hdispatched, hd]
        simp
    · show (s.delivered && !isFinish a) = true → transport.inFlight.isSome = true
      intro hd
      obtain ⟨hd, hno⟩ := Bool.and_eq_true_iff.mp hd
      have hsome := hinv.delivered_busy hd
      rcases transport_dispatched moved with
        ⟨-, hflight, -⟩ | ⟨item, -, hbusy, -, -⟩ | ⟨-, -, hyes⟩
      · rw [hflight]
        exact hsome
      · rw [hbusy]
        rfl
      · rw [hyes] at hno
        cases hno
  | @deliver now item busy pending =>
    have hforwarded := forwardQueued_forwarded s item now
    have hlog := BoundStore.logInv_next hinv.log (applyQueued item now)
    have hforwarded' : (s.forwardQueued item now).forwarded = s.forwarded ++ [item] := rfl
    have hbound : (s.forwardQueued item now).bound =
        s.bound.next (.apply (applyQueued item now)) := rfl
    have hempty : (s.forwardQueued item now).undelivered = [] := rfl
    have hundelivered : s.undelivered = [item] := by
      rw [undelivered]
      rw [pending, busy]
      rfl
    rw [hundelivered] at hdispatched
    have hsame : s.transport.dispatched = (s.forwardQueued item now).forwarded ++
        (s.forwardQueued item now).undelivered := by
      rw [hempty, hforwarded', List.append_nil]
      exact hdispatched
    have hsome : s.transport.inFlight.isSome = true := by
      rw [busy]
      rfl
    cases hforwarded with
    -- the forwarded items grow, the store and its log stay
    | refused refusal applied_eq mark_eq states_eq appends_eq =>
      rw [appends_eq, List.append_nil] at hlog
      refine ⟨hinv.transport, hsame, fun _ => hsome, ?_, ?_, ?_, ?_⟩
      · rw [applied_eq, hforwarded']
        exact hinv.applied_sublist.trans (List.sublist_append_left _ _)
      · rw [applied_eq, mark_eq]
        exact hinv.mark_eq
      · rw [applied_eq]
        exact hlog
      · rw [applied_eq, states_eq]
        exact hinv.states_eq
    | admitted evaluated applied_eq mark_lt mark_eq states_eq appends_eq =>
      rw [appends_eq] at hlog
      refine ⟨hinv.transport, hsame, fun _ => hsome, ?_, ?_, ?_, ?_⟩
      · rw [applied_eq, hforwarded']
        exact hinv.applied_sublist.append_right [item]
      · rw [applied_eq, mark_eq, List.getLast?_concat]
        rfl
      · rw [applied_eq, List.filterMap_append, List.filterMap_cons, List.filterMap_nil]
        cases hframe : itemFrame item <;> rw [hframe] at hlog <;> exact hlog
      · rw [applied_eq, states_eq, hinv.states_eq, List.map_append, List.foldl_append]
        rfl

/-- The pipeline of a fresh runtime. -/
abbrev fresh (clock : RuntimeClock) {capacity : Nat} (h : 0 < capacity) (retention : Nat)
    (overflow : OverflowStrategy) {frames checkpoints : Nat} (hf : 0 < frames)
    (hc : 0 < checkpoints) : Pipeline :=
  start clock (.started capacity h retention overflow) (.new frames hf checkpoints hc)

/-- A fresh pipeline with little room. -/
abbrev small : Pipeline :=
  fresh (.start "r") (by decide : 0 < 8) 8 .dropOldest (by decide : 0 < 8) (by decide : 0 < 2)

section Reachable

variable {clock : RuntimeClock} {capacity : Nat} {h : 0 < capacity} {retention : Nat}
variable {overflow : OverflowStrategy} {frames checkpoints : Nat} {hf : 0 < frames}
variable {hc : 0 < checkpoints} {s : Pipeline}

theorem reachable_inv
    (hreach : Reachable step (fresh clock h retention overflow hf hc) s) : Inv s :=
  hreach.invariant (fun _ _ _ => step_inv) (inv_start clock h retention overflow hf hc)

end Reachable

end Pipeline

end AsyncViz.Dashboard
