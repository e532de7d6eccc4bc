/-
  AsyncViz.Dashboard.Streaming

  `RuntimeStreamingEngine` on the timeline (`dashboard/websocket/streaming/engine.py`),
  composed with the event path.

  The hook applies an item to the store, whose listener drives the timeline engine;
  each delta of the engine is given a sequence of its own by `_on_timeline_delta`, from
  the clock that `publish` allocates from.  All of this runs before the hook gives up
  the loop, so that meanwhile only other threads make steps.  The broadcasts of the
  deltas take one more turn of the loop than the item's own, so the item goes out first
  and the deltas behind it, before the next item is dispatched.

  A delta is numbered when its item is dispatched, and the items behind it in the channel
  when they were published: a backlog puts a delta ahead of older items
  (`backlog_is_stale`).  With nothing waiting whenever a delta is numbered, a client
  keeps every event that serializes exactly once (`every_event_accepted`).
-/

import AsyncViz.Dashboard.Ordering
import AsyncViz.Frontend.Models
import AsyncViz.Frontend.Sequencing
import AsyncViz.Runtime.Timeline.Engine

namespace AsyncViz.Dashboard

open AsyncViz.Frontend AsyncViz.Lib.Transition AsyncViz.Runtime AsyncViz.Runtime.Metrics
open AsyncViz.Runtime.Queue AsyncViz.Runtime.State AsyncViz.Runtime.Timeline
open AsyncViz.Runtime.Warnings

/-! ## The ordered envelopes -/

/-- An ordered envelope on its way to the clients, by the call that builds it:
    `_forward_queued`, `_on_metrics_delta`, `_on_warning_delta`, `_on_timeline_delta`. -/
inductive Frame where
  | runtimeEvent (item : QueuedEvent)
  | metricsDelta (delta : MetricsDelta)
  | warningDelta (delta : WarningDelta)
  | timelineDelta (wireSequence : Int) (delta : TimelineDelta)

namespace Frame

/-- The sequence of the envelope: the item's, the delta's own, or a fresh one. -/
def sequence : Frame → Option Int
  | .runtimeEvent item => some item.sequence
  | .metricsDelta delta => delta.sequence
  | .warningDelta delta => delta.sequence
  | .timelineDelta wireSequence _ => some wireSequence

/-- What `_forward_queued` broadcasts of an item: nothing where `to_dict` raises. -/
def ofItem (item : QueuedEvent) : List Frame :=
  ([item].filter fun item => item.event.serializes).map .runtimeEvent

/-- The item of a `runtime_event`. -/
def event? : Frame → Option QueuedEvent
  | .runtimeEvent item => some item
  | _ => none

/-- The frames that a client's tracker accepts, of those sent to it. -/
def accepted (t : SequenceTracker) : List Frame → List Frame
  | [] => []
  | frame :: frames =>
    let (decision, t) := t.receive frame.sequence
    if decision.Accepted then frame :: accepted t frames else accepted t frames

theorem accepted_cons (t : SequenceTracker) (frame : Frame) (frames : List Frame) :
    accepted t (frame :: frames) =
      if (t.receive frame.sequence).1.Accepted
        then frame :: accepted (t.receive frame.sequence).2 frames
        else accepted (t.receive frame.sequence).2 frames := rfl

/-- Nothing is lost when every decision is to accept. -/
theorem accepted_eq_self {t : SequenceTracker} {frames : List Frame}
    (h : ∀ decision ∈ (t.receiveAll (frames.map sequence)).1, decision.Accepted) :
    accepted t frames = frames := by
  induction frames generalizing t with
  | nil => rfl
  | cons frame frames ih =>
    have hfirst := h _ List.mem_cons_self
    have hrest : accepted (t.receive frame.sequence).2 frames = frames :=
      ih fun decision hdecision => h decision (List.mem_cons_of_mem _ hdecision)
    rw [accepted_cons, hrest]
    exact if_pos hfirst

end Frame

/-! ## The event path with the timeline -/

/-- The event path with a streaming engine that is subscribed to the timeline. -/
structure Streaming where
  pipeline : Pipeline
  timeline : TimelineSegmentEngine
  /-- The deltas of the running hook that have no envelope yet. -/
  pending : List TimelineDelta
  /-- History: the ordered envelopes in the order in which they are sent. -/
  frames : List Frame

namespace Streaming

/-- A fresh runtime with its streaming engine started. -/
def start (pipeline : Pipeline) : Streaming :=
  { pipeline := pipeline, timeline := {}, pending := [], frames := [] }

/-- The steps of the path, and `_on_timeline_delta` for the next pending delta. -/
inductive Action where
  | transport (a : Transport.Action)
  | deliver (now : ℚ)
  | onTimelineDelta

/-- The steps of the transport that are taken on the loop. -/
def onLoop : Transport.Action → Bool
  | .allocate _ | .schedule _ | .tick => false
  | .publish _ | .runCallback | .take | .subscriberFailed | .finish | .join => true

/-- What the store's listener of the timeline engine makes of an item. -/
def observed (s : Streaming) (item : QueuedEvent) (now : ℚ) :
    TimelineSegmentEngine × List TimelineDelta :=
  let (_, store, change) := s.pipeline.bound.store.apply now item.event (some item.sequence)
  match change with
  | none => (s.timeline, [])
  | some change => s.timeline.observe store.registry change

/-- One step; `none` when the action is not enabled. -/
def step (s : Streaming) : Action → Option Streaming
  | .transport a =>
    if onLoop a && !s.pending.isEmpty then none
    else
      match s.pipeline.step (.transport a) with
      | none => none
      | some pipeline => some { s with pipeline := pipeline }
  | .deliver now =>
    match s.pipeline.transport.inFlight, s.pipeline.step (.deliver now) with
    | some item, some pipeline =>
      let (timeline, deltas) := s.observed item now
      some
        { pipeline := pipeline
          timeline := timeline
          pending := deltas
          frames := s.frames ++ Frame.ofItem item }
    | _, _ => none
  | .onTimelineDelta =>
    match s.pending with
    | [] => none
    | delta :: rest =>
      match s.pipeline.transport.clock.nextSequence with
      -- the exception ends at the timeline's subscription, and the delta is lost
      | .error _ => some { s with pending := rest }
      | .ok (wireSequence, clock) =>
        let transport := { s.pipeline.transport with clock := clock }
        some { s with
          pipeline := { s.pipeline with transport := transport }
          pending := rest
          frames := s.frames ++ [.timelineDelta wireSequence delta] }

/-- The condition on one step: no item overtakes an older one, and a delta is numbered
    only when no item is waiting that has its sequence already. -/
def CaughtUp (s : Streaming) : Action → Prop
  | .transport a => s.pipeline.transport.InOrder a
  | .deliver _ => True
  | .onTimelineDelta => s.pipeline.waiting = []

instance (s : Streaming) : ∀ a, Decidable (CaughtUp s a)
  | .transport a => inferInstanceAs (Decidable (s.pipeline.transport.InOrder a))
  | .deliver _ => .isTrue trivial
  | .onTimelineDelta => inferInstanceAs (Decidable (_ = []))

/-! ## What a step can do -/

/-- Every step, with its guard and the state it leads to. -/
inductive Stepped (s : Streaming) : Action → Streaming → Prop where
  | transport {a : Transport.Action} {pipeline : Pipeline}
      (guard : onLoop a = true → s.pending = [])
      (moved : s.pipeline.step (.transport a) = some pipeline) :
      Stepped s (.transport a) { s with pipeline := pipeline }
  | deliver {now : ℚ} {item : QueuedEvent} {pipeline : Pipeline}
      (busy : s.pipeline.transport.inFlight = some item)
      (moved : s.pipeline.step (.deliver now) = some pipeline) :
      Stepped s (.deliver now)
        { pipeline := pipeline
          timeline := (s.observed item now).1
          pending := (s.observed item now).2
          frames := s.frames ++ Frame.ofItem item }
  | numbered {delta : TimelineDelta} {rest : List TimelineDelta} {wireSequence : Int}
      {clock : RuntimeClock} (pending : s.pending = delta :: rest)
      (allocation : s.pipeline.transport.clock.nextSequence = .ok (wireSequence, clock)) :
      Stepped s .onTimelineDelta
        { s with
          pipeline := { s.pipeline with transport := { s.pipeline.transport with clock := clock } }
          pending := rest
          frames := s.frames ++ [.timelineDelta wireSequence delta] }
  | lost {delta : TimelineDelta} {rest : List TimelineDelta} {e : ClockError}
      (pending : s.pending = delta :: rest)
      (exhausted : s.pipeline.transport.clock.nextSequence = .error e) :
      Stepped s .onTimelineDelta { s with pending := rest }

theorem stepped_of_step {s s' : Streaming} {a : Action} (h : step s a = some s') :
    Stepped s a s' := by
  cases a with
  | transport a =>
    rw [step] at h
    split at h
    · cases h
    · next hguard =>
      have hidle : onLoop a = true → s.pending = [] := by
        intro hloop
        rw [hloop, Bool.true_and, Bool.not_eq_true', Bool.not_eq_false] at hguard
        exact List.isEmpty_iff.mp hguard
      cases hmoved : s.pipeline.step (.transport a) with
      | none =>
        rw [hmoved] at h
        cases h
      | some pipeline =>
        rw [hmoved] at h
        rw [← Option.some.inj h]
        exact .transport hidle hmoved
  | deliver now =>
    rw [step] at h
    split at h
    · next item pipeline hbusy hmoved =>
      rw [← Option.some.inj h]
      exact .deliver hbusy hmoved
    · cases h
  | onTimelineDelta =>
    rw [step] at h
    split at h
    · cases h
    · next delta rest hpending =>
      split at h
      · next e hexhausted =>
        rw [← Option.some.inj h]
        exact .lost hpending hexhausted
      · next wireSequence clock hallocation =>
        rw [← Option.some.inj h]
        exact .numbered hpending hallocation

/-- The pipeline's part in a step: a numbered delta is a tick of its clock. -/
theorem step_pipeline {s s' : Streaming} {a : Action} (h : step s a = some s') :
    ∃ b, s.pipeline.step b = some s'.pipeline ∧
      (CaughtUp s a → s.pipeline.InOrder b) := by
  cases stepped_of_step h with
  | @transport a pipeline guard moved => exact ⟨.transport a, moved, fun horder => horder⟩
  | @deliver now item pipeline busy moved => exact ⟨.deliver now, moved, fun _ => trivial⟩
  | numbered pending allocation =>
    refine ⟨.transport .tick, ?_, fun _ => trivial⟩
    simp [Pipeline.step, Transport.step, Pipeline.isFinish, allocation]
  | lost pending exhausted =>
    refine ⟨.transport .tick, ?_, fun _ => trivial⟩
    simp [Pipeline.step, Transport.step, Pipeline.isFinish, exhausted]

/-! ## The order on the wire -/

/-- The sequences on the wire. -/
def sent (s : Streaming) : List Int := s.frames.filterMap Frame.sequence

/-- The wire of a runtime whose clock was at `birth` when the client connected: it
    carries all forwarded items, in increasing order with the deltas, and whatever
    waits lies above it. -/
structure WireInv (birth : Int) (s : Streaming) : Prop where
  pipeline : s.pipeline.Inv
  increasing : s.pipeline.transport.Increasing
  events_eq : s.frames.filterMap Frame.event? = s.pipeline.wire
  pairwise : s.sent.Pairwise (· < ·)
  birth_le : birth ≤ s.pipeline.transport.clock.currentSequence
  sent_bounds : ∀ n ∈ s.sent, birth < n ∧ n ≤ s.pipeline.transport.clock.currentSequence
  waiting_above : ∀ item ∈ s.pipeline.waiting, birth < item.sequence ∧
    ∀ n ∈ s.sent, n < item.sequence

theorem wireInv_start {clock : RuntimeClock} {capacity : Nat} (h : 0 < capacity) (retention : Nat)
    (overflow : OverflowStrategy) {frames checkpoints : Nat} (hf : 0 < frames)
    (hc : 0 < checkpoints) :
    WireInv clock.currentSequence (start (.fresh clock h retention overflow hf hc)) where
  pipeline := Pipeline.inv_start clock h retention overflow hf hc
  increasing := List.Pairwise.nil
  events_eq := rfl
  pairwise := List.Pairwise.nil
  birth_le := le_refl _
  sent_bounds := fun n hn => by cases hn
  waiting_above := fun item hitem => by cases hitem

/-- An envelope may be sent whose sequence lies above all that was sent and below all
    that still waits. -/
theorem WireInv.send {birth n : Int} {s s' : Streaming} {frame : Frame} (hs : WireInv birth s)
    (hframes : s'.frames = s.frames ++ [frame]) (hframe : frame.sequence = some n)
    (hpipeline : s'.pipeline.Inv) (hincreasing : s'.pipeline.transport.Increasing)
    (hwire : s'.pipeline.wire = s.pipeline.wire ++ frame.event?.toList) (hbirth : birth < n)
    (hclock : s.pipeline.transport.clock.currentSequence ≤
      s'.pipeline.transport.clock.currentSequence)
    (hle : n ≤ s'.pipeline.transport.clock.currentSequence) (habove : ∀ m ∈ s.sent, m < n)
    (hbehind : ∀ x ∈ s'.pipeline.waiting, n < x.sequence) : WireInv birth s' := by
  have hsent : s'.sent = s.sent ++ [n] := by
    rw [sent, hframes, List.filterMap_append, List.filterMap_cons_some hframe]
    rfl
  have hcases : ∀ m ∈ s'.sent, m ∈ s.sent ∨ m = n := by
    intro m hm
    rw [hsent] at hm
    exact (List.mem_append.mp hm).imp_right List.mem_singleton.mp
  refine
    { pipeline := hpipeline
      increasing := hincreasing
      events_eq := ?_
      pairwise := ?_
      birth_le := le_trans hs.birth_le hclock
      sent_bounds := fun m hm => ?_
      waiting_above := fun x hx => ⟨lt_trans hbirth (hbehind x hx), fun m hm => ?_⟩ }
  · rw [hframes, List.filterMap_append, hs.events_eq, hwire]
    cases hevent : frame.event? <;> simp [hevent]
  · rw [hsent]
    refine List.pairwise_append.mpr ⟨hs.pairwise, List.pairwise_singleton _ _, fun m hm k hk => ?_⟩
    rw [List.mem_singleton.mp hk]
    exact habove m hm
  · rcases hcases m hm with hold | rfl
    · obtain ⟨hlow, hhigh⟩ := hs.sent_bounds m hold
      exact ⟨hlow, le_trans hhigh hclock⟩
    · exact ⟨hbirth, hle⟩
  · rcases hcases m hm with hold | rfl
    · exact lt_trans (habove m hold) (hbehind x hx)
    · exact hbehind x hx

/-- A step of the transport sends nothing, and what starts to wait lies above the clock. -/
theorem WireInv.transport {birth : Int} {s : Streaming} {a : Transport.Action}
    {pipeline : Pipeline} (hs : WireInv birth s) (hpipeline : pipeline.Inv)
    (hincreasing : pipeline.transport.Increasing)
    (moved : s.pipeline.step (.transport a) = some pipeline) :
    WireInv birth { s with pipeline := pipeline } := by
  have hfresh : ∀ item ∈ pipeline.waiting, item ∈ s.pipeline.waiting ∨
      s.pipeline.transport.clock.currentSequence < item.sequence := fun _ hitem =>
    Pipeline.waiting_transport hs.pipeline hpipeline hincreasing moved hitem
  cases Pipeline.stepped_of_step moved with
  | transport guard moved' =>
    have hclock := (Transport.stepped_extends hs.pipeline.transport
      (Transport.stepped_of_step moved')).clock_le
    refine
      { pipeline := hpipeline
        increasing := hincreasing
        events_eq := hs.events_eq
        pairwise := hs.pairwise
        birth_le := le_trans hs.birth_le hclock
        sent_bounds := fun n hn =>
          ⟨(hs.sent_bounds n hn).1, le_trans (hs.sent_bounds n hn).2 hclock⟩
        waiting_above := fun item hitem => ?_ }
    rcases hfresh item hitem with hold | hnew
    · exact hs.waiting_above item hold
    · refine ⟨lt_of_le_of_lt hs.birth_le hnew, fun n hn => ?_⟩
      exact lt_of_le_of_lt (hs.sent_bounds n hn).2 hnew

/-- As long as each step is caught up, what is sent goes on increasing. -/
theorem step_wireInv {birth : Int} {s s' : Streaming} {a : Action} (hs : WireInv birth s)
    (hcaught : CaughtUp s a) (h : step s a = some s') : WireInv birth s' := by
  obtain ⟨b, hmoved, horder⟩ := step_pipeline h
  have hinv' := Pipeline.step_inv hs.pipeline hmoved
  have hpath' := Pipeline.step_increasing hs.pipeline hs.increasing (horder hcaught) hmoved
  cases stepped_of_step h with
  | transport guard moved => exact hs.transport hinv' hpath' moved
  | @deliver now item pipeline busy moved =>
    obtain ⟨item', hbusy, hforwarded, hwaiting, htransport⟩ := Pipeline.waiting_deliver moved
    obtain rfl : item = item' := Option.some.inj (busy.symm.trans hbusy)
    have hitem : item ∈ s.pipeline.waiting := by
      rw [hwaiting]
      exact List.mem_cons_self
    obtain ⟨hbirth, habove⟩ := hs.waiting_above item hitem
    -- the item comes before all that waits behind it
    have hbehind : ∀ x ∈ pipeline.waiting, item.sequence < x.sequence := by
      have hpath := hs.increasing
      rw [Transport.Increasing] at hpath
      rw [Pipeline.path_eq hs.pipeline, hwaiting] at hpath
      exact (List.pairwise_cons.mp (List.pairwise_append.mp hpath).2.1).1
    have hclock : s.pipeline.transport.clock.currentSequence ≤
        pipeline.transport.clock.currentSequence := by rw [htransport]
    have hle : item.sequence ≤ s.pipeline.transport.clock.currentSequence :=
      Pipeline.waiting_le_clock hs.pipeline hitem
    have hwire := Pipeline.wire_deliver hforwarded
    cases hserializes : item.event.serializes with
    | true =>
      have hsent : Frame.ofItem item = [.runtimeEvent item] := by
        rw [Frame.ofItem, List.filter_cons_of_pos (by exact hserializes)]
        rfl
      rw [List.filter_cons_of_pos (by exact hserializes)] at hwire
      rw [hsent]
      exact hs.send rfl rfl hinv' hpath' hwire hbirth hclock (le_trans hle hclock) habove hbehind
    | false =>
      -- nothing is sent, and less waits
      have hsent : Frame.ofItem item = [] := by
        rw [Frame.ofItem, List.filter_cons_of_neg (by simp [hserializes])]
        rfl
      rw [List.filter_cons_of_neg (by simp [hserializes]), List.filter_nil, List.append_nil]
        at hwire
      rw [hsent, List.append_nil]
      exact
        { pipeline := hinv'
          increasing := hpath'
          events_eq := hs.events_eq.trans hwire.symm
          pairwise := hs.pairwise
          birth_le := le_trans hs.birth_le hclock
          sent_bounds := fun n hn =>
            ⟨(hs.sent_bounds n hn).1, le_trans (hs.sent_bounds n hn).2 hclock⟩
          waiting_above := fun x hx =>
            hs.waiting_above x (by rw [hwaiting]; exact List.mem_cons_of_mem item hx) }
  | @numbered delta rest wireSequence clock pending allocation =>
    obtain ⟨hnext, hcurrent, -, -⟩ := RuntimeClock.nextSequence_eq_ok allocation
    -- nothing waits, so the fresh sequence lies above all that is on its way
    have hempty : s.pipeline.waiting = [] := hcaught
    have hbirth := hs.birth_le
    have habove : ∀ m ∈ s.sent, m < wireSequence := by
      intro m hm
      have hle := (hs.sent_bounds m hm).2
      omega
    have hclock : s.pipeline.transport.clock.currentSequence ≤ clock.currentSequence := by omega
    refine hs.send rfl rfl hinv' hpath' (List.append_nil _).symm (by omega) hclock
      hcurrent.ge habove fun x hx => ?_
    have hx' : x ∈ s.pipeline.waiting := hx
    rw [hempty] at hx'
    cases hx'
  | lost pending exhausted =>
    exact
      { pipeline := hinv'
        increasing := hpath'
        events_eq := hs.events_eq
        pairwise := hs.pairwise
        birth_le := hs.birth_le
        sent_bounds := hs.sent_bounds
        waiting_above := hs.waiting_above }

/-- Run lemma. -/
theorem exec_wireInv {birth : Int} {s s' : Streaming} {acts : List Action} (hs : WireInv birth s)
    (hcaught : AllSteps step CaughtUp s acts) (h : exec step s acts = some s') :
    WireInv birth s' :=
  exec_invariant_of_allSteps (fun _ _ _ => step_wireInv) hs hcaught h

/-- **Wire order.**  In every run whose steps are all caught up, a client that was
    connected from the start accepts every dispatched event that serializes, once and
    in order; only the item that the hook has yet to see is still to come. -/
theorem every_event_accepted (clock : RuntimeClock) (capacity : Nat) (hcap : 0 < capacity)
    (retention : Nat) (overflow : OverflowStrategy) (frames checkpoints : Nat) (hf : 0 < frames)
    (hc : 0 < checkpoints) (acts : List Action) (s : Streaming) (tracker : SequenceTracker)
    (hrun : exec step (start (.fresh clock hcap retention overflow hf hc)) acts = some s)
    (hcaught : AllSteps step CaughtUp (start (.fresh clock hcap retention overflow hf hc)) acts)
    (hcursor : tracker.lastSequence ≤ clock.currentSequence) :
    (Frame.accepted tracker s.frames).filterMap Frame.event? ++
        s.pipeline.undelivered.filter (fun item => item.event.serializes) =
      s.pipeline.transport.dispatched.filter (fun item => item.event.serializes) ∧
      (s.pipeline.transport.dispatched.map QueuedEvent.sequence).Nodup := by
  have hinv := exec_wireInv (wireInv_start hcap retention overflow hf hc) hcaught hrun
  have hsent : (s.frames.map Frame.sequence).filterMap id = s.sent := List.filterMap_map
  have haccepted : Frame.accepted tracker s.frames = s.frames := by
    apply Frame.accepted_eq_self
    apply SequenceTracker.receiveAll_accepted
    · rw [hsent]
      exact hinv.pairwise
    · rw [hsent]
      exact fun n hn => lt_of_le_of_lt hcursor (hinv.sent_bounds n hn).1
  constructor
  · rw [haccepted, hinv.events_eq, hinv.pipeline.dispatched_eq, List.filter_append]
    rfl
  · have hnodup := Transport.path_nodup hinv.pipeline.transport
    rw [Transport.path] at hnodup
    simp only [List.map_append, List.append_assoc] at hnodup
    exact (List.nodup_append.mp hnodup).1

/-- An event of one task. -/
private def sampleStage (eventId : String) (body : Runtime.TaskEventBase → EventBody) :
    RuntimeEvent :=
  { eventId := eventId, body := body { taskId := "t" } }

/-- A small runtime. -/
private abbrev steadyRuntime : Streaming := start .small

/-- A task is created, and started only when its creation is through. -/
private abbrev steadyRun : List Action :=
  [.transport (.publish (sampleStage "a" .taskCreated)), .transport .take, .deliver 0,
    .transport .finish, .transport (.publish (sampleStage "b" .taskStarted)), .transport .take,
    .deliver 0, .onTimelineDelta]

/-- Both events and the delta of the second are accepted. -/
theorem every_event_accepted_steady :
    ∃ s, exec step steadyRuntime steadyRun = some s ∧
      s.frames.map Frame.sequence = [some 1, some 2, some 3] ∧
      (Frame.accepted {} s.frames).filterMap Frame.event? ++
          s.pipeline.undelivered.filter (fun item => item.event.serializes) =
        s.pipeline.transport.dispatched.filter (fun item => item.event.serializes) ∧
      (s.pipeline.transport.dispatched.map QueuedEvent.sequence).Nodup := by
  obtain ⟨s, hs⟩ : ∃ s, exec step steadyRuntime steadyRun = some s := ⟨_, rfl⟩
  have hcaught : AllSteps step CaughtUp steadyRuntime steadyRun := by decide +kernel
  have hsent : s.frames.map Frame.sequence = [some 1, some 2, some 3] := by
    obtain rfl := Option.some.inj hs
    decide +kernel
  exact ⟨s, hs, hsent, every_event_accepted (.start "r") 8 (by decide) 8 .dropOldest 8 2
    (by decide) (by decide) steadyRun s {} hs hcaught (by decide)⟩

/-- A burst of three events, and the dispatches. -/
private abbrev burstRun : List Action :=
  [.transport (.publish (sampleStage "a" .taskCreated)),
    .transport (.publish (sampleStage "b" .taskStarted)),
    .transport (.publish (sampleStage "c" (.taskCompleted · {}))),
    .transport .take, .deliver 0, .transport .finish,
    .transport .take, .deliver 0, .onTimelineDelta, .transport .finish,
    .transport .take, .deliver 0]

/-- Three events of a task in one burst: when the second is dispatched, the delta of
    its segment takes sequence 4, and the third, under sequence 3, is stale. -/
theorem backlog_is_stale :
    ∃ s, exec step steadyRuntime burstRun = some s ∧
      s.frames.map Frame.sequence = [some 1, some 2, some 4, some 3] ∧
      (({} : SequenceTracker).receiveAll (s.frames.map Frame.sequence)).1 =
        [.accept, .accept, .outOfOrder, .stale] := by
  obtain ⟨s, hs⟩ : ∃ s, exec step steadyRuntime burstRun = some s := ⟨_, rfl⟩
  have hsent : s.frames.map Frame.sequence = [some 1, some 2, some 4, some 3] := by
    obtain rfl := Option.some.inj hs
    decide +kernel
  refine ⟨s, hs, hsent, ?_⟩
  rw [hsent]
  rfl

end Streaming

end AsyncViz.Dashboard
