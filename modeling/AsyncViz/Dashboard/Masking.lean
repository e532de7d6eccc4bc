/-
  AsyncViz.Dashboard.Masking

  One dispatched item, and all the ordered envelopes that carry its sequence.

  The state store tells the metrics aggregator and the warning manager of every change
  (`bind`); the streaming engine broadcasts what they announce as `metrics_delta` and
  `warning_delta`, under the sequence that the delta carries, which is that of the change.
  The bridge broadcasts the item itself as `runtime_event` under the same sequence.
  `RuntimeWarningManager.evaluate` runs between the items, and announces resolutions and
  expirations under the last sequence the manager has seen.  A client's tracker keeps the
  first envelope of each sequence only.

  So the streams mask one another as soon as an item is announced at all
  (`deliver_takes_masks`).  What is left without collisions are the runs whose steps are
  all `Quiet` (`no_masking`).  The timeline's deltas, which have sequences of their own,
  are the subject of `Dashboard.Streaming`.
-/

import AsyncViz.Dashboard.Streaming
import AsyncViz.Runtime.Warnings.Announcements

namespace AsyncViz.Dashboard

open AsyncViz.Frontend AsyncViz.Lib.Transition AsyncViz.Runtime AsyncViz.Runtime.Metrics
open AsyncViz.Runtime.Queue AsyncViz.Runtime.State AsyncViz.Runtime.Warnings

/-- The event path with the aggregator and the warning manager bound to its store, and a
    streaming engine that is subscribed to both. -/
structure Fanout where
  pipeline : Pipeline
  aggregator : RuntimeMetricsAggregator
  warnings : RuntimeWarningManager
  /-- History: the ordered envelopes, in the order in which they are sent. -/
  frames : List Frame

namespace Fanout

/-- The steps of the path, and the evaluations of the warning manager. -/
inductive Action where
  | transport (a : Transport.Action)
  | deliver (now : ℚ)
  | evaluate (monotonicNs : Int) (wallSeconds : ℚ)

/-- What the detectors read. -/
def context (s : Fanout) : DetectorContext :=
  { registry := s.pipeline.bound.store.registry, aggregator := some s.aggregator }

/-- A runtime to which a client is connected; nothing has been sent to it. -/
def start (pipeline : Pipeline) (aggregator : RuntimeMetricsAggregator)
    (warnings : RuntimeWarningManager) : Fanout :=
  { pipeline := pipeline, aggregator := aggregator, warnings := warnings, frames := [] }

/-- The two listeners on a change, in the order in which they are bound, and the envelopes
    that the streaming engine makes of what they announce. -/
def onChange (s : Fanout) (registry : Tasks.TaskRegistry) (change : StateChange) :
    RuntimeMetricsAggregator × RuntimeWarningManager × List Frame :=
  let (_, aggregator, delta) := s.aggregator.applyStateChange change
  let pass := s.warnings.applyEvent ⟨registry, some aggregator⟩ change.event change.sequence
  (pass.context.aggregator.getD aggregator, pass.manager,
    delta.toList.map .metricsDelta ++ pass.deltas.map .warningDelta)

/-- The listeners on an item that the hook offers to the store. -/
def announced (s : Fanout) (item : QueuedEvent) (now : ℚ) :
    RuntimeMetricsAggregator × RuntimeWarningManager × List Frame :=
  let (_, store, change) := s.pipeline.bound.store.apply now item.event (some item.sequence)
  match change with
  | none => (s.aggregator, s.warnings, [])
  | some change => s.onChange store.registry change

/-- One step; `none` when the action is not enabled. -/
def step (s : Fanout) : Action → Option Fanout
  | .transport a =>
    (s.pipeline.step (.transport a)).map fun pipeline => { s with pipeline := pipeline }
  | .deliver now =>
    match s.pipeline.transport.inFlight, s.pipeline.step (.deliver now) with
    | some item, some pipeline =>
      let (aggregator, warnings, deltas) := s.announced item now
      some
        { pipeline := pipeline
          aggregator := aggregator
          warnings := warnings
          frames := s.frames ++ (Frame.ofItem item ++ deltas) }
    | _, _ => none
  | .evaluate monotonicNs wallSeconds =>
    let pass := s.warnings.evaluate s.context monotonicNs wallSeconds
    some
      { pipeline := s.pipeline
        aggregator := pass.context.aggregator.getD s.aggregator
        warnings := pass.manager
        frames := s.frames ++ pass.deltas.map .warningDelta }

/-- The sequences on the wire. -/
def sent (frames : List Frame) : List Int := frames.filterMap Frame.sequence

@[simp] theorem sent_append (frames frames' : List Frame) :
    sent (frames ++ frames') = sent frames ++ sent frames' :=
  List.filterMap_append

@[simp] theorem sent_ofItem (item : QueuedEvent) :
    sent (Frame.ofItem item) =
      ([item].filter fun item => item.event.serializes).map QueuedEvent.sequence := by
  rw [sent, Frame.ofItem, List.filterMap_map, ← List.filterMap_eq_map]
  rfl

theorem sent_warningDelta (deltas : List WarningDelta) :
    sent (deltas.map .warningDelta) = RuntimeWarningManager.announced deltas := by
  rw [sent, List.filterMap_map]
  rfl

/-! ## Quiet steps -/

/-- A change that neither listener announces: the aggregator does not take the event, and no
    detector fires on it but for what is suppressed or has no sequence. -/
def QuietChange (s : Fanout) (registry : Tasks.TaskRegistry) (change : StateChange) : Prop :=
  ¬ s.aggregator.Takes change.event change.sequence ∧
    RuntimeWarningManager.MutedEvent change.event change.sequence
      ⟨s.warnings, ⟨registry, some (s.aggregator.applyStateChange change).2.1⟩, []⟩
      s.warnings.detectors

/-- The condition on one step: the store refuses the item or neither listener announces the
    change, and an evaluation fires, resolves and expires nothing. -/
def Quiet (s : Fanout) : Action → Prop
  | .transport _ => True
  | .deliver now => ∀ item decision store change, s.pipeline.transport.inFlight = some item →
      s.pipeline.bound.store.apply now item.event (some item.sequence)
        = (decision, store, some change) →
      s.QuietChange store.registry change
  | .evaluate monotonicNs wallSeconds =>
    s.warnings.MutedEvaluation s.context monotonicNs wallSeconds

/-- The metrics delta of a change carries the sequence of the change. -/
theorem sent_metricsDelta (a : RuntimeMetricsAggregator) {change : StateChange} {n : Int}
    (hn : change.sequence = some n) :
    sent ((a.applyStateChange change).2.2.toList.map .metricsDelta)
      = if (a.applyStateChange change).2.2.isSome then [n] else [] := by
  obtain ⟨-, hsequence⟩ := RuntimeMetricsAggregator.applyEvent_delta a change.event change.sequence
  rw [RuntimeMetricsAggregator.applyStateChange]
  cases hdelta : (a.applyEvent change.event change.sequence).2.2 with
  | none => rfl
  | some delta =>
    rw [hdelta] at hsequence
    have hseq : delta.sequence = some n := (hsequence delta rfl).trans hn
    simp [sent, Frame.sequence, hseq]

theorem onChange_frames (s : Fanout) (registry : Tasks.TaskRegistry) (change : StateChange) :
    (s.onChange registry change).2.2
      = (s.aggregator.applyStateChange change).2.2.toList.map .metricsDelta ++
        (s.warnings.applyEvent ⟨registry, some (s.aggregator.applyStateChange change).2.1⟩
          change.event change.sequence).deltas.map .warningDelta := rfl

/-- A change is quiet exactly when nothing goes out under a sequence. -/
theorem onChange_sent (s : Fanout) (registry : Tasks.TaskRegistry) {change : StateChange} {n : Int}
    (hn : change.sequence = some n) :
    sent (s.onChange registry change).2.2 = [] ↔ s.QuietChange registry change := by
  have hmetrics := sent_metricsDelta s.aggregator hn
  obtain ⟨htakes, -⟩ :=
    RuntimeMetricsAggregator.applyEvent_delta s.aggregator change.event change.sequence
  rw [QuietChange, ← htakes, ← RuntimeWarningManager.applyEvent_announced]
  rw [onChange_frames, sent_append, sent_warningDelta, List.append_eq_nil_iff, hmetrics]
  refine and_congr ?_ Iff.rfl
  rw [RuntimeMetricsAggregator.applyStateChange]
  simp

/-- A change has the sequence that the store was given. -/
theorem change_sequence {s : RuntimeStateStore} {now : ℚ} {event : RuntimeEvent}
    {sequence : Option Int} {decision : ReconciliationDecision} {s' : RuntimeStateStore}
    {change : StateChange} (h : s.apply now event sequence = (decision, s', some change)) :
    change.event = event ∧ change.sequence = sequence := by
  have happlies := RuntimeStateStore.apply_applies s now event sequence
  rw [h] at happlies
  cases happlies with
  | admitted evaluated legal policy_eq states_eq => exact ⟨rfl, rfl⟩

/-! ## What a step sends -/

/-- Every step, with what it sends. -/
inductive Stepped (s : Fanout) : Action → Fanout → Prop where
  | transport {a : Transport.Action} {pipeline : Pipeline}
      (moved : s.pipeline.step (.transport a) = some pipeline) :
      Stepped s (.transport a) { s with pipeline := pipeline }
  | deliver {now : ℚ} {item : QueuedEvent} {pipeline : Pipeline}
      (busy : s.pipeline.transport.inFlight = some item)
      (moved : s.pipeline.step (.deliver now) = some pipeline) :
      Stepped s (.deliver now)
        { pipeline := pipeline
          aggregator := (s.announced item now).1
          warnings := (s.announced item now).2.1
          frames := s.frames ++ (Frame.ofItem item ++ (s.announced item now).2.2) }
  | evaluate (monotonicNs : Int) (wallSeconds : ℚ) :
      Stepped s (.evaluate monotonicNs wallSeconds)
        { pipeline := s.pipeline
          aggregator := (s.warnings.evaluate s.context monotonicNs
            wallSeconds).context.aggregator.getD s.aggregator
          warnings := (s.warnings.evaluate s.context monotonicNs wallSeconds).manager
          frames := s.frames ++
            (s.warnings.evaluate s.context monotonicNs wallSeconds).deltas.map .warningDelta }

theorem stepped_of_step {s s' : Fanout} {a : Action} (h : step s a = some s') : Stepped s a s' := by
  cases a with
  | transport a =>
    obtain ⟨pipeline, hmoved, rfl⟩ := Option.map_eq_some_iff.mp h
    exact .transport hmoved
  | deliver now =>
    rw [step] at h
    split at h
    next item pipeline hbusy hmoved =>
      rw [← Option.some.inj h]
      exact .deliver hbusy hmoved
    next => cases h
  | evaluate monotonicNs wallSeconds =>
    rw [← Option.some.inj h]
    exact .evaluate monotonicNs wallSeconds

/-- A quiet delivery sends no sequence but the item's. -/
theorem announced_sent {s : Fanout} {now : ℚ} {item : QueuedEvent} (hquiet : s.Quiet (.deliver now))
    (hbusy : s.pipeline.transport.inFlight = some item) :
    sent (s.announced item now).2.2 = [] := by
  rw [announced]
  generalize happly : s.pipeline.bound.store.apply now item.event (some item.sequence) = r
  obtain ⟨decision, store, change⟩ := r
  cases change with
  | none => rfl
  | some change =>
    exact (s.onChange_sent store.registry (change_sequence happly).2).mpr
      (hquiet item decision store change hbusy happly)

/-! ## Runs -/

/-- No two envelopes carry the same sequence; and a client that connects behind the first
    `seen` of them drops none as a duplicate, unless of the cursor that it connects with. -/
structure Unmasked (s : Fanout) : Prop where
  distinct : (sent s.frames).Nodup
  kept : ∀ (seen : Nat) (t : SequenceTracker), t.lastSequence ∉ sent (s.frames.drop seen) →
    .duplicate ∉ (t.receiveAll ((s.frames.drop seen).map Frame.sequence)).1

/-- The wire of a quiet run: the only sequences on it are those of the items. -/
structure WireInv (s : Fanout) : Prop where
  pipeline : s.pipeline.Inv
  sent_eq : sent s.frames = s.pipeline.wire.map QueuedEvent.sequence

theorem WireInv.unmasked {s : Fanout} (h : WireInv s) : Unmasked s := by
  have hdistinct : (sent s.frames).Nodup := by
    have hnodup := Transport.path_nodup h.pipeline.transport
    rw [Pipeline.path_eq h.pipeline, List.map_append] at hnodup
    rw [h.sent_eq]
    exact (List.nodup_append.mp hnodup).1.sublist (List.filter_sublist.map _)
  refine ⟨hdistinct, fun seen t hcursor => ?_⟩
  -- what is sent behind a connection is part of what is sent
  have hsent : ((s.frames.drop seen).map Frame.sequence).filterMap id = sent (s.frames.drop seen) :=
    List.filterMap_map
  apply SequenceTracker.receiveAll_no_duplicate
  · rw [hsent]
    exact hdistinct.sublist ((List.drop_sublist seen s.frames).filterMap Frame.sequence)
  · rw [hsent]
    exact hcursor

/-- Step lemma. -/
theorem step_wireInv {s s' : Fanout} {a : Action} (hs : WireInv s) (hquiet : Quiet s a)
    (h : step s a = some s') : WireInv s' := by
  cases stepped_of_step h with
  | @transport a pipeline moved =>
    refine ⟨Pipeline.step_inv hs.pipeline moved, ?_⟩
    cases Pipeline.stepped_of_step moved with
    | transport guard moved => exact hs.sent_eq
  | @deliver now item pipeline busy moved =>
    refine ⟨Pipeline.step_inv hs.pipeline moved, ?_⟩
    obtain ⟨item', hbusy, hforwarded, -, -⟩ := Pipeline.waiting_deliver moved
    obtain rfl : item = item' := Option.some.inj (busy.symm.trans hbusy)
    rw [sent_append, sent_append, sent_ofItem, announced_sent hquiet busy, hs.sent_eq,
      Pipeline.wire_deliver hforwarded, List.map_append, List.append_nil]
  | evaluate monotonicNs wallSeconds =>
    refine ⟨hs.pipeline, ?_⟩
    have hmuted := (RuntimeWarningManager.evaluate_announced _ _ _ _).mpr hquiet
    rw [sent_append, sent_warningDelta, hmuted, List.append_nil]
    exact hs.sent_eq

/-- **No masking.**  In every state of a run whose steps are all quiet, no two envelopes
    carry the same sequence, and none is dropped as the duplicate of another. -/
theorem no_masking (clock : RuntimeClock) (capacity : Nat) (hcap : 0 < capacity)
    (retention : Nat) (overflow : OverflowStrategy) (frames checkpoints : Nat) (hf : 0 < frames)
    (hc : 0 < checkpoints) (aggregator : RuntimeMetricsAggregator)
    (warnings : RuntimeWarningManager) (acts : List Action)
    (hquiet : AllSteps step Quiet
      (start (.fresh clock hcap retention overflow hf hc) aggregator warnings) acts) :
    AllStates step Unmasked
      (start (.fresh clock hcap retention overflow hf hc) aggregator warnings) acts := by
  have hstart : WireInv (start (.fresh clock hcap retention overflow hf hc) aggregator warnings) :=
    ⟨Pipeline.inv_start clock hcap retention overflow hf hc, rfl⟩
  have hinv := allStates_of_allSteps (fun _ _ _ => step_wireInv) hstart hquiet
  exact hinv.mono fun _ => WireInv.unmasked

/-- An item that serializes and whose change is announced goes out twice under one
    sequence. -/
theorem deliver_takes_masks {s s' : Fanout} {now : ℚ} {item : QueuedEvent}
    {decision : ReconciliationDecision} {store : RuntimeStateStore} {change : StateChange}
    (hbusy : s.pipeline.transport.inFlight = some item)
    (hserializes : item.event.serializes = true)
    (happly : s.pipeline.bound.store.apply now item.event (some item.sequence)
      = (decision, store, some change))
    (htakes : s.aggregator.Takes item.event (some item.sequence))
    (h : step s (.deliver now) = some s') : ¬ Unmasked s' := by
  obtain ⟨hevent, hsequence⟩ := change_sequence happly
  have hmetrics := sent_metricsDelta s.aggregator hsequence
  rw [if_pos] at hmetrics
  · intro hunmasked
    have hdistinct := hunmasked.distinct
    cases stepped_of_step h with
    | @deliver now item' pipeline busy moved =>
      obtain rfl : item = item' := Option.some.inj (hbusy.symm.trans busy)
      have hannounced : (s.announced item now).2.2
          = (s.onChange store.registry change).2.2 := by
        rw [announced, happly]
      rw [sent_append, sent_append, sent_ofItem, List.filter_cons_of_pos (by exact hserializes),
        hannounced, onChange_frames, sent_append, hmetrics] at hdistinct
      have hpair := (List.nodup_append.mp hdistinct).2.1
      exact (List.nodup_cons.mp hpair).1 List.mem_cons_self
  · rw [RuntimeMetricsAggregator.applyStateChange, hevent, hsequence]
    exact (RuntimeMetricsAggregator.applyEvent_delta _ _ _).1.mpr htakes

/-- An event that no listener announces. -/
private def sampleMarker : RuntimeEvent := { eventId := "m", body := .other "runtime.marker" [] }

/-- The creation of a task. -/
private def sampleBeginning : RuntimeEvent :=
  { eventId := "a", body := .taskCreated { taskId := "t" } }

/-- A small runtime without detectors. -/
private abbrev listeningRuntime : Fanout :=
  start .small (.new 60 (by decide)) (.new "r" [] {} fun _ => "w")

/-- A marker is delivered, and the warnings are evaluated. -/
theorem no_masking_marker :
    AllStates step Unmasked listeningRuntime
      [.transport (.publish sampleMarker), .transport .take, .deliver 0, .evaluate 5 0] := by
  refine no_masking (.start "r") 8 (by decide) 8 .dropOldest 8 2 (by decide) (by decide)
    (.new 60 (by decide)) (.new "r" [] {} fun _ => "w") _ ?_
  refine .cons rfl trivial (.cons rfl trivial (.cons rfl ?_ (.cons rfl ⟨trivial, rfl⟩ trivial)))
  intro item decision store change hbusy happly
  -- the marker reaches the store, but it is no task event
  have hmarker : item.event = sampleMarker :=
    congrArg QueuedEvent.event (Option.some.inj hbusy).symm
  have hevent : change.event = sampleMarker := (change_sequence happly).1.trans hmarker
  refine ⟨fun htakes => ?_, trivial⟩
  have htask := htakes.1
  rw [hevent] at htask
  exact absurd htask (by decide)

/-- The creation of one task goes out as `runtime_event` and as `metrics_delta`, both under
    sequence `1`, and the client drops the second. -/
theorem creation_is_masked :
    ∃ s, exec step listeningRuntime
        [.transport (.publish sampleBeginning), .transport .take, .deliver 0] = some s ∧
      s.frames.map Frame.sequence = [some 1, some 1] ∧
      (({} : SequenceTracker).receiveAll (s.frames.map Frame.sequence)).1 =
        [.accept, .duplicate] ∧
      ¬ Unmasked s := by
  obtain ⟨s, hs⟩ : ∃ s, exec step listeningRuntime
      [.transport (.publish sampleBeginning), .transport .take, .deliver 0] = some s := ⟨_, rfl⟩
  have hsent : s.frames.map Frame.sequence = [some 1, some 1] := by
    obtain rfl := Option.some.inj hs
    decide +kernel
  refine ⟨s, hs, hsent, by rw [hsent]; rfl, fun hunmasked => ?_⟩
  have hdistinct := hunmasked.distinct
  have hsame : sent s.frames = (s.frames.map Frame.sequence).filterMap id := by
    rw [List.filterMap_map]
    rfl
  rw [hsame, hsent] at hdistinct
  exact absurd hdistinct (by decide)

end Fanout

end AsyncViz.Dashboard
