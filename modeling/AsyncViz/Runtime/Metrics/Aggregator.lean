/-
  AsyncViz.Runtime.Metrics.Aggregator

  `RuntimeMetricsAggregator` (`runtime/metrics/aggregator.py`): the classification
  of events (`normalization.py`), the counters (`counters.py`, `reducers.py`), the
  running duration statistics (`durations.py`, without the sampled histogram), the
  rate meters, and the delta a subscriber is told (`streaming.py`).

  `_seen_event_ids` and `_seen_order` are one list here, the order, as in the
  reconciliation policy.
-/

import AsyncViz.Runtime.Metrics.Rates
import AsyncViz.Runtime.State.Store

namespace AsyncViz.Runtime.Metrics

open AsyncViz.Lib AsyncViz.Runtime.State

/-! ## Classification -/

/-- `MetricsIntent`. -/
inductive MetricsIntent where
  | create
  | start
  | wait
  | resume
  | complete
  | cancel
  | fail
  | ignore
deriving DecidableEq, Repr

/-- `_INTENT_BY_TYPE`. -/
def intentByType : EventBody → MetricsIntent
  | .taskCreated _ => .create
  | .taskStarted _ => .start
  | .taskWaiting _ _ => .wait
  | .taskResumed _ => .resume
  | .taskCompleted _ _ => .complete
  | .taskCancelled _ _ _ => .cancel
  | .taskFailed _ _ _ _ => .fail
  | .other _ _ => .ignore

/-- `NormalizedMetricsEvent`, the part the reducers read. -/
structure NormalizedMetricsEvent where
  intent : MetricsIntent
  sequence : Option Int
  eventId : String
  coroutineName : Option String
  durationSeconds : Option ℚ
  cancellationOrigin : Option String

/-- `normalize`. -/
def normalize (event : RuntimeEvent) (sequence : Option Int) : NormalizedMetricsEvent :=
  { intent := intentByType event.body
    sequence := sequence
    eventId := event.eventId
    coroutineName := event.strField? "coroutine_name"
    durationSeconds := match event.body with
      | .taskCompleted _ terminal => terminal.durationSeconds
      | .taskCancelled _ terminal _ => terminal.durationSeconds
      | .taskFailed _ terminal _ _ => terminal.durationSeconds
      | _ => none
    cancellationOrigin := event.strField? "cancellation_origin" }

/-- The aggregator ignores exactly the events that are no task events. -/
theorem intentByType_eq_ignore_iff (body : EventBody) :
    intentByType body = .ignore ↔ body.isTaskEvent = false := by
  cases body <;> simp [intentByType, EventBody.isTaskEvent, EventBody.task?]

/-! ## Counters and durations -/

/-- `CounterSet`. -/
abbrev CounterSet := Dict String Int

namespace CounterSet

/-- `counters.inc(key, delta)`. -/
def inc (counters : CounterSet) (key : String) (delta : Int) : CounterSet :=
  Dict.set counters key ((Dict.get? counters key).getD 0 + delta)

/-- `counters.get(key)`. -/
def get (counters : CounterSet) (key : String) : Int := (Dict.get? counters key).getD 0

end CounterSet

/-- `DurationAggregator`; the bounds are `none` until the first observation. -/
structure DurationAggregator where
  count : Nat := 0
  sum : ℚ := 0
  minimum : Option ℚ := none
  maximum : Option ℚ := none

/-- `durations.observe(seconds)`: a negative duration is ignored. -/
def DurationAggregator.observe (d : DurationAggregator) (seconds : Option ℚ) : DurationAggregator :=
  match seconds with
  | none => d
  | some seconds =>
    if seconds < 0 then d
    else
      { count := d.count + 1
        sum := d.sum + seconds
        minimum := some (match d.minimum with
          | none => seconds
          | some least => if seconds < least then seconds else least)
        maximum := some (match d.maximum with
          | none => seconds
          | some most => if seconds > most then seconds else most) }

/-- The duration aggregators, by terminal state and overall. -/
structure Durations where
  completed : DurationAggregator := {}
  cancelled : DurationAggregator := {}
  failed : DurationAggregator := {}
  overall : DurationAggregator := {}

/-- The counters that `apply_lifecycle` moves. -/
structure LifecycleCounters where
  counts : CounterSet := .empty
  cancellationsByOrigin : CounterSet := .empty
  coroutineCounts : CounterSet := .empty
  durations : Durations := {}

/-- `ReducerOutcome`. -/
structure ReducerOutcome where
  changes : List (String × Int)
  durationAddedSeconds : Option ℚ := none
  terminalState : Option TaskState := none

/-- `name or default`: an absent or empty name is falsy. -/
def orDefault (name : Option String) (default : String) : String :=
  match name with
  | none | some "" => default
  | some name => name

/-- The common part of the three terminal intents: one task less is active, one more
    is terminal in its state. -/
def applyTerminal (c : LifecycleCounters) (state : TaskState) (durationSeconds : Option ℚ)
    (durations : Durations) : ReducerOutcome × LifecycleCounters :=
  let counts := ((c.counts.inc "active" (-1)).inc state.wire 1).inc "terminal" 1
  ({ changes := [("active", -1), (state.wire, 1), ("terminal", 1)]
     durationAddedSeconds := durationSeconds
     terminalState := some state },
    { c with
      counts := counts
      durations := { durations with overall := durations.overall.observe durationSeconds } })

/-- `apply_lifecycle`. -/
def applyLifecycle (c : LifecycleCounters) (norm : NormalizedMetricsEvent) :
    ReducerOutcome × LifecycleCounters :=
  match norm.intent with
  | .create =>
    ({ changes := [("total", 1), ("active", 1)] },
      { c with
        counts := (c.counts.inc "total" 1).inc "active" 1
        coroutineCounts := c.coroutineCounts.inc (orDefault norm.coroutineName "<anonymous>") 1 })
  | .wait =>
    -- the second call adds nothing, but it creates the key
    ({ changes := [("waiting", 1)] },
      { c with counts := (c.counts.inc "waiting" 1).inc "active" 0 })
  | .start | .resume => ({ changes := [] }, c)
  | .complete =>
    applyTerminal c .completed norm.durationSeconds
      { c.durations with completed := c.durations.completed.observe norm.durationSeconds }
  | .cancel =>
    let origin := orDefault norm.cancellationOrigin "unknown"
    applyTerminal { c with cancellationsByOrigin := c.cancellationsByOrigin.inc origin 1 }
      .cancelled norm.durationSeconds
      { c.durations with cancelled := c.durations.cancelled.observe norm.durationSeconds }
  | .fail =>
    applyTerminal c .failed norm.durationSeconds
      { c.durations with failed := c.durations.failed.observe norm.durationSeconds }
  | .ignore => ({ changes := [] }, c)

/-! ## The aggregator -/

/-- `MetricsDelta`. -/
structure MetricsDelta where
  event : RuntimeEvent
  sequence : Option Int
  lastSequence : Int
  changes : List (String × Int)
  durationAddedSeconds : Option ℚ
  coroutineName : Option String
  terminalState : Option TaskState

/-- `_SelfMetrics`. -/
structure AggregatorSelfMetrics where
  observed : Nat := 0
  stale : Nat := 0
  duplicate : Nat := 0
  rebuilds : Nat := 0
  lastEventSequence : Int := 0
  seenOrder : List String := []
  dedupeWindow : Nat := 4096

namespace AggregatorSelfMetrics

/-- `is_duplicate`. -/
def isDuplicate (m : AggregatorSelfMetrics) (eventId : String) : Bool := eventId ∈ m.seenOrder

def recordObserved (m : AggregatorSelfMetrics) (sequence : Option Int) (eventId : String) :
    AggregatorSelfMetrics :=
  let order := m.seenOrder ++ [eventId]
  { m with
    observed := m.observed + 1
    lastEventSequence := match sequence with
      | none => m.lastEventSequence
      | some n => if n > m.lastEventSequence then n else m.lastEventSequence
    seenOrder := if order.length > m.dedupeWindow then order.tail else order }

def recordStale (m : AggregatorSelfMetrics) : AggregatorSelfMetrics :=
  { m with stale := m.stale + 1 }

def recordDuplicate (m : AggregatorSelfMetrics) : AggregatorSelfMetrics :=
  { m with duplicate := m.duplicate + 1 }

end AggregatorSelfMetrics

/-- The four rate meters. -/
structure RateMeters where
  tasks : RateMeter
  completions : RateMeter
  cancellations : RateMeter
  failures : RateMeter

/-- The meters after an event of the intent was observed; `none` is an `IndexError`. -/
def RateMeters.observe (m : RateMeters) (intent : MetricsIntent) (monotonicSeconds : ℚ) :
    Option RateMeters :=
  match intent with
  | .create => (m.tasks.observe monotonicSeconds 1).map fun tasks => { m with tasks := tasks }
  | .complete =>
    (m.completions.observe monotonicSeconds 1).map fun completions =>
      { m with completions := completions }
  | .cancel =>
    (m.cancellations.observe monotonicSeconds 1).map fun cancellations =>
      { m with cancellations := cancellations }
  | .fail =>
    (m.failures.observe monotonicSeconds 1).map fun failures => { m with failures := failures }
  | .start | .wait | .resume | .ignore => some m

/-- `RuntimeMetricsAggregator`. -/
structure RuntimeMetricsAggregator where
  lastSequence : Int
  counters : LifecycleCounters
  rateMeters : RateMeters
  selfMetrics : AggregatorSelfMetrics

namespace RuntimeMetricsAggregator

/-- `RuntimeMetricsAggregator(registry, rate_window_seconds)`. -/
def new (rateWindowSeconds : Nat) (h : 0 < rateWindowSeconds) : RuntimeMetricsAggregator :=
  let meter := RateMeter.new rateWindowSeconds h
  { lastSequence := 0
    counters := {}
    rateMeters := ⟨meter, meter, meter, meter⟩
    selfMetrics := {} }

/-- What `apply_event` came to: it returned, or a rate meter raised. -/
inductive ApplyOutcome where
  | returned (applied : Bool)
  | raised
deriving DecidableEq, Repr

/-- `monotonic_ns / 1_000_000_000`. -/
def monotonicSeconds (event : RuntimeEvent) : ℚ := (event.monotonicNs : ℚ) / 1000000000

/-- `aggregator.apply_event(event, sequence)`, with the delta it announces.  When a
    meter raises, the counters have moved and nothing else. -/
def applyEvent (a : RuntimeMetricsAggregator) (event : RuntimeEvent) (sequence : Option Int) :
    ApplyOutcome × RuntimeMetricsAggregator × Option MetricsDelta :=
  let norm := normalize event sequence
  if norm.intent = .ignore then (.returned false, a, none)
  else if a.selfMetrics.isDuplicate norm.eventId then
    (.returned false, { a with selfMetrics := a.selfMetrics.recordDuplicate }, none)
  else if ∃ n, sequence = some n ∧ n ≤ a.lastSequence then
    (.returned false, { a with selfMetrics := a.selfMetrics.recordStale }, none)
  else
    let (outcome, counters) := applyLifecycle a.counters norm
    match a.rateMeters.observe norm.intent (monotonicSeconds event) with
    | none => (.raised, { a with counters := counters }, none)
    | some rateMeters =>
      let lastSequence := match sequence with
        | none => a.lastSequence
        | some n => if n > a.lastSequence then n else a.lastSequence
      (.returned true,
        { lastSequence := lastSequence
          counters := counters
          rateMeters := rateMeters
          selfMetrics := a.selfMetrics.recordObserved norm.sequence norm.eventId },
        some
          { event := event
            sequence := norm.sequence
            lastSequence := lastSequence
            changes := outcome.changes
            durationAddedSeconds := outcome.durationAddedSeconds
            coroutineName := norm.coroutineName
            terminalState := outcome.terminalState })

/-- `aggregator.apply_state_change(change)`, the listener `bind` subscribes. -/
def applyStateChange (a : RuntimeMetricsAggregator) (change : StateChange) :
    ApplyOutcome × RuntimeMetricsAggregator × Option MetricsDelta :=
  a.applyEvent change.event change.sequence

/-- The aggregator takes the event: a task event it has not seen, above its cursor,
    on which its rate meter does not raise. -/
def Takes (a : RuntimeMetricsAggregator) (event : RuntimeEvent) (sequence : Option Int) : Prop :=
  event.body.isTaskEvent = true ∧ event.eventId ∉ a.selfMetrics.seenOrder ∧
    (∀ n, sequence = some n → a.lastSequence < n) ∧
    (a.rateMeters.observe (intentByType event.body) (monotonicSeconds event)).isSome = true

/-- A delta is announced exactly for an event the aggregator takes, and it carries
    the sequence of the event. -/
theorem applyEvent_delta (a : RuntimeMetricsAggregator) (event : RuntimeEvent)
    (sequence : Option Int) :
    ((a.applyEvent event sequence).2.2.isSome = true ↔ a.Takes event sequence) ∧
      ∀ delta ∈ (a.applyEvent event sequence).2.2, delta.sequence = sequence := by
  have hignore := intentByType_eq_ignore_iff event.body
  unfold applyEvent Takes
  dsimp only [normalize]
  by_cases hintent : intentByType event.body = .ignore
  · have hother := hignore.mp hintent
    simp [hintent, hother]
  · have htask : event.body.isTaskEvent = true := by
      cases htask : event.body.isTaskEvent with
      | true => rfl
      | false => exact absurd (hignore.mpr htask) hintent
    by_cases hseen : event.eventId ∈ a.selfMetrics.seenOrder
    · simp [hintent, AggregatorSelfMetrics.isDuplicate, hseen]
    · by_cases hstale : ∃ n, sequence = some n ∧ n ≤ a.lastSequence
      · have hnot : ¬ ∀ n, sequence = some n → a.lastSequence < n := by
          intro hall
          obtain ⟨n, hn, hle⟩ := hstale
          have hlt := hall n hn
          omega
        simp only [if_neg hintent, AggregatorSelfMetrics.isDuplicate, hseen, decide_false,
          Bool.false_eq_true, if_false, if_pos hstale]
        exact ⟨iff_of_false (by simp) fun h => hnot h.2.2.1, fun delta hdelta => by cases hdelta⟩
      · have habove : ∀ n, sequence = some n → a.lastSequence < n := by
          intro n hn
          by_contra hle
          exact hstale ⟨n, hn, by omega⟩
        simp only [if_neg hintent, AggregatorSelfMetrics.isDuplicate, hseen, decide_false,
          Bool.false_eq_true, if_false, if_neg hstale]
        cases hmeter : a.rateMeters.observe (intentByType event.body) (monotonicSeconds event) with
        | none =>
          refine ⟨iff_of_false (by simp) fun h => ?_, fun delta hdelta => by cases hdelta⟩
          have hsome := h.2.2.2
          cases hsome
        | some rateMeters =>
          refine ⟨iff_of_true rfl ⟨htask, not_false, habove, rfl⟩, fun delta hdelta => ?_⟩
          rw [← Option.some.inj hdelta]

end RuntimeMetricsAggregator

end AsyncViz.Runtime.Metrics
