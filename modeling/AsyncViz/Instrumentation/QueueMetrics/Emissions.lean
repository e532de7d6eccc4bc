/-
  AsyncViz.Instrumentation.QueueMetrics.Emissions

  What the live engine publishes: which events one `_maybe_emit` sends out, in which order and of
  which record, and what every state of a live engine satisfies.
-/

import AsyncViz.Instrumentation.QueueMetrics.Rebuild

namespace AsyncViz.Instrumentation.QueueMetrics

open AsyncViz.Lib

/-- What goes to the bus. -/
def published (emissions : List Emission) : List (DeltaKind × QueueMetricsRecord) :=
  emissions.filterMap fun emission =>
    match emission with
    | .publish kind record => some (kind, record)
    | .delta _ => none

@[simp] theorem published_append (emissions emissions' : List Emission) :
    published (emissions ++ emissions') = published emissions ++ published emissions' :=
  List.filterMap_append

/-! ## One `_maybe_emit` -/

section Emit

variable (record : QueueMetricsRecord) (monotonicSeconds : ℚ) (e : Emitting)

@[simp] theorem published_emitDelta (kind : DeltaKind)
    (previousLevel newLevel : Option PressureLevel) :
    published (emitDelta kind record previousLevel newLevel e).2 = published e.2 := by
  rw [emitDelta, published_append]
  exact List.append_nil _

theorem published_emitPressure :
    published (emitPressure record e).2 = published e.2 ++
      if e.1.lastEmittedLevel ≠ record.pressure.level ∧ e.1.config.emitPressure
      then [(.pressureChanged, record)] else [] := by
  unfold emitPressure
  dsimp only
  split
  case isTrue hlevel =>
    rw [published_append, published_emitDelta]
    cases hflag : e.1.config.emitPressure <;> simp [emitDelta, hflag, hlevel, published]
  case isFalse hlevel => simp [hlevel]

theorem published_emitEdge (edge : Bool) (kind : DeltaKind) :
    published (emitEdge edge kind record e).2 =
      published e.2 ++ if edge then [(kind, record)] else [] := by
  cases edge with
  | false => exact (List.append_nil _).symm
  | true =>
    rw [emitEdge, if_pos rfl, published_emitDelta, published_append]
    rfl

theorem published_emitUpdate :
    published (emitUpdate record monotonicSeconds e).2 = published e.2 ++
      if e.1.config.emitUpdated && shouldEmitUpdate e.1 monotonicSeconds
      then [(.updated, record)] else [] := by
  unfold emitUpdate
  split
  · rw [published_emitDelta, published_append]
    rfl
  · exact (List.append_nil _).symm

theorem state_emitPressure : ∃ level,
    (emitPressure record e).1 = { e.1 with lastEmittedLevel := level } := by
  unfold emitPressure
  dsimp only
  split
  · exact ⟨_, rfl⟩
  · exact ⟨e.1.lastEmittedLevel, rfl⟩

theorem state_emitEdge (edge : Bool) (kind : DeltaKind) : ∃ level,
    (emitEdge edge kind record e).1 = { e.1 with lastEmittedLevel := level } := by
  cases edge with
  | false => exact ⟨e.1.lastEmittedLevel, rfl⟩
  | true => exact ⟨_, rfl⟩

end Emit

/-- What one `_maybe_emit` publishes, all of one record: the pressure transition, the contention
    edge, the saturation edge and at last the update. -/
theorem published_maybeEmit (s : QueueAggregateState) (outcome : ApplyOutcome)
    (monotonicSeconds : ℚ) :
    published (maybeEmit s outcome monotonicSeconds).2 =
      (((if s.lastEmittedLevel ≠ (s.snapshot (some monotonicSeconds)).1.pressure.level ∧
            s.config.emitPressure
          then [(.pressureChanged, (s.snapshot (some monotonicSeconds)).1)] else []) ++
        if outcome.blockedTransitioned && s.config.emitContention
          then [(.contentionDetected, (s.snapshot (some monotonicSeconds)).1)] else []) ++
        if outcome.saturationEntered && s.config.emitSaturation
          then [(.saturationDetected, (s.snapshot (some monotonicSeconds)).1)] else []) ++
        if s.config.emitUpdated && shouldEmitUpdate s monotonicSeconds
          then [(.updated, (s.snapshot (some monotonicSeconds)).1)] else [] := by
  have hpressure := published_emitPressure (s.snapshot (some monotonicSeconds)).1
    ((s.snapshot (some monotonicSeconds)).2, [])
  obtain ⟨level, hlevel⟩ := state_emitPressure (s.snapshot (some monotonicSeconds)).1
    ((s.snapshot (some monotonicSeconds)).2, [])
  unfold maybeEmit
  dsimp only
  generalize emitPressure (s.snapshot (some monotonicSeconds)).1
    ((s.snapshot (some monotonicSeconds)).2, []) = e₁ at hpressure hlevel ⊢
  have hcontention := state_emitEdge (s.snapshot (some monotonicSeconds)).1 e₁
    (outcome.blockedTransitioned && (s.snapshot (some monotonicSeconds)).2.config.emitContention)
    .contentionDetected
  obtain ⟨level₂, hcontention⟩ := hcontention
  obtain ⟨level₃, hsaturation⟩ := state_emitEdge (s.snapshot (some monotonicSeconds)).1
    (emitEdge (outcome.blockedTransitioned &&
      (s.snapshot (some monotonicSeconds)).2.config.emitContention) .contentionDetected
      (s.snapshot (some monotonicSeconds)).1 e₁)
    (outcome.saturationEntered && (s.snapshot (some monotonicSeconds)).2.config.emitSaturation)
    .saturationDetected
  rw [published_emitUpdate, published_emitEdge, published_emitEdge, hpressure, hsaturation,
    hcontention, hlevel]
  rfl

/-! ## The states of a live engine -/

/-- What a state of a live engine satisfies: it is the one of its queue, nothing has finalized it,
    and its two counters of cancellations agree. -/
structure QueueAggregateState.Tracks (s : QueueAggregateState) (config : QueueMetricsConfig)
    (queueId : String) : Prop where
  queueId : s.queueId = queueId
  config : s.config = config
  live : s.finalized = false
  cancelled : s.throughput.cancelledCount = s.contention.cancelledCount

namespace QueueAggregateState

variable {s s' : QueueAggregateState} {config : QueueMetricsConfig} {queueId queueKind : String}
  {maxsize : Int}

theorem new?_tracks (h : new? queueId queueKind maxsize config = some s) :
    s.Tracks config queueId ∧ s.pressure.saturated = false ∧ s.lastEmitMonotonic = 0 := by
  rw [new?] at h
  split at h
  · cases h
    exact ⟨⟨rfl, rfl, rfl, rfl⟩, rfl, rfl⟩
  · cases h

/-- What a snapshot leaves alone. -/
theorem Tracks.snapshot (h : s.Tracks config queueId) (monotonicSeconds : Option ℚ) :
    (s.snapshot monotonicSeconds).2.Tracks config queueId :=
  ⟨h.queueId, h.config, h.live, h.cancelled⟩

/-- What the counting of an event leaves alone, raised or not. -/
theorem count_keeps (s : QueueAggregateState) (kind : QueueEventKind) (monotonicSeconds : ℚ) :
    (s.count kind monotonicSeconds).2.queueId = s.queueId ∧
      (s.count kind monotonicSeconds).2.config = s.config ∧
      (s.count kind monotonicSeconds).2.finalized = s.finalized ∧
      (s.count kind monotonicSeconds).2.pressure = s.pressure ∧
      (s.count kind monotonicSeconds).2.lastEmitMonotonic = s.lastEmitMonotonic := by
  cases kind with
  | put nowait blocked waitSeconds =>
    rw [count]
    obtain ⟨raised, throughput⟩ := s.throughput.recordPut monotonicSeconds nowait
    cases raised <;> cases blocked <;> exact ⟨rfl, rfl, rfl, rfl, rfl⟩
  | get nowait blocked waitSeconds =>
    rw [count]
    obtain ⟨raised, throughput⟩ := s.throughput.recordGet monotonicSeconds nowait
    cases raised <;> cases blocked <;> exact ⟨rfl, rfl, rfl, rfl, rfl⟩
  | cancelled operation waitSeconds => cases operation <;> exact ⟨rfl, rfl, rfl, rfl, rfl⟩
  | created => exact ⟨rfl, rfl, rfl, rfl, rfl⟩
  | fullWait => exact ⟨rfl, rfl, rfl, rfl, rfl⟩
  | emptyWait => exact ⟨rfl, rfl, rfl, rfl, rfl⟩
  | taskDone => exact ⟨rfl, rfl, rfl, rfl, rfl⟩

theorem cancelledCount_recordPut (t : ThroughputCounters) (monotonicSeconds : ℚ) (nowait : Bool) :
    (t.recordPut monotonicSeconds nowait).2.cancelledCount = t.cancelledCount := by
  unfold ThroughputCounters.recordPut
  dsimp only
  split <;> rfl

theorem cancelledCount_recordGet (t : ThroughputCounters) (monotonicSeconds : ℚ) (nowait : Bool) :
    (t.recordGet monotonicSeconds nowait).2.cancelledCount = t.cancelledCount := by
  unfold ThroughputCounters.recordGet
  dsimp only
  split <;> rfl

/-- Both counters of cancellations move together. -/
theorem count_cancelled (h : s.throughput.cancelledCount = s.contention.cancelledCount)
    (kind : QueueEventKind) (monotonicSeconds : ℚ) :
    (s.count kind monotonicSeconds).2.throughput.cancelledCount
      = (s.count kind monotonicSeconds).2.contention.cancelledCount := by
  cases kind with
  | put nowait blocked waitSeconds =>
    have hrecord := cancelledCount_recordPut s.throughput monotonicSeconds nowait
    rw [count]
    generalize s.throughput.recordPut monotonicSeconds nowait = recorded at hrecord
    obtain ⟨raised, throughput⟩ := recorded
    cases raised <;> cases blocked <;> exact hrecord.trans h
  | get nowait blocked waitSeconds =>
    have hrecord := cancelledCount_recordGet s.throughput monotonicSeconds nowait
    rw [count]
    generalize s.throughput.recordGet monotonicSeconds nowait = recorded at hrecord
    obtain ⟨raised, throughput⟩ := recorded
    cases raised <;> cases blocked <;> exact hrecord.trans h
  | cancelled operation waitSeconds => cases operation <;> exact congrArg (· + 1) h
  | created => exact h
  | fullWait => exact h
  | emptyWait => exact h
  | taskDone => exact h

theorem markSaturation_keeps (s : QueueAggregateState) :
    s.markSaturation = { s with pressure := s.markSaturation.pressure } := by
  unfold markSaturation
  dsimp only
  split <;> split <;> rfl

/-- The flag of saturation behind an event that raises nothing. -/
theorem saturated_markSaturation (s : QueueAggregateState) :
    s.markSaturation.pressure.saturated =
      if s.pressure.saturated then !decide (s.occupancyRatio < s.config.saturationRecoveryThreshold)
      else decide (s.config.saturationThreshold ≤ s.occupancyRatio) := by
  unfold markSaturation
  cases hsaturated : s.pressure.saturated with
  | false =>
    by_cases hratio : s.config.saturationThreshold ≤ s.occupancyRatio <;>
      simp [hsaturated, hratio]
  | true =>
    by_cases hratio : s.occupancyRatio < s.config.saturationRecoveryThreshold <;>
      simp [hsaturated, hratio]

/-- What an event does to a tracked state: where a meter raises, saturation and emissions are not
    reached; otherwise `saturation_entered` tells of the flag that goes up. -/
theorem Tracks.applyEvent (h : s.Tracks config queueId) (event : QueueEvent)
    (monotonicSeconds : ℚ) :
    (s.applyEvent event monotonicSeconds).2.Tracks config queueId ∧
      (s.applyEvent event monotonicSeconds).2.lastEmitMonotonic = s.lastEmitMonotonic ∧
      match (s.applyEvent event monotonicSeconds).1 with
      | none => (s.applyEvent event monotonicSeconds).2.pressure.saturated = s.pressure.saturated
      | some outcome =>
        outcome.accepted = true ∧
          outcome.saturationEntered =
            (!s.pressure.saturated &&
              (s.applyEvent event monotonicSeconds).2.pressure.saturated) := by
  have hcancelled := count_cancelled (s := s.report event.snapshot) h.cancelled event.kind
    monotonicSeconds
  obtain ⟨hid, hconfig, hlive, hpressure, hemit⟩ :=
    count_keeps (s.report event.snapshot) event.kind monotonicSeconds
  unfold QueueAggregateState.applyEvent
  rw [if_neg (by simp [h.live])]
  generalize (s.report event.snapshot).count event.kind monotonicSeconds = counted
    at hid hconfig hlive hpressure hemit hcancelled
  obtain ⟨raised, s'⟩ := counted
  dsimp only at hid hconfig hlive hpressure hemit hcancelled
  have htracks : s'.Tracks config queueId :=
    ⟨hid.trans h.queueId, hconfig.trans h.config, hlive.trans h.live, hcancelled⟩
  cases raised with
  | true => exact ⟨htracks, hemit, congrArg PressureScorer.saturated hpressure⟩
  | false =>
    have hflag := saturated_markSaturation s'
    have hsaturated : s'.pressure.saturated = s.pressure.saturated :=
      congrArg PressureScorer.saturated hpressure
    have hsame : s'.config = s.config := hconfig
    dsimp only
    refine ⟨?_, ?_, rfl, ?_⟩
    · rw [markSaturation_keeps]
      exact ⟨htracks.queueId, htracks.config, htracks.live, htracks.cancelled⟩
    · rw [markSaturation_keeps]
      exact hemit
    · rw [hflag, hsaturated, hsame]
      cases s.pressure.saturated <;> simp

end QueueAggregateState

/-- Emitting keeps a state tracked, and its flag of saturation. -/
theorem state_maybeEmit (s : QueueAggregateState) (outcome : ApplyOutcome)
    (monotonicSeconds : ℚ) : ∃ level revision seconds,
    (maybeEmit s outcome monotonicSeconds).1 =
      { (s.snapshot (some monotonicSeconds)).2 with
        lastEmittedLevel := level
        lastEmittedRevision := revision
        lastEmitMonotonic := seconds } := by
  have hupdate : ∀ record (e : Emitting), ∃ level revision seconds,
      (emitUpdate record monotonicSeconds e).1 =
        { e.1 with
          lastEmittedLevel := level
          lastEmittedRevision := revision
          lastEmitMonotonic := seconds } := by
    intro record e
    unfold emitUpdate
    split
    · exact ⟨_, _, _, rfl⟩
    · exact ⟨e.1.lastEmittedLevel, e.1.lastEmittedRevision, e.1.lastEmitMonotonic, rfl⟩
  unfold maybeEmit
  dsimp only
  generalize (s.snapshot (some monotonicSeconds)).1 = record
  obtain ⟨level₁, h₁⟩ := state_emitPressure record ((s.snapshot (some monotonicSeconds)).2, [])
  generalize emitPressure record ((s.snapshot (some monotonicSeconds)).2, []) = e₁ at h₁ ⊢
  obtain ⟨level₂, h₂⟩ := state_emitEdge record e₁
    (outcome.blockedTransitioned && (s.snapshot (some monotonicSeconds)).2.config.emitContention)
    .contentionDetected
  generalize emitEdge _ .contentionDetected record e₁ = e₂ at h₂ ⊢
  obtain ⟨level₃, h₃⟩ := state_emitEdge record e₂
    (outcome.saturationEntered && (s.snapshot (some monotonicSeconds)).2.config.emitSaturation)
    .saturationDetected
  generalize emitEdge _ .saturationDetected record e₂ = e₃ at h₃ ⊢
  obtain ⟨level₄, revision, seconds, h₄⟩ := hupdate record e₃
  refine ⟨level₄, revision, seconds, ?_⟩
  rw [h₄, h₃, h₂, h₁]

theorem QueueAggregateState.Tracks.maybeEmit {s : QueueAggregateState}
    {config : QueueMetricsConfig} {queueId : String} (h : s.Tracks config queueId)
    (outcome : ApplyOutcome) (monotonicSeconds : ℚ) :
    (maybeEmit s outcome monotonicSeconds).1.Tracks config queueId ∧
      (QueueMetrics.maybeEmit s outcome monotonicSeconds).1.pressure.saturated
        = s.pressure.saturated := by
  obtain ⟨level, revision, seconds, hstate⟩ := state_maybeEmit s outcome monotonicSeconds
  rw [hstate]
  exact ⟨⟨h.queueId, h.config, h.live, h.cancelled⟩, rfl⟩

/-! ## One step of a live engine -/

namespace QueueMetricsEngine

variable {config : QueueMetricsConfig} {e : QueueMetricsEngine}

/-- The states of a live engine are those of their queues. -/
structure Tracks (e : QueueMetricsEngine) (config : QueueMetricsConfig) : Prop where
  sameConfig : e.config = config
  states : ∀ queueId s, e.states.get? queueId = some s → s.Tracks config queueId

/-- The engine counts the queue as saturated. -/
def saturatedIn (e : QueueMetricsEngine) (queueId : String) : Bool :=
  (e.states.get? queueId).any fun s => s.pressure.saturated

/-- The engine has not sent an update of the queue yet. -/
def Untold (e : QueueMetricsEngine) (queueId : String) : Prop :=
  ∀ s, e.states.get? queueId = some s → s.lastEmitMonotonic = 0

theorem tracks_empty (config : QueueMetricsConfig) :
    Tracks ⟨config, .empty⟩ config :=
  ⟨rfl, fun _ _ hget => absurd hget (Option.not_mem_none _)⟩

/-- One state is replaced by one of the same queue. -/
theorem Tracks.set (h : e.Tracks config) {queueId : String} {s : QueueAggregateState}
    (hs : s.Tracks config queueId) :
    Tracks { e with states := e.states.set queueId s } config := by
  refine ⟨h.sameConfig, fun queueId' s' hget => ?_⟩
  rw [Dict.get?_set] at hget
  split at hget
  case isTrue hid =>
    cases hget
    exact hid ▸ hs
  case isFalse => exact h.states queueId' s' hget

theorem saturatedIn_set (queueId queueId' : String) (s : QueueAggregateState) :
    saturatedIn { e with states := e.states.set queueId s } queueId' =
      if queueId' = queueId then s.pressure.saturated else e.saturatedIn queueId' := by
  rw [saturatedIn, Dict.get?_set]
  split <;> rfl

/-- The state that an event goes to: the one of its queue, or a new one. -/
theorem Tracks.stateFor (h : e.Tracks config) {event : QueueEvent} {s : QueueAggregateState}
    (hstate : e.stateFor event = some (some s)) :
    s.Tracks config event.queueId ∧
      e.saturatedIn event.queueId = s.pressure.saturated ∧
      (e.Untold event.queueId → s.lastEmitMonotonic = 0) := by
  rw [QueueMetricsEngine.stateFor] at hstate
  cases hget : e.states.get? event.queueId with
  | some s₀ =>
    rw [hget] at hstate
    cases hstate
    refine ⟨h.states _ _ hget, ?_, fun huntold => huntold _ hget⟩
    rw [saturatedIn, hget]
    rfl
  | none =>
    rw [hget] at hstate
    dsimp only at hstate
    split at hstate
    · cases hstate
    · obtain ⟨htracks, hsaturated, hemit⟩ :=
        QueueAggregateState.new?_tracks (Option.some.inj hstate)
      refine ⟨h.sameConfig ▸ htracks, ?_, fun _ => hemit⟩
      rw [saturatedIn, hget, hsaturated]
      rfl

/-- How an event of a live engine goes: it is counted and emitted about, or nothing is sent and
    the flags stay as they are. -/
theorem Tracks.applyEvent_cases (h : e.Tracks config) (event : QueueEvent) :
    (e.applyEvent event true).2.1.Tracks config ∧
      (∀ queueId, queueId ≠ event.queueId →
        (e.applyEvent event true).2.1.states.get? queueId = e.states.get? queueId) ∧
      (((e.applyEvent event true).1 ≠ .applied ∧
          (e.applyEvent event true).2.2 = [] ∧
          (e.applyEvent event true).2.1.saturatedIn event.queueId = e.saturatedIn event.queueId ∧
          (e.Untold event.queueId → (e.applyEvent event true).2.1.Untold event.queueId)) ∨
        ∃ s outcome,
          s.Tracks config event.queueId ∧
          (e.Untold event.queueId → s.lastEmitMonotonic = 0) ∧
          outcome.saturationEntered = (!e.saturatedIn event.queueId &&
            (e.applyEvent event true).2.1.saturatedIn event.queueId) ∧
          (e.applyEvent event true).1 = .applied ∧
          (e.applyEvent event true).2.1 = { e with
            states := e.states.set event.queueId
              (maybeEmit s outcome event.monotonicSeconds).1 } ∧
          (e.applyEvent event true).2.2 = (maybeEmit s outcome event.monotonicSeconds).2) := by
  unfold QueueMetricsEngine.applyEvent
  split
  case isTrue => exact ⟨h, fun _ _ => rfl, .inl ⟨fun hsame => (by cases hsame), rfl, rfl, id⟩⟩
  case isFalse =>
    cases hstate : e.stateFor event with
    | none => exact ⟨h, fun _ _ => rfl, .inl ⟨fun hsame => (by cases hsame), rfl, rfl, id⟩⟩
    | some made =>
      cases made with
      | none => exact ⟨h, fun _ _ => rfl, .inl ⟨fun hsame => (by cases hsame), rfl, rfl, id⟩⟩
      | some s =>
        obtain ⟨htracks, hsaturated, huntold⟩ := h.stateFor hstate
        obtain ⟨htracks', hemit, houtcome⟩ := htracks.applyEvent event event.monotonicSeconds
        dsimp only
        generalize s.applyEvent event event.monotonicSeconds = applied
          at htracks' hemit houtcome ⊢
        obtain ⟨outcome, s'⟩ := applied
        cases outcome with
        | none =>
          refine ⟨h.set htracks', fun queueId hne => Dict.get?_set_of_ne _ _ hne,
            .inl ⟨fun hsame => (by cases hsame), rfl, ?_, ?_⟩⟩
          · rw [saturatedIn_set, if_pos rfl, hsaturated]
            exact houtcome
          · intro hbefore s'' hget
            rw [Dict.get?_set_self] at hget
            cases hget
            exact hemit.trans (huntold hbefore)
        | some outcome =>
          obtain ⟨haccepted, hentered⟩ := houtcome
          obtain ⟨hkept, hflag⟩ := htracks'.maybeEmit outcome event.monotonicSeconds
          dsimp only
          rw [if_pos haccepted, if_pos rfl]
          refine ⟨h.set hkept, fun queueId hne => Dict.get?_set_of_ne _ _ hne,
            .inr ⟨s', outcome, htracks', fun hbefore => hemit.trans (huntold hbefore), ?_, rfl,
              rfl, rfl⟩⟩
          rw [saturatedIn_set, if_pos rfl, hflag, hsaturated]
          exact hentered

/-! ## Runs -/

/-- What one step emits: reads emit nothing. -/
def emittedBy (e : QueueMetricsEngine) : Step → List Emission
  | .event event => (e.applyEvent event true).2.2
  | .snapshotQueue _ => []
  | .snapshot => []

/-- What a live run emits. -/
def emitted (e : QueueMetricsEngine) : List Step → List Emission
  | [] => []
  | step :: steps => e.emittedBy step ++ (e.live [step]).emitted steps

theorem live_cons (e : QueueMetricsEngine) (step : Step) (steps : List Step) :
    e.live (step :: steps) = (e.live [step]).live steps := by
  cases step <;> rfl

theorem live_append (e : QueueMetricsEngine) (steps steps' : List Step) :
    e.live (steps ++ steps') = (e.live steps).live steps' := by
  induction steps generalizing e with
  | nil => rfl
  | cons step steps ih => rw [List.cons_append, live_cons, ih, ← live_cons]

theorem emitted_append (e : QueueMetricsEngine) (steps steps' : List Step) :
    e.emitted (steps ++ steps') = e.emitted steps ++ (e.live steps).emitted steps' := by
  induction steps generalizing e with
  | nil => rfl
  | cons step steps ih =>
    rw [List.cons_append, emitted, ih, emitted, live_cons e step steps, List.append_assoc]

theorem Tracks.mapValues (h : e.Tracks config) :
    Tracks { e with states := e.states.mapValues readState } config := by
  refine ⟨h.sameConfig, fun queueId s hget => ?_⟩
  rw [Dict.get?_mapValues] at hget
  obtain ⟨s₀, hs₀, rfl⟩ := Option.map_eq_some_iff.mp hget
  have htracks := h.states queueId s₀ hs₀
  rw [readState, if_neg (by simp [htracks.live])]
  exact htracks.snapshot none

/-- A read tells nobody anything, and moves no flag. -/
theorem Tracks.read (h : e.Tracks config) {step : Step} (hread : events [step] = []) :
    (e.live [step]).Tracks config ∧ e.emittedBy step = [] ∧
      ∀ queueId, (e.live [step]).saturatedIn queueId = e.saturatedIn queueId ∧
        (e.Untold queueId → (e.live [step]).Untold queueId) := by
  cases step with
  | event event => exact absurd hread (List.cons_ne_nil _ _)
  | snapshot =>
    refine ⟨h.mapValues, rfl, fun queueId => ?_⟩
    have hget : (e.live [.snapshot]).states.get? queueId = (e.states.get? queueId).map readState :=
      Dict.get?_mapValues _ _ _
    cases hstate : e.states.get? queueId with
    | none =>
      rw [hstate] at hget
      refine ⟨?_, fun _ s hs => absurd (hget.symm.trans hs) (Option.some_ne_none s).symm⟩
      rw [saturatedIn, saturatedIn, hget, hstate]
      rfl
    | some s =>
      have hread : readState s = (s.snapshot none).2 :=
        if_neg (by simp [(h.states queueId s hstate).live])
      rw [hstate, Option.map_some, hread] at hget
      refine ⟨?_, fun huntold s' hs' => ?_⟩
      · rw [saturatedIn, saturatedIn, hget, hstate]
        rfl
      · rw [hget] at hs'
        cases hs'
        exact huntold s hstate
  | snapshotQueue queueId =>
    have hlive : e.live [.snapshotQueue queueId] = (e.snapshotQueue queueId).2 := rfl
    rw [hlive, snapshotQueue]
    cases hstate : e.states.get? queueId with
    | none => exact ⟨h, rfl, fun _ => ⟨rfl, id⟩⟩
    | some s =>
      refine ⟨h.set ((h.states queueId s hstate).snapshot none), rfl, fun queueId' => ⟨?_, ?_⟩⟩
      · rw [saturatedIn_set]
        split
        case isTrue hid =>
          subst hid
          rw [saturatedIn, hstate]
          rfl
        case isFalse => rfl
      · intro huntold s' hget
        rw [Dict.get?_set] at hget
        split at hget
        case isTrue hid =>
          subst hid
          cases hget
          exact huntold s hstate
        case isFalse => exact huntold s' hget

theorem Tracks.live (h : e.Tracks config) (steps : List Step) : (e.live steps).Tracks config := by
  induction steps generalizing e with
  | nil => exact h
  | cons step steps ih =>
    rw [live_cons]
    cases step with
    | event event => exact ih (h.applyEvent_cases event).1
    | snapshotQueue queueId => exact ih (h.read (show events [.snapshotQueue queueId] = [] from rfl)).1
    | snapshot => exact ih (h.read (show events [.snapshot] = [] from rfl)).1

end QueueMetricsEngine

end AsyncViz.Instrumentation.QueueMetrics
