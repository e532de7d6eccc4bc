/-
  AsyncViz.Instrumentation.QueueMetrics.Rebuild

  The rebuilt aggregates against those of the live engine, with snapshots read in between.

  Every snapshot scores the pressure, and the score, the level and the highest ratio it finds
  stay in the state; the live path takes one after every event and the rebuild none.  So the two
  agree where no snapshot finds anything (`Quiet`), and the first event after which one would is
  enough to tell them apart.
-/

import AsyncViz.Instrumentation.QueueMetrics.Engine
import AsyncViz.Instrumentation.QueueMetrics.Pressure

namespace AsyncViz.Instrumentation.QueueMetrics

open AsyncViz.Lib

/-! ## What is compared -/

/-- The aggregate of a queue: all but what the engine keeps about its own emissions, with the
    rates that the meters show. -/
structure Aggregates where
  queueId : String
  queueKind : String
  maxsize : Int
  revision : Nat
  lastObservedSize : Int
  occupancy : OccupancyWindow
  throughput : QueueThroughputSnapshot
  contention : ContentionTracker
  pressure : PressureScorer
  putWait : WaitDigest
  getWait : WaitDigest
  finalized : Bool

namespace QueueAggregateState

def aggregates (s : QueueAggregateState) : Aggregates where
  queueId := s.queueId
  queueKind := s.queueKind
  maxsize := s.maxsize
  revision := s.revision
  lastObservedSize := s.lastObservedSize
  occupancy := s.occupancy
  throughput := (s.throughput.snapshot none).1
  contention := s.contention
  pressure := s.pressure
  putWait := s.putWait
  getWait := s.getWait
  finalized := s.finalized

/-- The state without what the engine keeps about its own emissions. -/
def core (s : QueueAggregateState) : QueueAggregateState :=
  { s with lastEmittedRevision := 0, lastEmitMonotonic := 0, lastEmittedLevel := .calm }

end QueueAggregateState

/-- What is seen of a queue: its aggregate, and the record that `snapshot_queue` returns. -/
def QueueMetricsEngine.view (e : QueueMetricsEngine) (queueId : String) :
    Option (Aggregates × QueueMetricsRecord) :=
  (e.states.get? queueId).map fun s => (s.aggregates, (s.snapshot none).1)

open QueueMetricsEngine in
/-- The rebuild leaves every queue as the live engine does, whoever reads a snapshot of either in
    between and whatever the rebuilt engine held before. -/
def Rebuilds (config : QueueMetricsConfig) (evts : List QueueEvent) : Prop :=
  ∀ (held : Dict String QueueAggregateState) (liveSteps rebuildSteps : List Step),
    events liveSteps = evts → events rebuildSteps = evts → ∀ queueId,
      (live ⟨config, .empty⟩ liveSteps).view queueId
        = (rebuildFromEvents ⟨config, held⟩ rebuildSteps).view queueId

open QueueMetricsEngine in
/-- The rebuild leaves every queue as the live engine does, where nobody reads. -/
def RebuildsUnread (config : QueueMetricsConfig) (evts : List QueueEvent) : Prop :=
  ∀ (held : Dict String QueueAggregateState) queueId,
    (live ⟨config, .empty⟩ (evts.map .event)).view queueId
      = (rebuildFromEvents ⟨config, held⟩ (evts.map .event)).view queueId

/-! ## Quiet events -/

/-- What the events have last said of a queue. -/
structure Report where
  maxsize : Int
  size : Int
deriving DecidableEq, Repr

/-- The report after one more event; a bound that is not positive is not taken over. -/
def Report.next (r : Report) (fields : SnapshotFields) : Report where
  maxsize := match fields.maxsize with
    | some maxsize => if maxsize > 0 then maxsize else r.maxsize
    | none => r.maxsize
  size := fields.size.getD r.size

/-- The reports of the tracked queues: an event of another queue is taken in only where there is
    room for it. -/
def reportEvent (config : QueueMetricsConfig) (reports : Dict String Report) (event : QueueEvent) :
    Dict String Report :=
  if event.queueId = "" ∨ ¬ QueueAggregateState.Sized config then reports
  else
    match reports.get? event.queueId with
    | some r => reports.set event.queueId (r.next event.snapshot)
    | none =>
      if (reports.size : Int) ≥ config.maxTrackedQueues then reports
      else reports.set event.queueId (Report.next ⟨event.maxsize, 0⟩ event.snapshot)

def reports (config : QueueMetricsConfig) (evts : List QueueEvent) : Dict String Report :=
  evts.foldl (reportEvent config) .empty

/-- Nothing shows after the event: its queue is empty or without bound, no task is blocked on it,
    nothing was put in or taken out, and a score of zero is calm. -/
structure QuietAt (config : QueueMetricsConfig) (event : QueueEvent) (r : Report) : Prop where
  transfer : event.kind.isTransfer = false
  empty : r.maxsize ≤ 0 ∨ r.size ≤ 0
  producers : event.snapshot.blockedPutters.getD 0 ≤ 0
  consumers : event.snapshot.blockedGetters.getD 0 ≤ 0
  warning : 0 < config.pressureWarningThreshold
  critical : 0 < config.pressureCriticalThreshold

/-- Nothing shows after any event of a tracked queue. -/
def Quiet (config : QueueMetricsConfig) (evts : List QueueEvent) : Prop :=
  ∀ before event after, evts = before ++ event :: after →
    ∀ r, (reports config (before ++ [event])).get? event.queueId = some r → QuietAt config event r

variable {config : QueueMetricsConfig} {before evts : List QueueEvent} {event : QueueEvent}

theorem reports_snoc (config : QueueMetricsConfig) (before : List QueueEvent)
    (event : QueueEvent) :
    reports config (before ++ [event]) = reportEvent config (reports config before) event := by
  rw [reports, List.foldl_append]
  rfl

theorem Quiet.of_append {after : List QueueEvent} (h : Quiet config (before ++ after)) :
    Quiet config before := by
  rintro first event rest rfl
  exact h first event (rest ++ after) (by simp)

theorem Quiet.last (h : Quiet config (before ++ [event])) {r : Report}
    (hr : (reports config (before ++ [event])).get? event.queueId = some r) :
    QuietAt config event r :=
  h before event [] rfl r hr

theorem Quiet.snoc (h : Quiet config before)
    (hlast : ∀ r, (reports config (before ++ [event])).get? event.queueId = some r →
      QuietAt config event r) : Quiet config (before ++ [event]) := by
  intro first event' rest heq
  -- The event is the last one, or one of those before.
  rcases List.eq_nil_or_concat rest with rfl | ⟨rest, last, rfl⟩
  · obtain ⟨rfl, htail⟩ := List.append_inj' heq rfl
    cases htail
    exact hlast
  · rw [List.concat_eq_append, ← List.cons_append, ← List.append_assoc] at heq
    obtain ⟨rfl, -⟩ := List.append_inj' heq rfl
    exact h first event' rest rfl

/-! ## The core of a state -/

namespace QueueAggregateState

variable {s : QueueAggregateState}

/-- What a state has been told of its queue last. -/
def reported (s : QueueAggregateState) : Report := ⟨s.maxsize, s.lastObservedSize⟩

theorem core_count (s : QueueAggregateState) (kind : QueueEventKind) (seconds : ℚ) :
    s.core.count kind seconds = ((s.count kind seconds).1, (s.count kind seconds).2.core) := by
  cases kind with
  | put nowait blocked waitSeconds =>
    have hthroughput : s.core.throughput = s.throughput := rfl
    simp only [count, hthroughput]
    generalize s.throughput.recordPut seconds nowait = recorded
    obtain ⟨raised, throughput⟩ := recorded
    cases raised <;> cases blocked <;> rfl
  | get nowait blocked waitSeconds =>
    have hthroughput : s.core.throughput = s.throughput := rfl
    simp only [count, hthroughput]
    generalize s.throughput.recordGet seconds nowait = recorded
    obtain ⟨raised, throughput⟩ := recorded
    cases raised <;> cases blocked <;> rfl
  | cancelled operation waitSeconds => cases operation <;> rfl
  | created => rfl
  | fullWait => rfl
  | emptyWait => rfl
  | taskDone => rfl

theorem core_markSaturation (s : QueueAggregateState) :
    s.core.markSaturation = s.markSaturation.core := by
  have hratio : s.core.occupancyRatio = s.occupancyRatio := rfl
  have hpressure : s.core.pressure = s.pressure := rfl
  have hconfig : s.core.config = s.config := rfl
  simp only [markSaturation, hratio, hpressure, hconfig]
  split <;> split <;> rfl

/-- An event does to the core what it does to the state. -/
theorem core_applyEvent (s : QueueAggregateState) (event : QueueEvent) (seconds : ℚ) :
    (s.core.applyEvent event seconds).2 = (s.applyEvent event seconds).2.core := by
  unfold applyEvent
  by_cases hfinal : s.finalized = true
  · rw [if_pos hfinal, if_pos (show s.core.finalized = true from hfinal)]
  · rw [if_neg hfinal, if_neg (show ¬ s.core.finalized = true from hfinal)]
    have hreport : s.core.report event.snapshot = (s.report event.snapshot).core := rfl
    rw [hreport, core_count]
    generalize (s.report event.snapshot).count event.kind seconds = counted
    obtain ⟨raised, s'⟩ := counted
    cases raised with
    | true => rfl
    | false => exact s'.core_markSaturation

theorem resting_core (h : Resting s) : Resting s.core :=
  ⟨h.live, h.pressure, h.putRate, h.getRate⟩

theorem unnoticed_core (h : Unnoticed s) : Unnoticed s.core :=
  ⟨h.empty, h.producers, h.consumers, h.warning, h.critical⟩

/-- The emissions of a snapshot touch only what the engine keeps about them. -/
theorem core_maybeEmit (s : QueueAggregateState) (outcome : ApplyOutcome) (seconds : ℚ) :
    (maybeEmit s outcome seconds).1.core = (s.snapshot (some seconds)).2.core := by
  have hdelta : ∀ kind record previousLevel newLevel (e : Emitting),
      (emitDelta kind record previousLevel newLevel e).1.core = e.1.core :=
    fun _ _ _ _ _ => rfl
  have hedge : ∀ edge kind record (e : Emitting),
      (emitEdge edge kind record e).1.core = e.1.core := by
    intro edge kind record e
    cases edge <;> rfl
  have hpressure : ∀ record (e : Emitting), (emitPressure record e).1.core = e.1.core := by
    intro record e
    unfold emitPressure
    dsimp only
    split <;> rfl
  have hupdate : ∀ record (e : Emitting), (emitUpdate record seconds e).1.core = e.1.core := by
    intro record e
    unfold emitUpdate
    split <;> rfl
  unfold maybeEmit
  dsimp only
  rw [hupdate, hedge, hedge, hpressure]

/-- A new state has seen nothing. -/
theorem new?_eq_some {queueId queueKind : String} {maxsize : Int} {config : QueueMetricsConfig}
    (h : new? queueId queueKind maxsize config = some s) :
    Resting s ∧ s.config = config ∧ s.reported = ⟨maxsize, 0⟩ ∧ s.core = s := by
  unfold new? at h
  split at h
  · cases h
    exact ⟨⟨rfl, rfl, fresh_new _, fresh_new _⟩, rfl, rfl, rfl⟩
  · cases h

theorem new?_eq_none {queueId queueKind : String} {maxsize : Int} {config : QueueMetricsConfig}
    (h : new? queueId queueKind maxsize config = none) : ¬ Sized config := by
  unfold new? at h
  split at h
  · cases h
  · assumption

/-- What is reported after an event, whether or not a meter raises. -/
theorem reported_applyEvent (hlive : s.finalized = false) (event : QueueEvent) (seconds : ℚ) :
    (s.applyEvent event seconds).2.reported = s.reported.next event.snapshot := by
  have h := reports_applyEvent hlive event seconds
  rw [reported, Report.next, h.maxsize, h.size]
  rfl

/-- An event is quiet where the state has nothing to notice after it. -/
theorem quietAt_iff (hlive : s.finalized = false) (hconfig : s.config = config)
    (event : QueueEvent) (seconds : ℚ) :
    QuietAt config event (s.reported.next event.snapshot) ↔
      event.kind.isTransfer = false ∧ Unnoticed (s.applyEvent event seconds).2 := by
  have hreported := reported_applyEvent hlive event seconds
  have h := reports_applyEvent hlive event seconds
  have hmax : ∀ n : Int, max 0 n = 0 ↔ n ≤ 0 := fun n => by omega
  rw [← hreported]
  constructor
  · rintro ⟨htransfer, hempty, hproducers, hconsumers, hwarning, hcritical⟩
    refine ⟨htransfer, hempty, ?_, ?_, ?_, ?_⟩
    · rw [h.producers]
      exact (hmax _).mpr hproducers
    · rw [h.consumers]
      exact (hmax _).mpr hconsumers
    · rw [h.config, hconfig]
      exact hwarning
    · rw [h.config, hconfig]
      exact hcritical
  · rintro ⟨htransfer, hquiet⟩
    have hwarning := hquiet.warning
    have hcritical := hquiet.critical
    rw [h.config, hconfig] at hwarning hcritical
    exact ⟨htransfer, hquiet.empty, (hmax _).mp (h.producers ▸ hquiet.producers),
      (hmax _).mp (h.consumers ▸ hquiet.consumers), hwarning, hcritical⟩

end QueueAggregateState

/-! ## Quiet runs -/

namespace QueueMetricsEngine

/-- The states after the events, applied silently and with no reads. -/
def silent (config : QueueMetricsConfig) (evts : List QueueEvent) :
    Dict String QueueAggregateState :=
  evts.foldl (fun states event => (applyEvent ⟨config, states⟩ event false).2.1.states) .empty

theorem silent_snoc (config : QueueMetricsConfig) (before : List QueueEvent)
    (event : QueueEvent) :
    silent config (before ++ [event])
      = (applyEvent ⟨config, silent config before⟩ event false).2.1.states := by
  rw [silent, List.foldl_append]
  rfl

/-- The engine has seen the events, and no reading has found anything in it. -/
structure Follows (config : QueueMetricsConfig) (before : List QueueEvent)
    (e : QueueMetricsEngine) : Prop where
  sameConfig : e.config = config
  cores : e.states.mapValues QueueAggregateState.core = silent config before
  told : e.states.mapValues QueueAggregateState.reported = reports config before
  resting : ∀ queueId s, e.states.get? queueId = some s →
    s.Resting ∧ s.Unnoticed ∧ s.config = config

variable {e : QueueMetricsEngine}

theorem Follows.get_silent (h : Follows config before e) (queueId : String) :
    (silent config before).get? queueId
      = (e.states.get? queueId).map QueueAggregateState.core := by
  rw [← h.cores, Dict.get?_mapValues]

theorem Follows.get_reports (h : Follows config before e) (queueId : String) :
    (reports config before).get? queueId
      = (e.states.get? queueId).map QueueAggregateState.reported := by
  rw [← h.told, Dict.get?_mapValues]

/-- What is seen of a queue depends on the core of its state alone. -/
theorem Follows.view (h : Follows config before e) (queueId : String) :
    e.view queueId
      = ((silent config before).get? queueId).map fun s => (s.aggregates, (s.snapshot none).1) := by
  rw [QueueMetricsEngine.view, h.get_silent, Option.map_map]
  rfl

theorem follows_nil (config : QueueMetricsConfig) : Follows config [] ⟨config, .empty⟩ :=
  ⟨rfl, rfl, rfl, fun _ _ h => by cases h⟩

/-- A snapshot of one queue changes nothing. -/
theorem Follows.snapshotQueue (h : Follows config before e) (queueId : String) :
    (e.snapshotQueue queueId).2 = e := by
  unfold QueueMetricsEngine.snapshotQueue
  cases hget : e.states.get? queueId with
  | none => rfl
  | some s =>
    obtain ⟨hresting, hquiet, -⟩ := h.resting queueId s hget
    dsimp only
    rw [hresting.snapshot hquiet, Dict.set_eq_self hget]

/-- A snapshot of all queues changes nothing. -/
theorem Follows.snapshot (h : Follows config before e) : e.snapshot.2 = e := by
  have hsame : e.states.mapValues readState = e.states.mapValues id := by
    refine Dict.mapValues_congr fun s hs => ?_
    obtain ⟨queueId, hget⟩ := Dict.mem_values_iff.mp hs
    obtain ⟨hresting, hquiet, -⟩ := h.resting queueId s hget
    rw [readState, if_neg (by simp [hresting.live]), hresting.snapshot hquiet]
    rfl
  unfold QueueMetricsEngine.snapshot
  rw [hsame, Dict.mapValues_id]

/-- What an event does to the engine, by where it goes: nowhere, to a new state that raises, or
    to a state. -/
theorem applyEvent_put {s : QueueAggregateState} (hid : event.queueId ≠ "")
    (hstate : e.stateFor event = some (some s)) (hresting : s.Resting) (emit : Bool) :
    (e.applyEvent event emit).1 = .applied ∧
      (e.applyEvent event emit).2.1 =
        { e with
          states := e.states.set event.queueId
            (if emit then
              (maybeEmit (s.applyEvent event event.monotonicSeconds).2
                ((s.applyEvent event event.monotonicSeconds).1.getD {}) event.monotonicSeconds).1
            else (s.applyEvent event event.monotonicSeconds).2) } := by
  obtain ⟨outcome, houtcome, haccepted⟩ := (hresting.applyEvent event event.monotonicSeconds).1
  unfold QueueMetricsEngine.applyEvent
  rw [if_neg hid, hstate]
  dsimp only
  generalize s.applyEvent event event.monotonicSeconds = applied at houtcome ⊢
  obtain ⟨outcome', s'⟩ := applied
  dsimp only at houtcome
  subst houtcome
  dsimp only
  rw [if_pos haccepted]
  cases emit <;> exact ⟨rfl, rfl⟩

/-- Where an event goes to: nowhere, as the map is full, or to a resting state; the silent run
    and the reports say the same. -/
theorem Follows.stateFor_cases (h : Follows config before e)
    (hsized : QueueAggregateState.Sized config) (hid : event.queueId ≠ "") :
    (e.stateFor event = none ∧ stateFor ⟨config, silent config before⟩ event = none ∧
        reportEvent config (reports config before) event = reports config before ∧
        e.states.get? event.queueId = none) ∨
      ∃ s, e.stateFor event = some (some s) ∧
        stateFor ⟨config, silent config before⟩ event = some (some s.core) ∧
        s.Resting ∧ s.config = config ∧
        reportEvent config (reports config before) event
          = (reports config before).set event.queueId (s.reported.next event.snapshot) := by
  have hgate : ¬ (event.queueId = "" ∨ ¬ QueueAggregateState.Sized config) := by
    rintro (hid' | hsized')
    · exact hid hid'
    · exact hsized' hsized
  have hsilent := h.get_silent event.queueId
  have hreports := h.get_reports event.queueId
  have hsize : (silent config before).size = e.states.size := by
    rw [← h.cores, Dict.size_mapValues]
  have hsize' : (reports config before).size = e.states.size := by
    rw [← h.told, Dict.size_mapValues]
  unfold stateFor reportEvent
  rw [if_neg hgate, hreports, h.sameConfig]
  cases hget : e.states.get? event.queueId with
  | some s =>
    obtain ⟨hresting, -, hconfig⟩ := h.resting _ s hget
    refine .inr ⟨s, rfl, ?_, hresting, hconfig, rfl⟩
    dsimp only
    rw [hsilent, hget]
    rfl
  | none =>
    rw [hget] at hsilent
    dsimp only [Option.map_none]
    rw [hsilent, hsize, hsize']
    dsimp only [Option.map_none]
    split
    · exact .inl ⟨rfl, rfl, rfl, rfl⟩
    · cases hnew : QueueAggregateState.new? event.queueId (kindOf event) event.maxsize config with
      | none => exact absurd hsized (QueueAggregateState.new?_eq_none hnew)
      | some s =>
        obtain ⟨hresting, hconfig, hreported, hcore⟩ := QueueAggregateState.new?_eq_some hnew
        refine .inr ⟨s, rfl, ?_, hresting, hconfig, ?_⟩
        · rw [hcore]
        · rw [hreported]

/-- A quiet event goes on in the same way in every engine, whether it emits or not, and does not
    raise. -/
theorem Follows.applyEvent (h : Follows config before e)
    (hsized : QueueAggregateState.Sized config) (hquiet : Quiet config (before ++ [event]))
    (emit : Bool) :
    (e.applyEvent event emit).1 ≠ .raised ∧
      Follows config (before ++ [event]) (e.applyEvent event emit).2.1 := by
  by_cases hid : event.queueId = ""
  · have hreports : reports config (before ++ [event]) = reports config before := by
      rw [reports_snoc, reportEvent, if_pos (.inl hid)]
    have hsilent : silent config (before ++ [event]) = silent config before := by
      rw [silent_snoc, QueueMetricsEngine.applyEvent, if_pos hid]
    rw [QueueMetricsEngine.applyEvent, if_pos hid]
    refine ⟨by simp, h.sameConfig, ?_, ?_, h.resting⟩
    · rw [hsilent]
      exact h.cores
    · rw [hreports]
      exact h.told
  rcases h.stateFor_cases hsized hid with ⟨hstate, hstate', hreports, -⟩ |
    ⟨s, hstate, hstate', hresting, hconfig, hreports⟩
  · have hsilent : silent config (before ++ [event]) = silent config before := by
      rw [silent_snoc, QueueMetricsEngine.applyEvent, if_neg hid, hstate']
    rw [QueueMetricsEngine.applyEvent, if_neg hid, hstate]
    refine ⟨by simp, h.sameConfig, ?_, ?_, h.resting⟩
    · rw [hsilent]
      exact h.cores
    · rw [reports_snoc, hreports]
      exact h.told
  · -- The event is quiet for the report it leaves, so the state has nothing to notice after it.
    have hat : QuietAt config event (s.reported.next event.snapshot) := by
      refine hquiet.last ?_
      rw [reports_snoc, hreports]
      exact Dict.get?_set_self _ _ _
    obtain ⟨htransfer, hunnoticed⟩ :=
      (QueueAggregateState.quietAt_iff hresting.live hconfig event event.monotonicSeconds).mp hat
    have hresting' := (hresting.applyEvent event event.monotonicSeconds).2.1 htransfer
    have hreported := QueueAggregateState.reported_applyEvent hresting.live event
      event.monotonicSeconds
    have hconfig' := (QueueAggregateState.reports_applyEvent hresting.live event
      event.monotonicSeconds).config
    obtain ⟨happlied, heq⟩ := applyEvent_put hid hstate hresting emit
    obtain ⟨-, heq'⟩ := applyEvent_put hid hstate' (QueueAggregateState.resting_core hresting) false
    have hsilent : silent config (before ++ [event])
        = (silent config before).set event.queueId
          (s.applyEvent event event.monotonicSeconds).2.core := by
      rw [silent_snoc, heq', ← QueueAggregateState.core_applyEvent]
      rfl
    -- What is emitted on the way leaves the core alone: the snapshot finds nothing.
    have hcore : (if emit then
        (maybeEmit (s.applyEvent event event.monotonicSeconds).2
          ((s.applyEvent event event.monotonicSeconds).1.getD {}) event.monotonicSeconds).1
        else (s.applyEvent event event.monotonicSeconds).2).core
          = (s.applyEvent event event.monotonicSeconds).2.core := by
      cases emit with
      | false => rfl
      | true =>
        rw [if_pos rfl, QueueAggregateState.core_maybeEmit, hresting'.snapshot hunnoticed]
    rw [heq, happlied]
    generalize (if emit then
        (maybeEmit (s.applyEvent event event.monotonicSeconds).2
          ((s.applyEvent event event.monotonicSeconds).1.getD {}) event.monotonicSeconds).1
        else (s.applyEvent event event.monotonicSeconds).2) = s' at hcore ⊢
    refine ⟨by simp, h.sameConfig, ?_, ?_, ?_⟩
    · rw [Dict.mapValues_set, h.cores, hsilent, hcore]
    · rw [Dict.mapValues_set, h.told, reports_snoc, hreports, ← hreported]
      have hsame : s'.core.reported
          = (s.applyEvent event event.monotonicSeconds).2.core.reported :=
        congrArg QueueAggregateState.reported hcore
      exact congrArg _ hsame
    · intro queueId s₁ hs₁
      rw [Dict.get?_set] at hs₁
      split at hs₁
      · rw [← Option.some.inj hs₁]
        have hrest := QueueAggregateState.resting_core hresting'
        rw [← hcore] at hrest
        have hquiet' := QueueAggregateState.unnoticed_core hunnoticed
        rw [← hcore] at hquiet'
        refine ⟨⟨hrest.live, hrest.pressure, hrest.putRate, hrest.getRate⟩,
          ⟨hquiet'.empty, hquiet'.producers, hquiet'.consumers, hquiet'.warning,
            hquiet'.critical⟩, ?_⟩
        exact (congrArg QueueAggregateState.config hcore).trans (hconfig'.trans hconfig)
      · exact h.resting queueId s₁ hs₁

end QueueMetricsEngine

end AsyncViz.Instrumentation.QueueMetrics
