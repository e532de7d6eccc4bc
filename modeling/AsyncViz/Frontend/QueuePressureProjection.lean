/-
  AsyncViz.Frontend.QueuePressureProjection

  The panel's record of a queue next to the engine's, right behind an update.

  An update rewrites whatever a payload carries, so that part needs no history.  The rest is what
  some earlier payload has left: `Shows` follows the flag of saturation, which only goes up on the
  panel, and the counts that no payload carries, which stay those of the hydration.
-/

import AsyncViz.Frontend.QueuePressureStore
import AsyncViz.Instrumentation.QueueMetrics.Emissions

namespace AsyncViz.Frontend

open AsyncViz.Lib AsyncViz.Instrumentation.QueueMetrics

/-! ## What is compared -/

/-- The sizes, counts and the level that an update carries. -/
structure CarriedFields where
  maxsize : Int
  currentSize : Int
  peakSize : Int
  putCount : Nat
  getCount : Nat
  cancelledCount : Nat
  blockedProducers : Int
  blockedConsumers : Int
  blockedPutCount : Nat
  blockedGetCount : Nat
  level : PressureLevel
deriving DecidableEq

def carriedFields (record : QueueMetricsRecord) : CarriedFields where
  maxsize := record.maxsize
  currentSize := record.occupancy.currentSize
  peakSize := record.occupancy.peakSize
  putCount := record.throughput.putCount
  getCount := record.throughput.getCount
  cancelledCount := record.throughput.cancelledCount
  blockedProducers := record.contention.blockedProducers
  blockedConsumers := record.contention.blockedConsumers
  blockedPutCount := record.contention.blockedPutCount
  blockedGetCount := record.contention.blockedGetCount
  level := record.pressure.level

/-- The counts of a record that no payload carries. -/
structure UncarriedCounts where
  sampleCount : Nat := 0
  taskDoneCount : Nat := 0
  nowaitPutCount : Nat := 0
  nowaitGetCount : Nat := 0
  fullWaitCount : Nat := 0
  emptyWaitCount : Nat := 0
  cancelledWaitCount : Nat := 0
  putWaitCount : Nat := 0
  getWaitCount : Nat := 0
deriving DecidableEq

def uncarriedCounts (record : QueueMetricsRecord) : UncarriedCounts where
  sampleCount := record.occupancy.sampleCount
  taskDoneCount := record.throughput.taskDoneCount
  nowaitPutCount := record.throughput.nowaitPutCount
  nowaitGetCount := record.throughput.nowaitGetCount
  fullWaitCount := record.contention.fullWaitCount
  emptyWaitCount := record.contention.emptyWaitCount
  cancelledWaitCount := record.contention.cancelledCount
  putWaitCount := record.putWait.count
  getWaitCount := record.getWait.count

/-- Sizes, counts, pressure level and saturated flag of the two records are equal. -/
structure Agrees (shown record : QueueMetricsRecord) : Prop where
  carried : carriedFields shown = carriedFields record
  uncarried : uncarriedCounts shown = uncarriedCounts record
  saturated : shown.pressure.saturated = record.pressure.saturated

/-- Those counts of a queue in the engine. -/
def uncarriedIn (e : QueueMetricsEngine) (queueId : String) : UncarriedCounts :=
  ((e.states.get? queueId).map fun s => uncarriedCounts (s.snapshot none).1).getD {}

/-- The step is an event of the queue that the engine counts. -/
def countsFor (queueId : String) (e : QueueMetricsEngine) : QueueMetricsEngine.Step → Bool
  | .event event => event.queueId = queueId ∧ (e.applyEvent event true).1 = .applied
  | .snapshotQueue _ => false
  | .snapshot => false

/-- The queue enters saturation in the run, in a step behind the first one that tells the client
    of the queue. -/
def enteredWhileKnown (queueId : String) :
    Bool → QueueMetricsEngine → List QueueMetricsEngine.Step → Bool
  | _, _, [] => false
  | known, e, step :: steps =>
    known && !e.saturatedIn queueId && (e.live [step]).saturatedIn queueId ||
      enteredWhileKnown queueId (known || countsFor queueId e step) (e.live [step]) steps

/-! ## One queue of the store -/

/-- What an update leaves as it finds it. -/
def glance (record : QueueMetricsRecord) : Bool × UncarriedCounts :=
  (record.pressure.saturated, uncarriedCounts record)

/-- What a payload makes of it. -/
def glanceNext (kind : DeltaKind) (g : Option (Bool × UncarriedCounts)) :
    Option (Bool × UncarriedCounts) :=
  match kind with
  | .updated => some (g.getD (false, {}))
  | .pressureChanged => g
  | .contentionDetected => g
  | .saturationDetected => g.map fun g => (true, g.2)

theorem glance_reducedRecord (existing : Option QueueMetricsRecord) (kind : DeltaKind)
    (record : QueueMetricsRecord) :
    (reducedRecord existing (publishedPayload kind record)).map glance
      = glanceNext kind (existing.map glance) := by
  cases existing <;> cases kind <;> rfl

/-- An update leaves what it carries, whatever was there. -/
theorem carriedFields_updated (existing : Option QueueMetricsRecord) {record : QueueMetricsRecord}
    (hcancelled : record.throughput.cancelledCount = record.contention.cancelledCount) :
    ∃ shown, reducedRecord existing (publishedPayload .updated record) = some shown ∧
      carriedFields shown = carriedFields record := by
  refine ⟨_, rfl, ?_⟩
  simp [recordFromUpdatedPayload, carriedFields, hcancelled]

namespace QueuePressureStore

variable {s : QueuePressureStore} {published : List (DeltaKind × QueueMetricsRecord)}
  {queueId : String}

theorem glance_receive (hqueue : ∀ p ∈ published, p.2.queueId = queueId) :
    ((s.receive published).recordsById.get? queueId).map glance
      = published.foldl (fun g p => glanceNext p.1 g)
          ((s.recordsById.get? queueId).map glance) := by
  induction published generalizing s with
  | nil => rfl
  | cons p published ih =>
    have hid : queueId = (publishedPayload p.1 p.2).queueId := by
      rw [queueId_publishedPayload]
      exact (hqueue p List.mem_cons_self).symm
    have hrest := @ih (s.applyEventPayload (publishedPayload p.1 p.2))
      fun p' hmem => hqueue p' (List.mem_cons_of_mem _ hmem)
    rw [get?_applyEventPayload, if_pos hid, glance_reducedRecord] at hrest
    exact hrest

theorem get?_receive_of_ne (hqueue : ∀ p ∈ published, p.2.queueId ≠ queueId) :
    (s.receive published).recordsById.get? queueId = s.recordsById.get? queueId := by
  induction published generalizing s with
  | nil => rfl
  | cons p published ih =>
    have hid : queueId ≠ (publishedPayload p.1 p.2).queueId := by
      rw [queueId_publishedPayload]
      exact (hqueue p List.mem_cons_self).symm
    have hrest := @ih (s.applyEventPayload (publishedPayload p.1 p.2))
      fun p' hmem => hqueue p' (List.mem_cons_of_mem _ hmem)
    rw [get?_applyEventPayload, if_neg hid] at hrest
    exact hrest

end QueuePressureStore

/-! ## The store along a run -/

section Emitted

variable {config : QueueMetricsConfig} {state : QueueAggregateState} {queueId : String}

/-- All emit flags are on. -/
def EmitsAll (config : QueueMetricsConfig) : Prop :=
  config.emitUpdated = true ∧ config.emitPressure = true ∧ config.emitContention = true ∧
    config.emitSaturation = true

theorem queueId_published_maybeEmit (outcome : ApplyOutcome) (monotonicSeconds : ℚ) :
    ∀ p ∈ published (maybeEmit state outcome monotonicSeconds).2,
      p.2 = (state.snapshot (some monotonicSeconds)).1 := by
  intro p hmem
  rw [published_maybeEmit] at hmem
  simp only [List.mem_append, List.mem_ite_nil_right, List.mem_singleton] at hmem
  rcases hmem with ((⟨-, rfl⟩ | ⟨-, rfl⟩) | ⟨-, rfl⟩) | ⟨-, rfl⟩ <;> rfl

theorem foldl_glanceNext_if (b : Prop) [Decidable b] (kind : DeltaKind)
    (record : QueueMetricsRecord) (g : Option (Bool × UncarriedCounts)) :
    (if b then [(kind, record)] else []).foldl (fun g p => glanceNext p.1 g) g =
      if b then glanceNext kind g else g := by
  split <;> rfl

/-- Where the client knows the queue, what one event publishes can only raise the flag. -/
theorem glance_known (hflags : EmitsAll state.config) (outcome : ApplyOutcome)
    (monotonicSeconds : ℚ) (saturated : Bool) (counts : UncarriedCounts) :
    (published (maybeEmit state outcome monotonicSeconds).2).foldl
        (fun g p => glanceNext p.1 g) (some (saturated, counts))
      = some (saturated || outcome.saturationEntered, counts) := by
  rw [published_maybeEmit, hflags.2.2.2, Bool.and_true]
  simp only [List.foldl_append, foldl_glanceNext_if]
  cases outcome.saturationEntered with
  | true => simp [glanceNext]
  | false => simp [glanceNext]

/-- Where it does not, only the update gets anywhere, and the first event sends one. -/
theorem glance_unknown (hflags : EmitsAll state.config) (hfirst : state.lastEmitMonotonic = 0)
    (outcome : ApplyOutcome) (monotonicSeconds : ℚ) :
    (published (maybeEmit state outcome monotonicSeconds).2).foldl
        (fun g p => glanceNext p.1 g) none = some (false, {}) := by
  have hupdate : (state.config.emitUpdated && shouldEmitUpdate state monotonicSeconds) = true := by
    rw [hflags.1, shouldEmitUpdate, hfirst]
    rfl
  rw [published_maybeEmit, if_pos hupdate]
  simp only [List.foldl_append, foldl_glanceNext_if]
  simp [glanceNext]

end Emitted

/-- What the client holds of a queue: nothing while it does not know the queue; else the flag that
    it has seen go up, and the counts of its hydration. -/
structure Shows (queueId : String) (counts : UncarriedCounts) (known seen : Bool)
    (e : QueueMetricsEngine) (s : QueuePressureStore) : Prop where
  glance : (s.recordsById.get? queueId).map glance = if known then some (seen, counts) else none
  untold : known = false → seen = false ∧ counts = {} ∧ e.Untold queueId

namespace Shows

variable {queueId : String} {counts : UncarriedCounts} {known seen : Bool}
  {e : QueueMetricsEngine} {s : QueuePressureStore} {config : QueueMetricsConfig}

/-- One event, of this queue or of another one. -/
theorem event (h : Shows queueId counts known seen e s) (htracks : e.Tracks config)
    (hflags : EmitsAll config) (event : QueueEvent) :
    Shows queueId counts (known || countsFor queueId e (.event event))
      (seen || (known && !e.saturatedIn queueId &&
        (e.applyEvent event true).2.1.saturatedIn queueId))
      (e.applyEvent event true).2.1 (s.receive (published (e.applyEvent event true).2.2)) := by
  obtain ⟨-, hothers, hcases⟩ := htracks.applyEvent_cases event
  have hsilent : ∀ {seen' : Bool}, seen' = e.saturatedIn queueId →
      (seen || (known && !e.saturatedIn queueId && seen')) = seen := by
    rintro _ rfl
    cases e.saturatedIn queueId <;> simp
  by_cases hid : event.queueId = queueId
  · subst hid
    rcases hcases with ⟨happlied, hnone, hflag, huntold⟩ | ⟨state, outcome, hstate, hfirst,
      hentered, happlied, -, hemitted⟩
    · have hcounts : countsFor event.queueId e (.event event) = false := by
        simp [countsFor, happlied]
      rw [hnone, hcounts, Bool.or_false, hsilent hflag]
      exact ⟨h.glance, fun hknown =>
        ⟨(h.untold hknown).1, (h.untold hknown).2.1, huntold (h.untold hknown).2.2⟩⟩
    · have hcounts : countsFor event.queueId e (.event event) = true := by
        simp [countsFor, happlied]
      have hqueue : ∀ p ∈ published (maybeEmit state outcome event.monotonicSeconds).2,
          p.2.queueId = event.queueId := by
        intro p hmem
        rw [queueId_published_maybeEmit outcome _ p hmem]
        exact hstate.queueId
      have hall : EmitsAll state.config := hstate.config ▸ hflags
      refine ⟨?_, fun hknown => absurd hknown (by simp [hcounts])⟩
      rw [hcounts, Bool.or_true, if_pos rfl, hemitted, QueuePressureStore.glance_receive hqueue,
        h.glance]
      cases known with
      | true =>
        rw [if_pos rfl, glance_known hall, hentered, Bool.true_and]
      | false =>
        obtain ⟨rfl, rfl, huntold⟩ := h.untold rfl
        rw [if_neg Bool.false_ne_true, glance_unknown hall (hfirst huntold)]
        rfl
  · -- another queue's event: the record and the state stay
    have hcounts : countsFor queueId e (.event event) = false := by simp [countsFor, hid]
    have hstate := hothers queueId (Ne.symm hid)
    have hflag : (e.applyEvent event true).2.1.saturatedIn queueId = e.saturatedIn queueId := by
      rw [QueueMetricsEngine.saturatedIn, hstate]
      rfl
    have hqueue : ∀ p ∈ published (e.applyEvent event true).2.2, p.2.queueId ≠ queueId := by
      rcases hcases with ⟨-, hnone, -⟩ | ⟨state, outcome, htracked, -, -, -, -, hemitted⟩
      · rw [hnone]
        exact fun p hmem => absurd hmem List.not_mem_nil
      · intro p hmem
        rw [hemitted] at hmem
        rw [queueId_published_maybeEmit outcome _ p hmem]
        exact fun heq => hid (htracked.queueId.symm.trans heq)
    rw [hcounts, Bool.or_false, hsilent hflag]
    refine ⟨?_, fun hknown => ⟨(h.untold hknown).1, (h.untold hknown).2.1, ?_⟩⟩
    · rw [QueuePressureStore.get?_receive_of_ne hqueue]
      exact h.glance
    · intro state hget
      exact (h.untold hknown).2.2 state (hstate ▸ hget)

/-- One step of the engine. -/
theorem step (h : Shows queueId counts known seen e s) (htracks : e.Tracks config)
    (hflags : EmitsAll config) (step : QueueMetricsEngine.Step) :
    Shows queueId counts (known || countsFor queueId e step)
      (seen || (known && !e.saturatedIn queueId && (e.live [step]).saturatedIn queueId))
      (e.live [step]) (s.receive (published (e.emittedBy step))) := by
  have hread : QueueMetricsEngine.events [step] = [] → countsFor queueId e step = false →
      Shows queueId counts (known || countsFor queueId e step)
        (seen || (known && !e.saturatedIn queueId && (e.live [step]).saturatedIn queueId))
        (e.live [step]) (s.receive (published (e.emittedBy step))) := by
    intro hread hcounts
    obtain ⟨-, hnone, hsame⟩ := htracks.read hread
    have hseen : (known && !e.saturatedIn queueId && e.saturatedIn queueId) = false := by
      cases e.saturatedIn queueId <;> simp
    rw [(hsame queueId).1, hcounts, hnone, hseen, Bool.or_false, Bool.or_false]
    exact ⟨h.glance, fun hknown =>
      ⟨(h.untold hknown).1, (h.untold hknown).2.1, (hsame queueId).2 (h.untold hknown).2.2⟩⟩
  cases step with
  | event event => exact h.event htracks hflags event
  | snapshotQueue id => exact hread rfl rfl
  | snapshot => exact hread rfl rfl

/-- A whole run of the engine. -/
theorem run (h : Shows queueId counts known seen e s) (htracks : e.Tracks config)
    (hflags : EmitsAll config) (steps : List QueueMetricsEngine.Step) :
    ∃ known', Shows queueId counts known' (seen || enteredWhileKnown queueId known e steps)
      (e.live steps) (s.receive (published (e.emitted steps))) := by
  induction steps generalizing known seen e s with
  | nil => exact ⟨known, by rw [enteredWhileKnown, Bool.or_false]; exact h⟩
  | cons step steps ih =>
    obtain ⟨known', hrest⟩ := ih (h.step htracks hflags step) (htracks.live [step])
    rw [enteredWhileKnown, ← Bool.or_assoc, QueueMetricsEngine.live_cons e step steps,
      QueueMetricsEngine.emitted, published_append, QueuePressureStore.receive_append]
    exact ⟨known', hrest⟩

end Shows

/-! ## The hydration -/

section Hydration

variable {config : QueueMetricsConfig} {e : QueueMetricsEngine}

/-- A live engine's snapshot lists every queue that it tracks, once. -/
theorem records_snapshot (h : e.Tracks config) :
    e.snapshot.1 = e.states.entries.map fun p => (p.2.snapshot none).1 := by
  have hlive : ∀ s ∈ e.states.values, (!s.finalized) = true := by
    intro s hmem
    obtain ⟨queueId, hget⟩ := Dict.mem_values_iff.mp hmem
    rw [(h.states queueId s hget).live]
    rfl
  rw [QueueMetricsEngine.snapshot, List.filter_eq_self.mpr hlive, Dict.values, List.map_map]
  rfl

theorem ids_snapshot (h : e.Tracks config) :
    e.snapshot.1.map QueueMetricsRecord.queueId = e.states.keys := by
  rw [records_snapshot h, List.map_map, Dict.keys]
  refine List.map_congr_left fun p hmem => ?_
  exact (h.states p.1 p.2 (Dict.mem_entries_iff.mp hmem)).queueId

theorem find?_snapshot (h : e.Tracks config) (queueId : String) :
    (e.snapshot.1.find? fun record => record.queueId = queueId)
      = (e.states.get? queueId).map fun s => (s.snapshot none).1 := by
  cases hget : e.states.get? queueId with
  | none =>
    refine List.find?_eq_none.mpr fun record hmem heq => ?_
    have hkey : queueId ∈ e.states.keys := by
      rw [← ids_snapshot h, ← of_decide_eq_true heq]
      exact List.mem_map_of_mem hmem
    exact Dict.get?_eq_none_iff.mp hget hkey
  | some s =>
    have hmem : (s.snapshot none).1 ∈ e.snapshot.1 := by
      rw [records_snapshot h]
      exact List.mem_map.mpr ⟨(queueId, s), Dict.mem_entries_iff.mpr hget, rfl⟩
    have hid : (s.snapshot none).1.queueId = queueId := (h.states queueId s hget).queueId
    have hnodup : (e.snapshot.1.map QueueMetricsRecord.queueId).Nodup := by
      rw [ids_snapshot h]
      exact e.states.nodup_keys
    cases hfind : e.snapshot.1.find? fun record => record.queueId = queueId with
    | none => exact absurd (decide_eq_true hid) (List.find?_eq_none.mp hfind _ hmem)
    | some record =>
      have hrecord := List.find?_some hfind
      rw [List.inj_on_of_nodup_map hnodup (List.mem_of_find?_eq_some hfind) hmem
        ((of_decide_eq_true hrecord).trans hid.symm)]
      rfl

/-- Right behind its hydration the store shows the queues of the snapshot as they are. -/
theorem shows_hydrateSnapshot (h : e.Tracks config) (s : QueuePressureStore) (queueId : String) :
    Shows queueId (uncarriedIn e queueId) (decide (queueId ∈ e.states)) (e.saturatedIn queueId)
      e.snapshot.2 (s.hydrateSnapshot e.snapshot.1) := by
  have hget : (s.hydrateSnapshot e.snapshot.1).recordsById.get? queueId
      = (e.states.get? queueId).map fun s => (s.snapshot none).1 := by
    rw [← find?_snapshot h]
    exact get?_reduceHydration (ids_snapshot h ▸ e.states.nodup_keys) queueId
  have hread : e.live [.snapshot] = e.snapshot.2 := rfl
  obtain ⟨-, -, hsame⟩ := h.read (show QueueMetricsEngine.events [.snapshot] = [] from rfl)
  cases hstate : e.states.get? queueId with
  | none =>
    have hnot : queueId ∉ e.states := Dict.get?_eq_none_iff.mp hstate
    refine ⟨?_, fun _ => ⟨?_, ?_, ?_⟩⟩
    · rw [hget, hstate, decide_eq_false hnot]
      rfl
    · rw [QueueMetricsEngine.saturatedIn, hstate]
      rfl
    · rw [uncarriedIn, hstate]
      rfl
    · rw [← hread]
      refine (hsame queueId).2 fun s hs => ?_
      rw [hstate] at hs
      cases hs
  | some state =>
    have hmem : queueId ∈ e.states := Dict.mem_of_get?_eq_some hstate
    refine ⟨?_, fun hknown => absurd hmem (of_decide_eq_false hknown)⟩
    rw [hget, hstate, decide_eq_true hmem, QueueMetricsEngine.saturatedIn, uncarriedIn, hstate]
    rfl

end Hydration

/-! ## Right behind an update -/

/-- The record of an update is the engine's at that moment. -/
theorem record_of_updated {config : QueueMetricsConfig} {e : QueueMetricsEngine}
    (h : e.Tracks config) {event : QueueEvent} {record : QueueMetricsRecord}
    (hupdate : (DeltaKind.updated, record) ∈ published (e.applyEvent event true).2.2) :
    record.queueId = event.queueId ∧
      record.throughput.cancelledCount = record.contention.cancelledCount ∧
      record.pressure.saturated = (e.applyEvent event true).2.1.saturatedIn record.queueId ∧
      uncarriedCounts record = uncarriedIn (e.applyEvent event true).2.1 record.queueId ∧
      ∃ earlier, published (e.applyEvent event true).2.2 = earlier ++ [(.updated, record)] := by
  obtain ⟨-, -, ⟨-, hnone, -⟩ | ⟨state, outcome, hstate, -, -, -, hafter, hemitted⟩⟩ :=
    h.applyEvent_cases event
  · rw [hnone] at hupdate
    cases hupdate
  · rw [hemitted] at hupdate ⊢
    have hrecord := queueId_published_maybeEmit outcome _ _ hupdate
    dsimp only at hrecord
    subst hrecord
    have hid : state.queueId = event.queueId := hstate.queueId
    obtain ⟨level, revision, seconds, hemit⟩ :=
      state_maybeEmit state outcome event.monotonicSeconds
    have hget : (e.applyEvent event true).2.1.states.get? state.queueId
        = some (maybeEmit state outcome event.monotonicSeconds).1 := by
      rw [hafter, hid]
      exact Dict.get?_set_self _ _ _
    refine ⟨hid, hstate.cancelled, ?_, ?_, ?_⟩
    · show _ = QueueMetricsEngine.saturatedIn _ state.queueId
      rw [QueueMetricsEngine.saturatedIn, hget, hemit]
      rfl
    · show _ = uncarriedIn _ state.queueId
      rw [uncarriedIn, hget, hemit]
      rfl
    · rw [published_maybeEmit] at hupdate ⊢
      by_cases hemits :
          (state.config.emitUpdated && shouldEmitUpdate state event.monotonicSeconds) = true
      · rw [if_pos hemits]
        exact ⟨_, rfl⟩
      · rw [if_neg hemits] at hupdate
        simp at hupdate

/-- Right behind an update the panel's record agrees with the engine's in whatever payloads carry.
    The saturated flag agrees exactly where the engine's says what the client could see go up: the
    panel never takes it down.  The other counts agree exactly where they have not moved since the
    hydration. -/
theorem agrees_iff_of_updated (config : QueueMetricsConfig) (hflags : EmitsAll config)
    (store : QueuePressureStore) (before after : List QueueMetricsEngine.Step) (event : QueueEvent)
    (record : QueueMetricsRecord)
    (hupdate : (DeltaKind.updated, record) ∈
      published ((((QueueMetricsEngine.mk config .empty).live before).snapshot.2.live
        after).applyEvent event true).2.2) :
    let hydrated := (QueueMetricsEngine.mk config .empty).live before
    let steps := after ++ [.event event]
    let now := hydrated.snapshot.2.live steps
    let client := (store.hydrateSnapshot hydrated.snapshot.1).receive
      (published (hydrated.snapshot.2.emitted steps))
    ∃ shown, client.recordsById.get? record.queueId = some shown ∧
      carriedFields shown = carriedFields record ∧
      (Agrees shown record ↔
        now.saturatedIn record.queueId =
            (hydrated.saturatedIn record.queueId ||
              enteredWhileKnown record.queueId (decide (record.queueId ∈ hydrated.states))
                hydrated.snapshot.2 steps) ∧
          uncarriedIn now record.queueId = uncarriedIn hydrated record.queueId) := by
  intro hydrated steps now client
  have htracks : hydrated.Tracks config := (QueueMetricsEngine.tracks_empty config).live before
  have hread : hydrated.snapshot.2.Tracks config := htracks.live [.snapshot]
  obtain ⟨-, hcancelled, hsaturated, huncarried, earlier, hearlier⟩ :=
    record_of_updated (hread.live after) hupdate
  have hnow : now = ((hydrated.snapshot.2.live after).applyEvent event true).2.1 :=
    QueueMetricsEngine.live_append _ after [.event event]
  rw [← hnow] at hsaturated huncarried
  obtain ⟨known, hshows⟩ := (shows_hydrateSnapshot htracks store record.queueId).run hread hflags
    steps
  -- the update is the last payload
  have hclient : client = ((store.hydrateSnapshot hydrated.snapshot.1).receive
      (published (hydrated.snapshot.2.emitted after) ++ earlier)).applyEventPayload
        (publishedPayload .updated record) := by
    have hlast : published (hydrated.snapshot.2.emitted steps)
        = (published (hydrated.snapshot.2.emitted after) ++ earlier) ++ [(.updated, record)] := by
      rw [QueueMetricsEngine.emitted_append, published_append, List.append_assoc, ← hearlier]
      exact congrArg (published (hydrated.snapshot.2.emitted after) ++ published ·)
        (List.append_nil _)
    show QueuePressureStore.receive _ (published (hydrated.snapshot.2.emitted steps)) = _
    rw [hlast, QueuePressureStore.receive_append]
    rfl
  obtain ⟨shown, hreduced, hcarried⟩ := carriedFields_updated
    (((store.hydrateSnapshot hydrated.snapshot.1).receive
      (published (hydrated.snapshot.2.emitted after) ++ earlier)).recordsById.get? record.queueId)
    hcancelled
  have hget : client.recordsById.get? record.queueId = some shown := by
    rw [hclient, QueuePressureStore.get?_applyEventPayload, queueId_publishedPayload, if_pos rfl]
    exact hreduced
  have hglance : glance shown = (hydrated.saturatedIn record.queueId ||
      enteredWhileKnown record.queueId (decide (record.queueId ∈ hydrated.states))
        hydrated.snapshot.2 steps, uncarriedIn hydrated record.queueId) := by
    have hrun := hshows.glance
    rw [hget] at hrun
    split at hrun
    · exact Option.some.inj hrun
    · cases hrun
  obtain ⟨hflag, hcounts⟩ := Prod.mk.inj hglance
  refine ⟨shown, hget, hcarried, ?_⟩
  rw [← hflag, ← hcounts, ← hsaturated, ← huncarried]
  constructor
  · intro h
    exact ⟨h.saturated.symm, h.uncarried.symm⟩
  · rintro ⟨hsaturated, huncarried⟩
    exact ⟨hcarried, huncarried.symm, hsaturated.symm⟩

/-- A report of a queue of ten: its size, at a time. -/
def queueOfTen (size seconds : Int) (kind : QueueEventKind) : QueueEvent where
  queueId := "q"
  queueKind := "Queue"
  maxsize := 10
  monotonicNs := seconds * 1000000000
  snapshot := ⟨some size, some 10, some 0, some 0⟩
  kind := kind

/-- The client hydrates, then the queue fills up to nine and drains: the panel goes on showing it
    as saturated. -/
theorem drained_queue_shown_saturated :
    let hydrated := (QueueMetricsEngine.mk {} .empty).live [.event (queueOfTen 0 2 .created)]
    let steps := [.event (queueOfTen 9 4 (.put false false none)),
      .event (queueOfTen 0 6 (.get false false none))]
    let client := (QueuePressureStore.hydrateSnapshot {} hydrated.snapshot.1).receive
      (published (hydrated.snapshot.2.emitted steps))
    (published (hydrated.snapshot.2.emitted steps)).getLast?.map
        (fun p => (p.1, p.2.queueId, p.2.pressure.saturated)) = some (.updated, "q", false) ∧
      (client.recordsById.get? "q").map (fun shown => shown.pressure.saturated) = some true := by
  decide +kernel

/-- A put whose report has no sizes. -/
def unsizedPut : QueueEvent :=
  { queueOfTen 0 4 (.put false false none) with snapshot := ⟨none, none, none, none⟩ }

/-- The same queue, and one that is put to without a report of its sizes: there the panel's
    record agrees. -/
theorem agrees_iff_of_updated_drained :
    let hydrated := (QueueMetricsEngine.mk {} .empty).live [.event (queueOfTen 0 2 .created)]
    let client := fun steps => (QueuePressureStore.hydrateSnapshot {} hydrated.snapshot.1).receive
      (published (hydrated.snapshot.2.emitted steps))
    let drained := [.event (queueOfTen 9 4 (.put false false none)),
      .event (queueOfTen 0 6 (.get false false none))]
    let filled := [.event unsizedPut]
    (∃ record shown, (client drained).recordsById.get? record.queueId = some shown ∧
      carriedFields shown = carriedFields record ∧ ¬ Agrees shown record) ∧
    ∃ record shown, (client filled).recordsById.get? record.queueId = some shown ∧
      Agrees shown record := by
  intro hydrated client drained filled
  constructor
  · have hlast : ((published ((hydrated.snapshot.2.live
        [.event (queueOfTen 9 4 (.put false false none))]).applyEvent
          (queueOfTen 0 6 (.get false false none)) true).2.2).getLast?.map
            fun p => (p.1, p.2.queueId)) = some (.updated, "q") := by
      decide +kernel
    obtain ⟨⟨kind, record⟩, hget, hkind⟩ := Option.map_eq_some_iff.mp hlast
    obtain ⟨rfl, hid⟩ := Prod.mk.inj hkind
    obtain ⟨shown, hshown, hcarried, hagrees⟩ := agrees_iff_of_updated {} ⟨rfl, rfl, rfl, rfl⟩ {}
      [.event (queueOfTen 0 2 .created)] [.event (queueOfTen 9 4 (.put false false none))]
      (queueOfTen 0 6 (.get false false none)) record (List.mem_of_getLast? hget)
    refine ⟨record, shown, hshown, hcarried, ?_⟩
    rw [hagrees, show record.queueId = "q" from hid]
    decide +kernel
  · have hlast : ((published ((hydrated.snapshot.2.live []).applyEvent
        unsizedPut true).2.2).getLast?.map fun p => (p.1, p.2.queueId)) = some (.updated, "q") := by
      decide +kernel
    obtain ⟨⟨kind, record⟩, hget, hkind⟩ := Option.map_eq_some_iff.mp hlast
    obtain ⟨rfl, hid⟩ := Prod.mk.inj hkind
    obtain ⟨shown, hshown, -, hagrees⟩ := agrees_iff_of_updated {} ⟨rfl, rfl, rfl, rfl⟩ {}
      [.event (queueOfTen 0 2 .created)] [] unsizedPut record (List.mem_of_getLast? hget)
    refine ⟨record, shown, hshown, hagrees.mpr ?_⟩
    rw [show record.queueId = "q" from hid]
    decide +kernel

end AsyncViz.Frontend
