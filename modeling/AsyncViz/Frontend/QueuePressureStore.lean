/-
  AsyncViz.Frontend.QueuePressureStore

  The queue pressure store of the dashboard (`dashboard/queues/QueuePressureStore.ts`): the
  records that a hydration installs, and what each published payload patches in them.
-/

import AsyncViz.Instrumentation.QueueMetrics.Engine

namespace AsyncViz.Frontend

open AsyncViz.Lib AsyncViz.Instrumentation.QueueMetrics

/-! ## Payloads -/

/-- `QueueMetricsUpdatedPayload`. -/
structure QueueMetricsUpdatedPayload where
  queueId : String
  queueKind : String
  maxsize : Int
  sequence : Nat
  currentSize : Int
  peakSize : Int
  occupancyRatio : ℚ
  meanOccupancy : ℚ
  putRate : ℚ
  getRate : ℚ
  putCount : Nat
  getCount : Nat
  producerConsumerDelta : Int
  blockedProducers : Int
  blockedConsumers : Int
  blockedPutCount : Nat
  blockedGetCount : Nat
  cancelledCount : Nat
  pressureScore : ℚ
  pressureLevel : PressureLevel

/-- `QueuePressureChangedPayload`. -/
structure QueuePressureChangedPayload where
  queueId : String
  sequence : Nat
  newLevel : PressureLevel
  pressureScore : ℚ
  occupancyRatio : ℚ
  blockedProducers : Int
  blockedConsumers : Int

/-- `QueueContentionDetectedPayload`. -/
structure QueueContentionDetectedPayload where
  queueId : String
  sequence : Nat
  blockedProducers : Int
  blockedConsumers : Int
  blockedPutTotal : Nat
  blockedGetTotal : Nat

/-- `QueueSaturationDetectedPayload`. -/
structure QueueSaturationDetectedPayload where
  queueId : String
  sequence : Nat
  occupancyRatio : ℚ
  currentSize : Int

/-- `QueueMetricsEventPayload`, by its `event_type`. -/
inductive QueueMetricsEventPayload where
  | metricsUpdated (payload : QueueMetricsUpdatedPayload)
  | pressureChanged (payload : QueuePressureChangedPayload)
  | contentionDetected (payload : QueueContentionDetectedPayload)
  | saturationDetected (payload : QueueSaturationDetectedPayload)

/-- `payload.queue_id`. -/
def QueueMetricsEventPayload.queueId : QueueMetricsEventPayload → String
  | .metricsUpdated payload => payload.queueId
  | .pressureChanged payload => payload.queueId
  | .contentionDetected payload => payload.queueId
  | .saturationDetected payload => payload.queueId

/-- `payload.sequence`. -/
def QueueMetricsEventPayload.sequence : QueueMetricsEventPayload → Nat
  | .metricsUpdated payload => payload.sequence
  | .pressureChanged payload => payload.sequence
  | .contentionDetected payload => payload.sequence
  | .saturationDetected payload => payload.sequence

/-- The event that `_maybe_emit` publishes, out of the record it has built. -/
def publishedPayload (kind : DeltaKind) (record : QueueMetricsRecord) : QueueMetricsEventPayload :=
  match kind with
  | .updated =>
    .metricsUpdated
      { queueId := record.queueId
        queueKind := record.queueKind
        maxsize := record.maxsize
        sequence := record.sequence
        currentSize := record.occupancy.currentSize
        peakSize := record.occupancy.peakSize
        occupancyRatio := record.occupancy.occupancyRatio
        meanOccupancy := record.occupancy.meanOccupancy
        putRate := record.throughput.putRate
        getRate := record.throughput.getRate
        putCount := record.throughput.putCount
        getCount := record.throughput.getCount
        producerConsumerDelta := record.throughput.producerConsumerDelta
        blockedProducers := record.contention.blockedProducers
        blockedConsumers := record.contention.blockedConsumers
        blockedPutCount := record.contention.blockedPutCount
        blockedGetCount := record.contention.blockedGetCount
        cancelledCount := record.contention.cancelledCount
        pressureScore := record.pressure.pressureScore
        pressureLevel := record.pressure.level }
  | .pressureChanged =>
    .pressureChanged
      { queueId := record.queueId
        sequence := record.sequence
        newLevel := record.pressure.level
        pressureScore := record.pressure.pressureScore
        occupancyRatio := record.occupancy.occupancyRatio
        blockedProducers := record.contention.blockedProducers
        blockedConsumers := record.contention.blockedConsumers }
  | .contentionDetected =>
    .contentionDetected
      { queueId := record.queueId
        sequence := record.sequence
        blockedProducers := record.contention.blockedProducers
        blockedConsumers := record.contention.blockedConsumers
        blockedPutTotal := record.contention.blockedPutCount
        blockedGetTotal := record.contention.blockedGetCount }
  | .saturationDetected =>
    .saturationDetected
      { queueId := record.queueId
        sequence := record.sequence
        occupancyRatio := record.occupancy.occupancyRatio
        currentSize := record.occupancy.currentSize }

@[simp] theorem queueId_publishedPayload (kind : DeltaKind) (record : QueueMetricsRecord) :
    (publishedPayload kind record).queueId = record.queueId := by
  cases kind <;> rfl

/-! ## Patches -/

/-- `scaffoldRecord(queueId, queueKind, maxsize)`. -/
def scaffoldRecord (queueId queueKind : String) (maxsize : Int) : QueueMetricsRecord :=
  { queueId := queueId
    queueKind := queueKind
    maxsize := maxsize
    sequence := 0
    occupancy := ⟨0, 0, 0, 0, 0⟩
    throughput := ⟨0, 0, 0, 0, 0, 0, 0, 0, 0⟩
    contention := {}
    pressure := ⟨0, .calm, 0, false, 0⟩
    putWait := {}
    getWait := {} }

/-- `recordFromUpdatedPayload(existing, payload)`. -/
def recordFromUpdatedPayload (existing : Option QueueMetricsRecord)
    (payload : QueueMetricsUpdatedPayload) : QueueMetricsRecord :=
  let base :=
    existing.getD (scaffoldRecord payload.queueId payload.queueKind payload.maxsize)
  { base with
    queueId := payload.queueId
    queueKind := payload.queueKind
    maxsize := payload.maxsize
    sequence := payload.sequence
    occupancy :=
      { base.occupancy with
        currentSize := payload.currentSize
        peakSize := payload.peakSize
        occupancyRatio := payload.occupancyRatio
        meanOccupancy := payload.meanOccupancy }
    throughput :=
      { base.throughput with
        putCount := payload.putCount
        getCount := payload.getCount
        putRate := payload.putRate
        getRate := payload.getRate
        producerConsumerDelta := payload.producerConsumerDelta
        cancelledCount := payload.cancelledCount }
    contention :=
      { base.contention with
        blockedProducers := payload.blockedProducers
        blockedConsumers := payload.blockedConsumers
        blockedPutCount := payload.blockedPutCount
        blockedGetCount := payload.blockedGetCount }
    pressure :=
      { base.pressure with
        pressureScore := payload.pressureScore
        level := payload.pressureLevel } }

/-- `applyPressureChange(existing, payload)`. -/
def applyPressureChange (existing : QueueMetricsRecord) (payload : QueuePressureChangedPayload) :
    QueueMetricsRecord :=
  { existing with
    sequence := payload.sequence
    pressure :=
      { existing.pressure with
        pressureScore := payload.pressureScore
        level := payload.newLevel }
    occupancy := { existing.occupancy with occupancyRatio := payload.occupancyRatio }
    contention :=
      { existing.contention with
        blockedProducers := payload.blockedProducers
        blockedConsumers := payload.blockedConsumers } }

/-- `applyContention(existing, payload)`. -/
def applyContention (existing : QueueMetricsRecord) (payload : QueueContentionDetectedPayload) :
    QueueMetricsRecord :=
  { existing with
    sequence := payload.sequence
    contention :=
      { existing.contention with
        blockedProducers := payload.blockedProducers
        blockedConsumers := payload.blockedConsumers
        blockedPutCount := payload.blockedPutTotal
        blockedGetCount := payload.blockedGetTotal } }

/-- `applySaturation(existing, payload)`. -/
def applySaturation (existing : QueueMetricsRecord) (payload : QueueSaturationDetectedPayload) :
    QueueMetricsRecord :=
  { existing with
    sequence := payload.sequence
    occupancy :=
      { existing.occupancy with
        occupancyRatio := payload.occupancyRatio
        currentSize := payload.currentSize }
    pressure :=
      { existing.pressure with
        saturated := true
        saturationRatio := max existing.pressure.saturationRatio payload.occupancyRatio } }

/-! ## Reducers -/

/-- `recordsById`. -/
abbrev QueueRecords := Dict String QueueMetricsRecord

/-- `reduceHydration(snapshot)`. -/
def reduceHydration (queues : List QueueMetricsRecord) : QueueRecords × List String :=
  queues.foldl (fun s record => (s.1.set record.queueId record, s.2 ++ [record.queueId]))
    (.empty, [])

/-- What `reduceEventPayload` puts in the place of a queue's record; `none` is its `null`. -/
def reducedRecord (existing : Option QueueMetricsRecord) :
    QueueMetricsEventPayload → Option QueueMetricsRecord
  | .metricsUpdated payload => some (recordFromUpdatedPayload existing payload)
  | .pressureChanged payload => existing.map (applyPressureChange · payload)
  | .contentionDetected payload => existing.map (applyContention · payload)
  | .saturationDetected payload => existing.map (applySaturation · payload)

/-- `reduceEventPayload(records, payload)`. -/
def reduceEventPayload (records : QueueRecords) (payload : QueueMetricsEventPayload) :
    Option QueueRecords :=
  (reducedRecord (records.get? payload.queueId) payload).map (records.set payload.queueId)

/-- The store, without the markers and what the panel selects. -/
structure QueuePressureStore where
  recordsById : QueueRecords := .empty
  queueIds : List String := []
  lastSequence : Nat := 0
  hydrationsApplied : Nat := 0
  eventsApplied : Nat := 0
  eventsDropped : Nat := 0

namespace QueuePressureStore

/-- `hydrateSnapshot(snapshot)`. -/
def hydrateSnapshot (s : QueuePressureStore) (queues : List QueueMetricsRecord) :
    QueuePressureStore :=
  { s with
    recordsById := (reduceHydration queues).1
    queueIds := (reduceHydration queues).2
    hydrationsApplied := s.hydrationsApplied + 1 }

/-- `applyEventPayload(payload)`. -/
def applyEventPayload (s : QueuePressureStore) (payload : QueueMetricsEventPayload) :
    QueuePressureStore :=
  match reduceEventPayload s.recordsById payload with
  | none => { s with eventsDropped := s.eventsDropped + 1 }
  | some reduced =>
    { s with
      recordsById := reduced
      queueIds :=
        if payload.queueId ∈ s.recordsById then s.queueIds else s.queueIds ++ [payload.queueId]
      lastSequence := max s.lastSequence payload.sequence
      eventsApplied := s.eventsApplied + 1 }

/-- The store behind what the engine has published, in that order. -/
def receive (s : QueuePressureStore) (published : List (DeltaKind × QueueMetricsRecord)) :
    QueuePressureStore :=
  published.foldl (fun s p => s.applyEventPayload (publishedPayload p.1 p.2)) s

theorem receive_append (s : QueuePressureStore)
    (published published' : List (DeltaKind × QueueMetricsRecord)) :
    s.receive (published ++ published') = (s.receive published).receive published' :=
  List.foldl_append

/-- `recordsById[queueId]` behind one payload: only its own queue's record is touched. -/
theorem get?_applyEventPayload (s : QueuePressureStore) (payload : QueueMetricsEventPayload)
    (queueId : String) :
    (s.applyEventPayload payload).recordsById.get? queueId =
      if queueId = payload.queueId then reducedRecord (s.recordsById.get? queueId) payload
      else s.recordsById.get? queueId := by
  unfold applyEventPayload reduceEventPayload
  by_cases hid : queueId = payload.queueId
  · subst hid
    rw [if_pos rfl]
    cases hreduced : reducedRecord (s.recordsById.get? payload.queueId) payload with
    | some record => exact Dict.get?_set_self _ _ _
    | none =>
      -- a dropped payload is one of a queue without a record
      cases hget : s.recordsById.get? payload.queueId with
      | none => exact hget
      | some existing =>
        rw [hget] at hreduced
        cases payload <;> exact absurd hreduced (Option.some_ne_none _)
  · rw [if_neg hid]
    cases reducedRecord (s.recordsById.get? payload.queueId) payload with
    | some record => exact Dict.get?_set_of_ne _ _ hid
    | none => rfl

end QueuePressureStore

/-- Records with different ids are installed under their ids, next to what is there. -/
theorem get?_foldl_hydration {queues : List QueueMetricsRecord}
    (hnodup : (queues.map QueueMetricsRecord.queueId).Nodup) (start : QueueRecords × List String)
    (hfresh : ∀ record ∈ queues, start.1.get? record.queueId = none) (queueId : String) :
    (queues.foldl (fun s record => (s.1.set record.queueId record, s.2 ++ [record.queueId]))
        start).1.get? queueId
      = (queues.find? fun record => record.queueId = queueId).or (start.1.get? queueId) := by
  induction queues generalizing start with
  | nil => rfl
  | cons record queues ih =>
    obtain ⟨hnotMem, hnodup⟩ := List.nodup_cons.mp hnodup
    have hother : ∀ record' ∈ queues, record'.queueId ≠ record.queueId :=
      fun record' hmem heq => hnotMem (List.mem_map.mpr ⟨record', hmem, heq⟩)
    have hnext : ∀ record' ∈ queues,
        (start.1.set record.queueId record).get? record'.queueId = none := by
      intro record' hmem
      rw [Dict.get?_set_of_ne _ _ (hother record' hmem)]
      exact hfresh record' (List.mem_cons_of_mem _ hmem)
    rw [List.foldl_cons,
      ih hnodup (start.1.set record.queueId record, start.2 ++ [record.queueId]) hnext]
    by_cases hid : record.queueId = queueId
    · subst hid
      have hlater : (queues.find? fun record' => record'.queueId = record.queueId) = none :=
        List.find?_eq_none.mpr fun record' hmem heq => hother record' hmem (of_decide_eq_true heq)
      rw [hlater, List.find?_cons_of_pos (by simp)]
      exact Dict.get?_set_self _ _ _
    · rw [List.find?_cons_of_neg (by simpa using hid), Dict.get?_set_of_ne _ _ (Ne.symm hid)]

/-- The record of a queue behind a hydration is the one that the snapshot lists. -/
theorem get?_reduceHydration {queues : List QueueMetricsRecord}
    (hnodup : (queues.map QueueMetricsRecord.queueId).Nodup) (queueId : String) :
    (reduceHydration queues).1.get? queueId
      = queues.find? fun record => record.queueId = queueId := by
  rw [reduceHydration, get?_foldl_hydration hnodup (.empty, []) fun _ _ => rfl]
  exact Option.or_none

end AsyncViz.Frontend
