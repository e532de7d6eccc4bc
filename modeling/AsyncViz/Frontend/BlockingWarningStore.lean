/-
  AsyncViz.Frontend.BlockingWarningStore

  The store of the blocking warning panel (`dashboard/warnings/blocking/BlockingWarningStore.ts`):
  `reduceHydration`, `reduceEvent` with its gate on the sequence, and the two actions that call
  them.

  A group of the wire is the emitter's `WarningGroup`; what it has beyond that is computed from it.
-/

import AsyncViz.Runtime.Warnings.Blocking.Emitter

namespace AsyncViz.Frontend.Blocking

open AsyncViz.Lib AsyncViz.Runtime.Warnings.Blocking

/-- `BlockingWarningEmitterSnapshot`, the groups. -/
structure BlockingWarningEmitterSnapshot where
  activeGroups : List WarningGroup
  recentGroups : List WarningGroup

/-- `emitter.snapshot()`. -/
def emitterSnapshot (e : BlockingWarningEmitter) : BlockingWarningEmitterSnapshot :=
  ⟨e.registry.active.values, e.registry.recent.items⟩

/-- `groupFromEventPayload(payload)`. -/
def groupFromEventPayload (payload : BlockingWarningPayload) : WarningGroup := payload.toWarningGroup

/-- `HydrationResult`. -/
structure HydrationResult where
  groupsById : Dict String WarningGroup := .empty
  activeIds : List String := []
  recentIds : List String := []

/-- `reduceHydration(snapshot)`. -/
def reduceHydration (snapshot : BlockingWarningEmitterSnapshot) : HydrationResult :=
  let active := snapshot.activeGroups.foldl
    (fun (r : HydrationResult) group =>
      { r with
        groupsById := r.groupsById.set group.groupId group
        activeIds := r.activeIds ++ [group.groupId] })
    {}
  snapshot.recentGroups.foldl
    (fun (r : HydrationResult) group =>
      { r with
        groupsById := r.groupsById.set group.groupId group
        recentIds := r.recentIds ++ [group.groupId] })
    active

/-- `EventAppliedKind`. -/
inductive EventAppliedKind where
  | applied
  | duplicate
  | stale
deriving DecidableEq, Repr

/-- The two fields by which `reduceEvent` knows a duplicate. -/
def mark (group : WarningGroup) : BlockingWarningGroupState × Int := (group.state, group.lastSeenNs)

/-- `reduceEvent(prev, payload)`: the kind, the indexes and the sequence. -/
def reduceEvent (prev : HydrationResult) (lastSequence : Nat) (payload : BlockingWarningPayload) :
    EventAppliedKind × HydrationResult × Nat :=
  if payload.sequence ≤ lastSequence then (.stale, prev, lastSequence)
  else if (prev.groupsById.get? payload.groupId).map mark = some (mark payload.toWarningGroup) then
    (.duplicate, prev, max lastSequence payload.sequence)
  else
    let group := groupFromEventPayload payload
    let wasActive := prev.activeIds.contains group.groupId
    let wasRecent := prev.recentIds.contains group.groupId
    let next : HydrationResult :=
      { prev with groupsById := prev.groupsById.set group.groupId group }
    let next :=
      if group.state.isTerminal then
        { next with
          activeIds :=
            if wasActive then prev.activeIds.filter fun id => id ≠ group.groupId
            else prev.activeIds
          recentIds := if wasRecent then prev.recentIds else prev.recentIds ++ [group.groupId] }
      else if wasActive then next
      else
        { next with
          activeIds := prev.activeIds ++ [group.groupId]
          recentIds :=
            if wasRecent then prev.recentIds.filter fun id => id ≠ group.groupId
            else prev.recentIds }
    (.applied, next, max lastSequence payload.sequence)

/-- `BlockingWarningStoreState`, without the filters and the panel's status. -/
structure BlockingWarningStore extends HydrationResult where
  selectedGroupId : Option String := none
  lastSequence : Nat := 0
  hydrationsApplied : Nat := 0
  eventsApplied : Nat := 0
  eventsDropped : Nat := 0
  duplicatesDropped : Nat := 0
  staleDropped : Nat := 0

namespace BlockingWarningStore

/-- `hydrateSnapshot(snapshot)`. -/
def hydrateSnapshot (s : BlockingWarningStore) (snapshot : BlockingWarningEmitterSnapshot) :
    BlockingWarningStore :=
  let reduced := reduceHydration snapshot
  { s with
    toHydrationResult := reduced
    selectedGroupId := s.selectedGroupId.filter fun id => (reduced.groupsById.get? id).isSome
    lastSequence := 0
    hydrationsApplied := s.hydrationsApplied + 1 }

/-- `applyEventPayload(payload)`. -/
def applyEventPayload (s : BlockingWarningStore) (payload : BlockingWarningPayload) :
    BlockingWarningStore :=
  let (kind, next, lastSequence) := reduceEvent s.toHydrationResult s.lastSequence payload
  { s with
    toHydrationResult := if kind = .applied then next else s.toHydrationResult
    lastSequence := lastSequence
    eventsApplied := s.eventsApplied + if kind = .applied then 1 else 0
    eventsDropped := s.eventsDropped + if kind = .applied then 0 else 1
    duplicatesDropped := s.duplicatesDropped + if kind = .duplicate then 1 else 0
    staleDropped := s.staleDropped + if kind = .stale then 1 else 0 }

/-- The store behind the payloads. -/
def receive (s : BlockingWarningStore) (payloads : List BlockingWarningPayload) :
    BlockingWarningStore :=
  payloads.foldl applyEventPayload s

theorem receive_append (s : BlockingWarningStore) (payloads payloads' : List BlockingWarningPayload) :
    s.receive (payloads ++ payloads') = (s.receive payloads).receive payloads' :=
  List.foldl_append

/-! ## One group of the store -/

variable {s : BlockingWarningStore} {payload : BlockingWarningPayload}

/-- What is not applied leaves the indexes as they are. -/
theorem reduceEvent_of_not_applied {prev : HydrationResult} {lastSequence : Nat}
    (h : (reduceEvent prev lastSequence payload).1 ≠ .applied) :
    (reduceEvent prev lastSequence payload).2.1 = prev := by
  rw [reduceEvent] at h ⊢
  split at h
  case isTrue hstale => rw [if_pos hstale]
  case isFalse hnew =>
    rw [if_neg hnew]
    split at h
    case isTrue hduplicate => rw [if_pos hduplicate]
    case isFalse => exact absurd rfl h

theorem toHydrationResult_applyEventPayload (s : BlockingWarningStore)
    (payload : BlockingWarningPayload) :
    (s.applyEventPayload payload).toHydrationResult
      = (reduceEvent s.toHydrationResult s.lastSequence payload).2.1 := by
  by_cases h : (reduceEvent s.toHydrationResult s.lastSequence payload).1 = .applied
  · exact if_pos h
  · exact (if_neg h).trans (reduceEvent_of_not_applied h).symm

theorem lastSequence_applyEventPayload (hnew : s.lastSequence < payload.sequence) :
    (s.applyEventPayload payload).lastSequence = payload.sequence := by
  have hgate : ¬ payload.sequence ≤ s.lastSequence := Nat.not_le.mpr hnew
  show (reduceEvent s.toHydrationResult s.lastSequence payload).2.2 = _
  rw [reduceEvent, if_neg hgate]
  split <;> exact Nat.max_eq_right (Nat.le_of_lt hnew)

/-- What the store has of an id: its group, and whether it counts as active. -/
def glance (s : BlockingWarningStore) (groupId : String) : Option WarningGroup × Bool :=
  (s.groupsById.get? groupId, s.activeIds.contains groupId)

/-- What a payload that passes the gate makes of its group. -/
def glanceNext (payload : BlockingWarningPayload) (g : Option WarningGroup × Bool) :
    Option WarningGroup × Bool :=
  if g.1.map mark = some (mark payload.toWarningGroup) then g
  else (some payload.toWarningGroup, !payload.state.isTerminal)

/-- A payload that passes the gate moves its own group, and nothing else. -/
theorem glance_applyEventPayload (hnew : s.lastSequence < payload.sequence) (groupId : String) :
    (s.applyEventPayload payload).glance groupId =
      if groupId = payload.groupId then glanceNext payload (s.glance groupId)
      else s.glance groupId := by
  have hgate : ¬ payload.sequence ≤ s.lastSequence := Nat.not_le.mpr hnew
  rw [glance, toHydrationResult_applyEventPayload, reduceEvent, if_neg hgate]
  by_cases hduplicate :
      (s.groupsById.get? payload.groupId).map mark = some (mark payload.toWarningGroup)
  · rw [if_pos hduplicate]
    split
    case isTrue hid =>
      subst hid
      exact (if_pos hduplicate).symm
    case isFalse => rfl
  · rw [if_neg hduplicate]
    dsimp only [groupFromEventPayload]
    by_cases hid : groupId = payload.groupId
    · subst hid
      rw [if_pos rfl, glanceNext, glance, if_neg hduplicate]
      cases payload.state.isTerminal with
      | true => cases hactive : s.activeIds.contains payload.groupId <;> simp_all
      | false => cases hactive : s.activeIds.contains payload.groupId <;> simp_all
    · rw [if_neg hid, glance]
      cases payload.state.isTerminal with
      | true =>
        cases s.activeIds.contains payload.groupId <;>
          simp [hid, Dict.get?_set_of_ne]
      | false =>
        cases s.activeIds.contains payload.groupId <;>
          simp [hid, Dict.get?_set_of_ne]

/-- The gate lets through payloads whose sequences go up. -/
theorem receive_glance {payloads : List BlockingWarningPayload}
    (hnew : ∀ p ∈ payloads, s.lastSequence < p.sequence)
    (hincreasing : payloads.Pairwise fun p q => p.sequence < q.sequence) (groupId : String) :
    (s.receive payloads).glance groupId
      = (payloads.filter fun p => p.groupId = groupId).foldl (fun g p => glanceNext p g)
          (s.glance groupId) ∧
      ∀ n, s.lastSequence ≤ n → (∀ p ∈ payloads, p.sequence ≤ n) →
        (s.receive payloads).lastSequence ≤ n := by
  induction payloads generalizing s with
  | nil => exact ⟨rfl, fun n hle _ => hle⟩
  | cons p payloads ih =>
    have hp := hnew p List.mem_cons_self
    have hlast := lastSequence_applyEventPayload hp
    obtain ⟨hhead, hincreasing⟩ := List.pairwise_cons.mp hincreasing
    obtain ⟨hglance, hbound⟩ := @ih (s.applyEventPayload p)
      (fun p' hmem => hlast ▸ hhead p' hmem) hincreasing
    constructor
    · show ((s.applyEventPayload p).receive payloads).glance groupId = _
      rw [hglance, glance_applyEventPayload hp]
      by_cases hid : p.groupId = groupId
      · rw [if_pos hid.symm, List.filter_cons_of_pos (by simpa using hid), List.foldl_cons]
      · rw [if_neg (Ne.symm hid), List.filter_cons_of_neg (by simpa using hid)]
    · intro n hle hall
      refine hbound n ?_ fun p' hmem => hall p' (List.mem_cons_of_mem _ hmem)
      rw [hlast]
      exact hall p List.mem_cons_self

end BlockingWarningStore

end AsyncViz.Frontend.Blocking
