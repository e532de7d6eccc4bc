/-
  AsyncViz.Replay.Models

  The parts that a replay engine is made of (`replay/runtime/models/runtime_state.py`,
  `engine_cursor.py`, `replay_reducers.py`, `replay_checkpoint_runtime.py`,
  `replay_clock.py`): the virtual state and its dict form, the cursor, the reducer
  registry, the checkpoint ring and the virtual clock.

  Times of the wall clock are arguments (`now`), speeds are rationals.
-/

import AsyncViz.Lib.Dict
import AsyncViz.Replay.Recording
import Mathlib.Algebra.Order.Floor.Ring
import Mathlib.Data.Rat.Floor

namespace AsyncViz.Replay

open AsyncViz.Lib AsyncViz.Lib.Bisect
open AsyncViz.Runtime (Json)

/-! ## Virtual state -/

/-- `VirtualRuntimeState`. -/
structure VirtualRuntimeState where
  lastSequence : Int := 0
  lastMonotonicNs : Int := 0
  framesApplied : Int := 0
  domains : Dict String Json := .empty
  notes : Dict String String := .empty

/-- The dict form of a state, as a snapshot payload holds it: any key may be missing. -/
structure StateDict where
  lastSequence : Option Int := none
  lastMonotonicNs : Option Int := none
  framesApplied : Option Int := none
  domains : Option (Dict String Json) := none
  notes : Option (Dict String String) := none

/-- `bool(data)`. -/
def StateDict.truthy (data : StateDict) : Bool :=
  data.lastSequence.isSome || data.lastMonotonicNs.isSome || data.framesApplied.isSome ||
    data.domains.isSome || data.notes.isSome

namespace VirtualRuntimeState

/-- `VirtualRuntimeState.empty()`. -/
def empty : VirtualRuntimeState := {}

/-- `VirtualRuntimeState.from_dict(data)`. -/
def fromDict (data : StateDict) : VirtualRuntimeState :=
  { lastSequence := data.lastSequence.getD 0
    lastMonotonicNs := data.lastMonotonicNs.getD 0
    framesApplied := data.framesApplied.getD 0
    domains := data.domains.getD .empty
    notes := data.notes.getD .empty }

/-- `state.to_dict()`. -/
def toDict (state : VirtualRuntimeState) : StateDict :=
  { lastSequence := some state.lastSequence
    lastMonotonicNs := some state.lastMonotonicNs
    framesApplied := some state.framesApplied
    domains := some state.domains
    notes := some state.notes }

@[simp] theorem fromDict_toDict (state : VirtualRuntimeState) : fromDict state.toDict = state := rfl

@[simp] theorem fromDict_empty : fromDict {} = empty := rfl

/-- An empty dict stands for the empty state. -/
theorem fromDict_of_not_truthy {data : StateDict} (h : data.truthy = false) :
    fromDict data = empty := by
  obtain ⟨a, b, c, d, e⟩ := data
  simp only [StateDict.truthy, Bool.or_eq_false_iff, Option.isSome_eq_false_iff,
    Option.isNone_iff_eq_none] at h
  obtain ⟨⟨⟨⟨rfl, rfl⟩, rfl⟩, rfl⟩, rfl⟩ := h
  rfl

end VirtualRuntimeState

/-! ## Cursor -/

/-- `EngineCursor`. -/
structure EngineCursor where
  lastSequence : Int := 0
  lastMonotonicNs : Int := 0
  framesDispatched : Nat := 0
  lastVirtualNs : Int := 0
  checkpointSequence : Int := 0
deriving DecidableEq, Repr

namespace EngineCursor

/-- `EngineCursor.at_start()`. -/
def atStart : EngineCursor := {}

/-- `cursor.advance(sequence=…, monotonic_ns=…, virtual_ns=…)`. -/
def advance (cursor : EngineCursor) (sequence monotonicNs virtualNs : Int) : EngineCursor :=
  { cursor with
    lastSequence := sequence
    lastMonotonicNs := monotonicNs
    framesDispatched := cursor.framesDispatched + 1
    lastVirtualNs := virtualNs }

/-- `cursor.with_checkpoint(checkpoint_sequence)`. -/
def withCheckpoint (cursor : EngineCursor) (checkpointSequence : Int) : EngineCursor :=
  { cursor with checkpointSequence := checkpointSequence }

/-- `cursor.jumped_to(sequence=…, monotonic_ns=…, virtual_ns=…)`. -/
def jumpedTo (cursor : EngineCursor) (sequence monotonicNs virtualNs : Int) : EngineCursor :=
  { cursor with
    lastSequence := sequence
    lastMonotonicNs := monotonicNs
    lastVirtualNs := virtualNs }

end EngineCursor

/-! ## Reducers -/

/-- `Reducer`. -/
abbrev Reducer := VirtualRuntimeState → ReplayFrame → VirtualRuntimeState

/-- `_advance_counters`. -/
def advanceCounters : Reducer := fun state frame =>
  { state with
    lastSequence := frame.sequence
    lastMonotonicNs := frame.monotonicNs
    framesApplied := state.framesApplied + 1 }

/-- `ReducerRegistry`. -/
structure ReducerRegistry where
  default : Reducer := advanceCounters
  reducers : Dict String Reducer := .empty

namespace ReducerRegistry

/-- `registry.apply(state, frame)`. -/
def apply (registry : ReducerRegistry) : Reducer := fun state frame =>
  let nextState := registry.default state frame
  match registry.reducers.get? frame.payloadType with
  | some domainReducer => domainReducer nextState frame
  | none => nextState

/-- Every frame leaves its own sequence and timestamp in the state, as the default
    reducer and the reducers of `domain_reducer` do. -/
def Counting (registry : ReducerRegistry) : Prop :=
  ∀ state frame, (registry.apply state frame).lastSequence = frame.sequence ∧
    (registry.apply state frame).lastMonotonicNs = frame.monotonicNs

end ReducerRegistry

/-- `domain_reducer(domain, apply=…)`; an absent domain is the empty dict. -/
def domainReducer (domain : String) (applyDomain : Json → ReplayFrame → Json) : Reducer :=
  fun state frame =>
    let current := (state.domains.get? domain).getD (.obj [])
    { state with domains := state.domains.set domain (applyDomain current frame) }

/-- A registry of domain reducers over the built-in default is counting. -/
theorem ReducerRegistry.counting_of_domainReducers (reducers : Dict String Reducer)
    (h : ∀ payloadType reducer, reducers.get? payloadType = some reducer →
      ∃ domain applyDomain, reducer = domainReducer domain applyDomain) :
    Counting { reducers := reducers } := by
  intro state frame
  simp only [apply]
  cases hreducer : reducers.get? frame.payloadType with
  | none => exact ⟨rfl, rfl⟩
  | some reducer =>
    obtain ⟨domain, applyDomain, rfl⟩ := h frame.payloadType reducer hreducer
    exact ⟨rfl, rfl⟩

/-! ## Checkpoints -/

/-- `Checkpoint`. -/
structure Checkpoint where
  sequence : Int
  monotonicNs : Int
  state : VirtualRuntimeState

/-- `CheckpointRuntime`: the checkpoints by sequence, least recently recorded first. -/
structure CheckpointRuntime where
  capacity : ℕ+
  checkpoints : List Checkpoint := []

namespace CheckpointRuntime

/-- The checkpoint of a state. -/
def checkpointOf (state : VirtualRuntimeState) : Checkpoint :=
  { sequence := state.lastSequence, monotonicNs := state.lastMonotonicNs, state := state }

/-- `checkpoints.record(state)`: the newest entry of its sequence, the oldest ones evicted. -/
def record (ring : CheckpointRuntime) (state : VirtualRuntimeState) : CheckpointRuntime :=
  let cp := checkpointOf state
  -- a sequence that is recorded again moves to the end
  let kept := (ring.checkpoints.filter fun c => c.sequence ≠ cp.sequence) ++ [cp]
  { ring with checkpoints := kept.drop (kept.length - ring.capacity) }

/-- One round of the scan: a later, but not too late checkpoint is better. -/
def better (sequence : Int) (best : Option Checkpoint) (cp : Checkpoint) : Option Checkpoint :=
  if cp.sequence ≤ sequence ∧ best.all (fun b => b.sequence < cp.sequence) then some cp else best

/-- `checkpoints.nearest_at_or_before(sequence)`. -/
def nearestAtOrBefore (ring : CheckpointRuntime) (sequence : Int) : Option Checkpoint :=
  ring.checkpoints.foldl (better sequence) none

/-- Recording adds the checkpoint of the state and nothing else. -/
theorem mem_record {ring : CheckpointRuntime} {state : VirtualRuntimeState} {cp : Checkpoint}
    (h : cp ∈ (ring.record state).checkpoints) :
    cp = checkpointOf state ∨ cp ∈ ring.checkpoints := by
  have hkept := List.mem_of_mem_drop h
  rcases List.mem_append.mp hkept with hold | hnew
  · exact .inr (List.mem_filter.mp hold).1
  · exact .inl (List.mem_singleton.mp hnew)

theorem foldl_better {sequence : Int} {checkpoints before : List Checkpoint}
    {best : Option Checkpoint} (h : IsNearest before Checkpoint.sequence sequence best) :
    IsNearest (before ++ checkpoints) Checkpoint.sequence sequence
      (checkpoints.foldl (better sequence) best) := by
  induction checkpoints generalizing before best with
  | nil => rwa [List.append_nil]
  | cons cp checkpoints ih =>
    -- the scan so far is right for `before`; one round extends it by `cp`
    rw [List.append_cons, List.foldl_cons]
    refine ih ?_
    rw [better]
    by_cases hbetter : cp.sequence ≤ sequence ∧ best.all (fun b => b.sequence < cp.sequence)
    · rw [if_pos hbetter]
      refine ⟨by simp, hbetter.1, fun e he hle => ?_⟩
      rcases List.mem_append.mp he with hold | hnew
      · cases best with
        | none => exact absurd (h e hold) (not_lt.mpr hle)
        | some b =>
          -- `cp` beats the best so far, and with it everything scanned
          have hlt : b.sequence < cp.sequence := by simpa using hbetter.2
          exact (h.2.2 e hold hle).trans hlt.le
      · rw [List.mem_singleton.mp hnew]
    · rw [if_neg hbetter]
      cases best with
      | none =>
        intro e he
        rcases List.mem_append.mp he with hold | hnew
        · exact h e hold
        · rw [List.mem_singleton.mp hnew]
          by_contra hle
          exact hbetter ⟨not_lt.mp hle, rfl⟩
      | some b =>
        refine ⟨List.mem_append_left _ h.1, h.2.1, fun e he hle => ?_⟩
        rcases List.mem_append.mp he with hold | hnew
        · exact h.2.2 e hold hle
        · rw [List.mem_singleton.mp hnew] at hle ⊢
          by_contra hlt
          exact hbetter ⟨hle, by simpa using hlt⟩

theorem nearestAtOrBefore_isNearest (ring : CheckpointRuntime) (sequence : Int) :
    IsNearest ring.checkpoints Checkpoint.sequence sequence (ring.nearestAtOrBefore sequence) := by
  have hnil : IsNearest ([] : List Checkpoint) Checkpoint.sequence sequence none :=
    fun _ he => absurd he List.not_mem_nil
  exact foldl_better hnil

end CheckpointRuntime

/-! ## Clock -/

/-- `ReplayClock`.  `pausedVirtualNs` is set exactly while the clock is paused. -/
structure ReplayClock where
  wallAnchorNs : Int
  virtualAnchorNs : Int := 0
  speed : ℚ := 1
  pausedVirtualNs : Option Int := none

namespace ReplayClock

/-- `clock.paused`. -/
def paused (clock : ReplayClock) : Bool := clock.pausedVirtualNs.isSome

/-- `clock.current_virtual_ns()`. -/
def currentVirtualNs (clock : ReplayClock) (now : Int) : Int :=
  match clock.pausedVirtualNs with
  | some virtualNs => virtualNs
  | none => clock.virtualAnchorNs + ⌊((max 0 (now - clock.wallAnchorNs) : Int) : ℚ) * clock.speed⌋

/-- `clock.pause()`. -/
def pause (clock : ReplayClock) (now : Int) : ReplayClock :=
  if clock.paused then clock
  else { clock with pausedVirtualNs := some (clock.currentVirtualNs now) }

/-- `clock.resume()`. -/
def resume (clock : ReplayClock) (now : Int) : ReplayClock :=
  match clock.pausedVirtualNs with
  | none => clock
  | some virtualNs =>
    { clock with wallAnchorNs := now, virtualAnchorNs := virtualNs, pausedVirtualNs := none }

/-- `ReplayClock(initial_virtual_ns=…, initial_speed=…)`; it raises unless the speed is
    positive. -/
def new (initialVirtualNs : Int) (initialSpeed : ℚ) (now : Int) : Option ReplayClock :=
  if initialSpeed ≤ 0 then none
  else some { wallAnchorNs := now, virtualAnchorNs := initialVirtualNs, speed := initialSpeed }

/-- `clock.set_speed(speed)`; it raises unless the speed is positive.  The wall clock is read
    at `readAt` for what the clock shows, and once more, at `anchoredAt`, for the anchor. -/
def setSpeed (clock : ReplayClock) (speed : ℚ) (readAt anchoredAt : Int) : Option ReplayClock :=
  if speed ≤ 0 then none
  else
    let current := clock.currentVirtualNs readAt
    some
      { wallAnchorNs := anchoredAt
        virtualAnchorNs := current
        speed := speed
        pausedVirtualNs := clock.pausedVirtualNs.map fun _ => current }

/-- `clock.jump_to(virtual_ns)`. -/
def jumpTo (clock : ReplayClock) (virtualNs now : Int) : ReplayClock :=
  { clock with
    wallAnchorNs := now
    virtualAnchorNs := virtualNs
    -- a paused clock stays paused, at the new time
    pausedVirtualNs := clock.pausedVirtualNs.map fun _ => virtualNs }

/-- Right after a jump the clock shows the time it jumped to, paused or not. -/
@[simp] theorem currentVirtualNs_jumpTo (clock : ReplayClock) (virtualNs now : Int) :
    (clock.jumpTo virtualNs now).currentVirtualNs now = virtualNs := by
  obtain ⟨wall, virtual, speed, pausedNs⟩ := clock
  cases pausedNs with
  | none => simp [jumpTo, currentVirtualNs]
  | some ns => rfl

end ReplayClock

end AsyncViz.Replay
