/-
  AsyncViz.Replay.Control.Models

  The parts of the pause/resume layer (`replay/runtime/control/`): phases and their
  snapshot, requests, the transition guard, the state holder, the gate, the clock and
  scheduler adapters, the bounded request queue, and the tables of pending requests with
  their barriers.

  Pause and resume keep their requests in the same way, so a `PendingTable` has the kind
  of request as a parameter.  A barrier is known by the id of its request; what it
  resolved with is the entry of that id in `resolutions`, where `resolve` writes it.
  Several readings of the wall clock within one call are one argument, `now`.

  `heard` only observes: what a listener of the state holder is told.
-/

import AsyncViz.Lib.Dict
import AsyncViz.Replay.Scheduler

namespace AsyncViz.Replay.Control

open AsyncViz.Lib

/-! ## Phases -/

/-- `PlaybackPhase`. -/
inductive PlaybackPhase where
  | idle
  | playing
  | pausing
  | paused
  | resuming
  | stepping
  | stopped
  | failed
deriving DecidableEq, Repr

/-- The value of the `StrEnum` member. -/
def PlaybackPhase.value : PlaybackPhase → String
  | .idle => "idle"
  | .playing => "playing"
  | .pausing => "pausing"
  | .paused => "paused"
  | .resuming => "resuming"
  | .stepping => "stepping"
  | .stopped => "stopped"
  | .failed => "failed"

/-- `PlaybackPhaseSnapshot`. -/
structure PlaybackPhaseSnapshot where
  phase : PlaybackPhase
  lastSequence : Int
  lastMonotonicNs : Int
  pauseRequestId : Nat := 0
  resumeRequestId : Nat := 0
  errorDetail : String := ""
deriving DecidableEq, Repr

/-! ## Transition guard -/

/-- What a control request raises. -/
inductive ControlError where
  | illegalTransition (message : String)
  | value (message : String)
deriving DecidableEq, Repr

/-- `TransitionVerdict`. -/
structure TransitionVerdict where
  allowed : Bool
  previous : PlaybackPhase
  next : PlaybackPhase
  reason : String := ""
deriving DecidableEq, Repr

/-- The error of `verdict.raise_if_illegal()`. -/
def TransitionVerdict.error (verdict : TransitionVerdict) : ControlError :=
  .illegalTransition ("illegal transition " ++ verdict.previous.value ++ " → " ++
    verdict.next.value ++ ": " ++ verdict.reason)

/-- `_LEGAL_TRANSITIONS`. -/
def legalTransitions : PlaybackPhase → List PlaybackPhase
  | .idle => [.playing, .stopped, .failed]
  | .playing => [.pausing, .paused, .stepping, .stopped, .failed]
  | .pausing => [.paused, .playing, .failed, .stopped]
  | .paused => [.resuming, .stepping, .playing, .stopped, .failed]
  | .resuming => [.playing, .paused, .failed, .stopped]
  | .stepping => [.paused, .playing, .failed, .stopped]
  | .stopped => [.idle]
  | .failed => [.idle]

/-- `check_transition`. -/
def checkTransition (previous nextPhase : PlaybackPhase) : TransitionVerdict :=
  if previous = nextPhase then
    { allowed := true, previous := previous, next := nextPhase, reason := "no-op" }
  else
    let allowed := decide (nextPhase ∈ legalTransitions previous)
    { allowed := allowed
      previous := previous
      next := nextPhase
      reason :=
        if allowed then "" else previous.value ++ " cannot transition to " ++ nextPhase.value }

/-- The transition table allows the change of phase; staying is no change. -/
def Legal (previous nextPhase : PlaybackPhase) : Prop :=
  (checkTransition previous nextPhase).allowed = true

instance (previous nextPhase : PlaybackPhase) : Decidable (Legal previous nextPhase) :=
  inferInstanceAs (Decidable (_ = true))

theorem legal_iff {previous nextPhase : PlaybackPhase} :
    Legal previous nextPhase ↔ previous = nextPhase ∨ nextPhase ∈ legalTransitions previous := by
  rw [Legal, checkTransition]
  by_cases h : previous = nextPhase
  · simp [h]
  · simp [h]

/-! ## State holder -/

/-- `ReplayPlaybackStateHolder` with the notifications of a listener. -/
structure ReplayPlaybackStateHolder where
  snapshot : PlaybackPhaseSnapshot
  heard : List (PlaybackPhaseSnapshot × PlaybackPhaseSnapshot) := []
deriving DecidableEq, Repr

namespace ReplayPlaybackStateHolder

/-- `holder.transition_to(next_snapshot)`. -/
def transitionTo (holder : ReplayPlaybackStateHolder) (nextSnapshot : PlaybackPhaseSnapshot) :
    ReplayPlaybackStateHolder :=
  if holder.snapshot = nextSnapshot then holder
  else { snapshot := nextSnapshot, heard := holder.heard ++ [(holder.snapshot, nextSnapshot)] }

/-- `holder.update_position(last_sequence=…, last_monotonic_ns=…)`. -/
def updatePosition (holder : ReplayPlaybackStateHolder) (lastSequence lastMonotonicNs : Int) :
    ReplayPlaybackStateHolder :=
  let previous := holder.snapshot
  if previous.lastSequence = lastSequence ∧ previous.lastMonotonicNs = lastMonotonicNs then holder
  else
    let nextSnapshot :=
      { previous with lastSequence := lastSequence, lastMonotonicNs := lastMonotonicNs }
    { snapshot := nextSnapshot, heard := holder.heard ++ [(previous, nextSnapshot)] }

@[simp] theorem transitionTo_snapshot (holder : ReplayPlaybackStateHolder)
    (nextSnapshot : PlaybackPhaseSnapshot) :
    (holder.transitionTo nextSnapshot).snapshot = nextSnapshot := by
  rw [transitionTo]
  split
  · assumption
  · rfl

@[simp] theorem updatePosition_snapshot (holder : ReplayPlaybackStateHolder)
    (lastSequence lastMonotonicNs : Int) :
    (holder.updatePosition lastSequence lastMonotonicNs).snapshot =
      { holder.snapshot with
        lastSequence := lastSequence, lastMonotonicNs := lastMonotonicNs } := by
  rw [updatePosition]
  split
  next h => rw [← h.1, ← h.2]
  next => rfl

end ReplayPlaybackStateHolder

/-! ## Gate, clock and scheduler -/

/-- `ReplayPlaybackGate`. -/
structure ReplayPlaybackGate where
  isOpen : Bool := true
deriving DecidableEq, Repr

namespace ReplayPlaybackGate

/-- `gate.open()`. -/
def openGate (_gate : ReplayPlaybackGate) : ReplayPlaybackGate := { isOpen := true }

/-- `gate.close()`. -/
def closeGate (_gate : ReplayPlaybackGate) : ReplayPlaybackGate := { isOpen := false }

end ReplayPlaybackGate

/-- `ClockPauseState`. -/
structure ClockPauseState where
  pausedAtVirtualNs : Int
  pausedAtWallNs : Int
deriving DecidableEq, Repr

/-- `ClockCoordinator`. -/
structure ClockCoordinator where
  clock : ReplayClock
  pauseState : Option ClockPauseState := none

namespace ClockCoordinator

/-- `clock.pause()`. -/
def pause (coordinator : ClockCoordinator) (now : Int) : ClockCoordinator :=
  let clock := coordinator.clock.pause now
  { clock := clock
    pauseState :=
      some { pausedAtVirtualNs := clock.currentVirtualNs now, pausedAtWallNs := now } }

/-- `clock.resume()`. -/
def resume (coordinator : ClockCoordinator) (now : Int) : ClockCoordinator :=
  { clock := coordinator.clock.resume now, pauseState := none }

end ClockCoordinator

/-- `SchedulerCoordinator`. -/
structure SchedulerCoordinator where
  scheduler : ReplayScheduler
  normalMode : Option PlaybackMode := none
deriving DecidableEq, Repr

namespace SchedulerCoordinator

/-- `coordinator.mode`. -/
def mode (coordinator : SchedulerCoordinator) : PlaybackMode := coordinator.scheduler.mode

/-- `coordinator.begin_step()`. -/
def beginStep (coordinator : SchedulerCoordinator) : SchedulerCoordinator :=
  { scheduler := coordinator.scheduler.setMode .step
    normalMode := some (coordinator.normalMode.getD coordinator.scheduler.mode) }

/-- `coordinator.end_step()`. -/
def endStep (coordinator : SchedulerCoordinator) : SchedulerCoordinator :=
  match coordinator.normalMode with
  | some mode => { scheduler := coordinator.scheduler.setMode mode, normalMode := none }
  | none => coordinator

end SchedulerCoordinator

/-! ## Requests -/

/-- `PauseTrigger`. -/
inductive PauseTrigger where
  | immediate
  | afterCurrentFrame
  | atSequence
  | atTimestamp
deriving DecidableEq, Repr

/-- The trigger is observed frame by frame and moves no phase when it is requested. -/
def PauseTrigger.deferred : PauseTrigger → Bool
  | .immediate | .afterCurrentFrame => false
  | .atSequence | .atTimestamp => true

/-- `PauseRequest`. -/
structure PauseRequest where
  requestId : Nat
  trigger : PauseTrigger := .afterCurrentFrame
  targetSequence : Int := 0
  targetMonotonicNs : Int := 0
  reason : String := ""
  requestedAtNs : Int
deriving DecidableEq, Repr

/-- The position meets the trigger of the request. -/
def PauseRequest.met (request : PauseRequest) (lastSequence lastMonotonicNs : Int) : Bool :=
  match request.trigger with
  | .immediate | .afterCurrentFrame => true
  | .atSequence => decide (lastSequence ≥ request.targetSequence)
  | .atTimestamp => decide (lastMonotonicNs ≥ request.targetMonotonicNs)

/-- `ResumeRequest`. -/
structure ResumeRequest where
  requestId : Nat
  reason : String := ""
  requestedAtNs : Int
deriving DecidableEq, Repr

/-- `StepRequest`. -/
structure StepRequest where
  requestId : Nat
  frameCount : Int := 1
  reason : String := ""
  requestedAtNs : Int
deriving DecidableEq, Repr

/-- `CoordinationQueue`: requests are offered to it, and none is ever taken out. -/
structure CoordinationQueue (α : Type) where
  capacity : ℕ+
  buf : List α := []
  accepted : Nat := 0
  dropped : Nat := 0
deriving DecidableEq, Repr

namespace CoordinationQueue

variable {α : Type}

/-- The item that the next `offer` drops. -/
def evictee (queue : CoordinationQueue α) : Option α :=
  if queue.buf.length ≥ queue.capacity then queue.buf.head? else none

/-- `queue.offer(item)`. -/
def offer (queue : CoordinationQueue α) (item : α) : CoordinationQueue α × Option α :=
  let full := decide (queue.buf.length ≥ queue.capacity)
  ({ queue with
      buf := (if full then queue.buf.tail else queue.buf) ++ [item]
      accepted := queue.accepted + 1
      dropped := if full then queue.dropped + 1 else queue.dropped },
    queue.evictee)

end CoordinationQueue

/-! ## Barriers and pending requests -/

/-- `PauseBarrier` and `ResumeBarrier`. -/
structure Barrier where
  requestId : Nat
  requestedAtNs : Int
deriving DecidableEq, Repr

/-- `PauseBarrierResolution` and `ResumeBarrierResolution`. -/
structure BarrierResolution where
  requestId : Nat
  atSequence : Int
  atMonotonicNs : Int
  latencyNs : Int
deriving DecidableEq, Repr

/-- `_PendingPause` and `_PendingResume`. -/
structure Pending (ρ : Type) where
  request : ρ
  barrier : Barrier
deriving DecidableEq, Repr

/-- The pending table of a controller, with what its barriers resolved with. -/
structure PendingTable (ρ : Type) where
  pending : Dict Nat (Pending ρ) := .empty
  resolutions : List BarrierResolution := []
deriving DecidableEq, Repr

namespace PendingTable

variable {ρ : Type}

/-- The barrier of the request has been resolved. -/
def Resolved (table : PendingTable ρ) (requestId : Nat) : Prop :=
  ∃ r ∈ table.resolutions, r.requestId = requestId

instance (table : PendingTable ρ) (requestId : Nat) : Decidable (table.Resolved requestId) :=
  inferInstanceAs (Decidable (∃ r ∈ table.resolutions, r.requestId = requestId))

/-- `self._pending[request_id] = …` with a new barrier. -/
def enter (table : PendingTable ρ) (requestId : Nat) (request : ρ) (now : Int) :
    PendingTable ρ :=
  { table with
    pending := table.pending.set requestId
      { request := request, barrier := { requestId := requestId, requestedAtNs := now } } }

/-- `barrier.resolve(…)`: only the first call sets the event. -/
def fire (table : PendingTable ρ) (sequence monotonicNs now : Int) (barrier : Barrier) :
    PendingTable ρ :=
  if table.Resolved barrier.requestId then table
  else
    { table with
      resolutions := table.resolutions ++
        [{ requestId := barrier.requestId
           atSequence := sequence
           atMonotonicNs := monotonicNs
           latencyNs := max 0 (now - barrier.requestedAtNs) }] }

/-- `controller.cancel(request_id)`: the barrier is not fired. -/
def cancel (table : PendingTable ρ) (requestId : Nat) : PendingTable ρ :=
  { table with pending := table.pending.pop requestId }

/-- Cancel the request that the queue evicted, if it did. -/
def cancelEvicted (table : PendingTable ρ) (requestId : ρ → Nat) (evicted : Option ρ) :
    PendingTable ρ :=
  match evicted with
  | some old => table.cancel (requestId old)
  | none => table

/-- `_resolve_pending` and `_resolve`. -/
def resolvePending (table : PendingTable ρ) (requestId : Nat) (snapshot : PlaybackPhaseSnapshot)
    (now : Int) : PendingTable ρ :=
  match table.pending.get? requestId with
  | none => table
  | some entry =>
    (table.cancel requestId).fire snapshot.lastSequence snapshot.lastMonotonicNs now entry.barrier

/-- Resolve the barriers of `entries`, one after the other. -/
def fireAll (table : PendingTable ρ) (sequence monotonicNs now : Int) (entries : List (Pending ρ)) :
    PendingTable ρ :=
  entries.foldl (fun table entry => table.fire sequence monotonicNs now entry.barrier) table

/-- The end of `_finalize_pause`: every pending barrier is resolved. -/
def resolveAll (table : PendingTable ρ) (sequence monotonicNs now : Int) : PendingTable ρ :=
  fireAll { table with pending := .empty } sequence monotonicNs now table.pending.values

@[simp] theorem fire_pending (table : PendingTable ρ) (sequence monotonicNs now : Int)
    (barrier : Barrier) : (table.fire sequence monotonicNs now barrier).pending = table.pending := by
  rw [fire]
  split <;> rfl

/-- What a barrier is resolved with, it stays resolved with. -/
theorem mem_fire_of_mem {table : PendingTable ρ} {r : BarrierResolution}
    (h : r ∈ table.resolutions) (sequence monotonicNs now : Int) (barrier : Barrier) :
    r ∈ (table.fire sequence monotonicNs now barrier).resolutions := by
  rw [fire]
  split
  · exact h
  · exact List.mem_append_left _ h

/-- A resolution is an old one, or that of a barrier that had none. -/
theorem mem_fire {table : PendingTable ρ} {sequence monotonicNs now : Int} {barrier : Barrier}
    {r : BarrierResolution} (h : r ∈ (table.fire sequence monotonicNs now barrier).resolutions) :
    r ∈ table.resolutions ∨
      (r.requestId = barrier.requestId ∧ r.atSequence = sequence ∧
        r.atMonotonicNs = monotonicNs) := by
  rw [fire] at h
  split at h
  · exact .inl h
  · refine (List.mem_append.mp h).imp id fun hnew => ?_
    rw [List.mem_singleton.mp hnew]
    exact ⟨rfl, rfl, rfl⟩

theorem resolved_fire_iff {table : PendingTable ρ} {sequence monotonicNs now : Int}
    {barrier : Barrier} {requestId : Nat} :
    (table.fire sequence monotonicNs now barrier).Resolved requestId ↔
      requestId = barrier.requestId ∨ table.Resolved requestId := by
  constructor
  · rintro ⟨r, hr, rfl⟩
    exact (mem_fire hr).elim (fun h => .inr ⟨r, h, rfl⟩) fun h => .inl h.1
  · rintro (rfl | ⟨r, hr, rfl⟩)
    · by_cases h : table.Resolved barrier.requestId
      · rwa [fire, if_pos h]
      · rw [fire, if_neg h]
        exact ⟨_, List.mem_append_right _ List.mem_cons_self, rfl⟩
    · exact ⟨r, mem_fire_of_mem hr .., rfl⟩

/-- No event is set twice. -/
theorem nodup_fire {table : PendingTable ρ}
    (h : (table.resolutions.map BarrierResolution.requestId).Nodup)
    (sequence monotonicNs now : Int) (barrier : Barrier) :
    ((table.fire sequence monotonicNs now barrier).resolutions.map
      BarrierResolution.requestId).Nodup := by
  rw [fire]
  split
  · exact h
  next hnew =>
    rw [List.map_append]
    refine h.append (List.nodup_singleton _) fun id hid hid' => hnew ?_
    obtain ⟨r, hr, rfl⟩ := List.mem_map.mp hid
    exact ⟨r, hr, List.mem_singleton.mp hid'⟩

section FireAll

variable {sequence monotonicNs now : Int}

theorem fireAll_cons (table : PendingTable ρ) (entry : Pending ρ) (entries : List (Pending ρ)) :
    table.fireAll sequence monotonicNs now (entry :: entries) =
      (table.fire sequence monotonicNs now entry.barrier).fireAll sequence monotonicNs now entries :=
  rfl

@[simp] theorem fireAll_pending (table : PendingTable ρ) (entries : List (Pending ρ)) :
    (table.fireAll sequence monotonicNs now entries).pending = table.pending := by
  induction entries generalizing table with
  | nil => rfl
  | cons entry entries ih => rw [fireAll_cons, ih, fire_pending]

theorem mem_fireAll {table : PendingTable ρ} {entries : List (Pending ρ)} {r : BarrierResolution}
    (h : r ∈ (table.fireAll sequence monotonicNs now entries).resolutions) :
    r ∈ table.resolutions ∨
      ((∃ entry ∈ entries, r.requestId = entry.barrier.requestId) ∧ r.atSequence = sequence ∧
        r.atMonotonicNs = monotonicNs) := by
  induction entries generalizing table with
  | nil => exact .inl h
  | cons entry entries ih =>
    rcases ih h with hmem | ⟨⟨entry', hentry', hid⟩, hat⟩
    · refine (mem_fire hmem).imp id fun hnew => ⟨⟨entry, List.mem_cons_self, hnew.1⟩, hnew.2⟩
    · exact .inr ⟨⟨entry', List.mem_cons_of_mem _ hentry', hid⟩, hat⟩

theorem resolved_fireAll_iff {table : PendingTable ρ} {entries : List (Pending ρ)}
    {requestId : Nat} :
    (table.fireAll sequence monotonicNs now entries).Resolved requestId ↔
      (∃ entry ∈ entries, requestId = entry.barrier.requestId) ∨ table.Resolved requestId := by
  induction entries generalizing table with
  | nil => simp [fireAll]
  | cons entry entries ih =>
    rw [fireAll_cons, ih, resolved_fire_iff, List.exists_mem_cons_iff, or_assoc, or_left_comm]

theorem nodup_fireAll {table : PendingTable ρ}
    (h : (table.resolutions.map BarrierResolution.requestId).Nodup) (entries : List (Pending ρ)) :
    ((table.fireAll sequence monotonicNs now entries).resolutions.map
      BarrierResolution.requestId).Nodup := by
  induction entries generalizing table with
  | nil => exact h
  | cons entry entries ih => exact ih (nodup_fire h ..)

end FireAll

end PendingTable

end AsyncViz.Replay.Control
