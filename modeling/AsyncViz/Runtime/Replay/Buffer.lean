/-
  AsyncViz.Runtime.Replay.Buffer

  `EventReplayBuffer` (`runtime/replay/buffer.py`) with its `CheckpointStore`
  (`checkpoints.py`), and the buffer bound to a state store as a transition
  system: a step is one `apply` or one `rebuild` of the store, whose changes the
  bound listener appends.

  `ReplayFrameModel` and `ReplayCheckpointModel` copy a frame and a checkpoint
  field by field, so a batch holds the frames and checkpoints themselves.
-/

import AsyncViz.Lib.Transition
import AsyncViz.Runtime.Replay.Retention
import AsyncViz.Runtime.State.Store

namespace AsyncViz.Runtime.Replay

open AsyncViz.Lib AsyncViz.Runtime.State

/-! ## Checkpoints -/

/-- `ReplayCheckpoint`. -/
structure ReplayCheckpoint where
  checkpointId : String
  sequence : Int
  monotonicNs : Int
  wallSeconds : ℚ
  runtimeId : String
  state : Option Json
  timeline : Option Json
  metrics : Option Json
  warnings : Option Json
  label : Option String

/-- `CheckpointStore`. -/
structure CheckpointStore where
  checkpoints : BoundedRing ReplayCheckpoint
  capacity_pos : 0 < checkpoints.capacity

namespace CheckpointStore

/-- `CheckpointStore(capacity)`. -/
def new (capacity : Nat) (h : 0 < capacity) : CheckpointStore := ⟨.empty capacity, h⟩

/-- `checkpoints.latest()`. -/
def latest (c : CheckpointStore) : Option ReplayCheckpoint := c.checkpoints.items.getLast?

/-- `checkpoints.find_for_replay(since_sequence)`: the scan stops at the first
    checkpoint above the sequence. -/
def findForReplay (c : CheckpointStore) (since : Int) : Option ReplayCheckpoint :=
  (c.checkpoints.items.takeWhile fun checkpoint => checkpoint.sequence ≤ since).getLast?

end CheckpointStore

/-! ## Batches -/

/-- `ReplayWindowModel`. -/
structure ReplayWindow where
  requestedSince : Int
  requestedEnd : Option Int
  hit : Bool
  oldestAvailableSequence : Option Int
  newestAvailableSequence : Option Int
  frames : List ReplayFrame

/-- `ReplayBatchModel`. -/
structure ReplayBatch where
  window : ReplayWindow
  checkpoint : Option ReplayCheckpoint

/-! ## The buffer -/

/-- `EventReplayBuffer`. -/
structure EventReplayBuffer where
  retention : FrameRetention
  checkpoints : CheckpointStore
  lastSequence : Int
  framesAppended : Nat
  replayRequests : Nat
  replayHits : Nat
  replayMisses : Nat

namespace EventReplayBuffer

/-- `EventReplayBuffer(capacity, checkpoint_capacity)`. -/
def new (capacity : Nat) (h : 0 < capacity) (checkpointCapacity : Nat)
    (h' : 0 < checkpointCapacity) : EventReplayBuffer :=
  { retention := .new capacity h
    checkpoints := .new checkpointCapacity h'
    lastSequence := 0
    framesAppended := 0
    replayRequests := 0
    replayHits := 0
    replayMisses := 0 }

/-- The buffer's frame limit. -/
def capacity (b : EventReplayBuffer) : Nat := b.retention.frames.capacity

/-- The retained frames, oldest first. -/
def frames (b : EventReplayBuffer) : List ReplayFrame := b.retention.items

/-- `buffer.append_event(event, sequence)`; `none` where `frame_from_event` raises,
    before anything is recorded. -/
def appendEvent (b : EventReplayBuffer) (event : RuntimeEvent) (sequence : Int) :
    Option EventReplayBuffer :=
  (frameFromEvent event sequence).map fun frame =>
    { b with
      retention := (b.retention.append frame).2
      lastSequence := if sequence > b.lastSequence then sequence else b.lastSequence
      framesAppended := b.framesAppended + 1 }

/-- The listener `buffer.bind(store)` subscribes: an un-sequenced change is skipped. -/
def observe (b : EventReplayBuffer) (change : StateChange) : EventReplayBuffer :=
  match change.sequence with
  | none => b
  -- the store's `_notify` logs what a listener raises and goes on
  | some sequence => (b.appendEvent change.event sequence).getD b

/-- `buffer.get_frame(sequence)`. -/
def getFrame (b : EventReplayBuffer) (sequence : Int) : Option ReplayFrame :=
  b.retention.get sequence

/-- `buffer.oldest_retained_sequence()`. -/
def oldestRetainedSequence (b : EventReplayBuffer) : Option Int := b.retention.oldestSequence

/-- `buffer.newest_retained_sequence()`. -/
def newestRetainedSequence (b : EventReplayBuffer) : Option Int := b.retention.newestSequence

/-- `buffer.covers(sequence)`. -/
def covers (b : EventReplayBuffer) (sequence : Int) : Bool := b.retention.covers sequence

/-- `buffer.replay_since(since_sequence, with_checkpoint)`. -/
def replaySince (b : EventReplayBuffer) (since : Int) (withCheckpoint : Bool) :
    ReplayBatch × EventReplayBuffer :=
  let b := { b with replayRequests := b.replayRequests + 1 }
  let oldest := b.retention.oldestSequence
  let newest := b.retention.newestSequence
  if b.retention.covers since then
    ({ window := ⟨since, none, true, oldest, newest, b.retention.since since⟩
       checkpoint := if withCheckpoint then b.checkpoints.findForReplay since else none },
      { b with replayHits := b.replayHits + 1 })
  else
    ({ window := ⟨since, none, false, oldest, newest, []⟩
       checkpoint := if withCheckpoint then b.checkpoints.latest else none },
      { b with replayMisses := b.replayMisses + 1 })

theorem replaySince_hit (b : EventReplayBuffer) (since : Int) (withCheckpoint : Bool) :
    (b.replaySince since withCheckpoint).1.window.hit = b.covers since := by
  rw [replaySince, covers]
  cases b.retention.covers since <;> rfl

theorem replaySince_frames {b : EventReplayBuffer} {since : Int} {withCheckpoint : Bool}
    (h : b.covers since = true) :
    (b.replaySince since withCheckpoint).1.window.frames =
      b.frames.filter fun f => since < f.sequence := by
  rw [covers] at h
  rw [replaySince]
  rw [if_pos h]
  rfl

end EventReplayBuffer

/-! ## The buffer bound to a store -/

/-- A state store with a bound replay buffer. -/
structure BoundStore where
  store : RuntimeStateStore
  buffer : EventReplayBuffer

/-- The frame of an announced change, when it carried a sequence and its event
    serializes. -/
def changeFrame (change : StateChange) : Option ReplayFrame :=
  change.sequence.bind (frameFromEvent change.event)

/-- So for an applied call. -/
def callFrame (call : ApplyCall) : Option ReplayFrame :=
  call.sequence.bind (frameFromEvent call.event)

namespace BoundStore

/-- The two ways events enter the store. -/
inductive Action where
  | apply (call : ApplyCall)
  | rebuild (events : List ApplyCall)

/-- One call on the store, with the changes it announces to the buffer. -/
def next (b : BoundStore) : Action → BoundStore
  | .apply call =>
    let (_, store, change) := b.store.apply call.now call.event call.sequence
    ⟨store, change.toList.foldl EventReplayBuffer.observe b.buffer⟩
  | .rebuild events =>
    let (_, store, changes) := b.store.rebuild events
    ⟨store, changes.foldl EventReplayBuffer.observe b.buffer⟩

/-- The calls as a transition system; every call is enabled everywhere. -/
def step (b : BoundStore) (a : Action) : Option BoundStore := some (b.next a)

/-- The frames that a call appends, read off its input and the policy and states
    before it. -/
def appends (b : BoundStore) : Action → List ReplayFrame
  | .apply call =>
    (RuntimeStateStore.admitted b.store.policy b.store.states [call]).filterMap callFrame
  | .rebuild events =>
    (RuntimeStateStore.admitted b.store.policy.resetForRebuild .initial events).filterMap callFrame

/-- Listening to one change appends its frame, if it has one. -/
theorem retention_observe (buffer : EventReplayBuffer) (change : StateChange) :
    (buffer.observe change).retention =
      buffer.retention.appendAll (changeFrame change).toList := by
  cases hseq : change.sequence with
  | none =>
    rw [EventReplayBuffer.observe, changeFrame, hseq]
    rfl
  | some n =>
    rw [EventReplayBuffer.observe, changeFrame, hseq]
    dsimp only
    rw [EventReplayBuffer.appendEvent, Option.bind_some]
    cases frameFromEvent change.event n <;> rfl

/-- Listening to a list of changes appends the frames of the sequenced ones that
    serialize. -/
theorem retention_foldl_observe (buffer : EventReplayBuffer) (changes : List StateChange) :
    (changes.foldl EventReplayBuffer.observe buffer).retention =
      buffer.retention.appendAll (changes.filterMap changeFrame) := by
  induction changes generalizing buffer with
  | nil => rfl
  | cons change changes ih =>
    rw [List.foldl_cons, ih, retention_observe]
    cases hframe : changeFrame change with
    | none =>
      rw [List.filterMap_cons_none hframe]
      rfl
    | some frame =>
      rw [List.filterMap_cons_some hframe, FrameRetention.appendAll_cons]
      rfl

/-- Changes that announce the calls of a list yield their frames. -/
theorem filterMap_frames_eq {changes : List StateChange} {calls : List ApplyCall}
    (h : changes.map (fun change => (change.event, change.sequence)) =
      calls.map (fun call => (call.event, call.sequence))) :
    changes.filterMap changeFrame = calls.filterMap callFrame := by
  have hmap := congrArg
    (List.filterMap fun p : RuntimeEvent × Option Int => p.2.bind (frameFromEvent p.1)) h
  rw [List.filterMap_map, List.filterMap_map] at hmap
  exact hmap

/-- What one call does to the retained frames. -/
theorem next_retention (b : BoundStore) (a : Action) :
    (b.next a).buffer.retention = b.buffer.retention.appendAll (b.appends a) := by
  cases a with
  | apply call =>
    obtain ⟨-, hchanges, -⟩ := RuntimeStateStore.applyAll_admitted b.store [call]
    have hone : (b.store.applyAll [call]).2.2 =
        (b.store.apply call.now call.event call.sequence).2.2.toList := List.append_nil _
    rw [hone] at hchanges
    have happends : b.appends (.apply call) = _ := (filterMap_frames_eq hchanges).symm
    rw [happends]
    exact retention_foldl_observe _ _
  | rebuild events =>
    obtain ⟨-, hchanges, -⟩ :=
      RuntimeStateStore.applyAll_admitted b.store.resetForRebuild events
    have happends : b.appends (.rebuild events) = _ := (filterMap_frames_eq hchanges).symm
    rw [happends]
    exact retention_foldl_observe _ _

theorem next_frames (b : BoundStore) (a : Action) :
    (b.next a).buffer.capacity = b.buffer.capacity ∧
      (b.next a).buffer.frames = (b.buffer.frames ++ b.appends a).rtake b.buffer.capacity := by
  rw [EventReplayBuffer.capacity, EventReplayBuffer.frames]
  rw [next_retention]
  exact FrameRetention.appendAll_frames _ _

theorem callFrame_eq_some {call : ApplyCall} {frame : ReplayFrame}
    (h : callFrame call = some frame) :
    call.sequence = some frame.sequence ∧ frame.eventId = call.event.eventId := by
  obtain ⟨n, hn, hframe⟩ := Option.bind_eq_some_iff.mp h
  obtain ⟨hsequence, hid⟩ := frameFromEvent_eq_some hframe
  rw [hn, hsequence]
  exact ⟨rfl, hid⟩

/-- The frames of calls carry the sequences of those that serialize. -/
theorem filterMap_callFrame_sequences (calls : List ApplyCall) :
    ((calls.filterMap callFrame).map ReplayFrame.sequence).Sublist
      (calls.filterMap ApplyCall.sequence) := by
  induction calls with
  | nil => exact List.Sublist.refl _
  | cons call calls ih =>
    cases hframe : callFrame call with
    | none =>
      rw [List.filterMap_cons_none hframe]
      cases hseq : call.sequence with
      | none =>
        rw [List.filterMap_cons_none hseq]
        exact ih
      | some n =>
        rw [List.filterMap_cons_some hseq]
        exact ih.cons n
    | some frame =>
      rw [List.filterMap_cons_some hframe, List.filterMap_cons_some (callFrame_eq_some hframe).1]
      exact ih.cons_cons frame.sequence

/-- The appended frames are in order; those of an `apply` lie above the store's
    mark, those of a `rebuild` above zero. -/
theorem appends_ordered (b : BoundStore) (a : Action) :
    Ordered (b.appends a) ∧ ∀ f ∈ b.appends a,
      (match a with
        | .apply _ => b.store.lastSequence
        | .rebuild _ => 0) < f.sequence := by
  -- both kinds of calls announce what a policy admits, one with a fresh mark
  have key : ∀ (p : ReconciliationPolicy) (σ : TaskStates) (calls : List ApplyCall),
      Ordered ((RuntimeStateStore.admitted p σ calls).filterMap callFrame) ∧
        ∀ f ∈ (RuntimeStateStore.admitted p σ calls).filterMap callFrame,
          p.lastSequence < f.sequence := by
    intro p σ calls
    obtain ⟨hpairs, habove⟩ := RuntimeStateStore.admitted_sequences p σ calls
    have hsub := filterMap_callFrame_sequences (RuntimeStateStore.admitted p σ calls)
    exact ⟨List.pairwise_map.mp (hpairs.sublist hsub),
      fun f hf => habove _ (hsub.subset (List.mem_map_of_mem hf))⟩
  cases a with
  | apply call => exact key _ _ _
  | rebuild events => exact key _ _ _

end BoundStore

end AsyncViz.Runtime.Replay
