/-
  AsyncViz.Dashboard.Handshake

  The replay-aware handshake (`dashboard/websocket/handshake.py`) and what a
  reconnecting client gets from it.

  The bridge broadcasts every dispatched event, the replay buffer retains only the
  ones the store applied.  A client whose cursor is a broadcast event that the
  store refused can therefore be ahead of the newest retained frame, which
  `covers` treats as a miss.  `reconnect_continuity_iff` says exactly when the
  handshake continues the stream.
-/

import AsyncViz.Dashboard.Ordering
import AsyncViz.Dashboard.Snapshot
import AsyncViz.Frontend.Sequencing

namespace AsyncViz.Dashboard

open AsyncViz.Lib AsyncViz.Lib.Transition AsyncViz.Runtime AsyncViz.Runtime.Queue
open AsyncViz.Runtime.State AsyncViz.Runtime.Replay AsyncViz.Frontend

/-! ## The decision -/

/-- `HandshakeMode`. -/
inductive HandshakeMode where
  | liveOnly
  | replay
  | snapshotFallback
deriving DecidableEq, Repr

/-- `HandshakeDecision`. -/
structure HandshakeDecision where
  mode : HandshakeMode
  requestedSince : Int
  lastSequenceSent : Int
  replay : Option ReplayBatch
  needsSnapshot : Bool

/-- `evaluate_handshake`, with the buffer after its query. -/
def evaluateHandshake (buffer : Option EventReplayBuffer) (sinceSequence : Int)
    (bridgeCurrentSequence : Int) : HandshakeDecision × Option EventReplayBuffer :=
  if sinceSequence ≤ 0 then
    -- a first connection: nothing to replay, the client takes a snapshot
    (⟨.liveOnly, sinceSequence, bridgeCurrentSequence, none, true⟩, buffer)
  else
    match buffer with
    | none => (⟨.snapshotFallback, sinceSequence, bridgeCurrentSequence, none, true⟩, none)
    | some buffer =>
      let (batch, buffer) := buffer.replaySince sinceSequence true
      if batch.window.hit then
        let lastInBatch :=
          (batch.window.frames.getLast?.map ReplayFrame.sequence).getD sinceSequence
        (⟨.replay, sinceSequence, lastInBatch, some batch, false⟩, some buffer)
      else
        (⟨.snapshotFallback, sinceSequence, bridgeCurrentSequence, some batch, true⟩, some buffer)

/-- The frames `_stream_replay` sends: those of the batch, on a replay. -/
def HandshakeDecision.streamed (d : HandshakeDecision) : List ReplayFrame :=
  match d.mode, d.replay with
  | .replay, some batch => batch.window.frames
  | _, _ => []

/-- A wired buffer answers a positive cursor by a replay exactly when it covers it. -/
theorem evaluateHandshake_mode {buffer : EventReplayBuffer} {n current : Int} (hn : 1 ≤ n) :
    (evaluateHandshake (some buffer) n current).1.mode = .replay ↔ buffer.covers n = true := by
  have hpos : ¬ n ≤ 0 := by omega
  have hhit := EventReplayBuffer.replaySince_hit buffer n true
  rw [evaluateHandshake]
  rw [if_neg hpos]
  dsimp only
  rw [hhit]
  cases hcovers : buffer.covers n with
  | true => exact iff_of_true rfl rfl
  | false =>
    constructor
    · intro hmode
      cases hmode
    · intro habsurd
      cases habsurd

/-- What a covered cursor is sent: the retained frames above it. -/
theorem evaluateHandshake_streamed {buffer : EventReplayBuffer} {n current : Int} (hn : 1 ≤ n)
    (hcovers : buffer.covers n = true) :
    (evaluateHandshake (some buffer) n current).1.streamed =
      buffer.frames.filter fun f => n < f.sequence := by
  have hpos : ¬ n ≤ 0 := by omega
  have hhit := EventReplayBuffer.replaySince_hit buffer n true
  rw [hcovers] at hhit
  rw [evaluateHandshake]
  rw [if_neg hpos]
  dsimp only
  rw [hhit, if_pos rfl]
  exact EventReplayBuffer.replaySince_frames hcovers

namespace Pipeline

/-- The handshake of a client with the cursor `since`, as the gateway evaluates it. -/
def handshake (s : Pipeline) (since : Int) : HandshakeDecision :=
  (evaluateHandshake (some s.bound.buffer) since s.transport.clock.currentSequence).1

/-- The applied items that serialize, of which the log was given a frame. -/
def logged (s : Pipeline) : List QueuedEvent := s.applied.filter fun item => item.event.serializes

/-- The frame of an item that serializes. -/
def loggedFrame (item : QueuedEvent) : ReplayFrame :=
  frameOf item.event item.sequence item.event.modelDump

/-- The `runtime_event` envelopes a client that resumed in `s` has been sent by `s'`:
    the streamed frames, and the live broadcasts since. -/
def resumed (s : Pipeline) (since : Int) (s' : Pipeline) : List ReplayFrame :=
  (s.handshake since).streamed ++ (s'.wire.drop s.wire.length).map loggedFrame

/-- The stream continues: the handshake replays, and in every later state the client
    has been sent each applied event above its cursor that serializes exactly once. -/
structure Continuous (s : Pipeline) (since : Int) : Prop where
  mode_eq : (s.handshake since).mode = .replay
  once : ∀ s', Reachable step s s' → ∀ item ∈ s'.logged, since < item.sequence →
    ((resumed s since s').filter fun f => f.sequence = item.sequence) = [loggedFrame item]

/-! ## The window and the logged events -/

/-- The items that have a frame are those that serialize. -/
theorem filterMap_itemFrame (items : List QueuedEvent) :
    items.filterMap itemFrame =
      (items.filter fun item => item.event.serializes).map loggedFrame := by
  induction items with
  | nil => rfl
  | cons item items ih =>
    cases hserializes : item.event.serializes with
    | false =>
      have hnone : itemFrame item = none := frameFromEvent_eq_none hserializes item.sequence
      rw [List.filterMap_cons_none hnone, List.filter_cons_of_neg (by simp [hserializes]), ih]
    | true =>
      have hsome : itemFrame item = some (loggedFrame item) :=
        frameFromEvent_of_serializes hserializes item.sequence
      rw [List.filterMap_cons_some hsome, List.filter_cons_of_pos (by exact hserializes),
        List.map_cons, ih]

/-- The log was given the frames of the logged items. -/
theorem logInv_logged {s : Pipeline} (hinv : Inv s) :
    BoundStore.LogInv s.bound (s.logged.map loggedFrame) := by
  rw [logged, ← filterMap_itemFrame]
  exact hinv.log

/-- What the buffer retains, in terms of the items logged. -/
theorem frames_eq {s : Pipeline} (hinv : Inv s) :
    s.bound.buffer.frames = (s.logged.rtake s.bound.buffer.capacity).map loggedFrame := by
  rw [(logInv_logged hinv).frames_eq, List.rtake, List.rtake, List.length_map, List.map_drop]

/-- A later state logs what it applies of the items forwarded since. -/
theorem exec_logged {s s' : Pipeline} {acts : List Action} (h : exec step s acts = some s') :
    ∃ wire logged, s'.wire = s.wire ++ wire ∧ s'.logged = s.logged ++ logged ∧
      logged.Sublist wire := by
  obtain ⟨forwarded, applied, hforwarded, happlied, hsub, -⟩ := exec_extends h
  refine ⟨forwarded.filter fun item => item.event.serializes,
    applied.filter fun item => item.event.serializes, ?_, ?_, hsub.filter _⟩
  · rw [wire, hforwarded, List.filter_append]
    rfl
  · rw [logged, happlied, List.filter_append]
    rfl

/-- A step leaves the size of the buffer alone. -/
theorem reachable_capacity {s s' : Pipeline} (h : Reachable step s s') :
    s'.bound.buffer.capacity = s.bound.buffer.capacity := by
  refine h.invariant (I := fun t => t.bound.buffer.capacity = s.bound.buffer.capacity) ?_ rfl
  intro t a t' hsame hstep
  cases stepped_of_step hstep with
  | transport guard moved => exact hsame
  | @deliver now item busy pending =>
    have hcapacity := (BoundStore.next_frames t.bound (.apply (applyQueued item now))).1
    exact hcapacity.trans hsame

/-- The buffer covers a cursor exactly when the store logged an event at or above
    it, and one of the events that fit the ring lies at most one above it. -/
theorem covers_iff_logged {s : Pipeline} (hinv : Inv s) {n : Int} (hn : 1 ≤ n) :
    s.bound.buffer.covers n = true ↔
      (∃ x ∈ s.logged, n ≤ x.sequence) ∧
      (∃ x ∈ s.logged.rtake s.bound.buffer.capacity, x.sequence ≤ n + 1) := by
  have hcovers := FrameRetention.covers_iff (logInv_logged hinv).frames_ordered hn
  have hframes : s.bound.buffer.retention.items =
      (s.logged.rtake s.bound.buffer.capacity).map loggedFrame := frames_eq hinv
  rw [hframes] at hcovers
  have hsuffix := BoundedRing.rtake_suffix s.bound.buffer.capacity s.logged
  refine hcovers.trans ⟨?_, ?_⟩
  · rintro ⟨⟨f, hf, hlow⟩, ⟨g, hg, hhigh⟩⟩
    obtain ⟨x, hx, rfl⟩ := List.mem_map.mp hf
    obtain ⟨y, hy, rfl⟩ := List.mem_map.mp hg
    exact ⟨⟨y, hsuffix.subset hy, hhigh⟩, ⟨x, hx, hlow⟩⟩
  · rintro ⟨⟨x, hx, hhigh⟩, ⟨y, hy, hlow⟩⟩
    refine ⟨⟨loggedFrame y, List.mem_map_of_mem hy, hlow⟩, ?_⟩
    -- the last logged event is retained, and it is the newest
    obtain ⟨init, last, hsplit⟩ : ∃ init last, s.logged = init ++ [last] :=
      ⟨_, _, (List.dropLast_append_getLast (List.ne_nil_of_mem hx)).symm⟩
    have hpos := s.bound.buffer.retention.capacity_pos
    have hlast : [last] <:+ s.logged.rtake s.bound.buffer.capacity := by
      refine BoundedRing.suffix_rtake ⟨init, hsplit.symm⟩ ?_
      exact hpos
    have hnewest : x.sequence ≤ last.sequence := by
      have hend : (s.logged.map loggedFrame).getLast? = some (loggedFrame last) := by
        rw [hsplit, List.map_append, List.map_singleton, List.getLast?_concat]
      exact (logInv_logged hinv).ordered.le_last hend (List.mem_map_of_mem hx)
    refine ⟨loggedFrame last, List.mem_map_of_mem (hlast.subset (List.mem_singleton_self last)), ?_⟩
    show n ≤ last.sequence
    omega

/-! ## Exactly once -/

/-- Among items of different sequences, one has a given item's sequence. -/
theorem filter_sequence_eq {items : List QueuedEvent}
    (hnodup : (items.map QueuedEvent.sequence).Nodup) {item : QueuedEvent} (h : item ∈ items) :
    (items.filter fun x => x.sequence = item.sequence) = [item] := by
  induction items with
  | nil => cases h
  | cons x items ih =>
    rw [List.map_cons, List.nodup_cons] at hnodup
    obtain ⟨hx, hrest⟩ := hnodup
    -- the list holds the sequence once: here or further down
    rcases List.mem_cons.mp h with rfl | hmem
    · have hnone : (items.filter fun y => y.sequence = item.sequence) = [] := by
        apply List.filter_eq_nil_iff.mpr
        intro y hy hsame
        rw [← of_decide_eq_true hsame] at hx
        exact hx (List.mem_map_of_mem hy)
      rw [List.filter_cons_of_pos (by simp), hnone]
    · have hne : x.sequence ≠ item.sequence := by
        intro hsame
        rw [hsame] at hx
        exact hx (List.mem_map_of_mem hmem)
      rw [List.filter_cons_of_neg (by simp [hne])]
      exact ih hrest hmem

theorem wire_sublist_dispatched {s : Pipeline} (hinv : Inv s) :
    s.wire.Sublist s.transport.dispatched :=
  List.filter_sublist.trans (forwarded_sublist_dispatched hinv)

theorem wire_nodup {s : Pipeline} (hinv : Inv s) : (s.wire.map QueuedEvent.sequence).Nodup := by
  apply List.Nodup.sublist _ (Transport.path_nodup hinv.transport)
  apply List.Sublist.map
  rw [Transport.path]
  rw [List.append_assoc, List.append_assoc]
  exact (wire_sublist_dispatched hinv).trans (List.sublist_append_left _ _)

/-- What was logged was broadcast. -/
theorem logged_sublist_wire {s : Pipeline} (hinv : Inv s) : s.logged.Sublist s.wire :=
  hinv.applied_sublist.filter _

/-- A covered cursor continues the stream. -/
theorem continuous_of_covers {s : Pipeline} (hinv : Inv s) {n : Int} (hn : 1 ≤ n)
    (hcovers : s.bound.buffer.covers n = true) : Continuous s n := by
  refine ⟨(evaluateHandshake_mode hn).mpr hcovers, ?_⟩
  rintro s' ⟨acts, hacts⟩ item hitem habove
  obtain ⟨wire, new, hwire, hlogged, hsub⟩ := exec_logged hacts
  have hnodup := wire_nodup (exec_inv hinv hacts)
  rw [hwire] at hnodup
  -- the client has been sent the frames of these items
  have hsent : resumed s n s' =
      ((s.logged.filter fun x => n < x.sequence) ++ wire).map loggedFrame := by
    rw [resumed, handshake]
    rw [evaluateHandshake_streamed hn hcovers, (logInv_logged hinv).filter_of_covers hn hcovers,
      hwire, List.drop_left, List.map_append, List.filter_map]
    rfl
  have honce : (((s.logged.filter fun x => n < x.sequence) ++ wire).map
      QueuedEvent.sequence).Nodup := by
    refine List.Nodup.sublist (List.Sublist.map _ ?_) hnodup
    exact ((List.filter_sublist).trans (logged_sublist_wire hinv)).append_right wire
  have hmem : item ∈ (s.logged.filter fun x => n < x.sequence) ++ wire := by
    rw [hlogged] at hitem
    rcases List.mem_append.mp hitem with hold | hnew
    · exact List.mem_append_left _ (List.mem_filter.mpr ⟨hold, decide_eq_true habove⟩)
    · exact List.mem_append_right _ (hsub.subset hnew)
  have hone := filter_sequence_eq honce hmem
  rw [hsent, List.filter_map]
  exact congrArg (List.map loggedFrame) hone

/-- **Reconnect.**  For every cursor, in every reachable state: the stream continues
    exactly when the store logged an event at or above the cursor, and one of the
    events that fit the ring lies at most one above it. -/
theorem continuous_iff {s : Pipeline} (hinv : Inv s) {n : Int} (hn : 1 ≤ n) :
    Continuous s n ↔
      (∃ x ∈ s.logged, n ≤ x.sequence) ∧
      (∃ x ∈ s.logged.rtake s.bound.buffer.capacity, x.sequence ≤ n + 1) := by
  rw [← covers_iff_logged hinv hn]
  exact ⟨fun h => (evaluateHandshake_mode hn).mp h.mode_eq, continuous_of_covers hinv hn⟩

/-- With fewer than a ring of frames appended since nothing lay above the cursor,
    the ring has lost nothing that the window needs. -/
theorem exists_rtake_le_iff {old new : List QueuedEvent} {n : Int} {capacity : Nat}
    (hold : ∀ x ∈ old, x.sequence ≤ n) (hfew : new.length < capacity) :
    (∃ x ∈ (old ++ new).rtake capacity, x.sequence ≤ n + 1) ↔
      ∃ x ∈ old ++ new, x.sequence ≤ n + 1 := by
  have hsuffix := BoundedRing.rtake_suffix capacity (old ++ new)
  constructor
  · rintro ⟨x, hx, hle⟩
    exact ⟨x, hsuffix.subset hx, hle⟩
  · rintro ⟨x, hx, hle⟩
    rcases List.eq_nil_or_concat old with rfl | ⟨init, last, rfl⟩
    -- nothing was applied before, so the ring still holds everything
    · rw [BoundedRing.rtake_of_length_le (by simpa using Nat.le_of_lt hfew)]
      exact ⟨x, hx, hle⟩
    · have hend : last :: new <:+ (init.concat last ++ new).rtake capacity := by
        apply BoundedRing.suffix_rtake
        · exact ⟨init, by simp⟩
        · rw [List.length_cons]
          omega
      have hlast := hold last (by simp)
      exact ⟨last, hend.subset List.mem_cons_self, by omega⟩

/-- **Reconnect.**  A client's last accepted `runtime_event` has the sequence `n`, on
    the wire by `p`, where the store has logged nothing above it; fewer frames than
    the ring holds are appended until the client reconnects in `q`.  The stream
    continues exactly when the store has by then logged an event at or above `n`,
    and one at most one above it. -/
theorem reconnect_continuity_iff (clock : RuntimeClock) (capacity : Nat) (hcap : 0 < capacity)
    (retention : Nat) (overflow : OverflowStrategy) (frames checkpoints : Nat) (hf : 0 < frames)
    (hc : 0 < checkpoints) (p q : Pipeline) (n : Int)
    (hp : Reachable step (fresh clock hcap retention overflow hf hc) p)
    (hsent : ∃ item ∈ p.wire, item.sequence = n) (hcursor : ∀ x ∈ p.logged, x.sequence ≤ n)
    (hq : Reachable step p q) (hfew : q.logged.length < p.logged.length + frames) :
    Continuous q n ↔
      (∃ x ∈ q.logged, n ≤ x.sequence) ∧ (∃ x ∈ q.logged, x.sequence ≤ n + 1) := by
  have hinv := reachable_inv hp
  -- what was on the wire was stamped by a clock that starts at zero
  have hn : 1 ≤ n := by
    obtain ⟨item, hitem, rfl⟩ := hsent
    obtain ⟨acts, hacts⟩ := hp
    have hstart := inv_start clock hcap retention overflow hf hc
    have hmem : item ∈ p.transport.stamped := by
      apply Transport.mem_stamped_of_mem_path hinv.transport
      rw [Transport.path]
      simp [(wire_sublist_dispatched hinv).subset hitem]
    have hpos := sequence_pos hstart.transport (exec_transport hacts) hmem
    omega
  have hcapacity : q.bound.buffer.capacity = frames :=
    (reachable_capacity hq).trans (reachable_capacity hp)
  obtain ⟨acts, hacts⟩ := hq
  obtain ⟨wire, new, -, hlogged, -⟩ := exec_logged hacts
  rw [hlogged, List.length_append] at hfew
  rw [continuous_iff (exec_inv hinv hacts) hn, hcapacity, hlogged,
    exists_rtake_le_iff hcursor (by omega)]

/-- The creation of the task `t1`. -/
private def sampleBirth : RuntimeEvent :=
  { eventId := "a", body := .taskCreated { taskId := "t1" } }

/-- The start of a task. -/
private def sampleLaunch (taskId : String) : RuntimeEvent :=
  { eventId := "b", body := .taskStarted { taskId := taskId } }

/-- A small runtime. -/
private abbrev quietRuntime : Pipeline := small

/-- A client that saw the creation of a task reconnects after the task's start. -/
theorem reconnect_continuity_replayed :
    ∃ p q, exec step quietRuntime
        [.transport (.publish sampleBirth), .transport .take, .deliver 0] = some p ∧
      exec step p [.transport .finish, .transport (.publish (sampleLaunch "t1")), .transport .take,
        .deliver 0] = some q ∧ Continuous q 1 := by
  obtain ⟨p, hp⟩ : ∃ p, exec step quietRuntime
      [.transport (.publish sampleBirth), .transport .take, .deliver 0] = some p := ⟨_, rfl⟩
  obtain ⟨q, hq⟩ : ∃ q, exec step p [.transport .finish,
      .transport (.publish (sampleLaunch "t1")), .transport .take, .deliver 0] = some q := by
    obtain rfl := Option.some.inj hp
    exact ⟨_, rfl⟩
  have hwire : p.wire = [⟨1, sampleBirth⟩] ∧ p.logged = [⟨1, sampleBirth⟩] := by
    have hboth : p.forwarded = [⟨1, sampleBirth⟩] ∧ p.applied = [⟨1, sampleBirth⟩] := by
      obtain rfl := Option.some.inj hp
      exact ⟨rfl, rfl⟩
    rw [wire, logged, hboth.1, hboth.2]
    exact ⟨rfl, rfl⟩
  have hlogged : q.logged = [⟨1, sampleBirth⟩, ⟨2, sampleLaunch "t1"⟩] := by
    have happlied : q.applied = [⟨1, sampleBirth⟩, ⟨2, sampleLaunch "t1"⟩] := by
      obtain rfl := Option.some.inj hp
      obtain rfl := Option.some.inj hq
      rfl
    rw [logged, happlied]
    rfl
  refine ⟨p, q, hp, hq, (reconnect_continuity_iff (.start "r") 8 (by decide) 8 .dropOldest 8 2
    (by decide) (by decide) p q 1 ⟨_, hp⟩ ?_ ?_ ⟨_, hq⟩ ?_).mpr ?_⟩
  · rw [hwire.1]
    exact ⟨_, List.mem_singleton_self _, rfl⟩
  · rw [hwire.2]
    intro x hx
    rw [List.mem_singleton.mp hx]
  · rw [hwire.2, hlogged]
    decide
  · rw [hlogged]
    exact ⟨⟨⟨1, sampleBirth⟩, by simp, by decide⟩, ⟨⟨1, sampleBirth⟩, by simp, by decide⟩⟩

/-- A task is created under sequence 1, and the start of a task nobody created is
    broadcast under sequence 2, which the store refuses.  A client that accepted both
    reconnects at once: its cursor 2 is answered with a snapshot. -/
theorem refused_tail_misses :
    ∃ s, exec step quietRuntime
        [.transport (.publish sampleBirth), .transport .take, .deliver 0, .transport .finish,
          .transport (.publish (sampleLaunch "t2")), .transport .take, .deliver 0] = some s ∧
      s.wire.map QueuedEvent.sequence = [1, 2] ∧
      (({} : SequenceTracker).receiveAll [some 1, some 2]).1 = [.accept, .accept] ∧
      (s.handshake 2).mode = .snapshotFallback ∧ ¬ Continuous s 2 := by
  obtain ⟨s, hs⟩ : ∃ s, exec step quietRuntime
      [.transport (.publish sampleBirth), .transport .take, .deliver 0, .transport .finish,
        .transport (.publish (sampleLaunch "t2")), .transport .take, .deliver 0] = some s :=
    ⟨_, rfl⟩
  have hstate : s.wire.map QueuedEvent.sequence = [1, 2] ∧
      (s.handshake 2).mode = .snapshotFallback := by
    have hforwarded : s.forwarded = [⟨1, sampleBirth⟩, ⟨2, sampleLaunch "t2"⟩] := by
      obtain rfl := Option.some.inj hs
      rfl
    constructor
    · rw [wire, hforwarded]
      rfl
    · obtain rfl := Option.some.inj hs
      decide +kernel
  refine ⟨s, hs, hstate.1, by decide, hstate.2, fun hcontinuous => ?_⟩
  have hmode := hcontinuous.mode_eq
  rw [hstate.2] at hmode
  cases hmode

end Pipeline

end AsyncViz.Dashboard
