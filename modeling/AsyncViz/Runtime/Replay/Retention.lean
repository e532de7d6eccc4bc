/-
  AsyncViz.Runtime.Replay.Retention

  `ReplayFrame` (`runtime/replay/frames.py`) and `FrameRetention`
  (`retention.py`): the bounded ring of frames and its sequence index.

  `covers` looks at the two ends of the ring only.  What it promises rests on the
  order of the frames, so the facts below are stated for ordered rings; the
  modules that append to a ring keep it ordered.
-/

import AsyncViz.Lib.BoundedRing
import AsyncViz.Lib.Dict
import AsyncViz.Runtime.Events

namespace AsyncViz.Runtime.Replay

open AsyncViz.Lib

/-- `ReplayFrame`. -/
structure ReplayFrame where
  sequence : Int
  eventId : String
  eventType : String
  monotonicNs : Int
  wallSeconds : ℚ
  runtimeId : String
  taskId : Option String
  parentTaskId : Option String
  payload : Json

/-- The frame of an event that serializes to `payload`. -/
def frameOf (event : RuntimeEvent) (sequence : Int) (payload : Json) : ReplayFrame :=
  { sequence := sequence
    eventId := event.eventId
    eventType := event.eventType
    monotonicNs := event.monotonicNs
    wallSeconds := event.timestamp
    runtimeId := event.runtimeId
    taskId := event.strField? "task_id"
    parentTaskId := event.strField? "parent_task_id"
    payload := payload }

/-- `frame_from_event`; `none` where `to_dict` raises. -/
def frameFromEvent (event : RuntimeEvent) (sequence : Int) : Option ReplayFrame :=
  event.toDict.map (frameOf event sequence)

/-- A frame carries the sequence it was made for, and the event's id. -/
theorem frameFromEvent_eq_some {event : RuntimeEvent} {sequence : Int} {frame : ReplayFrame}
    (h : frameFromEvent event sequence = some frame) :
    frame.sequence = sequence ∧ frame.eventId = event.eventId := by
  obtain ⟨payload, -, rfl⟩ := Option.map_eq_some_iff.mp h
  exact ⟨rfl, rfl⟩

/-- An event has a frame exactly when it serializes. -/
theorem frameFromEvent_isSome (event : RuntimeEvent) (sequence : Int) :
    (frameFromEvent event sequence).isSome = event.serializes := by
  rw [frameFromEvent, Option.isSome_map, RuntimeEvent.toDict_isSome]

theorem frameFromEvent_eq_none {event : RuntimeEvent} (h : event.serializes = false)
    (sequence : Int) : frameFromEvent event sequence = none := by
  rw [← Option.isNone_iff_eq_none, ← Option.isSome_eq_false_iff, frameFromEvent_isSome, h]

theorem frameFromEvent_of_serializes {event : RuntimeEvent} (h : event.serializes = true)
    (sequence : Int) :
    frameFromEvent event sequence = some (frameOf event sequence event.modelDump) := by
  rw [frameFromEvent, RuntimeEvent.toDict, if_pos h]
  rfl

/-- The frames are in strictly increasing sequence order. -/
def Ordered (frames : List ReplayFrame) : Prop :=
  frames.Pairwise fun f g => f.sequence < g.sequence

/-- In order, the first frame has the least sequence. -/
theorem Ordered.head_le {f g : ReplayFrame} {fs : List ReplayFrame} (h : Ordered (f :: fs))
    (hg : g ∈ f :: fs) : f.sequence ≤ g.sequence := by
  rcases List.mem_cons.mp hg with rfl | hmem
  · exact Int.le_refl _
  · exact Int.le_of_lt (List.rel_of_pairwise_cons h hmem)

/-- In order, the last frame has the greatest sequence. -/
theorem Ordered.le_last {f g : ReplayFrame} {fs : List ReplayFrame} (h : Ordered fs)
    (hlast : fs.getLast? = some f) (hg : g ∈ fs) : g.sequence ≤ f.sequence := by
  obtain ⟨init, rfl⟩ := List.getLast?_eq_some_iff.mp hlast
  rcases List.mem_append.mp hg with hmem | hmem
  · exact Int.le_of_lt ((List.pairwise_append.mp h).2.2 g hmem f (List.mem_singleton_self f))
  · exact Int.le_of_eq (congrArg ReplayFrame.sequence (List.mem_singleton.mp hmem))

/-- `DEFAULT_FRAME_LIMIT`. -/
def defaultFrameLimit : Nat := 4096

/-- `FrameRetention`. -/
structure FrameRetention where
  frames : BoundedRing ReplayFrame
  capacity_pos : 0 < frames.capacity
  index : Dict Int ReplayFrame
  evictedCount : Nat
  oldestEvictedSequence : Option Int

namespace FrameRetention

/-- `FrameRetention(capacity)`. -/
def new (capacity : Nat) (h : 0 < capacity) : FrameRetention :=
  { frames := .empty capacity
    capacity_pos := h
    index := .empty
    evictedCount := 0
    oldestEvictedSequence := none }

/-- The retained frames, oldest first. -/
def items (r : FrameRetention) : List ReplayFrame := r.frames.items

/-- The frame that the next append evicts. -/
def evictee (r : FrameRetention) : Option ReplayFrame :=
  if r.frames.Full then r.items.head? else none

/-- `retention.append(frame)`, with the evicted frame. -/
def append (r : FrameRetention) (frame : ReplayFrame) : Option ReplayFrame × FrameRetention :=
  match r.evictee with
  | none =>
    (none, { r with
      frames := r.frames.push frame
      index := r.index.set frame.sequence frame })
  | some evicted =>
    (some evicted, { r with
      frames := r.frames.push frame
      index := (r.index.pop evicted.sequence).set frame.sequence frame
      evictedCount := r.evictedCount + 1
      oldestEvictedSequence := some evicted.sequence })

/-- `retention.get(sequence)`. -/
def get (r : FrameRetention) (sequence : Int) : Option ReplayFrame := r.index.get? sequence

/-- `retention.oldest_sequence()`. -/
def oldestSequence (r : FrameRetention) : Option Int := r.items.head?.map ReplayFrame.sequence

/-- `retention.newest_sequence()`. -/
def newestSequence (r : FrameRetention) : Option Int := r.items.getLast?.map ReplayFrame.sequence

/-- `retention.since(sequence)`. -/
def since (r : FrameRetention) (sequence : Int) : List ReplayFrame :=
  r.items.filter fun f => sequence < f.sequence

/-- `retention.covers(sequence)`. -/
def covers (r : FrameRetention) (sequence : Int) : Bool :=
  if sequence ≤ 0 then true
  else
    match r.oldestSequence, r.newestSequence with
    | some oldest, some newest => oldest - 1 ≤ sequence ∧ sequence ≤ newest
    | _, _ => false

@[simp] theorem append_frames (r : FrameRetention) (frame : ReplayFrame) :
    (r.append frame).2.frames = r.frames.push frame := by
  cases h : r.evictee <;> simp [append, h]

@[simp] theorem append_items (r : FrameRetention) (frame : ReplayFrame) :
    (r.append frame).2.items = (r.items ++ [frame]).rtake r.frames.capacity := by
  show (r.append frame).2.frames.items = _
  rw [append_frames, BoundedRing.push_items]
  rfl

/-! ## The two ends of an ordered ring -/

/-- In order, the ends are the minimum and the maximum of the sequences. -/
theorem ends_of_ordered {r : FrameRetention} (h : Ordered r.items) :
    r.oldestSequence = (r.items.map ReplayFrame.sequence).min? ∧
      r.newestSequence = (r.items.map ReplayFrame.sequence).max? := by
  rw [oldestSequence, newestSequence]
  cases hitems : r.items with
  | nil => exact ⟨rfl, rfl⟩
  | cons f fs =>
    rw [hitems] at h
    obtain ⟨g, hg⟩ : ∃ g, (f :: fs).getLast? = some g :=
      ⟨_, List.getLast?_eq_some_getLast (List.cons_ne_nil f fs)⟩
    rw [hg]
    constructor
    · symm
      apply List.min?_eq_some_iff.mpr
      refine ⟨by simp, fun n hn => ?_⟩
      obtain ⟨x, hx, rfl⟩ := List.mem_map.mp hn
      exact h.head_le hx
    · symm
      apply List.max?_eq_some_iff.mpr
      refine ⟨List.mem_map_of_mem (List.mem_of_getLast? hg), fun n hn => ?_⟩
      obtain ⟨x, hx, rfl⟩ := List.mem_map.mp hn
      exact h.le_last hg hx

/-- A ring covers a positive sequence exactly when some frame is at most one above
    it and some frame is at least at it. -/
theorem covers_iff {r : FrameRetention} (h : Ordered r.items) {n : Int} (hn : 1 ≤ n) :
    r.covers n = true ↔
      (∃ f ∈ r.items, f.sequence ≤ n + 1) ∧ (∃ f ∈ r.items, n ≤ f.sequence) := by
  have hpos : ¬ n ≤ 0 := by omega
  rw [covers, oldestSequence, newestSequence]
  rw [if_neg hpos]
  cases hitems : r.items with
  | nil => simp
  | cons f fs =>
    rw [hitems] at h
    obtain ⟨g, hg⟩ : ∃ g, (f :: fs).getLast? = some g :=
      ⟨_, List.getLast?_eq_some_getLast (List.cons_ne_nil f fs)⟩
    rw [hg]
    simp only [List.head?_cons, Option.map_some, decide_eq_true_eq]
    constructor
    · rintro ⟨hlow, hhigh⟩
      exact ⟨⟨f, List.mem_cons_self, by omega⟩, ⟨g, List.mem_of_getLast? hg, hhigh⟩⟩
    · rintro ⟨⟨x, hx, hlow⟩, ⟨y, hy, hhigh⟩⟩
      have hfx := h.head_le hx
      have hyg := h.le_last hg hy
      exact ⟨by omega, by omega⟩

/-! ## The index -/

/-- `index` maps the sequence of each frame of `frames` to it, and nothing else. -/
def IndexOf (index : Dict Int ReplayFrame) (frames : List ReplayFrame) : Prop :=
  ∀ n f, index.get? n = some f ↔ f ∈ frames ∧ f.sequence = n

/-- The index of a ring is exact. -/
def Indexed (r : FrameRetention) : Prop := IndexOf r.index r.items

theorem indexed_new (capacity : Nat) (h : 0 < capacity) : Indexed (new capacity h) := by
  intro n f
  simp [new, items]

/-- Evicting the oldest frame of an ordered ring. -/
theorem indexOf_pop {index : Dict Int ReplayFrame} {oldest : ReplayFrame}
    {rest : List ReplayFrame} (h : IndexOf index (oldest :: rest))
    (hord : Ordered (oldest :: rest)) : IndexOf (index.pop oldest.sequence) rest := by
  intro n f
  rw [Dict.get?_pop]
  by_cases hgone : n = oldest.sequence
  · rw [if_pos hgone]
    constructor
    · intro hf
      cases hf
    · rintro ⟨hf, hseq⟩
      have hlt : oldest.sequence < f.sequence := List.rel_of_pairwise_cons hord hf
      omega
  · rw [if_neg hgone, h n f]
    constructor
    · rintro ⟨hf, hseq⟩
      rcases List.mem_cons.mp hf with rfl | hrest
      · exact absurd hseq.symm hgone
      · exact ⟨hrest, hseq⟩
    · rintro ⟨hf, hseq⟩
      exact ⟨List.mem_cons_of_mem oldest hf, hseq⟩

/-- Adding a frame above all others. -/
theorem indexOf_set {index : Dict Int ReplayFrame} {frames : List ReplayFrame}
    {frame : ReplayFrame} (h : IndexOf index frames)
    (habove : ∀ f ∈ frames, f.sequence < frame.sequence) :
    IndexOf (index.set frame.sequence frame) (frames ++ [frame]) := by
  intro n f
  rw [Dict.get?_set, List.mem_append, List.mem_singleton]
  by_cases hnew : n = frame.sequence
  · rw [if_pos hnew]
    constructor
    · intro hf
      rw [← Option.some.inj hf]
      exact ⟨.inr rfl, hnew.symm⟩
    · rintro ⟨hold | hlast, hseq⟩
      · have hlt := habove f hold
        omega
      · rw [hlast]
  · rw [if_neg hnew, h n f]
    constructor
    · rintro ⟨hold, hseq⟩
      exact ⟨.inl hold, hseq⟩
    · rintro ⟨hold | hlast, hseq⟩
      · exact ⟨hold, hseq⟩
      · rw [hlast] at hseq
        exact absurd hseq.symm hnew

/-! ## Appending above the ring -/

/-- An append above every retained sequence keeps the index exact: the evicted
    sequence leaves both the ring and the index, the new one enters both. -/
theorem indexed_append {r : FrameRetention} {frame : ReplayFrame} (hindex : r.Indexed)
    (hord : Ordered r.items) (habove : ∀ f ∈ r.items, f.sequence < frame.sequence) :
    (r.append frame).2.Indexed := by
  have hitems : (r.append frame).2.items = (r.frames.push frame).items := by
    show (r.append frame).2.frames.items = _
    rw [append_frames]
  rw [Indexed] at hindex ⊢
  rw [hitems]
  by_cases hfull : r.frames.Full
  · rw [BoundedRing.push_items_of_full frame hfull r.capacity_pos]
    change IndexOf _ (r.items.tail ++ [frame])
    cases hcons : r.items with
    | nil =>
      -- a full ring has a frame to evict
      have hlen : r.items.length = r.frames.capacity := hfull
      have hpos := r.capacity_pos
      rw [hcons, List.length_nil] at hlen
      omega
    | cons oldest rest =>
      have hevictee : r.evictee = some oldest := by
        rw [evictee]
        rw [if_pos hfull, hcons]
        rfl
      -- the oldest sequence leaves the index before the new one enters
      have hnew : (r.append frame).2.index =
          (r.index.pop oldest.sequence).set frame.sequence frame := by
        simp [append, hevictee]
      rw [hcons] at hindex hord habove
      rw [hnew]
      exact indexOf_set (indexOf_pop hindex hord)
        fun f hf => habove f (List.mem_cons_of_mem oldest hf)
  · have hevictee : r.evictee = none := if_neg hfull
    have hnew : (r.append frame).2.index = r.index.set frame.sequence frame := by
      simp [append, hevictee]
    rw [BoundedRing.push_items_of_not_full frame hfull, hnew]
    exact indexOf_set hindex habove

/-! ## Runs of appends -/

/-- Append frames one after the other. -/
def appendAll (r : FrameRetention) (fs : List ReplayFrame) : FrameRetention :=
  fs.foldl (fun r frame => (r.append frame).2) r

theorem appendAll_cons (r : FrameRetention) (frame : ReplayFrame) (fs : List ReplayFrame) :
    r.appendAll (frame :: fs) = (r.append frame).2.appendAll fs := rfl

/-- The ring is the last frames of all it was given. -/
theorem appendAll_frames (r : FrameRetention) (fs : List ReplayFrame) :
    (r.appendAll fs).frames.capacity = r.frames.capacity ∧
      (r.appendAll fs).items = (r.items ++ fs).rtake r.frames.capacity := by
  have hring : (r.appendAll fs).frames = fs.foldl BoundedRing.push r.frames := by
    -- the index plays no part in what the ring holds
    induction fs generalizing r with
    | nil => rfl
    | cons frame fs ih =>
      rw [appendAll_cons, ih, append_frames]
      rfl
  refine ⟨by rw [hring, BoundedRing.foldl_push_capacity], ?_⟩
  unfold items
  rw [hring, BoundedRing.items_foldl_push]

/-- Every frame that was given is retained or counted as evicted. -/
theorem append_evictedCount (r : FrameRetention) (frame : ReplayFrame) :
    (r.append frame).2.evictedCount + (r.append frame).2.items.length
      = r.evictedCount + r.items.length + 1 := by
  have hitems : (r.append frame).2.items = (r.frames.push frame).items := by
    show (r.append frame).2.frames.items = _
    rw [append_frames]
  rw [hitems]
  by_cases hfull : r.frames.Full
  · have hlen : r.items.length = r.frames.capacity := hfull
    have hpos := r.capacity_pos
    rw [BoundedRing.push_items_of_full frame hfull r.capacity_pos]
    change _ + (r.items.tail ++ [frame]).length = _
    cases hcons : r.items with
    | nil => rw [hcons, List.length_nil] at hlen; omega
    | cons oldest rest =>
      have hevictee : r.evictee = some oldest := by
        rw [evictee, if_pos hfull, hcons]
        rfl
      simp only [append, hevictee, List.tail_cons, List.length_append, List.length_nil,
        List.length_cons]
      omega
  · have hevictee : r.evictee = none := if_neg hfull
    rw [BoundedRing.push_items_of_not_full frame hfull]
    simp only [append, hevictee, List.length_append, List.length_singleton]
    exact (Nat.add_assoc _ _ _).symm

theorem appendAll_evictedCount (r : FrameRetention) (fs : List ReplayFrame) :
    (r.appendAll fs).evictedCount + (r.appendAll fs).items.length
      = r.evictedCount + r.items.length + fs.length := by
  induction fs generalizing r with
  | nil => rfl
  | cons frame fs ih =>
    rw [appendAll_cons, ih, append_evictedCount, List.length_cons]
    omega

/-- A ring that has evicted nothing holds all it was given. -/
theorem appendAll_items_of_kept {r : FrameRetention} {fs : List ReplayFrame}
    (hkept : (r.appendAll fs).evictedCount = 0) : (r.appendAll fs).items = r.items ++ fs := by
  obtain ⟨_, hitems⟩ := appendAll_frames r fs
  have hcount := appendAll_evictedCount r fs
  have hsuffix : (r.appendAll fs).items <:+ r.items ++ fs := by
    rw [hitems]
    exact BoundedRing.rtake_suffix _ _
  refine hsuffix.eq_of_length ?_
  have hle := hsuffix.length_le
  rw [List.length_append] at hle ⊢
  omega

/-- Frames in order above an ordered ring keep its index exact. -/
theorem indexed_appendAll {r : FrameRetention} {fs : List ReplayFrame} (hindex : r.Indexed)
    (hord : Ordered (r.items ++ fs)) : (r.appendAll fs).Indexed := by
  induction fs generalizing r with
  | nil => exact hindex
  | cons frame fs ih =>
    obtain ⟨hitems, -, hcross⟩ := List.pairwise_append.mp hord
    have habove : ∀ f ∈ r.items, f.sequence < frame.sequence :=
      fun f hf => hcross f hf frame List.mem_cons_self
    apply ih (indexed_append hindex hitems habove)
    rw [append_items]
    apply List.Pairwise.sublist _ hord
    have hsub : ((r.items ++ [frame]).rtake r.frames.capacity).Sublist (r.items ++ [frame]) :=
      (BoundedRing.rtake_suffix _ _).sublist
    simpa using hsub.append_right fs

end FrameRetention

end AsyncViz.Runtime.Replay
