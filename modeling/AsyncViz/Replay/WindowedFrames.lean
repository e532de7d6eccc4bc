/-
  AsyncViz.Replay.WindowedFrames

  `ReplayEventLoader.iter_frames` with a window and a filter, and its resumption from the
  loader's cursor (`replay/loading/replay_stream.py`, `replay_windowing.py`,
  `replay_loader.py`).

  The stream ends at the first frame above the window, by sequence or by time.  Sequences
  increase, so the first loses nothing; timestamps need not, and a late frame cuts off what
  comes after it (`CutsNothing`).  A cursor from which a frame was read resumes right
  behind that frame.  The cursor of a loader that has not read any stands where it stood
  before, at sequence `0` in a new one, and resuming there skips the frames up to it.
-/

import AsyncViz.Replay.Loader
import Mathlib.Data.List.Induction
import Mathlib.Data.List.TakeWhile

namespace AsyncViz.Replay

open AsyncViz.Lib.SortedLog

namespace ReplayWindow

variable (window : ReplayWindow)

/-- `window.contains(frame)`. -/
def contains (frame : ReplayFrame) : Bool :=
  if frame.sequence < window.startSequence then false
  else if window.endSequence.any (· < frame.sequence) then false
  else if frame.monotonicNs < window.startMonotonicNs then false
  else !window.endMonotonicNs.any (· < frame.monotonicNs)

/-- `ReplayStream.__iter__` over frames with the index of their chunk, which the cursor that
    goes with a frame records. -/
def streamChunks (frameFilter : ReplayFrame → Bool) :
    List (Int × ReplayFrame) → List (Int × ReplayFrame)
  | [] => []
  | (chunkIndex, frame) :: frames =>
    -- `break` at the first frame above the window, `continue` below it
    if window.aboveWindow frame then []
    else if window.belowWindow frame then streamChunks frameFilter frames
    else if frameFilter frame then (chunkIndex, frame) :: streamChunks frameFilter frames
    else streamChunks frameFilter frames

variable {window}

/-- A frame in the window is neither above nor below it. -/
theorem contains_eq (frame : ReplayFrame) :
    window.contains frame = (!window.aboveWindow frame && !window.belowWindow frame) := by
  rw [contains, aboveWindow, belowWindow]
  -- `contains` asks for the start of the sequences first, the stream for both ends first
  by_cases hstart : frame.sequence < window.startSequence
  · simp [hstart]
  · by_cases htime : frame.monotonicNs < window.startMonotonicNs
    · simp [hstart, htime]
    · simp only [hstart, htime, if_false, decide_false, Bool.or_false, Bool.not_false,
        Bool.and_true, Bool.not_or]
      cases window.endSequence.any (· < frame.sequence) <;> rfl

theorem streamChunks_snd (window : ReplayWindow) (frameFilter : ReplayFrame → Bool)
    (frames : List (Int × ReplayFrame)) :
    (window.streamChunks frameFilter frames).map Prod.snd
      = window.stream frameFilter (frames.map Prod.snd) := by
  induction frames with
  | nil => rfl
  | cons p frames ih =>
    obtain ⟨chunkIndex, frame⟩ := p
    rw [streamChunks, List.map_cons, stream, ← ih]
    split_ifs <;> rfl

/-- The stream filters what stands before the first frame above the window. -/
theorem stream_eq_filter (frameFilter : ReplayFrame → Bool) (frames : List ReplayFrame) :
    window.stream frameFilter frames
      = (frames.takeWhile fun f => !window.aboveWindow f).filter
          fun f => !window.belowWindow f && frameFilter f := by
  induction frames with
  | nil => rfl
  | cons f frames ih =>
    rw [stream]
    -- a frame above the window ends the `takeWhile`, whatever the filter says of it
    cases habove : window.aboveWindow f with
    | true => simp [habove]
    | false =>
      rw [List.takeWhile_cons_of_pos (by simp [habove]), List.filter_cons, ← ih]
      cases hbelow : window.belowWindow f <;> cases hfilter : frameFilter f <;> rfl

/-- Above the merged window is what is above the caller's. -/
theorem aboveWindow_mergeCursor (window : Option ReplayWindow) (cursorStart : Int)
    (frame : ReplayFrame) :
    (mergeCursor window cursorStart).aboveWindow frame
      = (window.getD {}).aboveWindow frame := by
  cases window with
  | none =>
    rw [mergeCursor]
    split_ifs <;> rfl
  | some window =>
    rw [mergeCursor]
    split_ifs <;> rfl

/-- Below it is what is below the caller's or before the start of the cursor. -/
theorem belowWindow_mergeCursor (window : Option ReplayWindow) (cursorStart : Int)
    (frame : ReplayFrame) :
    (mergeCursor window cursorStart).belowWindow frame
      = ((window.getD {}).belowWindow frame || frame.sequence < cursorStart) := by
  -- where the cursor starts no later than the window, the window's start decides
  have horder : ∀ start : Int, cursorStart ≤ start →
      (frame.sequence < start || frame.sequence < cursorStart) = decide (frame.sequence < start) := by
    intro start hle
    by_cases h : frame.sequence < start
    · simp [h]
    · have h' : ¬ frame.sequence < cursorStart := by omega
      simp [h, h']
  cases window with
  | none =>
    rw [mergeCursor]
    split_ifs with hpos
    · simp only [belowWindow, Option.getD]
      by_cases hseq : frame.sequence < cursorStart
      · simp [hseq]
      · have hseq' : ¬ frame.sequence < 0 := by omega
        simp [hseq, hseq']
    · simp only [belowWindow, Option.getD]
      rw [Bool.or_right_comm, horder 0 (by omega)]
  | some window =>
    rw [mergeCursor]
    split_ifs with hle
    · simp only [belowWindow, Option.getD]
      rw [Bool.or_right_comm, horder window.startSequence hle]
    · simp only [belowWindow, Option.getD]
      by_cases hseq : frame.sequence < cursorStart
      · simp [hseq]
      · have hseq' : ¬ frame.sequence < window.startSequence := by omega
        simp [hseq, hseq']

end ReplayWindow

/-! ## Reading with the loader's cursor -/

namespace ReplayEventLoader

variable {σ : Type _}

/-- The loader's cursor after these frames, with their chunk indexes: that of the stream, which
    begins at `initial`; without a frame it is not set. -/
def cursorAfter (cursor initial : ReplayCursor) (taken : List (Int × ReplayFrame)) :
    ReplayCursor :=
  -- the stream sets the loader's cursor at each frame that it yields, and at no other time
  if taken.isEmpty then cursor
  else taken.foldl (fun c p => c.advance p.1 p.2.sequence p.2.monotonicNs) initial

/-- The first `count` frames that `loader.iter_frames(...)` yields, and the loader's cursor
    after them. -/
def readFrames (loader : ReplayEventLoader σ) (cursor : ReplayCursor)
    (window : Option ReplayWindow) (frameFilter : ReplayFrame → Bool)
    (fromCursor : Option ReplayCursor) (count : Nat) :
    Except LoadError (List ReplayFrame × ReplayCursor) :=
  let cursorStart := (fromCursor.map fun cursor => cursor.lastSequence + 1).getD 0
  let mergedWindow := ReplayWindow.mergeCursor window cursorStart
  loader.buildChunkLoaders.map fun chunks =>
    let frames := chunks.flatMap fun chunk =>
      (loader.dir.readChunk chunk.2).map ((chunk.1.index, ·))
    let taken := (mergedWindow.streamChunks frameFilter frames).take count
    (taken.map Prod.snd, cursorAfter cursor (fromCursor.getD cursor) taken)

/-- The frames that the window and the filter accept. -/
def accepted (window : Option ReplayWindow) (frameFilter : ReplayFrame → Bool)
    (frames : List ReplayFrame) : List ReplayFrame :=
  frames.filter fun f => (window.getD {}).contains f && frameFilter f

/-- `iter_frames` yields the accepted frames in order; and after any number of them, iterating
    on from the loader's cursor yields the others. -/
def IteratesWindow (loader : ReplayEventLoader σ) (cursor : ReplayCursor)
    (window : Option ReplayWindow) (frameFilter : ReplayFrame → Bool) : Prop :=
  loader.iterFrames window frameFilter = .ok (accepted window frameFilter loader.dir.frames) ∧
    ∀ count ≤ (accepted window frameFilter loader.dir.frames).length, ∃ frames cursor',
      loader.readFrames cursor window frameFilter none count = .ok (frames, cursor') ∧
        loader.iterFrames window frameFilter (some cursor')
          = .ok ((accepted window frameFilter loader.dir.frames).drop count)

/-- No accepted frame comes after one that is later than the window. -/
def CutsNothing (window : Option ReplayWindow) (frameFilter : ReplayFrame → Bool)
    (frames : List ReplayFrame) : Prop :=
  ∀ f ∈ frames, (window.getD {}).endMonotonicNs.any (· < f.monotonicNs) →
    ∀ g ∈ accepted window frameFilter frames, g.sequence ≤ f.sequence

theorem cursorAfter_lastSequence {cursor initial : ReplayCursor}
    {taken : List (Int × ReplayFrame)} {p : Int × ReplayFrame} (h : taken.getLast? = some p) :
    (cursorAfter cursor initial taken).lastSequence = p.2.sequence := by
  obtain ⟨before, rfl⟩ := List.getLast?_eq_some_iff.mp h
  have hne : (before ++ [p]).isEmpty = false := by simp
  rw [cursorAfter, hne, if_neg Bool.false_ne_true, List.foldl_append]
  rfl

section Session

variable {loader : ReplayEventLoader σ} {session : ReplaySession σ}

theorem Reads.dir_frames (h : loader.Reads session) : loader.dir.frames = session.frames := by
  rw [SessionDir.frames, h.files]
  rfl

/-- What an iteration yields, from wherever it starts. -/
theorem Reads.iterFrames_window (h : loader.Reads session) (window : Option ReplayWindow)
    (frameFilter : ReplayFrame → Bool) (fromCursor : Option ReplayCursor) :
    loader.iterFrames window frameFilter fromCursor
      = .ok ((session.frames.takeWhile fun f => !(window.getD {}).aboveWindow f).filter fun f =>
          ((window.getD {}).contains f && frameFilter f) &&
            !(f.sequence < (fromCursor.map fun cursor => cursor.lastSequence + 1).getD 0)) := by
  -- the chunk loaders read every chunk of the recording, in order
  have hframes : ((session.chunks.map fun c => (c.record, c.index)).flatMap fun chunk =>
      loader.dir.readChunk chunk.2) = session.frames := by
    rw [List.flatMap_map]
    exact List.flatMap_congr fun c hc => h.readChunk hc
  rw [iterFrames, buildChunkLoaders, h.zip]
  change Except.ok (ReplayWindow.stream _ _ _) = _
  rw [hframes, ReplayWindow.stream_eq_filter]
  simp only [ReplayWindow.aboveWindow_mergeCursor, ReplayWindow.belowWindow_mergeCursor]
  refine congrArg Except.ok (List.filter_congr fun f hf => ?_)
  -- no frame of the stream is above the window, so it is in it unless it is below
  have habove : (window.getD {}).aboveWindow f = false := by
    simpa using List.mem_takeWhile_imp hf
  rw [ReplayWindow.contains_eq, habove, Bool.not_or, Bool.not_false, Bool.true_and,
    Bool.and_right_comm]

/-- What is read, and where the cursor stands behind it. -/
theorem Reads.readFrames_eq (h : loader.Reads session) (cursor : ReplayCursor)
    (window : Option ReplayWindow) (frameFilter : ReplayFrame → Bool) (count : Nat)
    {frames : List ReplayFrame}
    (hframes : loader.iterFrames window frameFilter = .ok frames) :
    ∃ cursor', loader.readFrames cursor window frameFilter none count
        = .ok (frames.take count, cursor') ∧
      (frames.take count = [] → cursor' = cursor) ∧
      ∀ f, (frames.take count).getLast? = some f → cursor'.lastSequence = f.sequence := by
  rw [iterFrames, buildChunkLoaders, h.zip] at hframes
  rw [readFrames, buildChunkLoaders, h.zip]
  have hstream := Except.ok.inj hframes
  change ReplayWindow.stream _ _ _ = _ at hstream
  -- the frames with the indexes of their chunks, of which only the cursor looks at the indexes
  let loaded : List (Int × ReplayFrame) := (session.chunks.map fun c => (c.record, c.index)).flatMap
    fun chunk => (loader.dir.readChunk chunk.2).map ((chunk.1.index, ·))
  have hloaded : loaded.map Prod.snd = (session.chunks.map fun c => (c.record, c.index)).flatMap
      fun chunk => loader.dir.readChunk chunk.2 := by
    rw [List.map_flatMap]
    refine List.flatMap_congr fun chunk _ => ?_
    rw [List.map_map]
    exact List.map_id _
  have htaken := ReplayWindow.streamChunks_snd (.mergeCursor window 0) frameFilter loaded
  rw [hloaded] at htaken
  have hall := congrArg (List.take count) (htaken.trans hstream)
  rw [← List.map_take] at hall
  refine ⟨cursorAfter cursor cursor
      (((ReplayWindow.mergeCursor window 0).streamChunks frameFilter loaded).take count),
    congrArg Except.ok (Prod.ext hall rfl), ?_, ?_⟩
  · -- nothing has been read, and the cursor stands where it stood
    intro hnil
    rw [← hall, List.map_eq_nil_iff] at hnil
    rw [hnil]
    rfl
  · intro f hf
    rw [← hall, List.getLast?_map] at hf
    obtain ⟨p, hp, rfl⟩ := Option.map_eq_some_iff.mp hf
    exact cursorAfter_lastSequence hp

/-- No frame has a negative sequence, so that the default start of a cursor drops none. -/
theorem Reads.iterFrames_start (h : loader.Reads session) (window : Option ReplayWindow)
    (frameFilter : ReplayFrame → Bool) :
    loader.iterFrames window frameFilter
      = .ok (accepted window frameFilter
          (session.frames.takeWhile fun f => !(window.getD {}).aboveWindow f)) := by
  rw [h.iterFrames_window, accepted]
  refine congrArg Except.ok (List.filter_congr fun f hf => ?_)
  have hmem : f ∈ session.frames := (List.takeWhile_sublist _).subset hf
  have hnonneg : ¬ f.sequence < 0 := not_lt.mpr (session.nonneg f hmem)
  simp [hnonneg]

/-- The stream loses nothing exactly where no accepted frame comes behind a late one. -/
theorem accepted_takeWhile_iff (session : ReplaySession σ) (window : Option ReplayWindow)
    (frameFilter : ReplayFrame → Bool) :
    accepted window frameFilter
        (session.frames.takeWhile fun f => !(window.getD {}).aboveWindow f)
      = accepted window frameFilter session.frames ↔
    CutsNothing window frameFilter session.frames := by
  have hsorted := session.sorted
  -- an accepted frame is in the window, so it is not above it
  have hin : ∀ {frames g}, g ∈ accepted window frameFilter frames →
      g ∈ frames ∧ (window.getD {}).aboveWindow g = false := by
    intro frames g hg
    obtain ⟨hmem, hkept⟩ := List.mem_filter.mp hg
    rw [ReplayWindow.contains_eq] at hkept
    simp only [Bool.and_eq_true, Bool.not_eq_true'] at hkept
    exact ⟨hmem, hkept.1.1⟩
  -- the frames split at the first one above the window, where the stream ends
  have hsplit := List.takeWhile_append_dropWhile (p := fun f => !(window.getD {}).aboveWindow f)
    (l := session.frames)
  have hbefore : ∀ f ∈ session.frames.takeWhile (fun f => !(window.getD {}).aboveWindow f),
      (window.getD {}).aboveWindow f = false := fun f hf => by
    simpa using List.mem_takeWhile_imp hf
  have hhead := List.head?_dropWhile_not (fun f => !(window.getD {}).aboveWindow f) session.frames
  generalize session.frames.takeWhile _ = before at hsplit hbefore ⊢
  generalize session.frames.dropWhile _ = behind at hsplit hhead
  rw [← hsplit] at hsorted ⊢
  obtain ⟨-, hbehind, hcross⟩ := List.pairwise_append.mp hsorted
  -- of what is behind that frame the stream has nothing, so nothing of it is to be accepted
  have hrest : accepted window frameFilter before
        = accepted window frameFilter (before ++ behind) ↔
      accepted window frameFilter behind = [] := by
    rw [accepted, accepted, List.filter_append]
    exact List.self_eq_append_right
  rw [hrest]
  constructor
  · rintro hnil f hf hlate g hg
    obtain ⟨hgmem, -⟩ := hin hg
    have hfbehind : f ∈ behind := by
      refine (List.mem_append.mp hf).resolve_left fun hf' => ?_
      have habove := hbefore f hf'
      rw [ReplayWindow.aboveWindow, hlate, Bool.or_true] at habove
      cases habove
    rcases List.mem_append.mp hgmem with hg' | hg'
    · exact (hcross g hg' f hfbehind).le
    · have hmem : g ∈ accepted window frameFilter behind :=
        List.mem_filter.mpr ⟨hg', (List.mem_filter.mp hg).2⟩
      rw [hnil] at hmem
      exact absurd hmem List.not_mem_nil
  · intro hcuts
    refine List.eq_nil_iff_forall_not_mem.mpr fun g hg => ?_
    obtain ⟨hgmem, hnot⟩ := hin hg
    -- the first frame behind the split is above the window, by sequence or by time
    cases behind with
    | nil => exact List.not_mem_nil hgmem
    | cons f rest =>
      have habove : (window.getD {}).aboveWindow f = true := by simpa using hhead
      rcases List.mem_cons.mp hgmem with rfl | hgrest
      · rw [habove] at hnot
        cases hnot
      have hlt : f.sequence < g.sequence := (List.pairwise_cons.mp hbehind).1 g hgrest
      rw [ReplayWindow.aboveWindow, Bool.or_eq_true] at habove
      rcases habove with hend | hlate
      · -- sequences increase, so `g` is above the window as well
        obtain ⟨stop, hstop, hless⟩ := (Option.any_eq_true _ _).mp hend
        have hless' : stop < g.sequence := (of_decide_eq_true hless).trans hlt
        rw [ReplayWindow.aboveWindow, hstop] at hnot
        simp [hless'] at hnot
      · have haccepted : g ∈ accepted window frameFilter (before ++ f :: rest) :=
          List.mem_filter.mpr ⟨List.mem_append_right before hgmem, (List.mem_filter.mp hg).2⟩
        have hle := hcuts f (List.mem_append_right before List.mem_cons_self) hlate g haccepted
        omega

/-- From a cursor, what is left of the accepted frames are those behind its sequence. -/
theorem Reads.iterFrames_resumed (h : loader.Reads session) {window : Option ReplayWindow}
    {frameFilter : ReplayFrame → Bool}
    (hcuts : CutsNothing window frameFilter session.frames) (cursor : ReplayCursor) :
    loader.iterFrames window frameFilter (some cursor)
      = .ok ((accepted window frameFilter session.frames).filter fun f =>
          cursor.lastSequence < f.sequence) := by
  rw [h.iterFrames_window, ← (accepted_takeWhile_iff session window frameFilter).mpr hcuts, accepted,
    List.filter_filter]
  refine congrArg Except.ok (List.filter_congr fun f _ => ?_)
  have hnext : (!decide (f.sequence < cursor.lastSequence + 1))
      = decide (cursor.lastSequence < f.sequence) := by
    rw [← decide_not]
    exact decide_eq_decide.mpr (by omega)
  rw [Bool.and_comm]
  exact congrArg (· && _) hnext

/-- An iteration with a window is exact, with resumption from every cut, exactly where no
    accepted frame comes behind one that is later than the window, and the loader's cursor is
    not ahead of the first accepted frame before it has read any. -/
theorem iteratesWindow_iff {dir : SessionDir σ} {config : ReplayLoaderConfig} {rebuild : Bool}
    (hcomplete : Complete dir session) (hopen : openSession dir config rebuild = .ok loader)
    (cursor : ReplayCursor) (window : Option ReplayWindow) (frameFilter : ReplayFrame → Bool) :
    loader.IteratesWindow cursor window frameFilter ↔
      CutsNothing window frameFilter session.frames ∧
        ∀ f ∈ accepted window frameFilter session.frames, cursor.lastSequence < f.sequence := by
  -- the loader reads a complete recording, whatever its index was
  have h : loader.Reads session := by
    obtain ⟨loader', hopen', -, hreads⟩ := openSession_complete hcomplete config rebuild
    rw [hopen'] at hopen
    cases hopen
    exact hreads
  rw [IteratesWindow, h.dir_frames, h.iterFrames_start, Except.ok.injEq, accepted_takeWhile_iff]
  refine and_congr_right fun hcuts => ?_
  have hall := h.iterFrames_start window frameFilter
  rw [(accepted_takeWhile_iff session window frameFilter).mpr hcuts] at hall
  have hsorted : Increasing ReplayFrame.sequence (accepted window frameFilter session.frames) :=
    session.sorted.filter _
  -- the frames are exact by `CutsNothing`; what is left is the resumption from every cut
  constructor
  · intro hresumes f hf
    obtain ⟨frames, cursor', hread, hrest⟩ := hresumes 0 (Nat.zero_le _)
    obtain ⟨cursor₀, hread₀, hkeeps, -⟩ := h.readFrames_eq cursor window frameFilter 0 hall
    rw [hread₀] at hread
    cases hread
    rw [hkeeps List.take_zero, h.iterFrames_resumed hcuts, Except.ok.injEq, List.drop_zero,
      List.filter_eq_self] at hrest
    exact of_decide_eq_true (hrest f hf)
  · intro hbehind count hcount
    obtain ⟨cursor', hread, hkeeps, hmoves⟩ := h.readFrames_eq cursor window frameFilter count hall
    refine ⟨_, cursor', hread, ?_⟩
    rw [h.iterFrames_resumed hcuts]
    refine congrArg Except.ok ?_
    -- by what was read last: nothing, or a frame
    cases hlast : ((accepted window frameFilter session.frames).take count).getLast? with
    | none =>
      have hnil := List.getLast?_eq_none_iff.mp hlast
      rw [hkeeps hnil, List.filter_eq_self.mpr fun f hf => decide_eq_true (hbehind f hf)]
      have hsplit := List.take_append_drop count (accepted window frameFilter session.frames)
      rw [hnil] at hsplit
      exact hsplit.symm
    | some f =>
      rw [hmoves f hlast]
      -- sequences increase, so that behind the frame's are the frames that were not read
      exact hsorted.after_last_taken hlast

end Session

/-- Three frames, of which the second is stamped after the third. -/
def lateSecond : ReplaySession Unit where
  chunks := [⟨1, [⟨1, 10, "", default⟩, ⟨2, 30, "", default⟩, ⟨3, 20, "", default⟩]⟩]
  snapshots := []
  indexed := by simp [Increasing]
  index_pos := by simp
  increasing := by simp [Increasing]
  nonneg := by simp
  captured := ReplaySession.captured_nil Unit

/-- The directory of that recording. -/
def lateSecondDir : SessionDir Unit where
  manifest := .readable
    { chunks := lateSecond.chunks.map Chunk.record
      snapshots := []
      eventCount := 3
      chunkCount := 1
      snapshotCount := 0
      lastSequence := 3
      finalized := true }
  index := .missing
  eventFiles := lateSecond.chunks
  snapshotPayload := fun _ => ()
  indexed := lateSecond.indexed
  increasing := lateSecond.increasing

theorem complete_lateSecond : Complete lateSecondDir lateSecond where
  manifest := ⟨_, rfl, rfl, rfl⟩
  index := .inl rfl
  files := rfl
  payloads := fun _ h => absurd h List.not_mem_nil

/-- A window by sequences does not look at the times, and no frame has sequence 0. -/
theorem iteratesWindow_iff_sequences :
    ∃ loader, openSession lateSecondDir {} false = .ok loader ∧
      loader.IteratesWindow .atStart (some { startSequence := 2 }) fun _ => true := by
  obtain ⟨loader, hopen, -, -⟩ := openSession_complete complete_lateSecond {} false
  refine ⟨loader, hopen, (iteratesWindow_iff complete_lateSecond hopen _ _ _).mpr ⟨?_, ?_⟩⟩
  · -- a window by sequences has no end in time
    intro f _ hlate
    cases hlate
  · intro f hf
    have hmem : f ∈ lateSecond.frames := (List.mem_filter.mp hf).1
    simp only [ReplaySession.frames, lateSecond, List.flatMap_cons, List.flatMap_nil,
      List.append_nil, List.mem_cons, List.not_mem_nil, or_false] at hmem
    rcases hmem with rfl | rfl | rfl <;> decide

/-- Up to 25 the window has the first and the third frame; the stream ends at the second. -/
theorem not_iteratesWindow_late :
    ∃ loader, openSession lateSecondDir {} false = .ok loader ∧
      ¬ loader.IteratesWindow .atStart (some { endMonotonicNs := some 25 }) fun _ => true := by
  obtain ⟨loader, hopen, -, hreads⟩ := openSession_complete complete_lateSecond {} false
  refine ⟨loader, hopen, fun h => ?_⟩
  have hiterates := h.1
  rw [hreads.dir_frames, hreads.iterFrames_start, Except.ok.injEq, accepted_takeWhile_iff]
    at hiterates
  have hle := hiterates ⟨2, 30, "", default⟩ (by simp [ReplaySession.frames, lateSecond]) rfl
    ⟨3, 20, "", default⟩ (List.mem_filter.mpr ⟨by simp [ReplaySession.frames, lateSecond], rfl⟩)
  exact absurd hle (by decide)

end ReplayEventLoader

end AsyncViz.Replay
