/-
  AsyncViz.Replay.SeekLanding

  Where the loader's seek lands (`replay/loading/replay_seek.py`, `replay_index.py`), for
  every target.

  `chunk_for_sequence` chooses the chunk whose range has the target in it; for `-1`,
  which stands for the range of an empty chunk, it is the last empty one (`Chosen`).  The
  seek lands on the first frame at or after the target among the chunks from there on,
  and nowhere where no chunk is chosen.  So it finds what it looks for exactly for the
  targets of `Findable`: a target before the first chunk or between two chunks is lost.
-/

import AsyncViz.Lib.StableSort
import AsyncViz.Replay.Loader

namespace AsyncViz.Replay

open AsyncViz.Lib.Bisect AsyncViz.Lib.SortedLog

namespace ReplaySession

variable {σ : Type _} {session : ReplaySession σ}

/-! ## The chunk that the index chooses -/

/-- The last of the chunks that hold no frame. -/
def LastEmpty (session : ReplaySession σ) (e : Chunk) : Prop :=
  e ∈ session.chunks ∧ e.frames = [] ∧
    ∀ d ∈ session.chunks, d.frames = [] → d.index ≤ e.index

/-- The chunk that the index gives for `t`. -/
def Chosen (session : ReplaySession σ) (t : Int) (e : Chunk) : Prop :=
  e ∈ session.chunks ∧ e.Covers t ∨ t = -1 ∧ session.LastEmpty e

/-- No record starts before `-1`, and only an empty chunk starts there. -/
theorem record_first {c : Chunk} (hc : c ∈ session.chunks) :
    c.frames = [] ∧ c.record.firstSequence = -1 ∧ c.record.lastSequence = -1 ∨
      c.frames ≠ [] ∧ 0 ≤ c.record.firstSequence := by
  by_cases hne : c.frames = []
  · refine .inl ⟨hne, ?_, ?_⟩ <;> rw [Chunk.record, hne] <;> rfl
  · obtain ⟨f, hf, hfirst⟩ := session.exists_first hc hne
    exact .inr ⟨hne, hfirst ▸ session.nonneg_of_mem hc hf⟩

theorem not_covers_of_neg {c : Chunk} (hc : c ∈ session.chunks) {t : Int} (ht : t < 0) :
    ¬ c.Covers t := by
  rintro ⟨⟨f, hf, hle⟩, -⟩
  have := session.nonneg_of_mem hc hf
  omega

/-- Below `-1` no chunk starts. -/
theorem chunkForSequence_of_lt {t : Int} (ht : t < -1) :
    session.sequenceIndex.chunkForSequence t = none := by
  -- the lookup finds the last entry that does not start after `t`, and all start at `-1` or later
  have hnearest := session.isNearest_chunk t
  rw [ReplayIndex.chunkForSequence]
  cases hlast : lastAtOrBefore session.sequenceIndex.entries IndexEntry.firstSequence t with
  | none => rfl
  | some candidate =>
    rw [hlast] at hnearest
    obtain ⟨hmem, hle, -⟩ := hnearest
    obtain ⟨c, hc, rfl⟩ := List.mem_map.mp hmem
    have hfirst : c.record.firstSequence ≤ t := hle
    rcases session.record_first hc with ⟨-, hat, -⟩ | ⟨-, hat⟩ <;> omega

/-- The entries that `-1` is looked up among are those of the empty chunks, in their order. -/
theorem filter_entries :
    session.sequenceIndex.entries.filter (·.firstSequence ≤ -1)
      = (session.chunks.filter fun c => c.frames = []).map fun c => c.record.entry := by
  have hbuilt : buildIndexFromChunks (session.chunks.map Chunk.record)
      = session.chunks.map fun c => c.record.entry := by
    rw [buildIndexFromChunks, List.map_map]
    -- the chunks stand in the order of their indexes, which is the order of the entries
    refine sortedBy_eq_self (List.pairwise_map.mpr (session.indexed.imp fun {c d} hlt => ?_))
    show c.record.index ≤ d.record.index
    rw [c.record_index, d.record_index]
    exact hlt.le
  -- nothing starts before `-1`, so that what starts up to it starts there
  have hat : session.sequenceIndex.entries.filter (·.firstSequence ≤ -1)
      = session.sequenceIndex.entries.filter (·.firstSequence = -1) := by
    refine List.filter_congr fun entry hentry => decide_eq_decide.mpr ?_
    obtain ⟨c, hc, rfl⟩ := List.mem_map.mp (session.perm_entries.mem_iff.mp hentry)
    show c.record.firstSequence ≤ -1 ↔ c.record.firstSequence = -1
    rcases session.record_first hc with ⟨-, hat, -⟩ | ⟨-, hat⟩ <;> omega
  rw [hat, sequenceIndex, ReplayIndex.fromMetadata, filter_sortedBy, hbuilt, List.filter_map]
  refine congrArg _ (List.filter_congr fun c hc => decide_eq_decide.mpr ?_)
  show c.record.firstSequence = -1 ↔ c.frames = []
  rcases session.record_first hc with ⟨hnil, hat, -⟩ | ⟨hne, hat⟩
  · exact iff_of_true hat hnil
  · exact iff_of_false (by omega) hne

theorem chunkForSequence_neg_one :
    session.sequenceIndex.chunkForSequence (-1)
      = (session.chunks.filter fun c => c.frames = []).getLast?.map fun c => c.record.entry := by
  have hlast := lastAtOrBefore_eq_getLast? (pairwise_sortedBy IndexEntry.firstSequence
    (buildIndexFromChunks (session.chunks.map Chunk.record))) (-1)
  have hentries := session.filter_entries
  rw [sequenceIndex, ReplayIndex.fromMetadata] at hentries
  rw [hentries, List.getLast?_map] at hlast
  rw [ReplayIndex.chunkForSequence, sequenceIndex, ReplayIndex.fromMetadata, hlast]
  cases hempty : (session.chunks.filter fun c => c.frames = []).getLast? with
  | none => rfl
  | some e =>
    -- an empty chunk ends at `-1` as well, so its range has the target in it
    obtain ⟨he, hnil⟩ := List.mem_filter.mp (List.mem_of_getLast? hempty)
    have hends : ¬ -1 > e.record.lastSequence := by
      rcases session.record_first he with ⟨-, -, hat⟩ | ⟨hne, -⟩
      · omega
      · exact absurd (of_decide_eq_true hnil) hne
    exact if_neg hends

theorem lastEmpty_iff {e : Chunk} :
    (session.chunks.filter fun c => c.frames = []).getLast? = some e ↔ session.LastEmpty e := by
  have hsorted : Increasing Chunk.index (session.chunks.filter fun c => c.frames = []) :=
    session.indexed.filter _
  constructor
  · intro hlast
    obtain ⟨init, hinit⟩ := List.getLast?_eq_some_iff.mp hlast
    rw [hinit] at hsorted
    obtain ⟨he, hnil⟩ := List.mem_filter.mp (List.mem_of_getLast? hlast)
    refine ⟨he, of_decide_eq_true hnil, fun d hd hdnil => hsorted.le_last d ?_⟩
    rw [← hinit]
    exact List.mem_filter.mpr ⟨hd, decide_eq_true hdnil⟩
  · -- the last of the empty chunks has the greatest index, as indexes increase
    rintro ⟨he, hnil, hmax⟩
    have hmem : e ∈ session.chunks.filter fun c => c.frames = [] :=
      List.mem_filter.mpr ⟨he, decide_eq_true hnil⟩
    obtain ⟨init, d, hinit⟩ := (List.eq_nil_or_concat' _).resolve_left (List.ne_nil_of_mem hmem)
    have hd : d ∈ session.chunks.filter fun c => c.frames = [] := by
      rw [hinit]
      exact List.mem_append_right _ List.mem_cons_self
    obtain ⟨hdmem, hdnil⟩ := List.mem_filter.mp hd
    rw [hinit] at hsorted hmem
    have hsame : e = d := session.indexed.eq_of_key_eq he hdmem
      (le_antisymm (hsorted.le_last e hmem) (hmax d hdmem (of_decide_eq_true hdnil)))
    rw [hinit, hsame, List.getLast?_concat]

/-- What the lookup comes to, for every sequence. -/
theorem chunkForSequence_chosen (t : Int) :
    (session.sequenceIndex.chunkForSequence t = none ∧ ∀ e, ¬ session.Chosen t e) ∨
      ∃ entry e, session.sequenceIndex.chunkForSequence t = some entry ∧
        entry.chunkIndex = e.index ∧ session.Chosen t e := by
  -- below `-1` nothing starts, at `-1` the empty chunks do, and from 0 on the ranges decide
  rcases lt_trichotomy t (-1) with hlt | rfl | hgt
  · refine .inl ⟨session.chunkForSequence_of_lt hlt, ?_⟩
    rintro e (⟨he, hcovers⟩ | ⟨rfl, -⟩)
    · exact session.not_covers_of_neg he (by omega) hcovers
    · omega
  · rw [chunkForSequence_neg_one]
    cases hempty : (session.chunks.filter fun c => c.frames = []).getLast? with
    | none =>
      refine .inl ⟨rfl, ?_⟩
      rintro e (⟨he, hcovers⟩ | ⟨-, hlast⟩)
      · exact session.not_covers_of_neg he (by omega) hcovers
      · rw [lastEmpty_iff.mpr hlast] at hempty
        cases hempty
    | some e => exact .inr ⟨_, e, rfl, e.record_index, .inr ⟨rfl, lastEmpty_iff.mp hempty⟩⟩
  · have ht : 0 ≤ t := by omega
    cases hentry : session.sequenceIndex.chunkForSequence t with
    | none =>
      refine .inl ⟨rfl, ?_⟩
      rintro e (⟨he, hcovers⟩ | ⟨rfl, -⟩)
      · exact session.chunkForSequence_none ht hentry he hcovers
      · omega
    | some entry =>
      obtain ⟨e, he, hindex, hcovers⟩ := session.chunkForSequence_some ht hentry
      exact .inr ⟨entry, e, rfl, hindex, .inl ⟨he, hcovers⟩⟩

/-! ## The landing -/

/-- From wherever a seek lands, the frames after the landed one follow. -/
theorem iterFromCursor_of_landed {t : Int} {f : ReplayFrame}
    (hlanded : (session.seekToSequence t).landedFrame = some f) :
    iterFromCursor (session.seekToSequence t).cursor session.chunks
      = after ReplayFrame.sequence session.frames f.sequence := by
  rcases session.chunkForSequence_chosen t with ⟨hentry, -⟩ | ⟨entry, e, hentry, hindex, hchosen⟩
  · rw [seekToSequence_of_none hentry] at hlanded
    cases hlanded
  · have he : e ∈ session.chunks := hchosen.elim And.left fun h => h.2.1
    obtain ⟨d, hd, hf, hchunk, hsequence⟩ := (seekToSequence_of_entry he hentry hindex).2 f hlanded
    exact session.iterFromCursor_landed hd hf hchunk hsequence

/-- The frames from `e` on have the first frame at or after `t` iff those frames all stand from
    `e` on, or there are none. -/
theorem find?_tailFrom_iff {e : Chunk} {t : Int} :
    (session.tailFrom e).find? (fun f => t ≤ f.sequence)
        = session.frames.find? (fun f => t ≤ f.sequence) ↔
      ∀ c ∈ session.chunks, (∃ f ∈ c.frames, t ≤ f.sequence) → e.index ≤ c.index := by
  -- the frames from `e` on are some of all frames, in their order
  have hsublist : (session.tailFrom e).Sublist session.frames := session.flatMap_filter_sublist _
  have hsorted : Increasing ReplayFrame.sequence (session.tailFrom e) :=
    session.increasing.sublist hsublist
  have hmem : ∀ f, f ∈ session.tailFrom e ↔
      ∃ d ∈ session.chunks, e.index ≤ d.index ∧ f ∈ d.frames := by
    intro f
    simp only [tailFrom, List.mem_flatMap, List.mem_filter, decide_eq_true_eq, and_assoc]
  constructor
  · rintro hfind c hc ⟨f, hf, htf⟩
    cases hfirst : session.frames.find? (fun f => t ≤ f.sequence) with
    | none =>
      have hnot := List.find?_eq_none.mp hfirst f (mem_frames.mpr ⟨c, hc, hf⟩)
      simp [htf] at hnot
    | some g =>
      obtain ⟨-, -, hmin⟩ := session.sorted.first_of_find? hfirst
      rw [hfirst] at hfind
      obtain ⟨d, hd, hed, hg⟩ := (hmem g).mp (List.mem_of_find?_eq_some hfind)
      -- were `c` in front of `e`, the frame that it holds would come before the one landed on
      by_contra hlt
      have hless := session.sequence_lt_of_index_lt hc hd (by omega) hf hg
      exact absurd (hmin f (mem_frames.mpr ⟨c, hc, hf⟩) htf) (not_le.mpr hless)
  · intro hall
    cases hfirst : session.frames.find? (fun f => t ≤ f.sequence) with
    | none =>
      rw [List.find?_eq_none] at hfirst ⊢
      exact fun f hf => hfirst f (hsublist.subset hf)
    | some g =>
      obtain ⟨hg, htg, hmin⟩ := session.sorted.first_of_find? hfirst
      obtain ⟨c, hc, hgc⟩ := mem_frames.mp hg
      refine hsorted.find?_le_iff.mpr ⟨(hmem g).mpr ⟨c, hc, hall c hc ⟨g, hgc, htg⟩, hgc⟩, htg, ?_⟩
      exact fun f hf => hmin f (hsublist.subset hf)

/-- What a seek is for: it lands on the first frame at or after `t`, nowhere only where there
    is none, and from its cursor exactly the frames after the landed one follow. -/
def SeekFinds (session : ReplaySession σ) (t : Int) : Prop :=
  (session.seekToSequence t).landedFrame = session.frames.find? (fun f => t ≤ f.sequence) ∧
    ∀ f, (session.seekToSequence t).landedFrame = some f →
      iterFromCursor (session.seekToSequence t).cursor session.chunks
        = after ReplayFrame.sequence session.frames f.sequence

/-- The targets that a seek finds: in the range of a chunk, or after the last frame; and `-1`,
    where empty chunks stand before all that hold frames. -/
def Findable (session : ReplaySession σ) (t : Int) : Prop :=
  (∃ c ∈ session.chunks, c.Covers t) ∨ (∀ f ∈ session.frames, f.sequence < t) ∨
    t = -1 ∧ ∃ e, session.LastEmpty e ∧
      ∀ c ∈ session.chunks, c.frames ≠ [] → e.index ≤ c.index

theorem seekFinds_iff_findable (session : ReplaySession σ) (t : Int) :
    session.SeekFinds t ↔ session.Findable t := by
  -- to land nowhere is right exactly behind the last frame
  have hnothing : session.frames.find? (fun f => t ≤ f.sequence) = none ↔
      ∀ f ∈ session.frames, f.sequence < t := by
    simp
  have hlands : session.SeekFinds t ↔ (session.seekToSequence t).landedFrame
      = session.frames.find? (fun f => t ≤ f.sequence) :=
    and_iff_left fun f => session.iterFromCursor_of_landed
  rw [hlands]
  rcases session.chunkForSequence_chosen t with ⟨hentry, hnone⟩ | ⟨entry, e, hentry, hindex, hchosen⟩
  · -- no chunk is chosen, so the seek lands nowhere
    rw [seekToSequence_of_none hentry, eq_comm, hnothing]
    constructor
    · exact fun hall => .inr (.inl hall)
    · rintro (⟨c, hc, hcovers⟩ | hall | ⟨rfl, e, hlast, -⟩)
      · exact absurd (.inl ⟨hc, hcovers⟩) (hnone c)
      · exact hall
      · exact absurd (.inr ⟨rfl, hlast⟩) (hnone e)
  · have he : e ∈ session.chunks := hchosen.elim And.left fun h => h.2.1
    rw [(seekToSequence_of_entry he hentry hindex).1, find?_tailFrom_iff]
    constructor
    · intro hall
      rcases hchosen with ⟨-, hcovers⟩ | ⟨rfl, hlast⟩
      · exact .inl ⟨e, he, hcovers⟩
      · refine .inr (.inr ⟨rfl, e, hlast, fun c hc hne => hall c hc ?_⟩)
        obtain ⟨f, hf⟩ := List.exists_mem_of_ne_nil _ hne
        have := session.nonneg_of_mem hc hf
        exact ⟨f, hf, by omega⟩
    · -- the chosen chunk is not behind the first frame at or after `t`
      rintro hfindable c hc ⟨f, hf, htf⟩
      rcases hchosen with ⟨-, hcovers⟩ | ⟨rfl, hlast⟩
      · exact session.index_le_of_covers he hc hcovers hf htf
      · rcases hfindable with ⟨d, hd, hcovers⟩ | hall | ⟨-, d, hlast', hbefore⟩
        · exact absurd hcovers (session.not_covers_of_neg hd (by omega))
        · have := hall f (mem_frames.mpr ⟨c, hc, hf⟩)
          omega
        · exact (hlast'.2.2 e he hlast.2.1).trans (hbefore c hc (List.ne_nil_of_mem hf))

/-- Two chunks of a frame each, of sequences 1 and 3. -/
def oneThenThree : ReplaySession Unit where
  chunks := [⟨1, [⟨1, 10, "", default⟩]⟩, ⟨2, [⟨3, 30, "", default⟩]⟩]
  snapshots := []
  indexed := by simp [Increasing]
  index_pos := by simp
  increasing := by simp [Increasing]
  nonneg := by simp
  captured := captured_nil Unit

/-- Sequence 2 is between the chunks: the seek lands nowhere, though frame 3 comes after it. -/
theorem not_seekFinds_between : ¬ oneThenThree.SeekFinds 2 := by
  rintro ⟨hlands, -⟩
  have hnone : ∀ c ∈ oneThenThree.chunks, ¬ c.Covers 2 := by decide
  rw [seekToSequence_uncovered (by decide) hnone] at hlands
  cases hlands

end ReplaySession

end AsyncViz.Replay
