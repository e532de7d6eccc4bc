/-
  AsyncViz.Replay.Loader

  Opening a session directory (`replay/loading/replay_loader.py`,
  `replay_manifest_loader.py`, `replay_index.py`): what `load_manifest_or_rebuild` makes of
  a directory, and what the loader that is opened on it reads.

  The loader keeps chunk records and chunk paths as two lists, and every reader zips them
  with `strict=True`.

  * From a complete manifest the lists are parallel, and the loader reads what
    `Replay.Seek` reads of the session (`complete_loads`).
  * The rebuilt session has a path for every event file and no record.  A loader that is
    opened without a readable manifest therefore reads the whole recording exactly if
    there is nothing to read (`rebuilt_loads_iff`).
-/

import AsyncViz.Replay.Seek

namespace AsyncViz.Replay

open AsyncViz.Lib.Bisect AsyncViz.Lib.SortedLog

/-! ## Session directories -/

/-- What reading `manifest.json` or `index.json` comes to. -/
inductive StoredFile (α : Type _) where
  | missing
  | malformed
  | readable (content : α)

/-- `RecordingMetadata`, as far as the loader reads it. -/
structure RecordingMetadata where
  chunks : List ChunkRecord
  snapshots : List SnapshotRecord
  eventCount : Nat
  chunkCount : Nat
  snapshotCount : Nat
  lastSequence : Int
  finalized : Bool

/-- A session directory.  The path of an event file or a snapshot file is its number; the
    event files stand in the order of their names. -/
structure SessionDir (σ : Type _) where
  manifest : StoredFile RecordingMetadata
  index : StoredFile (List IndexEntry)
  eventFiles : List Chunk
  snapshotPayload : Int → σ
  indexed : Increasing Chunk.index eventFiles
  increasing : Increasing ReplayFrame.sequence (eventFiles.flatMap Chunk.frames)

namespace SessionDir

variable {σ : Type _} (dir : SessionDir σ)

/-- All frames on disk, in order. -/
def frames : List ReplayFrame := dir.eventFiles.flatMap Chunk.frames

/-- The event file at `path`, if it exists. -/
def fileAt (path : Int) : Option Chunk := dir.eventFiles.find? fun file => file.index = path

/-- `ReplayChunkLoader.iter_frames` on a path; a missing file has no frames. -/
def readChunk (path : Int) : List ReplayFrame := ((dir.fileAt path).map Chunk.frames).getD []

variable {dir}

theorem fileAt_of_mem {file : Chunk} (hfile : file ∈ dir.eventFiles) :
    dir.fileAt file.index = some file :=
  dir.indexed.find?_key hfile

theorem readChunk_of_mem {file : Chunk} (hfile : file ∈ dir.eventFiles) :
    dir.readChunk file.index = file.frames := by
  rw [readChunk, fileAt_of_mem hfile]
  rfl

end SessionDir

/-! ## Opening -/

/-- What opening or reading a session raises. -/
inductive LoadError where
  | manifestLoadError
  | malformedManifest
  | malformedIndex
  | lengthMismatch
deriving DecidableEq, Repr

/-- `zip(xs, ys, strict=True)`, read to its end. -/
def zipStrict {α β : Type _} : List α → List β → Except LoadError (List (α × β))
  | [], [] => .ok []
  | x :: xs, y :: ys => (zipStrict xs ys).map ((x, y) :: ·)
  | _, _ => .error .lengthMismatch

/-- `ReplaySession`, the loader's view of a recording. -/
structure LoaderSession where
  metadata : RecordingMetadata
  chunkPaths : List Int
  snapshotPaths : List Int

namespace LoaderSession

/-- `session.chunks`. -/
def chunks (session : LoaderSession) : List ChunkRecord := session.metadata.chunks

/-- `session.snapshots`. -/
def snapshots (session : LoaderSession) : List SnapshotRecord := session.metadata.snapshots

end LoaderSession

section Manifest

variable {σ : Type _} (dir : SessionDir σ)

/-- `read_manifest`. -/
def readManifest : Except LoadError (Option RecordingMetadata) :=
  match dir.manifest with
  | .missing => .ok none
  | .malformed => .error .malformedManifest
  | .readable metadata => .ok (some metadata)

/-- `_resolve_layout`: one path for each record of the manifest, whether it exists or not. -/
def resolveLayout (metadata : RecordingMetadata) : LoaderSession :=
  { metadata := metadata
    chunkPaths := metadata.chunks.map ChunkRecord.index
    snapshotPaths := metadata.snapshots.map SnapshotRecord.index }

/-- `load_manifest`. -/
def loadManifest : Except LoadError LoaderSession :=
  match readManifest dir with
  | .error e => .error e
  | .ok none => .error .manifestLoadError
  | .ok (some metadata) => .ok (resolveLayout metadata)

/-- The session that `load_manifest_or_rebuild` falls back to: the files are counted and
    listed, but none gets a record. -/
def rebuiltSession : LoaderSession :=
  { metadata :=
      { chunks := []
        snapshots := []
        eventCount := 0
        chunkCount := dir.eventFiles.length
        snapshotCount := 0
        lastSequence := 0
        finalized := false }
    chunkPaths := dir.eventFiles.map Chunk.index
    snapshotPaths := [] }

/-- `load_manifest_or_rebuild`.  Only a `ManifestLoadError` is caught. -/
def loadManifestOrRebuild : Except LoadError LoaderSession :=
  match loadManifest dir with
  | .ok session => .ok session
  | .error .manifestLoadError => .ok (rebuiltSession dir)
  | .error e => .error e

/-- `ReplayIndex.from_session_dir`. -/
def ReplayIndex.fromSessionDir (metadata : RecordingMetadata) : Except LoadError ReplayIndex :=
  match dir.index with
  | .missing => .ok (.fromMetadata metadata.chunks)
  | .malformed => .error .malformedIndex
  | .readable entries => .ok { entries := sortedBy IndexEntry.firstSequence entries }

/-- `verify_session`, which can only fail on lists that are not parallel. -/
def verifySession (chunks : List ChunkRecord) (paths : List Int) : Except LoadError Unit :=
  if chunks.length ≠ paths.length then .error .lengthMismatch else .ok ()

end Manifest

/-- `ReplayLoaderConfig`, as far as opening reads it. -/
structure ReplayLoaderConfig where
  verifyIntegrity : Bool := false

/-- `ReplayEventLoader`. -/
structure ReplayEventLoader (σ : Type _) where
  dir : SessionDir σ
  session : LoaderSession
  sequenceIndex : ReplayIndex
  snapshotIndex : ReplaySnapshotIndex σ

namespace ReplayEventLoader

section Construction

variable {σ : Type _} (dir : SessionDir σ)

/-- `ReplayEventLoader.__init__`. -/
def init (session : LoaderSession) : Except LoadError (ReplayEventLoader σ) :=
  (ReplayIndex.fromSessionDir dir session.metadata).map fun sequenceIndex =>
    { dir := dir
      session := session
      sequenceIndex := sequenceIndex
      snapshotIndex := .fromRecords (session.snapshots.map fun record =>
        { record := record, payload := dir.snapshotPayload record.index }) }

/-- `ReplayEventLoader.open(session_dir, config=…, rebuild_manifest_if_missing=…)`. -/
def openSession (config : ReplayLoaderConfig) (rebuildManifestIfMissing : Bool) :
    Except LoadError (ReplayEventLoader σ) := do
  let session ← if rebuildManifestIfMissing then loadManifestOrRebuild dir else loadManifest dir
  let loader ← init dir session
  if config.verifyIntegrity then
    verifySession loader.session.chunks loader.session.chunkPaths
  return loader

end Construction

end ReplayEventLoader

/-! ## Windows -/

/-- `ReplayWindow`. -/
structure ReplayWindow where
  startSequence : Int := 0
  endSequence : Option Int := none
  startMonotonicNs : Int := 0
  endMonotonicNs : Option Int := none

namespace ReplayWindow

variable (window : ReplayWindow) (frame : ReplayFrame)

/-- `window.below_window(frame)`. -/
def belowWindow : Bool :=
  frame.sequence < window.startSequence || frame.monotonicNs < window.startMonotonicNs

/-- `window.above_window(frame)`. -/
def aboveWindow : Bool :=
  window.endSequence.any (· < frame.sequence) || window.endMonotonicNs.any (· < frame.monotonicNs)

/-- `_merge_cursor_window`. -/
def mergeCursor (window : Option ReplayWindow) (cursorStart : Int) : ReplayWindow :=
  match window with
  | none => if cursorStart > 0 then { startSequence := cursorStart } else {}
  | some window =>
    if cursorStart ≤ window.startSequence then window
    else { window with startSequence := cursorStart }

/-- `ReplayStream.__iter__`, over the frames of all chunks.  It ends at the first frame
    above the window. -/
def stream (frameFilter : ReplayFrame → Bool) : List ReplayFrame → List ReplayFrame
  | [] => []
  | frame :: frames =>
    if window.aboveWindow frame then []
    else if window.belowWindow frame then stream frameFilter frames
    else if frameFilter frame then frame :: stream frameFilter frames
    else stream frameFilter frames

end ReplayWindow

/-! ## Reading -/

/-- `ChunkHealth`, of a file whose lines are all complete. -/
structure ChunkHealth where
  chunkIndex : Int
  path : Int
  lineCount : Nat
  expectedEventCount : Nat
  healthy : Bool
deriving DecidableEq, Repr

namespace ReplayEventLoader

variable {σ : Type _} (loader : ReplayEventLoader σ)

/-- `_build_chunk_loaders`. -/
def buildChunkLoaders : Except LoadError (List (ChunkRecord × Int)) :=
  zipStrict loader.session.chunks loader.session.chunkPaths

/-- `loader.iter_frames(window=…, frame_filter=…, from_cursor=…)`.  The chunk loaders are
    all built before the first frame is read. -/
def iterFrames (window : Option ReplayWindow := none)
    (frameFilter : ReplayFrame → Bool := fun _ => true)
    (fromCursor : Option ReplayCursor := none) : Except LoadError (List ReplayFrame) :=
  let cursorStart := (fromCursor.map fun cursor => cursor.lastSequence + 1).getD 0
  let mergedWindow := ReplayWindow.mergeCursor window cursorStart
  loader.buildChunkLoaders.map fun chunks =>
    mergedWindow.stream frameFilter (chunks.flatMap fun chunk => loader.dir.readChunk chunk.2)

/-- `inspect_chunk`. -/
def inspectChunk (dir : SessionDir σ) (chunk : ChunkRecord) (path : Int) : ChunkHealth :=
  match dir.fileAt path with
  | none =>
    { chunkIndex := chunk.index, path := path, lineCount := 0
      expectedEventCount := chunk.eventCount, healthy := false }
  | some file =>
    let lineCount := file.frames.length
    { chunkIndex := chunk.index, path := path, lineCount := lineCount
      expectedEventCount := chunk.eventCount
      healthy := lineCount > 0 && (chunk.eventCount == 0 || lineCount ≥ chunk.eventCount) }

/-- `loader.chunk_health()`. -/
def chunkHealth : Except LoadError (List ChunkHealth) :=
  (zipStrict loader.session.chunks loader.session.chunkPaths).map fun pairs =>
    pairs.map fun pair => inspectChunk loader.dir pair.1 pair.2

/-- `plan_sequence_seek`, on the session's records. -/
def planSequenceSeek (targetSequence : Int) : SeekPlan σ :=
  match loader.sequenceIndex.chunkForSequence targetSequence with
  | none => { startingChunkIndex := 0, snapshot := none, chunksToScan := 0 }
  | some entry =>
    { startingChunkIndex := entry.chunkIndex
      snapshot := loader.snapshotIndex.nearestAtOrBefore targetSequence
      chunksToScan := loader.session.chunks.countP fun c => entry.chunkIndex ≤ c.index }

/-- The loop of `execute_seek` over `zip(chunks, chunk_paths, strict=True)`: it raises only
    when it gets to the end of the shorter list. -/
def walkPaths (dir : SessionDir σ) (startingChunkIndex : Int)
    (targetPredicate : ReplayFrame → Bool) : List ChunkRecord → List Int → Nat →
    Except LoadError (Option (ChunkRecord × ReplayFrame) × Nat)
  | [], [], chunksScanned => .ok (none, chunksScanned)
  | chunk :: chunks, path :: paths, chunksScanned =>
    if chunk.index < startingChunkIndex then
      walkPaths dir startingChunkIndex targetPredicate chunks paths chunksScanned
    else
      match (dir.readChunk path).find? targetPredicate with
      | some frame => .ok (some (chunk, frame), chunksScanned + 1)
      | none => walkPaths dir startingChunkIndex targetPredicate chunks paths (chunksScanned + 1)
  | _, _, _ => .error .lengthMismatch

/-- `execute_seek`, on the session's records and paths. -/
def executeSeek (plan : SeekPlan σ) (targetPredicate : ReplayFrame → Bool) :
    Except LoadError SeekResult :=
  if plan.startingChunkIndex = 0 then
    .ok { cursor := .atStart, landedFrame := none, chunksScanned := 0 }
  else
    (walkPaths loader.dir plan.startingChunkIndex targetPredicate loader.session.chunks
        loader.session.chunkPaths 0).map fun
      | (none, chunksScanned) =>
        { cursor := .atStart, landedFrame := none, chunksScanned := chunksScanned }
      | (some (chunk, frame), chunksScanned) =>
        let cursor := ReplayCursor.atStart.advance chunk.index frame.sequence frame.monotonicNs
        { cursor := match plan.snapshot with
            | some snapshot => cursor.withSnapshot snapshot.record.index
            | none => cursor
          landedFrame := some frame
          chunksScanned := chunksScanned }

/-- `loader.seek_to_sequence(target_sequence)`, without the loader's own cursor. -/
def seekToSequence (targetSequence : Int) : Except LoadError SeekResult :=
  loader.executeSeek (loader.planSequenceSeek targetSequence) fun frame =>
    targetSequence ≤ frame.sequence

/-- What a loader is opened for: it iterates every frame on disk in order, its health
    report covers every event file, and a seek lands on the first frame at or after its
    target. -/
structure Loads (loader : ReplayEventLoader σ) : Prop where
  iterates : loader.iterFrames = .ok loader.dir.frames
  covers : ∃ report, loader.chunkHealth = .ok report ∧
    report.map ChunkHealth.path = loader.dir.eventFiles.map Chunk.index
  lands : ∀ s, ∃ result, loader.seekToSequence s = .ok result ∧
    result.landedFrame = loader.dir.frames.find? fun f => s ≤ f.sequence

/-! ## Parallel lists -/

theorem zipStrict_map {α β γ : Type _} (f : γ → α) (g : γ → β) (xs : List γ) :
    zipStrict (xs.map f) (xs.map g) = .ok (xs.map fun x => (f x, g x)) := by
  induction xs with
  | nil => rfl
  | cons x xs ih =>
    rw [List.map_cons, List.map_cons, zipStrict, ih]
    rfl

/-- Records and paths of the same files: the walk over the paths is the walk over the
    files. -/
theorem walkPaths_map (dir : SessionDir σ) (start : Int) (p : ReplayFrame → Bool)
    (files : List Chunk) (n : Nat) (hmem : ∀ file ∈ files, file ∈ dir.eventFiles) :
    walkPaths dir start p (files.map Chunk.record) (files.map Chunk.index) n
      = .ok ((walkChunks start p files n).1.map fun landing => (landing.1.record, landing.2),
          (walkChunks start p files n).2) := by
  induction files generalizing n with
  | nil => rfl
  | cons file files ih =>
    have hrest := fun n => ih n fun other hother => hmem other (List.mem_cons_of_mem file hother)
    rw [List.map_cons, List.map_cons, walkPaths, walkChunks, Chunk.record_index]
    by_cases hbefore : file.index < start
    · rw [if_pos hbefore, if_pos hbefore]
      exact hrest n
    · rw [if_neg hbefore, if_neg hbefore,
        SessionDir.readChunk_of_mem (hmem file List.mem_cons_self)]
      cases hfind : file.frames.find? p with
      | some frame => rfl
      | none => exact hrest (n + 1)

/-- The default window drops nothing that is recorded. -/
theorem stream_default (frames : List ReplayFrame)
    (hnonneg : ∀ f ∈ frames, 0 ≤ f.sequence ∧ 0 ≤ f.monotonicNs) :
    ReplayWindow.stream {} (fun _ => true) frames = frames := by
  induction frames with
  | nil => rfl
  | cons f frames ih =>
    obtain ⟨hsequence, hmonotonic⟩ := hnonneg f List.mem_cons_self
    have hinside : ReplayWindow.belowWindow {} f = false := by
      simp [ReplayWindow.belowWindow, hsequence, hmonotonic]
    have hrest := ih fun g hg => hnonneg g (List.mem_cons_of_mem f hg)
    rw [ReplayWindow.stream, hinside, hrest]
    rfl

/-! ## A complete manifest -/

/-- The manifest in `dir` is the complete one of `session`; the index file, if `stop` has
    written it, has the entries of the same records. -/
structure Complete (dir : SessionDir σ) (session : ReplaySession σ) : Prop where
  manifest : ∃ metadata, dir.manifest = .readable metadata ∧
    metadata.chunks = session.chunks.map Chunk.record ∧
    metadata.snapshots = session.snapshots.map SnapshotFile.record
  index : dir.index = .missing ∨
    dir.index = .readable (buildIndexFromChunks (session.chunks.map Chunk.record))
  files : dir.eventFiles = session.chunks
  payloads : ∀ file ∈ session.snapshots, dir.snapshotPayload file.record.index = file.payload

/-- The loader has the lists and the indexes of `session`. -/
structure Reads (loader : ReplayEventLoader σ) (session : ReplaySession σ) : Prop where
  files : loader.dir.eventFiles = session.chunks
  chunks : loader.session.chunks = session.chunks.map Chunk.record
  paths : loader.session.chunkPaths = session.chunks.map Chunk.index
  sequenceIndex : loader.sequenceIndex = session.sequenceIndex
  snapshotIndex : loader.snapshotIndex = session.snapshotIndex

theorem fromSessionDir_complete {dir : SessionDir σ} {session : ReplaySession σ}
    (h : Complete dir session) {metadata : RecordingMetadata}
    (hchunks : metadata.chunks = session.chunks.map Chunk.record) :
    ReplayIndex.fromSessionDir dir metadata = .ok session.sequenceIndex := by
  rw [ReplayIndex.fromSessionDir]
  rcases h.index with hmissing | hreadable
  · rw [hmissing, hchunks]
    rfl
  · rw [hreadable]
    rfl

theorem snapshots_complete {dir : SessionDir σ} {session : ReplaySession σ}
    (h : Complete dir session) :
    ((session.snapshots.map SnapshotFile.record).map fun record =>
      ({ record := record, payload := dir.snapshotPayload record.index } : SnapshotFile σ))
      = session.snapshots := by
  rw [List.map_map]
  refine (List.map_congr_left fun file hfile => ?_).trans session.snapshots.map_id
  rw [Function.comp_apply, h.payloads file hfile]
  rfl

/-- A complete manifest opens, with or without the fallback. -/
theorem openSession_complete {dir : SessionDir σ} {session : ReplaySession σ}
    (h : Complete dir session) (config : ReplayLoaderConfig) (rebuild : Bool) :
    ∃ loader, openSession dir config rebuild = .ok loader ∧ loader.dir = dir ∧
      loader.Reads session := by
  obtain ⟨metadata, hmanifest, hchunks, hsnapshots⟩ := h.manifest
  have hload : loadManifest dir = .ok (resolveLayout metadata) := by
    rw [loadManifest, readManifest, hmanifest]
  have hrebuild : loadManifestOrRebuild dir = .ok (resolveLayout metadata) := by
    rw [loadManifestOrRebuild, hload]
  have hpaths : (resolveLayout metadata).chunkPaths = session.chunks.map Chunk.index := by
    rw [resolveLayout, hchunks, List.map_map]
    exact List.map_congr_left fun c _ => c.record_index
  have hlength : (resolveLayout metadata).chunks.length
      = (resolveLayout metadata).chunkPaths.length := by
    rw [hpaths, LoaderSession.chunks, resolveLayout, hchunks, List.length_map, List.length_map]
  have hinit : init dir (resolveLayout metadata) = .ok
      { dir := dir, session := resolveLayout metadata
        sequenceIndex := session.sequenceIndex, snapshotIndex := session.snapshotIndex } := by
    have hrecords : (resolveLayout metadata).snapshots
        = session.snapshots.map SnapshotFile.record := hsnapshots
    rw [init, hrecords, snapshots_complete h]
    change Except.map _ (ReplayIndex.fromSessionDir dir metadata) = _
    rw [fromSessionDir_complete h hchunks]
    rfl
  have hreads : Reads (ReplayEventLoader.mk dir (resolveLayout metadata) session.sequenceIndex
      session.snapshotIndex) session := ⟨h.files, hchunks, hpaths, rfl, rfl⟩
  refine ⟨_, ?_, rfl, hreads⟩
  have hverify : verifySession (resolveLayout metadata).chunks (resolveLayout metadata).chunkPaths
      = .ok () := by
    rw [verifySession, if_neg (not_not_intro hlength)]
  cases rebuild <;> cases hconfig : config.verifyIntegrity <;>
    simp [openSession, hload, hrebuild, hinit, hconfig, hverify, bind, Except.bind, pure,
      Except.pure]

section Complete

variable {loader : ReplayEventLoader σ} {session : ReplaySession σ}

theorem Reads.zip (h : loader.Reads session) :
    zipStrict loader.session.chunks loader.session.chunkPaths
      = .ok (session.chunks.map fun c => (c.record, c.index)) := by
  rw [h.chunks, h.paths, zipStrict_map]

theorem Reads.readChunk (h : loader.Reads session) {c : Chunk} (hc : c ∈ session.chunks) :
    loader.dir.readChunk c.index = c.frames :=
  SessionDir.readChunk_of_mem (h.files ▸ hc)

/-- The iteration goes through all recorded frames. -/
theorem Reads.iterFrames_eq (h : loader.Reads session)
    (htimes : ∀ f ∈ session.frames, 0 ≤ f.monotonicNs) :
    loader.iterFrames = .ok session.frames := by
  have hframes : ((session.chunks.map fun c => (c.record, c.index)).flatMap fun chunk =>
      loader.dir.readChunk chunk.2) = session.frames := by
    rw [List.flatMap_map]
    exact List.flatMap_congr fun c hc => h.readChunk hc
  rw [iterFrames, buildChunkLoaders, h.zip]
  change Except.ok (ReplayWindow.stream {} _ _) = _
  rw [hframes, stream_default session.frames fun f hf => ⟨session.nonneg f hf, htimes f hf⟩]

/-- The health report is about every chunk, with the number of its lines. -/
theorem Reads.chunkHealth_eq (h : loader.Reads session) :
    loader.chunkHealth
      = .ok (session.chunks.map fun c => inspectChunk loader.dir c.record c.index) := by
  rw [chunkHealth, h.zip]
  change Except.ok (List.map _ (List.map _ session.chunks)) = _
  rw [List.map_map]
  rfl

/-- A seek of the loader is the seek of the session. -/
theorem Reads.seekToSequence_eq (h : loader.Reads session) (s : Int) :
    loader.seekToSequence s = .ok (session.seekToSequence s) := by
  have hplan : (loader.planSequenceSeek s).startingChunkIndex
      = (Replay.planSequenceSeek s session.sequenceIndex session.snapshotIndex
          session.chunks).startingChunkIndex ∧
      (loader.planSequenceSeek s).snapshot
        = (Replay.planSequenceSeek s session.sequenceIndex session.snapshotIndex
          session.chunks).snapshot := by
    rw [planSequenceSeek, Replay.planSequenceSeek, h.sequenceIndex, h.snapshotIndex]
    cases session.sequenceIndex.chunkForSequence s with
    | none => exact ⟨rfl, rfl⟩
    | some entry => exact ⟨rfl, rfl⟩
  rw [seekToSequence, executeSeek, ReplaySession.seekToSequence, Replay.executeSeek, hplan.1,
    hplan.2, h.chunks, h.paths,
    walkPaths_map loader.dir _ _ session.chunks 0 fun c hc => h.files ▸ hc]
  generalize Replay.planSequenceSeek s session.sequenceIndex session.snapshotIndex
    session.chunks = plan
  by_cases hstart : plan.startingChunkIndex = 0
  · rw [if_pos hstart, if_pos hstart]
  · rw [if_neg hstart, if_neg hstart]
    cases hwalk : walkChunks plan.startingChunkIndex (fun f => decide (s ≤ f.sequence))
        session.chunks 0 with
    | mk landing scanned =>
    cases landing with
    | none => rfl
    | some found =>
      change Except.ok _ = Except.ok _
      cases plan.snapshot with
      | none => simp only [Option.map_some, Chunk.record_index]
      | some snapshot => simp only [Option.map_some, Chunk.record_index]

end Complete

/-- A complete manifest: the loader iterates every frame, reports on every chunk, and
    seeks as the session does. -/
theorem complete_loads {dir : SessionDir σ} {session : ReplaySession σ}
    (h : Complete dir session) (htimes : ∀ f ∈ session.frames, 0 ≤ f.monotonicNs)
    (config : ReplayLoaderConfig) (rebuild : Bool) :
    ∃ loader, openSession dir config rebuild = .ok loader ∧
      loader.iterFrames = .ok session.frames ∧
      loader.chunkHealth
        = .ok (session.chunks.map fun c => inspectChunk dir c.record c.index) ∧
      ∀ s, loader.seekToSequence s = .ok (session.seekToSequence s) := by
  obtain ⟨loader, hopen, hdir, hreads⟩ := openSession_complete h config rebuild
  refine ⟨loader, hopen, hreads.iterFrames_eq htimes, ?_, hreads.seekToSequence_eq⟩
  rw [hreads.chunkHealth_eq, hdir]

/-! ## No readable manifest -/

/-- The rebuilt session has paths without records: building its chunk loaders raises as
    soon as there is an event file. -/
theorem zipStrict_rebuilt (dir : SessionDir σ) (hfiles : dir.eventFiles ≠ []) :
    zipStrict (rebuiltSession dir).chunks (rebuiltSession dir).chunkPaths
      = .error .lengthMismatch := by
  cases hcons : dir.eventFiles with
  | nil => exact absurd hcons hfiles
  | cons file files =>
    rw [rebuiltSession, hcons]
    rfl

theorem loadManifestOrRebuild_missing {dir : SessionDir σ} (h : dir.manifest = .missing) :
    loadManifestOrRebuild dir = .ok (rebuiltSession dir) := by
  rw [loadManifestOrRebuild, loadManifest, readManifest, h]

theorem loadManifestOrRebuild_malformed {dir : SessionDir σ} (h : dir.manifest = .malformed) :
    loadManifestOrRebuild dir = .error .malformedManifest := by
  rw [loadManifestOrRebuild, loadManifest, readManifest, h]

/-- An opened loader has the session that was loaded. -/
theorem openSession_ok {dir : SessionDir σ} {config : ReplayLoaderConfig}
    {loader : ReplayEventLoader σ} (h : openSession dir config true = .ok loader) :
    ∃ session, loadManifestOrRebuild dir = .ok session ∧ loader.dir = dir ∧
      loader.session = session ∧ dir.index ≠ .malformed := by
  cases hload : loadManifestOrRebuild dir with
  | error e => simp [openSession, hload, bind, Except.bind] at h
  | ok session =>
    cases hindex : ReplayIndex.fromSessionDir dir session.metadata with
    | error e => simp [openSession, hload, init, hindex, Except.map, bind, Except.bind] at h
    | ok sequenceIndex =>
      have hreadable : dir.index ≠ .malformed := by
        intro hmalformed
        simp [ReplayIndex.fromSessionDir, hmalformed] at hindex
      refine ⟨session, rfl, ?_⟩
      cases hconfig : config.verifyIntegrity <;>
        cases hverify : verifySession session.chunks session.chunkPaths <;>
        simp [openSession, hload, init, hindex, Except.map, hconfig, hverify, bind, Except.bind,
          pure, Except.pure] at h <;>
        exact ⟨by rw [← h], by rw [← h], hreadable⟩

/-- What a loader of the rebuilt session can do with an event file: nothing. -/
theorem not_loads_rebuilt {dir : SessionDir σ} {loader : ReplayEventLoader σ}
    (hsession : loader.session = rebuiltSession dir) (hfiles : dir.eventFiles ≠ []) :
    ¬ loader.Loads := by
  intro hloads
  have hiterates := hloads.iterates
  rw [iterFrames, buildChunkLoaders, hsession, zipStrict_rebuilt dir hfiles] at hiterates
  exact absurd hiterates (by simp [Except.map])

/-- Without event files there is nothing to read, whatever index is on disk. -/
theorem loads_rebuilt_empty {dir : SessionDir σ} {loader : ReplayEventLoader σ}
    (hdir : loader.dir = dir) (hsession : loader.session = rebuiltSession dir)
    (hfiles : dir.eventFiles = []) : loader.Loads := by
  have hchunks : loader.session.chunks = [] := by rw [hsession]; rfl
  have hpaths : loader.session.chunkPaths = [] := by
    rw [hsession, rebuiltSession, hfiles]
    rfl
  have hframes : loader.dir.frames = [] := by
    rw [hdir, SessionDir.frames, hfiles]
    rfl
  constructor
  · rw [iterFrames, buildChunkLoaders, hchunks, hpaths, hframes]
    rfl
  · refine ⟨[], ?_, ?_⟩
    · rw [chunkHealth, hchunks, hpaths]
      rfl
    · rw [hdir, hfiles]
      rfl
  · intro s
    rw [seekToSequence, executeSeek, hframes, hchunks, hpaths]
    by_cases hstart : (loader.planSequenceSeek s).startingChunkIndex = 0
    · rw [if_pos hstart]
      exact ⟨_, rfl, rfl⟩
    · rw [if_neg hstart]
      exact ⟨_, rfl, rfl⟩

theorem openSession_rebuilt {dir : SessionDir σ} (hmanifest : dir.manifest = .missing)
    (hindex : dir.index ≠ .malformed) (hfiles : dir.eventFiles = [])
    (config : ReplayLoaderConfig) :
    ∃ loader, openSession dir config true = .ok loader := by
  have hverify : verifySession (rebuiltSession dir).chunks (rebuiltSession dir).chunkPaths
      = .ok () := by
    rw [rebuiltSession, hfiles]
    rfl
  have hload := loadManifestOrRebuild_missing hmanifest
  cases hsequence : ReplayIndex.fromSessionDir dir (rebuiltSession dir).metadata with
  | error e =>
    -- only a malformed index file raises here
    rw [ReplayIndex.fromSessionDir] at hsequence
    cases hstored : dir.index with
    | missing => simp [hstored] at hsequence
    | malformed => exact absurd hstored hindex
    | readable entries => simp [hstored] at hsequence
  | ok sequenceIndex =>
    cases hconfig : config.verifyIntegrity <;>
      simp [openSession, hload, init, hsequence, Except.map, hconfig, hverify, bind, Except.bind,
        pure, Except.pure]

/-- Opened with manifest rebuilding on a directory without a readable manifest, the loader
    reads the recording exactly if the manifest is missing, no index file is malformed, and
    there is no event file. -/
theorem rebuilt_loads_iff (dir : SessionDir σ) (config : ReplayLoaderConfig)
    (hmanifest : ∀ metadata, dir.manifest ≠ .readable metadata) :
    (∃ loader, openSession dir config true = .ok loader ∧ loader.Loads) ↔
      dir.manifest = .missing ∧ dir.index ≠ .malformed ∧ dir.eventFiles = [] := by
  constructor
  · rintro ⟨loader, hopen, hloads⟩
    obtain ⟨session, hload, -, hsession, hindex⟩ := openSession_ok hopen
    cases hstored : dir.manifest with
    | missing =>
      rw [loadManifestOrRebuild_missing hstored, Except.ok.injEq] at hload
      refine ⟨rfl, hindex, ?_⟩
      by_contra hfiles
      exact not_loads_rebuilt (hsession.trans hload.symm) hfiles hloads
    | malformed =>
      rw [loadManifestOrRebuild_malformed hstored] at hload
      exact absurd hload (by simp)
    | readable metadata => exact absurd hstored (hmanifest metadata)
  · rintro ⟨hmissing, hindex, hfiles⟩
    obtain ⟨loader, hopen⟩ := openSession_rebuilt hmissing hindex hfiles config
    obtain ⟨session, hload, hdir, hsession, -⟩ := openSession_ok hopen
    rw [loadManifestOrRebuild_missing hmissing, Except.ok.injEq] at hload
    exact ⟨loader, hopen, loads_rebuilt_empty hdir (hsession.trans hload.symm) hfiles⟩

/-- The directory of a recording that never got to its first event file. -/
def emptyDir : SessionDir Unit :=
  { manifest := .missing
    index := .missing
    eventFiles := []
    snapshotPayload := fun _ => ()
    indexed := List.Pairwise.nil
    increasing := List.Pairwise.nil }

/-- A directory with one event file of one line, and no manifest. -/
def oneFrameDir : SessionDir Unit :=
  { manifest := .missing
    index := .missing
    eventFiles := [{ index := 1, frames := [⟨1, 0, "", default⟩] }]
    snapshotPayload := fun _ => ()
    indexed := List.pairwise_singleton _ _
    increasing := List.pairwise_singleton _ _ }

/-- The first is rebuilt so that it loads, and the second is not. -/
theorem rebuilt_loads_empty :
    (∃ loader, openSession emptyDir {} true = .ok loader ∧ loader.Loads) ∧
    ¬ ∃ loader, openSession oneFrameDir {} true = .ok loader ∧ loader.Loads := by
  have hempty : ∀ metadata, emptyDir.manifest ≠ .readable metadata := by
    intro metadata h
    cases h
  have hone : ∀ metadata, oneFrameDir.manifest ≠ .readable metadata := by
    intro metadata h
    cases h
  have hindex : emptyDir.index ≠ .malformed := by
    intro h
    cases h
  refine ⟨(rebuilt_loads_iff emptyDir {} hempty).mpr ⟨rfl, hindex, rfl⟩, fun h => ?_⟩
  exact List.cons_ne_nil _ _ ((rebuilt_loads_iff oneFrameDir {} hone).mp h).2.2

theorem not_rebuilt_loads_oneFrame :
    (∀ metadata, oneFrameDir.manifest ≠ .readable metadata) ∧
    ¬ ∃ loader, openSession oneFrameDir {} true = .ok loader ∧ loader.Loads := by
  constructor
  · intro metadata h
    cases h
  rintro ⟨loader, hopen, hloads⟩
  obtain ⟨session, hload, -, hsession, -⟩ := openSession_ok hopen
  rw [loadManifestOrRebuild_missing rfl, Except.ok.injEq] at hload
  exact not_loads_rebuilt (hsession.trans hload.symm) (List.cons_ne_nil _ _) hloads

end ReplayEventLoader

end AsyncViz.Replay
