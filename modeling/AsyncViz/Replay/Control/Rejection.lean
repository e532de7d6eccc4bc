/-
  AsyncViz.Replay.Control.Rejection

  Requests that raise.  A request is entered in queue and pending table before the
  transition is checked, so a rejected pause or resume stays pending: the next frame
  carries the pause out, and the resume is in the table for good.  A rejected step only
  takes a request id.

  Taking an id is no harm: the coordinator that has taken one more is the old one up to
  a renumbering of the ids to come (`skip`), and by `call_renumber` it behaves alike in
  every continuation (`exec_renumber`).
-/

import AsyncViz.Replay.Control.Barriers
import AsyncViz.Replay.Control.Renumbering

namespace AsyncViz.Replay.Control

open AsyncViz.Lib AsyncViz.Lib.Transition

/-- Phase, gate, scheduler, pending requests and step frames are as they were. -/
structure LeftAs (c c' : ReplayPlaybackCoordinator) : Prop where
  state : c'.state = c.state
  gate : c'.gate = c.gate
  scheduler : c'.scheduler = c.scheduler
  pauses : c'.pause.pending = c.pause.pending
  resumes : c'.resume.pending = c.resume.pending
  steps : c'.pendingStepFrames = c.pendingStepFrames

/-- Rename the request ids of a session. -/
def Session.renumber (f : ℕ ↪ ℕ) (d : Nat) (s : Session) : Session :=
  { coordinator := s.coordinator.renumber f d
    calls := s.calls.map (Prod.map id (Reply.renumber f)) }

/-- `c'` is as `c` was, and whatever is called on it from there on, it does and replies
    what `c` does, up to the ids of later requests. -/
structure AsIfNotMade (c c' : ReplayPlaybackCoordinator) : Prop where
  left : LeftAs c c'
  later : ∃ f : ℕ ↪ ℕ, (∀ id ≤ c.dispatch.requestCounter, f id = id) ∧
    ∀ calls, exec Session.step { coordinator := c' } calls =
      (exec Session.step { coordinator := c } calls).map (Session.renumber f 1)

/-- Keep the ids up to `k` and put the later ones forward by one. -/
def skip (k : Nat) : ℕ ↪ ℕ where
  toFun id := if id ≤ k then id else id + 1
  inj' a b h := by
    dsimp only at h
    split at h <;> split at h <;> omega

theorem skip_of_le {k id : Nat} (h : id ≤ k) : skip k id = id := if_pos h

theorem skip_of_lt {k id : Nat} (h : k < id) : skip k id = id + 1 := if_neg (not_le.mpr h)

/-- Ids that are skipped are not in use. -/
def KnownIds (c : ReplayPlaybackCoordinator) : Prop :=
  ∀ k, c.dispatch.requestCounter ≤ k → c.renumber (skip k) 0 = c

/-! ## Ids -/

section Ids

variable {c : ReplayPlaybackCoordinator}

/-- Requests count up, other calls leave the counter alone. -/
theorem requestCounter_call (c : ReplayPlaybackCoordinator) (a : Call) :
    (a.IsRequest ∧ (call c a).1.dispatch.requestCounter = c.dispatch.requestCounter + 1) ∨
      (¬a.IsRequest ∧ (call c a).1.dispatch.requestCounter = c.dispatch.requestCounter) := by
  have hcalled := called_call c a
  generalize (call c a).1 = c', (call c a).2 = reply at hcalled ⊢
  cases hcalled with
  | pauseDeferred | pauseResolved | pausePausing | pauseIgnored | pauseRejected | resumePlaying
  | resumeResumed | resumeIgnored | resumeRejected | stepRejected | stepTaken =>
    exact .inl ⟨trivial, rfl⟩
  | _ => exact .inr ⟨id, rfl⟩

theorem requestCounter_le_call (c : ReplayPlaybackCoordinator) (a : Call) :
    c.dispatch.requestCounter ≤ (call c a).1.dispatch.requestCounter := by
  rcases requestCounter_call c a with ⟨-, h⟩ | ⟨-, h⟩ <;> omega

theorem knownIds_new {config : ReplayPlaybackCoordinationConfig} {clock : ReplayClock}
    {scheduler : ReplayScheduler} :
    KnownIds (ReplayPlaybackCoordinator.new config clock scheduler) := by
  intro k _
  have hzero : skip k 0 = 0 := skip_of_le (Nat.zero_le k)
  refine ReplayPlaybackCoordinator.ext rfl rfl rfl rfl ?_ rfl rfl rfl
  change ({ snapshot := PlaybackPhaseSnapshot.mk .idle 0 0 (skip k 0) (skip k 0) "" } :
    ReplayPlaybackStateHolder) = _
  rw [hzero]
  rfl

theorem knownIds_call (h : KnownIds c) (a : Call) : KnownIds (call c a).1 := by
  intro k hk
  have hle := requestCounter_le_call c a
  have hcall := call_renumber (skip k) 0 c a fun hrequest => ?_
  · rw [h k (hle.trans hk)] at hcall
    exact (congrArg Prod.fst hcall).symm
  · rcases requestCounter_call c a with ⟨-, hcounter⟩ | ⟨hnot, -⟩
    · exact skip_of_le (hcounter ▸ hk)
    · exact absurd hrequest hnot

/-- Only ids that have been given are pending. -/
theorem resume_pending_le (h : KnownIds c) {id : Nat} (hid : id ∈ c.resume.pending) :
    id ≤ c.dispatch.requestCounter := by
  have hkeys : c.resume.pending.keys.map (skip c.dispatch.requestCounter) =
      c.resume.pending.keys := by
    have hsame := congrArg (fun c => c.resume.pending.keys) (h _ le_rfl)
    refine Eq.trans ?_ hsame
    simp [Dict.keys, ReplayPlaybackCoordinator.renumber, PendingTable.renumber, Dict.rename]
  have hfixed : skip c.dispatch.requestCounter id = id := by
    have hmap := List.map_inj_left.mp (hkeys.trans (List.map_id _).symm)
    exact hmap id hid
  by_contra hlt
  rw [skip_of_lt (not_le.mp hlt)] at hfixed
  omega

end Ids

/-! ## Continuations -/

/-- Two sessions that differ by a renumbering differ by it ever after. -/
theorem exec_renumber {f : ℕ ↪ ℕ} {d : Nat} (calls : List Call) (s : Session)
    (hnext : ∀ id, s.coordinator.dispatch.requestCounter < id → f id = id + d) :
    exec Session.step (s.renumber f d) calls =
      (exec Session.step s calls).map (Session.renumber f d) := by
  induction calls generalizing s with
  | nil => rfl
  | cons a calls ih =>
    have hstep : (s.renumber f d).next a = (s.next a).renumber f d := by
      have hcall : call (s.renumber f d).coordinator a = _ :=
        call_renumber f d s.coordinator a fun _ => hnext _ (Nat.lt_succ_self _)
      rw [Session.next, hcall]
      refine congrArg (Session.mk _) ?_
      rw [Session.next_calls, List.map_append]
      rfl
    have hlater : ∀ id, (s.next a).coordinator.dispatch.requestCounter < id → f id = id + d :=
      fun id hid => hnext id ((requestCounter_le_call _ a).trans_lt hid)
    rw [exec_cons, exec_cons]
    change exec Session.step ((s.renumber f d).next a) calls =
      (exec Session.step (s.next a) calls).map _
    rw [hstep, ih _ hlater]

/-- A request id more is no difference. -/
theorem asIfNotMade_of_counter {c : ReplayPlaybackCoordinator} (h : KnownIds c) :
    AsIfNotMade c
      { c with dispatch := { c.dispatch with requestCounter := c.dispatch.requestCounter + 1 } } := by
  refine ⟨⟨rfl, rfl, rfl, rfl, rfl, rfl⟩, skip c.dispatch.requestCounter,
    fun id hid => skip_of_le hid, fun calls => ?_⟩
  have hskipped : c.renumber (skip c.dispatch.requestCounter) 1 =
      { c with dispatch := { c.dispatch with requestCounter := c.dispatch.requestCounter + 1 } } :=
    congrArg (fun c => { c with dispatch :=
      { c.dispatch with requestCounter := c.dispatch.requestCounter + 1 } }) (h _ le_rfl)
  rw [← hskipped]
  exact exec_renumber calls { coordinator := c } fun id hid => skip_of_lt hid

/-! ## Rejected requests -/

section Rejected

variable {config : ReplayPlaybackCoordinationConfig} {clock : ReplayClock}
  {scheduler : ReplayScheduler} {s : Session}

/-- A request that raises leaves no trace exactly when it is a step request. -/
theorem asIfNotMade_rejected_iff
    (hreach : Reachable Session.step (Session.start config clock scheduler) s) {a : Call}
    (ha : a.IsRequest) {error : ControlError}
    (hraised : (call s.coordinator a).2 = .raised error) :
    AsIfNotMade s.coordinator (call s.coordinator a).1 ↔
      ∃ frames reason now, a = .requestStep frames reason now := by
  have hfiled : Filed s.handles s.coordinator.pause s.coordinator.dispatch.requestCounter :=
    hreach.invariant (I := fun s => Filed s.handles s.coordinator.pause
      s.coordinator.dispatch.requestCounter)
      (fun _ a _ hfiled hstep => Session.eq_next_of_step hstep ▸ filed_next hfiled a) filed_empty
  have hknown : KnownIds s.coordinator :=
    hreach.invariant (I := fun s => KnownIds s.coordinator)
      (fun _ a _ hknown hstep => Session.eq_next_of_step hstep ▸ knownIds_call hknown a)
      knownIds_new
  have hcalled := called_call s.coordinator a
  generalize (call s.coordinator a).1 = c' at hcalled ⊢
  rw [hraised] at hcalled
  cases hcalled with
  | pauseRejected request hrequest =>
    refine iff_of_false (fun h => ?_) ?_
    · -- the request is in the table, and was not before
      have hnew : request.requestId ∈ s.coordinator.pause.pending := by
        rw [← h.left.pauses]
        exact mem_enterPause_iff.mpr (.inl rfl)
      rw [hrequest] at hnew
      exact absurd (hfiled.pending_le _ hnew) (Nat.not_succ_le_self _)
    · rintro ⟨frames, reason, now, heq⟩
      exact Call.noConfusion heq
  | resumeRejected =>
    refine iff_of_false (fun h => ?_) ?_
    · have hnew : s.coordinator.dispatch.requestCounter + 1 ∈ s.coordinator.resume.pending := by
        rw [← h.left.resumes]
        exact (Dict.mem_set_iff _ _ _ _).mpr (.inl rfl)
      exact absurd (resume_pending_le hknown hnew) (Nat.not_succ_le_self _)
    · rintro ⟨frames, reason, now, heq⟩
      exact Call.noConfusion heq
  | stepRejected => exact iff_of_true (asIfNotMade_of_counter hknown) ⟨_, _, _, rfl⟩
  | frameRejected => exact absurd ha id

end Rejected

/-- A step of no frames, rejected in `IDLE`. -/
theorem asIfNotMade_rejected_step :
    AsIfNotMade (Session.start {} { wallAnchorNs := 0 } {}).coordinator
      (call (Session.start {} { wallAnchorNs := 0 } {}).coordinator (.requestStep 0 "" 1)).1 :=
  (asIfNotMade_rejected_iff (a := .requestStep 0 "" 1) (reachable_refl _) trivial rfl).mpr
    ⟨0, "", 1, rfl⟩

/-- A pause rejected in `IDLE` is carried out after the first frame. -/
theorem not_asIfNotMade_rejected_pause :
    ∃ error, (call (Session.start {} { wallAnchorNs := 0 } {}).coordinator
        (.requestPause (some .immediate) 0 0 "" 1)).2 = .raised error ∧
      ¬AsIfNotMade (Session.start {} { wallAnchorNs := 0 } {}).coordinator
        (call (Session.start {} { wallAnchorNs := 0 } {}).coordinator
          (.requestPause (some .immediate) 0 0 "" 1)).1 := by
  refine ⟨_, rfl, fun h => ?_⟩
  obtain ⟨f, -, hlater⟩ := h.later
  have hphase : some PlaybackPhase.paused = some PlaybackPhase.playing :=
    congrArg (Option.map fun s : Session => s.coordinator.phase)
      (hlater [.markStarted, .onFrameDispatched 1 10 2])
  exact absurd hphase (by decide)

end AsyncViz.Replay.Control
