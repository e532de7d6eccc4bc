/-
  AsyncViz.Frontend.Session

  A client bound to the store (`bindClientToStore`): what the phase hook, the
  hydration hook and the wildcard subscription hand to the store.

  Client and store keep a cursor each.  An ordered envelope moves both to its
  sequence, and a hydration sets both; a `runtime_snapshot` and a failed hydration
  move the client's cursor back, and the store's only ever forward.
  `cursorsAgree_iff_forward`: the store takes all that the client fans out,
  throughout a run, exactly if neither happens below the store's cursor.
-/

import AsyncViz.Frontend.Client
import AsyncViz.Frontend.Store
import AsyncViz.Lib.Transition

namespace AsyncViz.Frontend

open AsyncViz.Lib.Transition

/-- A client and the store it is bound to. -/
structure Session where
  client : RuntimeWebSocketClient := {}
  store : RuntimeStoreState := {}

/-- Something that happens to the client, with the readings of `performance.now()`
    that the store takes on the way. -/
structure SessionAction where
  now : ℚ := 0
  hydrationDurationMs : ℚ := 0
  action : RuntimeWebSocketClient.ClientAction

namespace Session

/-- The listeners of `bindClientToStore`. -/
def listen (now hydrationDurationMs : ℚ) (store : RuntimeStoreState) :
    ClientEffect → RuntimeStoreState
  | .phase phase reconnectAttempt => store.setConnectionPhase phase (some reconnectAttempt)
  | .hydrated snapshot => store.hydrateSnapshot now snapshot hydrationDurationMs
  | .envelope envelope => store.applyEnvelopeReducer now envelope
  | .reject _ | .error | .transportOpen _ | .transportClose _ => store

/-- One action of the client, with what it makes the store do. -/
def step (s : Session) (a : SessionAction) : Option Session :=
  match s.client.act a.action with
  | none => none
  | some (client, effects) =>
    some ⟨client, effects.foldl (listen a.now a.hydrationDurationMs) s.store⟩

/-- Every ordered envelope that the client would fan out is one that the store's
    own gate lets through. -/
def CursorsAgree (s : Session) : Prop :=
  ∀ envelope : RuntimeEnvelope, envelope.payload.isOrdered = true →
    ClientEffect.envelope envelope ∈ (s.client.handleMessage (.ok envelope)).2 →
      (decideStoreSequence envelope.sequence s.store.lastSequence).Accepted

/-- The condition on one step: a snapshot, or a hydration that fails, does not
    move the client's cursor below the store's. -/
def Forward (s : Session) (a : SessionAction) : Prop :=
  match a.action with
  | .message (.ok ⟨_, _, .runtimeSnapshot payload⟩) =>
    match payload.lastSequence with
    | some last => s.store.lastSequence ≤ last
    | none => 0 ≤ s.client.sequence.lastSequence
  | .hydrationFailed => s.client.stopped = true ∨ s.store.lastSequence ≤ 0
  | _ => True

/-! ## What the listeners do to the store's cursor -/

/-- The effects that the store's cursor depends on. -/
def Moving : ClientEffect → Prop
  | .hydrated _ | .envelope _ => True
  | .phase _ _ | .reject _ | .error | .transportOpen _ | .transportClose _ => False

theorem foldl_listen_lastSequence {now duration : ℚ} {effects : List ClientEffect}
    (h : ∀ effect ∈ effects, ¬ Moving effect) (store : RuntimeStoreState) :
    (effects.foldl (listen now duration) store).lastSequence = store.lastSequence := by
  -- the listeners run in order, and none of these effects reaches the store's cursor
  induction effects generalizing store with
  | nil => rfl
  | cons effect effects ih =>
    rw [List.foldl_cons, ih fun e he => h e (List.mem_cons_of_mem _ he)]
    have hstill := h effect List.mem_cons_self
    cases effect with
    | hydrated | envelope => exact absurd trivial hstill
    | phase | reject | error | transportOpen | transportClose => rfl

end Session

namespace RuntimeWebSocketClient

open Session

/-- A call that leaves both cursors alone: the client's own, and what the effects
    would do to the store's. -/
def Still (c : RuntimeWebSocketClient) (result : RuntimeWebSocketClient × List ClientEffect) :
    Prop :=
  result.1.sequence = c.sequence ∧ ∀ effect ∈ result.2, ¬ Moving effect

theorem Still.cons {c : RuntimeWebSocketClient}
    {result : RuntimeWebSocketClient × List ClientEffect} {effect : ClientEffect}
    (h : c.Still result) (heffect : ¬ Moving effect) : c.Still (result.1, effect :: result.2) := by
  refine ⟨h.1, fun e he => ?_⟩
  rcases List.mem_cons.mp he with rfl | hrest
  · exact heffect
  · exact h.2 e hrest

theorem Still.of_sequence {c c' : RuntimeWebSocketClient}
    {result : RuntimeWebSocketClient × List ClientEffect} (h : c'.Still result)
    (hsequence : c'.sequence = c.sequence) : c.Still result :=
  ⟨h.1.trans hsequence, h.2⟩

theorem still_nil (c : RuntimeWebSocketClient) : c.Still (c, []) :=
  ⟨rfl, fun _ he => absurd he List.not_mem_nil⟩

theorem setPhase_still (c : RuntimeWebSocketClient) (phase : ConnectionPhase) :
    c.Still (c.setPhase phase) := by
  rw [setPhase]
  split
  · exact still_nil c
  · refine ⟨rfl, fun effect heffect => ?_⟩
    rw [List.mem_singleton.mp heffect]
    exact not_false

theorem connect_still (c : RuntimeWebSocketClient) : c.Still c.connect := by
  rw [connect]
  split
  · exact still_nil c
  · refine ⟨(setPhase_still c .connecting).1, fun effect heffect => ?_⟩
    rcases List.mem_append.mp heffect with hphase | hopen
    · exact (setPhase_still c .connecting).2 effect hphase
    · rw [List.mem_singleton.mp hopen]
      exact not_false

theorem forceReconnect_still (c : RuntimeWebSocketClient) : c.Still c.forceReconnect := by
  rw [forceReconnect]
  split
  · exact still_nil c
  · exact (still_nil c).cons not_false

theorem scheduleReconnect_still (c : RuntimeWebSocketClient) : c.Still c.scheduleReconnect := by
  rw [scheduleReconnect]
  split
  · exact still_nil c
  · split
    · exact setPhase_still c .failed
    · exact (setPhase_still _ .reconnecting).of_sequence rfl

theorem handleClose_still (c : RuntimeWebSocketClient) : c.Still c.handleClose := by
  rw [handleClose]
  split
  · exact (setPhase_still _ .disconnected).of_sequence rfl
  · exact (scheduleReconnect_still _).of_sequence rfl

/-- What comes of an envelope that is no snapshot: the tracker has its sequence,
    and it is rejected, or fanned out last. -/
theorem handleSequenced_spec (c : RuntimeWebSocketClient) (envelope : RuntimeEnvelope) :
    (c.handleSequenced envelope).1.sequence = (c.sequence.receive envelope.sequence).2 ∧
      ((¬ (c.sequence.decide envelope.sequence).Accepted ∧
          ∀ effect ∈ (c.handleSequenced envelope).2, ¬ Moving effect) ∨
        ((c.sequence.decide envelope.sequence).Accepted ∧
          ∃ phased, (∀ effect ∈ phased, ¬ Moving effect) ∧
            (c.handleSequenced envelope).2 = phased ++ [.envelope envelope])) := by
  rw [← SequenceTracker.receive_decision]
  rw [handleSequenced]
  generalize c.sequence.receive envelope.sequence = received
  obtain ⟨decision, sequence⟩ := received
  -- an accepted envelope may move the phase first, which neither cursor sees
  have hlive (client : RuntimeWebSocketClient) :
      client.Still
        (if isPreLivePhase client.phase then client.setPhase .live else (client, [])) := by
    split
    · exact setPhase_still client .live
    · exact still_nil client
  cases decision with
  | duplicate | stale =>
    refine ⟨rfl, .inl ⟨not_false, fun effect heffect => ?_⟩⟩
    rw [List.mem_singleton.mp heffect]
    exact not_false
  | accept | outOfOrder =>
    have hphase := hlive { c with sequence := sequence }
    exact ⟨hphase.1, .inr ⟨trivial, _, hphase.2, rfl⟩⟩

/-- The actions that neither end a hydration nor bring an envelope. -/
def ClientAction.Idle : ClientAction → Prop
  | .hydrationSucceeded _ | .hydrationFailed | .message (.ok _) => False
  | _ => True

/-- They leave both cursors alone. -/
theorem act_idle {c : RuntimeWebSocketClient} {action : ClientAction}
    {result : RuntimeWebSocketClient × List ClientEffect} (hidle : action.Idle)
    (h : c.act action = some result) : c.Still result := by
  cases action with
  | hydrationSucceeded | hydrationFailed => exact absurd hidle not_false
  | start =>
    cases h
    exact (setPhase_still _ .hydrating).of_sequence rfl
  | stop =>
    cases h
    exact ((setPhase_still _ .disconnected).of_sequence rfl).cons not_false
  | forceReconnect =>
    cases h
    exact forceReconnect_still c
  | reconnectFired id =>
    rw [act] at h
    split at h
    · cases h
      exact (connect_still _).of_sequence rfl
    · cases h
  | heartbeatFired =>
    rw [act] at h
    split at h
    · cases h
      exact (forceReconnect_still _).of_sequence rfl
    · cases h
  | opened =>
    cases h
    exact (setPhase_still _ .replaying).of_sequence rfl
  | message outcome =>
    cases outcome with
    | ok envelope => exact absurd hidle not_false
    | invalidJson | invalidShape | unknownType | protocolMismatch =>
      cases h
      exact (still_nil c).cons not_false
  | transportError =>
    cases h
    exact (still_nil c).cons not_false
  | closed =>
    cases h
    exact handleClose_still c

/-- What a fetched snapshot comes to. -/
theorem hydrationSucceeded_spec (c : RuntimeWebSocketClient) (snapshot : RuntimeSnapshot) :
    (c.hydrationSucceeded snapshot).1.sequence = c.sequence.resnap snapshot.lastSequence ∧
      ∃ connected, (∀ effect ∈ connected, ¬ Moving effect) ∧
        (c.hydrationSucceeded snapshot).2 = .hydrated snapshot :: connected :=
  have h := connect_still { c with
    hydration := some snapshot
    sequence := c.sequence.resnap snapshot.lastSequence }
  ⟨h.1, _, h.2, rfl⟩

/-- What a failed fetch comes to. -/
theorem handleHydrationFailure_spec (c : RuntimeWebSocketClient) :
    c.handleHydrationFailure.1.sequence = (if c.stopped then c.sequence else c.sequence.reset 0) ∧
      ∀ effect ∈ c.handleHydrationFailure.2, ¬ Moving effect := by
  rw [handleHydrationFailure]
  split
  · exact (still_nil c).cons not_false
  · exact (connect_still { c with sequence := c.sequence.reset 0 }).cons not_false

/-- What a snapshot on the socket comes to. -/
theorem handleSnapshot_spec (c : RuntimeWebSocketClient) (envelope : RuntimeEnvelope)
    (payload : RuntimeSnapshotPayload) :
    (c.handleSnapshot envelope payload).1.sequence =
        (match payload.lastSequence with
          | none => c.sequence
          | some last => c.sequence.resnap last) ∧
      ∃ phased, (∀ effect ∈ phased, ¬ Moving effect) ∧
        (c.handleSnapshot envelope payload).2 = .envelope envelope :: phased := by
  rw [handleSnapshot]
  cases payload.lastSequence with
  | none =>
    have h := setPhase_still c .live
    exact ⟨h.1, _, h.2, rfl⟩
  | some last =>
    have h := setPhase_still { c with sequence := c.sequence.resnap last } .live
    exact ⟨h.1, _, h.2, rfl⟩

/-- `_handleMessage` on an envelope that is no snapshot. -/
theorem handleMessage_ok (c : RuntimeWebSocketClient) {envelope : RuntimeEnvelope}
    (hkind : ∀ payload, envelope.payload ≠ .runtimeSnapshot payload) :
    ∃ heartbeat, c.handleMessage (.ok envelope) =
      { c with heartbeat := heartbeat }.handleSequenced envelope := by
  obtain ⟨timestamp, sequence, payload⟩ := envelope
  cases payload with
  | runtimeSnapshot payload => exact absurd rfl (hkind payload)
  | heartbeat | systemStatus | runtimeEvent | metricsDelta | warningDelta | timelineDelta
  | protocolError | replayStatus => exact ⟨_, rfl⟩

/-- An ordered envelope is fanned out exactly if the tracker accepts it. -/
theorem mem_handleMessage_iff (c : RuntimeWebSocketClient) {envelope : RuntimeEnvelope}
    (hordered : envelope.payload.isOrdered = true) :
    ClientEffect.envelope envelope ∈ (c.handleMessage (.ok envelope)).2 ↔
      (c.sequence.decide envelope.sequence).Accepted := by
  have hkind (payload) : envelope.payload ≠ .runtimeSnapshot payload := by
    intro hpayload
    rw [hpayload] at hordered
    cases hordered
  obtain ⟨heartbeat, hmessage⟩ := handleMessage_ok c hkind
  rw [hmessage]
  obtain ⟨-, ⟨hrejected, hstill⟩ | ⟨haccepted, phased, -, heffects⟩⟩ :=
    handleSequenced_spec { c with heartbeat := heartbeat } envelope
  · exact iff_of_false (fun hmem => hstill _ hmem trivial) hrejected
  · rw [heffects]
    exact iff_of_true (List.mem_append_right _ (List.mem_singleton_self _)) haccepted

end RuntimeWebSocketClient

namespace Session

open RuntimeWebSocketClient

/-! ## The two cursors along a run -/

/-- The store takes whatever the client would fan out next exactly if its cursor is
    not above the client's. -/
theorem cursorsAgree_iff (s : Session) :
    CursorsAgree s ↔ s.store.lastSequence ≤ s.client.sequence.lastSequence := by
  constructor
  · -- the envelope right above the client's cursor is the one to try
    intro h
    have hnext := h
      ⟨0, some (s.client.sequence.lastSequence + 1), .runtimeEvent (.other none none .null)⟩ rfl
    have hstore := hnext ((mem_handleMessage_iff _ rfl).mpr
      (SequenceTracker.decide_accepted_iff.mpr (Int.lt_succ _)))
    have habove := decideStoreSequence_accepted_iff.mp hstore
    omega
  · intro hle envelope hordered hmem
    have haccepted := (mem_handleMessage_iff s.client hordered).mp hmem
    cases hsequence : envelope.sequence with
    | none => trivial
    | some n =>
      rw [hsequence] at haccepted
      have habove := SequenceTracker.decide_accepted_iff.mp haccepted
      exact decideStoreSequence_accepted_iff.mpr (by omega)

theorem step_eq_some {s s' : Session} {a : SessionAction} (h : step s a = some s') :
    ∃ effects, s.client.act a.action = some (s'.client, effects) ∧
      s'.store = effects.foldl (listen a.now a.hydrationDurationMs) s.store := by
  rw [step] at h
  cases hact : s.client.act a.action with
  | none =>
    rw [hact] at h
    cases h
  | some result =>
    rw [hact] at h
    cases h
    exact ⟨result.2, rfl, rfl⟩

/-- A call that leaves both cursors alone does so in the session. -/
theorem cursors_of_still {s s' : Session} {now duration : ℚ} {effects : List ClientEffect}
    (hstill : s.client.Still (s'.client, effects))
    (hstore : s'.store = effects.foldl (listen now duration) s.store) :
    s'.client.sequence = s.client.sequence ∧ s'.store.lastSequence = s.store.lastSequence := by
  refine ⟨hstill.1, ?_⟩
  rw [hstore]
  exact foldl_listen_lastSequence hstill.2 s.store

theorem applyEnvelope_lastSequence_le {store : RuntimeStoreState} {now : ℚ}
    {envelope : RuntimeEnvelope}
    (hkind : ∀ payload, envelope.payload ≠ .runtimeSnapshot payload) :
    (store.applyEnvelopeReducer now envelope).lastSequence ≤
      maxSequence store.lastSequence envelope.sequence := by
  cases hordered : envelope.payload.isOrdered with
  | true => exact Int.le_of_eq (RuntimeStoreState.applyEnvelopeReducer_lastSequence hordered)
  | false =>
    rw [RuntimeStoreState.applyEnvelopeReducer_lastSequence_of_not_ordered hordered]
    split
    · next payload hpayload => exact absurd hpayload (hkind payload)
    · unfold maxSequence
      split
      · exact Int.le_refl _
      · split <;> omega

/-- An envelope that is no snapshot never puts the store's cursor above the
    client's. -/
theorem le_of_handleSequenced (c : RuntimeWebSocketClient) (store : RuntimeStoreState)
    (now duration : ℚ) {envelope : RuntimeEnvelope}
    (hkind : ∀ payload, envelope.payload ≠ .runtimeSnapshot payload)
    (hle : store.lastSequence ≤ c.sequence.lastSequence) :
    ((c.handleSequenced envelope).2.foldl (listen now duration) store).lastSequence ≤
      (c.handleSequenced envelope).1.sequence.lastSequence := by
  obtain ⟨htracker, hcase⟩ := handleSequenced_spec c envelope
  rw [htracker]
  have hgrows : c.sequence.lastSequence ≤
      (c.sequence.receive envelope.sequence).2.lastSequence := by
    cases envelope.sequence with
    | none => exact Int.le_refl _
    | some n =>
      rw [SequenceTracker.receive_lastSequence]
      split <;> omega
  -- rejected: only the tracker counts; accepted: the envelope is the last effect
  rcases hcase with ⟨-, hstill⟩ | ⟨haccepted, phased, hstill, heffects⟩
  · rw [foldl_listen_lastSequence hstill]
    omega
  · rw [heffects, List.foldl_append]
    have hphase : (phased.foldl (listen now duration) store).lastSequence = store.lastSequence :=
      foldl_listen_lastSequence hstill store
    refine Int.le_trans (applyEnvelope_lastSequence_le hkind) ?_
    rw [hphase]
    cases hsequence : envelope.sequence with
    | none =>
      rw [hsequence] at hgrows
      exact Int.le_trans hle hgrows
    | some n =>
      -- the sequence is above both cursors, and both go to it
      rw [hsequence] at haccepted
      have habove := SequenceTracker.decide_accepted_iff.mp haccepted
      rw [SequenceTracker.receive_lastSequence, if_pos habove]
      rw [maxSequence]
      split <;> omega

/-- The tracker of the client is the default one: a snapshot moves it back. -/
def BackwardSnapshots (s : Session) : Prop := s.client.sequence.allowBackwardSnapshot = true

theorem resnap_of_backward {t : SequenceTracker} (h : t.allowBackwardSnapshot = true) (n : Int) :
    t.resnap n = { t with lastSequence := n } := by
  rw [SequenceTracker.resnap]
  rw [h, Bool.true_or, if_pos rfl]

theorem receive_allowBackwardSnapshot (t : SequenceTracker) (sequence : Option Int) :
    (t.receive sequence).2.allowBackwardSnapshot = t.allowBackwardSnapshot := by
  rw [SequenceTracker.receive]
  cases t.decide sequence <;> cases sequence <;> rfl

/-- A hydration that succeeds sets both cursors. -/
theorem cursors_of_hydrated {s s' : Session} {now duration : ℚ} {snapshot : RuntimeSnapshot}
    (hback : BackwardSnapshots s)
    (h : step s ⟨now, duration, .hydrationSucceeded snapshot⟩ = some s') :
    s'.store.lastSequence = snapshot.lastSequence ∧
      s'.client.sequence = { s.client.sequence with lastSequence := snapshot.lastSequence } := by
  obtain ⟨effects, hact, hstore⟩ := step_eq_some h
  rw [act] at hact
  split at hact
  · cases hact
  · obtain ⟨hsequence, connected, hstill, heffects⟩ :=
      hydrationSucceeded_spec { s.client with hydrating := s.client.hydrating - 1 } snapshot
    have hresult := Option.some.inj hact
    rw [hresult] at hsequence heffects
    refine ⟨?_, hsequence.trans (resnap_of_backward hback _)⟩
    rw [hstore, show effects = _ from heffects, List.foldl_cons, foldl_listen_lastSequence hstill]
    rfl

/-- A hydration that fails sends the client's cursor to 0. -/
theorem cursors_of_hydrationFailed {s s' : Session} {now duration : ℚ}
    (h : step s ⟨now, duration, .hydrationFailed⟩ = some s') :
    s'.store.lastSequence = s.store.lastSequence ∧
      s'.client.sequence =
        if s.client.stopped then s.client.sequence else s.client.sequence.reset 0 := by
  obtain ⟨effects, hact, hstore⟩ := step_eq_some h
  rw [act] at hact
  split at hact
  · cases hact
  · obtain ⟨hsequence, hstill⟩ :=
      handleHydrationFailure_spec { s.client with hydrating := s.client.hydrating - 1 }
    have hresult := Option.some.inj hact
    rw [hresult] at hsequence hstill
    refine ⟨?_, hsequence⟩
    rw [hstore]
    exact foldl_listen_lastSequence hstill _

/-- A snapshot on the socket sets the client's cursor, and can only raise the
    store's. -/
theorem cursors_of_snapshot {s s' : Session} {now duration timestamp : ℚ} {sequence : Option Int}
    {payload : RuntimeSnapshotPayload} (hback : BackwardSnapshots s)
    (h : step s ⟨now, duration, .message (.ok ⟨timestamp, sequence, .runtimeSnapshot payload⟩)⟩ =
      some s') :
    s'.store.lastSequence =
        maxSequence s.store.lastSequence (some (payload.lastSequence.getD 0)) ∧
      s'.client.sequence = { s.client.sequence with
        lastSequence := payload.lastSequence.getD s.client.sequence.lastSequence } := by
  obtain ⟨effects, hact, hstore⟩ := step_eq_some h
  obtain ⟨hsequence, phased, hstill, heffects⟩ :=
    handleSnapshot_spec { s.client with heartbeat := s.client.heartbeat.recordFrame false }
      ⟨timestamp, sequence, .runtimeSnapshot payload⟩ payload
  have hresult := Option.some.inj hact
  have hlisted := (congrArg Prod.snd hresult).symm.trans heffects
  have htracker := (congrArg (fun r => r.1.sequence) hresult).symm.trans hsequence
  refine ⟨?_, ?_⟩
  · rw [hstore, show effects = _ from hlisted, List.foldl_cons, foldl_listen_lastSequence hstill]
    exact RuntimeStoreState.applyEnvelopeReducer_lastSequence_of_not_ordered rfl
  · refine htracker.trans ?_
    cases payload.lastSequence with
    | none => rfl
    | some last => exact resnap_of_backward hback last

/-- Any other envelope goes through the tracker, and does not put the store's cursor
    above the client's. -/
theorem cursors_of_sequenced {s s' : Session} {now duration : ℚ} {envelope : RuntimeEnvelope}
    (hkind : ∀ payload, envelope.payload ≠ .runtimeSnapshot payload)
    (h : step s ⟨now, duration, .message (.ok envelope)⟩ = some s') :
    s'.client.sequence = (s.client.sequence.receive envelope.sequence).2 ∧
      (s.store.lastSequence ≤ s.client.sequence.lastSequence →
        s'.store.lastSequence ≤ s'.client.sequence.lastSequence) := by
  obtain ⟨effects, hact, hstore⟩ := step_eq_some h
  obtain ⟨heartbeat, hmessage⟩ := handleMessage_ok s.client hkind
  have hresult := hmessage.symm.trans (Option.some.inj hact)
  have hspec := (handleSequenced_spec { s.client with heartbeat := heartbeat } envelope).1
  have hle := le_of_handleSequenced { s.client with heartbeat := heartbeat } s.store now duration
    hkind
  rw [hresult] at hspec hle
  rw [hstore]
  exact ⟨hspec, hle⟩

/-- What one step does to the two cursors. -/
inductive Moved (s s' : Session) : SessionAction → Prop
  | still {a : SessionAction} (hclient : s'.client.sequence = s.client.sequence)
    (hstore : s'.store.lastSequence = s.store.lastSequence) (hforward : Forward s a) : Moved s s' a
  | hydrated {now duration : ℚ} {snapshot : RuntimeSnapshot}
    (hstore : s'.store.lastSequence = snapshot.lastSequence)
    (hclient : s'.client.sequence =
      { s.client.sequence with lastSequence := snapshot.lastSequence }) :
    Moved s s' ⟨now, duration, .hydrationSucceeded snapshot⟩
  | hydrationFailed {now duration : ℚ} (hstore : s'.store.lastSequence = s.store.lastSequence)
    (hclient : s'.client.sequence =
      if s.client.stopped then s.client.sequence else s.client.sequence.reset 0) :
    Moved s s' ⟨now, duration, .hydrationFailed⟩
  | snapshot {now duration timestamp : ℚ} {sequence : Option Int} {payload : RuntimeSnapshotPayload}
    (hstore : s'.store.lastSequence =
      maxSequence s.store.lastSequence (some (payload.lastSequence.getD 0)))
    (hclient : s'.client.sequence = { s.client.sequence with
      lastSequence := payload.lastSequence.getD s.client.sequence.lastSequence }) :
    Moved s s' ⟨now, duration, .message (.ok ⟨timestamp, sequence, .runtimeSnapshot payload⟩)⟩
  | sequenced {a : SessionAction} (sequence : Option Int)
    (hclient : s'.client.sequence = (s.client.sequence.receive sequence).2)
    (hle : s.store.lastSequence ≤ s.client.sequence.lastSequence →
      s'.store.lastSequence ≤ s'.client.sequence.lastSequence) (hforward : Forward s a) :
    Moved s s' a

theorem step_moved {s s' : Session} {a : SessionAction} (hback : BackwardSnapshots s)
    (h : step s a = some s') : Moved s s' a := by
  obtain ⟨effects, hact, hstore⟩ := step_eq_some h
  obtain ⟨now, duration, action⟩ := a
  by_cases hidle : action.Idle
  · obtain ⟨hclient, hsame⟩ := cursors_of_still (act_idle hidle hact) hstore
    refine .still hclient hsame ?_
    cases action with
    | hydrationSucceeded | hydrationFailed => exact absurd hidle not_false
    | message outcome =>
      cases outcome with
      | ok => exact absurd hidle not_false
      | invalidJson | invalidShape | unknownType | protocolMismatch => trivial
    | start | stop | forceReconnect | reconnectFired | heartbeatFired | opened | transportError
    | closed => trivial
  · cases action with
    | start | stop | forceReconnect | reconnectFired | heartbeatFired | opened | transportError
    | closed => exact absurd trivial hidle
    | hydrationSucceeded snapshot =>
      obtain ⟨hstored, hclient⟩ := cursors_of_hydrated hback h
      exact .hydrated hstored hclient
    | hydrationFailed =>
      obtain ⟨hstored, hclient⟩ := cursors_of_hydrationFailed h
      exact .hydrationFailed hstored hclient
    | message outcome =>
      cases outcome with
      | invalidJson | invalidShape | unknownType | protocolMismatch => exact absurd trivial hidle
      | ok envelope =>
        obtain ⟨timestamp, sequence, payload⟩ := envelope
        cases payload with
        | runtimeSnapshot payload =>
          obtain ⟨hstored, hclient⟩ := cursors_of_snapshot hback h
          exact .snapshot hstored hclient
        | heartbeat | systemStatus | runtimeEvent | metricsDelta | warningDelta | timelineDelta
        | protocolError | replayStatus =>
          obtain ⟨hclient, hle⟩ :=
            cursors_of_sequenced (fun payload hpayload => by cases hpayload) h
          exact .sequenced sequence hclient hle trivial

/-- What one step does to the order of the two cursors. -/
theorem step_exact {s s' : Session} {a : SessionAction} (hback : BackwardSnapshots s)
    (hle : s.store.lastSequence ≤ s.client.sequence.lastSequence) (h : step s a = some s') :
    s'.store.lastSequence ≤ s'.client.sequence.lastSequence ↔ Forward s a := by
  cases step_moved hback h with
  | still hclient hstore hforward =>
    rw [hclient, hstore]
    exact iff_of_true hle hforward
  | hydrated hstore hclient =>
    rw [hstore, hclient]
    exact iff_of_true (Int.le_refl _) trivial
  | hydrationFailed hstore hclient =>
    rw [hstore, hclient, Forward]
    cases s.client.stopped with
    | true => exact iff_of_true hle (.inl rfl)
    | false => exact ⟨.inr, fun h => h.resolve_left Bool.false_ne_true⟩
  | @snapshot now duration timestamp sequence payload hstore hclient =>
    rw [hstore, hclient, Forward, maxSequence]
    dsimp only
    -- without a sequence the store takes 0, and the client keeps its cursor
    cases payload.lastSequence with
    | none =>
      dsimp only [Option.getD]
      split <;> omega
    | some last =>
      dsimp only [Option.getD]
      split <;> omega
  | sequenced sequence hclient hstays hforward => exact iff_of_true (hstays hle) hforward

/-- No step changes how the tracker takes a snapshot. -/
theorem step_backward {s s' : Session} {a : SessionAction} (hback : BackwardSnapshots s)
    (h : step s a = some s') : BackwardSnapshots s' := by
  rw [BackwardSnapshots]
  cases step_moved hback h with
  | still hclient | hydrated _ hclient | snapshot _ hclient =>
    rw [hclient]
    exact hback
  | hydrationFailed _ hclient =>
    rw [hclient]
    split <;> exact hback
  | sequenced _ hclient =>
    rw [hclient, receive_allowBackwardSnapshot]
    exact hback

/-- The two cursors agree throughout a run exactly if no snapshot and no failed
    hydration of the run takes the client's cursor below the store's. -/
theorem cursorsAgree_iff_forward {acts : List SessionAction} {s : Session}
    (hrun : exec step {} acts = some s) :
    AllStates step CursorsAgree {} acts ↔ AllSteps step Forward {} acts := by
  -- the invariant carried along: the tracker still takes snapshots backwards
  refine allStates_iff_allSteps (J := BackwardSnapshots)
    (fun s a s' hback hstep => step_backward hback hstep)
    (fun s a s' hback hagree hstep => ?_) rfl ((cursorsAgree_iff _).mpr (Int.le_refl _)) hrun
  rw [cursorsAgree_iff]
  exact step_exact hback ((cursorsAgree_iff s).mp hagree) hstep

/-- A snapshot of a runtime without tasks. -/
private def emptySnapshot (lastSequence : Int) : RuntimeSnapshot :=
  { runtimeId := "runtime", lastSequence := lastSequence }

/-- A session that hydrates at the given sequence and opens its socket. -/
private def hydratedAt (lastSequence : Int) : List SessionAction :=
  [⟨0, 0, .start⟩, ⟨0, 0, .hydrationSucceeded (emptySnapshot lastSequence)⟩, ⟨0, 0, .opened⟩]

theorem cursorsAgree_iff_forward_hydrated :
    (exec step {} (hydratedAt 10)).isSome = true ∧
      (AllStates step CursorsAgree {} (hydratedAt 10) ↔ AllSteps step Forward {} (hydratedAt 10)) :=
  ⟨rfl, cursorsAgree_iff_forward rfl⟩

/-- Hydrated at 10; then a restarted backend sends its snapshot at 0 and its first
    event: the client takes sequence 1, the store drops it as stale. -/
theorem restart_freezes_store :
    ∃ s, exec step {} (hydratedAt 10 ++ [⟨0, 0, .message (.ok
        ⟨0, none, .runtimeSnapshot { tasks := some [], lastSequence := some 0 }⟩)⟩]) = some s ∧
      s.client.sequence.lastSequence = 0 ∧ s.store.lastSequence = 10 ∧
      ClientEffect.envelope ⟨0, some 1, .runtimeEvent (.other none none .null)⟩ ∈
        (s.client.handleMessage (.ok ⟨0, some 1, .runtimeEvent (.other none none .null)⟩)).2 ∧
      decideStoreSequence (some 1) s.store.lastSequence = .stale :=
  ⟨_, rfl, rfl, rfl, List.mem_cons_self, rfl⟩

end Session

end AsyncViz.Frontend
