/-
  AsyncViz.Frontend.Lifecycle

  The phases of a client that has stopped or given up, and its calls of `transport.open()`, over
  whole runs: calls of the user, settled fetches, fired timers and transport events in any order.

  Only some branches look at `stopped` or at the phase before they set a new one: an open of the
  transport and a snapshot do not, and a fetch that settles or a timer that fires looks at `stopped`
  alone, which the next `start()` clears for what the last one has left in flight.
  `right_iff_harmless` says for which steps this shows.
-/

import AsyncViz.Frontend.Client
import AsyncViz.Lib.Transition

namespace AsyncViz.Frontend

open AsyncViz.Lib.Transition

/-! ## Runs -/

/-- Why a client is in a terminal phase. -/
inductive Ending where
  | stopped
  | exhausted
deriving DecidableEq, Repr

/-- The phase in which it should stay. -/
def Ending.phase : Ending → ConnectionPhase
  | .stopped => .disconnected
  | .exhausted => .failed

/-- How often `transport.open()` is called. -/
def openCalls (effects : List ClientEffect) : Nat :=
  effects.countP fun
    | .transportOpen _ => true
    | _ => false

theorem openCalls_append (effects effects' : List ClientEffect) :
    openCalls (effects ++ effects') = openCalls effects + openCalls effects' :=
  List.countP_append

/-- The message is a `runtime_snapshot`. -/
def isSnapshot : ParseOutcome → Bool
  | .ok ⟨_, _, .runtimeSnapshot _⟩ => true
  | _ => false

/-- A client, whether it has stopped or run out of attempts, and for every `start()` since the last
    close of the transport how often `open()` has been called since. -/
structure Lifecycle where
  client : RuntimeWebSocketClient
  ended : Option Ending := none
  opens : List Nat := []

namespace Lifecycle

/-- A client that has just been built. -/
def new (maxAttempts : Option Nat) : Lifecycle where
  client := { reconnect := { maxAttempts := maxAttempts } }

/-- `stop()` and a close without attempts left end it, until the next `start()`; the latter also
    until the transport opens. -/
def endedAfter (l : Lifecycle) : RuntimeWebSocketClient.ClientAction → Option Ending
  | .start => none
  | .stop => some .stopped
  | .opened => if l.ended = some .exhausted then none else l.ended
  | .closed =>
    if l.client.stopped = false ∧ l.client.reconnect.next = none then some .exhausted else l.ended
  | _ => l.ended

/-- The counts that an action goes on with. -/
def counted (l : Lifecycle) : RuntimeWebSocketClient.ClientAction → List Nat
  | .start => l.opens ++ [0]
  | .closed => []
  | _ => l.opens

/-- The lifecycle after what an action has done to the client. -/
def after (l : Lifecycle) (a : RuntimeWebSocketClient.ClientAction)
    (result : RuntimeWebSocketClient × List ClientEffect) : Lifecycle where
  client := result.1
  ended := l.endedAfter a
  opens := (l.counted a).map (· + openCalls result.2)

/-- One action. -/
def step (l : Lifecycle) (a : RuntimeWebSocketClient.ClientAction) : Option Lifecycle :=
  (l.client.act a).map (l.after a)

/-- A client that has ended is in the phase for it, and after no `start()` was the transport opened
    twice before it closed. -/
structure Right (l : Lifecycle) : Prop where
  phase : ∀ ending, l.ended = some ending → l.client.phase = ending.phase
  opens : ∀ n ∈ l.opens, n ≤ 1

/-- The action does no harm: the transport does not open for a client that has stopped, a snapshot
    does not reach one that has ended, and what would connect finds the client stopped, or one that
    has not ended and that has not opened the transport after a `start()` since the last close. -/
def Harmless (l : Lifecycle) : RuntimeWebSocketClient.ClientAction → Prop
  | .opened => l.client.stopped = false
  | .message outcome => isSnapshot outcome = true → l.ended = none
  | .hydrationSucceeded _ | .hydrationFailed | .reconnectFired _ =>
    l.client.stopped = true ∨ (l.ended = none ∧ ∀ n ∈ l.opens, n = 0)
  | _ => True

end Lifecycle

/-! ## What a call leaves -/

namespace RuntimeWebSocketClient

variable {c : RuntimeWebSocketClient}

/-- The phase, the flag and the attempts after a call, and how often it has opened the transport. -/
structure Leaves (result : RuntimeWebSocketClient × List ClientEffect) (phase : ConnectionPhase)
    (stopped : Bool) (reconnect : ReconnectScheduler) (opens : Nat) : Prop where
  phase : result.1.phase = phase
  stopped : result.1.stopped = stopped
  reconnect : result.1.reconnect = reconnect
  opens : openCalls result.2 = opens

theorem leaves_nil (c : RuntimeWebSocketClient) :
    Leaves (c, []) c.phase c.stopped c.reconnect 0 := ⟨rfl, rfl, rfl, rfl⟩

theorem setPhase_leaves (c : RuntimeWebSocketClient) (phase : ConnectionPhase) :
    Leaves (c.setPhase phase) phase c.stopped c.reconnect 0 := by
  rw [setPhase]
  by_cases hsame : c.phase = phase
  · rw [if_pos hsame, ← hsame]
    exact leaves_nil c
  · rw [if_neg hsame]
    exact ⟨rfl, rfl, rfl, rfl⟩

/-- An effect that does not open the transport does not count. -/
theorem Leaves.cons {result : RuntimeWebSocketClient × List ClientEffect}
    {phase : ConnectionPhase} {stopped : Bool} {reconnect : ReconnectScheduler} {opens : Nat}
    (h : Leaves result phase stopped reconnect opens) {effect : ClientEffect}
    (heffect : openCalls [effect] = 0) :
    Leaves (result.1, effect :: result.2) phase stopped reconnect opens := by
  refine ⟨h.phase, h.stopped, h.reconnect, ?_⟩
  show openCalls ([effect] ++ result.2) = opens
  rw [openCalls_append, heffect, Nat.zero_add, h.opens]

/-- One more effect counts by itself. -/
theorem Leaves.snoc {result : RuntimeWebSocketClient × List ClientEffect}
    {phase : ConnectionPhase} {stopped : Bool} {reconnect : ReconnectScheduler} {opens : Nat}
    (h : Leaves result phase stopped reconnect opens) (effect : ClientEffect) :
    Leaves (result.1, result.2 ++ [effect]) phase stopped reconnect
      (opens + openCalls [effect]) := by
  refine ⟨h.phase, h.stopped, h.reconnect, ?_⟩
  show openCalls (result.2 ++ [effect]) = opens + openCalls [effect]
  rw [openCalls_append, h.opens]

/-- What connects a client that has not stopped, and leaves one that has. -/
structure Attempt (c : RuntimeWebSocketClient)
    (result : RuntimeWebSocketClient × List ClientEffect) : Prop where
  running : c.stopped = false → Leaves result .connecting false c.reconnect 1
  stopped : c.stopped = true → Leaves result c.phase true c.reconnect 0

theorem connect_attempt (c : RuntimeWebSocketClient) : Attempt c c.connect := by
  refine ⟨fun hstopped => ?_, fun hstopped => ?_⟩
  · rw [connect, if_neg (Bool.eq_false_iff.mp hstopped), ← hstopped]
    exact (setPhase_leaves c .connecting).snoc (.transportOpen _)
  · rw [connect, if_pos hstopped, ← hstopped]
    exact leaves_nil c

theorem hydrationSucceeded_attempt (c : RuntimeWebSocketClient) (snapshot : RuntimeSnapshot) :
    Attempt c (c.hydrationSucceeded snapshot) := by
  obtain ⟨hrunning, hstopped⟩ := connect_attempt { c with
    hydration := some snapshot
    sequence := c.sequence.resnap snapshot.lastSequence }
  exact ⟨fun h => (hrunning h).cons rfl, fun h => (hstopped h).cons rfl⟩

theorem handleHydrationFailure_attempt (c : RuntimeWebSocketClient) :
    Attempt c c.handleHydrationFailure := by
  refine ⟨fun h => ?_, fun h => ?_⟩
  · rw [handleHydrationFailure, if_neg (Bool.eq_false_iff.mp h)]
    have hconnect : Leaves ({ c with sequence := c.sequence.reset 0 }).connect .connecting false
        c.reconnect 1 := (connect_attempt { c with sequence := c.sequence.reset 0 }).running h
    exact hconnect.cons rfl
  · rw [handleHydrationFailure, if_pos h, ← h]
    exact (leaves_nil c).cons rfl

theorem reconnectFired_attempt (c : RuntimeWebSocketClient) (id : Nat) :
    Attempt c (c.reconnectFired id) := by
  obtain ⟨hrunning, hstopped⟩ := connect_attempt { c with
    timers := c.timers.erase id
    reconnectTimer := none }
  exact ⟨hrunning, hstopped⟩

theorem start_leaves (c : RuntimeWebSocketClient) :
    Leaves c.start .hydrating false c.reconnect 0 := by
  obtain ⟨hphase, hstopped, hreconnect, hopens⟩ :=
    setPhase_leaves { c with stopped := false } .hydrating
  exact ⟨hphase, hstopped, hreconnect, hopens⟩

theorem stop_leaves (c : RuntimeWebSocketClient) :
    Leaves c.stop .disconnected true c.reconnect 0 :=
  (setPhase_leaves _ .disconnected).cons rfl

theorem forceReconnect_leaves (c : RuntimeWebSocketClient) :
    Leaves c.forceReconnect c.phase c.stopped c.reconnect 0 := by
  rw [forceReconnect]
  by_cases hstopped : c.stopped = true
  · rw [if_pos hstopped]
    exact leaves_nil c
  · rw [if_neg hstopped]
    exact (leaves_nil c).cons rfl

/-- An open of the transport is taken as the client's own, whatever it has done since. -/
theorem handleOpen_leaves (c : RuntimeWebSocketClient) :
    Leaves c.handleOpen .replaying c.stopped { c.reconnect with attempt := 0 } 0 := by
  obtain ⟨hphase, hstopped, hreconnect, hopens⟩ :=
    setPhase_leaves { c with reconnect := { c.reconnect with attempt := 0 } } .replaying
  exact ⟨hphase, hstopped, hreconnect, hopens⟩

/-- A close leaves a client that has stopped disconnected, and another one waiting or failed. -/
theorem handleClose_stopped (hstopped : c.stopped = true) :
    Leaves c.handleClose .disconnected true c.reconnect 0 := by
  have hset := setPhase_leaves { c with heartbeat := c.heartbeat.stop } .disconnected
  have hclose : c.handleClose =
      ({ c with heartbeat := c.heartbeat.stop } : RuntimeWebSocketClient).setPhase .disconnected :=
    if_pos hstopped
  rw [hclose, ← hstopped]
  exact hset

theorem handleClose_exhausted (hstopped : c.stopped = false) (hnext : c.reconnect.next = none) :
    Leaves c.handleClose .failed false c.reconnect 0 := by
  have hset := setPhase_leaves { c with heartbeat := c.heartbeat.stop } .failed
  have hclose : c.handleClose =
      ({ c with heartbeat := c.heartbeat.stop } : RuntimeWebSocketClient).setPhase .failed := by
    rw [handleClose]
    dsimp only
    rw [if_neg (Bool.eq_false_iff.mp hstopped), scheduleReconnect,
      if_neg (Bool.eq_false_iff.mp hstopped), hnext]
  rw [hclose, ← hstopped]
  exact hset

theorem handleClose_scheduled (hstopped : c.stopped = false) {reconnect : ReconnectScheduler}
    (hnext : c.reconnect.next = some reconnect) :
    Leaves c.handleClose .reconnecting false reconnect 0 := by
  obtain ⟨hphase, hsame, hreconnect, hopens⟩ := setPhase_leaves
    { c with heartbeat := c.heartbeat.stop, reconnect := reconnect } .reconnecting
  rw [handleClose]
  dsimp only
  rw [if_neg (Bool.eq_false_iff.mp hstopped), scheduleReconnect,
    if_neg (Bool.eq_false_iff.mp hstopped), hnext]
  exact ⟨hphase, hsame.trans hstopped, hreconnect, hopens⟩

/-- A snapshot makes the client live, whatever its phase. -/
theorem handleMessage_snapshot (c : RuntimeWebSocketClient) {outcome : ParseOutcome}
    (hsnapshot : isSnapshot outcome = true) :
    Leaves (c.handleMessage outcome) .live c.stopped c.reconnect 0 := by
  have hhandle : ∀ (c : RuntimeWebSocketClient) envelope payload,
      Leaves (c.handleSnapshot envelope payload) .live c.stopped c.reconnect 0 := by
    intro c envelope payload
    rw [handleSnapshot]
    cases payload.lastSequence with
    | none => exact (setPhase_leaves c .live).cons rfl
    | some last =>
      exact (setPhase_leaves { c with sequence := c.sequence.resnap last } .live).cons rfl
  cases outcome with
  | ok envelope =>
    obtain ⟨timestamp, sequence, payload⟩ := envelope
    cases payload with
    | runtimeSnapshot payload =>
      exact hhandle { c with heartbeat := c.heartbeat.recordFrame false } _ payload
    | _ => cases hsnapshot
  | _ => cases hsnapshot

/-- Any other envelope makes it live only from a phase before that. -/
theorem handleSequenced_leaves (c : RuntimeWebSocketClient) (envelope : RuntimeEnvelope) :
    ∃ phase, Leaves (c.handleSequenced envelope) phase c.stopped c.reconnect 0 ∧
      (isPreLivePhase c.phase = false → phase = c.phase) := by
  have haccepted : ∀ sequence : SequenceTracker, ∃ phase,
      Leaves (if isPreLivePhase c.phase then
          ({ c with sequence := sequence } : RuntimeWebSocketClient).setPhase .live
        else ({ c with sequence := sequence }, [])) phase c.stopped c.reconnect 0 ∧
      (isPreLivePhase c.phase = false → phase = c.phase) := by
    intro sequence
    by_cases hlive : isPreLivePhase c.phase = true
    · rw [if_pos hlive]
      exact ⟨.live, setPhase_leaves { c with sequence := sequence } .live,
        fun hnot => absurd hlive (Bool.eq_false_iff.mp hnot)⟩
    · rw [if_neg hlive]
      exact ⟨c.phase, leaves_nil { c with sequence := sequence }, fun _ => rfl⟩
  rw [handleSequenced]
  obtain ⟨decision, sequence⟩ := c.sequence.receive envelope.sequence
  cases decision with
  | duplicate | stale =>
    exact ⟨c.phase, (leaves_nil { c with sequence := sequence }).cons rfl, fun _ => rfl⟩
  | accept | outOfOrder =>
    obtain ⟨phase, hleaves, hkeep⟩ := haccepted sequence
    exact ⟨phase, hleaves.snoc (.envelope envelope), hkeep⟩

/-- So a message that is no snapshot makes no client live that has ended. -/
theorem handleMessage_other (c : RuntimeWebSocketClient) {outcome : ParseOutcome}
    (hsnapshot : isSnapshot outcome = false) :
    ∃ phase, Leaves (c.handleMessage outcome) phase c.stopped c.reconnect 0 ∧
      (isPreLivePhase c.phase = false → phase = c.phase) := by
  cases outcome with
  | ok envelope =>
    obtain ⟨timestamp, sequence, payload⟩ := envelope
    cases payload with
    | runtimeSnapshot payload => cases hsnapshot
    | _ =>
      exact handleSequenced_leaves { c with heartbeat := c.heartbeat.recordFrame _ }
        ⟨timestamp, sequence, _⟩
  | _ => exact ⟨c.phase, (leaves_nil c).cons rfl, fun _ => rfl⟩

end RuntimeWebSocketClient

namespace Lifecycle

open RuntimeWebSocketClient

variable {l l' : Lifecycle} {a : ClientAction}
  {result : RuntimeWebSocketClient × List ClientEffect} {phase : ConnectionPhase} {stopped : Bool}
  {reconnect : ReconnectScheduler} {opens : Nat}

/-- Why it has ended fits the flag and the attempts. -/
structure Tracked (l : Lifecycle) : Prop where
  stopped : l.ended = some .stopped ↔ l.client.stopped = true
  exhausted : l.ended = some .exhausted → l.client.reconnect.next = none

/-- Whether all is right after a call can be seen from what it leaves. -/
theorem right_after_iff (h : Leaves result phase stopped reconnect opens) :
    (l.after a result).Right ↔
      (∀ ending, l.endedAfter a = some ending → phase = ending.phase) ∧
        ∀ n ∈ l.counted a, n + opens ≤ 1 := by
  constructor
  · rintro ⟨hphase, hopens⟩
    refine ⟨fun ending hended => h.phase.symm.trans (hphase ending hended), fun n hn => ?_⟩
    rw [← h.opens]
    exact hopens _ (List.mem_map_of_mem hn)
  · rintro ⟨hphase, hopens⟩
    refine ⟨fun ending hended => h.phase.trans (hphase ending hended), fun n hn => ?_⟩
    obtain ⟨m, hm, rfl⟩ := List.mem_map.mp hn
    rw [h.opens]
    exact hopens m hm

theorem tracked_after (h : Leaves result phase stopped reconnect opens)
    (hstopped : l.endedAfter a = some .stopped ↔ stopped = true)
    (hexhausted : l.endedAfter a = some .exhausted → reconnect.next = none) :
    (l.after a result).Tracked := by
  refine ⟨?_, fun hended => ?_⟩
  · show _ ↔ result.1.stopped = true
    rw [h.stopped]
    exact hstopped
  · show result.1.reconnect.next = none
    rw [h.reconnect]
    exact hexhausted hended

/-- An action that leaves the client as it is, as far as all this goes. -/
theorem exact_of_still (h : Leaves result l.client.phase l.client.stopped l.client.reconnect 0)
    (hended : l.endedAfter a = l.ended) (hcounted : l.counted a = l.opens) (htracked : l.Tracked)
    (hright : l.Right) : (l.after a result).Tracked ∧ (l.after a result).Right := by
  refine ⟨tracked_after h ?_ ?_, (right_after_iff h).mpr ⟨?_, ?_⟩⟩
  · rw [hended]
    exact htracked.stopped
  · rw [hended]
    exact htracked.exhausted
  · rw [hended]
    exact hright.phase
  · rw [hcounted]
    exact hright.opens

/-- What would connect does so without harm exactly where nothing has ended and nothing is open. -/
theorem exact_of_attempt {c : RuntimeWebSocketClient} (h : Attempt c result)
    (hphase : c.phase = l.client.phase) (hstopped : c.stopped = l.client.stopped)
    (hreconnect : c.reconnect = l.client.reconnect) (hended : l.endedAfter a = l.ended)
    (hcounted : l.counted a = l.opens) (htracked : l.Tracked) (hright : l.Right) :
    (l.after a result).Tracked ∧ ((l.after a result).Right ↔
      (l.client.stopped = true ∨ (l.ended = none ∧ ∀ n ∈ l.opens, n = 0))) := by
  cases hflag : l.client.stopped with
  | true =>
    have hleaves := h.stopped (hstopped.trans hflag)
    rw [hphase, hreconnect, ← hflag] at hleaves
    obtain ⟨htracked', hright'⟩ := exact_of_still hleaves hended hcounted htracked hright
    exact ⟨htracked', iff_of_true hright' (.inl rfl)⟩
  | false =>
    have hleaves := h.running (hstopped.trans hflag)
    rw [hreconnect] at hleaves
    refine ⟨tracked_after hleaves ?_ ?_, ?_⟩
    · rw [hended, ← hflag]
      exact htracked.stopped
    · rw [hended]
      exact htracked.exhausted
    · rw [right_after_iff hleaves, hended, hcounted]
      constructor
      · rintro ⟨hnone, hzero⟩
        refine .inr ⟨?_, fun n hn => ?_⟩
        · cases hend : l.ended with
          | none => rfl
          | some ending => cases ending <;> cases hnone _ hend
        · have hone := hzero n hn
          omega
      · rintro (hfalse | ⟨hnone, hzero⟩)
        · cases hfalse
        · refine ⟨fun ending hend => ?_, fun n hn => ?_⟩
          · rw [hnone] at hend
            cases hend
          · rw [hzero n hn]

/-- An open of the transport revives a client that has stopped. -/
theorem exact_of_opened (htracked : l.Tracked) (hright : l.Right) :
    (l.after .opened l.client.handleOpen).Tracked ∧
      ((l.after .opened l.client.handleOpen).Right ↔ l.client.stopped = false) := by
  have hleaves := handleOpen_leaves l.client
  have hended : l.endedAfter .opened = some .stopped ↔ l.client.stopped = true := by
    rw [← htracked.stopped]
    show (if l.ended = some .exhausted then none else l.ended) = _ ↔ _
    cases hend : l.ended with
    | none => exact Iff.rfl
    | some ending => cases ending <;> decide
  have hnot : l.endedAfter .opened ≠ some .exhausted := by
    show (if l.ended = some .exhausted then none else l.ended) ≠ _
    by_cases hend : l.ended = some .exhausted
    · rw [if_pos hend]
      exact (Option.some_ne_none _).symm
    · rw [if_neg hend]
      exact hend
  refine ⟨tracked_after hleaves hended fun h => absurd h hnot, ?_⟩
  rw [right_after_iff hleaves]
  constructor
  · rintro ⟨hphase, -⟩
    refine Bool.eq_false_iff.mpr fun hstopped => ?_
    cases hphase _ (hended.mpr hstopped)
  · intro hstopped
    refine ⟨fun ending hend => ?_, hright.opens⟩
    cases ending with
    | stopped => exact absurd (hended.mp hend) (Bool.eq_false_iff.mp hstopped)
    | exhausted => exact absurd hend hnot

/-- A message revives a client that has ended exactly if it is a snapshot. -/
theorem exact_of_message (htracked : l.Tracked) (hright : l.Right) (outcome : ParseOutcome) :
    (l.after (.message outcome) (l.client.handleMessage outcome)).Tracked ∧
      ((l.after (.message outcome) (l.client.handleMessage outcome)).Right ↔
        (isSnapshot outcome = true → l.ended = none)) := by
  cases hsnapshot : isSnapshot outcome with
  | true =>
    have hleaves := handleMessage_snapshot l.client hsnapshot
    refine ⟨tracked_after hleaves htracked.stopped htracked.exhausted, ?_⟩
    rw [right_after_iff hleaves]
    constructor
    · rintro ⟨hphase, -⟩ -
      cases hend : l.ended with
      | none => rfl
      | some ending => cases ending <;> cases hphase _ hend
    · intro hnone
      refine ⟨fun ending hend => ?_, hright.opens⟩
      cases (hnone rfl).symm.trans hend
  | false =>
    obtain ⟨phase, hleaves, hkeep⟩ := handleMessage_other l.client hsnapshot
    refine ⟨tracked_after hleaves htracked.stopped htracked.exhausted,
      iff_of_true ((right_after_iff hleaves).mpr ⟨fun ending hend => ?_, hright.opens⟩)
        fun hfalse => by cases hfalse⟩
    have hphase := hright.phase ending hend
    refine (hkeep ?_).trans hphase
    rw [hphase]
    cases ending <;> rfl

/-- A close keeps what has ended, or ends it. -/
theorem exact_of_closed (htracked : l.Tracked) :
    (l.after .closed l.client.handleClose).Tracked ∧
      ((l.after .closed l.client.handleClose).Right ↔ True) := by
  cases hstopped : l.client.stopped with
  | true =>
    have hleaves := handleClose_stopped hstopped
    have hended : l.endedAfter .closed = some .stopped := by
      have hstay : l.endedAfter .closed = l.ended :=
        if_neg fun h => Bool.false_ne_true (h.1.symm.trans hstopped)
      exact hstay.trans (htracked.stopped.mpr hstopped)
    refine ⟨tracked_after hleaves ?_ ?_,
      iff_true_intro ((right_after_iff hleaves).mpr ⟨fun ending h => ?_, fun n hn => ?_⟩)⟩
    · exact iff_of_true hended rfl
    · intro h
      cases hended.symm.trans h
    · cases hended.symm.trans h
      rfl
    · cases hn
  | false =>
    cases hnext : l.client.reconnect.next with
    | none =>
      have hleaves := handleClose_exhausted hstopped hnext
      have hended : l.endedAfter .closed = some .exhausted := if_pos ⟨hstopped, hnext⟩
      refine ⟨tracked_after hleaves ?_ fun _ => hnext,
        iff_true_intro ((right_after_iff hleaves).mpr ⟨fun ending h => ?_, fun n hn => ?_⟩)⟩
      · refine iff_of_false (fun h => ?_) Bool.false_ne_true
        cases hended.symm.trans h
      · cases hended.symm.trans h
        rfl
      · cases hn
    | some reconnect =>
      have hleaves := handleClose_scheduled hstopped hnext
      have hended : l.endedAfter .closed = none := by
        have hstay : l.endedAfter .closed = l.ended :=
          if_neg fun h => Option.some_ne_none _ (hnext.symm.trans h.2)
        rw [hstay]
        cases hend : l.ended with
        | none => rfl
        | some ending =>
          cases ending with
          | stopped =>
            exact absurd (htracked.stopped.mp hend) (Bool.eq_false_iff.mp hstopped)
          | exhausted => cases hnext.symm.trans (htracked.exhausted hend)
      refine ⟨tracked_after hleaves ?_ ?_,
        iff_true_intro ((right_after_iff hleaves).mpr ⟨fun ending h => ?_, fun n hn => ?_⟩)⟩
      · refine iff_of_false (fun h => ?_) Bool.false_ne_true
        cases hended.symm.trans h
      · intro h
        cases hended.symm.trans h
      · cases hended.symm.trans h
      · cases hn

/-- From a state where all is right, a step keeps it right exactly if it does no harm. -/
theorem step_exact (htracked : l.Tracked) (hright : l.Right) (hstep : l.step a = some l') :
    l'.Tracked ∧ (l'.Right ↔ l.Harmless a) := by
  obtain ⟨result, hact, rfl⟩ := Option.map_eq_some_iff.mp hstep
  cases a with
  | start =>
    cases hact
    have hleaves := start_leaves l.client
    refine ⟨tracked_after hleaves ?_ ?_, iff_of_true ((right_after_iff hleaves).mpr ⟨?_, ?_⟩)
      trivial⟩
    · exact iff_of_false (Option.some_ne_none _).symm Bool.false_ne_true
    · intro hended
      cases hended
    · intro ending hended
      cases hended
    · intro n hn
      rcases List.mem_append.mp hn with hn | hn
      · exact hright.opens n hn
      · rw [List.mem_singleton.mp hn]
        exact Nat.zero_le 1
  | stop =>
    cases hact
    have hleaves := stop_leaves l.client
    refine ⟨tracked_after hleaves ?_ ?_, iff_of_true ((right_after_iff hleaves).mpr ⟨?_, ?_⟩)
      trivial⟩
    · exact iff_of_true rfl rfl
    · intro hended
      cases hended
    · intro ending hended
      cases hended
      rfl
    · exact hright.opens
  | forceReconnect =>
    cases hact
    exact (exact_of_still (forceReconnect_leaves l.client) rfl rfl htracked hright).imp_right
      fun h => iff_of_true h trivial
  | hydrationSucceeded snapshot =>
    obtain ⟨-, hact⟩ := Option.ite_none_left_eq_some.mp hact
    cases hact
    exact exact_of_attempt (hydrationSucceeded_attempt _ snapshot) rfl rfl rfl rfl rfl htracked
      hright
  | hydrationFailed =>
    obtain ⟨-, hact⟩ := Option.ite_none_left_eq_some.mp hact
    cases hact
    exact exact_of_attempt (handleHydrationFailure_attempt _) rfl rfl rfl rfl rfl htracked hright
  | reconnectFired id =>
    obtain ⟨-, hact⟩ := Option.ite_none_right_eq_some.mp hact
    cases hact
    exact exact_of_attempt (reconnectFired_attempt _ id) rfl rfl rfl rfl rfl htracked hright
  | heartbeatFired =>
    obtain ⟨-, hact⟩ := Option.ite_none_right_eq_some.mp hact
    cases hact
    have hleaves : Leaves l.client.heartbeatFired l.client.phase l.client.stopped
        l.client.reconnect 0 := by
      obtain ⟨hphase, hstopped, hreconnect, hopens⟩ := forceReconnect_leaves
        { l.client with heartbeat := { l.client.heartbeat with
            timer := false
            staleTriggers := l.client.heartbeat.staleTriggers + 1 } }
      exact ⟨hphase, hstopped, hreconnect, hopens⟩
    exact (exact_of_still hleaves rfl rfl htracked hright).imp_right
      fun h => iff_of_true h trivial
  | opened =>
    cases hact
    exact exact_of_opened htracked hright
  | message outcome =>
    cases hact
    exact exact_of_message htracked hright outcome
  | transportError =>
    cases hact
    exact (exact_of_still ((leaves_nil l.client).cons rfl) rfl rfl htracked hright).imp_right
      fun h => iff_of_true h trivial
  | closed =>
    cases hact
    exact exact_of_closed htracked

/-- The phases and the opens are right throughout a run exactly if no step of it does harm. -/
theorem right_iff_unharmed (maxAttempts : Option Nat) {acts : List ClientAction}
    (hrun : exec step (new maxAttempts) acts = some l) :
    AllStates step Right (new maxAttempts) acts ↔ AllSteps step Harmless (new maxAttempts) acts := by
  have hnew : (new maxAttempts).Tracked := by
    refine ⟨iff_of_false ?_ Bool.false_ne_true, fun hended => ?_⟩
    · exact (Option.some_ne_none _).symm
    · cases hended
  have hright : (new maxAttempts).Right := by
    refine ⟨fun ending hended => ?_, fun n hn => ?_⟩
    · cases hended
    · cases hn
  refine allStates_iff_allSteps_of_keep (K := fun l => l.Tracked ∧ l.Right) (fun _ h => h.2)
    (fun l a l' h hharmless hstep => ?_) (fun l a l' h hharm hstep => ?_) ⟨hnew, hright⟩ hrun
  · obtain ⟨htracked, hexact⟩ := step_exact h.1 h.2 hstep
    exact ⟨htracked, hexact.mpr hharmless⟩
  · exact fun hwrong => hharm ((step_exact h.1 h.2 hstep).2.mp hwrong)

/-- A snapshot of a runtime without tasks. -/
private def bareSnapshot : RuntimeSnapshot := { runtimeId := "runtime", lastSequence := 0 }

/-- A session that is hydrated, opened, closed and opened again. -/
private def reopened : List ClientAction :=
  [.start, .hydrationSucceeded bareSnapshot, .opened, .closed, .reconnectFired 0, .opened, .stop]

theorem right_reopened :
    (exec step (new none) reopened).isSome = true ∧ AllStates step Right (new none) reopened := by
  refine ⟨rfl, (right_iff_unharmed none rfl).mpr ?_⟩
  refine .cons rfl trivial (.cons rfl (.inr ⟨rfl, fun n hn => ?_⟩) (.cons rfl rfl
    (.cons rfl trivial (.cons rfl (.inr ⟨rfl, fun n hn => ?_⟩) (.cons rfl rfl
      (.cons rfl trivial trivial))))))
  · exact List.mem_singleton.mp hn
  · cases hn

/-- A client that is stopped, and then gets a snapshot that was under way. -/
private def lateSnapshot : List ClientAction :=
  [.start, .hydrationSucceeded bareSnapshot, .opened, .stop,
    .message (.ok ⟨0, none, .runtimeSnapshot { tasks := some [], lastSequence := some 0 }⟩)]

/-- A client that is stopped while it hydrates and started again, before the first fetch settles as
    an aborted one. -/
private def restarted : List ClientAction :=
  [.start, .stop, .start, .hydrationFailed, .hydrationSucceeded bareSnapshot]

/-- The late snapshot makes the stopped client live, and the second start opens twice. -/
theorem not_right_of_late :
    ¬ AllStates step Right (new none) lateSnapshot ∧
      ¬ AllStates step Right (new none) restarted := by
  refine ⟨fun h => ?_, fun h => ?_⟩
  · have hlast := ((((h.2 _ rfl).2 _ rfl).2 _ rfl).2 _ rfl).2 _ rfl
    cases hlast.phase .stopped rfl
  · have hlast := ((((h.2 _ rfl).2 _ rfl).2 _ rfl).2 _ rfl).2 _ rfl
    have htwo : 2 ≤ 1 := hlast.opens 2 (List.mem_cons_of_mem _ List.mem_cons_self)
    omega

end Lifecycle

end AsyncViz.Frontend
