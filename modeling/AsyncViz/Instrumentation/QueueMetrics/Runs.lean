/-
  AsyncViz.Instrumentation.QueueMetrics.Runs

  Whole runs of the live engine and of the rebuild: they leave the same aggregates exactly where
  every event is quiet.
-/

import AsyncViz.Instrumentation.QueueMetrics.Rebuild

namespace AsyncViz.Instrumentation.QueueMetrics

open AsyncViz.Lib

namespace QueueMetricsEngine

variable {config : QueueMetricsConfig} {before evts : List QueueEvent} {event : QueueEvent}
  {e : QueueMetricsEngine}

@[simp] theorem events_append (steps steps' : List Step) :
    events (steps ++ steps') = events steps ++ events steps' :=
  List.filterMap_append

@[simp] theorem events_event (event : QueueEvent) (steps : List Step) :
    events (.event event :: steps) = event :: events steps := rfl

@[simp] theorem events_snapshotQueue (queueId : String) (steps : List Step) :
    events (.snapshotQueue queueId :: steps) = events steps := rfl

@[simp] theorem events_map_event (evts : List QueueEvent) : events (evts.map .event) = evts := by
  induction evts with
  | nil => rfl
  | cons event evts ih => exact congrArg (event :: ·) ih

/-! ## Quiet runs -/

/-- A loop over a quiet run goes on from an engine that follows, whatever is read in between;
    the loop is any that takes an event that does not raise, and a read, as one step each. -/
theorem Follows.goes_on (run : QueueMetricsEngine → List Step → QueueMetricsEngine) (emit : Bool)
    (hevent : ∀ e event rest, (e.applyEvent event emit).1 ≠ .raised →
      run e (.event event :: rest) = run (e.applyEvent event emit).2.1 rest)
    (hqueue : ∀ e queueId rest,
      run e (.snapshotQueue queueId :: rest) = run (e.snapshotQueue queueId).2 rest)
    (hread : ∀ e rest, run e (.snapshot :: rest) = run e.snapshot.2 rest)
    (h : Follows config before e) (hsized : QueueAggregateState.Sized config)
    (steps : List Step) (hquiet : Quiet config (before ++ events steps)) :
    ∃ e', Follows config (before ++ events steps) e' ∧
      ∀ rest, run e (steps ++ rest) = run e' rest := by
  induction steps generalizing before e with
  | nil => exact ⟨e, (List.append_nil before).symm ▸ h, fun _ => rfl⟩
  | cons step steps ih =>
    cases step with
    | event event =>
      have hassoc : before ++ events (.event event :: steps)
          = (before ++ [event]) ++ events steps :=
        (List.append_assoc before [event] (events steps)).symm
      rw [hassoc] at hquiet ⊢
      obtain ⟨hraised, hfollows⟩ := h.applyEvent hsized hquiet.of_append emit
      obtain ⟨e', he', hrest⟩ := ih hfollows hquiet
      refine ⟨e', he', fun rest => ?_⟩
      rw [List.cons_append, hevent e event _ hraised]
      exact hrest rest
    | snapshotQueue queueId =>
      obtain ⟨e', he', hrest⟩ := ih h hquiet
      refine ⟨e', he', fun rest => ?_⟩
      rw [List.cons_append, hqueue, h.snapshotQueue]
      exact hrest rest
    | snapshot =>
      obtain ⟨e', he', hrest⟩ := ih h hquiet
      refine ⟨e', he', fun rest => ?_⟩
      rw [List.cons_append, hread, h.snapshot]
      exact hrest rest

/-- A quiet live run goes on. -/
theorem Follows.live (h : Follows config before e) (hsized : QueueAggregateState.Sized config)
    (steps : List Step) (hquiet : Quiet config (before ++ events steps)) :
    ∃ e', Follows config (before ++ events steps) e' ∧
      ∀ rest, e.live (steps ++ rest) = e'.live rest :=
  Follows.goes_on QueueMetricsEngine.live true (fun _ _ _ _ => rfl) (fun _ _ _ => rfl)
    (fun _ _ => rfl) h hsized steps hquiet

/-- So does a quiet rebuild, which nothing ends early. -/
theorem Follows.replay (h : Follows config before e) (hsized : QueueAggregateState.Sized config)
    (steps : List Step) (hquiet : Quiet config (before ++ events steps)) :
    ∃ e', Follows config (before ++ events steps) e' ∧
      ∀ rest, e.replay false (steps ++ rest) = e'.replay false rest := by
  refine Follows.goes_on (fun e steps => e.replay false steps) false
    (fun e event rest hraised => ?_) (fun _ _ _ => rfl) (fun _ _ => rfl) h hsized steps hquiet
  show e.replay false (.event event :: rest) = _
  rw [QueueMetricsEngine.replay, if_neg Bool.false_ne_true]
  generalize e.applyEvent event false = applied at hraised
  obtain ⟨outcome, e₁, emissions⟩ := applied
  cases outcome with
  | raised => exact absurd rfl hraised
  | applied => rfl
  | ignored => rfl

/-! ## Windows without room -/

/-- Where every new state raises, there never is one. -/
theorem stateFor_unsized (hunsized : ¬ QueueAggregateState.Sized config) (event : QueueEvent) :
    stateFor ⟨config, .empty⟩ event = none ∨ stateFor ⟨config, .empty⟩ event = some none := by
  have hnew : QueueAggregateState.new? event.queueId (kindOf event) event.maxsize config = none :=
    dif_neg hunsized
  simp only [stateFor, Dict.get?_empty, hnew]
  split
  · exact .inl rfl
  · exact .inr rfl

theorem applyEvent_unsized (hunsized : ¬ QueueAggregateState.Sized config) (event : QueueEvent)
    (emit : Bool) : (applyEvent ⟨config, .empty⟩ event emit).2.1 = ⟨config, .empty⟩ := by
  unfold applyEvent
  split
  · rfl
  · rcases stateFor_unsized hunsized event with h | h <;> rw [h]

theorem live_unsized (hunsized : ¬ QueueAggregateState.Sized config) (steps : List Step) :
    live ⟨config, .empty⟩ steps = ⟨config, .empty⟩ := by
  induction steps with
  | nil => rfl
  | cons step steps ih =>
    cases step with
    | event event => rw [live, applyEvent_unsized hunsized, ih]
    | snapshotQueue queueId => exact ih
    | snapshot => exact ih

theorem replay_unsized (hunsized : ¬ QueueAggregateState.Sized config) (aborted : Bool)
    (steps : List Step) : replay ⟨config, .empty⟩ aborted steps = ⟨config, .empty⟩ := by
  induction steps generalizing aborted with
  | nil => rfl
  | cons step steps ih =>
    cases step with
    | event event =>
      have happly := applyEvent_unsized hunsized event false
      rw [replay]
      split
      · exact ih _
      · generalize applyEvent ⟨config, .empty⟩ event false = applied at happly ⊢
        obtain ⟨outcome, e, emissions⟩ := applied
        dsimp only at happly
        subst happly
        cases outcome <;> exact ih _
    | snapshotQueue queueId => exact ih aborted
    | snapshot => exact ih aborted

theorem reports_unsized (hunsized : ¬ QueueAggregateState.Sized config)
    (evts : List QueueEvent) : reports config evts = .empty := by
  induction evts using List.reverseRecOn with
  | nil => rfl
  | append_singleton before event ih =>
    rw [reports_snoc, ih, reportEvent, if_pos (.inr hunsized)]

/-! ## What a silent run leaves of a score -/

/-- Without readings, the score and the level stay. -/
theorem score_applyEvent (s : QueueAggregateState) (event : QueueEvent) (seconds : ℚ) :
    (s.applyEvent event seconds).2.pressure.lastScore = s.pressure.lastScore ∧
      (s.applyEvent event seconds).2.pressure.level = s.pressure.level := by
  by_cases hfinal : s.finalized = true
  · rw [QueueAggregateState.applyEvent, if_pos hfinal]
    exact ⟨rfl, rfl⟩
  · obtain ⟨flag, hpressure⟩ := (QueueAggregateState.reports_applyEvent
      (Bool.eq_false_iff.mpr hfinal) event seconds).pressure
    rw [hpressure]
    exact ⟨rfl, rfl⟩

theorem score_silent {s : QueueAggregateState} {queueId : String}
    (hget : e.states.get? queueId = some s) (event : QueueEvent) :
    ∃ s', (e.applyEvent event false).2.1.states.get? queueId = some s' ∧
      s'.pressure.lastScore = s.pressure.lastScore ∧ s'.pressure.level = s.pressure.level := by
  unfold QueueMetricsEngine.applyEvent
  split
  · exact ⟨s, hget, rfl, rfl⟩
  · by_cases hid : queueId = event.queueId
    · -- The event goes to this queue.
      subst hid
      have hstate : e.stateFor event = some (some s) := by rw [stateFor, hget]
      have hscore := score_applyEvent s event event.monotonicSeconds
      rw [hstate]
      dsimp only
      generalize s.applyEvent event event.monotonicSeconds = applied at hscore ⊢
      obtain ⟨outcome, s'⟩ := applied
      cases outcome with
      | none => exact ⟨s', Dict.get?_set_self _ _ _, hscore⟩
      | some outcome =>
        dsimp only
        split <;> exact ⟨s', Dict.get?_set_self _ _ _, hscore⟩
    · cases e.stateFor event with
      | none => exact ⟨s, hget, rfl, rfl⟩
      | some made =>
        cases made with
        | none => exact ⟨s, hget, rfl, rfl⟩
        | some made =>
          dsimp only
          generalize made.applyEvent event event.monotonicSeconds = applied
          obtain ⟨outcome, made'⟩ := applied
          have hother : (e.states.set event.queueId made').get? queueId = some s := by
            rw [Dict.get?_set_of_ne _ _ hid, hget]
          cases outcome with
          | none => exact ⟨s, hother, rfl, rfl⟩
          | some outcome =>
            dsimp only
            split <;> exact ⟨s, hother, rfl, rfl⟩

/-- Over a whole silent run that nobody reads. -/
theorem score_replay (evts : List QueueEvent) (aborted : Bool) {s : QueueAggregateState}
    {queueId : String} (hget : e.states.get? queueId = some s) :
    ∃ s', (e.replay aborted (evts.map .event)).states.get? queueId = some s' ∧
      s'.pressure.lastScore = s.pressure.lastScore ∧ s'.pressure.level = s.pressure.level := by
  induction evts generalizing e aborted s with
  | nil => exact ⟨s, hget, rfl, rfl⟩
  | cons event evts ih =>
    rw [List.map_cons, replay]
    split
    · exact ih aborted hget
    · obtain ⟨s₁, hget₁, hscore₁, hlevel₁⟩ := score_silent hget event
      have hnext : ∀ aborted, ∃ s',
          ((e.applyEvent event false).2.1.replay aborted (evts.map .event)).states.get? queueId
            = some s' ∧
            s'.pressure.lastScore = s.pressure.lastScore ∧
            s'.pressure.level = s.pressure.level := by
        intro aborted
        obtain ⟨s', hget', hscore, hlevel⟩ := ih aborted hget₁
        exact ⟨s', hget', hscore.trans hscore₁, hlevel.trans hlevel₁⟩
      generalize e.applyEvent event false = applied at hnext ⊢
      obtain ⟨outcome, e₁, emissions⟩ := applied
      cases outcome with
      | raised => exact hnext true
      | applied => exact hnext false
      | ignored => exact hnext false

/-! ## The first event that shows -/

/-- No event goes to a queue without an id. -/
theorem reports_no_id (config : QueueMetricsConfig) (evts : List QueueEvent) :
    (reports config evts).get? "" = none := by
  induction evts using List.reverseRecOn with
  | nil => rfl
  | append_singleton before event ih =>
    rw [reports_snoc, reportEvent]
    split
    · exact ih
    · rename_i hgate
      have hid : "" ≠ event.queueId := fun h => hgate (.inl h.symm)
      split
      · rw [Dict.get?_set_of_ne _ _ hid, ih]
      · split
        · exact ih
        · rw [Dict.get?_set_of_ne _ _ hid, ih]

theorem sized_of_get_reports {r : Report} {queueId : String}
    (hr : (reports config evts).get? queueId = some r) : QueueAggregateState.Sized config := by
  by_contra hunsized
  rw [reports_unsized hunsized] at hr
  cases hr

/-- An event of a tracked queue goes to a resting state of every engine that follows. -/
theorem Follows.target (h : Follows config before e) {r : Report}
    (hr : (reports config (before ++ [event])).get? event.queueId = some r) :
    event.queueId ≠ "" ∧ ∃ s, e.stateFor event = some (some s) ∧ s.Resting ∧ s.config = config ∧
      r = s.reported.next event.snapshot := by
  have hid : event.queueId ≠ "" := by
    intro hid
    rw [hid, reports_no_id] at hr
    cases hr
  refine ⟨hid, ?_⟩
  rcases h.stateFor_cases (sized_of_get_reports hr) hid with ⟨-, -, hreports, hnone⟩ |
    ⟨s, hstate, -, hresting, hconfig, hreports⟩
  · rw [reports_snoc, hreports, h.get_reports, hnone] at hr
    cases hr
  · rw [reports_snoc, hreports, Dict.get?_set_self] at hr
    exact ⟨s, hstate, hresting, hconfig, (Option.some.inj hr).symm⟩

/-- The event is quiet if a reading right after it leaves the score at zero and the level calm. -/
theorem quietAt_of_reading {s : QueueAggregateState} (hresting : s.Resting)
    (hconfig : s.config = config) {reading : Option ℚ}
    (hreading : reading = none ∨ reading = some event.monotonicSeconds)
    (hscore : ((s.applyEvent event event.monotonicSeconds).2.snapshot reading).2.pressure.lastScore
      = s.pressure.lastScore)
    (hlevel : ((s.applyEvent event event.monotonicSeconds).2.snapshot reading).2.pressure.level
      = s.pressure.level) :
    QuietAt config event (s.reported.next event.snapshot) := by
  have hzero : s.pressure.lastScore = 0 := by rw [hresting.pressure]
  have hcalm : s.pressure.level = .calm := by rw [hresting.pressure]
  exact (QueueAggregateState.quietAt_iff hresting.live hconfig event event.monotonicSeconds).mpr
    (hresting.unnoticed_of_reading hreading (hscore.trans hzero) (hlevel.trans hcalm))

/-- The engine with a new state of one queue. -/
def withState (e : QueueMetricsEngine) (queueId : String) (s : QueueAggregateState) :
    QueueMetricsEngine :=
  { e with states := e.states.set queueId s }

@[simp] theorem get?_withState (e : QueueMetricsEngine) (queueId : String)
    (s : QueueAggregateState) : (e.withState queueId s).states.get? queueId = some s :=
  Dict.get?_set_self _ _ _

/-- A rebuild takes an event that goes to a resting state there, without raising. -/
theorem replay_event {s : QueueAggregateState} (hid : event.queueId ≠ "")
    (hstate : e.stateFor event = some (some s)) (hresting : s.Resting) (rest : List Step) :
    e.replay false (.event event :: rest) =
      (e.withState event.queueId (s.applyEvent event event.monotonicSeconds).2).replay false
        rest := by
  obtain ⟨happlied, heq⟩ := applyEvent_put hid hstate hresting false
  rw [replay, if_neg Bool.false_ne_true]
  generalize e.applyEvent event false = applied at happlied heq ⊢
  obtain ⟨outcome, e₁, emissions⟩ := applied
  dsimp only at happlied heq
  rw [happlied, heq]
  rfl

theorem replay_snapshotQueue {s : QueueAggregateState} {queueId : String}
    (hget : e.states.get? queueId = some s) (rest : List Step) :
    e.replay false (.snapshotQueue queueId :: rest)
      = (e.withState queueId (s.snapshot none).2).replay false rest := by
  rw [replay, snapshotQueue, hget]
  rfl

/-- The live engine emits on the way. -/
theorem live_event {s : QueueAggregateState} (hid : event.queueId ≠ "")
    (hstate : e.stateFor event = some (some s)) (hresting : s.Resting) (rest : List Step) :
    e.live (.event event :: rest) =
      (e.withState event.queueId
        (maybeEmit (s.applyEvent event event.monotonicSeconds).2
          ((s.applyEvent event event.monotonicSeconds).1.getD {}) event.monotonicSeconds).1).live
        rest := by
  rw [live, (applyEvent_put hid hstate hresting true).2]
  rfl

/-- Where the same is seen of a queue, so is the same pressure. -/
theorem pressure_of_view {e' : QueueMetricsEngine} {s s' : QueueAggregateState} {queueId : String}
    (hget : e.states.get? queueId = some s) (hget' : e'.states.get? queueId = some s')
    (hview : e.view queueId = e'.view queueId) : s.pressure = s'.pressure := by
  rw [view, view, hget, hget'] at hview
  exact congrArg (fun seen => seen.1.pressure) (Option.some.inj hview)

theorem exists_live (hsized : QueueAggregateState.Sized config) (hquiet : Quiet config evts)
    {steps : List Step} (hsteps : events steps = evts) :
    ∃ e, Follows config evts e ∧ ∀ rest, live ⟨config, .empty⟩ (steps ++ rest) = e.live rest := by
  subst hsteps
  exact (follows_nil config).live hsized steps hquiet

theorem exists_replay (hsized : QueueAggregateState.Sized config) (hquiet : Quiet config evts)
    {steps : List Step} (hsteps : events steps = evts) :
    ∃ e, Follows config evts e ∧
      ∀ rest, replay ⟨config, .empty⟩ false (steps ++ rest) = e.replay false rest := by
  subst hsteps
  exact (follows_nil config).replay hsized steps hquiet

/-- A read of the queue right after the event tells two rebuilds apart unless it is quiet. -/
theorem quiet_snoc_of_rebuilds {after : List QueueEvent} (hquiet : Quiet config before)
    (hrebuilds : Rebuilds config (before ++ event :: after)) :
    Quiet config (before ++ [event]) := by
  refine hquiet.snoc fun r hr => ?_
  obtain ⟨e, hfollows, hrun⟩ :=
    exists_replay (sized_of_get_reports hr) hquiet (events_map_event before)
  obtain ⟨hid, s, hstate, hresting, hconfig, rfl⟩ := hfollows.target hr
  have hget := e.get?_withState event.queueId (s.applyEvent event event.monotonicSeconds).2
  -- The run without a read, and the run with one.
  have hunread : rebuildFromEvents ⟨config, .empty⟩
      (before.map .event ++ .event event :: after.map .event) = _ :=
    (hrun _).trans (replay_event hid hstate hresting _)
  have hread : rebuildFromEvents ⟨config, .empty⟩
      (before.map .event ++ .event event :: .snapshotQueue event.queueId :: after.map .event)
        = _ :=
    ((hrun _).trans (replay_event hid hstate hresting _)).trans (replay_snapshotQueue hget _)
  obtain ⟨s₁, hget₁, hscore₁, hlevel₁⟩ := score_replay after false hget
  obtain ⟨s₂, hget₂, hscore₂, hlevel₂⟩ := score_replay after false
    (get?_withState (e.withState event.queueId _) event.queueId
      ((s.applyEvent event event.monotonicSeconds).2.snapshot none).2)
  rw [← hunread] at hget₁
  rw [← hread] at hget₂
  have hevents : events (before.map .event ++ .event event :: after.map .event)
      = before ++ event :: after := by simp
  have hevents' : events
      (before.map .event ++ .event event :: .snapshotQueue event.queueId :: after.map .event)
        = before ++ event :: after := by simp
  -- Both are seen as the live engine that nobody reads.
  have hview := (hrebuilds .empty _ _ hevents hevents event.queueId).symm.trans
    (hrebuilds .empty _ _ hevents hevents' event.queueId)
  have hpressure := pressure_of_view hget₁ hget₂ hview
  have hsilent := score_applyEvent s event event.monotonicSeconds
  refine quietAt_of_reading hresting hconfig (.inl rfl) ?_ ?_
  · rw [← hscore₂, ← hpressure, hscore₁, hsilent.1]
  · rw [← hlevel₂, ← hpressure, hlevel₁, hsilent.2]

/-- The snapshot that the live engine takes after its last event tells it from the rebuild unless
    the event is quiet. -/
theorem quiet_snoc_of_rebuildsUnread (hquiet : Quiet config before)
    (hrebuilds : RebuildsUnread config (before ++ [event])) :
    Quiet config (before ++ [event]) := by
  refine hquiet.snoc fun r hr => ?_
  have hsized := sized_of_get_reports hr
  obtain ⟨e, hfollows, hrun⟩ := exists_replay hsized hquiet (events_map_event before)
  obtain ⟨e', hfollows', hrun'⟩ := exists_live hsized hquiet (events_map_event before)
  obtain ⟨hid, s, hstate, hresting, -, -⟩ := hfollows.target hr
  obtain ⟨-, s', hstate', hresting', hconfig', rfl⟩ := hfollows'.target hr
  have hmap : (before ++ [event]).map Step.event = before.map .event ++ [.event event] :=
    List.map_append
  have hview := hrebuilds .empty event.queueId
  rw [hmap, hrun', live_event hid hstate' hresting'] at hview
  dsimp only [rebuildFromEvents] at hview
  rw [hrun, replay_event hid hstate hresting] at hview
  -- The emission leaves the pressure of its snapshot.
  have hpressure := pressure_of_view (e'.get?_withState _ _) (e.get?_withState _ _) hview
  have hsnapshot := congrArg QueueAggregateState.pressure
    (QueueAggregateState.core_maybeEmit (s'.applyEvent event event.monotonicSeconds).2
      ((s'.applyEvent event event.monotonicSeconds).1.getD {}) event.monotonicSeconds)
  have hkept := hsnapshot.symm.trans hpressure
  obtain ⟨hscore, hlevel⟩ := score_applyEvent s event event.monotonicSeconds
  rw [← hkept, hresting.pressure] at hscore hlevel
  refine quietAt_of_reading hresting' hconfig' (.inr rfl) ?_ ?_
  · rw [hresting'.pressure]
    exact hscore
  · rw [hresting'.pressure]
    exact hlevel

end QueueMetricsEngine

/-! ## The rebuild against the live engine -/

open QueueMetricsEngine

variable {config : QueueMetricsConfig} {evts : List QueueEvent}

theorem Quiet.rebuilds (hquiet : Quiet config evts) : Rebuilds config evts := by
  intro held liveSteps rebuildSteps hlive hrebuild queueId
  by_cases hsized : QueueAggregateState.Sized config
  · obtain ⟨e, hfollows, hrun⟩ := exists_live hsized hquiet hlive
    obtain ⟨e', hfollows', hrun'⟩ := exists_replay hsized hquiet hrebuild
    have hlive' := hrun []
    have hrebuild' := hrun' []
    rw [List.append_nil] at hlive' hrebuild'
    dsimp only [rebuildFromEvents]
    rw [hlive', hrebuild']
    exact (hfollows.view queueId).trans (hfollows'.view queueId).symm
  · dsimp only [rebuildFromEvents]
    rw [live_unsized hsized, replay_unsized hsized]

theorem Rebuilds.unread (h : Rebuilds config evts) : RebuildsUnread config evts :=
  fun held queueId => h held _ _ (events_map_event evts) (events_map_event evts) queueId

/-- The events are quiet if every event is where those before it are. -/
theorem quiet_of_snoc (hsnoc : ∀ before event after, evts = before ++ event :: after →
    Quiet config before → Quiet config (before ++ [event])) : Quiet config evts := by
  have hprefix : ∀ before after, evts = before ++ after → Quiet config before := by
    intro before
    induction before using List.reverseRecOn with
    | nil => exact fun _ _ first event rest h => absurd h (by simp)
    | append_singleton before event ih =>
      intro after heq
      have heq' : evts = before ++ event :: after := by rw [heq, List.append_assoc]; rfl
      exact hsnoc before event after heq' (ih (event :: after) heq')
  exact hprefix evts [] (List.append_nil evts).symm

/-- The rebuild leaves the aggregates and the records of the live engine, whatever is read in
    between, exactly where every event of a tracked queue is quiet; and so it is where nobody
    reads, for the events and all that they begin with. -/
theorem rebuilds_iff_quiet (config : QueueMetricsConfig) (evts : List QueueEvent) :
    (Rebuilds config evts ↔ Quiet config evts) ∧
      ((∀ before, before <+: evts → RebuildsUnread config before) ↔ Quiet config evts) := by
  refine ⟨⟨fun h => quiet_of_snoc ?_, Quiet.rebuilds⟩, fun h => quiet_of_snoc ?_, ?_⟩
  · rintro before event after rfl hquiet
    exact quiet_snoc_of_rebuilds hquiet h
  · rintro before event after rfl hquiet
    exact quiet_snoc_of_rebuildsUnread hquiet (h _ ⟨after, by simp⟩)
  · rintro hquiet before ⟨after, rfl⟩
    exact hquiet.of_append.rebuilds.unread

/-- A queue of ten places, filled to the ninth and emptied. -/
def filledAndEmptied : List QueueEvent :=
  [{ queueId := "q", queueKind := "Queue", maxsize := 10, monotonicNs := 0
     snapshot := ⟨some 9, some 10, none, none⟩, kind := .put true false none },
   { queueId := "q", queueKind := "Queue", maxsize := 10, monotonicNs := 1000000000
     snapshot := ⟨some 0, some 10, none, none⟩, kind := .get true false none }]

/-- The live engine has seen the queue at nine tenths, the rebuilt one has not. -/
theorem not_rebuilds_filledAndEmptied :
    filledAndEmptied.Pairwise (fun e e' => e.monotonicNs ≤ e'.monotonicNs) ∧
      ¬ RebuildsUnread {} filledAndEmptied ∧ ¬ Rebuilds {} filledAndEmptied := by
  have hunread : ¬ RebuildsUnread {} filledAndEmptied := by
    intro h
    have hratio := congrArg (Option.map fun seen => seen.1.pressure.saturationRatio) (h .empty "q")
    exact absurd hratio (by decide +kernel)
  exact ⟨by decide, hunread, fun h => hunread h.unread⟩

end AsyncViz.Instrumentation.QueueMetrics
