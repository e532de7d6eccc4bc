/-
  AsyncViz.Runtime.Monitoring.Blocking.Windows

  What the detector says of its windows over whole runs, in any order of samples,
  reconfigurations, starts and stops.

  The windows of a run are the groups of its hits, the samples whose effective severity reaches
  `window_open_severity`: a group ends after `window_close_consecutive_normals` lower samples in
  a row, under the policy in force at each, and where a stop ends the stream.  The tracker finds
  them with one counter (`Grouped`), numbers them (`Numbered`) and has them announced
  (`Announced`).  Each of the three is kept by what a window can do: open, go on, wait, close.

  A reconfiguration may spoil it.  Another `window_history_capacity` makes a new tracker, which
  forgets the open window and numbers from one again, and window events may be switched off
  before the end of a window is told.  `Harmless` says which steps do no harm, and
  `sound_iff_harmless` that no others are harmless.
-/

import AsyncViz.Lib.Grouping
import AsyncViz.Lib.Transition
import AsyncViz.Runtime.Monitoring.Blocking.Detector

namespace AsyncViz.Runtime.Monitoring.Blocking

open AsyncViz.Lib AsyncViz.Lib.Grouping AsyncViz.Lib.Transition
open AsyncViz.Runtime.Warnings.Blocking (EscalationOutcome ActiveWindow)
open AsyncViz.Runtime.Warnings.Blocking.BlockingWindowTracker (windowIdOf windowIdOf_inj extend)

/-! ## The stream and its groups -/

/-- What lies between two hits: a lower sample, with the policy in force at it, or a stop. -/
inductive Lull where
  | lower (policy : Warnings.Blocking.BlockingThresholdPolicy)
  | stop

/-- As the `n`-th entry since the last hit, the lull ends the group. -/
def Lull.ends (n : Nat) : Lull → Bool
  | .lower policy => policy.windowCloseConsecutiveNormals ≤ n
  | .stop => true

/-- Some entry of the gap ends the group. -/
def breaks (gap : List Lull) : Bool := gap.zipIdx.any fun (lull, i) => lull.ends (i + 1)

/-- The entry that a sample makes in the stream. -/
def entryOf (policy : Warnings.Blocking.BlockingThresholdPolicy) (outcome : EscalationOutcome) :
    Lull ⊕ EscalationOutcome :=
  if policy.shouldOpenWindow outcome.effectiveSeverity then .inr outcome else .inl (.lower policy)

theorem entryOf_high {policy : Warnings.Blocking.BlockingThresholdPolicy}
    {outcome : EscalationOutcome} (h : policy.shouldOpenWindow outcome.effectiveSeverity = true) :
    entryOf policy outcome = .inr outcome := if_pos h

theorem entryOf_low {policy : Warnings.Blocking.BlockingThresholdPolicy}
    {outcome : EscalationOutcome} (h : policy.shouldOpenWindow outcome.effectiveSeverity = false) :
    entryOf policy outcome = .inl (.lower policy) := if_neg (by rw [h]; decide)

theorem breaks_snoc (gap : List Lull) (lull : Lull) :
    breaks (gap ++ [lull]) = (breaks gap || lull.ends (gap.length + 1)) := by
  simp [breaks, List.zipIdx_append]

/-! ## Runs -/

/-- What a run has shown so far, oldest first: the ids of the windows that were opened, the
    windows that were closed, the window events that the emitter got and the stream. -/
structure Journal where
  ids : List String := []
  closed : List BlockingWindowSnapshot := []
  handed : List WindowEvent := []
  stream : List (Lull ⊕ EscalationOutcome) := []

/-- The journal after one more entry of the stream. -/
def Journal.record (j : Journal) (entry : Lull ⊕ EscalationOutcome)
    (opened closed : Option BlockingWindowSnapshot) (handed : List WindowEvent) : Journal where
  ids := j.ids ++ (opened.map (·.windowId)).toList
  closed := j.closed ++ closed.toList
  handed := j.handed ++ handed
  stream := j.stream ++ [entry]

/-- The detector and what it has shown. -/
structure World where
  detector : BlockingThresholdDetector
  journal : Journal := {}

/-- A call of the detector; a stop with the time of the runtime clock. -/
inductive Action where
  | start
  | process (measurement : LagMeasurement) (evaluation : LagThresholdEvaluation)
  | reconfigure (configuration : BlockingDetectorConfiguration)
  | stop (nowNs : Int)

namespace World

/-- The call of `process`. -/
def process (w : World) (measurement : LagMeasurement) (evaluation : LagThresholdEvaluation) :
    World :=
  let policy := w.detector.configuration.thresholds.toBlockingThresholdPolicy
  let (report, detector) := w.detector.process measurement evaluation
  { detector := detector
    journal := w.journal.record (entryOf policy report.outcome) report.transition.opened
      report.transition.closed report.handed }

/-- The call of `stop`. -/
def stop (w : World) (nowNs : Int) : World :=
  let (closed, handed, detector) := w.detector.stop nowNs
  { detector := detector
    journal :=
      if w.detector.stops then w.journal.record (.inl .stop) none closed handed else w.journal }

/-- One call. -/
def act (w : World) : Action → World
  | .start => { w with detector := w.detector.start }
  | .process measurement evaluation => w.process measurement evaluation
  | .reconfigure configuration => { w with detector := w.detector.reconfigure configuration }
  | .stop nowNs => w.stop nowNs

/-- One call as a step; every call is enabled. -/
def step (w : World) (a : Action) : Option World := some (w.act a)

/-- The detector that has just been built. -/
def new (runtimeId : String) (configuration : BlockingDetectorConfiguration) (hasEmitter : Bool) :
    World where
  detector := .new runtimeId configuration hasEmitter

/-- The windows of the run: the closed ones, and the one that is open. -/
def windows (w : World) : List BlockingWindowSnapshot :=
  w.journal.closed ++ w.detector.windows.activeSnapshot.toList

end World

/-! ## What is claimed of a run -/

/-- The closing of the window among the events up to the next opening. -/
def WindowEvent.isOpened : WindowEvent → Bool
  | .opened _ => true
  | .closed _ => false

/-- The event closes the window with this id. -/
def WindowEvent.closes (windowId : String) : WindowEvent → Bool
  | .opened _ => false
  | .closed window => window.windowId = windowId

/-- How often a window is closed before the next one is opened. -/
def closings (windowId : String) (events : List WindowEvent) : Nat :=
  (events.takeWhile fun event => !event.isOpened).countP (·.closes windowId)

/-- The window is that of the group: it runs from the first hit to the last one, counts each of
    them once and knows which were escalated. -/
structure Covers (window : BlockingWindowSnapshot) (group : List EscalationOutcome) : Prop where
  first : group.head?.map (·.sampleIndex) = some window.openSampleIndex
  firstNs : group.head?.map (·.actualNs) = some window.openMonotonicNs
  last : window.closeSampleIndex =
    if window.closed then group.getLast?.map (·.sampleIndex) else none
  violations : window.violationCount = group.length
  escalations : window.escalationCount = group.countP (·.escalated)

/-- No id is used twice, every opening that was told is followed by one closing, the counts agree,
    and the windows are the groups of the stream. -/
structure Sound (w : World) : Prop where
  ids_nodup : w.journal.ids.Nodup
  answered : ∀ before window after, w.journal.handed = before ++ .opened window :: after →
    closings window.windowId after = 1 ∨
      after = [] ∧ w.detector.windows.active.map (·.windowId) = some window.windowId
  seen : w.detector.statistics.windowsSeen =
    w.detector.statistics.closedWindows + if w.detector.windows.active.isSome then 1 else 0
  totals : w.detector.windows.totalOpened =
    w.detector.windows.totalClosed + if w.detector.windows.active.isSome then 1 else 0
  grouped : List.Forall₂ Covers w.windows (groups breaks w.journal.stream)

/-- The emitter got the opening of the window that is open. -/
def World.OpeningTold (w : World) : Prop :=
  ∃ window, .opened window ∈ w.journal.handed ∧
    w.detector.windows.active.map (·.windowId) = some window.windowId

/-- The outcome opens a window. -/
def BlockingWindowTracker.Opens (t : BlockingWindowTracker) (o : EscalationOutcome) : Prop :=
  t.policy.shouldOpenWindow o.effectiveSeverity = true ∧ t.active = none

/-- The outcome closes the window that is open. -/
def BlockingWindowTracker.Closes (t : BlockingWindowTracker) (o : EscalationOutcome) : Prop :=
  t.policy.shouldOpenWindow o.effectiveSeverity = false ∧
    ∃ w, t.active = some w ∧ t.policy.windowCloseConsecutiveNormals ≤ w.consecutiveNormals + 1

/-- The step does no harm: the tracker is only replaced while no window is open, a window is only
    opened where the tracker has numbered all those before it, and where the opening of a window
    was told, window events are still on when it closes. -/
def Harmless (w : World) : Action → Prop
  | .start => True
  | .process measurement evaluation =>
    (w.detector.windows.Opens (w.detector.outcomeOf measurement evaluation) →
      w.detector.windows.nextId = w.detector.statistics.windowsSeen) ∧
    (w.detector.windows.Closes (w.detector.outcomeOf measurement evaluation) → w.OpeningTold →
      w.detector.tellsWindows = true)
  | .reconfigure configuration =>
    configuration.windowHistoryCapacity ≠ w.detector.configuration.windowHistoryCapacity →
      w.detector.windows.active = none
  | .stop _ => w.detector.stops = true → w.OpeningTold → w.detector.tellsWindows = true

/-! ## Events -/

section Events

variable {windowId : String} {events : List WindowEvent} {window : BlockingWindowSnapshot}

theorem closings_snoc_opened :
    closings windowId (events ++ [.opened window]) = closings windowId events := by
  induction events with
  | nil => rfl
  | cons event events ih =>
    cases event with
    | opened _ => rfl
    | closed _ =>
      rw [List.cons_append, closings, closings, List.takeWhile_cons_of_pos (by rfl),
        List.takeWhile_cons_of_pos (by rfl), List.countP_cons, List.countP_cons]
      exact congrArg (· + _) ih

theorem closings_snoc_closed (hne : window.windowId ≠ windowId) :
    closings windowId (events ++ [.closed window]) = closings windowId events := by
  induction events with
  | nil =>
    have hnot : WindowEvent.closes windowId (.closed window) = false := decide_eq_false hne
    rw [List.nil_append, closings, List.takeWhile_cons_of_pos (by rfl), List.countP_cons, hnot]
    rfl
  | cons event events ih =>
    cases event with
    | opened _ => rfl
    | closed _ =>
      rw [List.cons_append, closings, closings, List.takeWhile_cons_of_pos (by rfl),
        List.takeWhile_cons_of_pos (by rfl), List.countP_cons, List.countP_cons]
      exact congrArg (· + _) ih

theorem closings_singleton : closings window.windowId [.closed window] = 1 := by
  have hcloses : WindowEvent.closes window.windowId (.closed window) = true := decide_eq_true rfl
  rw [closings, List.takeWhile_cons_of_pos (by rfl), List.countP_cons, hcloses]
  rfl

/-- A closing that is counted is there. -/
theorem exists_closed_of_closings (h : closings windowId events = 1) :
    ∃ window, .closed window ∈ events ∧ window.windowId = windowId := by
  obtain ⟨event, hmem, hcloses⟩ := List.countP_pos_iff.mp (Nat.lt_of_lt_of_eq Nat.zero_lt_one h.symm)
  cases event with
  | opened _ => cases hcloses
  | closed window =>
    exact ⟨window, (List.takeWhile_prefix _).subset hmem, of_decide_eq_true hcloses⟩

/-- Where a list that has grown is cut at an element: at the new end, or where it could be cut
    before. -/
theorem snoc_eq_append_cons {α : Type _} {l before after : List α} {x y : α}
    (h : l ++ [x] = before ++ y :: after) :
    (after = [] ∧ before = l ∧ y = x) ∨
      ∃ after', after = after' ++ [x] ∧ l = before ++ y :: after' := by
  rcases List.eq_nil_or_concat' after with rfl | ⟨after', z, rfl⟩
  · obtain ⟨hl, hx⟩ := List.append_inj' h rfl
    exact .inl ⟨rfl, hl.symm, (List.singleton_inj.mp hx).symm⟩
  · have hcons : l ++ [x] = (before ++ y :: after') ++ [z] := by simpa using h
    obtain ⟨hl, hx⟩ := List.append_inj' hcons rfl
    rw [List.singleton_inj.mp hx]
    exact .inr ⟨after', rfl, hl⟩

end Events

/-! ## Numbering -/

/-- The windows are numbered one by one from one, and what was opened is closed or open.  A tracker
    that is not in step with the statistics has not numbered anything yet. -/
structure Numbered (runtimeId : String) (t : BlockingWindowTracker) (s : BlockingStatistics)
    (ids : List String) (closed : List BlockingWindowSnapshot) : Prop where
  sameRuntime : t.runtimeId = runtimeId
  ids_eq : ids = (List.range s.windowsSeen).map fun i => windowIdOf runtimeId (i + 1)
  accounted : ids = closed.map (·.windowId) ++ (t.active.map (·.windowId)).toList
  closed_eq : s.closedWindows = closed.length
  nextId_eq : t.nextId = s.windowsSeen ∨ t.nextId = 0
  totals : t.totalOpened = t.totalClosed + if t.active.isSome then 1 else 0

namespace Numbered

variable {runtimeId : String} {t : BlockingWindowTracker} {s : BlockingStatistics}
  {ids : List String} {past : List BlockingWindowSnapshot} {w w' : ActiveWindow}

theorem nodup (h : Numbered runtimeId t s ids past) : ids.Nodup := by
  rw [h.ids_eq]
  refine List.Nodup.map (fun m n heq => ?_) List.nodup_range
  exact Nat.succ_inj.mp (windowIdOf_inj heq)

theorem seen (h : Numbered runtimeId t s ids past) :
    s.windowsSeen = s.closedWindows + if t.active.isSome then 1 else 0 := by
  have hlength : ids.length = s.windowsSeen := by
    rw [h.ids_eq, List.length_map, List.length_range]
  rw [← hlength, h.accounted, h.closed_eq, List.length_append, List.length_map]
  cases t.active with
  | none => rfl
  | some w => rfl

/-- The id of the open window is not that of a closed one. -/
theorem active_notMem (h : Numbered runtimeId t s ids past) (hactive : t.active = some w) :
    w.windowId ∉ past.map (·.windowId) := by
  have hnodup := h.nodup
  rw [h.accounted, hactive] at hnodup
  intro hmem
  exact (List.nodup_append.mp hnodup).2.2 _ hmem _ List.mem_cons_self rfl

/-- A window opens, and gets the next number of a tracker that has numbered all before it. -/
theorem opened (h : Numbered runtimeId t s ids past) (hactive : t.active = none)
    (hnext : t.nextId = s.windowsSeen) (o : EscalationOutcome) :
    Numbered runtimeId
      { t with
        active := some (t.openWindow o)
        nextId := t.nextId + 1
        totalOpened := t.totalOpened + 1 }
      s.observeWindowOpened (ids ++ [(t.openWindow o).windowId]) past where
  sameRuntime := h.sameRuntime
  ids_eq := by
    rw [h.ids_eq, BlockingStatistics.observeWindowOpened, List.range_succ, List.map_append, ← hnext,
      ← h.sameRuntime]
    rfl
  accounted := by
    have hall := h.accounted
    rw [hactive, Option.map_none, Option.toList_none, List.append_nil] at hall
    rw [hall]
    rfl
  closed_eq := h.closed_eq
  nextId_eq := .inl (congrArg (· + 1) hnext)
  totals := by
    have hall := h.totals
    rw [hactive] at hall
    exact congrArg (· + 1) hall

/-- A tracker that numbers from one again gives out an id that was there before. -/
theorem not_nodup_of_behind (h : Numbered runtimeId t s ids past)
    (hnext : t.nextId ≠ s.windowsSeen) (o : EscalationOutcome) :
    ¬ (ids ++ [(t.openWindow o).windowId]).Nodup := by
  have hzero : t.nextId = 0 := h.nextId_eq.resolve_left hnext
  have hmem : (t.openWindow o).windowId ∈ ids := by
    rw [h.ids_eq]
    refine List.mem_map.mpr ⟨0, List.mem_range.mpr (by omega), ?_⟩
    show windowIdOf runtimeId (0 + 1) = windowIdOf t.runtimeId (t.nextId + 1)
    rw [h.sameRuntime, hzero]
  intro hnodup
  exact (List.nodup_append.mp hnodup).2.2 _ hmem _ List.mem_cons_self rfl

/-- The open window changes and stays open. -/
theorem extended (h : Numbered runtimeId t s ids past) (hactive : t.active = some w)
    (hid : w'.windowId = w.windowId) :
    Numbered runtimeId { t with active := some w' } s ids past where
  sameRuntime := h.sameRuntime
  ids_eq := h.ids_eq
  accounted := by
    have hall := h.accounted
    rw [hactive] at hall
    rw [hall, Option.map_some, Option.map_some, hid]
  closed_eq := h.closed_eq
  nextId_eq := h.nextId_eq
  totals := by
    have hall := h.totals
    rw [hactive] at hall
    exact hall

theorem closed (h : Numbered runtimeId t s ids past) (hactive : t.active = some w) (ns : Int) :
    Numbered runtimeId (t.close w ns).2 (s.observeWindowClosed (t.close w ns).1) ids
      (past ++ [(t.close w ns).1]) where
  sameRuntime := h.sameRuntime
  ids_eq := h.ids_eq
  accounted := by
    have hall := h.accounted
    rw [hactive] at hall
    rw [hall, List.map_append]
    exact (List.append_nil _).symm
  closed_eq := by
    rw [BlockingStatistics.observeWindowClosed, h.closed_eq, List.length_append]
    rfl
  nextId_eq := h.nextId_eq
  totals := by
    have hall := h.totals
    rw [hactive] at hall
    exact hall

theorem configured (h : Numbered runtimeId t s ids past) (policy : BlockingThresholdPolicy) :
    Numbered runtimeId (t.configure policy) s ids past :=
  ⟨h.sameRuntime, h.ids_eq, h.accounted, h.closed_eq, h.nextId_eq, h.totals⟩

/-- A new tracker, while no window is open. -/
theorem replaced (h : Numbered runtimeId t s ids past) (hactive : t.active = none)
    (policy : BlockingThresholdPolicy) (historyCapacity : Nat) :
    Numbered runtimeId (.new policy runtimeId historyCapacity) s ids past where
  sameRuntime := rfl
  ids_eq := h.ids_eq
  accounted := by
    have hall := h.accounted
    rw [hactive] at hall
    exact hall
  closed_eq := h.closed_eq
  nextId_eq := .inr rfl
  totals := rfl

end Numbered

/-! ## Announcements -/

/-- Every opening that was told is followed by one closing, or by nothing while its window is open;
    and a closing that was told is that of a closed window. -/
structure Announced (active : Option ActiveWindow) (closed : List BlockingWindowSnapshot)
    (handed : List WindowEvent) : Prop where
  answered : ∀ before window after, handed = before ++ .opened window :: after →
    closings window.windowId after = 1 ∨
      after = [] ∧ active.map (·.windowId) = some window.windowId
  closed_mem : ∀ window, .closed window ∈ handed → window.windowId ∈ closed.map (·.windowId)

namespace Announced

variable {active : Option ActiveWindow} {closed : List BlockingWindowSnapshot}
  {handed : List WindowEvent} {w w' : ActiveWindow} {window : BlockingWindowSnapshot}

/-- While no window is open, every opening that was told has its closing. -/
theorem answered_of_none (h : Announced none closed handed) {before after : List WindowEvent}
    (hsplit : handed = before ++ .opened window :: after) : closings window.windowId after = 1 := by
  rcases h.answered before window after hsplit with hone | ⟨-, hactive⟩
  · exact hone
  · cases hactive

/-- The opening of the open window, if it was told, was the last thing told. -/
theorem answered_or_active (h : Announced (some w) closed handed)
    {before after : List WindowEvent}
    (hsplit : handed = before ++ .opened window :: after) :
    closings window.windowId after = 1 ∨ after = [] ∧ w.windowId = window.windowId := by
  rcases h.answered before window after hsplit with hone | ⟨hlast, hactive⟩
  · exact .inl hone
  · exact .inr ⟨hlast, Option.some.inj hactive⟩

/-- A window opens unannounced. -/
theorem opened_untold (h : Announced none closed handed) : Announced (some w) closed handed where
  answered := fun _ _ _ hsplit => .inl (h.answered_of_none hsplit)
  closed_mem := h.closed_mem

/-- A window opens, and this is told. -/
theorem opened_told (h : Announced none closed handed) (hid : w.windowId = window.windowId) :
    Announced (some w) closed (handed ++ [.opened window]) where
  answered := fun before window' after hsplit => by
    rcases snoc_eq_append_cons hsplit with ⟨hlast, -, heq⟩ | ⟨after', hlast, hbefore⟩
    · cases heq
      exact .inr ⟨hlast, congrArg some hid⟩
    · rw [hlast, closings_snoc_opened]
      exact .inl (h.answered_of_none hbefore)
  closed_mem := fun window' hmem => by
    rcases List.mem_append.mp hmem with hmem | hmem
    · exact h.closed_mem window' hmem
    · cases List.mem_singleton.mp hmem

theorem extended (h : Announced (some w) closed handed) (hid : w'.windowId = w.windowId) :
    Announced (some w') closed handed where
  answered := fun before window' after hsplit => by
    rw [Option.map_some, hid]
    exact h.answered before window' after hsplit
  closed_mem := h.closed_mem

/-- The open window closes, and this is told. -/
theorem closed_told (h : Announced (some w) closed handed)
    (hfresh : w.windowId ∉ closed.map (·.windowId)) (hid : window.windowId = w.windowId) :
    Announced none (closed ++ [window]) (handed ++ [.closed window]) where
  answered := fun before window' after hsplit => by
    rcases snoc_eq_append_cons hsplit with ⟨-, -, heq⟩ | ⟨after', rfl, hbefore⟩
    · cases heq
    · left
      rcases h.answered_or_active hbefore with hone | ⟨rfl, hactive⟩
      · -- An opening that has its closing is not that of the open window.
        rw [closings_snoc_closed, hone]
        rintro heq
        obtain ⟨window'', hmem, hsame⟩ := exists_closed_of_closings hone
        apply hfresh
        rw [← hid, heq, ← hsame]
        refine h.closed_mem window'' ?_
        rw [hbefore]
        exact List.mem_append_right _ (List.mem_cons_of_mem _ hmem)
      · rw [List.nil_append, ← hactive, ← hid]
        exact closings_singleton
  closed_mem := fun window' hmem => by
    rw [List.map_append]
    rcases List.mem_append.mp hmem with hmem | hmem
    · exact List.mem_append_left _ (h.closed_mem window' hmem)
    · cases List.mem_singleton.mp hmem
      exact List.mem_append_right _ List.mem_cons_self

/-- The open window closes unannounced: no harm if its opening was not told either. -/
theorem closed_untold (h : Announced (some w) closed handed)
    (huntold : ∀ window', .opened window' ∈ handed → w.windowId ≠ window'.windowId) :
    Announced none (closed ++ [window]) handed where
  answered := fun before window' after hsplit => by
    rcases h.answered_or_active hsplit with hone | ⟨-, hactive⟩
    · exact .inl hone
    · refine absurd hactive (huntold window' ?_)
      rw [hsplit]
      exact List.mem_append_right _ List.mem_cons_self
  closed_mem := fun window' hmem => by
    rw [List.map_append]
    exact List.mem_append_left _ (h.closed_mem window' hmem)

/-- Where the opening of the open window was told, its closing was not. -/
theorem not_answered (h : Announced (some w) closed handed)
    (hfresh : w.windowId ∉ closed.map (·.windowId)) (htold : .opened window ∈ handed)
    (hid : w.windowId = window.windowId) :
    ∃ before, handed = before ++ [.opened window] := by
  obtain ⟨before, after, hsplit⟩ := List.append_of_mem htold
  rcases h.answered_or_active hsplit with hone | ⟨rfl, -⟩
  · obtain ⟨window', hmem, hsame⟩ := exists_closed_of_closings hone
    refine absurd ?_ hfresh
    rw [hid, ← hsame]
    refine h.closed_mem window' ?_
    rw [hsplit]
    exact List.mem_append_right _ (List.mem_cons_of_mem _ hmem)
  · exact ⟨before, hsplit⟩

end Announced

/-! ## Groups -/

/-- The open window is that of the group so far. -/
structure Follows (w : ActiveWindow) (group : List EscalationOutcome) : Prop where
  first : group.head?.map (·.sampleIndex) = some w.openSampleIndex
  firstNs : group.head?.map (·.actualNs) = some w.openMonotonicNs
  last : group.getLast?.map (·.sampleIndex) = some w.lastViolationSampleIndex
  violations : w.violationCount = group.length
  escalations : w.escalationCount = group.countP (·.escalated)

namespace Follows

variable {w : ActiveWindow} {group : List EscalationOutcome}

theorem opened (t : BlockingWindowTracker) (o : EscalationOutcome) :
    Follows (t.openWindow o) [o] where
  first := rfl
  firstNs := rfl
  last := rfl
  violations := rfl
  escalations := by
    rw [List.countP_singleton]
    rfl

/-- Another hit joins the group. -/
theorem extended (h : Follows w group) (o : EscalationOutcome) :
    Follows (extend w o) (group ++ [o]) where
  first := by
    have hfirst := h.first
    cases group with
    | nil => cases hfirst
    | cons _ _ => exact hfirst
  firstNs := by
    have hfirst := h.firstNs
    cases group with
    | nil => cases hfirst
    | cons _ _ => exact hfirst
  last := by
    rw [List.getLast?_append_of_ne_nil _ (List.cons_ne_nil o [])]
    rfl
  violations := by
    rw [List.length_append, ← h.violations]
    rfl
  escalations := by
    rw [List.countP_append, List.countP_singleton, ← h.escalations]
    cases hescalated : o.escalated with
    | false => simp [extend, hescalated]
    | true => simp [extend, hescalated]

theorem waited (h : Follows w group) (normals : Nat) :
    Follows { w with consecutiveNormals := normals } group :=
  ⟨h.first, h.firstNs, h.last, h.violations, h.escalations⟩

theorem covers (h : Follows w group) (runtimeId : String) :
    Covers (toSnapshot runtimeId w) group :=
  ⟨h.first, h.firstNs, rfl, h.violations, h.escalations⟩

theorem covers_closed (h : Follows w group) (t : BlockingWindowTracker) (ns : Int) :
    Covers (t.close w ns).1 group :=
  ⟨h.first, h.firstNs, h.last.symm, h.violations, h.escalations⟩

end Follows

/-- The closed windows are the groups that are over, and the open one is the group that may still go
    on: its counter is the length of the gap behind it. -/
def Grouped (closed : List BlockingWindowSnapshot) (stream : List (Lull ⊕ EscalationOutcome)) :
    Option ActiveWindow → Prop
  | none =>
    List.Forall₂ Covers closed (groups breaks stream) ∧
      (groups breaks stream = [] ∨ breaks (tailGap stream) = true)
  | some w =>
    ∃ ended group, groups breaks stream = ended ++ [group] ∧ List.Forall₂ Covers closed ended ∧
      Follows w group ∧ breaks (tailGap stream) = false ∧
      w.consecutiveNormals = (tailGap stream).length

namespace Grouped

variable {past : List BlockingWindowSnapshot} {stream : List (Lull ⊕ EscalationOutcome)}
  {w : ActiveWindow} {t : BlockingWindowTracker}

theorem idle (h : Grouped past stream none) (lull : Lull) :
    Grouped past (stream ++ [.inl lull]) none := by
  obtain ⟨hcovers, hover⟩ := h
  refine ⟨by rw [groups_snoc_gap]; exact hcovers, ?_⟩
  rw [groups_snoc_gap, tailGap_snoc_gap, breaks_snoc]
  exact hover.imp_right fun hbreaks => by rw [hbreaks, Bool.true_or]

/-- A hit outside of all windows begins a group. -/
theorem opened (h : Grouped past stream none) (t : BlockingWindowTracker)
    (o : EscalationOutcome) : Grouped past (stream ++ [.inr o]) (some (t.openWindow o)) := by
  obtain ⟨hcovers, hover⟩ := h
  refine ⟨groups breaks stream, [o], groups_snoc_new hover o, hcovers, .opened t o, ?_, ?_⟩
  · rw [tailGap_snoc_hit]
    rfl
  · rw [tailGap_snoc_hit]
    rfl

/-- A hit inside of a window joins its group, and the counter starts again. -/
theorem extended (h : Grouped past stream (some w)) (o : EscalationOutcome) :
    Grouped past (stream ++ [.inr o]) (some (extend w o)) := by
  obtain ⟨ended, group, hgroups, hcovers, hfollows, hgap, -⟩ := h
  refine ⟨ended, group ++ [o], groups_snoc_join hgroups hgap o, hcovers, hfollows.extended o,
    ?_, ?_⟩
  · rw [tailGap_snoc_hit]
    rfl
  · rw [tailGap_snoc_hit]
    rfl

theorem waited (h : Grouped past stream (some w)) {lull : Lull}
    (hends : lull.ends (w.consecutiveNormals + 1) = false) :
    Grouped past (stream ++ [.inl lull])
      (some { w with consecutiveNormals := w.consecutiveNormals + 1 }) := by
  obtain ⟨ended, group, hgroups, hcovers, hfollows, hgap, hnormals⟩ := h
  refine ⟨ended, group, by rw [groups_snoc_gap, hgroups], hcovers, hfollows.waited _, ?_, ?_⟩
  · rw [tailGap_snoc_gap, breaks_snoc, hgap, Bool.false_or, ← hnormals]
    exact hends
  · rw [tailGap_snoc_gap, List.length_append, ← hnormals]
    rfl

/-- The gap has become long enough: the group is over. -/
theorem closed (h : Grouped past stream (some w)) {lull : Lull}
    (hends : lull.ends (w.consecutiveNormals + 1) = true) (ns : Int) :
    Grouped (past ++ [(t.close w ns).1]) (stream ++ [.inl lull]) none := by
  obtain ⟨ended, group, hgroups, hcovers, hfollows, -, hnormals⟩ := h
  refine ⟨?_, .inr ?_⟩
  · rw [groups_snoc_gap, hgroups]
    exact List.rel_append hcovers (.cons (hfollows.covers_closed t ns) .nil)
  · rw [tailGap_snoc_gap, breaks_snoc, ← hnormals, hends, Bool.or_true]

/-- All windows are those of the groups. -/
theorem covers {active : Option ActiveWindow} (h : Grouped past stream active)
    (runtimeId : String) :
    List.Forall₂ Covers (past ++ (active.map (toSnapshot runtimeId)).toList)
      (groups breaks stream) := by
  cases active with
  | none =>
    rw [Option.map_none, Option.toList_none, List.append_nil]
    exact h.1
  | some w =>
    obtain ⟨ended, group, hgroups, hcovers, hfollows, -⟩ := h
    rw [hgroups]
    exact List.rel_append hcovers (.cons (hfollows.covers runtimeId) .nil)

end Grouped

/-! ## Steps -/

/-- What harmless steps keep. -/
structure Kept (w : World) : Prop where
  policy : w.detector.windows.policy =
    w.detector.configuration.thresholds.toBlockingThresholdPolicy
  drained : w.detector.backpressure.pending = 0
  numbered : Numbered w.detector.runtimeId w.detector.windows w.detector.statistics w.journal.ids
    w.journal.closed
  announced : Announced w.detector.windows.active w.journal.closed w.journal.handed
  grouped : Grouped w.journal.closed w.journal.stream w.detector.windows.active

theorem Kept.sound {w : World} (h : Kept w) : Sound w where
  ids_nodup := h.numbered.nodup
  answered := h.announced.answered
  seen := h.numbered.seen
  totals := h.numbered.totals
  grouped := h.grouped.covers _

theorem kept_new (runtimeId : String) (configuration : BlockingDetectorConfiguration)
    (hasEmitter : Bool) : Kept (.new runtimeId configuration hasEmitter) where
  policy := rfl
  drained := rfl
  numbered := ⟨rfl, rfl, rfl, rfl, .inl rfl, rfl⟩
  announced := by
    refine ⟨fun before window after hsplit => ?_, fun window hmem => ?_⟩
    · cases List.append_eq_nil_iff.mp hsplit.symm |>.2
    · cases hmem
  grouped := ⟨.nil, .inl rfl⟩

@[simp] theorem Journal.record_quiet (j : Journal) (entry : Lull ⊕ EscalationOutcome) :
    j.record entry none none [] = { j with stream := j.stream ++ [entry] } := by
  simp [Journal.record]

@[simp] theorem Journal.record_opened (j : Journal) (entry : Lull ⊕ EscalationOutcome)
    (window : BlockingWindowSnapshot) (handed : List WindowEvent) :
    j.record entry (some window) none handed =
      { j with
        ids := j.ids ++ [window.windowId]
        handed := j.handed ++ handed
        stream := j.stream ++ [entry] } := by
  simp [Journal.record]

@[simp] theorem Journal.record_closed (j : Journal) (entry : Lull ⊕ EscalationOutcome)
    (window : BlockingWindowSnapshot) (handed : List WindowEvent) :
    j.record entry none (some window) handed =
      { j with
        closed := j.closed ++ [window]
        handed := j.handed ++ handed
        stream := j.stream ++ [entry] } := by
  simp [Journal.record]

namespace World

variable {w : World} {measurement : LagMeasurement} {evaluation : LagThresholdEvaluation}
  {active : ActiveWindow}

/-- What the call makes of a sample that changes at most the open window. -/
theorem process_quiet {transition : WindowTransition} {windows : BlockingWindowTracker}
    (h : w.detector.windows.process (w.detector.outcomeOf measurement evaluation) =
      (transition, windows))
    (hopened : transition.opened = none) (hclosed : transition.closed = none) :
    w.process measurement evaluation =
      ⟨{ w.detector.pressed measurement evaluation with windows := windows },
        { w.journal with
          stream := w.journal.stream ++
            [entryOf w.detector.configuration.thresholds.toBlockingThresholdPolicy
              (w.detector.outcomeOf measurement evaluation)] }⟩ := by
  rw [process, BlockingThresholdDetector.process_quiet h hopened hclosed]
  dsimp only
  rw [hopened, hclosed, Journal.record_quiet]

/-- The world after a window has opened with the outcome `o`. -/
def opening (w : World) (escalation : EscalationEngine) (o : EscalationOutcome) : World where
  detector :=
    { w.detector with
      escalation := escalation
      windows :=
        { w.detector.windows with
          active := some (w.detector.windows.openWindow o)
          nextId := w.detector.windows.nextId + 1
          totalOpened := w.detector.windows.totalOpened + 1 }
      statistics := w.detector.statistics.observeWindowOpened }
  journal :=
    { w.journal with
      ids := w.journal.ids ++ [(w.detector.windows.openWindow o).windowId]
      handed := w.journal.handed ++
        if w.detector.tellsWindows then
          [.opened (toSnapshot w.detector.windows.runtimeId (w.detector.windows.openWindow o))]
        else []
      stream := w.journal.stream ++ [.inr o] }

/-- The world after the window `active` has closed at `closeNs`, because of `lull`. -/
def closing (w : World) (escalation : EscalationEngine) (state : BlockingDetectorState)
    (active : ActiveWindow) (closeNs : Int) (lull : Lull) : World where
  detector :=
    { w.detector with
      escalation := escalation
      windows := (w.detector.windows.close active closeNs).2
      statistics :=
        w.detector.statistics.observeWindowClosed (w.detector.windows.close active closeNs).1
      state := state }
  journal :=
    { w.journal with
      closed := w.journal.closed ++ [(w.detector.windows.close active closeNs).1]
      handed := w.journal.handed ++
        if w.detector.tellsWindows then
          [.closed (w.detector.windows.close active closeNs).1]
        else []
      stream := w.journal.stream ++ [.inl lull] }

theorem process_opens (hpolicy : w.detector.windows.policy =
      w.detector.configuration.thresholds.toBlockingThresholdPolicy)
    (hdrained : w.detector.backpressure.pending = 0)
    (hopens : w.detector.windows.Opens (w.detector.outcomeOf measurement evaluation)) :
    w.process measurement evaluation =
      w.opening (w.detector.escalation.process (classify measurement evaluation)).2
        (w.detector.outcomeOf measurement evaluation) := by
  rw [process, BlockingThresholdDetector.process_opened hdrained
    (BlockingWindowTracker.process_open hopens.1 hopens.2) rfl rfl]
  dsimp only
  rw [Journal.record_opened, ← hpolicy, entryOf_high hopens.1]
  rfl

theorem process_closes (hpolicy : w.detector.windows.policy =
      w.detector.configuration.thresholds.toBlockingThresholdPolicy)
    (hdrained : w.detector.backpressure.pending = 0)
    (hlow : w.detector.windows.policy.shouldOpenWindow
      (w.detector.outcomeOf measurement evaluation).effectiveSeverity = false)
    (hactive : w.detector.windows.active = some active)
    (hmany : w.detector.windows.policy.windowCloseConsecutiveNormals ≤
      active.consecutiveNormals + 1) :
    w.process measurement evaluation =
      w.closing (w.detector.escalation.process (classify measurement evaluation)).2
        w.detector.state active active.lastViolationMonotonicNs
        (.lower w.detector.windows.policy) := by
  rw [process, BlockingThresholdDetector.process_closed hdrained
    (BlockingWindowTracker.process_close hlow hactive hmany) rfl rfl]
  dsimp only
  rw [Journal.record_closed, ← hpolicy, entryOf_low hlow]
  rfl

theorem stop_closes (hdrained : w.detector.backpressure.pending = 0)
    (hstops : w.detector.stops = true) (hactive : w.detector.windows.active = some active)
    (nowNs : Int) :
    w.stop nowNs =
      w.closing w.detector.escalation .stopped active (max nowNs active.openMonotonicNs) .stop := by
  rw [stop, BlockingThresholdDetector.stop_some hdrained hstops hactive]
  dsimp only
  rw [if_pos hstops, Journal.record_closed]
  rfl

theorem stop_idle (hstops : w.detector.stops = false) (nowNs : Int) :
    w.stop nowNs = ⟨{ w.detector with state := .stopped }, w.journal⟩ := by
  rw [stop, BlockingThresholdDetector.stop_idle hstops]
  dsimp only
  rw [if_neg (by rw [hstops]; decide)]

theorem stop_none (hstops : w.detector.stops = true) (hactive : w.detector.windows.active = none)
    (nowNs : Int) :
    w.stop nowNs =
      ⟨{ w.detector with state := .stopped },
        { w.journal with stream := w.journal.stream ++ [.inl .stop] }⟩ := by
  rw [stop, BlockingThresholdDetector.stop_none hstops hactive]
  dsimp only
  rw [if_pos hstops, Journal.record_quiet]

end World

namespace Kept

variable {w : World} {active : ActiveWindow} {o : EscalationOutcome} {lull : Lull}

theorem opening (h : Kept w) (hactive : w.detector.windows.active = none)
    (hnext : w.detector.windows.nextId = w.detector.statistics.windowsSeen)
    (escalation : EscalationEngine) (o : EscalationOutcome) : Kept (w.opening escalation o) where
  policy := h.policy
  drained := h.drained
  numbered := h.numbered.opened hactive hnext o
  announced := by
    have hannounced := h.announced
    rw [hactive] at hannounced
    show Announced (some (w.detector.windows.openWindow o)) w.journal.closed
      (w.journal.handed ++ if w.detector.tellsWindows then _ else [])
    cases w.detector.tellsWindows with
    | false =>
      rw [if_neg (by decide), List.append_nil]
      exact hannounced.opened_untold
    | true => exact hannounced.opened_told rfl
  grouped := by
    have hgrouped := h.grouped
    rw [hactive] at hgrouped
    exact hgrouped.opened w.detector.windows o

/-- A window that opens behind the statistics has an id that was used before. -/
theorem not_sound_opening (h : Kept w)
    (hnext : w.detector.windows.nextId ≠ w.detector.statistics.windowsSeen)
    (escalation : EscalationEngine) (o : EscalationOutcome) :
    ¬ Sound (w.opening escalation o) :=
  fun hsound => h.numbered.not_nodup_of_behind hnext o hsound.ids_nodup

theorem closing (h : Kept w) (hactive : w.detector.windows.active = some active)
    (hends : lull.ends (active.consecutiveNormals + 1) = true)
    (htold : w.OpeningTold → w.detector.tellsWindows = true) (escalation : EscalationEngine)
    (state : BlockingDetectorState) (closeNs : Int) :
    Kept (w.closing escalation state active closeNs lull) where
  policy := h.policy
  drained := h.drained
  numbered := h.numbered.closed hactive closeNs
  announced := by
    have hannounced := h.announced
    rw [hactive] at hannounced
    show Announced none (w.journal.closed ++ [(w.detector.windows.close active closeNs).1])
      (w.journal.handed ++ if w.detector.tellsWindows then _ else [])
    cases htells : w.detector.tellsWindows with
    | false =>
      rw [if_neg (by decide), List.append_nil]
      refine hannounced.closed_untold fun window hmem hid => ?_
      have htrue := htold ⟨window, hmem, by rw [hactive, Option.map_some, hid]⟩
      rw [htells] at htrue
      cases htrue
    | true => exact hannounced.closed_told (h.numbered.active_notMem hactive) rfl
  grouped := by
    have hgrouped := h.grouped
    rw [hactive] at hgrouped
    exact hgrouped.closed hends closeNs

/-- Where the opening was told and the closing is not, the opening stays without an answer. -/
theorem not_sound_closing (h : Kept w) (hactive : w.detector.windows.active = some active)
    (htold : w.OpeningTold) (htells : w.detector.tellsWindows = false)
    (escalation : EscalationEngine) (state : BlockingDetectorState) (closeNs : Int) :
    ¬ Sound (w.closing escalation state active closeNs lull) := by
  intro hsound
  obtain ⟨window, hmem, hid⟩ := htold
  rw [hactive] at hid
  have hannounced := h.announced
  rw [hactive] at hannounced
  obtain ⟨before, hbefore⟩ := hannounced.not_answered (h.numbered.active_notMem hactive) hmem
    (Option.some.inj hid)
  have hhanded : (w.closing escalation state active closeNs lull).journal.handed =
      before ++ .opened window :: [] := by
    show w.journal.handed ++ (if w.detector.tellsWindows then _ else []) = _
    rw [htells, if_neg (by decide), List.append_nil, hbefore]
  rcases hsound.answered before window [] hhanded with hzero | ⟨-, hnone⟩
  · cases hzero
  · cases hnone

/-- A step that leaves the windows and the journal alone. -/
theorem unchanged (h : Kept w) (escalation : EscalationEngine) (state : BlockingDetectorState) :
    Kept ⟨{ w.detector with escalation := escalation, state := state }, w.journal⟩ :=
  ⟨h.policy, h.drained, h.numbered, h.announced, h.grouped⟩

/-- A lower sample, or a stop, outside of all windows. -/
theorem idle (h : Kept w) (hactive : w.detector.windows.active = none)
    (escalation : EscalationEngine) (state : BlockingDetectorState) (lull : Lull) :
    Kept ⟨{ w.detector with escalation := escalation, state := state },
      { w.journal with stream := w.journal.stream ++ [.inl lull] }⟩ where
  policy := h.policy
  drained := h.drained
  numbered := h.numbered
  announced := h.announced
  grouped := by
    have hgrouped := h.grouped
    rw [hactive] at hgrouped
    show Grouped _ _ w.detector.windows.active
    rw [hactive]
    exact hgrouped.idle lull

/-- The open window changes with an entry of the stream, and stays open. -/
theorem extending (h : Kept w) (hactive : w.detector.windows.active = some active)
    {active' : ActiveWindow} (hid : active'.windowId = active.windowId)
    {entry : Lull ⊕ EscalationOutcome}
    (hgrouped : Grouped w.journal.closed (w.journal.stream ++ [entry]) (some active'))
    (escalation : EscalationEngine) :
    Kept ⟨{ w.detector with
        escalation := escalation
        windows := { w.detector.windows with active := some active' } },
      { w.journal with stream := w.journal.stream ++ [entry] }⟩ where
  policy := h.policy
  drained := h.drained
  numbered := h.numbered.extended hactive hid
  announced := by
    have hannounced := h.announced
    rw [hactive] at hannounced
    exact hannounced.extended hid
  grouped := hgrouped

/-- A sample, in the five ways that it can go. -/
theorem process (h : Kept w) {measurement : LagMeasurement} {evaluation : LagThresholdEvaluation}
    (hharmless : Harmless w (.process measurement evaluation)) :
    Kept (w.process measurement evaluation) := by
  obtain ⟨hopens, hcloses⟩ := hharmless
  cases hlevel : w.detector.windows.policy.shouldOpenWindow
    (w.detector.outcomeOf measurement evaluation).effectiveSeverity <;>
    cases hactive : w.detector.windows.active
  case true.none =>
    rw [World.process_opens h.policy h.drained ⟨hlevel, hactive⟩]
    exact h.opening hactive (hopens ⟨hlevel, hactive⟩) _ _
  case true.some active =>
    rw [World.process_quiet (BlockingWindowTracker.process_extend hlevel hactive) rfl rfl,
      ← h.policy, entryOf_high hlevel]
    have hgrouped := h.grouped
    rw [hactive] at hgrouped
    exact h.extending hactive (by rfl) (hgrouped.extended _) _
  case false.none =>
    rw [World.process_quiet (BlockingWindowTracker.process_idle hlevel hactive) rfl rfl,
      ← h.policy, entryOf_low hlevel]
    exact h.idle hactive _ _ _
  case false.some active =>
    by_cases hmany : w.detector.windows.policy.windowCloseConsecutiveNormals ≤
        active.consecutiveNormals + 1
    · have hends : (Lull.lower w.detector.windows.policy).ends (active.consecutiveNormals + 1) =
          true := decide_eq_true hmany
      rw [World.process_closes h.policy h.drained hlevel hactive hmany]
      exact h.closing hactive hends (hcloses ⟨hlevel, active, hactive, hmany⟩) _ _ _
    · have hends : (Lull.lower w.detector.windows.policy).ends (active.consecutiveNormals + 1) =
          false := decide_eq_false hmany
      rw [World.process_quiet (BlockingWindowTracker.process_wait hlevel hactive
        (Nat.lt_of_not_le hmany)) rfl rfl, ← h.policy, entryOf_low hlevel]
      have hgrouped := h.grouped
      rw [hactive] at hgrouped
      exact h.extending hactive (by rfl) (hgrouped.waited hends) _

theorem not_sound_process (h : Kept w) {measurement : LagMeasurement}
    {evaluation : LagThresholdEvaluation}
    (hharm : ¬ Harmless w (.process measurement evaluation)) :
    ¬ Sound (w.process measurement evaluation) := by
  rcases Classical.not_and_iff_not_or_not.mp hharm with hopens | hcloses
  · obtain ⟨hopens, hnext⟩ := Classical.not_imp.mp hopens
    rw [World.process_opens h.policy h.drained hopens]
    exact h.not_sound_opening hnext _ _
  · obtain ⟨⟨hlow, active, hactive, hmany⟩, hrest⟩ := Classical.not_imp.mp hcloses
    obtain ⟨htold, htells⟩ := Classical.not_imp.mp hrest
    rw [World.process_closes h.policy h.drained hlow hactive hmany]
    exact h.not_sound_closing hactive htold (Bool.not_eq_true _ ▸ htells) _ _ _

theorem stop (h : Kept w) {nowNs : Int} (hharmless : Harmless w (.stop nowNs)) :
    Kept (w.stop nowNs) := by
  cases hstops : w.detector.stops with
  | false =>
    rw [World.stop_idle hstops]
    exact h.unchanged _ _
  | true =>
    cases hactive : w.detector.windows.active with
    | none =>
      rw [World.stop_none hstops hactive]
      exact h.idle hactive _ _ _
    | some active =>
      rw [World.stop_closes h.drained hstops hactive]
      exact h.closing hactive rfl (hharmless hstops) _ _ _

theorem not_sound_stop (h : Kept w) {nowNs : Int} (hharm : ¬ Harmless w (.stop nowNs)) :
    ¬ Sound (w.stop nowNs) := by
  obtain ⟨hstops, hrest⟩ := Classical.not_imp.mp hharm
  obtain ⟨htold, htells⟩ := Classical.not_imp.mp hrest
  obtain ⟨window, hmem, hid⟩ := htold
  obtain ⟨active, hactive, -⟩ := Option.map_eq_some_iff.mp hid
  rw [World.stop_closes h.drained hstops hactive]
  exact h.not_sound_closing hactive ⟨window, hmem, hid⟩ (Bool.not_eq_true _ ▸ htells) _ _ _

theorem reconfigure (h : Kept w) {configuration : BlockingDetectorConfiguration}
    (hharmless : Harmless w (.reconfigure configuration)) :
    Kept { w with detector := w.detector.reconfigure configuration } := by
  have hdrained : (w.detector.reconfigure configuration).backpressure.pending = 0 := by
    unfold BlockingThresholdDetector.reconfigure
    dsimp only
    split_ifs
    · rfl
    · exact h.drained
  by_cases hcapacity :
      configuration.windowHistoryCapacity = w.detector.configuration.windowHistoryCapacity
  · have hwindows : (w.detector.reconfigure configuration).windows =
        w.detector.windows.configure configuration.thresholds := if_neg (not_not.mpr hcapacity)
    refine ⟨?_, hdrained, ?_, ?_, ?_⟩ <;> dsimp only <;> rw [hwindows]
    · rfl
    · exact h.numbered.configured _
    · exact h.announced
    · exact h.grouped
  · have hactive := hharmless hcapacity
    have hwindows : (w.detector.reconfigure configuration).windows =
        .new configuration.thresholds w.detector.runtimeId configuration.windowHistoryCapacity :=
      if_pos hcapacity
    have hannounced := h.announced
    have hgrouped := h.grouped
    rw [hactive] at hannounced hgrouped
    refine ⟨?_, hdrained, ?_, ?_, ?_⟩ <;> dsimp only <;> rw [hwindows]
    · rfl
    · exact h.numbered.replaced hactive _ _
    · exact hannounced
    · exact hgrouped

/-- A tracker that is replaced while a window is open loses it. -/
theorem not_sound_reconfigure (h : Kept w) {configuration : BlockingDetectorConfiguration}
    (hharm : ¬ Harmless w (.reconfigure configuration)) :
    ¬ Sound { w with detector := w.detector.reconfigure configuration } := by
  intro hsound
  obtain ⟨hcapacity, hsome⟩ := Classical.not_imp.mp hharm
  have hnone : (w.detector.reconfigure configuration).windows.active = none := by
    show (if configuration.windowHistoryCapacity ≠ _ then _ else _ : BlockingWindowTracker).active
      = none
    rw [if_pos hcapacity]
    rfl
  have hseen := hsound.seen
  rw [hnone] at hseen
  have hbefore := h.numbered.seen
  rw [Option.isSome_iff_ne_none.mpr hsome, if_pos rfl] at hbefore
  have hlost : w.detector.statistics.windowsSeen = w.detector.statistics.closedWindows := hseen
  omega

end Kept

theorem kept_of_harmless (w : World) (a : Action) (w' : World) (h : Kept w) (ha : Harmless w a)
    (hstep : World.step w a = some w') : Kept w' := by
  cases hstep
  cases a with
  | start => exact h.unchanged _ _
  | process measurement evaluation => exact h.process ha
  | reconfigure configuration => exact h.reconfigure ha
  | stop nowNs => exact h.stop ha

theorem not_sound_of_harm (w : World) (a : Action) (w' : World) (h : Kept w) (ha : ¬ Harmless w a)
    (hstep : World.step w a = some w') : ¬ Sound w' := by
  cases hstep
  cases a with
  | start => exact absurd trivial ha
  | process measurement evaluation => exact h.not_sound_process ha
  | reconfigure configuration => exact h.not_sound_reconfigure ha
  | stop nowNs => exact h.not_sound_stop ha

/-- In every run of a detector, what is claimed of the windows holds in every state reached exactly
    if all of the steps are harmless. -/
theorem sound_iff_harmless (runtimeId : String) (configuration : BlockingDetectorConfiguration)
    (hasEmitter : Bool) (actions : List Action) :
    AllStates World.step Sound (.new runtimeId configuration hasEmitter) actions ↔
      AllSteps World.step Harmless (.new runtimeId configuration hasEmitter) actions := by
  obtain ⟨w', hrun⟩ := exec_isSome (fun w a => ⟨w.act a, rfl⟩)
    (World.new runtimeId configuration hasEmitter) actions
  exact allStates_iff_allSteps_of_keep (fun _ => Kept.sound) kept_of_harmless not_sound_of_harm
    (kept_new runtimeId configuration hasEmitter) hrun

/-- A window is open and the ring of the closed windows is made larger, under the same policy: one
    window was opened, none was closed, and none is open. -/
theorem not_sound_of_resized :
    ¬ AllStates World.step Sound (.new "r" .default true)
      [.process ⟨0, 0⟩ ⟨.warning, 60000000⟩,
        .reconfigure
          { BlockingDetectorConfiguration.default with
            windowHistoryCapacity := 65
            capacity_pos := Nat.succ_pos 64 }] := by
  intro hall
  have hseen := ((hall.2 _ rfl).2 _ rfl).seen
  exact absurd hseen (by decide)

end AsyncViz.Runtime.Monitoring.Blocking
