/-
  AsyncViz.Runtime.Warnings.Blocking.Feed

  What feeds the emitter: the detector's window tracker
  (`runtime/monitoring/blocking/blocking_windows.py`), which numbers its windows and has one open
  at most.  Whatever else is called in between, the outcomes of one tracker are those of one
  detector (`World.OneDetector`), so that assumption on a run is what the tracker promises.
-/

import AsyncViz.Runtime.Warnings.Blocking.Lifecycle

namespace AsyncViz.Runtime.Warnings.Blocking

open AsyncViz.Lib AsyncViz.Lib.Transition

/-- `BlockingThresholdPolicy`, as far as the windows go. -/
structure BlockingThresholdPolicy where
  windowOpenSeverity : BlockingSeverity
  windowCloseConsecutiveNormals : Nat

/-- `policy.should_open_window(severity)`. -/
def BlockingThresholdPolicy.shouldOpenWindow (p : BlockingThresholdPolicy)
    (severity : BlockingSeverity) : Bool :=
  p.windowOpenSeverity.rank ≤ severity.rank

/-- `EscalationOutcome`, with its classification and measurement. -/
structure EscalationOutcome where
  sampleIndex : Int
  actualNs : Int
  lagNs : Int
  effectiveSeverity : BlockingSeverity
  escalated : Bool

/-- `_ActiveWindow`. -/
structure ActiveWindow where
  windowId : String
  openSampleIndex : Int
  openMonotonicNs : Int
  peakLagNs : Int
  peakSeverity : BlockingSeverity
  violationCount : Nat
  escalationCount : Nat
  consecutiveNormals : Nat := 0
  lastViolationSampleIndex : Int
  lastViolationMonotonicNs : Int

/-- `BlockingWindowTracker`; the ring of the closed windows is left out. -/
structure BlockingWindowTracker where
  policy : BlockingThresholdPolicy
  runtimeId : String
  active : Option ActiveWindow := none
  nextId : Nat := 0

namespace BlockingWindowTracker

/-- The id of a window. -/
def windowIdOf (runtimeId : String) (n : Nat) : String := s!"{runtimeId}:bw:{n}"

/-- The window that a violation opens. -/
def openWindow (t : BlockingWindowTracker) (o : EscalationOutcome) : ActiveWindow where
  windowId := windowIdOf t.runtimeId (t.nextId + 1)
  openSampleIndex := o.sampleIndex
  openMonotonicNs := o.actualNs
  peakLagNs := o.lagNs
  peakSeverity := o.effectiveSeverity
  violationCount := 1
  escalationCount := if o.escalated then 1 else 0
  lastViolationSampleIndex := o.sampleIndex
  lastViolationMonotonicNs := o.actualNs

/-- The open window after one more violation. -/
def extend (w : ActiveWindow) (o : EscalationOutcome) : ActiveWindow :=
  { w with
    violationCount := w.violationCount + 1
    escalationCount := if o.escalated then w.escalationCount + 1 else w.escalationCount
    peakLagNs := if o.lagNs > w.peakLagNs then o.lagNs else w.peakLagNs
    peakSeverity :=
      if o.effectiveSeverity.rank > w.peakSeverity.rank then o.effectiveSeverity
      else w.peakSeverity
    consecutiveNormals := 0
    lastViolationSampleIndex := o.sampleIndex
    lastViolationMonotonicNs := o.actualNs }

/-- `tracker.process(outcome)`. -/
def process (t : BlockingWindowTracker) (o : EscalationOutcome) :
    WindowTransition × BlockingWindowTracker :=
  if t.policy.shouldOpenWindow o.effectiveSeverity then
    match t.active with
    | none =>
      let w := t.openWindow o
      (⟨some w.windowId, none, none, some w.windowId⟩,
        { t with active := some w, nextId := t.nextId + 1 })
    | some w =>
      (⟨none, some w.windowId, none, some w.windowId⟩, { t with active := some (extend w o) })
  else
    match t.active with
    | none => (⟨none, none, none, none⟩, t)
    | some w =>
      let normals := w.consecutiveNormals + 1
      if normals ≥ t.policy.windowCloseConsecutiveNormals then
        (⟨none, none, some w.windowId, none⟩, { t with active := none })
      else
        (⟨none, none, none, some w.windowId⟩,
          { t with active := some { w with consecutiveNormals := normals } })

/-- The detection outcome that goes to the emitter. -/
def detect (t : BlockingWindowTracker) (o : EscalationOutcome) :
    DetectionOutcome × BlockingWindowTracker :=
  let (transition, t) := t.process o
  (⟨o.actualNs, o.sampleIndex, o.lagNs, o.effectiveSeverity, o.escalated, transition⟩, t)

theorem windowIdOf_inj {runtimeId : String} {m n : Nat}
    (h : windowIdOf runtimeId m = windowIdOf runtimeId n) : m = n := by
  have happend : (runtimeId ++ ":bw:") ++ toString m = (runtimeId ++ ":bw:") ++ toString n := h
  exact Nat.repr_inj.mp ((String.append_right_inj _).mp happend)

/-- The tracker and what it has reported: every id has been given out before, and the window that
    is open has not been closed. -/
structure Numbered (t : BlockingWindowTracker) (closed : List String) : Prop where
  closed_le : ∀ windowId ∈ closed, ∃ n ≤ t.nextId, windowId = windowIdOf t.runtimeId n
  active_le : ∀ w, t.active = some w → ∃ n ≤ t.nextId, w.windowId = windowIdOf t.runtimeId n
  active_open : ∀ w, t.active = some w → w.windowId ∉ closed

variable {t : BlockingWindowTracker} {closed : List String}

/-- All that the tracker can do with an outcome: stay outside, open a window, go on with the one
    that is open, or close it. -/
theorem process_cases (t : BlockingWindowTracker) (o : EscalationOutcome) :
    t.process o = (⟨none, none, none, none⟩, t) ∨
      t.process o = (⟨some (t.openWindow o).windowId, none, none, some (t.openWindow o).windowId⟩,
        { t with active := some (t.openWindow o), nextId := t.nextId + 1 }) ∨
      (∃ w w', t.active = some w ∧ w'.windowId = w.windowId ∧
        (t.process o).1.current = some w.windowId ∧ (t.process o).1.closed = none ∧
        (t.process o).2 = { t with active := some w' }) ∨
      ∃ w, t.active = some w ∧
        t.process o = (⟨none, none, some w.windowId, none⟩, { t with active := none }) := by
  unfold process
  cases hopen : t.policy.shouldOpenWindow o.effectiveSeverity <;> cases hactive : t.active
  case false.none => exact .inl rfl
  case false.some w =>
    simp only [Bool.false_eq_true, if_false]
    split
    · exact .inr (.inr (.inr ⟨w, rfl, rfl⟩))
    · exact .inr (.inr (.inl ⟨w, { w with consecutiveNormals := w.consecutiveNormals + 1 }, rfl,
        rfl, rfl, rfl, rfl⟩))
  case true.none => exact .inr (.inl rfl)
  case true.some w => exact .inr (.inr (.inl ⟨w, extend w o, rfl, rfl, rfl, rfl, rfl⟩))

/-- What the tracker reports next is new, or about the window that is open. -/
theorem Numbered.process (h : Numbered t closed) (o : EscalationOutcome) :
    (∀ windowId, (t.process o).1.current = some windowId → windowId ∉ closed) ∧
      (∀ windowId, (t.process o).1.closed = some windowId →
        windowId ∉ closed ∧ (t.process o).1.current = none) ∧
      Numbered (t.process o).2 (closed ++ (t.process o).1.closed.toList) := by
  rcases t.process_cases o with heq | heq | ⟨w, w', hactive, hsame, hcurrent, hclosed, heq⟩ |
    ⟨w, hactive, heq⟩
  · rw [heq]
    refine ⟨fun _ hnone => (by cases hnone), fun _ hnone => (by cases hnone), ?_⟩
    rw [Option.toList_none, List.append_nil]
    exact h
  · rw [heq]
    have hfresh : (t.openWindow o).windowId ∉ closed := by
      intro hmem
      obtain ⟨n, hle, hn⟩ := h.closed_le _ hmem
      have hnext := windowIdOf_inj hn
      omega
    refine ⟨fun windowId hcurrent => ?_, fun _ hnone => (by cases hnone), ?_⟩
    · cases hcurrent
      exact hfresh
    · rw [Option.toList_none, List.append_nil]
      refine ⟨fun windowId hmem => ?_, fun w hw => ?_, fun w hw => ?_⟩
      · obtain ⟨n, hle, hn⟩ := h.closed_le _ hmem
        exact ⟨n, Nat.le_succ_of_le hle, hn⟩
      · cases hw
        exact ⟨t.nextId + 1, Nat.le_refl _, rfl⟩
      · cases hw
        exact hfresh
  · rw [hcurrent, hclosed, heq, Option.toList_none, List.append_nil]
    refine ⟨fun windowId hsome => ?_, fun _ hnone => (by cases hnone), h.closed_le,
      fun w₁ hw₁ => ?_, fun w₁ hw₁ => ?_⟩
    · rw [← Option.some.inj hsome]
      exact h.active_open w hactive
    · rw [← Option.some.inj hw₁, hsame]
      exact h.active_le w hactive
    · rw [← Option.some.inj hw₁, hsame]
      exact h.active_open w hactive
  · -- The window closes: it is reported once, and the tracker forgets it.
    rw [heq]
    refine ⟨fun _ hnone => (by cases hnone), fun windowId hclosed => ?_, ?_⟩
    · cases hclosed
      exact ⟨h.active_open w hactive, rfl⟩
    · refine ⟨fun windowId hmem => ?_, fun _ hnone => (by cases hnone),
        fun _ hnone => (by cases hnone)⟩
      rcases List.mem_append.mp hmem with hmem | hmem
      · exact h.closed_le windowId hmem
      · rw [List.mem_singleton.mp hmem]
        exact h.active_le w hactive

end BlockingWindowTracker

/-! ## Runs that a tracker feeds -/

namespace World

/-- A sample that reaches the detector, or another call of the emitter. -/
inductive Input where
  | sample (policy : BlockingThresholdPolicy) (outcome : EscalationOutcome)
      (raises : BlockingWarningPayload → Bool)
  | onCapture (stack : CapturedStack)
  | sweepExpirations (nowMonotonicNs : Option Int) (raises : BlockingWarningPayload → Bool)
  | reconfigure (configuration : BlockingWarningConfiguration)

/-- The calls of the emitter, where the tracker feeds it; its policy may change at any time. -/
def fed (t : BlockingWindowTracker) : List Input → List Action
  | [] => []
  | .sample policy outcome raises :: inputs =>
    let (detection, t) := { t with policy := policy }.detect outcome
    .onDetection detection raises :: fed t inputs
  | .onCapture stack :: inputs => .onCapture stack :: fed t inputs
  | .sweepExpirations nowMonotonicNs raises :: inputs =>
    .sweepExpirations nowMonotonicNs raises :: fed t inputs
  | .reconfigure configuration :: inputs => .reconfigure configuration :: fed t inputs

/-- By induction on the inputs: what the tracker has reported closed is what the world has seen
    closed. -/
theorem allSteps_oneDetector_fed {t : BlockingWindowTracker} {w : World}
    (h : t.Numbered w.closed) (inputs : List Input) :
    AllSteps step OneDetector w (fed t inputs) := by
  induction inputs generalizing t w with
  | nil => trivial
  | cons input inputs ih =>
    cases input with
    | sample policy outcome raises =>
      have hpolicy : { t with policy := policy }.Numbered w.closed :=
        ⟨h.closed_le, h.active_le, h.active_open⟩
      obtain ⟨hcurrent, hclosed, hnext⟩ := hpolicy.process outcome
      exact .cons rfl ⟨hcurrent, hclosed⟩ (ih hnext)
    | onCapture stack => exact .cons rfl trivial (ih h)
    | sweepExpirations nowMonotonicNs raises => exact .cons rfl trivial (ih h)
    | reconfigure configuration => exact .cons rfl trivial (ih h)

/-- The outcomes of one tracker are those of one detector. -/
theorem oneDetector_fed (runtimeId : String) (configuration : BlockingWarningConfiguration)
    (policy : BlockingThresholdPolicy) (detectorId : String) (inputs : List Input) :
    AllSteps step OneDetector (start runtimeId configuration)
      (fed { policy := policy, runtimeId := detectorId } inputs) := by
  refine allSteps_oneDetector_fed ⟨fun _ hmem => ?_, fun _ hw => ?_, fun _ hw => ?_⟩ inputs
  · exact absurd hmem List.not_mem_nil
  · cases hw
  · cases hw

end World

end AsyncViz.Runtime.Warnings.Blocking
