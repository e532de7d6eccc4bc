/-
  AsyncViz.Runtime.Warnings.Escalation

  What a warning shows of the triggers that it stands for: after each of them its message and at
  least its severity, and a severity that does not go down while the warning is open.

  The message follows every trigger.  The severity is the one of the trigger that opened the
  warning, for good (`SeverityKept`); so a warning shows what it should exactly if no trigger
  that refreshes it is more severe than it is (`NoBump`).

  The `Meet` predicates say of a call, detector by detector, that each trigger meets a condition
  when its turn comes.
-/

import AsyncViz.Runtime.Warnings.Announcements
import AsyncViz.Runtime.Warnings.Bookkeeping

namespace AsyncViz.Runtime.Warnings

open AsyncViz.Lib AsyncViz.Lib.Transition

namespace RuntimeWarningManager

/-! ## The triggers of a call -/

section Meet

variable (P : RuntimeWarningManager → WarningTrigger → Prop)

/-- Each trigger meets `P` where the manager is when its turn comes. -/
def TriggersMeet : RuntimeWarningManager → List WarningTrigger → Prop
  | _, [] => True
  | m, t :: triggers => P m t ∧ TriggersMeet (m.applyTrigger t).1 triggers

/-- The triggers of an event, detector by detector. -/
def EventMeets (event : RuntimeEvent) (sequence : Option Int) : Pass → List WarningDetector → Prop
  | _, [] => True
  | pass, d :: detectors =>
    (∀ triggers, (d.evaluateEvent pass.context event sequence).triggers = some triggers →
      TriggersMeet P pass.manager.recordEvaluation triggers) ∧
    EventMeets event sequence (eventPass event sequence pass d) detectors

/-- The triggers of an evaluation, detector by detector. -/
def SnapshotMeets (monotonicNs : Int) (wallSeconds : ℚ) : Pass → List WarningDetector → Prop
  | _, [] => True
  | pass, d :: detectors =>
    (∀ triggers, (d.evaluateSnapshot pass.context pass.manager.lastSequence monotonicNs
        wallSeconds).triggers = some triggers →
      TriggersMeet P pass.manager.recordEvaluation triggers) ∧
    SnapshotMeets monotonicNs wallSeconds (snapshotPass monotonicNs wallSeconds pass d) detectors

/-- The triggers of a call. -/
def ActionMeets (r : Run) : Run.Action → Prop
  | .applyEvent ctx event sequence =>
    EventMeets P event sequence ⟨r.manager, ctx, []⟩ r.manager.detectors
  | .evaluate ctx monotonicNs wallSeconds =>
    SnapshotMeets P monotonicNs wallSeconds ⟨r.manager, ctx, []⟩ r.manager.detectors
  | _ => True

end Meet

section Congr

variable {P Q : RuntimeWarningManager → WarningTrigger → Prop} {m : RuntimeWarningManager}
  {ids : Finset String} (hPQ : ∀ m ids t, Kept m ids → (P m t ↔ Q m t))
include hPQ

/-! Conditions that agree where the books are kept agree on every call. -/

theorem triggersMeet_congr (h : Kept m ids) (triggers : List WarningTrigger) :
    TriggersMeet P m triggers ↔ TriggersMeet Q m triggers := by
  induction triggers generalizing m ids with
  | nil => exact Iff.rfl
  | cons t triggers ih => exact and_congr (hPQ m ids t h) (ih (h.applyTrigger t))

theorem eventMeets_congr (event : RuntimeEvent) (sequence : Option Int)
    (detectors : List WarningDetector) {pass : Pass}
    (h : Kept pass.manager (pass.deltas.foldl fold ids)) :
    EventMeets P event sequence pass detectors ↔ EventMeets Q event sequence pass detectors := by
  induction detectors generalizing pass with
  | nil => exact Iff.rfl
  | cons d detectors ih =>
    have hrecorded : Kept pass.manager.recordEvaluation (pass.deltas.foldl fold ids) :=
      h.same ⟨rfl, rfl, rfl, rfl, rfl, rfl, rfl⟩
    refine and_congr ?_ (ih (h.eventPass event sequence d))
    exact forall₂_congr fun triggers _ => triggersMeet_congr hPQ hrecorded triggers

theorem snapshotMeets_congr (monotonicNs : Int) (wallSeconds : ℚ)
    (detectors : List WarningDetector) {pass : Pass}
    (h : Kept pass.manager (pass.deltas.foldl fold ids)) :
    SnapshotMeets P monotonicNs wallSeconds pass detectors ↔
      SnapshotMeets Q monotonicNs wallSeconds pass detectors := by
  induction detectors generalizing pass with
  | nil => exact Iff.rfl
  | cons d detectors ih =>
    have hrecorded : Kept pass.manager.recordEvaluation (pass.deltas.foldl fold ids) :=
      h.same ⟨rfl, rfl, rfl, rfl, rfl, rfl, rfl⟩
    refine and_congr ?_ (ih (h.snapshotPass monotonicNs wallSeconds d))
    exact forall₂_congr fun triggers _ => triggersMeet_congr hPQ hrecorded triggers

theorem actionMeets_congr {r : Run} (h : Kept r.manager ids) (a : Run.Action) :
    ActionMeets P r a ↔ ActionMeets Q r a := by
  cases a with
  | applyEvent ctx event sequence => exact eventMeets_congr hPQ event sequence _ h
  | evaluate ctx monotonicNs wallSeconds =>
    exact snapshotMeets_congr hPQ monotonicNs wallSeconds _ h
  | detectors | resolveWarning | snapshot => exact Iff.rfl

end Congr

/-! ## One trigger -/

/-- `w` shows the trigger, in the manager and to the subscriber, and is no less severe than what
    was open before. -/
structure Reflects (m : RuntimeWarningManager) (t : WarningTrigger) (w : WarningLifecycle) :
    Prop where
  filed : (m.applyTrigger t).1.lifecycles.get? t.warningKey = some w
  isOpen : w.isOpen = true
  shown : w ∈ (m.applyTrigger t).1.activeView
  streamed : (m.applyTrigger t).2.map WarningDelta.warning = [w]
  severe : severityRank t.severity ≤ severityRank w.severity
  message : w.message = t.message
  above : ∀ v, m.lifecycles.get? t.warningKey = some v → v.isOpen = true →
    severityRank v.severity ≤ severityRank w.severity

/-- The trigger is suppressed as stale, or shown. -/
def Reflected (m : RuntimeWarningManager) (t : WarningTrigger) : Prop :=
  evaluateDedup (m.lifecycles.get? t.warningKey) t.sequence ≠ .suppress → ∃ w, Reflects m t w

/-- The trigger does not refresh a warning that is less severe. -/
def NoBump (m : RuntimeWarningManager) (t : WarningTrigger) : Prop :=
  ∀ v, m.lifecycles.get? t.warningKey = some v → evaluateDedup (some v) t.sequence = .refresh →
    severityRank t.severity ≤ severityRank v.severity

variable {m m' : RuntimeWarningManager} {ids : Finset String} {w : WarningLifecycle}

theorem mem_activeView {key : String} (hget : m.lifecycles.get? key = some w)
    (hopen : w.isOpen = true) : w ∈ m.activeView :=
  List.mem_filter.mpr ⟨Dict.mem_values_iff.mpr ⟨key, hget⟩, hopen⟩

/-- What a trigger files: a record of its own, or the open one with its message. -/
theorem filed_applyTrigger (h : Kept m ids) (t : WarningTrigger)
    (hdedup : evaluateDedup (m.lifecycles.get? t.warningKey) t.sequence ≠ .suppress) :
    ∃ w, (m.applyTrigger t).1.lifecycles.get? t.warningKey = some w ∧ w.isOpen = true ∧
      (m.applyTrigger t).2.map WarningDelta.warning = [w] ∧ w.message = t.message ∧
      ((∀ v, m.lifecycles.get? t.warningKey = some v → v.isOpen = false) ∧
          w.severity = t.severity ∨
        ∃ v, m.lifecycles.get? t.warningKey = some v ∧ v.isOpen = true ∧
          evaluateDedup (some v) t.sequence = .refresh ∧ w.severity = v.severity) := by
  unfold applyTrigger
  dsimp only
  cases hdecision : evaluateDedup (m.lifecycles.get? t.warningKey) t.sequence with
  | suppress => exact absurd hdecision hdedup
  | activate =>
    refine ⟨m.activated t, Dict.get?_set_self _ _ _, rfl, rfl, rfl, .inl ⟨fun v hv => ?_, rfl⟩⟩
    rw [hv] at hdecision
    exact evaluateDedup_isOpen.1 hdecision
  | refresh =>
    cases hexisting : m.lifecycles.get? t.warningKey with
    | none =>
      rw [hexisting] at hdecision
      cases hdecision
    | some v =>
      rw [hexisting] at hdecision
      have hopen := evaluateDedup_isOpen.2 hdecision
      have hkey := (h.byKey _ v hexisting).1
      refine ⟨_, ?_, ?_, rfl, ?_, .inr ⟨v, rfl, hopen, hdecision, ?_⟩⟩
      · dsimp only [put, notify]
        rw [← hkey]
        exact Dict.get?_set_self _ _ _
      · exact hopen
      · rfl
      · rfl

/-- A trigger is shown exactly if it does not bump a severity. -/
theorem reflected_iff (h : Kept m ids) (t : WarningTrigger) : Reflected m t ↔ NoBump m t := by
  constructor
  · intro hreflected v hv hrefresh
    have hdedup : evaluateDedup (m.lifecycles.get? t.warningKey) t.sequence ≠ .suppress := by
      rw [hv, hrefresh]
      exact fun hsame => by cases hsame
    obtain ⟨w, hw⟩ := hreflected hdedup
    obtain ⟨w', hfiled, -, -, -, ⟨hclosed, -⟩ | ⟨v', hv', -, -, hseverity⟩⟩ :=
      filed_applyTrigger h t hdedup
    · have hopen := evaluateDedup_isOpen.2 hrefresh
      rw [hclosed v hv] at hopen
      cases hopen
    · obtain rfl : w' = w := Option.some.inj (hfiled.symm.trans hw.filed)
      obtain rfl : v' = v := Option.some.inj (hv'.symm.trans hv)
      rw [← hseverity]
      exact hw.severe
  · intro hbump hdedup
    obtain ⟨w, hfiled, hopen, hstreamed, hmessage, hseverity⟩ := filed_applyTrigger h t hdedup
    refine ⟨w, hfiled, hopen, mem_activeView hfiled hopen, hstreamed, ?_, hmessage, ?_⟩
    · rcases hseverity with ⟨-, hsame⟩ | ⟨v, hv, -, hrefresh, hsame⟩
      · rw [hsame]
      · rw [hsame]
        exact hbump v hv hrefresh
    · intro v hv hvopen
      rcases hseverity with ⟨hclosed, -⟩ | ⟨v', hv', -, -, hsame⟩
      · rw [hclosed v hv] at hvopen
        cases hvopen
      · rw [hsame, Option.some.inj (hv'.symm.trans hv)]

/-! ## The severity of a warning -/

/-- No warning has another severity. -/
def SeverityKept (m m' : RuntimeWarningManager) : Prop :=
  ∀ id w, m.findById id = some w → ∃ w', m'.findById id = some w' ∧ w'.severity = w.severity

/-- No warning that is open and stays open is less severe. -/
def NeverDecreases (m m' : RuntimeWarningManager) : Prop :=
  ∀ id w w', m.findById id = some w → w.isOpen = true → m'.findById id = some w' →
    w'.isOpen = true → severityRank w.severity ≤ severityRank w'.severity

theorem SeverityKept.neverDecreases (h : SeverityKept m m') : NeverDecreases m m' := by
  intro id w w' hget _ hget' _
  obtain ⟨v, hv, hsame⟩ := h id w hget
  rw [← hsame, Option.some.inj (hget'.symm.trans hv)]

theorem SeverityKept.of_byId (h : m'.byId = m.byId) : SeverityKept m m' :=
  fun id w hget => ⟨w, (congrArg (Dict.get? · id) h).trans hget, rfl⟩

theorem SeverityKept.trans {m'' : RuntimeWarningManager} (h : SeverityKept m m')
    (h' : SeverityKept m' m'') : SeverityKept m m'' := by
  intro id w hget
  obtain ⟨v, hv, hsame⟩ := h id w hget
  obtain ⟨v', hv', hsame'⟩ := h' id v hv
  exact ⟨v', hv', hsame'.trans hsame⟩

/-- A record that is filed anew under its id has the severity that it had. -/
theorem SeverityKept.of_set {w' : WarningLifecycle} (hset : m'.byId = m.byId.set w.warningId w')
    (hsame : ∀ v, m.byId.get? w.warningId = some v → w'.severity = v.severity) :
    SeverityKept m m' := by
  intro id v hget
  rw [findById] at hget ⊢
  rw [hset, Dict.get?_set]
  split
  · rename_i hid
    exact ⟨w', rfl, hsame v (hid ▸ hget)⟩
  · exact ⟨v, hget, rfl⟩

theorem severityKept_applyTrigger (h : Kept m ids) (t : WarningTrigger) :
    SeverityKept m (m.applyTrigger t).1 := by
  unfold applyTrigger
  dsimp only
  cases evaluateDedup (m.lifecycles.get? t.warningKey) t.sequence with
  | suppress => exact .of_byId rfl
  | activate =>
    -- The id is new: nothing is filed under it.
    refine .of_set (w := m.activated t) rfl fun v hv => ?_
    obtain ⟨n, hlt, hn⟩ := h.issued _ (Dict.mem_of_get?_eq_some hv)
    have hissued : m.issued = n := h.fresh hn
    omega
  | refresh =>
    cases hexisting : m.lifecycles.get? t.warningKey with
    | none => exact .of_byId rfl
    | some existing =>
      refine .of_set (w := existing) rfl fun v hv => ?_
      rw [(h.byKey _ existing hexisting).2] at hv
      rw [← Option.some.inj hv]
      rfl

theorem severityKept_applyTriggers (h : Kept m ids) (triggers : List WarningTrigger) :
    SeverityKept m (m.applyTriggers triggers).1 := by
  induction triggers generalizing m ids with
  | nil => exact .of_byId rfl
  | cons t triggers ih =>
    rw [applyTriggers_cons]
    exact (severityKept_applyTrigger h t).trans (ih (h.applyTrigger t))

/-- A loop that files records anew, each with its severity, keeps the severities: what it files
    under an id has the severity of the record that it started with. -/
theorem severityKept_foldl {f : RuntimeWarningManager → WarningLifecycle →
    RuntimeWarningManager × List WarningDelta}
    (hf : ∀ m w, ∃ w', (f m w).1.byId = m.byId.set w.warningId w' ∧ w'.severity = w.severity)
    {ws : List WarningLifecycle} (hws : ∀ w ∈ ws, m.byId.get? w.warningId = some w)
    (hkept : SeverityKept m m') (deltas : List WarningDelta) :
    SeverityKept m
      (ws.foldl (fun acc w => ((f acc.1 w).1, acc.2 ++ (f acc.1 w).2)) (m', deltas)).1 := by
  induction ws generalizing m' deltas with
  | nil => exact hkept
  | cons w ws ih =>
    obtain ⟨w', hset, hseverity⟩ := hf m' w
    refine ih (fun v hv => hws v (List.mem_cons_of_mem w hv)) (hkept.trans ?_) _
    refine .of_set hset fun v hv => ?_
    obtain ⟨v', hv', hsame⟩ := hkept _ w (hws w List.mem_cons_self)
    rw [hseverity, ← hsame, Option.some.inj (hv.symm.trans hv')]

theorem severityKept_autoResolve (h : Kept m ids) (d : WarningDetector)
    (triggers : List WarningTrigger) (monotonicNs : Int) (wallSeconds : ℚ) :
    SeverityKept m (m.autoResolve d triggers monotonicNs wallSeconds).1 := by
  rw [autoResolve]
  split
  · refine severityKept_foldl (f := fun m w =>
      m.markResolvedInternal w (some m.lastSequence) monotonicNs wallSeconds) (fun m w => ?_)
      (fun w hw => ?_) (.of_byId rfl) []
    · refine ⟨w.markResolved (some m.lastSequence) monotonicNs wallSeconds, ?_, ?_⟩
      · have hid := (markResolved_ends w (some m.lastSequence) monotonicNs wallSeconds).1
        change m.byId.set (w.markResolved _ _ _).warningId _ = _
        rw [hid]
      · rw [WarningLifecycle.markResolved]
        split <;> rfl
    · exact h.get?_of_mem (List.mem_of_mem_filter hw)
  · exact .of_byId rfl

theorem severityKept_sweepExpired (h : Kept m ids) (nowMonotonicNs : Int) (nowWall : ℚ) :
    SeverityKept m (m.sweepExpired nowMonotonicNs nowWall).1 := by
  refine severityKept_foldl (f := expire nowMonotonicNs nowWall) (fun m w => ?_)
    (fun w hw => ?_) (.of_byId rfl) []
  · have hsame : (w.markExpired nowMonotonicNs nowWall).warningId = w.warningId ∧
        (w.markExpired nowMonotonicNs nowWall).severity = w.severity := by
      rw [WarningLifecycle.markExpired]
      split
      · exact ⟨rfl, rfl⟩
      · split <;> exact ⟨rfl, rfl⟩
    refine ⟨w.markExpired nowMonotonicNs nowWall, ?_, hsame.2⟩
    change m.byId.set (w.markExpired _ _).warningId _ = _
    rw [hsame.1]
  · exact h.get?_of_mem (List.mem_of_mem_filter hw)

theorem severityKept_eventPass {pass : Pass} (h : Kept pass.manager (pass.deltas.foldl fold ids))
    (event : RuntimeEvent) (sequence : Option Int) (d : WarningDetector) :
    SeverityKept pass.manager (eventPass event sequence pass d).manager := by
  rw [eventPass]
  cases (d.evaluateEvent pass.context event sequence).triggers with
  | none => exact .of_byId rfl
  | some triggers =>
    have hrecorded : Kept pass.manager.recordEvaluation (pass.deltas.foldl fold ids) :=
      h.same ⟨rfl, rfl, rfl, rfl, rfl, rfl, rfl⟩
    exact severityKept_applyTriggers hrecorded triggers

theorem severityKept_snapshotPass {pass : Pass}
    (h : Kept pass.manager (pass.deltas.foldl fold ids)) (monotonicNs : Int) (wallSeconds : ℚ)
    (d : WarningDetector) :
    SeverityKept pass.manager (snapshotPass monotonicNs wallSeconds pass d).manager := by
  rw [snapshotPass]
  cases (d.evaluateSnapshot pass.context pass.manager.lastSequence monotonicNs
      wallSeconds).triggers with
  | none => exact .of_byId rfl
  | some triggers =>
    have hrecorded : Kept pass.manager.recordEvaluation (pass.deltas.foldl fold ids) :=
      h.same ⟨rfl, rfl, rfl, rfl, rfl, rfl, rfl⟩
    exact (severityKept_applyTriggers hrecorded triggers).trans
      (severityKept_autoResolve (hrecorded.applyTriggers triggers) d triggers monotonicNs
        wallSeconds)

theorem severityKept_passes {f : Pass → WarningDetector → Pass}
    (hf : ∀ pass d, Kept pass.manager (pass.deltas.foldl fold ids) →
      Kept (f pass d).manager ((f pass d).deltas.foldl fold ids) ∧
        SeverityKept pass.manager (f pass d).manager)
    (detectors : List WarningDetector) (pass : Pass)
    (h : Kept pass.manager (pass.deltas.foldl fold ids)) :
    SeverityKept pass.manager (detectors.foldl f pass).manager := by
  induction detectors generalizing pass with
  | nil => exact .of_byId rfl
  | cons d detectors ih =>
    obtain ⟨hkept, hseverity⟩ := hf pass d h
    exact hseverity.trans (ih _ hkept)

theorem severityKept_applyEvent (h : Kept m ids) (ctx : DetectorContext) (event : RuntimeEvent)
    (sequence : Option Int) : SeverityKept m (m.applyEvent ctx event sequence).manager := by
  have hpasses : SeverityKept m
      (m.detectors.foldl (eventPass event sequence) ⟨m, ctx, []⟩).manager :=
    severityKept_passes (fun pass d hpass => ⟨hpass.eventPass event sequence d,
      severityKept_eventPass hpass event sequence d⟩) m.detectors ⟨m, ctx, []⟩ h
  simp only [applyEvent]
  split
  · exact hpasses
  · split
    · exact hpasses.trans (.of_byId rfl)
    · exact hpasses

theorem severityKept_evaluate (h : Kept m ids) (ctx : DetectorContext) (monotonicNs : Int)
    (wallSeconds : ℚ) : SeverityKept m (m.evaluate ctx monotonicNs wallSeconds).manager := by
  have hkept : Kept
      (m.detectors.foldl (snapshotPass monotonicNs wallSeconds) ⟨m, ctx, []⟩).manager
      ((m.detectors.foldl (snapshotPass monotonicNs wallSeconds)
        ⟨m, ctx, []⟩).deltas.foldl fold ids) :=
    Kept.passes (fun pass d hpass => hpass.snapshotPass monotonicNs wallSeconds d) m.detectors h
  have hpasses : SeverityKept m
      (m.detectors.foldl (snapshotPass monotonicNs wallSeconds) ⟨m, ctx, []⟩).manager :=
    severityKept_passes (fun pass d hpass => ⟨hpass.snapshotPass monotonicNs wallSeconds d,
      severityKept_snapshotPass hpass monotonicNs wallSeconds d⟩) m.detectors ⟨m, ctx, []⟩ h
  exact hpasses.trans (severityKept_sweepExpired hkept monotonicNs wallSeconds)

theorem severityKept_resolveWarning (h : Kept m ids) {warningId : String} {sequence : Option Int}
    {monotonicNs : Int} {wallSeconds : ℚ} {deltas : List WarningDelta}
    (hresolve : m.resolveWarning warningId sequence monotonicNs wallSeconds = some (m', deltas)) :
    SeverityKept m m' := by
  obtain ⟨w, hget, -, heq⟩ := resolveWarning_eq_some hresolve
  have hid := (markResolved_ends w sequence monotonicNs wallSeconds).1
  have hm' : m' = (m.markResolvedInternal w sequence monotonicNs wallSeconds).1 := by
    rw [heq]
  rw [hm']
  refine .of_set (w := w.markResolved sequence monotonicNs wallSeconds) rfl fun v hv => ?_
  rw [hid, (h.byId warningId w hget).1, hget] at hv
  rw [← Option.some.inj hv, WarningLifecycle.markResolved]
  split <;> rfl

/-! ## Whole runs -/

namespace Run

variable {r r' : Run}

/-- The calls of the manager; `rebuild` is `clear` and then its events. -/
inductive Call where
  | call (a : Action)
  | clear

/-- `manager.clear()`; what was sent before is forgotten with it. -/
def clear (r : Run) : Run where
  manager :=
    { r.manager with
      lifecycles := .empty
      byId := .empty
      selfMetrics := {}
      lastSequence := 0 }
  deltas := []

def callStep (r : Run) : Call → Option Run
  | .call a => step r a
  | .clear => some r.clear

/-- The triggers of a call, where it has any. -/
def CallMeets (P : RuntimeWarningManager → WarningTrigger → Prop) (r : Run) : Call → Prop
  | .call a => ActionMeets P r a
  | .clear => True

/-- Every trigger of the call is suppressed as stale or shown, and no warning that stays open
    goes down. -/
def Escalates (r : Run) (c : Call) : Prop :=
  CallMeets Reflected r c ∧ ∀ r', callStep r c = some r' → NeverDecreases r.manager r'.manager

/-- A call of the manager leaves every severity as it is. -/
theorem severityKept_step (h : Kept r.manager (r.deltas.foldl fold ∅)) {a : Action}
    (hstep : step r a = some r') : SeverityKept r.manager r'.manager := by
  cases a with
  | detectors detectors =>
    cases hstep
    exact .of_byId rfl
  | applyEvent ctx event sequence =>
    cases hstep
    exact severityKept_applyEvent h ctx event sequence
  | evaluate ctx monotonicNs wallSeconds =>
    cases hstep
    exact severityKept_evaluate h ctx monotonicNs wallSeconds
  | resolveWarning warningId sequence monotonicNs wallSeconds =>
    simp only [step] at hstep
    split at hstep
    · rename_i manager deltas hresolve
      cases hstep
      exact severityKept_resolveWarning h hresolve
    · cases hstep
      exact .of_byId rfl
  | snapshot monotonicNs wallSeconds =>
    cases hstep
    exact severityKept_sweepExpired h monotonicNs wallSeconds

theorem Kept.clear (h : Kept r.manager ids) : Kept r.clear.manager ∅ := by
  refine ⟨fun key w hw => ?_, fun id w hw => ?_, h.fresh, fun id hid => ?_, rfl, fun id => ?_⟩
  · cases hw
  · cases hw
  · exact absurd hid (Dict.not_mem_empty id)
  · refine iff_of_false (Finset.notMem_empty id) ?_
    rintro ⟨w, hw, -⟩
    cases hw

theorem kept_callStep (h : Kept r.manager (r.deltas.foldl fold ∅)) {c : Call}
    (hstep : callStep r c = some r') : Kept r'.manager (r'.deltas.foldl fold ∅) := by
  cases c with
  | call a => exact kept_step h hstep
  | clear =>
    cases hstep
    exact Kept.clear h

theorem escalates_iff (h : Kept r.manager (r.deltas.foldl fold ∅)) (c : Call) :
    Escalates r c ↔ CallMeets NoBump r c := by
  cases c with
  | call a =>
    have hmeets := actionMeets_congr (fun _ _ t hkept => reflected_iff hkept t) h a
    constructor
    · exact fun hescalates => hmeets.mp hescalates.1
    · exact fun hbumps =>
        ⟨hmeets.mpr hbumps, fun _ hstep => (severityKept_step h hstep).neverDecreases⟩
  | clear =>
    refine iff_of_true ⟨trivial, fun r' hstep => ?_⟩ trivial
    cases hstep
    intro id w w' _ _ hget'
    cases hget'

/-- The warnings of a run show what fired them exactly if no trigger of the run refreshes a
    warning that is less severe. -/
theorem allSteps_escalates_iff (runtimeId : String) (detectors : List WarningDetector)
    (expiration : ExpirationPolicy) {freshIds : Nat → String}
    (hfresh : Function.Injective freshIds) (calls : List Call) :
    AllSteps callStep Escalates (start runtimeId detectors expiration freshIds) calls ↔
      AllSteps callStep (CallMeets NoBump) (start runtimeId detectors expiration freshIds)
        calls :=
  allSteps_iff_of_keep (R := fun _ _ => True)
    (K := fun r => Kept r.manager (r.deltas.foldl fold ∅))
    (fun _ c h _ => escalates_iff h c) (fun _ _ _ h _ _ hstep => kept_callStep h hstep)
    (kept_start runtimeId detectors expiration hfresh) allSteps_true

/-- The same warning is fired twice, and everything is cleared. -/
def twiceFired : List Call :=
  [.call (.applyEvent ⟨.new, none⟩ ⟨"e-1", 0, 0, 0, "", "runtime", 1, .other "tick" []⟩ (some 1)),
    .call (.applyEvent ⟨.new, none⟩ ⟨"e-2", 0, 0, 0, "", "runtime", 1, .other "tick" []⟩ (some 2)),
    .clear]

theorem allSteps_escalates_twiceFired :
    AllSteps callStep Escalates
      (start "rt" firing {} fun n => String.ofList (List.replicate n 'f')) twiceFired := by
  refine (allSteps_escalates_iff "rt" firing {} (fun n n' hsame => ?_) twiceFired).mpr ?_
  · have hlist := congrArg String.toList hsame
    simpa using congrArg List.length hlist
  · refine .cons rfl ⟨?_, ?_, trivial⟩ (.cons rfl ⟨?_, ?_, trivial⟩ (.cons rfl trivial trivial))
    · rintro triggers ⟨rfl⟩
      refine ⟨fun v hv => ?_, trivial⟩
      cases hv
    · rintro triggers ⟨rfl⟩
      trivial
    · rintro triggers ⟨rfl⟩
      refine ⟨fun v hv _ => ?_, trivial⟩
      cases hv
      exact Nat.le_refl _
    · rintro triggers ⟨rfl⟩
      trivial

end Run

end RuntimeWarningManager

end AsyncViz.Runtime.Warnings
