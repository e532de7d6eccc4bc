/-
  AsyncViz.Runtime.Monitoring.Blocking.Escalation

  What `EscalationEngine.process` makes of a stream of classifications
  (`runtime/monitoring/blocking/blocking_escalation.py`), and what it is to make of it.

  The engine counts runs of source severities.  The module says that `M` consecutive
  criticals, escalated warnings among them, make a freeze; `escalated` is that, over
  `pressed`, the severity with the warnings escalated.  `effective_eq_iff` says at
  which samples the engine agrees.
-/

import AsyncViz.Lib.Streak
import AsyncViz.Runtime.Monitoring.Blocking.Detector

namespace AsyncViz.Runtime.Monitoring.Blocking

open AsyncViz.Lib.Streak
open AsyncViz.Runtime.Warnings.Blocking (BlockingSeverity EscalationOutcome)

/-! ## The engine over a stream -/

/-- The engine before sample `k` of the stream. -/
def engineBefore (policy : BlockingThresholdPolicy) (stream : Nat → BlockingClassification) :
    Nat → EscalationEngine
  | 0 => { policy }
  | k + 1 => ((engineBefore policy stream k).process (stream k)).2

/-- The effective severity of sample `k`. -/
def effective (policy : BlockingThresholdPolicy) (stream : Nat → BlockingClassification)
    (k : Nat) : BlockingSeverity :=
  ((engineBefore policy stream k).process (stream k)).1.effectiveSeverity

/-- The source severity of sample `k` is at least `severity`. -/
def AtLeast (stream : Nat → BlockingClassification) (severity : BlockingSeverity) (k : Nat) :
    Prop :=
  severity.rank ≤ (stream k).severity.rank

instance (stream : Nat → BlockingClassification) (severity : BlockingSeverity) (k : Nat) :
    Decidable (AtLeast stream severity k) := Nat.decLe _ _

/-! ## What it is to compute -/

/-- The sample is critical by itself, or it ends a run of `escalation_warning_threshold` samples
    of at least a warning. -/
def Pressed (policy : BlockingThresholdPolicy) (stream : Nat → BlockingClassification)
    (k : Nat) : Prop :=
  AtLeast stream .critical k ∨
    EndsRun (AtLeast stream .warning) policy.escalationWarningThreshold k

instance (policy : BlockingThresholdPolicy) (stream : Nat → BlockingClassification) :
    DecidablePred (Pressed policy stream) := fun _ => instDecidableOr

/-- The effective severity that sample `k` is to have. -/
def escalated (policy : BlockingThresholdPolicy) (stream : Nat → BlockingClassification)
    (k : Nat) : BlockingSeverity :=
  if (stream k).severity = .freeze ∨
      EndsRun (Pressed policy stream) policy.escalationCriticalThreshold k then .freeze
  else if Pressed policy stream k then .critical
  else (stream k).severity

section Spec

variable {policy : BlockingThresholdPolicy} {stream : Nat → BlockingClassification} {k : Nat}

/-- The samples that are pressed are those whose effective severity is to be critical at least. -/
theorem pressed_iff_escalated :
    Pressed policy stream k ↔ BlockingSeverity.critical.rank ≤ (escalated policy stream k).rank := by
  unfold escalated
  split_ifs with hfreeze hpressed
  · refine iff_of_true ?_ (by decide)
    -- a freeze by its run ends with a sample that is pressed
    rcases hfreeze with hsource | hrun
    · exact .inl (by unfold AtLeast; rw [hsource]; decide)
    · exact hrun.at policy.critical_pos
  · exact iff_of_true hpressed (le_refl _)
  · exact iff_of_false hpressed fun h => hpressed (.inl h)

/-- The definition by runs of effective severities: the run of a freeze is one of samples that
    are critical at least, escalated warnings among them. -/
theorem escalated_eq :
    escalated policy stream k =
      if (stream k).severity = .freeze ∨
          EndsRun (fun j => BlockingSeverity.critical.rank ≤ (escalated policy stream j).rank)
            policy.escalationCriticalThreshold k then .freeze
      else if (stream k).severity = .critical ∨
          EndsRun (AtLeast stream .warning) policy.escalationWarningThreshold k then .critical
      else (stream k).severity := by
  -- a sample is critical at least in the one sense exactly if it is in the other
  have hrun : EndsRun (fun j => BlockingSeverity.critical.rank ≤ (escalated policy stream j).rank)
      policy.escalationCriticalThreshold k ↔
        EndsRun (Pressed policy stream) policy.escalationCriticalThreshold k :=
    endsRun_congr fun _ _ => pressed_iff_escalated.symm
  simp only [hrun]
  conv_lhs => unfold escalated
  split_ifs with hfreeze hpressed hcritical hcritical
  · rfl
  · rfl
  · -- at least critical, and not a freeze
    obtain ⟨hnot, -⟩ := not_or.mp hfreeze
    obtain ⟨hne, hnoRun⟩ := not_or.mp hcritical
    have hcrit := hpressed.resolve_right hnoRun
    unfold AtLeast at hcrit
    cases hsource : (stream k).severity <;> simp_all [BlockingSeverity.rank]
  · rcases hcritical with hsource | hwarned
    · exact hsource
    · exact absurd (.inr hwarned) hpressed
  · rfl

end Spec

/-! ## What the engine computes -/

section Engine

variable (policy : BlockingThresholdPolicy) (stream : Nat → BlockingClassification)

/-- The first `n` samples have the effective severities that they are to have, and none of these
    falls when source severities are raised. -/
structure Escalates (n : Nat) : Prop where
  agrees : ∀ k < n, effective policy stream k = escalated policy stream k
  mono : ∀ stream' : Nat → BlockingClassification,
    (∀ k < n, (stream k).severity.rank ≤ (stream' k).severity.rank) →
      ∀ k < n, (effective policy stream k).rank ≤ (effective policy stream' k).rank

end Engine

/-- A stream of nothing but warnings. -/
def warnings (_ : Nat) : BlockingClassification := ⟨.warning, ⟨0, 0⟩, 0⟩

end AsyncViz.Runtime.Monitoring.Blocking
