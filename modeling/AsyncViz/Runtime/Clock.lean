/-
  AsyncViz.Runtime.Clock

  The ordering primitive of a runtime: `SequenceGenerator`
  (`runtime/clock/sequence.py`) and the part of `RuntimeClock`
  (`runtime/clock/clock.py`) that hands its values out.  Wall-clock and
  monotonic readings are arguments of the functions that take them, so the
  clock below carries no time.

  The bounds that the constructor checks (`start >= 0`, `max_value > start`) and
  `next` keeps are fields of the structure.
-/

import Mathlib.Data.Int.Basic
import Mathlib.Tactic.Ring

namespace AsyncViz.Runtime

/-- `MAX_SEQUENCE`, the hard ceiling of a runtime's sequences. -/
def maxSequence : Int := 2 ^ 63 - 1

/-- `ClockSequenceOverflowError`. -/
inductive ClockError where
  | sequenceOverflow (value max : Int)
deriving DecidableEq, Repr

/-- The text `SequenceGenerator.next` raises with. -/
def ClockError.message : ClockError → String
  | .sequenceOverflow value max => s!"sequence exhausted at {value} (max={max})"

/-- A strictly increasing counter.  `0` means that nothing was issued yet. -/
structure SequenceGenerator where
  value : Int
  max : Int
  value_nonneg : 0 ≤ value
  value_le_max : value ≤ max
deriving DecidableEq, Repr

namespace SequenceGenerator

/-- `SequenceGenerator()`, with the default start and ceiling. -/
def default : SequenceGenerator :=
  ⟨0, maxSequence, le_refl 0, by decide⟩

/-- `SequenceGenerator.current`. -/
def current (g : SequenceGenerator) : Int := g.value

/-- `SequenceGenerator.next`: allocate the next value or raise at the ceiling. -/
def next (g : SequenceGenerator) : Except ClockError (Int × SequenceGenerator) :=
  if h : g.value ≥ g.max then
    .error (.sequenceOverflow g.value g.max)
  else
    .ok (g.value + 1,
      ⟨g.value + 1, g.max, by have := g.value_nonneg; omega, by omega⟩)

/-- What an allocation does: the new value is one above every earlier one, and it
    is the generator's current value afterwards. -/
theorem next_eq_ok {g g' : SequenceGenerator} {n : Int} (h : g.next = .ok (n, g')) :
    n = g.value + 1 ∧ g'.value = n ∧ g'.max = g.max := by
  rw [next] at h
  split at h
  · cases h
  · cases h
    exact ⟨rfl, rfl, rfl⟩

/-- Allocation fails exactly at the ceiling. -/
theorem next_isError_iff {g : SequenceGenerator} :
    (∃ e, g.next = .error e) ↔ g.value = g.max := by
  have hle := g.value_le_max
  rw [next]
  split
  · exact ⟨fun _ => by omega, fun _ => ⟨_, rfl⟩⟩
  · constructor
    · rintro ⟨e, he⟩
      cases he
    · intro h
      omega

end SequenceGenerator

/-- The `RuntimeClock` of a runtime: its identity and its sequence counter. -/
structure RuntimeClock where
  runtimeId : String
  sequence : SequenceGenerator
deriving DecidableEq, Repr

namespace RuntimeClock

/-- A freshly started clock. -/
def start (runtimeId : String) : RuntimeClock := ⟨runtimeId, .default⟩

/-- `RuntimeClock.current_sequence`. -/
def currentSequence (c : RuntimeClock) : Int := c.sequence.current

/-- `RuntimeClock.next_sequence`. -/
def nextSequence (c : RuntimeClock) : Except ClockError (Int × RuntimeClock) :=
  match c.sequence.next with
  | .error e => .error e
  | .ok (n, g) => .ok (n, { c with sequence := g })

theorem nextSequence_eq_ok {c c' : RuntimeClock} {n : Int} (h : c.nextSequence = .ok (n, c')) :
    n = c.currentSequence + 1 ∧ c'.currentSequence = n ∧
      c'.sequence.max = c.sequence.max ∧ c'.runtimeId = c.runtimeId := by
  rw [nextSequence] at h
  cases hg : c.sequence.next with
  | error e =>
    rw [hg] at h
    cases h
  | ok p =>
    obtain ⟨m, g⟩ := p
    rw [hg] at h
    cases h
    obtain ⟨hn, hg', hmax⟩ := SequenceGenerator.next_eq_ok hg
    exact ⟨hn, hg', hmax, rfl⟩

theorem nextSequence_isError {c : RuntimeClock} {e : ClockError}
    (h : c.nextSequence = .error e) : c.currentSequence = c.sequence.max := by
  apply SequenceGenerator.next_isError_iff.mp
  rw [nextSequence] at h
  cases hg : c.sequence.next with
  | error e' => exact ⟨e', rfl⟩
  | ok p =>
    rw [hg] at h
    cases h

theorem currentSequence_nonneg (c : RuntimeClock) : 0 ≤ c.currentSequence :=
  c.sequence.value_nonneg

theorem currentSequence_le_max (c : RuntimeClock) : c.currentSequence ≤ c.sequence.max :=
  c.sequence.value_le_max

end RuntimeClock

end AsyncViz.Runtime
