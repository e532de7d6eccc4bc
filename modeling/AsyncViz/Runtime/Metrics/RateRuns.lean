/-
  AsyncViz.Runtime.Metrics.RateRuns

  Whole runs of a `RateMeter` (`runtime/metrics/rates.py`): which of them fail, and what
  a snapshot says where none does.

  A snapshot that comes a whole window after the newest bucket clears the ring and leaves
  no bucket for its own second (`Emptied`).  An observation at a second that is not
  later then has no bucket to count in, and no run fails otherwise
  (`exec_eq_none_iff_stranded`).

  The other runs keep the count of each second of the window in the ring, as long as the
  readings do not go back (`Tallied`).  The seconds are those of `int(x)`, which is not
  the floor below zero.
-/

import AsyncViz.Lib.Transition
import AsyncViz.Runtime.Metrics.Rates
import Mathlib.Algebra.BigOperators.Group.List.Basic
import Mathlib.Data.List.Induction
import Mathlib.Data.Rat.Floor

namespace AsyncViz.Runtime.Metrics

open AsyncViz.Lib AsyncViz.Lib.Transition

/-! ## Seconds -/

/-- `int(x)` is the floor from zero on, and the ceiling below. -/
theorem truncate_eq (q : ℚ) : truncate q = if 0 ≤ q then ⌊q⌋ else ⌈q⌉ := by
  rw [truncate]
  split_ifs with h
  · rw [Int.tdiv_eq_ediv_of_nonneg (Rat.num_nonneg.mpr h)]
    exact (Rat.floor_def q).symm
  · have hneg : 0 ≤ -q.num := by
      have := Rat.num_neg.mpr (not_le.mp h)
      omega
    have hfloor : ⌊-q⌋ = -q.num / q.den := Rat.floor_def (-q)
    rw [← Int.neg_neg q.num, Int.neg_tdiv, Int.tdiv_eq_ediv_of_nonneg hneg, ← neg_neg ⌈q⌉,
      ← Int.floor_neg, hfloor]

theorem truncate_of_nonneg {q : ℚ} (h : 0 ≤ q) : truncate q = ⌊q⌋ := by
  rw [truncate_eq, if_pos h]

theorem truncate_mono {q r : ℚ} (h : q ≤ r) : truncate q ≤ truncate r := by
  rw [truncate_eq, truncate_eq]
  split_ifs with hq hr hr
  · exact Int.floor_le_floor h
  · exact absurd (hq.trans h) hr
  · exact (Int.ceil_le.mpr (by simpa using (not_le.mp hq).le)).trans (Int.floor_nonneg.mpr hr)
  · exact Int.ceil_le_ceil h

/-! ## Calls -/

/-- A call of the meter. -/
inductive MeterCall
  | observe (monotonicSeconds : ℚ) (count : Int)
  | snapshot (monotonicSeconds : Option ℚ)

namespace MeterCall

/-- The reading that comes with the call. -/
def reading : MeterCall → Option ℚ
  | .observe seconds _ => some seconds
  | .snapshot seconds => seconds

/-- What the call observes. -/
def observation : MeterCall → Option (ℚ × Int)
  | .observe seconds count => some (seconds, count)
  | .snapshot _ => none

end MeterCall

/-- One call; `none` is the `IndexError`. -/
def RateMeter.step (m : RateMeter) : MeterCall → Option RateMeter
  | .observe seconds count => m.observe seconds count
  | .snapshot seconds => some (m.snapshot seconds).2

/-- The observations of these calls, in order. -/
def observed (calls : List MeterCall) : List (ℚ × Int) := calls.filterMap MeterCall.observation

/-- The readings do not go back. -/
def Ordered (calls : List MeterCall) : Prop :=
  (calls.filterMap MeterCall.reading).Pairwise (· ≤ ·)

/-- What is observed at the seconds in `(lo, hi]`, where `second` is the second of a reading. -/
def tally (second : ℚ → Int) (observed : List (ℚ × Int)) (lo hi : Int) : Int :=
  ((observed.filter fun e => lo < second e.1 ∧ second e.1 ≤ hi).map Prod.snd).sum

/-- The newest second that these calls move a meter to: a snapshot moves only a meter that has
    observed something. -/
def newest (calls : List MeterCall) : Option Int :=
  calls.foldl (fun start call =>
    match call with
    | .observe seconds _ => some (max (start.getD (truncate seconds)) (truncate seconds))
    | .snapshot none => start
    | .snapshot (some seconds) => start.map (max · (truncate seconds))) none

/-- The calls end with a snapshot at `second` that comes a whole window after what was newest
    before it, and with snapshots that are not later. -/
inductive Emptied (window : Nat) : List MeterCall → Int → Prop
  | clears {calls : List MeterCall} {start : Int} (seconds : ℚ) (hstart : newest calls = some start)
    (hgap : start + window ≤ truncate seconds) :
    Emptied window (calls ++ [.snapshot (some seconds)]) (truncate seconds)
  | idles {calls : List MeterCall} {second : Int} (h : Emptied window calls second)
    (seconds : Option ℚ) (hle : ∀ s ∈ seconds, truncate s ≤ second) :
    Emptied window (calls ++ [.snapshot seconds]) second

/-- After such calls there is an observation that is not later. -/
def Stranded (window : Nat) (calls : List MeterCall) : Prop :=
  ∃ before second seconds count after, calls = before ++ .observe seconds count :: after ∧
    Emptied window before second ∧ truncate seconds ≤ second

theorem observed_concat (calls : List MeterCall) (call : MeterCall) :
    observed (calls ++ [call]) = observed calls ++ call.observation.toList := by
  rw [observed, List.filterMap_append]
  cases call <;> rfl

theorem observed_snapshot (calls : List MeterCall) (seconds : Option ℚ) :
    observed (calls ++ [.snapshot seconds]) = observed calls := by
  rw [observed_concat]
  exact List.append_nil _

theorem newest_concat (calls : List MeterCall) (call : MeterCall) :
    newest (calls ++ [call]) =
      match call with
      | .observe seconds _ =>
        some (max ((newest calls).getD (truncate seconds)) (truncate seconds))
      | .snapshot none => newest calls
      | .snapshot (some seconds) => (newest calls).map (max · (truncate seconds)) := by
  rw [newest, List.foldl_append]
  rfl

theorem Emptied.newest_eq {window : Nat} {calls : List MeterCall} {second : Int}
    (h : Emptied window calls second) : newest calls = some second := by
  induction h with
  | clears seconds hstart hgap =>
    have hmax : max _ (truncate seconds) = truncate seconds :=
      max_eq_right (le_trans (Int.le_add_of_nonneg_right (Int.natCast_nonneg window)) hgap)
    rw [newest_concat, hstart]
    exact congrArg some hmax
  | idles h seconds hle ih =>
    rw [newest_concat]
    cases seconds with
    | none => exact ih
    | some s =>
      rw [ih]
      exact congrArg some (max_eq_left (hle s rfl))

/-- No calls that end with an observation empty the ring. -/
theorem not_emptied_observe {window : Nat} {calls : List MeterCall} {seconds : ℚ} {count : Int}
    {second : Int} : ¬ Emptied window (calls ++ [.observe seconds count]) second := by
  intro h
  generalize hcalls : calls ++ [MeterCall.observe seconds count] = all at h
  cases h with
  | clears seconds hstart hgap => cases (List.append_inj' hcalls rfl).2
  | idles h seconds hle => cases (List.append_inj' hcalls rfl).2

theorem emptied_snapshot_iff {window : Nat} {calls : List MeterCall} {seconds : Option ℚ}
    {second : Int} :
    Emptied window (calls ++ [.snapshot seconds]) second ↔
      (∃ s ∈ seconds, ∃ start, newest calls = some start ∧ start + window ≤ truncate s ∧
        second = truncate s) ∨
      Emptied window calls second ∧ ∀ s ∈ seconds, truncate s ≤ second := by
  constructor
  · intro h
    generalize hcalls : calls ++ [MeterCall.snapshot seconds] = all at h
    cases h with
    | clears s hstart hgap =>
      obtain ⟨rfl, hcall⟩ := List.append_inj' hcalls rfl
      cases hcall
      exact .inl ⟨s, rfl, _, hstart, hgap, rfl⟩
    | idles h seconds' hle =>
      obtain ⟨rfl, hcall⟩ := List.append_inj' hcalls rfl
      cases hcall
      exact .inr ⟨h, hle⟩
  · rintro (⟨s, hs, start, hstart, hgap, rfl⟩ | ⟨h, hle⟩)
    · cases hs
      exact .clears s hstart hgap
    · exact .idles h seconds hle

/-! ## Failures -/

namespace RateMeter

/-- The meter whose ring a snapshot has cleared. -/
def emptied (m : RateMeter) (second : Int) : RateMeter :=
  { m with
    buckets := m.buckets.clear
    window_pos := m.window_pos
    currentBucketStart := some second }

theorem snapshot_snd {m : RateMeter} {start : Int} (hstart : m.currentBucketStart = some start)
    (s : ℚ) :
    (m.snapshot (some s)).2 =
      if truncate s > start then
        if (truncate s - start).toNat ≥ m.window then m.emptied (truncate s)
        else m.advance (truncate s)
      else m := by
  obtain ⟨buckets, hpos, current, total⟩ := m
  cases hstart
  rfl

/-- A snapshot moves the meter only where it has observed something and the reading is later. -/
theorem snapshot_eq_self {m : RateMeter} {seconds : Option ℚ}
    (h : ∀ s ∈ seconds, ∀ start, m.currentBucketStart = some start → truncate s ≤ start) :
    (m.snapshot seconds).2 = m := by
  cases seconds with
  | none => rfl
  | some s =>
    cases hstart : m.currentBucketStart with
    | none =>
      obtain ⟨buckets, hpos, current, total⟩ := m
      cases hstart
      rfl
    | some start => rw [snapshot_snd hstart, if_neg (not_lt.mpr (h s rfl start hstart))]

theorem snapshot_later {m : RateMeter} {s : ℚ} {start : Int}
    (hstart : m.currentBucketStart = some start) (hlater : start < truncate s) :
    (m.snapshot (some s)).2 =
      if start + m.window ≤ truncate s then m.emptied (truncate s) else m.advance (truncate s) := by
  have hgap : (truncate s - start).toNat ≥ m.window ↔ start + m.window ≤ truncate s := by omega
  rw [snapshot_snd hstart, if_pos hlater]
  simp only [hgap]

/-- The meter with the bucket of `second` pushed onto an emptied ring. -/
def restarted (m : RateMeter) (second : Int) : RateMeter :=
  { m with
    buckets := m.buckets.clear.push 0
    window_pos := m.window_pos
    currentBucketStart := some second }

/-- The meter with `gap` empty buckets for the seconds up to `second`. -/
def padded (m : RateMeter) (gap : Nat) (second : Int) : RateMeter :=
  { m with
    buckets := pad m.buckets gap
    window_pos := (pad_capacity m.buckets gap).symm ▸ m.window_pos
    currentBucketStart := some second }

theorem advance_none {m : RateMeter} (hstart : m.currentBucketStart = none) (second : Int) :
    m.advance second =
      { m with
        buckets := m.buckets.push 0
        window_pos := m.window_pos
        currentBucketStart := some second } := by
  obtain ⟨buckets, hpos, current, total⟩ := m
  cases hstart
  rfl

theorem advance_some {m : RateMeter} {start : Int} (hstart : m.currentBucketStart = some start)
    (second : Int) :
    m.advance second =
      if second > start then
        if (second - start).toNat ≥ m.window then m.restarted second
        else m.padded (second - start).toNat second
      else m := by
  obtain ⟨buckets, hpos, current, total⟩ := m
  cases hstart
  rfl

theorem advance_window (m : RateMeter) (second : Int) : (m.advance second).window = m.window := by
  cases hstart : m.currentBucketStart with
  | none =>
    rw [advance_none hstart]
    rfl
  | some start =>
    rw [advance_some hstart]
    split_ifs
    · rfl
    · exact pad_capacity m.buckets _
    · rfl

theorem advance_total (m : RateMeter) (second : Int) : (m.advance second).total = m.total := by
  cases hstart : m.currentBucketStart with
  | none => rw [advance_none hstart]
  | some start =>
    rw [advance_some hstart]
    split_ifs <;> rfl

theorem advance_currentBucketStart (m : RateMeter) (second : Int) :
    (m.advance second).currentBucketStart
      = some (max (m.currentBucketStart.getD second) second) := by
  cases hstart : m.currentBucketStart with
  | none =>
    rw [advance_none hstart]
    exact congrArg some (max_self second).symm
  | some start =>
    rw [advance_some hstart, Option.getD_some]
    split_ifs with hlater
    · exact congrArg some (max_eq_right hlater.le).symm
    · exact congrArg some (max_eq_right hlater.le).symm
    · rw [hstart, max_eq_left (not_lt.mp hlater)]

/-- The meter with `count` added to its newest bucket. -/
def counted (m : RateMeter) (count : Int) : RateMeter :=
  { m with
    buckets := addToNewest m.buckets count
    window_pos := m.window_pos
    total := m.total + count }

theorem observe_eq_some {m m' : RateMeter} {s : ℚ} {count : Int}
    (h : m.observe s count = some m') :
    (m.advance (truncate s)).buckets.items ≠ [] ∧
      m' = (m.advance (truncate s)).counted count := by
  rw [observe] at h
  split at h
  next => cases h
  next hitems =>
    cases h
    exact ⟨hitems, rfl⟩

theorem addToNewest_items {buckets : BoundedRing Int} {init : List Int} {last : Int}
    (h : buckets.items = init ++ [last]) (count : Int) :
    (addToNewest buckets count).items = init ++ [last + count] := by
  obtain ⟨capacity, items, hlength⟩ := buckets
  obtain rfl : items = init ++ [last] := h
  simp [addToNewest]

theorem addToNewest_items_ne_nil {buckets : BoundedRing Int} (h : buckets.items ≠ [])
    (count : Int) : (addToNewest buckets count).items ≠ [] := by
  obtain ⟨init, last, hitems⟩ := (List.eq_nil_or_concat' buckets.items).resolve_left h
  rw [addToNewest_items hitems]
  exact List.append_ne_nil_of_right_ne_nil init (List.cons_ne_nil _ _)

end RateMeter

/-- What a run of a meter leaves, whatever the readings. -/
structure Runs (window : Nat) (calls : List MeterCall) (m : RateMeter) : Prop where
  window_eq : m.window = window
  start_eq : m.currentBucketStart = newest calls
  total_eq : m.total = ((observed calls).map Prod.snd).sum
  empty_iff : ∀ start, newest calls = some start →
    (m.buckets.items = [] ↔ Emptied window calls start)

namespace Runs

variable {window : Nat} {calls : List MeterCall} {m m' : RateMeter}

theorem new (h : 0 < window) : Runs window [] (.new window h) :=
  ⟨rfl, rfl, rfl, fun _ hstart => by cases hstart⟩

theorem observe (hr : Runs window calls m) {s : ℚ} {count : Int}
    (h : m.observe s count = some m') : Runs window (calls ++ [.observe s count]) m' := by
  obtain ⟨hitems, rfl⟩ := RateMeter.observe_eq_some h
  refine ⟨?_, ?_, ?_, fun start _ => ?_⟩
  · exact (RateMeter.advance_window m (truncate s)).trans hr.window_eq
  · rw [newest_concat, ← hr.start_eq]
    exact RateMeter.advance_currentBucketStart m (truncate s)
  · show (m.advance (truncate s)).total + count = _
    rw [RateMeter.advance_total, observed_concat, List.map_append, List.sum_append, hr.total_eq]
    exact congrArg (_ + ·) (List.sum_singleton (x := count)).symm
  · -- an observation puts its count into a bucket, so that the ring is not empty
    exact iff_of_false (RateMeter.addToNewest_items_ne_nil hitems count) not_emptied_observe

theorem snapshot (hr : Runs window calls m) (hpos : 0 < window) (seconds : Option ℚ) :
    Runs window (calls ++ [.snapshot seconds]) (m.snapshot seconds).2 := by
  have hobserved := observed_snapshot calls seconds
  by_cases hstays : ∀ s ∈ seconds, ∀ start, newest calls = some start → truncate s ≤ start
  · -- the reading is not later, and the ring stays as it is
    have hnewest : newest (calls ++ [.snapshot seconds]) = newest calls := by
      rw [newest_concat]
      cases seconds with
      | none => rfl
      | some s =>
        cases hstart : newest calls with
        | none => rfl
        | some start => exact congrArg some (max_eq_left (hstays s rfl start hstart))
    rw [RateMeter.snapshot_eq_self (hr.start_eq ▸ hstays)]
    refine ⟨hr.window_eq, hr.start_eq.trans hnewest.symm, hobserved ▸ hr.total_eq, ?_⟩
    intro start hstart
    rw [hnewest] at hstart
    -- behind a reading that is not later, the ring is empty if it was
    rw [hr.empty_iff start hstart, emptied_snapshot_iff]
    constructor
    · exact fun h => .inr ⟨h, fun s hs => hstays s hs start hstart⟩
    · rintro (⟨s, hs, start', hstart', hgap, rfl⟩ | ⟨h, -⟩)
      · have hle := hstays s hs start' hstart'
        omega
      · exact h
  · push Not at hstays
    obtain ⟨s, rfl, start, hstart, hlater⟩ := hstays
    have hnewest : newest (calls ++ [.snapshot (some s)]) = some (truncate s) := by
      rw [newest_concat, hstart]
      exact congrArg some (max_eq_right hlater.le)
    have hcurrent := hr.start_eq.trans hstart
    -- a later reading empties the ring exactly where it is a whole window later
    rw [RateMeter.snapshot_later hcurrent hlater, hr.window_eq]
    split_ifs with hgap
    · refine ⟨hr.window_eq, hnewest.symm, hobserved ▸ hr.total_eq, fun start' hstart' => ?_⟩
      obtain rfl : truncate s = start' := Option.some.inj (hnewest.symm.trans hstart')
      exact iff_of_true rfl (.clears s hstart hgap)
    · refine ⟨?_, ?_, ?_, fun start' hstart' => ?_⟩
      · exact (RateMeter.advance_window m (truncate s)).trans hr.window_eq
      · rw [RateMeter.advance_currentBucketStart, hcurrent, hnewest]
        exact congrArg some (max_eq_right hlater.le)
      · rw [RateMeter.advance_total, hobserved, hr.total_eq]
      · obtain rfl : truncate s = start' := Option.some.inj (hnewest.symm.trans hstart')
        refine iff_of_false ?_ ?_
        · rw [RateMeter.advance_items_eq_nil_iff]
          rintro ⟨-, start', hstart', hle⟩
          rw [hcurrent] at hstart'
          cases hstart'
          omega
        · rw [emptied_snapshot_iff]
          rintro (⟨s', hs', start', hstart', hgap', -⟩ | ⟨h, -⟩)
          · cases hs'
            rw [hstart] at hstart'
            cases hstart'
            exact hgap hgap'
          · have hsame := h.newest_eq
            rw [hstart] at hsame
            cases hsame
            -- the newest second before the call is not the reading's, which is later
            exact lt_irrefl _ hlater

end Runs

theorem Runs.step {window : Nat} (hpos : 0 < window) {calls : List MeterCall} {m m' : RateMeter}
    (hr : Runs window calls m) {call : MeterCall} (h : m.step call = some m') :
    Runs window (calls ++ [call]) m' := by
  cases call with
  | observe s count => exact hr.observe h
  | snapshot seconds =>
    cases h
    exact hr.snapshot hpos seconds

theorem runs_of_exec {window : Nat} (hpos : 0 < window) {calls : List MeterCall} {m : RateMeter}
    (h : exec RateMeter.step (.new window hpos) calls = some m) : Runs window calls m := by
  -- by induction from the last call on: `newest`, `observed` and `Emptied` all read the calls so
  induction calls using List.reverseRecOn generalizing m with
  | nil =>
    cases h
    exact .new hpos
  | append_singleton calls call ih =>
    obtain ⟨mid, hmid, hstep⟩ := exec_concat_eq_some.mp h
    exact (ih hmid).step hpos hstep

/-- An observation fails exactly behind a snapshot that emptied the ring, where it is not
    later. -/
theorem Runs.observe_eq_none_iff {window : Nat} {calls : List MeterCall} {m : RateMeter}
    (hr : Runs window calls m) {s : ℚ} {count : Int} :
    m.observe s count = none ↔ ∃ second, Emptied window calls second ∧ truncate s ≤ second := by
  rw [RateMeter.observe_eq_none_iff, hr.start_eq]
  constructor
  · rintro ⟨hitems, start, hstart, hle⟩
    exact ⟨start, (hr.empty_iff start hstart).mp hitems, hle⟩
  · rintro ⟨second, h, hle⟩
    exact ⟨(hr.empty_iff second h.newest_eq).mpr h, second, h.newest_eq, hle⟩

theorem exec_eq_none_iff_stranded {window : Nat} (hpos : 0 < window) (calls : List MeterCall) :
    exec RateMeter.step (.new window hpos) calls = none ↔ Stranded window calls := by
  constructor
  · intro h
    obtain ⟨before, call, after, mid, hcalls, hbefore, hcall⟩ := exec_eq_none_iff.mp h
    cases call with
    | snapshot seconds => cases hcall
    | observe s count =>
      obtain ⟨second, hempty, hle⟩ := (runs_of_exec hpos hbefore).observe_eq_none_iff.mp hcall
      exact ⟨before, second, s, count, after, hcalls, hempty, hle⟩
  · -- the run fails at the stranded observation, if it has not failed before
    rintro ⟨before, second, s, count, after, rfl, hempty, hle⟩
    cases hbefore : exec RateMeter.step (.new window hpos) before with
    | none => rw [exec_append, hbefore, Option.bind_none]
    | some mid =>
      refine exec_eq_none_iff.mpr ⟨before, _, after, mid, rfl, hbefore, ?_⟩
      exact (runs_of_exec hpos hbefore).observe_eq_none_iff.mpr ⟨second, hempty, hle⟩

/-! ## What the ring holds -/

theorem tally_append (second : ℚ → Int) (observed observed' : List (ℚ × Int)) (lo hi : Int) :
    tally second (observed ++ observed') lo hi
      = tally second observed lo hi + tally second observed' lo hi := by
  rw [tally, List.filter_append, List.map_append, List.sum_append]
  rfl

theorem tally_singleton (second : ℚ → Int) (s : ℚ) (count lo hi : Int) :
    tally second [(s, count)] lo hi = if lo < second s ∧ second s ≤ hi then count else 0 := by
  rw [tally, List.filter_singleton]
  by_cases h : lo < second s ∧ second s ≤ hi <;> simp [h]

theorem tally_congr {second second' : ℚ → Int} {observed : List (ℚ × Int)} {lo hi lo' hi' : Int}
    (h : ∀ e ∈ observed, (lo < second e.1 ∧ second e.1 ≤ hi) ↔
      (lo' < second' e.1 ∧ second' e.1 ≤ hi')) :
    tally second observed lo hi = tally second' observed lo' hi' := by
  have hfilter : observed.filter (fun e => lo < second e.1 ∧ second e.1 ≤ hi)
      = observed.filter fun e => lo' < second' e.1 ∧ second' e.1 ≤ hi' :=
    List.filter_congr fun e he => decide_eq_decide.mpr (h e he)
  rw [tally, tally, hfilter]

theorem tally_eq_zero {second : ℚ → Int} {observed : List (ℚ × Int)} {lo hi : Int}
    (h : ∀ e ∈ observed, ¬ (lo < second e.1 ∧ second e.1 ≤ hi)) :
    tally second observed lo hi = 0 := by
  have hfilter : observed.filter (fun e => lo < second e.1 ∧ second e.1 ≤ hi) = [] :=
    List.filter_eq_nil_iff.mpr fun e he => by simpa using h e he
  rw [tally, hfilter]
  rfl

/-- The last `j` buckets hold what is observed in the last `j` seconds, and nothing is observed
    later. -/
structure Tallied (observed : List (ℚ × Int)) (m : RateMeter) (start : Int) : Prop where
  le : ∀ e ∈ observed, truncate e.1 ≤ start
  last : ∀ j ≤ m.window, (m.buckets.items.rtake j).sum = tally truncate observed (start - j) start

namespace Tallied

variable {observed : List (ℚ × Int)} {m : RateMeter} {start : Int}

/-- The whole ring. -/
theorem sum_eq (h : Tallied observed m start) :
    m.buckets.items.sum = tally truncate observed (start - m.window) start := by
  -- the ring holds no more than a window
  have hall : m.buckets.items.rtake m.window = m.buckets.items :=
    BoundedRing.rtake_of_length_le m.buckets.length_le
  rw [← h.last m.window (le_refl _), hall]

/-- The seconds after `start` are empty. -/
theorem tally_later (h : Tallied observed m start) {lo second : Int} (hle : start ≤ second) :
    tally truncate observed lo second = tally truncate observed lo start := by
  refine tally_congr fun e he => and_congr_right fun _ => ?_
  have := h.le e he
  omega

/-- A ring of empty buckets holds what is observed a whole window later. -/
theorem of_gap (h : Tallied observed m start) {second : Int} (hgap : start + m.window ≤ second)
    {m' : RateMeter} (hwindow : m'.window = m.window) (hitems : ∀ b ∈ m'.buckets.items, b = 0) :
    Tallied observed m' second where
  le := fun e he => by
    have := h.le e he
    omega
  last := fun j hj => by
    -- all that is observed is a window or more in the past
    have hzero : tally truncate observed (second - j) second = 0 := by
      refine tally_eq_zero fun e he => ?_
      have := h.le e he
      omega
    rw [hzero]
    exact List.sum_eq_zero fun b hb => hitems b ((List.drop_sublist _ _).mem hb)

theorem padded (h : Tallied observed m start) (gap : Nat) :
    Tallied observed (m.padded gap (start + gap)) (start + gap) where
  le := fun e he => by
    have := h.le e he
    omega
  last := fun j hj => by
    have hj' : j ≤ m.buckets.capacity := (RateMeter.pad_capacity m.buckets gap) ▸ hj
    have hitems : (RateMeter.pad m.buckets gap).items.rtake j
        = m.buckets.items.rtake (j - gap) ++ (List.replicate gap 0).rtake j := by
      rw [RateMeter.pad, BoundedRing.items_foldl_push, BoundedRing.rtake_rtake hj',
        BoundedRing.rtake_append, List.length_replicate]
    have hzero : ((List.replicate gap (0 : Int)).rtake j).sum = 0 :=
      List.sum_eq_zero fun b hb => List.eq_of_mem_replicate ((List.drop_sublist _ _).mem hb)
    show ((RateMeter.pad m.buckets gap).items.rtake j).sum = _
    -- the last `j` buckets are the `j - gap` newest of the old ones, and `gap` empty ones
    rw [hitems, List.sum_append, hzero, add_zero, h.last (j - gap) ((Nat.sub_le j gap).trans hj'),
      h.tally_later (by omega)]
    refine tally_congr fun e he => ?_
    have := h.le e he
    omega

/-- A later second moves the window up. -/
theorem advance (h : Tallied observed m start) (hstart : m.currentBucketStart = some start)
    {second : Int} (hle : start ≤ second) : Tallied observed (m.advance second) second := by
  rw [RateMeter.advance_some hstart]
  split_ifs with hlater hgap
  · -- the gap is the whole window: one empty bucket stands for all of it
    refine h.of_gap (by omega) rfl fun b hb => ?_
    exact List.mem_singleton.mp ((BoundedRing.push_items_suffix m.buckets.clear 0).mem hb)
  · have hcast : start + (second - start).toNat = second := by omega
    have hpadded := h.padded (second - start).toNat
    rwa [hcast] at hpadded
  · rwa [le_antisymm (not_lt.mp hlater) hle]

/-- The first observation finds one bucket. -/
theorem advance_new (hitems : m.buckets.items = []) (hstart : m.currentBucketStart = none)
    (second : Int) : Tallied [] (m.advance second) second where
  le := fun e he => absurd he List.not_mem_nil
  last := fun j hj => by
    refine List.sum_eq_zero fun b hb => ?_
    rw [RateMeter.advance_none hstart] at hb
    have hmem := (BoundedRing.push_items_suffix m.buckets 0).mem ((List.drop_sublist _ _).mem hb)
    rw [hitems] at hmem
    exact List.mem_singleton.mp hmem

/-- What is observed at the newest second is counted there. -/
theorem counted (h : Tallied observed m start) (hitems : m.buckets.items ≠ []) {s : ℚ}
    (hs : truncate s = start) (count : Int) :
    Tallied (observed ++ [(s, count)]) (m.counted count) start where
  le := fun e he => by
    rcases List.mem_append.mp he with he | he
    · exact h.le e he
    · rw [List.mem_singleton.mp he, hs]
  last := fun j hj => by
    obtain ⟨init, last, hsplit⟩ := (List.eq_nil_or_concat' m.buckets.items).resolve_left hitems
    have hbefore := h.last j hj
    rw [tally_append, tally_singleton, hs, ← hbefore, hsplit]
    show ((RateMeter.addToNewest m.buckets count).items.rtake j).sum = _
    rw [RateMeter.addToNewest_items hsplit, BoundedRing.rtake_append, BoundedRing.rtake_append]
    -- the newest bucket is among the last `j` unless `j` is `0`
    cases j with
    | zero => simp [List.rtake]
    | succ j =>
      have hone : ∀ b : Int, [b].rtake (j + 1) = [b] := fun b =>
        BoundedRing.rtake_of_length_le (Nat.succ_le_succ (Nat.zero_le j))
      have hin : start - ((j + 1 : Nat) : Int) < start ∧ start ≤ start := by omega
      rw [hone, hone, if_pos hin]
      simp [add_assoc]

end Tallied

/-! ## Runs whose readings do not go back -/

theorem ordered_concat {calls : List MeterCall} {call : MeterCall} :
    Ordered (calls ++ [call]) ↔ Ordered calls ∧
      ∀ s ∈ call.reading, ∀ r ∈ calls.filterMap MeterCall.reading, r ≤ s := by
  rw [Ordered, List.filterMap_append, List.pairwise_append, Ordered]
  cases hreading : call.reading with
  | none => simp [hreading]
  | some s => simp [hreading]

/-- No reading is earlier than the newest second. -/
theorem newest_le {calls : List MeterCall} {s : ℚ}
    (h : ∀ r ∈ calls.filterMap MeterCall.reading, r ≤ s) {start : Int}
    (hstart : newest calls = some start) : start ≤ truncate s := by
  induction calls using List.reverseRecOn generalizing start with
  | nil => cases hstart
  | append_singleton calls call ih =>
    rw [List.filterMap_append] at h
    have hbefore := fun start => @ih (fun r hr => h r (List.mem_append_left _ hr)) start
    have hlast : ∀ r ∈ call.reading, truncate r ≤ truncate s := fun r hr =>
      truncate_mono <| h r <| List.mem_append_right _ <|
        List.mem_filterMap.mpr ⟨call, List.mem_singleton_self call, hr⟩
    rw [newest_concat] at hstart
    cases call with
    | observe r count =>
      cases hstart
      refine max_le ?_ (hlast r rfl)
      cases hnewest : newest calls with
      | none => exact hlast r rfl
      | some start => exact hbefore start hnewest
    | snapshot seconds =>
      cases seconds with
      | none => exact hbefore start hstart
      | some r =>
        obtain ⟨start', hstart', rfl⟩ := Option.map_eq_some_iff.mp hstart
        exact max_le (hbefore start' hstart') (hlast r rfl)

/-- What such a run leaves in the ring. -/
structure Keeps (calls : List MeterCall) (m : RateMeter) : Prop where
  new : newest calls = none → m.buckets.items = [] ∧ observed calls = []
  tallied : ∀ start, newest calls = some start → Tallied (observed calls) m start

theorem Keeps.observe {window : Nat} {calls : List MeterCall} {m m' : RateMeter} {s : ℚ}
    {count : Int} (hk : Keeps calls m) (hr : Runs window calls m)
    (hle : ∀ start, newest calls = some start → start ≤ truncate s)
    (h : m.observe s count = some m') : Keeps (calls ++ [.observe s count]) m' := by
  obtain ⟨hitems, rfl⟩ := RateMeter.observe_eq_some h
  have hnewest : newest (calls ++ [.observe s count]) = some (truncate s) := by
    rw [newest_concat]
    refine congrArg some (max_eq_right ?_)
    cases hstart : newest calls with
    | none => exact le_refl _
    | some start => exact hle start hstart
  -- the ring is moved up to the second before the count is added
  have hadvance : Tallied (observed calls) (m.advance (truncate s)) (truncate s) := by
    cases hstart : newest calls with
    | none =>
      obtain ⟨hempty, hobserved⟩ := hk.new hstart
      rw [hobserved]
      exact .advance_new hempty (hr.start_eq.trans hstart) (truncate s)
    | some start =>
      exact (hk.tallied start hstart).advance (hr.start_eq.trans hstart) (hle start hstart)
  refine ⟨fun hnone => ?_, fun start hstart => ?_⟩
  · rw [hnewest] at hnone
    cases hnone
  · rw [hnewest] at hstart
    cases hstart
    rw [observed_concat]
    exact hadvance.counted hitems rfl count

theorem Keeps.snapshot {window : Nat} {calls : List MeterCall} {m : RateMeter}
    {seconds : Option ℚ} (hk : Keeps calls m) (hr : Runs window calls m)
    (hle : ∀ s ∈ seconds, ∀ start, newest calls = some start → start ≤ truncate s) :
    Keeps (calls ++ [.snapshot seconds]) (m.snapshot seconds).2 := by
  have hobserved := observed_snapshot calls seconds
  cases hstart : newest calls with
  | none =>
    -- nothing is observed, and no snapshot moves the meter
    have hnewest : newest (calls ++ [.snapshot seconds]) = none := by
      rw [newest_concat, hstart]
      cases seconds <;> rfl
    have hcurrent := hr.start_eq.trans hstart
    rw [RateMeter.snapshot_eq_self fun s _ start hsome => by cases hcurrent.symm.trans hsome]
    refine ⟨fun _ => hobserved ▸ hk.new hstart, fun start hsome => ?_⟩
    rw [hnewest] at hsome
    cases hsome
  | some start =>
    have hcurrent := hr.start_eq.trans hstart
    have htallied := hk.tallied start hstart
    cases seconds with
    | none =>
      rw [RateMeter.snapshot_eq_self fun s hs => by cases hs]
      have hnewest : newest (calls ++ [.snapshot none]) = newest calls := newest_concat _ _
      refine ⟨fun hnone => ?_, fun start hsome => ?_⟩
      · rw [hnewest, hstart] at hnone
        cases hnone
      · rw [hobserved]
        exact hk.tallied start (hnewest ▸ hsome)
    | some s =>
      have hlater : start ≤ truncate s := hle s rfl start hstart
      have hnewest : newest (calls ++ [.snapshot (some s)]) = some (truncate s) := by
        rw [newest_concat, hstart]
        exact congrArg some (max_eq_right hlater)
      refine ⟨fun hnone => ?_, fun start' hsome => ?_⟩
      · rw [hnewest] at hnone
        cases hnone
      rw [hnewest] at hsome
      cases hsome
      rw [hobserved]
      -- a later reading moves the ring up or empties it; one of the same second leaves it
      rcases hlater.lt_or_eq with hlt | heq
      · rw [RateMeter.snapshot_later hcurrent hlt]
        split_ifs with hgap
        · exact htallied.of_gap hgap rfl fun b hb => absurd hb List.not_mem_nil
        · exact htallied.advance hcurrent hlater
      · have hstays : (m.snapshot (some s)).2 = m := by
          refine RateMeter.snapshot_eq_self fun r hr start' hsome => ?_
          cases hr
          cases hcurrent.symm.trans hsome
          exact heq.ge
        rw [hstays, ← heq]
        exact htallied

theorem keeps_of_exec {window : Nat} (hpos : 0 < window) {calls : List MeterCall} {m : RateMeter}
    (hordered : Ordered calls) (h : exec RateMeter.step (.new window hpos) calls = some m) :
    Keeps calls m := by
  -- by induction from the last call on: the order says that this call reads last
  induction calls using List.reverseRecOn generalizing m with
  | nil =>
    cases h
    exact ⟨fun _ => ⟨rfl, rfl⟩, fun start hstart => by cases hstart⟩
  | append_singleton calls call ih =>
    obtain ⟨mid, hmid, hstep⟩ := exec_concat_eq_some.mp h
    obtain ⟨hbefore, hlast⟩ := ordered_concat.mp hordered
    have hruns := runs_of_exec hpos hmid
    have hle : ∀ s ∈ call.reading, ∀ start, newest calls = some start → start ≤ truncate s :=
      fun s hs _ => newest_le (hlast s hs)
    cases call with
    | observe s count => exact (ih hbefore hmid).observe hruns (hle s rfl) hstep
    | snapshot seconds =>
      cases hstep
      exact (ih hbefore hmid).snapshot hruns hle

/-! ## What a snapshot says -/

theorem RateMeter.snapshot_fst (m : RateMeter) (seconds : Option ℚ) :
    (m.snapshot seconds).1 =
      { ratePerSecond := ((m.snapshot seconds).2.buckets.items.sum : ℚ)
          / ((m.snapshot seconds).2.window : ℚ)
        totalObservations := (m.snapshot seconds).2.total
        windowSeconds := (m.snapshot seconds).2.window } := rfl

/-- The ring behind a snapshot holds the window that ends at its second. -/
theorem Keeps.snapshot_sum {window : Nat} {calls : List MeterCall} {m : RateMeter} {s : ℚ}
    (hk : Keeps (calls ++ [.snapshot (some s)]) m)
    (hr : Runs window (calls ++ [.snapshot (some s)]) m)
    (hle : ∀ start, newest calls = some start → start ≤ truncate s) :
    m.buckets.items.sum = tally truncate (observed calls) (truncate s - window) (truncate s) := by
  have hobserved := observed_snapshot calls (some s)
  have hnewest := newest_concat calls (.snapshot (some s))
  cases hstart : newest calls with
  | none =>
    rw [hstart] at hnewest
    obtain ⟨hitems, hempty⟩ := hk.new hnewest
    rw [hitems, ← hobserved, hempty]
    rfl
  | some start =>
    rw [hstart] at hnewest
    have hsecond : newest (calls ++ [.snapshot (some s)]) = some (truncate s) :=
      hnewest.trans (congrArg some (max_eq_right (hle start hstart)))
    rw [(hk.tallied _ hsecond).sum_eq, hobserved, hr.window_eq]

/-- No run fails, and where the readings do not go back every snapshot gives the rate of the
    window before it and the total. -/
def KeepsRate (window : Nat) (hpos : 0 < window) (calls : List MeterCall) : Prop :=
  exec RateMeter.step (.new window hpos) calls ≠ none ∧
    (Ordered calls → ∀ before t after m, calls = before ++ .snapshot (some t) :: after →
      exec RateMeter.step (.new window hpos) before = some m →
        (m.snapshot (some t)).1.ratePerSecond
          = tally (⌊·⌋) (observed before) (⌊t⌋ - window) ⌊t⌋ / window ∧
        (m.snapshot (some t)).1.totalObservations = ((observed before).map Prod.snd).sum)

/-- `int(x)` and the floor put the same count into the window of each snapshot. -/
def TruncatesEvenly (window : Nat) (calls : List MeterCall) : Prop :=
  ∀ before t after, calls = before ++ .snapshot (some t) :: after →
    tally truncate (observed before) (truncate t - window) (truncate t)
      = tally (⌊·⌋) (observed before) (⌊t⌋ - window) ⌊t⌋

/-- They do so for readings that are not negative. -/
theorem truncatesEvenly_of_nonneg {window : Nat} {calls : List MeterCall}
    (h : ∀ r ∈ calls.filterMap MeterCall.reading, 0 ≤ r) : TruncatesEvenly window calls := by
  rintro before t after rfl
  have ht : 0 ≤ t :=
    h t (List.mem_filterMap.mpr ⟨_, List.mem_append_right _ List.mem_cons_self, rfl⟩)
  rw [truncate_of_nonneg ht]
  refine tally_congr fun e he => ?_
  obtain ⟨call, hcall, hobserved⟩ := List.mem_filterMap.mp he
  have hreading : call.reading = some e.1 := by
    cases call with
    | observe s count =>
      cases hobserved
      rfl
    | snapshot => cases hobserved
  rw [truncate_of_nonneg
    (h e.1 (List.mem_filterMap.mpr ⟨call, List.mem_append_left _ hcall, hreading⟩))]

/-- A snapshot of a run that got there gives the rate of the truncated seconds. -/
theorem snapshot_of_exec {window : Nat} (hpos : 0 < window) {before : List MeterCall} {t : ℚ}
    {m : RateMeter} (hordered : Ordered (before ++ [.snapshot (some t)]))
    (h : exec RateMeter.step (.new window hpos) before = some m) :
    (m.snapshot (some t)).1.ratePerSecond
        = tally truncate (observed before) (truncate t - window) (truncate t) / window ∧
      (m.snapshot (some t)).1.totalObservations = ((observed before).map Prod.snd).sum := by
  have hrun : exec RateMeter.step (.new window hpos) (before ++ [.snapshot (some t)])
      = some (m.snapshot (some t)).2 := exec_concat_eq_some.mpr ⟨m, h, rfl⟩
  have hruns := runs_of_exec hpos hrun
  have hle := (ordered_concat.mp hordered).2 t rfl
  rw [RateMeter.snapshot_fst, (keeps_of_exec hpos hordered hrun).snapshot_sum hruns
    fun _ => newest_le hle, hruns.window_eq, hruns.total_eq, observed_snapshot]
  exact ⟨rfl, rfl⟩

/-- A meter keeps its rate exactly where no observation is stranded behind a snapshot that
    emptied the ring, and truncation does not move a count into or out of a window. -/
theorem keepsRate_iff (window : Nat) (hpos : 0 < window) (calls : List MeterCall) :
    KeepsRate window hpos calls ↔
      ¬ Stranded window calls ∧ (Ordered calls → TruncatesEvenly window calls) := by
  have hsplit : ∀ {before t after}, calls = before ++ .snapshot (some t) :: after →
      Ordered calls → Ordered (before ++ [.snapshot (some t)]) := by
    rintro before t after rfl hordered
    rw [List.append_cons, Ordered, List.filterMap_append] at hordered
    exact (List.pairwise_append.mp hordered).1
  have hwindow : (window : ℚ) ≠ 0 := Nat.cast_ne_zero.mpr hpos.ne'
  rw [KeepsRate, ne_eq, exec_eq_none_iff_stranded]
  -- the total is right in every run; what is at stake is the rate
  refine and_congr_right fun hnot => forall_congr' fun hordered => ⟨?_, ?_⟩
  · intro h before t after hcalls
    obtain ⟨m, hm⟩ : ∃ m, exec RateMeter.step (.new window hpos) before = some m := by
      refine Option.ne_none_iff_exists'.mp fun hnone => hnot ?_
      rw [← exec_eq_none_iff_stranded hpos, hcalls, exec_append, hnone, Option.bind_none]
    have hrate := (h before t after m hcalls hm).1
    rw [(snapshot_of_exec hpos (hsplit hcalls hordered) hm).1] at hrate
    -- both rates are over the same window, so the counts agree
    exact Int.cast_injective ((div_left_inj' hwindow).mp hrate)
  · intro h before t after m hcalls hm
    rw [← h before t after hcalls]
    exact snapshot_of_exec hpos (hsplit hcalls hordered) hm

/-- A window of two seconds, one observation, and a snapshot within the window. -/
theorem keepsRate_withinWindow :
    0 < 2 ∧ KeepsRate 2 Nat.two_pos [.observe 0 1, .snapshot (some 1)] := by
  refine ⟨Nat.two_pos, (keepsRate_iff 2 Nat.two_pos _).mpr ⟨?_, fun _ => ?_⟩⟩
  · rintro ⟨before, second, seconds, count, after, hcalls, hempty, -⟩
    cases before with
    | nil =>
      generalize hnil : ([] : List MeterCall) = calls at hempty
      cases hempty with
      | clears seconds hstart hgap => exact absurd hnil.symm (by simp)
      | idles h seconds hle => exact absurd hnil.symm (by simp)
    | cons call before =>
      -- Behind the first call there is no observation.
      have hrest : [MeterCall.snapshot (some 1)] = before ++ .observe seconds count :: after :=
        (List.cons.inj hcalls).2
      have hmem : MeterCall.observe seconds count ∈ [MeterCall.snapshot (some 1)] := by
        rw [hrest]
        exact List.mem_append_right _ List.mem_cons_self
      cases List.mem_singleton.mp hmem
  · exact truncatesEvenly_of_nonneg (by decide +kernel)

/-- A window of one second: the snapshot a second after the first observation leaves no
    bucket for the observation that comes with it. -/
theorem not_keepsRate_idle :
    ¬ KeepsRate 1 Nat.one_pos [.observe 0 1, .snapshot (some 1), .observe 1 1] := by
  intro h
  refine h.1 ((exec_eq_none_iff_stranded Nat.one_pos _).mpr ?_)
  have hempty : Emptied 1 ([.observe 0 1] ++ [.snapshot (some 1)]) (truncate 1) :=
    .clears 1 rfl (by decide)
  exact ⟨_, _, 1, 1, [], rfl, hempty, le_refl _⟩

end AsyncViz.Runtime.Metrics
