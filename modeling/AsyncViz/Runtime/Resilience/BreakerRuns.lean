/-
  AsyncViz.Runtime.Resilience.BreakerRuns

  Runs of boundary entries and exits on one failure domain, with `force_open()` and
  `force_close()` in between, at non-decreasing times.

  `World` observes the breaker from outside: when it went open, and how many requests
  it has admitted in its present half-open period.  A run that is `Lawful` in every
  state admits nothing too early, admits no more probes than the policy has, and never
  gets to where no time brings the next admission.  The last is what a cancelled probe
  breaks: its slot is taken and no verdict comes (`Wedging`).
-/

import AsyncViz.Lib.Dict
import AsyncViz.Lib.Transition
import AsyncViz.Runtime.Resilience.CircuitBreaker

namespace AsyncViz.Runtime.Resilience

open AsyncViz.Lib AsyncViz.Lib.Transition

/-- A domain, the boundaries that have been entered and not left, and what an observer
    of the breaker has seen. -/
structure World where
  domain : FailureDomain
  inside : Dict Nat Boundary
  nowNs : Int
  /-- When the breaker last went open. -/
  openedAt : Int
  /-- The requests admitted in the present half-open period. -/
  probes : Nat

namespace World

/-- A call on the domain or through one of its boundaries. -/
inductive Action where
  | enter (id : Nat) (payloadKind : String) (suppress swallowUnavailable : Bool) (nowNs : Int)
  | exit (id : Nat) (exc : Option PyException) (nowNs : Int)
  | forceOpen (nowNs : Int)
  | forceClose (nowNs : Int)

/-- The reading at which a call is made. -/
def Action.time : Action → Int
  | .enter _ _ _ _ nowNs | .exit _ _ nowNs | .forceOpen nowNs | .forceClose nowNs => nowNs

/-- A new domain at the reading `nowNs`. -/
def start (name : String) (policy : SubsystemPolicy) (nowNs : Int) : World :=
  ⟨.new name policy, .empty, nowNs, nowNs, 0⟩

/-- The state of the domain's breaker. -/
def state (w : World) : BreakerState := w.domain.breaker.state

/-- The world after a call, with what the observer has seen of it. -/
def observe (w : World) (domain : FailureDomain) (inside : Dict Nat Boundary) (nowNs : Int)
    (admitted : Bool) : World :=
  { domain := domain
    inside := inside
    nowNs := nowNs
    openedAt :=
      if w.state ≠ .opened ∧ domain.breaker.state = .opened then nowNs else w.openedAt
    probes :=
      if domain.breaker.state = .halfOpen then
        (if w.state = .halfOpen then w.probes else 0) + if admitted then 1 else 0
      else 0 }

/-- One call.  A boundary is left once for every time it is entered. -/
def call (w : World) : Action → Option World
  | .enter id payloadKind suppress swallowUnavailable nowNs =>
    if id ∈ w.inside then none
    else
      match Boundary.tryEnter w.domain payloadKind suppress swallowUnavailable nowNs with
      | (none, domain) => some (w.observe domain w.inside nowNs false)
      | (some boundary, domain) =>
        some (w.observe domain (w.inside.set id boundary) nowNs boundary.admitted)
  | .exit id exc nowNs =>
    (w.inside.get? id).map fun boundary =>
      w.observe (boundary.handleExit w.domain exc nowNs).domain (w.inside.pop id) nowNs false
  | .forceOpen nowNs =>
    some (w.observe { w.domain with breaker := w.domain.breaker.forceOpen nowNs } w.inside nowNs
      false)
  | .forceClose nowNs =>
    some (w.observe { w.domain with breaker := w.domain.breaker.forceClose } w.inside nowNs false)

/-- Time does not go back. -/
def step (w : World) (a : Action) : Option World :=
  if w.nowNs ≤ a.time then w.call a else none

/-- Every admitted request has left. -/
def Settled (w : World) : Prop := ∀ id boundary, w.inside.get? id = some boundary →
  boundary.admitted = false

/-- What the breaker promises. -/
structure Lawful (w : World) : Prop where
  waits : w.state = .opened → ∀ payloadKind t, w.nowNs ≤ t →
    t - w.openedAt < w.domain.policy.openDurationNs →
    (w.domain.allowRequest payloadKind t).1 = false
  bounded : w.probes ≤ w.domain.policy.halfOpenProbes
  recovers : w.Settled → ∃ t, w.nowNs < t ∧
    ∀ payloadKind, ¬ w.domain.Quarantined payloadKind →
      (w.domain.allowRequest payloadKind t).1 = true

/-- The last admitted request leaves a half-open breaker that has no probe left, and
    leaves without a verdict. -/
def Wedging (w : World) : Action → Prop
  | .exit id exc _ =>
    w.state = .halfOpen ∧ w.domain.breaker.halfOpenProbesRemaining ≤ 0 ∧
      (∃ e, exc = some e ∧ Boundary.Structural w.domain e) ∧
      (∃ boundary, w.inside.get? id = some boundary ∧ boundary.admitted = true) ∧
      ∀ id' boundary, id' ≠ id → w.inside.get? id' = some boundary → boundary.admitted = false
  | _ => False

/-! ## What a call does to the breaker -/

/-- A move of the breaker that admits no request: none of them starts or changes a half-open
    period, and what it opens, it opens now. -/
structure Settles (b b' : CircuitBreaker) (nowNs : Int) : Prop where
  policy : b'.policy = b.policy
  halfOpen : b'.state = .halfOpen →
    b.state = .halfOpen ∧ b'.halfOpenProbesRemaining = b.halfOpenProbesRemaining
  opened : b'.state = .opened →
    b'.openedAtNs = if b.state = .opened then b.openedAtNs else nowNs

theorem settles_refl (b : CircuitBreaker) (nowNs : Int) : Settles b b nowNs :=
  ⟨rfl, fun h => ⟨h, rfl⟩, fun h => (if_pos h).symm⟩

theorem settles_recordSuccess (b : CircuitBreaker) (nowNs : Int) :
    Settles b (b.recordSuccess nowNs) nowNs := by
  have hstate : (b.recordSuccess nowNs).state
      = if b.state = .halfOpen then .closed else b.state := CircuitBreaker.recordSuccess_state
  have hmoved : b.state = .halfOpen → (b.recordSuccess nowNs).state = .closed := by
    intro hhalf
    rw [hstate, if_pos hhalf]
  refine ⟨CircuitBreaker.recordSuccess_policy, fun h => ?_, fun h => ?_⟩
  · by_cases hhalf : b.state = .halfOpen
    · rw [hmoved hhalf] at h
      cases h
    · rw [hstate, if_neg hhalf] at h
      exact absurd h hhalf
  · by_cases hhalf : b.state = .halfOpen
    · rw [hmoved hhalf] at h
      cases h
    · rw [hstate, if_neg hhalf] at h
      rw [if_pos h, CircuitBreaker.recordSuccess_openedAtNs]

theorem settles_recordFailure (b : CircuitBreaker) (nowNs : Int) :
    Settles b (b.recordFailure nowNs) nowNs := by
  refine ⟨CircuitBreaker.recordFailure_policy, fun h => ?_, fun h => ?_⟩
  · rcases CircuitBreaker.recordFailure_cases b nowNs with ⟨hclosed, -⟩ | ⟨hopened, -⟩
    · rw [hclosed] at h
      cases h
    · rw [hopened] at h
      cases h
  · rcases CircuitBreaker.recordFailure_cases b nowNs with ⟨hclosed, -⟩ | ⟨-, hat⟩
    · rw [hclosed] at h
      cases h
    · exact hat

theorem settles_forceOpen (b : CircuitBreaker) (nowNs : Int) :
    Settles b (b.forceOpen nowNs) nowNs := by
  refine ⟨CircuitBreaker.trip_policy, fun h => ?_, fun _ => CircuitBreaker.trip_openedAtNs⟩
  have hstate : (b.forceOpen nowNs).state = .opened := CircuitBreaker.trip_state
  rw [hstate] at h
  cases h

theorem settles_forceClose (b : CircuitBreaker) (nowNs : Int) :
    Settles b b.forceClose nowNs := by
  refine ⟨CircuitBreaker.forceClose_policy, fun h => ?_, fun h => ?_⟩ <;>
  · rw [CircuitBreaker.forceClose_state] at h
    cases h

theorem settles_handleExit (boundary : Boundary) (d : FailureDomain) (exc : Option PyException)
    (nowNs : Int) : Settles d.breaker (boundary.handleExit d exc nowNs).domain.breaker nowNs := by
  rcases Boundary.handleExit_state boundary d exc nowNs with h | h | h <;> rw [h]
  · exact settles_refl _ _
  · exact settles_recordSuccess _ _
  · exact settles_recordFailure _ _

/-! ## Soundness of the observed breaker -/

/-- The breaker agrees with its observer. -/
structure Sound (w : World) : Prop where
  probes_pos : 1 ≤ w.domain.policy.halfOpenProbes
  opened : w.state = .opened → w.domain.breaker.openedAtNs = w.openedAt
  halfOpen : w.state = .halfOpen → 0 ≤ w.domain.breaker.halfOpenProbesRemaining ∧
    w.probes + w.domain.breaker.halfOpenProbesRemaining = w.domain.policy.halfOpenProbes
  idle : w.state ≠ .halfOpen → w.probes = 0

theorem sound_start (name : String) {policy : SubsystemPolicy} (nowNs : Int)
    (h : 1 ≤ policy.halfOpenProbes) : Sound (start name policy nowNs) :=
  ⟨h, fun hopen => BreakerState.noConfusion hopen, fun hhalf => BreakerState.noConfusion hhalf,
    fun _ => rfl⟩

variable {w : World}

/-- A call that admits nothing keeps the agreement. -/
theorem Sound.settles (h : Sound w) {domain : FailureDomain} {nowNs : Int}
    (hsettles : Settles w.domain.breaker domain.breaker nowNs) (inside : Dict Nat Boundary) :
    Sound (w.observe domain inside nowNs false) := by
  have hpolicy : domain.policy = w.domain.policy := hsettles.policy
  refine ⟨hpolicy ▸ h.probes_pos, fun hopened => ?_, fun hhalf => ?_, fun hidle => ?_⟩
  · change domain.breaker.state = .opened at hopened
    have hat : domain.breaker.openedAtNs
        = if w.state = .opened then w.domain.breaker.openedAtNs else nowNs :=
      hsettles.opened hopened
    change domain.breaker.openedAtNs
      = if w.state ≠ .opened ∧ domain.breaker.state = .opened then nowNs else w.openedAt
    rw [hat]
    by_cases hwas : w.state = .opened
    · rw [if_pos hwas, if_neg (fun hnew => hnew.1 hwas)]
      exact h.opened hwas
    · rw [if_neg hwas, if_pos ⟨hwas, hopened⟩]
  · change domain.breaker.state = .halfOpen at hhalf
    obtain ⟨hwas, hremaining⟩ := hsettles.halfOpen hhalf
    have hprobes : (w.observe domain inside nowNs false).probes = w.probes := by
      have hwas' : w.state = .halfOpen := hwas
      simp [observe, hhalf, hwas']
    rw [hprobes]
    change 0 ≤ domain.breaker.halfOpenProbesRemaining ∧
      (w.probes : Int) + domain.breaker.halfOpenProbesRemaining = domain.policy.halfOpenProbes
    rw [hremaining, hpolicy]
    exact h.halfOpen hwas
  · exact if_neg hidle

/-- So does a decision on a request, which counts the probe it admits. -/
theorem Sound.allowRequest (h : Sound w) (payloadKind : String) (nowNs : Int)
    (inside : Dict Nat Boundary) :
    Sound (w.observe (w.domain.allowRequest payloadKind nowNs).2 inside nowNs
      (w.domain.allowRequest payloadKind nowNs).1) := by
  have hpos := h.probes_pos
  rcases w.domain.allowRequest_cases payloadKind nowNs with ⟨-, heq⟩ | ⟨-, heq⟩ <;> rw [heq]
  · exact h.settles (settles_refl _ _) inside
  · rcases w.domain.breaker.allowRequest_cases nowNs with ⟨hstate, hb⟩ | ⟨hstate, -, hb⟩ |
      ⟨-, -, hnone, -⟩ | ⟨hstate, helapsed, -, hb⟩ | ⟨hstate, -, hb⟩ | ⟨hstate, hleft, hb⟩
    · rw [hb]
      have hkept : Sound (w.observe w.domain inside nowNs false) :=
        h.settles (settles_refl w.domain.breaker nowNs) inside
      refine ⟨hkept.probes_pos, hkept.opened, fun hhalf => ?_, fun _ => ?_⟩
      · exact absurd (hstate.symm.trans hhalf) (by decide)
      · exact if_neg (by rw [hstate]; decide)
    · rw [hb]
      exact h.settles (settles_refl _ _) inside
    · exact absurd hnone (by change ¬ w.domain.policy.halfOpenProbes ≤ 0; omega)
    · -- the half-open period starts with this probe
      rw [hb]
      have hhalf := CircuitBreaker.maybeReopenProbe_state hstate helapsed
      have hwas : w.state = .opened := hstate
      refine ⟨?_, fun hopened => ?_, fun _ => ?_, fun hidle => absurd hhalf hidle⟩
      · change 1 ≤ (w.domain.breaker.maybeReopenProbe nowNs).policy.halfOpenProbes
        rw [CircuitBreaker.maybeReopenProbe_policy]
        exact hpos
      · exact absurd (hhalf.symm.trans hopened) (by decide)
      · change 0 ≤ w.domain.breaker.policy.halfOpenProbes - 1 ∧ ((observe w _ _ _ _).probes : Int)
          + (w.domain.breaker.policy.halfOpenProbes - 1)
            = (w.domain.breaker.maybeReopenProbe nowNs).policy.halfOpenProbes
        rw [CircuitBreaker.maybeReopenProbe_policy]
        change 1 ≤ w.domain.breaker.policy.halfOpenProbes at hpos
        simp [observe, hhalf, hwas]
        omega
    · rw [hb]
      exact h.settles (settles_refl _ _) inside
    · rw [hb]
      have hwas : w.state = .halfOpen := hstate
      obtain ⟨-, hsum⟩ := h.halfOpen hwas
      refine ⟨hpos, fun hopened => ?_, fun _ => ?_, fun hidle => absurd hstate hidle⟩
      · exact absurd (hstate.symm.trans hopened) (by decide)
      · change 0 ≤ w.domain.breaker.halfOpenProbesRemaining - 1 ∧
          ((observe w _ _ _ _).probes : Int) + (w.domain.breaker.halfOpenProbesRemaining - 1)
            = w.domain.policy.halfOpenProbes
        simp [observe, hstate, hwas]
        omega

/-- An entry is turned away with `SubsystemUnavailable`, or has a boundary of its own. -/
theorem enter_cases {w' : World} {id : Nat} {payloadKind : String}
    {suppress swallowUnavailable : Bool} {nowNs : Int}
    (hcall : w.call (.enter id payloadKind suppress swallowUnavailable nowNs) = some w') :
    id ∉ w.inside ∧
      ((w.domain.allowRequest payloadKind nowNs).1 = false ∧
          w' = w.observe (w.domain.allowRequest payloadKind nowNs).2 w.inside nowNs false ∨
        w' = w.observe (w.domain.allowRequest payloadKind nowNs).2
          (w.inside.set id
            ⟨payloadKind, suppress, (w.domain.allowRequest payloadKind nowNs).1⟩) nowNs
          (w.domain.allowRequest payloadKind nowNs).1) := by
  simp only [World.call, Boundary.tryEnter] at hcall
  by_cases hin : id ∈ w.inside
  · rw [if_pos hin] at hcall
    cases hcall
  · refine ⟨hin, ?_⟩
    rw [if_neg hin] at hcall
    by_cases hraise : (w.domain.allowRequest payloadKind nowNs).1 = false ∧
        swallowUnavailable = false
    · rw [if_pos hraise] at hcall
      exact .inl ⟨hraise.1, (Option.some.inj hcall).symm⟩
    · rw [if_neg hraise] at hcall
      exact .inr (Option.some.inj hcall).symm

/-- Every call keeps the agreement. -/
theorem Sound.call (h : Sound w) {w' : World} {a : Action} (hcall : w.call a = some w') :
    Sound w' := by
  cases a with
  | enter id payloadKind suppress swallowUnavailable nowNs =>
    have hdecided := h.allowRequest payloadKind nowNs
    obtain ⟨-, ⟨haway, rfl⟩ | rfl⟩ := enter_cases hcall
    · have hsound := hdecided w.inside
      rw [haway] at hsound
      exact hsound
    · exact hdecided _
  | exit id exc nowNs =>
    obtain ⟨boundary, -, rfl⟩ := Option.map_eq_some_iff.mp hcall
    exact h.settles (settles_handleExit _ _ _ _) _
  | forceOpen nowNs =>
    cases hcall
    exact h.settles (settles_forceOpen _ _) _
  | forceClose nowNs =>
    cases hcall
    exact h.settles (settles_forceClose _ _) _

theorem call_of_step {w' : World} {a : Action} (hstep : step w a = some w') :
    w.nowNs ≤ a.time ∧ w.call a = some w' := by
  unfold step at hstep
  split at hstep
  next htime => exact ⟨htime, hstep⟩
  next => cases hstep

/-! ## Wedged worlds -/

/-- No time brings the next admission, and nobody is left who could report a verdict. -/
structure Wedged (w : World) : Prop where
  halfOpen : w.state = .halfOpen
  spent : w.domain.breaker.halfOpenProbesRemaining ≤ 0
  settled : w.Settled

/-- Unless it is half open without a probe, a breaker admits a request at some time. -/
theorem exists_admission {d : FailureDomain} (hpos : 1 ≤ d.policy.halfOpenProbes)
    (h : ¬ (d.breaker.state = .halfOpen ∧ d.breaker.halfOpenProbesRemaining ≤ 0)) (nowNs : Int) :
    ∃ t, nowNs < t ∧ ∀ payloadKind, ¬ d.Quarantined payloadKind →
      (d.allowRequest payloadKind t).1 = true := by
  refine ⟨max (nowNs + 1) (d.breaker.openedAtNs + d.policy.openDurationNs), by omega,
    fun payloadKind hfree => ?_⟩
  rcases d.allowRequest_cases payloadKind _ with ⟨hquarantined, -⟩ | ⟨-, heq⟩
  · exact absurd hquarantined hfree
  · rw [heq]
    rcases d.breaker.allowRequest_cases (max (nowNs + 1)
        (d.breaker.openedAtNs + d.policy.openDurationNs)) with
      ⟨-, hb⟩ | ⟨-, hearly, -⟩ | ⟨-, -, hnone, -⟩ | ⟨-, -, -, hb⟩ | ⟨hhalf, hspent, -⟩ | ⟨-, -, hb⟩
    · rw [hb]
    · refine absurd ?_ hearly
      change _ ≥ d.policy.openDurationNs
      omega
    · exact absurd hnone (by change ¬ d.policy.halfOpenProbes ≤ 0; omega)
    · rw [hb]
    · exact absurd ⟨hhalf, hspent⟩ h
    · rw [hb]

/-- A half-open breaker without a probe admits nothing, at any time. -/
theorem allowRequest_spent {d : FailureDomain} (hhalf : d.breaker.state = .halfOpen)
    (hspent : d.breaker.halfOpenProbesRemaining ≤ 0) (payloadKind : String) (t : Int) :
    (d.allowRequest payloadKind t).1 = false := by
  rcases d.allowRequest_cases payloadKind t with ⟨-, heq⟩ | ⟨-, heq⟩ <;> rw [heq]
  rcases d.breaker.allowRequest_cases t with ⟨hstate, -⟩ | ⟨-, -, hb⟩ | ⟨-, -, -, hb⟩ |
    ⟨hstate, -, -, -⟩ | ⟨-, -, hb⟩ | ⟨-, hleft, -⟩
  · exact absurd (hhalf.symm.trans hstate) (by decide)
  · rw [hb]
  · rw [hb]
  · exact absurd (hhalf.symm.trans hstate) (by decide)
  · rw [hb]
  · exact absurd hspent (Int.not_le.mpr hleft)

/-- A request that is turned away leaves the domain as it is. -/
theorem allowRequest_of_turned_away {d : FailureDomain} (hpos : 1 ≤ d.policy.halfOpenProbes)
    {payloadKind : String} {t : Int} (h : (d.allowRequest payloadKind t).1 = false) :
    (d.allowRequest payloadKind t).2 = d := by
  rcases d.allowRequest_cases payloadKind t with ⟨-, heq⟩ | ⟨-, heq⟩ <;> rw [heq] at h ⊢
  rcases d.breaker.allowRequest_cases t with ⟨-, hb⟩ | ⟨-, -, hb⟩ | ⟨-, -, hnone, -⟩ |
    ⟨-, -, -, hb⟩ | ⟨-, -, hb⟩ | ⟨-, -, hb⟩
  · rw [hb]
  · rw [hb]
  · exact absurd hnone (by change ¬ d.policy.halfOpenProbes ≤ 0; omega)
  · rw [hb] at h
    cases h
  · rw [hb]
  · rw [hb] at h
    cases h

/-- No payload is quarantined under the empty name. -/
theorem not_quarantined_empty (d : FailureDomain) : ¬ d.Quarantined "" := fun h => h.1 rfl

/-- While open, an agreeing breaker turns requests away until its time is over. -/
theorem Sound.waits (h : Sound w) (hopen : w.state = .opened) (payloadKind : String) {t : Int}
    (hearly : t - w.openedAt < w.domain.policy.openDurationNs) :
    (w.domain.allowRequest payloadKind t).1 = false := by
  have hnot : ¬ w.domain.breaker.Elapsed t := by
    intro helapsed
    change t - w.domain.breaker.openedAtNs ≥ w.domain.policy.openDurationNs at helapsed
    rw [h.opened hopen] at helapsed
    omega
  rcases w.domain.allowRequest_cases payloadKind t with ⟨-, heq⟩ | ⟨-, heq⟩ <;> rw [heq]
  rcases w.domain.breaker.allowRequest_cases t with ⟨hstate, -⟩ | ⟨-, -, hb⟩ | ⟨-, -, -, hb⟩ |
    ⟨-, helapsed, -, -⟩ | ⟨hstate, -, -⟩ | ⟨hstate, -, -⟩
  · exact absurd (hopen.symm.trans hstate) (by decide)
  · rw [hb]
  · rw [hb]
  · exact absurd helapsed hnot
  · exact absurd (hopen.symm.trans hstate) (by decide)
  · exact absurd (hopen.symm.trans hstate) (by decide)

/-- An agreeing breaker keeps its promises unless it is wedged. -/
theorem Sound.lawful_iff (h : Sound w) : w.Lawful ↔ ¬ Wedged w := by
  constructor
  · intro hlawful hwedged
    obtain ⟨t, -, hadmits⟩ := hlawful.recovers hwedged.settled
    have htrue := hadmits "" (not_quarantined_empty _)
    rw [allowRequest_spent hwedged.halfOpen hwedged.spent] at htrue
    cases htrue
  · intro hnot
    refine ⟨fun hopen payloadKind t _ => h.waits hopen payloadKind, ?_, fun hsettled => ?_⟩
    · by_cases hhalf : w.state = .halfOpen
      · have := h.halfOpen hhalf
        omega
      · rw [h.idle hhalf]
        have := h.probes_pos
        omega
    · refine exists_admission h.probes_pos (fun hspent => ?_) w.nowNs
      exact hnot ⟨hspent.1, hspent.2, hsettled⟩

/-! ## Where the breaker gets wedged -/

theorem settled_set {id : Nat} {boundary : Boundary} {domain : FailureDomain} {nowNs : Int}
    {admitted : Bool} (hfresh : id ∉ w.inside) :
    (w.observe domain (w.inside.set id boundary) nowNs admitted).Settled ↔
      boundary.admitted = false ∧ w.Settled := by
  constructor
  · intro h
    refine ⟨h id boundary (Dict.get?_set_self _ _ _), fun id' boundary' hget => ?_⟩
    have hne : id' ≠ id := by
      rintro rfl
      exact hfresh (Dict.mem_of_get?_eq_some hget)
    exact h id' boundary' ((Dict.get?_set_of_ne _ _ hne).trans hget)
  · rintro ⟨hone, hrest⟩ id' boundary' hget
    change (w.inside.set id boundary).get? id' = some boundary' at hget
    rw [Dict.get?_set] at hget
    split at hget
    · cases hget
      exact hone
    · exact hrest id' boundary' hget

theorem settled_pop {id : Nat} {domain : FailureDomain} {nowNs : Int} {admitted : Bool} :
    (w.observe domain (w.inside.pop id) nowNs admitted).Settled ↔
      ∀ id' boundary, id' ≠ id → w.inside.get? id' = some boundary →
        boundary.admitted = false := by
  constructor
  · intro h id' boundary hne hget
    exact h id' boundary ((Dict.get?_pop_of_ne _ hne).trans hget)
  · intro h id' boundary hget
    change (w.inside.pop id).get? id' = some boundary at hget
    rw [Dict.get?_pop] at hget
    split at hget
    · cases hget
    · next hne => exact h id' boundary hne hget

/-- An entry never wedges the breaker. -/
theorem not_wedged_enter (h : Sound w) (hfree : ¬ Wedged w) {w' : World} {id : Nat}
    {payloadKind : String} {suppress swallowUnavailable : Bool} {nowNs : Int}
    (hcall : w.call (.enter id payloadKind suppress swallowUnavailable nowNs) = some w') :
    ¬ Wedged w' := by
  intro hwedged
  have hspent : (w.domain.allowRequest payloadKind nowNs).1 = false → w'.domain
      = (w.domain.allowRequest payloadKind nowNs).2 → w.Settled → False := by
    intro haway hdomain hsettled
    rw [allowRequest_of_turned_away h.probes_pos haway] at hdomain
    refine hfree ⟨?_, ?_, hsettled⟩
    · rw [state, ← hdomain]
      exact hwedged.halfOpen
    · rw [← hdomain]
      exact hwedged.spent
  obtain ⟨hin, ⟨haway, rfl⟩ | rfl⟩ := enter_cases hcall
  · exact hspent haway rfl hwedged.settled
  · obtain ⟨haway, hsettled⟩ := (settled_set hin).mp hwedged.settled
    exact hspent haway rfl hsettled

/-- Only a cancelled probe wedges the breaker, and it does so as the last one to leave. -/
theorem wedged_call_iff (h : Sound w) (hfree : ¬ Wedged w) {w' : World} {a : Action}
    (hcall : w.call a = some w') : Wedged w' ↔ Wedging w a := by
  cases a with
  | enter id payloadKind suppress swallowUnavailable nowNs =>
    exact iff_of_false (not_wedged_enter h hfree hcall) not_false
  | exit id exc nowNs =>
    obtain ⟨boundary, hget, rfl⟩ := Option.map_eq_some_iff.mp hcall
    rcases boundary.handleExit_cases w.domain exc nowNs with ⟨haway, hdomain, -⟩ |
      ⟨hadmitted, hexc, hdomain, -⟩ | ⟨-, hclean, hdomain, -⟩ |
      ⟨-, ⟨e, hexc, hverdict⟩, event, -, hdomain, -⟩
    · refine iff_of_false (fun hwedged => hfree ?_) ?_
      · refine ⟨?_, ?_, fun id' boundary' hget' => ?_⟩
        · have := hwedged.halfOpen
          rwa [state, observe, hdomain] at this
        · have := hwedged.spent
          rwa [observe, hdomain] at this
        · by_cases hid : id' = id
          · rw [hid, hget] at hget'
            cases hget'
            exact haway
          · exact settled_pop.mp hwedged.settled id' boundary' hid hget'
      · rintro ⟨-, -, -, ⟨boundary', hget', hadmitted⟩, -⟩
        rw [hget] at hget'
        cases hget'
        exact absurd (haway.symm.trans hadmitted) (by decide)
    · constructor
      · intro hwedged
        have hhalf := hwedged.halfOpen
        have hspent := hwedged.spent
        rw [state, observe, hdomain] at hhalf
        rw [observe, hdomain] at hspent
        exact ⟨hhalf, hspent, hexc, ⟨boundary, hget, hadmitted⟩, settled_pop.mp hwedged.settled⟩
      · rintro ⟨hhalf, hspent, -, -, hothers⟩
        refine ⟨?_, ?_, settled_pop.mpr hothers⟩
        · rw [state, observe, hdomain]
          exact hhalf
        · rw [observe, hdomain]
          exact hspent
    · refine iff_of_false (fun hwedged => ?_) ?_
      · have hhalf := hwedged.halfOpen
        rw [state, observe, hdomain, FailureDomain.recordSuccess_breaker,
          CircuitBreaker.recordSuccess_state] at hhalf
        split at hhalf
        next => cases hhalf
        next hnot => exact hnot hhalf
      · rintro ⟨-, -, ⟨e, hsome, -⟩, -⟩
        rw [hclean] at hsome
        cases hsome
    · refine iff_of_false (fun hwedged => ?_) ?_
      · have hhalf := hwedged.halfOpen
        rw [state, observe, hdomain, FailureDomain.recordFailure_breaker] at hhalf
        rcases CircuitBreaker.recordFailure_cases w.domain.breaker
            (if event.atNs = 0 then nowNs else event.atNs) with ⟨hstate, -⟩ | ⟨hstate, -⟩
        · exact absurd (hstate.symm.trans hhalf) (by decide)
        · exact absurd (hstate.symm.trans hhalf) (by decide)
      · rintro ⟨-, -, ⟨e', hsome, hstructural⟩, -⟩
        rw [hexc] at hsome
        cases hsome
        exact hverdict hstructural
  | forceOpen nowNs =>
    cases hcall
    refine iff_of_false (fun hwedged => ?_) not_false
    have hopened : (w.domain.breaker.forceOpen nowNs).state = .opened := CircuitBreaker.trip_state
    exact absurd (hopened.symm.trans hwedged.halfOpen) (by decide)
  | forceClose nowNs =>
    cases hcall
    refine iff_of_false (fun hwedged => ?_) not_false
    exact absurd (CircuitBreaker.forceClose_state.symm.trans hwedged.halfOpen) (by decide)

/-! ## Runs -/

/-- A run keeps the breaker's promises exactly when no cancelled probe wedges it. -/
theorem lawful_iff_not_wedging (name : String) (policy : SubsystemPolicy) (nowNs : Int)
    (acts : List Action) (hprobes : 1 ≤ policy.halfOpenProbes) {w' : World}
    (hrun : exec step (start name policy nowNs) acts = some w') :
    AllStates step Lawful (start name policy nowNs) acts ↔
      AllSteps step (fun w a => ¬ Wedging w a) (start name policy nowNs) acts := by
  have hsound := sound_start name nowNs hprobes
  refine allStates_iff_allSteps (J := Sound) (fun w a w' hs hstep => ?_) ?_ hsound ?_ hrun
  · exact hs.call (call_of_step hstep).2
  · intro w a w' hs hlawful hstep
    have hcall := (call_of_step hstep).2
    rw [(hs.call hcall).lawful_iff, wedged_call_iff hs (hs.lawful_iff.mp hlawful) hcall]
  · rw [hsound.lawful_iff]
    exact fun hwedged => BreakerState.noConfusion hwedged.halfOpen

/-- A task that is cancelled. -/
def cancelledError : PyException := ⟨.cancelledError, none, "CancelledError", "", "cancellederror"⟩

/-- The breaker opens; five seconds later one probe is admitted and cancelled. -/
def cancelledProbe : List Action :=
  [.forceOpen 0, .enter 0 "" true true 5000000000, .exit 0 (some cancelledError) 5000000001]

/-- Under the default policy that leaves a breaker that admits nothing any more. -/
theorem not_lawful_cancelledProbe :
    ∃ w, exec step (start "worker" {} 0) cancelledProbe = some w ∧ w.Settled ∧
      (∀ payloadKind t, (w.domain.allowRequest payloadKind t).1 = false) ∧ ¬ w.Lawful := by
  have hspent : ∀ w, exec step (start "worker" {} 0) cancelledProbe = some w → Wedged w := by
    intro w hw
    cases hw
    exact ⟨rfl, by decide, fun id boundary hget => by cases hget⟩
  refine ⟨_, rfl, (hspent _ rfl).settled, fun payloadKind t => ?_, fun hlawful => ?_⟩
  · exact allowRequest_spent (hspent _ rfl).halfOpen (hspent _ rfl).spent payloadKind t
  · obtain ⟨t, -, hadmits⟩ := hlawful.recovers (hspent _ rfl).settled
    have htrue := hadmits "" (not_quarantined_empty _)
    rw [allowRequest_spent (hspent _ rfl).halfOpen (hspent _ rfl).spent] at htrue
    cases htrue

/-- The same probe, cancelled while a request from before is still out: its exit is the
    verdict that closes the breaker. -/
def lateVerdict : List Action :=
  [.enter 7 "" true true 0, .forceOpen 0, .enter 0 "" true true 5000000000,
    .exit 0 (some cancelledError) 5000000001, .exit 7 none 5000000002]

theorem lawful_lateVerdict :
    1 ≤ ({} : SubsystemPolicy).halfOpenProbes ∧
      AllStates step Lawful (start "worker" {} 0) lateVerdict := by
  refine ⟨by decide, (lawful_iff_not_wedging "worker" {} 0 lateVerdict (by decide) rfl).mpr ?_⟩
  refine .cons rfl not_false (.cons rfl not_false (.cons rfl not_false
    (.cons rfl (fun h => ?_) (.cons rfl (fun h => ?_) trivial))))
  · obtain ⟨-, -, -, -, hothers⟩ := h
    exact absurd (hothers 7 ⟨"", true, true⟩ (by decide) rfl) (by decide)
  · obtain ⟨-, -, ⟨e, hsome, -⟩, -⟩ := h
    cases hsome

end World

end AsyncViz.Runtime.Resilience
