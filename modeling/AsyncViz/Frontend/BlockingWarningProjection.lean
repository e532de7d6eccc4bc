/-
  AsyncViz.Frontend.BlockingWarningProjection

  Two panels of one emitter: one has folded every payload, the other one was hydrated from a
  snapshot on the way and has folded the payloads since.

  Both know a group by its state and the time it was last seen, which are those of the registry
  (`Reads`); so both take the same payloads as news.  What the hydration reads otherwise than the
  payloads told it is `misread`, and each misread group stays so until the next news of it.
-/

import AsyncViz.Frontend.BlockingWarningStore
import AsyncViz.Runtime.Warnings.Blocking.Telling

namespace AsyncViz.Frontend.Blocking

open AsyncViz.Lib AsyncViz.Runtime.Warnings.Blocking

/-! ## What the routes read differently -/

/-- The payload is news of its group: the state or the time is another than the registry has. -/
def IsNews (e : BlockingWarningEmitter) (p : BlockingWarningPayload) : Prop :=
  (e.registry.active.get? p.groupId).map mark ≠ some (mark p.toWarningGroup)

instance (e : BlockingWarningEmitter) (p : BlockingWarningPayload) : Decidable (IsNews e p) :=
  inferInstanceAs (Decidable (_ ≠ _))

/-- The groups that the call tells news of. -/
def toldAnew (e : BlockingWarningEmitter) (c : Call) : List String :=
  ((e.payloadsOf c).filter fun p => IsNews e p).map fun p => p.groupId

/-- The groups that the call gives another severity, or opens, without telling news of them. -/
def hiddenBy (e : BlockingWarningEmitter) (c : Call) : List String :=
  (e.call c).registry.active.keys.filter fun groupId =>
    groupId ∉ toldAnew e c ∧
      (e.registry.active.get? groupId).map WarningGroup.severity
        ≠ ((e.call c).registry.active.get? groupId).map WarningGroup.severity

/-- The groups whose severity no payload has told when the calls are over. -/
def behind (e : BlockingWarningEmitter) (groupIds : List String) : List Call → List String
  | [] => groupIds
  | c :: cs =>
    behind (e.call c) (groupIds.filter (fun groupId => groupId ∉ toldAnew e c) ++ hiddenBy e c) cs

/-- The groups that a hydration behind the calls reads otherwise than the payloads so far: those
    that have recovered and wait for their expiry, and those whose severity has not been told. -/
def misread (e : BlockingWarningEmitter) (before : List Call) : List String :=
  ((e.calls before).registry.active.keys.filter fun groupId =>
      ((e.calls before).registry.active.get? groupId).any fun g => g.state.isTerminal) ++
    behind e [] before

/-- What is left of them when more calls have told news. -/
def stillMisread (e : BlockingWarningEmitter) (groupIds : List String) : List Call → List String
  | [] => groupIds
  | c :: cs =>
    stillMisread (e.call c) (groupIds.filter fun groupId => groupId ∉ toldAnew e c) cs

/-- The two panels show the same active ids, each with the same state and severity. -/
structure Agree (s s' : BlockingWarningStore) : Prop where
  ids : ∀ groupId, groupId ∈ s.activeIds ↔ groupId ∈ s'.activeIds
  shown : ∀ groupId ∈ s.activeIds,
    (s.groupsById.get? groupId).map (fun g => (g.state, g.severity))
      = (s'.groupsById.get? groupId).map fun g => (g.state, g.severity)

/-! ## One store and the registry -/

variable {e e' : BlockingWarningEmitter} {s : BlockingWarningStore} {groupId : String}
  {payloads : List BlockingWarningPayload} {p : BlockingWarningPayload}

/-- What a store has of an id, next to the registry: a tracked group is known by its mark, if it
    has been told of, and one that is not tracked has ended. -/
structure Reads (e : BlockingWarningEmitter) (groupId : String) (held : Option WarningGroup) :
    Prop where
  marked : ∀ g m, e.registry.active.get? groupId = some g → held = some m → mark m = mark g
  unsaid : ∀ g, e.registry.active.get? groupId = some g → held = none → g.state = .opened
  ended : ∀ m, e.registry.active.get? groupId = none → held = some m → m.state.isTerminal = true
  known : ∀ m, held = some m → groupId ∈ e.openedIds

/-- A store takes exactly the news. -/
theorem glanceNext_eq {held : Option WarningGroup × Bool} (h : Reads e p.groupId held.1)
    {after : Option WarningGroup}
    (hsaid : Said e.openedIds p (e.registry.active.get? p.groupId) after) :
    BlockingWarningStore.glanceNext p held =
      if IsNews e p then (some p.toWarningGroup, !p.state.isTerminal) else held := by
  unfold BlockingWarningStore.glanceNext
  have hsame : held.1.map mark = some (mark p.toWarningGroup) ↔
      (e.registry.active.get? p.groupId).map mark = some (mark p.toWarningGroup) := by
    have hold : ∀ g, e.registry.active.get? p.groupId = some g → p.state ≠ .opened →
        (held.1.map mark = some (mark p.toWarningGroup) ↔
          (some g).map mark = some (mark p.toWarningGroup)) := by
      intro g hget hstate
      cases hheld : held.1 with
      | some m =>
        rw [Option.map_some, Option.map_some, h.marked g m hget hheld]
      | none =>
        have hopened := h.unsaid g hget hheld
        constructor
        · exact fun hnone => absurd hnone.symm (Option.some_ne_none _)
        · intro hmark
          have hstates : g.state = p.state := congrArg Prod.fst (Option.some.inj hmark)
          exact absurd (hstates.symm.trans hopened) hstate
    generalize hget : e.registry.active.get? p.groupId = before at hsaid
    cases hsaid with
    | opened hfresh hstate =>
      cases hheld : held.1 with
      | none => exact Iff.rfl
      | some m => exact absurd (h.known m hheld) hfresh
    | escalated g hlive hstate hrank => exact hold g hget (by simp [hstate])
    | refreshed g hlive hstate hrank => exact hold g hget (by simp [hstate])
    | recovered g hlive hstate => exact hold g hget (by simp [hstate])
    | expired g hlive hstate => exact hold g hget (by simp [hstate])
  by_cases hnews : IsNews e p
  · rw [if_neg (fun hdup => hnews (hsame.mp hdup)), if_pos hnews]
  · rw [if_pos (hsame.mpr (not_not.mp hnews)), if_neg hnews]

/-- What the payloads of a part do to one id, in any store: nothing, or what its one payload
    does. -/
theorem glance_tells (h : Tells e e' payloads) (groupId : String) :
    (groupId ∉ payloads.map (fun p => p.groupId) ∧
        ∀ s : BlockingWarningStore, s.lastSequence ≤ e.registry.sequence →
          (s.receive payloads).glance groupId = s.glance groupId) ∨
      ∃ p ∈ payloads, p.groupId = groupId ∧
        ∀ s : BlockingWarningStore, s.lastSequence ≤ e.registry.sequence →
          (s.receive payloads).glance groupId =
            BlockingWarningStore.glanceNext p (s.glance groupId) := by
  have hglance : ∀ s : BlockingWarningStore, s.lastSequence ≤ e.registry.sequence →
      (s.receive payloads).glance groupId
        = (payloads.filter fun p => p.groupId = groupId).foldl
            (fun g p => BlockingWarningStore.glanceNext p g) (s.glance groupId) := by
    intro s hgate
    exact (BlockingWarningStore.receive_glance
      (fun p hmem => Nat.lt_of_le_of_lt hgate (h.newer p hmem).1) h.increasing groupId).1
  by_cases hmem : groupId ∈ payloads.map fun p => p.groupId
  · obtain ⟨p, hp, rfl⟩ := List.mem_map.mp hmem
    refine .inr ⟨p, hp, rfl, fun s hgate => ?_⟩
    have hsingle : (payloads.filter fun p' => p'.groupId = p.groupId) = [p] := by
      have hnodup := h.once
      obtain ⟨l, l', rfl⟩ := List.append_of_mem hp
      rw [List.map_append, List.map_cons, List.nodup_append, List.nodup_cons] at hnodup
      obtain ⟨-, ⟨hafter, -⟩, hbefore⟩ := hnodup
      have hnone : ∀ {l : List BlockingWarningPayload}, (∀ q ∈ l, q.groupId ≠ p.groupId) →
          (l.filter fun p' => p'.groupId = p.groupId) = [] := fun hne =>
        List.filter_eq_nil_iff.mpr fun q hq => by simpa using hne q hq
      rw [List.filter_append, List.filter_cons_of_pos (by simp), hnone, hnone]
      · rfl
      · exact fun q hq heq => hafter (List.mem_map.mpr ⟨q, hq, heq⟩)
      · exact fun q hq heq => hbefore _ (List.mem_map_of_mem hq) _ List.mem_cons_self heq
    rw [hglance s hgate, hsingle]
    rfl
  · refine .inl ⟨hmem, fun s hgate => ?_⟩
    have hnone : (payloads.filter fun p => p.groupId = groupId) = [] :=
      List.filter_eq_nil_iff.mpr fun p hp => by
        simpa using fun heq => hmem (List.mem_map.mpr ⟨p, hp, heq⟩)
    rw [hglance s hgate, hnone]
    rfl

/-- A call keeps what a store knows in step with the registry. -/
theorem Reads.step (h : Reads e groupId (s.glance groupId).1) (htells : Tells e e' payloads)
    (hsteady : Steady e) (hsteady' : Steady e') (hgate : s.lastSequence ≤ e.registry.sequence) :
    Reads e' groupId ((s.receive payloads).glance groupId).1 := by
  rcases glance_tells htells groupId with ⟨hnot, hsame⟩ | ⟨p, hp, rfl, hnext⟩
  · rw [hsame s hgate]
    have hunsaid := htells.unsaid groupId hnot
    have hknown : ∀ m, (s.glance groupId).1 = some m → groupId ∈ e'.openedIds :=
      fun m hheld => htells.grows groupId (h.known m hheld)
    generalize hbefore : e.registry.active.get? groupId = before at hunsaid
    generalize hafter : e'.registry.active.get? groupId = after at hunsaid
    cases hunsaid with
    | same =>
      rw [← hafter] at hbefore
      refine ⟨fun g m hget => h.marked g m (hbefore.trans hget),
        fun g hget => h.unsaid g (hbefore.trans hget),
        fun m hget => h.ended m (hbefore.trans hget), hknown⟩
    | noted g g' hstate hseen hseverity =>
      refine ⟨fun g₁ m hget hheld => ?_, fun g₁ hget hheld => ?_, fun m hget => ?_, hknown⟩
      · rw [hafter] at hget
        cases hget
        rw [h.marked g m hbefore hheld, mark, mark, hstate, hseen]
      · rw [hafter] at hget
        cases hget
        rw [hstate]
        exact h.unsaid g hbefore hheld
      · rw [hafter] at hget
        cases hget
    | opened g hfresh hstate =>
      refine ⟨fun g₁ m _ hheld => absurd (h.known m hheld) hfresh, fun g₁ hget _ => ?_,
        fun m hget => ?_, hknown⟩
      · rw [hafter] at hget
        cases hget
        exact hstate
      · rw [hafter] at hget
        cases hget
  · have hsaid := htells.said p hp
    rw [hnext s hgate, glanceNext_eq h hsaid]
    generalize hbefore : e.registry.active.get? p.groupId = before at hsaid
    generalize hafter : e'.registry.active.get? p.groupId = after at hsaid
    -- the registry has the payload's group now, or none
    have htracked : after = some p.toWarningGroup →
        Reads e' p.groupId
          (if IsNews e p then (some p.toWarningGroup, !p.state.isTerminal)
            else s.glance p.groupId).1 := by
      rintro rfl
      have hopened : p.groupId ∈ e'.openedIds := hsteady'.opened hafter
      by_cases hnews : IsNews e p
      · rw [if_pos hnews]
        refine ⟨fun g m hget hheld => ?_, fun g _ hheld => ?_, fun m hget => ?_, fun _ _ => hopened⟩
        · rw [hafter] at hget
          cases hget
          cases hheld
          rfl
        · cases hheld
        · rw [hafter] at hget
          cases hget
      · rw [if_neg hnews]
        have hmark : (e.registry.active.get? p.groupId).map mark = some (mark p.toWarningGroup) :=
          not_not.mp hnews
        obtain ⟨g₀, hg₀, hmark₀⟩ := Option.map_eq_some_iff.mp hmark
        refine ⟨fun g m hget hheld => ?_, fun g hget hheld => ?_, fun m hget => ?_,
          fun _ _ => hopened⟩
        · rw [hafter] at hget
          cases hget
          exact (h.marked g₀ m hg₀ hheld).trans hmark₀
        · rw [hafter] at hget
          cases hget
          have hstates : g₀.state = p.state := congrArg Prod.fst hmark₀
          exact hstates.symm.trans (h.unsaid g₀ hg₀ hheld)
        · rw [hafter] at hget
          cases hget
    cases hsaid with
    | opened => exact htracked rfl
    | escalated => exact htracked rfl
    | refreshed => exact htracked rfl
    | recovered => exact htracked rfl
    | expired g hlive hstate =>
      have hnews : IsNews e p := by
        rw [IsNews, hbefore]
        intro hmark
        have hstates : g.state = p.state := congrArg Prod.fst (Option.some.inj hmark)
        exact hlive (hstates.trans hstate)
      rw [if_pos hnews]
      refine ⟨fun g₁ m hget => ?_, fun g₁ hget => ?_, fun m _ hheld => ?_, fun _ _ => ?_⟩
      · rw [hafter] at hget
        cases hget
      · rw [hafter] at hget
        cases hget
      · cases hheld
        show p.state.isTerminal = true
        rw [hstate]
        rfl
      · exact htells.grows _ (hsteady.opened hbefore)

/-! ## One call -/

theorem mem_toldAnew {c : Call} :
    groupId ∈ toldAnew e c ↔ ∃ p ∈ e.payloadsOf c, p.groupId = groupId ∧ IsNews e p := by
  simp only [toldAnew, List.mem_map, List.mem_filter, decide_eq_true_eq]
  exact ⟨fun ⟨p, ⟨hp, hnews⟩, hid⟩ => ⟨p, hp, hid, hnews⟩,
    fun ⟨p, hp, hid, hnews⟩ => ⟨p, ⟨hp, hnews⟩, hid⟩⟩

theorem mem_hiddenBy {c : Call} :
    groupId ∈ hiddenBy e c ↔
      groupId ∉ toldAnew e c ∧ ((e.call c).registry.active.get? groupId).isSome ∧
        (e.registry.active.get? groupId).map WarningGroup.severity
          ≠ ((e.call c).registry.active.get? groupId).map WarningGroup.severity := by
  have hkey : groupId ∈ (e.call c).registry.active.keys ↔
      ((e.call c).registry.active.get? groupId).isSome := Dict.mem_iff_get?_isSome
  simp only [hiddenBy, List.mem_filter, decide_eq_true_eq, hkey]
  constructor
  · rintro ⟨hsome, hnot, hne⟩
    exact ⟨hnot, hsome, hne⟩
  · rintro ⟨hnot, hsome, hne⟩
    exact ⟨hsome, hnot, hne⟩

/-- A call leaves what a store has of an id, or it tells news of it: then every store has just
    that. -/
theorem glance_call (hsteady : Steady e) (c : Call) (groupId : String) :
    (groupId ∉ toldAnew e c ∧
        ∀ s : BlockingWarningStore, s.lastSequence ≤ e.registry.sequence →
          Reads e groupId (s.glance groupId).1 →
          (s.receive (e.payloadsOf c)).glance groupId = s.glance groupId) ∨
      groupId ∈ toldAnew e c ∧ ∃ p ∈ e.payloadsOf c, p.groupId = groupId ∧
        ∀ s : BlockingWarningStore, s.lastSequence ≤ e.registry.sequence →
          Reads e groupId (s.glance groupId).1 →
          (s.receive (e.payloadsOf c)).glance groupId
            = (some p.toWarningGroup, !p.state.isTerminal) := by
  have htells := (hsteady.call c).2
  rcases glance_tells htells groupId with ⟨hnot, hsame⟩ | ⟨p, hp, rfl, hnext⟩
  · refine .inl ⟨fun hmem => ?_, fun s hgate _ => hsame s hgate⟩
    obtain ⟨p, hp, hid, -⟩ := mem_toldAnew.mp hmem
    exact hnot (List.mem_map.mpr ⟨p, hp, hid⟩)
  · have hsaid := htells.said p hp
    by_cases hnews : IsNews e p
    · refine .inr ⟨mem_toldAnew.mpr ⟨p, hp, rfl, hnews⟩, p, hp, rfl, fun s hgate hreads => ?_⟩
      rw [hnext s hgate, glanceNext_eq hreads hsaid, if_pos hnews]
    · refine .inl ⟨fun hmem => ?_, fun s hgate hreads => ?_⟩
      · obtain ⟨q, hq, hid, hnewsq⟩ := mem_toldAnew.mp hmem
        have hsame : q = p := List.inj_on_of_nodup_map htells.once hq hp hid
        exact hnews (hsame ▸ hnewsq)
      · rw [hnext s hgate, glanceNext_eq hreads hsaid, if_neg hnews]

/-- The payloads of the calls, in a row. -/
def payloadsAlong (e : BlockingWarningEmitter) : List Call → List BlockingWarningPayload
  | [] => []
  | c :: cs => e.payloadsOf c ++ payloadsAlong (e.call c) cs

theorem dispatched_calls (hsteady : Steady e) (cs : List Call) :
    (e.calls cs).history.dispatched = e.history.dispatched ++ payloadsAlong e cs := by
  induction cs generalizing e with
  | nil => exact (List.append_nil _).symm
  | cons c cs ih =>
    obtain ⟨hsteady', htells⟩ := hsteady.call c
    show ((e.call c).calls cs).history.dispatched = _
    rw [ih hsteady', htells.dispatched, payloadsAlong, List.append_assoc]

/-- Every payload of a call is behind the gate of a store that knows the registry's sequence. -/
theorem gate_call (hsteady : Steady e) (c : Call) (hgate : s.lastSequence ≤ e.registry.sequence) :
    (s.receive (e.payloadsOf c)).lastSequence ≤ (e.call c).registry.sequence := by
  have htells := (hsteady.call c).2
  refine (BlockingWarningStore.receive_glance
    (fun p hmem => Nat.lt_of_le_of_lt hgate (htells.newer p hmem).1) htells.increasing "").2 _
    (Nat.le_trans hgate htells.le) fun p hmem => (htells.newer p hmem).2

/-! ## Both stores -/

/-- The two stores agree about one id. -/
def AgreeAt (held held' : Option WarningGroup × Bool) : Prop :=
  held.2 = held'.2 ∧ (held.2 = true →
    held.1.map (fun g => (g.state, g.severity)) = held'.1.map fun g => (g.state, g.severity))

theorem agree_iff (s s' : BlockingWarningStore) :
    Agree s s' ↔ ∀ groupId, AgreeAt (s.glance groupId) (s'.glance groupId) := by
  have hmem : ∀ (s : BlockingWarningStore) groupId,
      (s.glance groupId).2 = true ↔ groupId ∈ s.activeIds := fun s groupId =>
    List.contains_iff_mem
  constructor
  · rintro ⟨hids, hshown⟩ groupId
    refine ⟨Bool.eq_iff_iff.mpr ?_, fun hactive => hshown groupId ((hmem s groupId).mp hactive)⟩
    rw [hmem, hmem]
    exact hids groupId
  · intro h
    refine ⟨fun groupId => ?_, fun groupId hactive => (h groupId).2 ((hmem s groupId).mpr hactive)⟩
    rw [← hmem, ← hmem, (h groupId).1]

/-- The two stores follow one emitter, and differ in the ids of the list. -/
structure Apart (e : BlockingWarningEmitter) (s s' : BlockingWarningStore)
    (groupIds : List String) : Prop where
  gate : s.lastSequence ≤ e.registry.sequence
  gate' : s'.lastSequence ≤ e.registry.sequence
  reads : ∀ groupId, Reads e groupId (s.glance groupId).1
  reads' : ∀ groupId, Reads e groupId (s'.glance groupId).1
  apart : ∀ groupId, groupId ∈ groupIds ↔ ¬ AgreeAt (s.glance groupId) (s'.glance groupId)

theorem Apart.call {s' : BlockingWarningStore} {groupIds : List String}
    (h : Apart e s s' groupIds) (hsteady : Steady e) (c : Call) :
    Apart (e.call c) (s.receive (e.payloadsOf c)) (s'.receive (e.payloadsOf c))
      (groupIds.filter fun groupId => groupId ∉ toldAnew e c) := by
  obtain ⟨hsteady', htells⟩ := hsteady.call c
  refine ⟨gate_call hsteady c h.gate, gate_call hsteady c h.gate',
    fun groupId => (h.reads groupId).step htells hsteady hsteady' h.gate,
    fun groupId => (h.reads' groupId).step htells hsteady hsteady' h.gate', fun groupId => ?_⟩
  rw [List.mem_filter, decide_eq_true_eq, h.apart groupId]
  rcases glance_call hsteady c groupId with ⟨hnot, hsame⟩ | ⟨hanew, p, -, -, hnext⟩
  · rw [hsame s h.gate (h.reads groupId), hsame s' h.gate' (h.reads' groupId)]
    exact ⟨fun ⟨hdiffer, _⟩ => hdiffer, fun hdiffer => ⟨hdiffer, hnot⟩⟩
  · -- news makes the two agree
    rw [hnext s h.gate (h.reads groupId), hnext s' h.gate' (h.reads' groupId)]
    exact ⟨fun ⟨_, hnot⟩ => absurd hanew hnot, fun hdiffer => absurd ⟨rfl, fun _ => rfl⟩ hdiffer⟩

theorem Apart.calls {s' : BlockingWarningStore} {groupIds : List String}
    (h : Apart e s s' groupIds) (hsteady : Steady e) (cs : List Call) :
    Apart (e.calls cs) (s.receive (payloadsAlong e cs)) (s'.receive (payloadsAlong e cs))
      (stillMisread e groupIds cs) := by
  induction cs generalizing e s s' groupIds with
  | nil => exact h
  | cons c cs ih =>
    rw [payloadsAlong, BlockingWarningStore.receive_append, BlockingWarningStore.receive_append]
    exact ih (h.call hsteady c) (hsteady.call c).1

/-! ## Up to the hydration -/

theorem rank_inj {severity severity' : BlockingSeverity} (h : severity.rank = severity'.rank) :
    severity = severity' := by
  cases severity <;> cases severity' <;> first | rfl | cases h

/-- The store has folded the payloads so far, and its severities are those of the registry but in
    the ids of the list.  Behind one mark a severity moves in one direction only, so it does not
    come back. -/
structure Folded (e : BlockingWarningEmitter) (s : BlockingWarningStore)
    (groupIds : List String) : Prop where
  gate : s.lastSequence ≤ e.registry.sequence
  reads : ∀ groupId, Reads e groupId (s.glance groupId).1
  active : ∀ groupId,
    (s.glance groupId).2 = (s.glance groupId).1.any fun m => !m.state.isTerminal
  untracked : ∀ groupId, e.registry.active.get? groupId = none → groupId ∉ groupIds
  severity : ∀ groupId g, e.registry.active.get? groupId = some g →
    (groupId ∈ groupIds ↔ (s.glance groupId).1.map WarningGroup.severity ≠ some g.severity)
  drift : ∀ groupId g m, e.registry.active.get? groupId = some g →
    (s.glance groupId).1 = some m →
      (g.state = .escalating → m.severity.rank ≤ g.severity.rank) ∧
        (g.state = .active → g.severity.rank ≤ m.severity.rank)

theorem folded_new (runtimeId : String) (configuration : BlockingWarningConfiguration) :
    Folded (.new runtimeId configuration) {} [] where
  gate := Nat.le_refl 0
  reads _ := ⟨fun _ _ _ hheld => (Option.some_ne_none _ hheld.symm).elim,
    fun _ hget => (Option.some_ne_none _ hget.symm).elim,
    fun _ _ hheld => (Option.some_ne_none _ hheld.symm).elim,
    fun _ hheld => (Option.some_ne_none _ hheld.symm).elim⟩
  active _ := rfl
  untracked _ _ := List.not_mem_nil
  severity _ _ hget := (Option.some_ne_none _ hget.symm).elim
  drift _ _ _ hget := (Option.some_ne_none _ hget.symm).elim

/-- Of one id, held as `held` and tracked as `now`: it is `listed` exactly if it is tracked and the
    severities differ, and behind one mark they have moved in one direction. -/
structure Lists (listed : Prop) (held now : Option WarningGroup) : Prop where
  untracked : now = none → ¬ listed
  severity : ∀ g, now = some g → (listed ↔ held.map WarningGroup.severity ≠ some g.severity)
  drift : ∀ g m, now = some g → held = some m →
    (g.state = .escalating → m.severity.rank ≤ g.severity.rank) ∧
      (g.state = .active → g.severity.rank ≤ m.severity.rank)

variable {listed : Prop} {held now now' : Option WarningGroup}

/-- A group that is tracked still, at another severity if it is `moved`. -/
theorem Lists.of_tracked {g' : WarningGroup}
    (hseverity : listed ∨ now.map WarningGroup.severity ≠ some g'.severity ↔
      held.map WarningGroup.severity ≠ some g'.severity)
    (hdrift : ∀ m, held = some m → (g'.state = .escalating → m.severity.rank ≤ g'.severity.rank) ∧
      (g'.state = .active → g'.severity.rank ≤ m.severity.rank)) :
    Lists (listed ∨ (some g').isSome ∧
      now.map WarningGroup.severity ≠ (some g').map WarningGroup.severity) held (some g') := by
  refine ⟨fun hnone => absurd hnone (Option.some_ne_none _), fun g hg => ?_, fun g m hg => ?_⟩
  · cases hg
    rw [← hseverity]
    exact or_congr_right (and_iff_right rfl)
  · cases hg
    exact hdrift m

/-- A payload that repeats the mark of its group moves the severity on, and is not taken. -/
theorem Lists.repeated {openedIds : List String} {p : BlockingWarningPayload}
    (h : Lists listed held now) (hsaid : Said openedIds p now now')
    (hmark : now.map mark = some (mark p.toWarningGroup))
    (hunsaid : ∀ g, now = some g → held = none → g.state = .opened) :
    Lists (listed ∨ now'.isSome ∧
      now.map WarningGroup.severity ≠ now'.map WarningGroup.severity) held now' := by
  obtain ⟨g, rfl, hmarks⟩ := Option.map_eq_some_iff.mp hmark
  have hstates : g.state = p.state := congrArg Prod.fst hmarks
  have hseverity := h.severity g rfl
  have hsome : p.state ≠ .opened → ∃ m, held = some m := by
    intro hstate
    cases held with
    | some m => exact ⟨m, rfl⟩
    | none => exact absurd (hstates.symm.trans (hunsaid g rfl rfl)) hstate
  cases hsaid with
  | escalated _ hlive hstate hrank =>
    obtain ⟨m, rfl⟩ := hsome (by simp [hstate])
    have hle := (h.drift g m rfl rfl).1 (hstates.trans hstate)
    have hne : m.severity ≠ p.severity := fun heq => by
      rw [← heq] at hrank
      omega
    have hne' : g.severity ≠ p.severity := fun heq => by
      rw [heq] at hrank
      omega
    refine .of_tracked ⟨fun _ heq => hne (Option.some.inj heq), fun _ => .inr fun heq => ?_⟩
      fun m' hm' => ?_
    · exact hne' (Option.some.inj heq)
    · cases hm'
      refine ⟨fun _ => Nat.le_trans hle (Nat.le_of_lt hrank), fun hactive => ?_⟩
      cases hstate.symm.trans hactive
  | refreshed _ hlive hstate hrank =>
    obtain ⟨m, rfl⟩ := hsome (by simp [hstate])
    have hle := (h.drift g m rfl rfl).2 (hstates.trans hstate)
    -- the severity sinks from the store's to the group's to the payload's
    have hsame : m.severity = p.severity → m.severity = g.severity := by
      intro heq
      refine rank_inj (Nat.le_antisymm ?_ hle)
      rw [heq]
      exact hrank
    refine .of_tracked ⟨fun hor heq => ?_, fun hne => ?_⟩ fun m' hm' => ?_
    · have heq' := hsame (Option.some.inj heq)
      obtain hlisted | hchanged := hor
      · exact hseverity.mp hlisted (congrArg some heq')
      · exact hchanged (congrArg some (heq'.symm.trans (Option.some.inj heq)))
    · by_cases hchanged : m.severity = g.severity
      · refine .inr fun heq => hne ?_
        exact congrArg some (hchanged.trans (Option.some.inj heq))
      · exact .inl (hseverity.mpr fun heq => hchanged (Option.some.inj heq))
    · cases hm'
      refine ⟨fun hescalating => ?_, fun _ => Nat.le_trans hrank hle⟩
      cases hstate.symm.trans hescalating
  | recovered _ hlive hstate =>
    rw [hstates, hstate] at hlive
    cases hlive
  | expired _ hlive hstate => exact absurd (hstates.trans hstate) hlive

/-- Where no payload speaks of the group it keeps its severity, or it is new. -/
theorem Lists.unsaid {openedIds : List String} (h : Lists listed held now)
    (hunsaid : Unsaid openedIds groupId now now')
    (hknown : ∀ m, held = some m → groupId ∈ openedIds) :
    Lists (listed ∨ now'.isSome ∧
      now.map WarningGroup.severity ≠ now'.map WarningGroup.severity) held now' := by
  cases hunsaid with
  | same =>
    have hiff : (listed ∨ now.isSome ∧
        now.map WarningGroup.severity ≠ now.map WarningGroup.severity) ↔ listed :=
      ⟨fun hor => hor.resolve_right fun hmoved => hmoved.2 rfl, .inl⟩
    rw [hiff]
    exact h
  | noted g g' hstate hseen hseverity =>
    refine .of_tracked ?_ fun m hm => ?_
    · rw [hseverity, ← h.severity g rfl]
      exact ⟨fun hor => hor.resolve_right fun hmoved => hmoved rfl, .inl⟩
    · rw [hstate, hseverity]
      exact h.drift g m rfl hm
  | opened g hfresh hstate =>
    cases held with
    | none => exact .of_tracked (iff_of_true (.inr (Option.some_ne_none _).symm)
        (Option.some_ne_none _).symm) fun m hm => absurd hm.symm (Option.some_ne_none _)
    | some m => exact absurd (hknown m rfl) hfresh

theorem Folded.lists {groupIds : List String} (h : Folded e s groupIds) (groupId : String) :
    Lists (groupId ∈ groupIds) (s.glance groupId).1 (e.registry.active.get? groupId) :=
  ⟨h.untracked groupId, h.severity groupId, h.drift groupId⟩

/-- The severities of one id behind a call that tells no news of it. -/
theorem Folded.untold {groupIds : List String} (h : Folded e s groupIds) (hsteady : Steady e)
    {c : Call} (hnot : groupId ∉ toldAnew e c) :
    Lists (groupId ∈ groupIds ∨ groupId ∈ hiddenBy e c) (s.glance groupId).1
      ((e.call c).registry.active.get? groupId) := by
  have htells := (hsteady.call c).2
  have hreads := h.reads groupId
  rw [mem_hiddenBy, and_iff_right hnot]
  by_cases hmem : groupId ∈ (e.payloadsOf c).map fun p => p.groupId
  · -- the payload is a repeat: the mark of the group is the payload's
    obtain ⟨p, hp, rfl⟩ := List.mem_map.mp hmem
    refine (h.lists p.groupId).repeated (htells.said p hp) ?_ hreads.unsaid
    by_contra hnews
    exact hnot (mem_toldAnew.mpr ⟨p, hp, rfl, hnews⟩)
  · exact (h.lists groupId).unsaid (htells.unsaid groupId hmem) hreads.known

theorem Folded.call {groupIds : List String} (h : Folded e s groupIds) (hsteady : Steady e)
    (c : Call) :
    Folded (e.call c) (s.receive (e.payloadsOf c))
      (groupIds.filter (fun groupId => groupId ∉ toldAnew e c) ++ hiddenBy e c) := by
  obtain ⟨hsteady', htells⟩ := hsteady.call c
  have hids : ∀ groupId, groupId ∉ toldAnew e c →
      (groupId ∈ groupIds.filter (fun groupId => groupId ∉ toldAnew e c) ++ hiddenBy e c ↔
        groupId ∈ groupIds ∨ groupId ∈ hiddenBy e c) := by
    intro groupId hnot
    rw [List.mem_append, List.mem_filter, decide_eq_true_eq]
    exact or_congr_left ⟨fun hmem => hmem.1, fun hmem => ⟨hmem, hnot⟩⟩
  have hnews : ∀ groupId, groupId ∈ toldAnew e c →
      groupId ∉ groupIds.filter (fun groupId => groupId ∉ toldAnew e c) ++ hiddenBy e c := by
    intro groupId hanew hmem
    rcases List.mem_append.mp hmem with hmem | hmem
    · exact of_decide_eq_true (List.mem_filter.mp hmem).2 hanew
    · exact (mem_hiddenBy.mp hmem).1 hanew
  -- of what news tells, the registry has the payload's group, or none
  have htold : ∀ p ∈ e.payloadsOf c, ∀ g,
      (e.call c).registry.active.get? p.groupId = some g → g = p.toWarningGroup := by
    intro p hp g hget
    have hsaid := htells.said p hp
    rw [hget] at hsaid
    generalize e.registry.active.get? p.groupId = before at hsaid
    cases hsaid <;> rfl
  refine ⟨gate_call hsteady c h.gate,
    fun groupId => (h.reads groupId).step htells hsteady hsteady' h.gate, ?_, ?_, ?_, ?_⟩
  · intro groupId
    rcases glance_call hsteady c groupId with ⟨-, hsame⟩ | ⟨-, p, -, -, hnext⟩
    · rw [hsame s h.gate (h.reads groupId)]
      exact h.active groupId
    · rw [hnext s h.gate (h.reads groupId)]
      rfl
  · intro groupId hget
    rcases glance_call hsteady c groupId with ⟨hnot, -⟩ | ⟨hanew, -⟩
    · rw [hids groupId hnot, not_or]
      exact not_or.mp ((h.untold hsteady hnot).untracked hget)
    · exact hnews groupId hanew
  · intro groupId g hget
    rcases glance_call hsteady c groupId with ⟨hnot, hsame⟩ | ⟨hanew, p, hp, rfl, hnext⟩
    · rw [hids groupId hnot, hsame s h.gate (h.reads groupId)]
      exact (h.untold hsteady hnot).severity g hget
    · rw [hnext s h.gate (h.reads _), htold p hp g hget]
      exact ⟨fun hmem => absurd hmem (hnews _ hanew), fun hne => absurd rfl hne⟩
  · intro groupId g m hget hheld
    rcases glance_call hsteady c groupId with ⟨hnot, hsame⟩ | ⟨hanew, p, hp, rfl, hnext⟩
    · rw [hsame s h.gate (h.reads groupId)] at hheld
      exact (h.untold hsteady hnot).drift g m hget hheld
    · rw [hnext s h.gate (h.reads _)] at hheld
      cases hheld
      rw [htold p hp g hget]
      exact ⟨fun _ => Nat.le_refl _, fun _ => Nat.le_refl _⟩

theorem Folded.calls {groupIds : List String} (h : Folded e s groupIds) (hsteady : Steady e)
    (cs : List Call) :
    Folded (e.calls cs) (s.receive (payloadsAlong e cs)) (behind e groupIds cs) := by
  induction cs generalizing e s groupIds with
  | nil => exact h
  | cons c cs ih =>
    rw [payloadsAlong, BlockingWarningStore.receive_append]
    exact ih (h.call hsteady c) (hsteady.call c).1

/-! ## The hydration -/

theorem get?_foldl_set (groups : List WarningGroup) (d : Dict String WarningGroup)
    (groupId : String) :
    (groups.foldl (fun d g => d.set g.groupId g) d).get? groupId
      = ((groups.filter fun g => g.groupId = groupId).getLast?).or (d.get? groupId) := by
  induction groups generalizing d with
  | nil => rfl
  | cons g groups ih =>
    rw [List.foldl_cons, ih]
    by_cases hid : g.groupId = groupId
    · rw [List.filter_cons_of_pos (by simpa using hid), List.getLast?_cons, hid,
        Dict.get?_set_self]
      cases (groups.filter fun g => g.groupId = groupId).getLast? <;> rfl
    · rw [List.filter_cons_of_neg (by simpa using hid), Dict.get?_set_of_ne _ _ (Ne.symm hid)]

/-- A loop that files each group and lists its id, wherever it keeps the list. -/
theorem foldl_file (result : Dict String WarningGroup → List String → HydrationResult)
    {f : HydrationResult → WarningGroup → HydrationResult}
    (hf : ∀ groupsById ids group, f (result groupsById ids) group
      = result (groupsById.set group.groupId group) (ids ++ [group.groupId]))
    (groups : List WarningGroup) (groupsById : Dict String WarningGroup) (ids : List String) :
    groups.foldl f (result groupsById ids)
      = result (groups.foldl (fun d g => d.set g.groupId g) groupsById)
          (ids ++ groups.map WarningGroup.groupId) := by
  induction groups generalizing groupsById ids with
  | nil =>
    rw [List.map_nil, List.append_nil]
    rfl
  | cons group groups ih =>
    rw [List.foldl_cons, hf, ih, List.append_assoc]
    rfl

theorem reduceHydration_eq (snapshot : BlockingWarningEmitterSnapshot) :
    reduceHydration snapshot =
      { groupsById := snapshot.recentGroups.foldl (fun d g => d.set g.groupId g)
          (snapshot.activeGroups.foldl (fun d g => d.set g.groupId g) .empty)
        activeIds := snapshot.activeGroups.map WarningGroup.groupId
        recentIds := snapshot.recentGroups.map WarningGroup.groupId } := by
  rw [reduceHydration, foldl_file (fun d ids => ⟨d, ids, []⟩) (fun _ _ _ => rfl),
    foldl_file (fun d ids => ⟨d, _, ids⟩) (fun _ _ _ => rfl)]
  rfl

/-- What a hydration reads of one id: a tracked group as it is, and as active; else one that has
    expired, or nothing. -/
theorem glance_hydrateSnapshot (hsteady : Steady e) (s : BlockingWarningStore)
    (groupId : String) :
    (∀ g, e.registry.active.get? groupId = some g →
        (s.hydrateSnapshot (emitterSnapshot e)).glance groupId = (some g, true)) ∧
      (e.registry.active.get? groupId = none →
        ((s.hydrateSnapshot (emitterSnapshot e)).glance groupId).2 = false ∧
          ∀ m, ((s.hydrateSnapshot (emitterSnapshot e)).glance groupId).1 = some m →
            m.state = .expired ∧ groupId ∈ e.openedIds) := by
  have hglance : (s.hydrateSnapshot (emitterSnapshot e)).glance groupId =
      (((e.registry.recent.items.filter fun g => g.groupId = groupId).getLast?).or
          (((e.registry.active.values.filter fun g => g.groupId = groupId).getLast?).or none),
        (e.registry.active.values.map WarningGroup.groupId).contains groupId) := by
    show ((reduceHydration (emitterSnapshot e)).groupsById.get? groupId,
      (reduceHydration (emitterSnapshot e)).activeIds.contains groupId) = _
    rw [reduceHydration_eq, get?_foldl_set, get?_foldl_set]
    rfl
  have hvalue : ∀ m ∈ e.registry.active.values, e.registry.active.get? m.groupId = some m := by
    intro m hmem
    obtain ⟨id, hget⟩ := Dict.mem_values_iff.mp hmem
    rw [(hsteady.kept.filed id m hget).1]
    exact hget
  have hring : ∀ m, (e.registry.recent.items.filter fun g => g.groupId = groupId).getLast? = some m →
      m.state = .expired ∧ e.registry.active.get? groupId = none ∧ groupId ∈ e.openedIds := by
    intro m hlast
    obtain ⟨hmem, hid⟩ := List.mem_filter.mp (List.mem_of_getLast? hlast)
    rw [← of_decide_eq_true hid]
    exact hsteady.retired m hmem
  have hfiled : ∀ m, (e.registry.active.values.filter fun g => g.groupId = groupId).getLast? = some m →
      e.registry.active.get? groupId = some m := by
    intro m hlast
    obtain ⟨hmem, hid⟩ := List.mem_filter.mp (List.mem_of_getLast? hlast)
    have hget := hvalue m hmem
    rwa [of_decide_eq_true hid] at hget
  rw [hglance]
  constructor
  · intro g hget
    have hmem : g ∈ e.registry.active.values := Dict.mem_values_iff.mpr ⟨groupId, hget⟩
    have hid : g.groupId = groupId := (hsteady.kept.filed groupId g hget).1
    have hnone : (e.registry.recent.items.filter fun g => g.groupId = groupId).getLast? = none := by
      cases hlast : (e.registry.recent.items.filter fun g => g.groupId = groupId).getLast? with
      | none => rfl
      | some m => exact absurd ((hring m hlast).2.1.symm.trans hget) (Option.some_ne_none _).symm
    have hsome : (e.registry.active.values.filter fun g => g.groupId = groupId).getLast?
        = some g := by
      cases hlast : (e.registry.active.values.filter fun g => g.groupId = groupId).getLast? with
      | none =>
        rw [List.getLast?_eq_none_iff, List.filter_eq_nil_iff] at hlast
        exact absurd (decide_eq_true hid) (hlast g hmem)
      | some m => exact (hfiled m hlast).symm.trans hget
    rw [hnone, hsome]
    refine Prod.ext rfl (List.contains_iff_mem.mpr ?_)
    exact hid ▸ List.mem_map_of_mem hmem
  · intro hget
    constructor
    · refine Bool.eq_false_iff.mpr fun hcontains => ?_
      obtain ⟨m, hmem, hid⟩ := List.mem_map.mp (List.contains_iff_mem.mp hcontains)
      have hsome := hvalue m hmem
      rw [hid, hget] at hsome
      cases hsome
    · intro m hheld
      dsimp only at hheld
      cases hlast : (e.registry.recent.items.filter fun g => g.groupId = groupId).getLast? with
      | some m' =>
        rw [hlast] at hheld
        cases hheld
        exact ⟨(hring m hlast).1, (hring m hlast).2.2⟩
      | none =>
        rw [hlast, Option.none_or, Option.or_none] at hheld
        rw [hfiled m hheld] at hget
        cases hget

theorem Folded.hydrated {groupIds : List String} (h : Folded e s groupIds) (hsteady : Steady e)
    (store : BlockingWarningStore) :
    Apart e s (store.hydrateSnapshot (emitterSnapshot e))
      ((e.registry.active.keys.filter fun groupId =>
        (e.registry.active.get? groupId).any fun g => g.state.isTerminal) ++ groupIds) := by
  refine ⟨h.gate, Nat.zero_le _, h.reads, fun groupId => ?_, fun groupId => ?_⟩
  · obtain ⟨htracked, hother⟩ := glance_hydrateSnapshot hsteady store groupId
    refine ⟨fun g m hget hheld => ?_, fun g hget hheld => ?_, fun m hget hheld => ?_,
      fun m hheld => ?_⟩
    · rw [htracked g hget] at hheld
      cases hheld
      rfl
    · rw [htracked g hget] at hheld
      cases hheld
    · rw [((hother hget).2 m hheld).1]
      rfl
    · cases hget : e.registry.active.get? groupId with
      | some g => exact hsteady.opened hget
      | none => exact ((hother hget).2 m hheld).2
  · obtain ⟨htracked, hother⟩ := glance_hydrateSnapshot hsteady store groupId
    have hreads := h.reads groupId
    have hactive := h.active groupId
    have hwaiting : groupId ∈ (e.registry.active.keys.filter fun groupId =>
        (e.registry.active.get? groupId).any fun g => g.state.isTerminal) ↔
          (e.registry.active.get? groupId).any (fun g => g.state.isTerminal) = true := by
      rw [List.mem_filter]
      refine ⟨fun hmem => hmem.2, fun hany => ⟨?_, hany⟩⟩
      refine Dict.mem_iff_get?_isSome.mpr ?_
      cases hget : e.registry.active.get? groupId with
      | none =>
        rw [hget] at hany
        cases hany
      | some g => rfl
    rw [List.mem_append, hwaiting]
    cases hget : e.registry.active.get? groupId with
    | none =>
      -- an id that is not tracked is active on neither side
      have hinactive : (s.glance groupId).2 = false := by
        rw [hactive]
        cases hheld : (s.glance groupId).1 with
        | none => rfl
        | some m =>
          rw [Option.any_some, hreads.ended m hget hheld]
          rfl
      have hagree : AgreeAt (s.glance groupId)
          ((store.hydrateSnapshot (emitterSnapshot e)).glance groupId) := by
        refine ⟨hinactive.trans (hother hget).1.symm, fun htrue => ?_⟩
        rw [hinactive] at htrue
        cases htrue
      refine ⟨fun hor => ?_, fun hnot => absurd hagree hnot⟩
      rcases hor with hany | hmem
      · cases hany
      · exact absurd hmem (h.untracked groupId hget)
    | some g =>
      rw [htracked g hget, h.severity groupId g hget, AgreeAt, hactive, Option.any_some]
      cases hheld : (s.glance groupId).1 with
      | none =>
        refine ⟨fun _ hagree => ?_, fun _ => .inr (Option.some_ne_none _).symm⟩
        cases hagree.1
      | some m =>
        have hmark := hreads.marked g m hget hheld
        have hstate : m.state = g.state := congrArg Prod.fst hmark
        rw [Option.any_some, hstate, Option.map_some, Option.map_some, Option.map_some, hstate]
        cases hterminal : g.state.isTerminal with
        | true =>
          refine ⟨fun _ hagree => ?_, fun _ => .inl rfl⟩
          cases hagree.1
        | false =>
          constructor
          · rintro (hfalse | hne) ⟨-, hshown⟩
            · cases hfalse
            · exact hne (congrArg some (congrArg Prod.snd (Option.some.inj (hshown rfl))))
          · refine fun hnot => .inr fun heq => hnot ⟨rfl, fun _ => ?_⟩
            rw [Option.some.inj heq]

/-! ## The two panels -/

/-- At zero cooldowns the panel that has folded every payload and one that was hydrated at a cut
    agree behind any further calls exactly where every group that the cut has left misread has
    been told of anew. -/
theorem agree_iff_stillMisread (runtimeId : String) (configuration : BlockingWarningConfiguration)
    (hcooldowns : configuration.cooldowns = ⟨0, 0, 0, 0, 0⟩) (before after : List Call)
    (store : BlockingWarningStore) :
    let start := BlockingWarningEmitter.new runtimeId configuration
    let cut := start.calls before
    let now := cut.calls after
    Agree (BlockingWarningStore.receive {} now.history.dispatched)
        ((store.hydrateSnapshot (emitterSnapshot cut)).receive
          (now.history.dispatched.drop cut.history.dispatched.length)) ↔
      stillMisread cut (misread start before) after = [] := by
  intro start cut now
  have hsteady : Steady start := steady_new runtimeId hcooldowns
  have hcut : Steady cut := hsteady.calls before
  have hbefore : cut.history.dispatched = payloadsAlong start before :=
    (dispatched_calls hsteady before).trans (List.nil_append _)
  have hnow : now.history.dispatched = cut.history.dispatched ++ payloadsAlong cut after :=
    dispatched_calls hcut after
  have hfolded := (folded_new runtimeId configuration).calls hsteady before
  have hapart := (hfolded.hydrated hcut store).calls hcut after
  rw [hnow, List.drop_left, BlockingWarningStore.receive_append, hbefore, agree_iff,
    List.eq_nil_iff_forall_not_mem]
  exact forall_congr' fun groupId =>
    ⟨fun hagree hmem => (hapart.apart groupId).mp hmem hagree,
      fun hnot => not_not.mp fun hdiffer => hnot ((hapart.apart groupId).mpr hdiffer)⟩

/-- A window opens and closes. -/
def closedWindow : List Call :=
  [.onDetection ⟨10, 1, 500, .critical, true, ⟨some "rt:bw:1", none, none, some "rt:bw:1"⟩⟩
      fun _ => false,
    .onDetection ⟨20, 2, 0, .none, false, ⟨none, none, some "rt:bw:1", none⟩⟩ fun _ => false]

/-- The default configuration with no cooldown. -/
def noCooldowns : BlockingWarningConfiguration :=
  { BlockingWarningConfiguration.default with activeCooldownNs := 0 }

/-- The hydrated panel counts the recovered group as active, the other one does not. -/
theorem not_agree_closedWindow :
    let cut := (BlockingWarningEmitter.new "rt" noCooldowns).calls closedWindow
    ¬ Agree (BlockingWarningStore.receive {} cut.history.dispatched)
      (BlockingWarningStore.hydrateSnapshot {} (emitterSnapshot cut)) := by
  intro cut h
  have hids := h.ids "bw:rt:1"
  revert hids
  decide

/-- Until it expires. -/
theorem agree_iff_stillMisread_expired :
    let cut := (BlockingWarningEmitter.new "rt" noCooldowns).calls closedWindow
    let now := cut.calls [.sweepExpirations (some 40000000000) fun _ => false]
    Agree (BlockingWarningStore.receive {} now.history.dispatched)
      ((BlockingWarningStore.hydrateSnapshot {} (emitterSnapshot cut)).receive
        (now.history.dispatched.drop cut.history.dispatched.length)) :=
  (agree_iff_stillMisread "rt" noCooldowns rfl closedWindow
    [.sweepExpirations (some 40000000000) fun _ => false] {}).mpr (by decide)

end AsyncViz.Frontend.Blocking
