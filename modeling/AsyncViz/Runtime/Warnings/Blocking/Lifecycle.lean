/-
  AsyncViz.Runtime.Warnings.Blocking.Lifecycle

  The life of a warning group over whole runs of the emitter: its id is its own, its transitions
  come in order, its window has no other group that has not recovered, and it recovers when the
  window is closed.

  Three things break this, and `Sound` leaves out no more than them: a registry that is swapped
  starts counting again, a close is not heard while the emitter is off, and an outcome that only
  closes a window may open a group for it.
-/

import AsyncViz.Lib.Transition
import AsyncViz.Runtime.Warnings.Blocking.Phases

namespace AsyncViz.Runtime.Warnings.Blocking

open AsyncViz.Lib AsyncViz.Lib.Transition

/-! ## The invariant -/

/-- What the payloads that were handed to the router say. -/
structure Told (h : History) (sequence : Nat) : Prop where
  known : ∀ p ∈ h.dispatched, p.groupId ∈ h.opened.map WarningGroup.groupId
  bounded : ∀ p ∈ h.dispatched, p.sequence ≤ sequence
  increasing : h.dispatched.Pairwise fun p q => p.sequence < q.sequence
  ordered : h.dispatched.Pairwise fun p q =>
    p.groupId = q.groupId → p.transition.Precedes q.transition

/-- The invariant of the emitter, given the windows that have been reported closed. -/
structure Kept (e : BlockingWarningEmitter) (closed : List String) : Prop where
  idle : e.inDispatch = false
  filed : ∀ id g, e.registry.active.get? id = some g →
    g.groupId = id ∧ g.state ≠ .expired ∧ g.origin ∈ e.history.opened.map WarningGroup.origin
  numbered : ∀ g ∈ e.history.opened, ∃ n, 0 < n ∧ n ≤ e.registry.sequence ∧
    g.groupId = BlockingWarningEmitter.warningIdOf e.runtimeId n
  unique : (e.history.opened.map WarningGroup.groupId).Nodup
  tracked : ∀ g ∈ e.history.opened,
    (∃ g', e.registry.active.get? g.groupId = some g' ∧ g'.origin = g.origin) ∨
      g.origin ∈ e.history.expired.map WarningGroup.origin
  indexed : ∀ id g, e.registry.active.get? id = some g → g.state.isTerminal = false →
    e.registry.byWindow.get? g.key = some id
  ended : ∀ id g, e.registry.active.get? id = some g → ∀ windowId ∈ closed,
    g.windowId = some windowId → g.state.isTerminal = true
  told : Told e.history e.registry.sequence
  phased : ∀ p ∈ e.history.dispatched, ∀ g, e.registry.active.get? p.groupId = some g →
    p.transition.phase ≤ g.state.phase

variable {e : BlockingWarningEmitter} {closed : List String} {g : WarningGroup} {id : String}

/-- One more payload may be told of a group that was opened if its transition may follow those
    already told. -/
theorem Told.snoc {h : History} {sequence : Nat} (htold : Told h sequence)
    (p : BlockingWarningPayload) (hknown : p.groupId ∈ h.opened.map WarningGroup.groupId)
    (hseq : sequence < p.sequence)
    (hbefore : ∀ q ∈ h.dispatched, q.groupId = p.groupId → q.transition.Precedes p.transition) :
    Told { h with dispatched := h.dispatched ++ [p] } p.sequence where
  known q hq := by
    rcases List.mem_append.mp hq with hq | hq
    · exact htold.known q hq
    · rw [List.mem_singleton.mp hq]
      exact hknown
  bounded q hq := by
    rcases List.mem_append.mp hq with hq | hq
    · exact Nat.le_of_lt (Nat.lt_of_le_of_lt (htold.bounded q hq) hseq)
    · rw [List.mem_singleton.mp hq]
  increasing := by
    refine List.pairwise_append.mpr ⟨htold.increasing, List.pairwise_singleton _ _, ?_⟩
    intro q hq q' hq'
    rw [List.mem_singleton.mp hq']
    exact Nat.lt_of_le_of_lt (htold.bounded q hq) hseq
  ordered := by
    refine List.pairwise_append.mpr ⟨htold.ordered, List.pairwise_singleton _ _, ?_⟩
    intro q hq q' hq' hsame
    rw [List.mem_singleton.mp hq'] at hsame ⊢
    exact hbefore q hq hsame

theorem Told.mono {h : History} {m n : Nat} (htold : Told h m) (hle : m ≤ n) : Told h n :=
  { htold with bounded := fun p hp => Nat.le_trans (htold.bounded p hp) hle }

/-- An id that is yet to be given out is new. -/
theorem Kept.fresh (h : Kept e closed) :
    BlockingWarningEmitter.warningIdOf e.runtimeId (e.registry.sequence + 1)
      ∉ e.history.opened.map WarningGroup.groupId := by
  intro hmem
  obtain ⟨g, hg, hid⟩ := List.mem_map.mp hmem
  obtain ⟨n, -, hle, hn⟩ := h.numbered g hg
  have hsame := BlockingWarningEmitter.warningIdOf_inj (hn.symm.trans hid)
  omega

theorem Kept.mem_opened (h : Kept e closed) (hget : e.registry.active.get? id = some g) :
    id ∈ e.history.opened.map WarningGroup.groupId := by
  obtain ⟨hid, -, horigin⟩ := h.filed id g hget
  obtain ⟨g₀, hg₀, hsame⟩ := List.mem_map.mp horigin
  exact List.mem_map.mpr ⟨g₀, hg₀, (WarningGroup.groupId_of_origin hsame).trans hid⟩

/-- An open group is the one that its key finds. -/
theorem Kept.find_key (h : Kept e closed) (hget : e.registry.active.get? id = some g)
    (hopen : g.state.isTerminal = false) : e.registry.findByWindowId g.key = some g := by
  rw [WarningGroupRegistry.findByWindowId, h.indexed id g hget hopen]
  exact hget

/-! ## What one emission does -/

namespace BlockingWarningEmitter

/-- A transition that is emitted counts on, and is handed to the router unless it is suppressed
    or denied; the groups stay as they are. -/
theorem emitTransition_cases (hidle : e.inDispatch = false)
    (raises : BlockingWarningPayload → Bool) (g : WarningGroup) (t : Transition) (ns : Int) :
    ∃ dedup backpressure sequence dispatched,
      (e.emitTransition raises g t ns).2 =
        { e with
          registry := { e.registry with sequence := sequence }
          dedup := dedup
          backpressure := backpressure
          history := { e.history with dispatched := dispatched } } ∧
      e.registry.sequence ≤ sequence ∧
      (dispatched = e.history.dispatched ∨
        e.registry.sequence < sequence ∧
          dispatched = e.history.dispatched ++ [buildPayload g t sequence]) := by
  unfold emitTransition
  generalize e.dedup.checkAndRecord g.groupId t ns = check
  obtain ⟨suppressed, dedup⟩ := check
  cases suppressed with
  | true => exact ⟨dedup, _, _, _, rfl, Nat.le_refl _, .inl rfl⟩
  | false =>
    show ∃ dedup' backpressure sequence dispatched, _
    generalize hacquire : e.backpressure.acquire = acquired
    obtain ⟨accepted, backpressure⟩ := acquired
    cases accepted with
    | true =>
      refine ⟨dedup, backpressure.release, e.registry.sequence + 1, _, ?_, Nat.le_succ _,
        .inr ⟨Nat.lt_succ_self _, rfl⟩⟩
      simp [hacquire, WarningGroupRegistry.nextSequence, dispatch, hidle]
    | false =>
      refine ⟨dedup, backpressure, e.registry.sequence + 1, _, ?_, Nat.le_succ _, .inl rfl⟩
      simp [hacquire, WarningGroupRegistry.nextSequence]

end BlockingWarningEmitter

variable {raises : BlockingWarningPayload → Bool} {t : Transition} {ns : Int}

theorem Kept.emit (h : Kept e closed) (hget : e.registry.active.get? g.groupId = some g)
    (hbefore : ∀ q ∈ e.history.dispatched, q.groupId = g.groupId → q.transition.Precedes t)
    (hphase : t.phase ≤ g.state.phase) : Kept (e.emitTransition raises g t ns).2 closed := by
  obtain ⟨dedup, backpressure, sequence, dispatched, heq, hle, htold⟩ :=
    e.emitTransition_cases h.idle raises g t ns
  rw [heq]
  have hnumbered : ∀ g ∈ e.history.opened, ∃ n, 0 < n ∧ n ≤ sequence ∧
      g.groupId = BlockingWarningEmitter.warningIdOf e.runtimeId n := by
    intro g hg
    obtain ⟨n, hpos, hn, hid⟩ := h.numbered g hg
    exact ⟨n, hpos, Nat.le_trans hn hle, hid⟩
  rcases htold with rfl | ⟨hlt, rfl⟩
  · exact ⟨h.idle, h.filed, hnumbered, h.unique, h.tracked, h.indexed, h.ended, h.told.mono hle,
      h.phased⟩
  · refine ⟨h.idle, h.filed, hnumbered, h.unique, h.tracked, h.indexed, h.ended,
      h.told.snoc (buildPayload g t sequence) (h.mem_opened hget) hlt hbefore, ?_⟩
    intro p hp g' hg'
    rcases List.mem_append.mp hp with hp | hp
    · exact h.phased p hp g' hg'
    · rw [List.mem_singleton.mp hp] at hg' ⊢
      have hsame : g' = g := Option.some.inj (hg'.symm.trans hget)
      rw [hsame]
      exact hphase

/-- A tracked group may go on to another state, but not back, and not leave. -/
theorem Kept.put (h : Kept e closed) (g' : WarningGroup)
    (hget : e.registry.active.get? g.groupId = some g) (horigin : g'.origin = g.origin)
    (hstate : g'.state ≠ .expired)
    (hphase : g.state.phase ≤ g'.state.phase)
    (hopen : g'.state.isTerminal = false → g.state.isTerminal = false) :
    Kept { e with registry := e.registry.put g' } closed := by
  have hid : g'.groupId = g.groupId := WarningGroup.groupId_of_origin horigin
  -- Under its id the group is the new one, and under every other id nothing changes.
  have hcases : ∀ id g₁, (e.registry.put g').active.get? id = some g₁ →
      id = g.groupId ∧ g₁ = g' ∨ e.registry.active.get? id = some g₁ := by
    intro id g₁ hg₁
    rw [WarningGroupRegistry.put, Dict.get?_set, hid] at hg₁
    split at hg₁
    · exact .inl ⟨‹_›, (Option.some.inj hg₁).symm⟩
    · exact .inr hg₁
  refine ⟨h.idle, ?_, h.numbered, h.unique, ?_, ?_, ?_, h.told, ?_⟩
  · intro id g₁ hg₁
    rcases hcases id g₁ hg₁ with ⟨rfl, rfl⟩ | hg₁
    · refine ⟨hid, hstate, ?_⟩
      rw [horigin]
      exact (h.filed _ g hget).2.2
    · exact h.filed id g₁ hg₁
  · intro g₀ hg₀
    rcases h.tracked g₀ hg₀ with ⟨g₁, hg₁, hsame⟩ | hexpired
    · refine .inl ?_
      by_cases hsame' : g₀.groupId = g.groupId
      · refine ⟨g', ?_, ?_⟩
        · rw [hsame', ← hid]
          exact Dict.get?_set_self _ _ _
        · rw [hsame', hget] at hg₁
          rw [horigin, Option.some.inj hg₁, hsame]
      · refine ⟨g₁, ?_, hsame⟩
        rw [WarningGroupRegistry.put, Dict.get?_set_of_ne _ _ (hid ▸ hsame')]
        exact hg₁
    · exact .inr hexpired
  · intro id g₁ hg₁ hlive
    rcases hcases id g₁ hg₁ with ⟨rfl, rfl⟩ | hg₁
    · rw [WarningGroup.key_of_origin horigin]
      exact h.indexed _ g hget (hopen hlive)
    · exact h.indexed id g₁ hg₁ hlive
  · intro id g₁ hg₁ windowId hclosed hwindow
    rcases hcases id g₁ hg₁ with ⟨rfl, rfl⟩ | hg₁
    · cases hlive : g₁.state.isTerminal with
      | true => rfl
      | false =>
        rw [WarningGroup.windowId_of_origin horigin] at hwindow
        exact absurd (h.ended _ g hget windowId hclosed hwindow) (by simp [hopen hlive])
    · exact h.ended id g₁ hg₁ windowId hclosed hwindow
  · intro p hp g₁ hg₁
    rcases hcases _ g₁ hg₁ with ⟨hpid, rfl⟩ | hg₁
    · exact Nat.le_trans (h.phased p hp g (hpid ▸ hget)) hphase
    · exact h.phased p hp g₁ hg₁

/-! ## The hooks -/

theorem phase_eq_one {s : BlockingWarningGroupState} (h : s.isTerminal = false) : s.phase = 1 := by
  cases s <;> simp [BlockingWarningGroupState.isTerminal, BlockingWarningGroupState.phase] at h ⊢

theorem phase_le_two {s : BlockingWarningGroupState} (h : s ≠ .expired) : s.phase ≤ 2 := by
  cases s <;> simp [BlockingWarningGroupState.phase] at h ⊢

theorem Kept.recover (h : Kept e closed) (hget : e.registry.active.get? g.groupId = some g) :
    Kept (e.finalizeRecovered raises g ns) closed := by
  unfold BlockingWarningEmitter.finalizeRecovered
  split
  · exact h
  · rename_i hstate
    have hopen : g.state.isTerminal = false := by
      have hexpired := (h.filed _ g hget).2.1
      cases hs : g.state <;> simp [hs, BlockingWarningGroupState.isTerminal] at hstate hexpired ⊢
    have hput := h.put (g.markRecovered ns) hget rfl
      (by simp [WarningGroup.markRecovered]) (by
        rw [phase_eq_one hopen]
        exact Nat.le_succ 1) (fun _ => hopen)
    refine hput.emit (Dict.get?_set_self _ _ _) ?_ (Nat.le_refl 2)
    intro q hq hid
    refine .inl (Nat.lt_of_le_of_lt (h.phased q hq g (hid ▸ hget)) ?_)
    rw [phase_eq_one hopen]
    exact Nat.lt_succ_self 1

theorem Kept.refresh (h : Kept e closed) (hget : e.registry.active.get? g.groupId = some g)
    (hopen : g.state.isTerminal = false) (outcome : DetectionOutcome) :
    Kept (e.refresh raises g outcome).2 closed := by
  have hstate := WarningGroup.state_recordObservation hopen outcome.effectiveSeverity
    outcome.lagNs outcome.actualNs outcome.sampleIndex
  have horigin : (g.recordObservation outcome.effectiveSeverity outcome.lagNs outcome.actualNs
      outcome.sampleIndex).origin = g.origin := WarningGroup.origin_recordObservation _ _ _ _
  unfold BlockingWarningEmitter.refresh
  generalize g.recordObservation outcome.effectiveSeverity outcome.lagNs outcome.actualNs
    outcome.sampleIndex = g' at hstate horigin ⊢
  have hid : g'.groupId = g.groupId := WarningGroup.groupId_of_origin horigin
  have hlive : g'.state.isTerminal = false := by rcases hstate with hs | hs <;> rw [hs] <;> rfl
  have hput := h.put g' hget horigin
    (by rcases hstate with hs | hs <;> rw [hs] <;> simp)
    (by rw [phase_eq_one hopen, phase_eq_one hlive]) (fun _ => hopen)
  -- Whatever was told of an open group, it may escalate or be refreshed after it.
  have hbefore : ∀ t : Transition, t.phase = 1 → ∀ q ∈ e.history.dispatched,
      q.groupId = g'.groupId → q.transition.Precedes t := by
    intro t ht q hq hsame
    have hle := h.phased q hq g (by rw [hsame, hid, hget])
    rw [phase_eq_one hopen] at hle
    rw [Transition.Precedes, ht]
    omega
  have hself : (e.registry.put g').active.get? g'.groupId = some g' := Dict.get?_set_self _ _ _
  dsimp only
  split
  · exact hput.emit hself (hbefore _ rfl) (by rw [phase_eq_one hlive]; rfl)
  · exact hput.emit hself (hbefore _ rfl) (by rw [phase_eq_one hlive]; rfl)

/-- What `_open_group` does with the group it has built. -/
def BlockingWarningEmitter.track (e : BlockingWarningEmitter) (g : WarningGroup)
    (windowKey : String) : BlockingWarningEmitter :=
  { e with
    registry := ({ e.registry with sequence := e.registry.sequence + 1 }.add
      { g with windowId := some windowKey }).put g
    history := { e.history with opened := e.history.opened ++ [g] } }

/-- A group may be opened under a key that finds none, for a window that is not closed yet. -/
theorem Kept.track (h : Kept e closed) {windowKey : String}
    (hfind : e.registry.findByWindowId windowKey = none)
    (hid : g.groupId = BlockingWarningEmitter.warningIdOf e.runtimeId (e.registry.sequence + 1))
    (hkey : g.key = windowKey) (hstate : g.state = .opened)
    (hclosed : ∀ windowId, g.windowId = some windowId → windowId ∉ closed) :
    Kept (e.track g windowKey) closed := by
  have hfresh := h.fresh
  rw [← hid] at hfresh
  have hmem : ∀ {α : Type} (f : WarningGroup → α) g₀, g₀ ∈ e.history.opened →
      f g₀ ∈ (e.history.opened ++ [g]).map f := by
    intro α f g₀ hg₀
    exact List.mem_map_of_mem (List.mem_append_left _ hg₀)
  have hself : (e.track g windowKey).registry.active.get? g.groupId = some g :=
    Dict.get?_set_self _ _ _
  have hother : ∀ id, id ≠ g.groupId →
      (e.track g windowKey).registry.active.get? id = e.registry.active.get? id := by
    intro id hne
    exact (Dict.get?_set_of_ne _ _ hne).trans (Dict.get?_set_of_ne _ _ hne)
  have hcases : ∀ id g₁, (e.track g windowKey).registry.active.get? id = some g₁ →
      id = g.groupId ∧ g₁ = g ∨ id ≠ g.groupId ∧ e.registry.active.get? id = some g₁ := by
    intro id g₁ hg₁
    by_cases hsame : id = g.groupId
    · subst hsame
      exact .inl ⟨rfl, (Option.some.inj (hself.symm.trans hg₁)).symm⟩
    · exact .inr ⟨hsame, (hother id hsame).symm.trans hg₁⟩
  refine ⟨h.idle, ?_, ?_, ?_, ?_, ?_, ?_, ?_, ?_⟩
  · intro id g₁ hg₁
    rcases hcases id g₁ hg₁ with ⟨rfl, rfl⟩ | ⟨-, hg₁⟩
    · refine ⟨rfl, by simp [hstate], ?_⟩
      exact List.mem_map_of_mem (List.mem_append_right _ List.mem_cons_self)
    · obtain ⟨hid₁, hexpired, horigin⟩ := h.filed id g₁ hg₁
      obtain ⟨g₀, hg₀, hsame⟩ := List.mem_map.mp horigin
      exact ⟨hid₁, hexpired, hsame ▸ hmem WarningGroup.origin g₀ hg₀⟩
  · intro g₀ hg₀
    rcases List.mem_append.mp hg₀ with hg₀ | hg₀
    · obtain ⟨n, hpos, hle, hn⟩ := h.numbered g₀ hg₀
      exact ⟨n, hpos, Nat.le_succ_of_le hle, hn⟩
    · rw [List.mem_singleton.mp hg₀]
      exact ⟨e.registry.sequence + 1, Nat.succ_pos _, Nat.le_refl _, hid⟩
  · show ((e.history.opened ++ [g]).map WarningGroup.groupId).Nodup
    rw [List.map_append, List.map_singleton, ← List.concat_eq_append]
    exact List.Nodup.concat hfresh h.unique
  · intro g₀ hg₀
    rcases List.mem_append.mp hg₀ with hg₀ | hg₀
    · have hne : g₀.groupId ≠ g.groupId := fun hsame =>
        hfresh (hsame ▸ List.mem_map_of_mem hg₀)
      rw [hother _ hne]
      exact h.tracked g₀ hg₀
    · rw [List.mem_singleton.mp hg₀]
      exact .inl ⟨g, hself, rfl⟩
  · intro id g₁ hg₁ hopen
    rcases hcases id g₁ hg₁ with ⟨rfl, rfl⟩ | ⟨hne, hg₁⟩
    · rw [hkey]
      exact Dict.get?_set_self _ _ _
    · -- No other open group has the key: it would have been found.
      have hkey₁ : g₁.key ≠ windowKey := by
        intro hsame
        have hfound := h.find_key hg₁ hopen
        rw [hsame, hfind] at hfound
        cases hfound
      exact (Dict.get?_set_of_ne _ _ hkey₁).trans (h.indexed id g₁ hg₁ hopen)
  · intro id g₁ hg₁ windowId hwindow hsome
    rcases hcases id g₁ hg₁ with ⟨rfl, rfl⟩ | ⟨-, hg₁⟩
    · exact absurd hwindow (hclosed windowId hsome)
    · exact h.ended id g₁ hg₁ windowId hwindow hsome
  · refine ⟨fun p hp => ?_, fun p hp => Nat.le_succ_of_le (h.told.bounded p hp),
      h.told.increasing, h.told.ordered⟩
    obtain ⟨g₀, hg₀, hsame⟩ := List.mem_map.mp (h.told.known p hp)
    exact hsame ▸ hmem WarningGroup.groupId g₀ hg₀
  · intro p hp g₁ hg₁
    have hne : p.groupId ≠ g.groupId := fun hsame => hfresh (hsame ▸ h.told.known p hp)
    rw [hother _ hne] at hg₁
    exact h.phased p hp g₁ hg₁

theorem Kept.openGroup (h : Kept e closed) (outcome : DetectionOutcome) {windowKey : String}
    (hfind : e.registry.findByWindowId windowKey = none)
    (hclosed : windowKey ≠ noWindowKey → windowKey ∉ closed) :
    Kept (e.openGroup outcome windowKey ns).2 closed := by
  refine h.track hfind rfl (BlockingWarningEmitter.key_newGroup _ _ _ _ _) rfl ?_
  intro windowId hsome
  -- Outside any window the group is shown without a window id.
  simp only [BlockingWarningEmitter.newGroup] at hsome
  split at hsome
  · cases hsome
  · rw [← Option.some.inj hsome]
    exact hclosed ‹_›

/-- The opening is the first that is told of the new group. -/
theorem Kept.openAndTell (h : Kept e closed) (outcome : DetectionOutcome) {windowKey : String}
    (hfind : e.registry.findByWindowId windowKey = none)
    (hclosed : windowKey ≠ noWindowKey → windowKey ∉ closed) :
    Kept ((e.openGroup outcome windowKey ns).2.emitTransition raises
      (e.openGroup outcome windowKey ns).1 .opened ns).2 closed := by
  refine (h.openGroup outcome hfind hclosed).emit (Dict.get?_set_self _ _ _) ?_ (Nat.zero_le _)
  intro q hq hsame
  have hknown := h.told.known q hq
  rw [hsame] at hknown
  exact absurd hknown h.fresh

/-! ## Closing a window -/

/-- Once the group that a window finds has ended, the window counts as closed. -/
theorem Kept.close (h : Kept e closed) {windowId : String}
    (hended : ∀ g, e.registry.findByWindowId windowId = some g → g.state.isTerminal = true) :
    Kept e (closed ++ [windowId]) := by
  refine { h with ended := fun id g hget windowId' hwindow hsome => ?_ }
  rcases List.mem_append.mp hwindow with hwindow | hwindow
  · exact h.ended id g hget windowId' hwindow hsome
  · rw [List.mem_singleton.mp hwindow] at hsome
    cases hopen : g.state.isTerminal with
    | true => rfl
    | false =>
      have hfound := h.find_key hget hopen
      rw [WarningGroup.key, hsome] at hfound
      exact absurd (hended g hfound) (by simp [hopen])

theorem Kept.get_found (h : Kept e closed) {windowId : String}
    (hfind : e.registry.findByWindowId windowId = some g) :
    e.registry.active.get? g.groupId = some g := by
  obtain ⟨id, -, hget⟩ := Option.bind_eq_some_iff.mp hfind
  rw [(h.filed id g hget).1]
  exact hget

/-- The window still finds its group, and the group has ended. -/
theorem Kept.finalizeRecovered_found (h : Kept e closed) {windowId : String}
    (hfind : e.registry.findByWindowId windowId = some g)
    (raises : BlockingWarningPayload → Bool) (ns : Int) :
    ∃ g', (e.finalizeRecovered raises g ns).registry.findByWindowId windowId = some g' ∧
      g'.state.isTerminal = true := by
  unfold BlockingWarningEmitter.finalizeRecovered
  split
  · rename_i hstate
    exact ⟨g, hfind, by rw [hstate]; rfl⟩
  · have hidle : { e with registry := e.registry.put (g.markRecovered ns) }.inDispatch = false :=
      h.idle
    obtain ⟨dedup, backpressure, sequence, dispatched, heq, -, -⟩ :=
      BlockingWarningEmitter.emitTransition_cases hidle raises (g.markRecovered ns) .recovered ns
    dsimp only
    rw [heq]
    refine ⟨g.markRecovered ns, ?_, rfl⟩
    obtain ⟨id, hindex, hget⟩ := Option.bind_eq_some_iff.mp hfind
    have hid : id = g.groupId := (h.filed id g hget).1.symm
    show (e.registry.byWindow.get? windowId).bind _ = _
    rw [hindex, hid]
    exact Dict.get?_set_self _ _ _

/-! ## The hooks keep the invariant -/

/-- What happens to an outcome once the policy has been asked: it opens a group. -/
def BlockingWarningEmitter.opens (e : BlockingWarningEmitter) (outcome : DetectionOutcome) : Bool :=
  (e.policy.evaluate outcome).accept || e.opensSilently outcome

theorem Kept.updateLatestNs (h : Kept e closed) (ns : Int) : Kept (e.updateLatestNs ns) closed :=
  ⟨h.idle, h.filed, h.numbered, h.unique, h.tracked, h.indexed, h.ended, h.told, h.phased⟩

theorem Kept.handle (h : Kept e closed) {outcome : DetectionOutcome}
    (hclosed : e.registry.findByWindowId (BlockingWarningEmitter.windowKey
      outcome.windowTransition) = none → e.opens outcome = true →
      BlockingWarningEmitter.windowKey outcome.windowTransition ≠ noWindowKey →
      BlockingWarningEmitter.windowKey outcome.windowTransition ∉ closed) :
    Kept (e.handle raises outcome).2 closed := by
  unfold BlockingWarningEmitter.handle
  dsimp only
  cases hfind : e.registry.findByWindowId
    (BlockingWarningEmitter.windowKey outcome.windowTransition) with
  | none =>
    have hopens := hclosed hfind
    cases haccept : (e.policy.evaluate outcome).accept with
    | true =>
      exact h.openAndTell outcome hfind (hopens (by simp [BlockingWarningEmitter.opens, haccept]))
    | false =>
      dsimp only
      split
      · rename_i hsilent
        exact h.openGroup outcome hfind
          (hopens (by simp [BlockingWarningEmitter.opens, hsilent]))
      · exact h
  | some g =>
    cases (e.policy.evaluate outcome).accept with
    | false => exact h
    | true =>
      dsimp only
      split
      · exact h
      · rename_i hlive
        exact h.refresh (h.get_found hfind) (by simpa using hlive) outcome

/-! ## Runs -/

/-- The emitter and the windows that the detector has reported closed. -/
structure World where
  emitter : BlockingWarningEmitter
  closed : List String

namespace World

/-- The calls of the emitter, with what the bus does meanwhile. -/
inductive Action where
  | onDetection (outcome : DetectionOutcome) (raises : BlockingWarningPayload → Bool)
  | onCapture (stack : CapturedStack)
  | sweepExpirations (nowMonotonicNs : Option Int) (raises : BlockingWarningPayload → Bool)
  | reconfigure (configuration : BlockingWarningConfiguration)

def step (w : World) : Action → Option World
  | .onDetection outcome raises =>
    some ⟨(w.emitter.onDetection raises outcome).2,
      w.closed ++ outcome.windowTransition.closed.toList⟩
  | .onCapture stack => some { w with emitter := (w.emitter.onCapture stack).2 }
  | .sweepExpirations nowMonotonicNs raises =>
    some { w with emitter := (w.emitter.sweepExpirations raises nowMonotonicNs).2 }
  | .reconfigure configuration =>
    some { w with emitter := w.emitter.reconfigure configuration }

def start (runtimeId : String) (configuration : BlockingWarningConfiguration) : World :=
  ⟨.new runtimeId configuration, []⟩

/-- The outcomes are those of one detector: a window that was closed does not come back, and the
    outcome that closes one has no other. -/
def OneDetector (w : World) : Action → Prop
  | .onDetection outcome _ =>
    (∀ windowId, outcome.windowTransition.current = some windowId → windowId ∉ w.closed) ∧
      ∀ windowId, outcome.windowTransition.closed = some windowId →
        windowId ∉ w.closed ∧ outcome.windowTransition.current = none
  | _ => True

/-- The call is none of those that break the life of a group. -/
def Sound (w : World) : Action → Prop
  | .onDetection outcome _ =>
    ∀ windowId, outcome.windowTransition.closed = some windowId →
      if w.emitter.configuration.enabled then
        w.emitter.registry.findByWindowId windowId ≠ none ∨ w.emitter.opens outcome = false
      else
        ∀ g, w.emitter.registry.findByWindowId windowId = some g → g.state.isTerminal = true
  | .reconfigure configuration =>
    configuration.recentCapacity = w.emitter.configuration.recentCapacity ∨
      w.emitter.registry.sequence = 0
  | _ => True

end World

theorem Kept.onDetection (h : Kept e closed) {outcome : DetectionOutcome}
    (hone : World.OneDetector ⟨e, closed⟩ (.onDetection outcome raises))
    (hsound : World.Sound ⟨e, closed⟩ (.onDetection outcome raises)) :
    Kept (e.onDetection raises outcome).2
      (closed ++ outcome.windowTransition.closed.toList) := by
  obtain ⟨hcurrent, hclosing⟩ := hone
  unfold BlockingWarningEmitter.onDetection
  rw [h.idle]
  have hlatest := h.updateLatestNs outcome.actualNs
  cases hclosed : outcome.windowTransition.closed with
  | none =>
    rw [Option.toList_none, List.append_nil]
    cases henabled : e.configuration.enabled with
    | false => exact h
    | true =>
      have hsame : (e.updateLatestNs outcome.actualNs).recoverClosed raises outcome
          = e.updateLatestNs outcome.actualNs := by
        simp [BlockingWarningEmitter.recoverClosed, hclosed]
      simp only [Bool.not_true, Bool.false_eq_true, if_false, hsame]
      refine hlatest.handle fun _ _ hkey => ?_
      -- The key is the current window's: one that was closed does not come back.
      cases hwindow : outcome.windowTransition.current with
      | none =>
        rw [BlockingWarningEmitter.windowKey, hwindow, hclosed] at hkey
        exact absurd rfl hkey
      | some windowId =>
        rw [BlockingWarningEmitter.windowKey, hwindow]
        exact hcurrent windowId hwindow
  | some windowId =>
    rw [Option.toList_some]
    have hnocurrent := (hclosing windowId hclosed).2
    have hsound' := hsound windowId hclosed
    have hkey : BlockingWarningEmitter.windowKey outcome.windowTransition = windowId := by
      simp [BlockingWarningEmitter.windowKey, hnocurrent, hclosed]
    cases henabled : e.configuration.enabled with
    | false =>
      rw [if_neg (by simp [henabled])] at hsound'
      exact h.close hsound'
    | true =>
      rw [if_pos henabled] at hsound'
      simp only [Bool.not_true, Bool.false_eq_true, if_false]
      cases hfind : e.registry.findByWindowId windowId with
      | none =>
        -- Nobody waits for the close, and then the outcome must not open a group.
        have hsame : (e.updateLatestNs outcome.actualNs).recoverClosed raises outcome
            = e.updateLatestNs outcome.actualNs := by
          have hfind' : (e.updateLatestNs outcome.actualNs).registry.findByWindowId windowId
              = none := hfind
          simp [BlockingWarningEmitter.recoverClosed, hclosed, hfind']
        have hopens : e.opens outcome = false := by
          rcases hsound' with hfound | hopens
          · exact absurd hfind hfound
          · exact hopens
        rw [hsame]
        refine (hlatest.close fun g hg => ?_).handle fun _ hopens' => ?_
        · rw [show (e.updateLatestNs outcome.actualNs).registry = e.registry from rfl, hfind] at hg
          cases hg
        · rw [show (e.updateLatestNs outcome.actualNs).opens outcome = e.opens outcome from rfl,
            hopens] at hopens'
          cases hopens'
      | some g =>
        have hfind' : (e.updateLatestNs outcome.actualNs).registry.findByWindowId windowId
            = some g := hfind
        have hsame : (e.updateLatestNs outcome.actualNs).recoverClosed raises outcome
            = (e.updateLatestNs outcome.actualNs).finalizeRecovered raises g outcome.actualNs := by
          simp [BlockingWarningEmitter.recoverClosed, hclosed, hfind']
        rw [hsame]
        have hget := hlatest.get_found hfind'
        obtain ⟨g', hfound, hended⟩ :=
          hlatest.finalizeRecovered_found hfind' raises outcome.actualNs
        refine ((hlatest.recover hget).close fun g₁ hg₁ => ?_).handle fun hnone _ => ?_
        · rw [hfound] at hg₁
          rw [← Option.some.inj hg₁]
          exact hended
        · rw [hkey, hfound] at hnone
          cases hnone

theorem Kept.onCapture (h : Kept e closed) (stack : CapturedStack) :
    Kept (e.onCapture stack).2 closed := by
  unfold BlockingWarningEmitter.onCapture
  split
  · exact h
  · cases hwindow : stack.windowId.bind e.registry.findByWindowId with
    | none => exact h
    | some g =>
      obtain ⟨windowId, -, hfind⟩ := Option.bind_eq_some_iff.mp hwindow
      have hget := h.get_found hfind
      exact h.put _ hget rfl (h.filed _ g hget).2.1 (Nat.le_refl _) fun hopen => hopen

/-- A group that leaves the registry takes only its own index entry with it. -/
theorem byWindow_finalize {r : WarningGroupRegistry} {key : String}
    (hindex : r.byWindow.get? key = some id) (hne : id ≠ g.groupId) :
    (r.finalize g).byWindow.get? key = some id := by
  unfold WarningGroupRegistry.finalize
  dsimp only
  split
  · split
    · rename_i windowId _ hown
      have hkey : key ≠ windowId := by
        intro hsame
        rw [hsame, hown] at hindex
        exact hne (Option.some.inj hindex).symm
      rw [Dict.get?_pop_of_ne _ hkey]
      exact hindex
    · exact hindex
  · exact hindex

/-- A group that has expired leaves the registry, whatever is told of it before. -/
theorem Kept.retire (h : Kept e closed) (g' : WarningGroup)
    (hget : e.registry.active.get? g.groupId = some g) (horigin : g'.origin = g.origin)
    {dedup : TransitionDeduplicator} {backpressure : WarningEmitterBackpressure} {sequence : Nat}
    {dispatched : List BlockingWarningPayload} (hle : e.registry.sequence ≤ sequence)
    (htold : Told { e.history with dispatched := dispatched } sequence)
    (hsame : ∀ p ∈ dispatched, p ∈ e.history.dispatched ∨ p.groupId = g.groupId) :
    Kept
      { e with
        registry := { e.registry.put g' with sequence := sequence }.finalize g'
        dedup := dedup
        backpressure := backpressure
        history :=
          { e.history with
            dispatched := dispatched
            expired := e.history.expired ++ [g'] } } closed := by
  have hid : g'.groupId = g.groupId := WarningGroup.groupId_of_origin horigin
  have hcases : ∀ id g₁, ((e.registry.active.set g'.groupId g').pop g'.groupId).get? id = some g₁ →
      id ≠ g.groupId ∧ e.registry.active.get? id = some g₁ := by
    intro id g₁ hg₁
    rw [Dict.get?_pop, hid] at hg₁
    split at hg₁
    · cases hg₁
    · exact ⟨‹_›, (Dict.get?_set_of_ne _ _ ‹_›).symm.trans hg₁⟩
  refine ⟨h.idle, ?_, ?_, h.unique, ?_, ?_, ?_, ⟨htold.known, htold.bounded, htold.increasing,
    htold.ordered⟩, ?_⟩
  · intro id g₁ hg₁
    exact h.filed id g₁ (hcases id g₁ hg₁).2
  · intro g₀ hg₀
    obtain ⟨n, hpos, hn, hsame⟩ := h.numbered g₀ hg₀
    exact ⟨n, hpos, Nat.le_trans hn hle, hsame⟩
  · intro g₀ hg₀
    show (∃ g₁, ((e.registry.active.set g'.groupId g').pop g'.groupId).get? g₀.groupId = some g₁ ∧
      g₁.origin = g₀.origin) ∨ g₀.origin ∈ (e.history.expired ++ [g']).map WarningGroup.origin
    rw [List.map_append, List.mem_append]
    rcases h.tracked g₀ hg₀ with ⟨g₁, hg₁, hsame₁⟩ | hexpired
    · by_cases hsame : g₀.groupId = g.groupId
      · -- It is the group that leaves.
        rw [hsame, hget] at hg₁
        refine .inr (.inr ?_)
        rw [← hsame₁, ← Option.some.inj hg₁, ← horigin]
        exact List.mem_cons_self
      · refine .inl ⟨g₁, ?_, hsame₁⟩
        rw [hid, Dict.get?_pop_of_ne _ hsame, Dict.get?_set_of_ne _ _ hsame]
        exact hg₁
    · exact .inr (.inl hexpired)
  · intro id g₁ hg₁ hopen
    obtain ⟨hne, hg₁⟩ := hcases id g₁ hg₁
    exact byWindow_finalize (h.indexed id g₁ hg₁ hopen) (hid ▸ hne)
  · intro id g₁ hg₁
    exact h.ended id g₁ (hcases id g₁ hg₁).2
  · intro p hp g₁ hg₁
    obtain ⟨hne, hg₁⟩ := hcases _ g₁ hg₁
    rcases hsame p hp with hp | hp
    · exact h.phased p hp g₁ hg₁
    · exact absurd hp hne

theorem Kept.expireOne (ttl : Nat) (nowNs : Int) {swept : Nat × BlockingWarningEmitter}
    (h : Kept swept.2 closed) (snap : WarningGroup) :
    Kept (BlockingWarningEmitter.expireOne raises ttl nowNs swept snap).2 closed := by
  obtain ⟨expired, e⟩ := swept
  unfold BlockingWarningEmitter.expireOne
  dsimp only at h ⊢
  split
  · exact h
  split
  · exact h
  split
  · exact h
  rename_i live hfound
  obtain ⟨hid, hstate, -⟩ := h.filed _ live hfound
  have hget : e.registry.active.get? live.groupId = some live := by
    rw [hid]
    exact hfound
  have hidle : ({ e with
      registry := e.registry.put (live.markExpired nowNs)
      dedup := e.dedup.forgetGroup (live.markExpired nowNs).groupId
      history :=
        { e.history with
          expired := e.history.expired ++ [live.markExpired nowNs] } } :
      BlockingWarningEmitter).inDispatch = false := h.idle
  obtain ⟨dedup, backpressure, sequence, dispatched, heq, hle, hcases⟩ :=
    BlockingWarningEmitter.emitTransition_cases hidle raises (live.markExpired nowNs) .expired
      nowNs
  rw [heq]
  rcases hcases with rfl | ⟨hlt, rfl⟩
  · exact h.retire (live.markExpired nowNs) hget rfl hle (h.told.mono hle) fun p hp => .inl hp
  · refine h.retire (live.markExpired nowNs) hget rfl hle
      (h.told.snoc (buildPayload (live.markExpired nowNs) .expired sequence) (h.mem_opened hget)
        hlt ?_) ?_
    · -- Nothing is told after an expiry, and this group has not expired before.
      intro q hq hsame
      have hphase := h.phased q hq live (by rw [hsame]; exact hget)
      exact .inl (Nat.lt_succ_of_le (Nat.le_trans hphase (phase_le_two hstate)))
    · intro p hp
      rcases List.mem_append.mp hp with hp | hp
      · exact .inl hp
      · rw [List.mem_singleton.mp hp]
        exact .inr rfl

theorem Kept.sweepExpirations (h : Kept e closed) (nowMonotonicNs : Option Int) :
    Kept (e.sweepExpirations raises nowMonotonicNs).2 closed := by
  unfold BlockingWarningEmitter.sweepExpirations
  dsimp only
  split
  · exact h
  split
  · exact h
  · generalize e.registry.active.values = snaps
    -- By induction on the groups that the loop goes through.
    suffices hloop : ∀ swept : Nat × BlockingWarningEmitter, Kept swept.2 closed →
        Kept (snaps.foldl (BlockingWarningEmitter.expireOne raises e.configuration.expirationTtlNs
          (nowMonotonicNs.getD e.latestMonotonicNs)) swept).2 closed from hloop (0, e) h
    induction snaps with
    | nil => exact fun _ hswept => hswept
    | cons snap snaps ih =>
      intro swept hswept
      exact ih _ (hswept.expireOne _ _ snap)

/-- Before the first sequence number is given out there is nothing to lose. -/
theorem Kept.of_nothing_opened (hidle : e.inDispatch = false) (hopened : e.history.opened = [])
    (hdispatched : e.history.dispatched = []) (hactive : e.registry.active = .empty) :
    Kept e closed := by
  refine ⟨hidle, ?_, ?_, ?_, ?_, ?_, ?_, ⟨?_, ?_, ?_, ?_⟩, ?_⟩
  all_goals first
    | (intro id g hg; rw [hactive] at hg; cases hg)
    | simp [hopened, hdispatched]

theorem Kept.reconfigure (h : Kept e closed) {configuration : BlockingWarningConfiguration}
    (hsound : World.Sound ⟨e, closed⟩ (.reconfigure configuration)) :
    Kept (e.reconfigure configuration) closed := by
  by_cases hsame : configuration.recentCapacity = e.configuration.recentCapacity
  · have hregistry : (e.reconfigure configuration).registry = e.registry :=
      if_neg (not_not_intro hsame)
    refine ⟨h.idle, ?_, ?_, h.unique, ?_, ?_, ?_, ?_, ?_⟩ <;> rw [hregistry]
    exacts [h.filed, h.numbered, h.tracked, h.indexed, h.ended, h.told, h.phased]
  · have hzero : e.registry.sequence = 0 := hsound.resolve_left hsame
    have hopened : e.history.opened = [] := by
      refine List.eq_nil_iff_forall_not_mem.mpr fun g hg => ?_
      obtain ⟨n, hpos, hle, -⟩ := h.numbered g hg
      omega
    have hdispatched : e.history.dispatched = [] := by
      refine List.eq_nil_iff_forall_not_mem.mpr fun p hp => ?_
      have hknown := h.told.known p hp
      rw [hopened] at hknown
      exact absurd hknown List.not_mem_nil
    have hvalues : e.registry.active.values = [] := by
      refine List.eq_nil_iff_forall_not_mem.mpr fun g hg => ?_
      obtain ⟨id, hget⟩ := Dict.mem_values_iff.mp hg
      have hmem := h.mem_opened hget
      rw [hopened] at hmem
      exact absurd hmem List.not_mem_nil
    refine .of_nothing_opened h.idle hopened hdispatched ?_
    have hregistry : (e.reconfigure configuration).registry
        = BlockingWarningEmitter.swapRegistry e.registry configuration.recentCapacity :=
      if_pos hsame
    rw [hregistry, BlockingWarningEmitter.swapRegistry, hvalues]
    rfl

/-! ## What holds along a run -/

namespace World

/-- The life of the groups, as an observer sees it. -/
structure Lifecycle (w : World) : Prop where
  /-- Group ids are never reused. -/
  unique : (w.emitter.history.opened.map WarningGroup.groupId).Nodup
  /-- Payload sequences are strictly increasing. -/
  increasing : (w.emitter.history.dispatched.map fun p => p.sequence).Pairwise (· < ·)
  /-- A group stays tracked under its id until it expires. -/
  tracked : ∀ g ∈ w.emitter.history.opened,
    (∃ g', w.emitter.registry.findByGroupId g.groupId = some g' ∧ g'.origin = g.origin) ∨
      ∃ g' ∈ w.emitter.history.expired, g'.origin = g.origin
  /-- The transitions of a group come in the order of its life. -/
  ordered : ∀ groupId, ∃ mid : List Transition, (∀ t ∈ mid, t = .escalated ∨ t = .active) ∧
    ((w.emitter.history.dispatched.filter fun p => p.groupId = groupId).map
      fun p => p.transition).Sublist (.opened :: (mid ++ [.recovered, .expired]))
  /-- A window, or the outside of all windows, has one group at most that has not recovered. -/
  single : ∀ id id' g g', w.emitter.registry.findByGroupId id = some g →
    w.emitter.registry.findByGroupId id' = some g' → g.state.isTerminal = false →
    g'.state.isTerminal = false → g.windowId = g'.windowId → id = id'
  /-- The group of a window that has been reported closed is recovered or has expired. -/
  ended : ∀ g ∈ w.emitter.history.opened, ∀ windowId ∈ w.closed, g.windowId = some windowId →
    (∃ g', w.emitter.registry.findByGroupId g.groupId = some g' ∧ g'.origin = g.origin ∧
      g'.state = .recovered) ∨
      ∃ g' ∈ w.emitter.history.expired, g'.origin = g.origin

end World

theorem Kept.lifecycle (h : Kept e closed) : World.Lifecycle ⟨e, closed⟩ where
  unique := h.unique
  increasing := List.pairwise_map.mpr h.told.increasing
  tracked g hg := by
    rcases h.tracked g hg with htracked | hexpired
    · exact .inl htracked
    · exact .inr (List.mem_map.mp hexpired)
  ordered groupId := by
    refine Transition.sublist_life (List.pairwise_map.mpr ?_)
    refine (h.told.ordered.filter _).imp_of_mem fun {p q} hp hq hordered => ?_
    have hp' : p.groupId = groupId := by simpa using (List.mem_filter.mp hp).2
    have hq' : q.groupId = groupId := by simpa using (List.mem_filter.mp hq).2
    exact hordered (hp'.trans hq'.symm)
  single id id' g g' hg hg' hopen hopen' hwindow := by
    -- Both are what the index has under their key.
    have hindex := h.indexed id g hg hopen
    have hindex' := h.indexed id' g' hg' hopen'
    rw [WarningGroup.key, hwindow] at hindex
    exact Option.some.inj (hindex.symm.trans hindex')
  ended g hg windowId hclosed hwindow := by
    rcases h.tracked g hg with ⟨g', hg', horigin⟩ | hexpired
    · refine .inl ⟨g', hg', horigin, ?_⟩
      have hwindow' : g'.windowId = some windowId :=
        (WarningGroup.windowId_of_origin horigin).trans hwindow
      have hterminal := h.ended _ g' hg' windowId hclosed hwindow'
      have hstate := (h.filed _ g' hg').2.1
      cases hs : g'.state <;>
        simp [hs, BlockingWarningGroupState.isTerminal] at hterminal hstate ⊢
    · exact .inr (List.mem_map.mp hexpired)

namespace World

/-- Every call that is none of the three keeps the invariant. -/
theorem kept_step {w w' : World} {a : Action} (h : Kept w.emitter w.closed)
    (hone : OneDetector w a) (hsound : Sound w a) (hstep : step w a = some w') :
    Kept w'.emitter w'.closed := by
  cases a with
  | onDetection outcome raises =>
    cases hstep
    exact h.onDetection hone hsound
  | onCapture stack =>
    cases hstep
    exact h.onCapture stack
  | sweepExpirations nowMonotonicNs raises =>
    cases hstep
    exact h.sweepExpirations nowMonotonicNs
  | reconfigure configuration =>
    cases hstep
    exact h.reconfigure hsound

/-- In every run over the outcomes of one detector whose calls are all sound the groups live as
    they should. -/
theorem allStates_lifecycle (runtimeId : String) (configuration : BlockingWarningConfiguration)
    {acts : List Action} (hone : AllSteps step OneDetector (start runtimeId configuration) acts)
    (hsound : AllSteps step Sound (start runtimeId configuration) acts) :
    AllStates step Lifecycle (start runtimeId configuration) acts := by
  have hboth : AllSteps step (fun w a => OneDetector w a ∧ Sound w a)
      (start runtimeId configuration) acts := hone.and hsound
  refine (allStates_of_allSteps (I := fun w => Kept w.emitter w.closed)
    (fun w a w' h hP hstep => kept_step h hP.1 hP.2 hstep) ?_ hboth).mono fun w h => h.lifecycle
  exact .of_nothing_opened rfl rfl rfl rfl

/-- Outside any window. -/
def noTransition : WindowTransition := ⟨none, none, none, none⟩

/-- A window that opens, and one that closes. -/
def opening (windowId : String) : WindowTransition := ⟨some windowId, none, none, some windowId⟩

def closing (windowId : String) : WindowTransition := ⟨none, none, some windowId, none⟩

/-- A freeze outside any window, a swap of the capacity, and the freeze goes on. -/
def swappedRun : List Action :=
  [.onDetection ⟨10, 1, 500, .critical, true, noTransition⟩ fun _ => false,
    .reconfigure
      { includeNoWindow := true, recentCapacity := 65, recentCapacity_pos := Nat.succ_pos 64 },
    .onDetection ⟨20, 2, 500, .critical, false, noTransition⟩ fun _ => false]

/-- The window closes while the emitter is off. -/
def unheardRun : List Action :=
  [.onDetection ⟨10, 1, 500, .critical, true, opening "rt:bw:1"⟩ fun _ => false,
    .reconfigure { BlockingWarningConfiguration.default with enabled := false },
    .onDetection ⟨20, 2, 0, .none, false, closing "rt:bw:1"⟩ fun _ => false]

/-- The window opens while only freezes are told, and closes while warnings are. -/
def lateRun : List Action :=
  [.reconfigure { BlockingWarningConfiguration.default with minSeverity := .freeze },
    .onDetection ⟨10, 1, 500, .critical, true, opening "rt:bw:1"⟩ fun _ => false,
    .reconfigure
      { BlockingWarningConfiguration.default with minSeverity := .warning, includeNoWindow := true },
    .onDetection ⟨20, 2, 60, .warning, false, closing "rt:bw:1"⟩ fun _ => false]

/-- The configuration of these runs: a freeze outside any window opens a group as well. -/
def noWindowToo : BlockingWarningConfiguration :=
  { BlockingWarningConfiguration.default with includeNoWindow := true }

theorem not_lifecycle_swappedRun :
    AllSteps step OneDetector (start "rt" noWindowToo) swappedRun ∧
      ¬ AllStates step Lifecycle (start "rt" noWindowToo) swappedRun := by
  constructor
  · refine .cons rfl ?_ (.cons rfl trivial (.cons rfl ?_ trivial))
    · simp [OneDetector, noTransition, WindowTransition.current]
    · simp [OneDetector, noTransition, WindowTransition.current]
  · intro h
    have hlast := (((h.2 _ rfl).2 _ rfl).2 _ rfl).head.unique
    revert hlast
    decide

theorem not_lifecycle_unheardRun :
    AllSteps step OneDetector (start "rt" .default) unheardRun ∧
      ¬ AllStates step Lifecycle (start "rt" .default) unheardRun := by
  constructor
  · refine .cons rfl ?_ (.cons rfl trivial (.cons rfl ?_ trivial))
    · simp [OneDetector, opening, start]
    · simp [OneDetector, closing, WindowTransition.current, start, opening]
  · intro h
    have hlast := (((h.2 _ rfl).2 _ rfl).2 _ rfl).head.ended _ List.mem_cons_self "rt:bw:1"
      List.mem_cons_self rfl
    rcases hlast with ⟨g, hg, -, hstate⟩ | ⟨g, hg, -⟩
    · cases hg
      cases hstate
    · cases hg

theorem not_lifecycle_lateRun :
    AllSteps step OneDetector (start "rt" .default) lateRun ∧
      ¬ AllStates step Lifecycle (start "rt" .default) lateRun := by
  constructor
  · refine .cons rfl trivial (.cons rfl ?_ (.cons rfl trivial (.cons rfl ?_ trivial)))
    · simp [OneDetector, opening, start]
    · simp [OneDetector, closing, WindowTransition.current, start, opening]
  · intro h
    have hlast := ((((h.2 _ rfl).2 _ rfl).2 _ rfl).2 _ rfl).head.ended _ List.mem_cons_self
      "rt:bw:1" List.mem_cons_self rfl
    rcases hlast with ⟨g, hg, -, hstate⟩ | ⟨g, hg, -⟩
    · cases hg
      cases hstate
    · cases hg

/-- A window through its whole life: it escalates, closes and expires. -/
def wholeRun : List Action :=
  [.onDetection ⟨10, 1, 500, .critical, true, opening "rt:bw:1"⟩ fun _ => false,
    .onDetection ⟨20, 2, 900, .freeze, true, ⟨none, some "rt:bw:1", none, some "rt:bw:1"⟩⟩
      fun _ => false,
    .onCapture ⟨7, some "rt:bw:1", some "t-1", none, some "main"⟩,
    .onDetection ⟨30, 3, 0, .none, false, closing "rt:bw:1"⟩ fun _ => false,
    .reconfigure { BlockingWarningConfiguration.default with expirationTtlNs := 5 },
    .sweepExpirations (some 40) fun _ => true]

theorem lifecycle_wholeRun : AllStates step Lifecycle (start "rt" .default) wholeRun := by
  refine allStates_lifecycle "rt" .default ?_ ?_
  · refine .cons rfl ?_ (.cons rfl ?_ (.cons rfl trivial (.cons rfl ?_
      (.cons rfl trivial (.cons rfl trivial trivial)))))
    · simp [OneDetector, opening, start]
    · simp [OneDetector, start, opening]
    · simp [OneDetector, closing, WindowTransition.current, start, opening]
  · refine .cons rfl ?_ (.cons rfl ?_ (.cons rfl trivial (.cons rfl ?_
      (.cons rfl (.inl rfl) (.cons rfl trivial trivial)))))
    · simp [Sound, opening]
    · simp [Sound]
    · intro windowId hclosed
      cases hclosed
      exact .inl (by decide)

end World

end AsyncViz.Runtime.Warnings.Blocking
