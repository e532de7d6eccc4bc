/-
  AsyncViz.Instrumentation.GatherAccounting

  When the events of a gather account for its children.

  The loop runs each callback once and in order, so what has run and what is still in its queue
  add up (`Sound`): a gather that has a result has nothing but its own callback left behind the
  callbacks of its children.  That callback forgets the entry; whatever child ends later is
  reported without it.  And the entry's flags, which a completed event reports as counts, are
  never set by then.
-/

import AsyncViz.Instrumentation.Gather

namespace AsyncViz.Instrumentation.Gather

open AsyncViz.Lib.Transition

private theorem countP_add {α : Type _} {p q r : α → Bool} {l : List α}
    (h : ∀ a ∈ l, (r a).toNat = (p a).toNat + (q a).toNat) :
    l.countP r = l.countP p + l.countP q := by
  induction l with
  | nil => rfl
  | cons a l ih =>
    have hcons : ∀ s : α → Bool, (a :: l).countP s = l.countP s + (s a).toNat := by
      intro s
      rw [List.countP_cons]
      cases s a <;> rfl
    have ha := h a List.mem_cons_self
    rw [hcons, hcons, hcons, ih fun b hb => h b (List.mem_cons_of_mem a hb)]
    omega

namespace World

variable {w w' : World}

/-! ## The futures -/

theorem nodup_futures (w : World) : w.futures.Nodup :=
  List.nodup_reverse.mpr (List.nodup_dedup _)

theorem mem_futures {future : Nat} :
    future ∈ w.futures ↔ ∃ child ∈ w.children, child.future = future := by
  rw [futures, List.mem_reverse, List.mem_dedup, List.mem_reverse, List.mem_map]

/-- All futures are done if as many are. -/
theorem allDone_iff : w.allDone ↔ w.futures.countP w.isDone = w.futures.length := by
  rw [List.countP_eq_length]
  constructor
  · intro h future hfuture
    obtain ⟨child, hchild, rfl⟩ := mem_futures.mp hfuture
    exact h child hchild
  · intro h child hchild
    exact h child.future (mem_futures.mpr ⟨child, hchild, rfl⟩)

/-! ## What every step keeps -/

/-- How far gather has come: it has a result when it has seen every future. -/
structure Progress (w : World) : Prop where
  le : w.nfinished ≤ w.futures.length
  resolved : w.nfinished = w.futures.length → w.outer.isSome = true
  full : w.outer = some .succeeded → w.nfinished = w.futures.length

/-- The callbacks that have run and those in the loop's queue. -/
structure Sound (w : World) : Prop where
  progress : Progress w
  watched : w.watched = true
  owns : w.nfinished + w.ready.countP Callback.isOwn = w.futures.countP w.isDone
  calls : w.childEvents.length + w.ready.countP Callback.isChild
    = w.children.countP fun child => w.isDone child.future
  outer : w.terminals + w.ready.countP Callback.isGather = w.outer.isSome.toNat
  gathers : ∀ outcome, .gather outcome ∈ w.ready → w.outer = some outcome
  entry : w.entry = if w.terminals = 0 then
    some ⟨w.parent, w.children.length, w.childEvents.length, false, false⟩ else none
  completed : ∀ event, .completed event ∈ w.events → w.outer = some .succeeded
  last : w.outer = some .succeeded → w.terminals = 0 →
    ∃ before, w.ready = before ++ [.gather .succeeded]

theorem Sound.allDone (h : Sound w) (hresult : w.outer = some .succeeded) : w.allDone := by
  have hfull := h.progress.full hresult
  have howns := h.owns
  have hle := List.countP_le_length (p := w.isDone) (l := w.futures)
  rw [allDone_iff]
  omega

/-- One call of gather's own callback: it counts, and resolves the outer future at most. -/
theorem ownCallback_cases (w : World) (outcome : Outcome) : ∃ outer ready,
    w.ownCallback outcome
      = { w with nfinished := w.nfinished + 1, outer := outer, ready := ready } ∧
    ((outer = w.outer ∧ ready = w.ready ∧
        (w.nfinished + 1 = w.futures.length → w.outer.isSome = true)) ∨
      (w.outer = none ∧ ∃ result, outer = some result ∧
        ready = (if w.watched then w.ready ++ [Callback.gather result] else w.ready) ∧
        (result = .succeeded → w.nfinished + 1 = w.futures.length))) := by
  simp only [World.ownCallback]
  split
  · rename_i hsome
    exact ⟨w.outer, w.ready, rfl, .inl ⟨rfl, rfl, fun _ => hsome⟩⟩
  · rename_i hnone
    have houter : w.outer = none := by simpa using hnone
    split
    · rename_i hfailed
      refine ⟨_, _, rfl, .inr ⟨houter, outcome, rfl, rfl, fun hsucceeded => ?_⟩⟩
      simp [hsucceeded] at hfailed
    · split
      · rename_i hall
        exact ⟨_, _, rfl, .inr ⟨houter, _, rfl, rfl, fun _ => hall⟩⟩
      · rename_i hsome
        exact ⟨w.outer, w.ready, rfl, .inl ⟨rfl, rfl, fun hall => absurd hall hsome⟩⟩

theorem Progress.ownCallback (h : Progress w) (hlt : w.nfinished < w.futures.length)
    (outcome : Outcome) : Progress (w.ownCallback outcome) := by
  obtain ⟨outer, ready, heq, hcases⟩ := ownCallback_cases w outcome
  rw [heq]
  obtain ⟨rfl, rfl, hresolved⟩ | ⟨houter, result, rfl, rfl, hfull⟩ := hcases
  · refine ⟨hlt, hresolved, fun hresult => ?_⟩
    exact absurd (h.full hresult) (Nat.ne_of_lt hlt)
  · exact ⟨hlt, fun _ => rfl, fun hresult => hfull (Option.some.inj hresult)⟩

/-! ### The steps -/

theorem isChild_of_mem {outcome : Child → Option Outcome} {callback : Callback}
    (h : callback ∈ w.childCallbacks outcome) : callback.isChild = true := by
  obtain ⟨p, -, hp⟩ := List.mem_filterMap.mp h
  obtain ⟨result, -, rfl⟩ := Option.map_eq_some_iff.mp hp
  rfl

theorem countP_childCallbacks (w : World) (outcome : Child → Option Outcome) :
    (w.childCallbacks outcome).countP Callback.isChild
      = w.children.countP fun child => (outcome child).isSome := by
  rw [List.countP_eq_length.mpr fun _ => isChild_of_mem, childCallbacks]
  generalize w.children = children
  have hfrom : ∀ n, ((children.zipIdx n).filterMap fun p =>
      (outcome p.1).map (Callback.child p.2 p.1)).length
        = children.countP fun child => (outcome child).isSome := by
    induction children with
    | nil => exact fun n => rfl
    | cons child children ih =>
      intro n
      rw [List.zipIdx_cons, List.filterMap_cons, List.countP_cons]
      cases houtcome : outcome child with
      | none => exact ih (n + 1)
      | some result => exact congrArg (· + 1) (ih (n + 1))
  exact hfrom 0

theorem countP_childCallbacks_eq_zero (w : World) (outcome : Child → Option Outcome)
    {p : Callback → Bool} (hp : ∀ callback, callback.isChild = true → p callback = false) :
    (w.childCallbacks outcome).countP p = 0 := by
  rw [List.countP_eq_zero]
  intro callback hmem
  rw [hp callback (isChild_of_mem hmem)]
  exact Bool.false_ne_true

theorem isOwn_of_isChild (callback : Callback) (h : callback.isChild = true) :
    callback.isOwn = false := by
  cases callback <;> first | rfl | cases h

theorem isGather_of_isChild (callback : Callback) (h : callback.isChild = true) :
    callback.isGather = false := by
  cases callback <;> first | rfl | cases h

/-- A future gets done: its callbacks are one of gather's and one for each of its children. -/
theorem Sound.finish (h : Sound w) {future : Nat} {outcome : Outcome}
    (hmem : future ∈ w.futures) (hnot : w.isDone future = false) :
    Sound (w.finish future outcome) := by
  have hpending : w.outer ≠ some .succeeded := by
    intro hresult
    obtain ⟨child, hchild, rfl⟩ := mem_futures.mp hmem
    have hdone := h.allDone hresult child hchild
    rw [hnot] at hdone
    cases hdone
  have hdone : ∀ f, ((w.finish future outcome).isDone f).toNat
      = (w.isDone f).toNat + (decide (f = future)).toNat := by
    intro f
    change ((if f = future then some outcome else w.outcomes f).isSome).toNat = _
    by_cases hf : f = future
    · subst hf
      rw [if_pos rfl, hnot, decide_eq_true rfl]
      rfl
    · rw [if_neg hf, decide_eq_false hf]
      rfl
  have hfutures : w.futures.countP (w.finish future outcome).isDone
      = w.futures.countP w.isDone + 1 := by
    rw [countP_add fun f _ => hdone f]
    congr 1
    have hcount := List.count_eq_one_of_mem w.nodup_futures hmem
    rw [List.count_eq_countP] at hcount
    rw [← hcount]
    exact List.countP_congr fun f _ => by simp
  have hchildren : w.children.countP (fun child =>
      (w.finish future outcome).isDone child.future)
        = (w.children.countP fun child => w.isDone child.future)
          + w.children.countP fun child => child.future = future :=
    countP_add fun child _ => hdone child.future
  have hadded : (w.childCallbacks fun child =>
      if child.future = future then some outcome else none).countP Callback.isChild
        = w.children.countP fun child => child.future = future := by
    rw [countP_childCallbacks]
    exact List.countP_congr fun child _ => by by_cases hf : child.future = future <;> simp [hf]
  refine ⟨⟨h.progress.le, h.progress.resolved, h.progress.full⟩, h.watched, ?_, ?_, ?_,
    fun result hresult => ?_, h.entry, h.completed, fun hresult => absurd hresult hpending⟩
  · have howns := h.owns
    change w.nfinished + (w.ready ++ _).countP _ = w.futures.countP (w.finish future outcome).isDone
    rw [hfutures, List.countP_append, List.countP_cons,
      countP_childCallbacks_eq_zero w _ isOwn_of_isChild]
    simp only [Callback.isOwn, if_true]
    omega
  · have hcalls := h.calls
    change w.childEvents.length + (w.ready ++ _).countP _
      = w.children.countP fun child => (w.finish future outcome).isDone child.future
    rw [hchildren, List.countP_append, List.countP_cons, hadded]
    simp only [Callback.isChild, Bool.false_eq_true, if_false]
    omega
  · have houter := h.outer
    change w.terminals + (w.ready ++ _).countP _ = w.outer.isSome.toNat
    rw [List.countP_append, List.countP_cons,
      countP_childCallbacks_eq_zero w _ isGather_of_isChild]
    simp only [Callback.isGather, Bool.false_eq_true, if_false]
    omega
  · refine h.gathers result ?_
    obtain hold | hnew := List.mem_append.mp hresult
    · exact hold
    · obtain hown | hchild := List.mem_cons.mp hnew
      · cases hown
      · cases isChild_of_mem hchild

/-- The loop runs gather's own callback. -/
theorem Sound.own (h : Sound w) {outcome : Outcome} {ready : List Callback}
    (hready : w.ready = .own outcome :: ready) :
    Sound ({ w with ready := ready }.ownCallback outcome) := by
  have howns := h.owns
  have hcalls := h.calls
  have houter := h.outer
  rw [hready, List.countP_cons] at howns hcalls houter
  simp only [Callback.isOwn, if_true] at howns
  simp only [Callback.isChild, Bool.false_eq_true, if_false] at hcalls
  simp only [Callback.isGather, Bool.false_eq_true, if_false] at houter
  have hlt : w.nfinished < w.futures.length := by
    have hle := List.countP_le_length (p := w.isDone) (l := w.futures)
    omega
  have hprogress : Progress { w with ready := ready } :=
    ⟨h.progress.le, h.progress.resolved, h.progress.full⟩
  have hpending : w.outer ≠ some .succeeded :=
    fun hresult => absurd (h.progress.full hresult) (Nat.ne_of_lt hlt)
  have hnext := hprogress.ownCallback hlt outcome
  obtain ⟨outer, ready', heq, hcases⟩ := ownCallback_cases { w with ready := ready } outcome
  rw [heq] at hnext ⊢
  obtain ⟨hsame, hrest, -⟩ | ⟨hnone, result, rfl, rfl, hfull⟩ := hcases
  · change outer = w.outer at hsame
    change ready' = ready at hrest
    rw [hsame, hrest] at hnext ⊢
    refine ⟨hnext, h.watched, ?_, hcalls, houter, fun result hresult => ?_, h.entry, h.completed,
      fun hresult => absurd hresult hpending⟩
    · change w.nfinished + 1 + ready.countP _ = w.futures.countP w.isDone
      omega
    · refine h.gathers result ?_
      rw [hready]
      exact List.mem_cons_of_mem _ hresult
  · have hnone : w.outer = none := hnone
    rw [hnone] at houter
    rw [if_pos h.watched] at hnext ⊢
    refine ⟨hnext, h.watched, ?_, ?_, ?_, fun result' hresult => ?_, h.entry,
      fun event hevent => ?_, fun hresult _ => ⟨ready, ?_⟩⟩
    · change w.nfinished + 1 + (ready ++ [Callback.gather result]).countP _ = w.futures.countP w.isDone
      rw [List.countP_append]
      simp only [List.countP_cons, List.countP_nil, Callback.isOwn, Bool.false_eq_true, if_false]
      omega
    · change w.childEvents.length + (ready ++ [Callback.gather result]).countP _ = _
      rw [List.countP_append]
      exact hcalls
    · change w.terminals + (ready ++ [Callback.gather result]).countP _ = 1
      rw [List.countP_append]
      change w.terminals + (ready.countP _ + 1) = 1
      change _ = 0 at houter
      omega
    · obtain hold | hnew := List.mem_append.mp hresult
      · have hsome := h.gathers result' (hready ▸ List.mem_cons_of_mem _ hold)
        rw [hnone] at hsome
        cases hsome
      · cases List.mem_singleton.mp hnew
        rfl
    · have hsome := h.completed event hevent
      rw [hnone] at hsome
      cases hsome
    · cases hresult
      rfl

/-- The loop runs the engine's callback of a child. -/
theorem Sound.child (h : Sound w) {index : Nat} {child : Child} {outcome : Outcome}
    {ready : List Callback} (hready : w.ready = .child index child outcome :: ready) :
    Sound ({ w with ready := ready }.childCallback index child outcome) := by
  have howns := h.owns
  have hcalls := h.calls
  have houter := h.outer
  rw [hready, List.countP_cons] at howns hcalls houter
  simp only [Callback.isOwn, Bool.false_eq_true, if_false] at howns
  simp only [Callback.isChild, if_true] at hcalls
  simp only [Callback.isGather, Bool.false_eq_true, if_false] at houter
  have hchildEvents : ({ w with ready := ready }.childCallback index child outcome).childEvents.length
      = w.childEvents.length + 1 := by
    simp [childEvents, childCallback, Event.child?]
  have hterminals : ({ w with ready := ready }.childCallback index child outcome).terminals
      = w.terminals := by
    simp [terminals, childCallback, Event.isTerminal]
  refine ⟨⟨h.progress.le, h.progress.resolved, h.progress.full⟩, h.watched, howns, ?_, ?_,
    fun result hresult => h.gathers result ?_, ?_, fun event hevent => h.completed event ?_,
    fun hresult hnone => ?_⟩
  · rw [hchildEvents]
    change w.childEvents.length + 1 + ready.countP _
      = w.children.countP fun child => w.isDone child.future
    omega
  · rw [hterminals]
    exact houter
  · rw [hready]
    exact List.mem_cons_of_mem _ hresult
  · rw [hterminals, hchildEvents]
    change (recordChildCompleted w.entry).1 = _
    rw [h.entry]
    split <;> rfl
  · obtain hold | hnew := List.mem_append.mp hevent
    · exact hold
    · cases List.mem_singleton.mp hnew
  · rw [hterminals] at hnone
    obtain ⟨before, hbefore⟩ := h.last hresult hnone
    rw [hready] at hbefore
    cases before with
    | nil => cases hbefore
    | cons first before => exact ⟨before, (List.cons.inj hbefore).2⟩

/-- The engine's callback of the outer future tells nothing of a child. -/
theorem childEvents_gatherCallback (w : World) (ready : List Callback) (outcome : Outcome) :
    ({ w with ready := ready }.gatherCallback outcome).childEvents = w.childEvents := by
  cases outcome <;> simp [childEvents, gatherCallback, Event.child?]

/-- The loop runs the engine's callback of the outer future. -/
theorem Sound.gather (h : Sound w) {outcome : Outcome} {ready : List Callback}
    (hready : w.ready = .gather outcome :: ready) :
    Sound ({ w with ready := ready }.gatherCallback outcome) := by
  have howns := h.owns
  have hcalls := h.calls
  have houter := h.outer
  rw [hready, List.countP_cons] at howns hcalls houter
  simp only [Callback.isOwn, Bool.false_eq_true, if_false] at howns
  simp only [Callback.isChild, Bool.false_eq_true, if_false] at hcalls
  simp only [Callback.isGather, if_true] at houter
  have hsome : w.outer = some outcome :=
    h.gathers outcome (by rw [hready]; exact List.mem_cons_self)
  have hterminals : ({ w with ready := ready }.gatherCallback outcome).terminals
      = w.terminals + 1 := by
    cases outcome <;> simp [terminals, gatherCallback, Event.isTerminal]
  refine ⟨⟨h.progress.le, h.progress.resolved, h.progress.full⟩, h.watched, howns, ?_, ?_,
    fun result hresult => h.gathers result ?_, ?_, fun event hevent => ?_, fun _ hnone => ?_⟩
  · rw [childEvents_gatherCallback]
    exact hcalls
  · rw [hterminals]
    change w.terminals + 1 + ready.countP _ = w.outer.isSome.toNat
    omega
  · rw [hready]
    exact List.mem_cons_of_mem _ hresult
  · rw [hterminals, if_neg (Nat.succ_ne_zero _)]
    rfl
  · obtain hold | hnew := List.mem_append.mp hevent
    · exact h.completed event hold
    · cases outcome with
      | succeeded => exact hsome
      | failed => cases List.mem_singleton.mp hnew
      | cancelled => cases List.mem_singleton.mp hnew
  · rw [hterminals] at hnone
    exact absurd hnone (Nat.succ_ne_zero _)

theorem Sound.step (h : Sound w) {a : Action} (hstep : step w a = some w') : Sound w' := by
  cases a with
  | finish future outcome =>
    simp only [World.step] at hstep
    split at hstep
    · rename_i hfuture
      cases hstep
      exact h.finish hfuture.1 hfuture.2
    · cases hstep
  | cancel =>
    simp only [World.step] at hstep
    split at hstep
    · cases hstep
    · cases hstep
      exact ⟨⟨h.progress.le, h.progress.resolved, h.progress.full⟩, h.watched, h.owns, h.calls,
        h.outer, h.gathers, h.entry, h.completed, h.last⟩
  | turn =>
    simp only [World.step] at hstep
    split at hstep
    · rename_i callback ready hready
      cases hstep
      cases callback with
      | own outcome => exact h.own hready
      | child index child outcome => exact h.child hready
      | gather outcome => exact h.gather hready
    · cases hstep

/-! ### The call -/

/-- Gather's own callbacks of the futures that are done already; nobody watches the outer future
    yet. -/
theorem foldl_ownCallback (hprogress : Progress w) (hwatched : w.watched = false)
    {outcomes : List Outcome} (hle : w.nfinished + outcomes.length ≤ w.futures.length) :
    ∃ outer, outcomes.foldl ownCallback w
      = { w with nfinished := w.nfinished + outcomes.length, outer := outer } ∧
      Progress (outcomes.foldl ownCallback w) := by
  induction outcomes generalizing w with
  | nil => exact ⟨w.outer, rfl, hprogress⟩
  | cons outcome outcomes ih =>
    rw [List.length_cons] at hle
    have hnext := hprogress.ownCallback (by omega) outcome
    obtain ⟨outer, ready, heq, hcases⟩ := ownCallback_cases w outcome
    have hready : ready = w.ready := by
      obtain ⟨-, hsame, -⟩ | ⟨-, result, -, hsame, -⟩ := hcases
      · exact hsame
      · rw [hsame, hwatched]
        rfl
    rw [hready] at heq
    rw [heq] at hnext
    have hle' : w.nfinished + 1 + outcomes.length ≤ w.futures.length := by omega
    obtain ⟨outer', heq', hprogress'⟩ := ih hnext hwatched hle'
    rw [List.foldl_cons, heq, List.length_cons, heq']
    rw [heq'] at hprogress'
    have hcount : w.nfinished + (outcomes.length + 1) = w.nfinished + 1 + outcomes.length := by
      omega
    exact ⟨outer', by rw [hcount], hprogress'⟩

section Gather

variable (children : List Child) (parent : Option String) (returnExceptions : Bool)
  (outcomes : Nat → Option Outcome)

theorem progress_opened : Progress (opened children parent returnExceptions outcomes) := by
  cases children with
  | nil => exact ⟨Nat.le_refl 0, fun _ => rfl, fun _ => rfl⟩
  | cons child children =>
    refine ⟨Nat.zero_le _, fun hnone => ?_, fun hresult => by cases hresult⟩
    have hmem : child.future ∈ (opened (child :: children) parent returnExceptions
        outcomes).futures := mem_futures.mpr ⟨child, List.mem_cons_self, rfl⟩
    exact absurd hmem (List.eq_nil_of_length_eq_zero hnone.symm ▸ List.not_mem_nil)

/-- What the call has made of `w` when gather's own callbacks have run. -/
def attached (w : World) (nfinished : Nat) (outer : Option Outcome) : World :=
  { w with
    nfinished := nfinished
    outer := outer
    watched := true
    ready := w.childCallbacks (fun child => w.outcomes child.future)
      ++ (outer.map Callback.gather).toList }

theorem gather_eq : ∃ nfinished outer,
    nfinished = (opened children parent returnExceptions outcomes).futures.countP
      (opened children parent returnExceptions outcomes).isDone ∧
    gather children parent returnExceptions outcomes
      = (opened children parent returnExceptions outcomes).attached nfinished outer ∧
    Progress ((opened children parent returnExceptions outcomes).attached nfinished outer) := by
  let w := opened children parent returnExceptions outcomes
  have hdone : w.nfinished + (w.futures.filterMap outcomes).length
      = w.futures.countP w.isDone := by
    rw [List.length_filterMap_eq_countP]
    exact Nat.zero_add _
  have hle : w.nfinished + (w.futures.filterMap outcomes).length ≤ w.futures.length := by
    rw [hdone]
    exact List.countP_le_length
  obtain ⟨outer, heq, hprogress⟩ := foldl_ownCallback
    (progress_opened children parent returnExceptions outcomes) rfl hle
  rw [heq] at hprogress
  refine ⟨_, outer, hdone, ?_, ⟨hprogress.le, hprogress.resolved, hprogress.full⟩⟩
  simp only [gather]
  rw [heq]
  rfl

theorem sound_gather : Sound (gather children parent returnExceptions outcomes) := by
  obtain ⟨nfinished, outer, hdone, hgather, hprogress⟩ :=
    gather_eq children parent returnExceptions outcomes
  rw [hgather]
  refine ⟨hprogress, rfl, ?_, ?_, ?_, fun result hresult => ?_, rfl,
    fun event hevent => absurd hevent List.not_mem_nil, fun hresult _ =>
      ⟨(opened children parent returnExceptions outcomes).childCallbacks
        fun child => outcomes child.future, ?_⟩⟩
  · change nfinished + (_ ++ _ : List Callback).countP _ = _
    rw [List.countP_append, countP_childCallbacks_eq_zero _ _ isOwn_of_isChild, hdone]
    cases outer <;> simp [Callback.isOwn] <;> rfl
  · change 0 + (_ ++ _ : List Callback).countP _ = _
    rw [List.countP_append, countP_childCallbacks]
    cases outer <;> simp [Callback.isChild] <;> rfl
  · change 0 + (_ ++ _ : List Callback).countP _ = _
    rw [List.countP_append, countP_childCallbacks_eq_zero _ _ isGather_of_isChild]
    cases outer <;> rfl
  · change outer = some result
    obtain hchild | hnew := List.mem_append.mp hresult
    · cases isChild_of_mem hchild
    · cases outer with
      | none => cases hnew
      | some result' =>
        cases List.mem_singleton.mp hnew
        rfl
  · change outer = some .succeeded at hresult
    simp only [attached, hresult]
    rfl

theorem events_gather : (gather children parent returnExceptions outcomes).events = [] := by
  obtain ⟨nfinished, outer, -, hgather, -⟩ := gather_eq children parent returnExceptions outcomes
  rw [hgather]
  rfl

end Gather

/-! ## Exactness -/

theorem Sound.once (h : Sound w) : w.terminals ≤ 1 := by
  have houter := h.outer
  have hle := Bool.toNat_le w.outer.isSome
  omega

/-- Once the loop has run everything, the terminal event is out. -/
theorem Sound.ended (h : Sound w) (hready : w.ready = []) (hend : w.outer.isSome ∨ w.allDone) :
    w.terminals = 1 := by
  have hsome : w.outer.isSome = true := by
    obtain hsome | hall := hend
    · exact hsome
    · have howns := h.owns
      rw [hready, allDone_iff.mp hall] at howns
      exact h.progress.resolved howns
  have houter := h.outer
  rw [hready, hsome] at houter
  exact houter

/-- What `Accounted` says of the events of the children. -/
def ChildrenCounted (w : World) : Prop :=
  ∀ k event, w.childEvents[k]? = some event → event.completedCount = k + 1 ∧
    event.parent = w.parent ∧ event.childCount = w.children.length

/-- What it says of a completed event. -/
def ResultCounted (w : World) : Prop :=
  ∀ event, .completed event ∈ w.events →
    event.completedCount = w.children.countP (fun child => w.isDone child.future) ∧
    event.failedChildren = w.ended .failed ∧ event.cancelledChildren = w.ended .cancelled

/-- The rest holds anyway. -/
theorem Sound.accounted_iff (h : Sound w) :
    Accounted w ↔ ChildrenCounted w ∧ ResultCounted w :=
  ⟨fun h' => ⟨h'.children, h'.completed⟩, fun h' => ⟨h'.1, h.once, h.ended, h'.2⟩⟩

/-- A step that publishes nothing. -/
theorem Sound.accounted_of_events (h : Sound w') (haccounted : Accounted w)
    (hevents : w'.events = w.events) (hparent : w'.parent = w.parent)
    (hchildren : w'.children = w.children)
    (houtcomes : ∀ event, .completed event ∈ w.events → w'.outcomes = w.outcomes) :
    Accounted w' := by
  rw [h.accounted_iff]
  constructor
  · intro k event hevent
    rw [childEvents, hevents] at hevent
    rw [hparent, hchildren]
    exact haccounted.children k event hevent
  · intro event hevent
    rw [hevents] at hevent
    simp only [World.ended, isDone, hchildren, houtcomes event hevent]
    exact haccounted.completed event hevent

theorem childEvents_childCallback (w : World) (index : Nat) (child : Child) (outcome : Outcome) :
    (w.childCallback index child outcome).childEvents
      = w.childEvents ++ [childEvent w.entry index child outcome] := by
  simp [childEvents, childCallback, Event.child?]

/-- The callback of a child accounts for it exactly if no terminal event is out. -/
theorem Sound.accounted_child_iff (h : Sound w) (haccounted : Accounted w) {index : Nat}
    {child : Child} {outcome : Outcome} {ready : List Callback}
    (hready : w.ready = .child index child outcome :: ready) :
    Accounted ({ w with ready := ready }.childCallback index child outcome) ↔
      w.terminals = 0 := by
  have hevents := childEvents_childCallback { w with ready := ready } index child outcome
  change _ = w.childEvents ++ [childEvent w.entry index child outcome] at hevents
  constructor
  · intro h'
    by_contra hout
    have hnew := h'.children w.childEvents.length (childEvent w.entry index child outcome)
      (by rw [hevents, List.getElem?_concat_length])
    have hentry := h.entry
    rw [if_neg hout] at hentry
    rw [hentry] at hnew
    exact absurd hnew.1 (Nat.succ_ne_zero _).symm
  · intro hnone
    have hentry := h.entry
    rw [if_pos hnone] at hentry
    rw [(h.child hready).accounted_iff]
    constructor
    · intro k event hevent
      rw [hevents, List.getElem?_append] at hevent
      split at hevent
      · exact haccounted.children k event hevent
      · rename_i hk
        cases hlast : k - w.childEvents.length with
        | zero =>
          rw [hlast] at hevent
          obtain rfl := Option.some.inj hevent
          rw [hentry]
          have hlength : k = w.childEvents.length := by omega
          exact ⟨by rw [hlength]; rfl, rfl, rfl⟩
        | succ n =>
          rw [hlast] at hevent
          cases hevent
    · intro event hevent
      obtain hold | hnew := List.mem_append.mp hevent
      · exact haccounted.completed event hold
      · cases List.mem_singleton.mp hnew

/-- The callback of the outer future accounts for the children exactly if it does not report a
    result, or no child has failed or was cancelled. -/
theorem Sound.accounted_gather_iff (h : Sound w) (haccounted : Accounted w) {outcome : Outcome}
    {ready : List Callback} (hready : w.ready = .gather outcome :: ready) :
    Accounted ({ w with ready := ready }.gatherCallback outcome) ↔
      (outcome = .succeeded → w.ended .failed = 0 ∧ w.ended .cancelled = 0) := by
  have hcount := h.outer
  rw [hready, List.countP_cons] at hcount
  simp only [Callback.isGather, if_true] at hcount
  have hnone : w.terminals = 0 := by
    have hle := Bool.toNat_le w.outer.isSome
    omega
  have hentry := h.entry
  rw [if_pos hnone] at hentry
  have hsome : w.outer = some outcome :=
    h.gathers outcome (by rw [hready]; exact List.mem_cons_self)
  have hchildren : ChildrenCounted ({ w with ready := ready }.gatherCallback outcome) := by
    intro k event hevent
    rw [childEvents_gatherCallback] at hevent
    exact haccounted.children k event hevent
  rw [(h.gather hready).accounted_iff, and_iff_right hchildren]
  cases outcome with
  | failed =>
    refine iff_of_true (fun event hevent => ?_) (fun hresult => by cases hresult)
    obtain hold | hnew := List.mem_append.mp hevent
    · exact haccounted.completed event hold
    · cases List.mem_singleton.mp hnew
  | cancelled =>
    refine iff_of_true (fun event hevent => ?_) (fun hresult => by cases hresult)
    obtain hold | hnew := List.mem_append.mp hevent
    · exact haccounted.completed event hold
    · cases List.mem_singleton.mp hnew
  | succeeded =>
    -- nothing but this callback is left, so every child has been counted
    have hlast : ready = [] := by
      obtain ⟨before, hbefore⟩ := h.last hsome hnone
      rw [hready] at hbefore
      cases before with
      | nil => exact (List.cons.inj hbefore).2
      | cons first before =>
        exfalso
        have hmore : ready = before ++ [.gather .succeeded] := (List.cons.inj hbefore).2
        rw [hmore, List.countP_append] at hcount
        change w.terminals + (before.countP _ + 1 + 1) = _ at hcount
        have hle := Bool.toNat_le w.outer.isSome
        omega
    have hcounted : w.childEvents.length
        = w.children.countP fun child => w.isDone child.future := by
      have hcalls := h.calls
      rw [hready, hlast] at hcalls
      exact hcalls
    have hevent : completedEvent w.entry
        = ⟨w.parent, w.children.length, w.childEvents.length, 0, 0⟩ := by
      rw [hentry]
      rfl
    constructor
    · intro h' _
      have hnew := h' (completedEvent w.entry) (List.mem_append_right _ (List.mem_singleton.mpr rfl))
      rw [hevent] at hnew
      exact ⟨hnew.2.1.symm, hnew.2.2.symm⟩
    · intro hzero event hmem
      obtain hold | hnew := List.mem_append.mp hmem
      · exact haccounted.completed event hold
      · obtain rfl := Event.completed.inj (List.mem_singleton.mp hnew)
        change (completedEvent w.entry).completedCount = _ ∧
          (completedEvent w.entry).failedChildren = _ ∧ _
        rw [hevent]
        exact ⟨hcounted, (hzero rfl).1.symm, (hzero rfl).2.symm⟩

/-- From an accounted state a step leads to an accounted one exactly if it is orderly. -/
theorem Sound.accounted_step_iff (h : Sound w) (haccounted : Accounted w) {a : Action}
    (hstep : World.step w a = some w') : Accounted w' ↔ Orderly w a := by
  have hsound := h.step hstep
  cases a with
  | finish future outcome =>
    refine iff_of_true ?_ trivial
    simp only [World.step] at hstep
    split at hstep
    · rename_i hfuture
      cases hstep
      refine hsound.accounted_of_events haccounted rfl rfl rfl fun event hevent => ?_
      obtain ⟨child, hchild, hfuture'⟩ := mem_futures.mp hfuture.1
      have hdone := h.allDone (h.completed event hevent) child hchild
      rw [hfuture', hfuture.2] at hdone
      cases hdone
    · cases hstep
  | cancel =>
    refine iff_of_true ?_ trivial
    simp only [World.step] at hstep
    split at hstep
    · cases hstep
    · cases hstep
      exact hsound.accounted_of_events haccounted rfl rfl rfl fun _ _ => rfl
  | turn =>
    simp only [World.step] at hstep
    split at hstep
    · rename_i callback ready hready
      cases hstep
      cases callback with
      | own outcome =>
        obtain ⟨outer, ready', heq, -⟩ := ownCallback_cases { w with ready := ready } outcome
        refine iff_of_true ?_ (by simp only [Orderly, hready])
        change Accounted ({ w with ready := ready }.ownCallback outcome)
        change Sound ({ w with ready := ready }.ownCallback outcome) at hsound
        rw [heq] at hsound ⊢
        exact hsound.accounted_of_events haccounted rfl rfl rfl fun _ _ => rfl
      | child index child outcome =>
        simp only [Orderly, hready]
        exact h.accounted_child_iff haccounted hready
      | gather outcome =>
        refine (h.accounted_gather_iff haccounted hready).trans ?_
        simp only [Orderly, hready]
        cases outcome <;> simp
    · cases hstep

/-! ## Runs -/

section Runs

variable (children : List Child) (parent : Option String) (returnExceptions : Bool)
  (outcomes : Nat → Option Outcome)

theorem accounted_gather : Accounted (gather children parent returnExceptions outcomes) := by
  have hevents := events_gather children parent returnExceptions outcomes
  rw [(sound_gather children parent returnExceptions outcomes).accounted_iff]
  constructor
  · intro k event hevent
    rw [childEvents, hevents] at hevent
    cases hevent
  · intro event hevent
    rw [hevents] at hevent
    cases hevent

/-- A run accounts for the children in every state exactly if it is orderly. -/
theorem accounted_iff_allSteps_orderly (acts : List Action)
    (hrun : exec step (gather children parent returnExceptions outcomes) acts = some w') :
    AllStates step Accounted (gather children parent returnExceptions outcomes) acts ↔
      AllSteps step Orderly (gather children parent returnExceptions outcomes) acts :=
  allStates_iff_allSteps (fun _ _ _ h hstep => h.step hstep)
    (fun _ _ _ h haccounted hstep => h.accounted_step_iff haccounted hstep)
    (sound_gather children parent returnExceptions outcomes)
    (accounted_gather children parent returnExceptions outcomes) hrun

end Runs

/-- Two children. -/
def pair : List Child := [⟨0, "t-1"⟩, ⟨1, "t-2"⟩]

/-- The first child fails, and so does the gather; then the second one succeeds. -/
def lateRun : List Action :=
  [.finish 0 .failed, .turn, .turn, .turn, .finish 1 .succeeded, .turn, .turn]

/-- Both fail with `return_exceptions`, and the gather completes. -/
def returnedRun : List Action :=
  [.finish 0 .failed, .turn, .turn, .finish 1 .failed, .turn, .turn, .turn]

/-- The second child is reported as number 0 of 0 children of nobody, and the gather that
    completes as one without a failed child. -/
theorem not_accounted_lateRun :
    (∃ w, exec step (gather pair (some "t-0") false fun _ => none) lateRun = some w ∧
      w.childEvents.map (fun event => (event.completedCount, event.childCount, event.parent))
        = [(1, 2, some "t-0"), (0, 0, none)] ∧ ¬ Accounted w) ∧
    ∃ w, exec step (gather pair (some "t-0") true fun _ => none) returnedRun = some w ∧
      w.events.filterMap Event.completed? = [⟨some "t-0", 2, 2, 0, 0⟩] ∧
      w.ended .failed = 2 ∧ ¬ Accounted w := by
  refine ⟨⟨_, rfl, rfl, fun hbad => ?_⟩, ⟨_, rfl, rfl, rfl, fun hbad => ?_⟩⟩
  · exact absurd (hbad.children 1 _ rfl).1 (by decide)
  · exact absurd (hbad.completed ⟨some "t-0", 2, 2, 0, 0⟩ (by decide)).2.1 (by decide)

/-- The second child fails when the first one has been counted. -/
def lastRun : List Action :=
  [.finish 0 .succeeded, .turn, .turn, .finish 1 .failed, .turn, .turn, .turn]

theorem accounted_lastRun :
    AllStates step Accounted (gather pair (some "t-0") false fun _ => none) lastRun := by
  refine (accounted_iff_allSteps_orderly pair (some "t-0") false _ lastRun rfl).mpr ?_
  exact .cons rfl trivial (.cons rfl trivial (.cons rfl rfl (.cons rfl trivial (.cons rfl trivial
    (.cons rfl rfl (.cons rfl trivial trivial))))))

end World

end AsyncViz.Instrumentation.Gather
