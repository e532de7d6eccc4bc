/-
  AsyncViz.Lib.Transition

  Executable labelled transition systems: a partial step function
  `step : σ → α → Option σ`, its finite runs, and the rules that lift facts
  about one step to facts about a whole run.

  * `exec` runs a list of actions; `none` means an action was not enabled.
  * `Reachable` is what some run from a start state reaches.
  * `AllSteps` says that every step a run takes meets a condition on the state
    before the step and the action; `AllStates` that every state meets one.
  * `exec_invariant` / `exec_invariant_of_allSteps` are the run rules: an
    invariant of one step is an invariant of every run.
  * `exec_history` is the rule for an invariant that speaks of the actions taken so far.
  * `allStates_of_allSteps` is the same rule for every state along the run, and
    `allStates_iff_allSteps` the one for conditions that are exact for a step
    (`allStates_iff_allSteps_of_keep` where only the good steps keep an invariant,
    `allSteps_of_keep` and `allSteps_iff_of_keep` for two conditions on the steps).
  * `lastOutput` is the last thing that a run was seen to do, and `exec_lastOutput` the rule
    for invariants that speak of it.
  * `exec_project` is the rule for stuttering forward simulations given by a
    projection of the states, `exec_map_project` the one for projections that hide nothing
    of what is enabled; `labels` are the steps of the smaller system that a run makes.

  Nothing here depends on what the states and actions are.
-/

import Mathlib.Data.List.Basic

namespace AsyncViz.Lib.Transition

variable {σ α : Type _}

/-- Run `acts` from `s`; `none` when some action is not enabled where it is taken. -/
def exec (step : σ → α → Option σ) : σ → List α → Option σ
  | s, [] => some s
  | s, a :: acts => (step s a).bind fun s' => exec step s' acts

/-- Some run from `init` ends in `s`. -/
def Reachable (step : σ → α → Option σ) (init s : σ) : Prop :=
  ∃ acts, exec step init acts = some s

/-- Every step that the run of `acts` from `s` takes meets `P`, a condition on
    the state before the step and on the action. -/
def AllSteps (step : σ → α → Option σ) (P : σ → α → Prop) : σ → List α → Prop
  | _, [] => True
  | s, a :: acts => P s a ∧ ∀ s', step s a = some s' → AllSteps step P s' acts

/-- Every state along the run of `acts` from `s` meets `I`, both ends included. -/
def AllStates (step : σ → α → Option σ) (I : σ → Prop) : σ → List α → Prop
  | s, [] => I s
  | s, a :: acts => I s ∧ ∀ s', step s a = some s' → AllStates step I s' acts

section Runs

variable {step : σ → α → Option σ}

@[simp] theorem exec_nil (s : σ) : exec step s [] = some s := rfl

theorem exec_cons (s : σ) (a : α) (acts : List α) :
    exec step s (a :: acts) = (step s a).bind fun s' => exec step s' acts := rfl

theorem exec_cons_eq_some {s s'' : σ} {a : α} {acts : List α} :
    exec step s (a :: acts) = some s'' ↔
      ∃ s', step s a = some s' ∧ exec step s' acts = some s'' := by
  rw [exec_cons, Option.bind_eq_some_iff]

/-- Where every action is enabled, every run goes through. -/
theorem exec_isSome (htotal : ∀ s a, ∃ s', step s a = some s') (s : σ) (acts : List α) :
    ∃ s', exec step s acts = some s' := by
  induction acts generalizing s with
  | nil => exact ⟨s, rfl⟩
  | cons a acts ih =>
    obtain ⟨mid, hmid⟩ := htotal s a
    obtain ⟨s', hs'⟩ := ih mid
    exact ⟨s', exec_cons_eq_some.mpr ⟨mid, hmid, hs'⟩⟩

theorem exec_append (s : σ) (acts₁ acts₂ : List α) :
    exec step s (acts₁ ++ acts₂)
      = (exec step s acts₁).bind fun s' => exec step s' acts₂ := by
  induction acts₁ generalizing s with
  | nil => rfl
  | cons a acts₁ ih =>
    rw [List.cons_append, exec_cons, exec_cons, Option.bind_assoc]
    congr 1
    funext s'
    exact ih s'

theorem exec_append_of_eq_some {s s' : σ} {acts₁ : List α} (acts₂ : List α)
    (h : exec step s acts₁ = some s') :
    exec step s (acts₁ ++ acts₂) = exec step s' acts₂ := by
  rw [exec_append, h, Option.bind_some]

theorem exec_concat_eq_some {s s'' : σ} {acts : List α} {a : α} :
    exec step s (acts ++ [a]) = some s'' ↔
      ∃ s', exec step s acts = some s' ∧ step s' a = some s'' := by
  rw [exec_append, Option.bind_eq_some_iff]
  simp only [exec_cons_eq_some, exec_nil, Option.some.injEq, exists_eq_right]

/-- A run that does not go through stops at an action that is not enabled where the actions
    before it end. -/
theorem exec_eq_none_iff {s : σ} {acts : List α} :
    exec step s acts = none ↔
      ∃ before a after mid, acts = before ++ a :: after ∧ exec step s before = some mid ∧
        step mid a = none := by
  constructor
  · intro h
    induction acts generalizing s with
    | nil => cases h
    | cons a acts ih =>
      cases hstep : step s a with
      | none => exact ⟨[], a, acts, s, rfl, rfl, hstep⟩
      | some s' =>
        rw [exec_cons, hstep] at h
        obtain ⟨before, b, after, mid, rfl, hbefore, hb⟩ := ih h
        exact ⟨a :: before, b, after, mid, rfl, exec_cons_eq_some.mpr ⟨s', hstep, hbefore⟩, hb⟩
  · rintro ⟨before, a, after, mid, rfl, hbefore, ha⟩
    rw [exec_append, hbefore, Option.bind_some, exec_cons, ha, Option.bind_none]

theorem reachable_refl (s : σ) : Reachable step s s := ⟨[], rfl⟩

theorem Reachable.snoc {init s s' : σ} {a : α} (h : Reachable step init s)
    (hstep : step s a = some s') : Reachable step init s' := by
  obtain ⟨acts, hacts⟩ := h
  refine ⟨acts ++ [a], ?_⟩
  rw [exec_append_of_eq_some _ hacts, exec_cons, hstep]
  rfl

theorem Reachable.trans {init s s' : σ} (h : Reachable step init s)
    (h' : Reachable step s s') : Reachable step init s' := by
  obtain ⟨acts, hacts⟩ := h
  obtain ⟨acts', hacts'⟩ := h'
  exact ⟨acts ++ acts', by rw [exec_append_of_eq_some _ hacts, hacts']⟩

/-! ## Run rules -/

theorem allSteps_true {s : σ} {acts : List α} : AllSteps step (fun _ _ => True) s acts := by
  induction acts generalizing s with
  | nil => trivial
  | cons a acts ih => exact ⟨trivial, fun _ _ => ih⟩

/-- A run whose first action is enabled meets a condition exactly when its first step and
    the rest do. -/
theorem allSteps_cons_iff {P : σ → α → Prop} {s s' : σ} {a : α} {acts : List α}
    (hstep : step s a = some s') :
    AllSteps step P s (a :: acts) ↔ P s a ∧ AllSteps step P s' acts := by
  refine and_congr_right fun _ => ⟨fun h => h s' hstep, fun h t ht => ?_⟩
  rw [hstep] at ht
  rwa [← Option.some.inj ht]

/-- A condition that can be decided of a step can be decided of a run. -/
instance decidableAllSteps {P : σ → α → Prop} [∀ s a, Decidable (P s a)] :
    ∀ (s : σ) (acts : List α), Decidable (AllSteps step P s acts)
  | _, [] => .isTrue trivial
  | s, a :: acts =>
    match h : step s a with
    | none => decidable_of_iff (P s a) ⟨fun hP => ⟨hP, fun s' hs' => by simp [h] at hs'⟩, And.left⟩
    | some s' =>
      haveI := decidableAllSteps (P := P) s' acts
      decidable_of_iff _ (allSteps_cons_iff h).symm

/-- The conditional run rule: a state predicate that every step meeting `P`
    preserves survives every run all of whose steps meet `P`. -/
theorem exec_invariant_of_allSteps {P : σ → α → Prop} {I : σ → Prop}
    (hstep : ∀ s a s', I s → P s a → step s a = some s' → I s')
    {s s' : σ} {acts : List α} (hinit : I s) (hall : AllSteps step P s acts)
    (hrun : exec step s acts = some s') : I s' := by
  induction acts generalizing s with
  | nil =>
    cases hrun
    exact hinit
  | cons a acts ih =>
    obtain ⟨mid, hmid, hrest⟩ := exec_cons_eq_some.mp hrun
    exact ih (hstep s a mid hinit hall.1 hmid) (hall.2 mid hmid) hrest

/-- The run rule: what every step preserves, every run preserves. -/
theorem exec_invariant {I : σ → Prop}
    (hstep : ∀ s a s', I s → step s a = some s' → I s')
    {s s' : σ} {acts : List α} (hinit : I s)
    (hrun : exec step s acts = some s') : I s' :=
  exec_invariant_of_allSteps (P := fun _ _ => True) (fun s a s' hs _ => hstep s a s' hs) hinit
    allSteps_true hrun

theorem Reachable.invariant {I : σ → Prop}
    (hstep : ∀ s a s', I s → step s a = some s' → I s')
    {init s : σ} (hinit : I init) (h : Reachable step init s) : I s := by
  obtain ⟨acts, hacts⟩ := h
  exact exec_invariant hstep hinit hacts

/-- The run rule for an invariant of the state and the actions that led to it. -/
theorem exec_history {I : List α → σ → Prop}
    (hstep : ∀ before s a s', I before s → step s a = some s' → I (before ++ [a]) s')
    (before : List α) {s s' : σ} {acts : List α} (hinit : I before s)
    (hrun : exec step s acts = some s') : I (before ++ acts) s' := by
  induction acts generalizing before s with
  | nil =>
    cases hrun
    rwa [List.append_nil]
  | cons a acts ih =>
    obtain ⟨mid, hmid, hrest⟩ := exec_cons_eq_some.mp hrun
    have hlater := ih _ (hstep before s a mid hinit hmid) hrest
    rwa [List.append_assoc] at hlater

/-- The rule for facts that relate the two ends of a run. -/
theorem exec_relates {R : σ → σ → Prop} (hrefl : ∀ s, R s s)
    (htrans : ∀ {s t u}, R s t → R t u → R s u)
    (hstep : ∀ s a s', step s a = some s' → R s s')
    {s s' : σ} {acts : List α} (hrun : exec step s acts = some s') : R s s' := by
  induction acts generalizing s with
  | nil =>
    cases hrun
    exact hrefl _
  | cons a acts ih =>
    obtain ⟨mid, hmid, hrest⟩ := exec_cons_eq_some.mp hrun
    exact htrans (hstep s a mid hmid) (ih hrest)

/-! ## Observations -/

/-- The last of the outputs that the steps of a run give, `b` before the first one. -/
def lastOutput {β : Type _} (step : σ → α → Option σ) (out : σ → α → Option β) :
    β → σ → List α → β
  | b, _, [] => b
  | b, s, a :: acts =>
    match step s a with
    | none => b
    | some s' => lastOutput step out ((out s a).getD b) s' acts

/-- The run rule for an invariant of the state and the last output. -/
theorem exec_lastOutput {β : Type _} {out : σ → α → Option β} {I : σ → β → Prop}
    (hstep : ∀ s b a s', I s b → step s a = some s' → I s' ((out s a).getD b))
    {s s' : σ} {b : β} {acts : List α} (hinit : I s b) (hrun : exec step s acts = some s') :
    I s' (lastOutput step out b s acts) := by
  induction acts generalizing s b with
  | nil =>
    cases hrun
    exact hinit
  | cons a acts ih =>
    obtain ⟨mid, hmid, hrest⟩ := exec_cons_eq_some.mp hrun
    rw [lastOutput, hmid]
    exact ih (hstep s b a mid hinit hmid) hrest

/-! ## Conditions along a run -/

theorem AllSteps.and {P Q : σ → α → Prop} {s : σ} {acts : List α} (hP : AllSteps step P s acts)
    (hQ : AllSteps step Q s acts) : AllSteps step (fun s a => P s a ∧ Q s a) s acts := by
  induction acts generalizing s with
  | nil => trivial
  | cons a acts ih => exact ⟨⟨hP.1, hQ.1⟩, fun s' hs' => ih (hP.2 s' hs') (hQ.2 s' hs')⟩

/-- The rule for a run that is taken step by step. -/
theorem AllSteps.cons {P : σ → α → Prop} {s s' : σ} {a : α} {acts : List α}
    (hstep : step s a = some s') (ha : P s a) (hrest : AllSteps step P s' acts) :
    AllSteps step P s (a :: acts) := by
  refine ⟨ha, fun t ht => ?_⟩
  rw [hstep] at ht
  rw [← Option.some.inj ht]
  exact hrest

theorem allSteps_append {P : σ → α → Prop} {s : σ} {acts₁ acts₂ : List α} :
    AllSteps step P s (acts₁ ++ acts₂) ↔
      AllSteps step P s acts₁ ∧
        ∀ s', exec step s acts₁ = some s' → AllSteps step P s' acts₂ := by
  induction acts₁ generalizing s with
  | nil => simp [AllSteps, exec]
  | cons a acts₁ ih =>
    constructor
    · rintro ⟨ha, hrest⟩
      refine ⟨⟨ha, fun s' hs' => (ih.mp (hrest s' hs')).1⟩, ?_⟩
      intro s'' hs''
      obtain ⟨s', hs', hs''⟩ := exec_cons_eq_some.mp hs''
      exact (ih.mp (hrest s' hs')).2 s'' hs''
    · rintro ⟨⟨ha, hrest⟩, hlast⟩
      refine ⟨ha, fun s' hs' => ih.mpr ⟨hrest s' hs', ?_⟩⟩
      intro s'' hs''
      exact hlast s'' (exec_cons_eq_some.mpr ⟨s', hs', hs''⟩)

theorem AllStates.head {I : σ → Prop} {s : σ} {acts : List α}
    (h : AllStates step I s acts) : I s := by
  cases acts with
  | nil => exact h
  | cons a acts => exact h.1

/-- The rule for exact conditions: `K` implies `I` and is kept by the steps that meet `P`,
    and every other step leads from `K` to a state without `I`; so a run stays in `I` exactly
    if all of its steps meet `P`. -/
theorem allStates_iff_allSteps_of_keep {P : σ → α → Prop} {I K : σ → Prop}
    (hKI : ∀ s, K s → I s)
    (hkeep : ∀ s a s', K s → P s a → step s a = some s' → K s')
    (hbreak : ∀ s a s', K s → ¬ P s a → step s a = some s' → ¬ I s')
    {s s' : σ} {acts : List α} (hK : K s) (hrun : exec step s acts = some s') :
    AllStates step I s acts ↔ AllSteps step P s acts := by
  induction acts generalizing s with
  | nil => exact iff_of_true (hKI s hK) trivial
  | cons a acts ih =>
    obtain ⟨mid, hmid, hrest⟩ := exec_cons_eq_some.mp hrun
    have honly : ∀ t, step s a = some t → t = mid := by
      intro t ht
      rw [hmid] at ht
      exact (Option.some.inj ht).symm
    constructor
    · rintro ⟨-, hall⟩
      have hgood := hall mid hmid
      have ha : P s a := by
        by_contra hnot
        exact hbreak s a mid hK hnot hmid hgood.head
      refine ⟨ha, fun t ht => ?_⟩
      rw [honly t ht]
      exact (ih (hkeep s a mid hK ha hmid) hrest).mp hgood
    · rintro ⟨ha, hall⟩
      refine ⟨hKI s hK, fun t ht => ?_⟩
      rw [honly t ht]
      exact (ih (hkeep s a mid hK ha hmid) hrest).mpr (hall mid hmid)

/-- The same rule where a step from a good state leads to a good state exactly if it meets
    `P`.  `J` is what every step preserves anyway. -/
theorem allStates_iff_allSteps {P : σ → α → Prop} {I J : σ → Prop}
    (hkeep : ∀ s a s', J s → step s a = some s' → J s')
    (hexact : ∀ s a s', J s → I s → step s a = some s' → (I s' ↔ P s a))
    {s s' : σ} {acts : List α} (hJ : J s) (hI : I s) (hrun : exec step s acts = some s') :
    AllStates step I s acts ↔ AllSteps step P s acts :=
  allStates_iff_allSteps_of_keep (K := fun s => J s ∧ I s) (fun _ hs => hs.2)
    (fun s a s' hs ha hstep => ⟨hkeep s a s' hs.1 hstep, (hexact s a s' hs.1 hs.2 hstep).mpr ha⟩)
    (fun s a s' hs ha hstep hI' => ha ((hexact s a s' hs.1 hs.2 hstep).mp hI')) ⟨hJ, hI⟩ hrun

/-- The rule for a condition that follows from an invariant of the steps that meet `R`. -/
theorem allSteps_of_keep {P R : σ → α → Prop} {K : σ → Prop}
    (hP : ∀ s a, K s → R s a → P s a)
    (hkeep : ∀ s a s', K s → R s a → step s a = some s' → K s')
    {s : σ} {acts : List α} (hK : K s) (hR : AllSteps step R s acts) :
    AllSteps step P s acts := by
  induction acts generalizing s with
  | nil => trivial
  | cons a acts ih =>
    exact ⟨hP s a hK hR.1, fun s' hs' => ih (hkeep s a s' hK hR.1 hs') (hR.2 s' hs')⟩

/-- The rule for conditions that say the same of a step, in the runs whose steps meet `R`: `K`
    is what the steps that meet `R` and `P` preserve. -/
theorem allSteps_iff_of_keep {P Q R : σ → α → Prop} {K : σ → Prop}
    (hexact : ∀ s a, K s → R s a → (P s a ↔ Q s a))
    (hkeep : ∀ s a s', K s → R s a → P s a → step s a = some s' → K s')
    {s : σ} {acts : List α} (hK : K s) (hR : AllSteps step R s acts) :
    AllSteps step P s acts ↔ AllSteps step Q s acts := by
  induction acts generalizing s with
  | nil => exact Iff.rfl
  | cons a acts ih =>
    have hone := hexact s a hK hR.1
    constructor
    · rintro ⟨hP, hrest⟩
      refine ⟨hone.mp hP, fun s' hs' => ?_⟩
      exact (ih (hkeep s a s' hK hR.1 hP hs') (hR.2 s' hs')).mp (hrest s' hs')
    · rintro ⟨hQ, hrest⟩
      have hP := hone.mpr hQ
      refine ⟨hP, fun s' hs' => ?_⟩
      exact (ih (hkeep s a s' hK hR.1 hP hs') (hR.2 s' hs')).mpr (hrest s' hs')

/-- The rule for conditions on the actions alone. -/
theorem allSteps_of_forall_mem {P : α → Prop} {s : σ} {acts : List α} (h : ∀ a ∈ acts, P a) :
    AllSteps step (fun _ a => P a) s acts := by
  induction acts generalizing s with
  | nil => trivial
  | cons a acts ih =>
    refine ⟨h a List.mem_cons_self, fun s' _ => ih fun b hb => ?_⟩
    exact h b (List.mem_cons_of_mem a hb)

/-- The run rule for every state along a run: an invariant of the steps that meet `P`
    holds in each of them. -/
theorem allStates_of_allSteps {P : σ → α → Prop} {I : σ → Prop}
    (hstep : ∀ s a s', I s → P s a → step s a = some s' → I s')
    {s : σ} {acts : List α} (hinit : I s) (hall : AllSteps step P s acts) :
    AllStates step I s acts := by
  induction acts generalizing s with
  | nil => exact hinit
  | cons a acts ih =>
    refine ⟨hinit, fun s' hs' => ?_⟩
    exact ih (hstep s a s' hinit hall.1 hs') (hall.2 s' hs')

theorem AllStates.mono {I K : σ → Prop} (hIK : ∀ s, I s → K s) {s : σ} {acts : List α}
    (h : AllStates step I s acts) : AllStates step K s acts := by
  induction acts generalizing s with
  | nil => exact hIK s h
  | cons a acts ih => exact ⟨hIK s h.1, fun s' hs' => ih (h.2 s' hs')⟩

end Runs

/-! ## Projections -/

section Projection

variable {σ' α' : Type _} {step : σ → α → Option σ} {step' : σ' → α' → Option σ'}

/-- A projection `f` of the states under which every step is a step of the
    smaller system or leaves the projected state alone maps runs to runs. -/
theorem exec_project (f : σ → σ') (label : α → Option α')
    (hstep : ∀ s a s', step s a = some s' →
      match label a with
      | some b => step' (f s) b = some (f s')
      | none => f s' = f s)
    {s s' : σ} {acts : List α} (hrun : exec step s acts = some s') :
    exec step' (f s) (acts.filterMap label) = some (f s') := by
  induction acts generalizing s with
  | nil =>
    cases hrun
    rfl
  | cons a acts ih =>
    obtain ⟨mid, hmid, hrest⟩ := exec_cons_eq_some.mp hrun
    have hone := hstep s a mid hmid
    cases hlabel : label a with
    | none =>
      rw [hlabel] at hone
      rw [List.filterMap_cons_none hlabel, ← hone]
      exact ih hrest
    | some b =>
      rw [hlabel] at hone
      rw [List.filterMap_cons_some hlabel]
      exact exec_cons_eq_some.mpr ⟨f mid, hone, ih hrest⟩

/-- The labels of a run, up to the first step that is not enabled. -/
def labels (step : σ → α → Option σ) (label : σ → α → Option α') : σ → List α → List α'
  | _, [] => []
  | s, a :: acts =>
    (label s a).toList ++ match step s a with
      | some s' => labels step label s' acts
      | none => []

/-- A projection under which, where `K` holds, a step with a label is enabled exactly where the
    step of the smaller system is, and leads to the same, and one without a label is always
    enabled and leaves the projected state alone: both systems have the same runs. -/
theorem exec_map_project {K : σ → Prop} (f : σ → σ') (label : σ → α → Option α')
    (hkeep : ∀ s a s', K s → step s a = some s' → K s')
    (hlabelled : ∀ s a b, K s → label s a = some b → (step s a).map f = step' (f s) b)
    (hsilent : ∀ s a, K s → label s a = none → (step s a).map f = some (f s))
    {s : σ} (hK : K s) (acts : List α) :
    (exec step s acts).map f = exec step' (f s) (labels step label s acts) := by
  induction acts generalizing s with
  | nil => rfl
  | cons a acts ih =>
    rw [labels, exec_cons]
    cases hlabel : label s a with
    | none =>
      obtain ⟨mid, hmid, hsame⟩ := Option.map_eq_some_iff.mp (hsilent s a hK hlabel)
      rw [hmid, Option.bind_some, ih (hkeep s a mid hK hmid), hsame]
      rfl
    | some b =>
      have hone := hlabelled s a b hK hlabel
      rw [Option.toList_some, List.singleton_append, exec_cons, ← hone]
      cases hmid : step s a with
      | none => rfl
      | some mid =>
        rw [Option.bind_some, Option.map_some, Option.bind_some]
        exact ih (hkeep s a mid hK hmid)

end Projection

end AsyncViz.Lib.Transition
