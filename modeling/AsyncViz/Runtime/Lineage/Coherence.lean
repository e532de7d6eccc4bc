/-
  AsyncViz.Runtime.Lineage.Coherence

  The ancestor cache of the `LineageTracker` over whole runs of `register` and
  `unregister`.

  A cached chain is right when it is what a walk over `parent_of` finds up to the
  first parent that is not tracked.  `unregister` repairs the chains of the direct
  children only and `register` repairs none, so a run keeps the cache right exactly
  when no removed task has a tracked grandchild and no new id is already named as a
  parent (`cacheCoherent_iff_repairable`).
-/

import AsyncViz.Lib.Forest
import AsyncViz.Lib.Transition
import AsyncViz.Runtime.Lineage.Tracker

namespace AsyncViz.Runtime.Lineage

open AsyncViz.Lib AsyncViz.Lib.Forest AsyncViz.Lib.Transition

namespace LineageTracker

/-- A call on a tracker. -/
inductive Action where
  | register (taskId : String) (parentTaskId : Option String)
  | unregister (taskId : String)

/-- A run of calls; a caller survives the error of a refused registration. -/
def step (t : LineageTracker) : Action → Option LineageTracker
  | .register taskId parentTaskId => some (t.register taskId parentTaskId).2
  | .unregister taskId => some (t.unregister taskId)

/-- An empty tracker with the given depth limit. -/
def initial (maxDepth : Nat) : LineageTracker := { new with maxDepth := maxDepth }

/-! ## The property -/

/-- What a walk over `parent_of` finds above a task, closest first, when it stops at
    the first parent that is not tracked. -/
def Resolves (t : LineageTracker) (taskId : String) (chain : List String) : Prop :=
  Chain t.parent (· ∈ t) taskId chain

/-- Every cached chain is the walked one. -/
def CacheCoherent (t : LineageTracker) : Prop := ∀ id ∈ t, t.Resolves id (t.ancestors id)

/-- What the reads make of the cache: the depth counts the tracked ancestors, and no
    root or chain mentions a task that is not tracked. -/
structure ReadsTracked (t : LineageTracker) : Prop where
  depthOf_eq : ∀ id ∈ t, ∀ chain, t.Resolves id chain → t.depthOf id = chain.length
  rootOf_mem : ∀ id root, t.rootOf id = some root → root ∈ t
  lineageOf_mem : ∀ id lineage, t.lineageOf id = some lineage →
    lineage.rootTaskId ∈ t ∧ ∀ a ∈ lineage.ancestorChain, a ∈ t

/-- A coherent cache makes the reads right. -/
theorem CacheCoherent.readsTracked {t : LineageTracker} (h : t.CacheCoherent) :
    t.ReadsTracked := by
  have hroot : ∀ id ∈ t, (t.ancestors id).getLast?.getD id ∈ t := by
    intro id hid
    cases hlast : (t.ancestors id).getLast? with
    | none => exact hid
    | some root => exact Chain.live_of_mem (h id hid) (List.mem_of_getLast? hlast)
  refine ⟨fun id hid chain hchain => ?_, fun id root hread => ?_, fun id lineage hread => ?_⟩
  · rw [depthOf, Chain.unique (h id hid) hchain]
  · rw [rootOf] at hread
    split at hread
    · next hid =>
      rw [← Option.some.inj hread]
      exact hroot id hid
    · cases hread
  · rw [lineageOf] at hread
    split at hread
    · next hid =>
      rw [← Option.some.inj hread]
      exact ⟨hroot id hid, fun a ha => Chain.live_of_mem (h id hid) ha⟩
    · cases hread

/-! ## The buckets -/

/-- What every run keeps of the `children_of` buckets: a bucket lists children, and a
    task with a cached chain is in the bucket of its parent. -/
structure Bucketed (t : LineageTracker) : Prop where
  parent_of_child : ∀ c q, c ∈ t.children q → t.parent c = some q
  child_of_chain : ∀ c q rest, t.ancestors c = q :: rest → c ∈ t.children q

theorem bucketed_initial (maxDepth : Nat) : (initial maxDepth).Bucketed :=
  ⟨fun _ _ h => absurd h (Finset.notMem_empty _), fun _ _ _ h => by cases h⟩

theorem Bucketed.links {t t' : LineageTracker} {taskId : String} {parentTaskId : Option String}
    (h : t.Bucketed) (hnew : taskId ∉ t) (hlinks : Links t taskId parentTaskId t') :
    t'.Bucketed := by
  refine ⟨fun c q hc => ?_, fun c q rest hchain => ?_⟩
  · rw [hlinks.children_eq] at hc
    rw [hlinks.parent_eq]
    -- a task that was in the bucket is not the new one
    have hold : c ∈ t.children q → (if c = taskId then parentTaskId else t.parent c) = some q := by
      intro hmem
      have hparent := h.parent_of_child c q hmem
      have hne : c ≠ taskId := by
        rintro rfl
        exact hnew (mem_of_parent_eq_some hparent)
      rw [if_neg hne]
      exact hparent
    split at hc
    · next hq =>
      rcases Finset.mem_insert.mp hc with rfl | hmem
      · rw [if_pos rfl]
        exact hq
      · exact hold hmem
    · exact hold hc
  · rw [hlinks.ancestors_eq] at hchain
    rw [hlinks.children_eq]
    split at hchain
    · next hid =>
      -- the new chain starts at the parent, whose bucket just gained the task
      have hq : parentTaskId = some q := by
        cases parentTaskId with
        | none => cases hchain
        | some parent =>
          rw [newChain_some] at hchain
          split at hchain
          · rw [(List.cons.inj hchain).1]
          · cases hchain
      rw [if_pos hq, hid]
      exact Finset.mem_insert_self _ _
    · have hmem := h.child_of_chain c q rest hchain
      split
      · exact Finset.mem_insert_of_mem hmem
      · exact hmem

theorem Bucketed.unlinks {t t' : LineageTracker} {taskId : String} (h : t.Bucketed)
    (hunlinks : Unlinks t taskId t') : t'.Bucketed := by
  refine ⟨fun c q hc => ?_, fun c q rest hchain => ?_⟩
  · obtain ⟨hmem, -, hself⟩ := (hunlinks.mem_children c q).mp hc
    have hparent := h.parent_of_child c q hmem
    have hne : c ≠ taskId := by
      rintro rfl
      exact hself rfl hparent
    rw [hunlinks.parent_eq, if_neg hne]
    exact hparent
  · rw [hunlinks.ancestors_eq] at hchain
    split at hchain
    · cases hchain
    · next hkeep =>
      obtain ⟨hne, hchild⟩ := not_or.mp hkeep
      have hmem := h.child_of_chain c q rest hchain
      have hq : q ≠ taskId := by
        rintro rfl
        exact hchild hmem
      exact (hunlinks.mem_children c q).mpr ⟨hmem, hq, fun heq => absurd heq hne⟩

theorem bucketed_step {t t' : LineageTracker} {a : Action} (h : t.Bucketed)
    (hstep : step t a = some t') : t'.Bucketed := by
  cases a with
  | register taskId parentTaskId =>
    have hregisters := register_registers t taskId parentTaskId
    obtain rfl := Option.some.inj hstep
    generalize t.register taskId parentTaskId = r at hregisters ⊢
    cases hregisters with
    | known => exact h
    | refused => exact ⟨h.parent_of_child, h.child_of_chain⟩
    | linked hnew hclear hlinks => exact h.links hnew hlinks
  | unregister taskId =>
    obtain rfl := Option.some.inj hstep
    exact h.unlinks (unregister_unlinks t taskId)

/-! ## The exact condition -/

/-- The calls whose repairs are enough: a registration that adds no task or whose id
    no tracked task names as its parent, and the removal of an unknown task or of one
    without tracked grandchildren. -/
def Repairable (t : LineageTracker) : Action → Prop
  | .register taskId parentTaskId =>
    taskId ∈ t ∨
      (∃ parent, parentTaskId = some parent ∧
        detectCycle parent taskId t.parentOf t.maxDepth = true) ∨
      ∀ c, t.parent c ≠ some taskId
  | .unregister taskId =>
    taskId ∉ t ∨ ∀ c, t.parent c = some taskId → ∀ d, t.parent d ≠ some c

/-- Linking a new task that nobody names as a parent leaves every walk as it was. -/
theorem Resolves.links {t t' : LineageTracker} {taskId : String} {parentTaskId : Option String}
    (hnew : taskId ∉ t) (hlinks : Links t taskId parentTaskId t')
    (hfree : ∀ c, t.parent c ≠ some taskId) {id : String} {chain : List String} (hid : id ∈ t)
    (h : t.Resolves id chain) : t'.Resolves id chain := by
  refine Chain.congr (s := (· ∈ t)) (fun x hx => ?_) (fun x p hx hp => ?_)
    (fun x p hx hp hlive => hlive) hid h
  · have hne : x ≠ taskId := by
      rintro rfl
      exact hnew hx
    rw [hlinks.parent_eq, if_neg hne]
  · have hne : p ≠ taskId := by
      rintro rfl
      exact hfree x hp
    rw [hlinks.mem_iff, or_iff_right hne]

theorem coherent_links_iff {t t' : LineageTracker} {taskId : String}
    {parentTaskId : Option String} (h : t.CacheCoherent) (hnew : taskId ∉ t)
    (hclear : ∀ parent, parentTaskId = some parent →
      detectCycle parent taskId t.parentOf t.maxDepth = false)
    (hlinks : Links t taskId parentTaskId t') :
    t'.CacheCoherent ↔ ∀ c, t.parent c ≠ some taskId := by
  constructor
  · intro h' c hparent
    have hc : c ∈ t := mem_of_parent_eq_some hparent
    have hne : c ≠ taskId := by
      rintro rfl
      exact hnew hc
    -- the chain was cached while the parent was untracked, and it is still the same
    have hnil : t.ancestors c = [] := Chain.eq_nil (h c hc) hparent hnew
    have hwalk := h' c (hlinks.mem_iff.mpr (.inr hc))
    rw [hlinks.ancestors_eq, if_neg hne, hnil] at hwalk
    have hparent' : t'.parent c = some taskId := by
      rw [hlinks.parent_eq, if_neg hne]
      exact hparent
    obtain ⟨rest, hcons, -⟩ := Chain.eq_cons hwalk hparent' (hlinks.mem_iff.mpr (.inl rfl))
    cases hcons
  · intro hfree id hid
    rw [hlinks.ancestors_eq]
    rcases hlinks.mem_iff.mp hid with rfl | hold
    · rw [if_pos rfl]
      have hparent : t'.parent id = parentTaskId := by
        rw [hlinks.parent_eq, if_pos rfl]
      cases parentTaskId with
      | none => exact .top fun p hp => by rw [hparent] at hp; cases hp
      | some parent =>
        rw [newChain_some]
        split
        · next hknown =>
          exact .up hparent (hlinks.mem_iff.mpr (.inr hknown))
            (Resolves.links hnew hlinks hfree hknown (h parent hknown))
        · next hunknown =>
          refine .top fun p hp => ?_
          rw [hparent] at hp
          obtain rfl := Option.some.inj hp
          -- the cycle test excludes a task that names itself
          have hne : parent ≠ id := by
            rintro rfl
            have htest := hclear parent rfl
            rw [detectCycle] at htest
            rw [if_pos rfl] at htest
            cases htest
          exact fun hmem => hunknown ((hlinks.mem_iff.mp hmem).resolve_left hne)
    · have hne : id ≠ taskId := by
        rintro rfl
        exact hnew hold
      rw [if_neg hne]
      exact Resolves.links hnew hlinks hfree hold (h id hold)

theorem coherent_unlinks_iff {t t' : LineageTracker} {taskId : String} (hb : t.Bucketed)
    (h : t.CacheCoherent) (hunlinks : Unlinks t taskId t') :
    t'.CacheCoherent ↔
      taskId ∉ t ∨ ∀ c, t.parent c = some taskId → ∀ d, t.parent d ≠ some c := by
  have hgone : taskId ∉ t' := fun hmem => (hunlinks.mem_iff.mp hmem).1 rfl
  constructor
  · intro h'
    by_cases hmem : taskId ∈ t
    · refine .inr fun c hc d hd => ?_
      have hct : c ∈ t := mem_of_parent_eq_some hc
      have hdt : d ∈ t := mem_of_parent_eq_some hd
      -- before the removal the grandchild's chain runs through the task
      obtain ⟨rest, hchain, hwalk⟩ := Chain.eq_cons (h d hdt) hd hct
      obtain ⟨rest', hrest, hwalk'⟩ := Chain.eq_cons hwalk hc hmem
      have hcne : c ≠ taskId := by
        rintro rfl
        have hlen := congrArg List.length (Chain.unique hwalk hwalk')
        rw [hrest, List.length_cons] at hlen
        omega
      have hdne : d ≠ taskId := by
        rintro rfl
        have hlen := congrArg List.length (Chain.unique (h d hdt) hwalk')
        rw [hchain, hrest, List.length_cons, List.length_cons] at hlen
        omega
      have hnot : d ∉ t.children taskId := by
        intro hchild
        have hparent := hb.parent_of_child d taskId hchild
        rw [hd] at hparent
        exact hcne (Option.some.inj hparent)
      -- and the removal does not touch that chain
      have hstale : taskId ∈ t'.ancestors d := by
        rw [hunlinks.ancestors_eq, if_neg (not_or.mpr ⟨hdne, hnot⟩), hchain, hrest]
        simp
      exact hgone (Chain.live_of_mem (h' d (hunlinks.mem_iff.mpr ⟨hdne, hdt⟩)) hstale)
    · exact .inl hmem
  · intro hrepairable id hid
    obtain ⟨hne, hold⟩ := hunlinks.mem_iff.mp hid
    have hparent' : ∀ x, x ≠ taskId → t'.parent x = t.parent x := fun x hx => by
      rw [hunlinks.parent_eq, if_neg hx]
    rw [hunlinks.ancestors_eq]
    by_cases hchild : id ∈ t.children taskId
    · rw [if_pos (.inr hchild)]
      refine .top fun p hp => ?_
      rw [hparent' id hne, hb.parent_of_child id taskId hchild] at hp
      rw [← Option.some.inj hp]
      exact hgone
    · rw [if_neg (not_or.mpr ⟨hne, hchild⟩)]
      -- a walk that is not below the task does not meet it
      refine Chain.congr
        (s := fun x => x ∈ t ∧ x ≠ taskId ∧ (taskId ∈ t → t.parent x ≠ some taskId))
        (fun x hx => hparent' x hx.2.1) (fun x p hx hp => ?_) (fun x p hx hp hlive => ?_)
        ⟨hold, hne, fun hmem hparent => ?_⟩ (h id hold)
      · rw [hunlinks.mem_iff]
        refine and_iff_right_of_imp fun hlive => ?_
        rintro rfl
        exact hx.2.2 hlive hp
      · refine ⟨hlive, ?_, fun hmem hup => ?_⟩
        · rintro rfl
          exact hx.2.2 hlive hp
        · exact (hrepairable.resolve_left fun hno => hno hmem) p hup x hp
      · obtain ⟨rest, hchain, -⟩ := Chain.eq_cons (h id hold) hparent hmem
        exact hchild (hb.child_of_chain id taskId rest hchain)

/-- A call keeps the cache right exactly when it is repairable. -/
theorem coherent_step_iff {t t' : LineageTracker} {a : Action} (hb : t.Bucketed)
    (h : t.CacheCoherent) (hstep : step t a = some t') : t'.CacheCoherent ↔ t.Repairable a := by
  cases a with
  | register taskId parentTaskId =>
    have hregisters := register_registers t taskId parentTaskId
    obtain rfl := Option.some.inj hstep
    show _ ↔ (taskId ∈ t ∨ (∃ parent, parentTaskId = some parent ∧
      detectCycle parent taskId t.parentOf t.maxDepth = true) ∨ ∀ c, t.parent c ≠ some taskId)
    generalize t.register taskId parentTaskId = r at hregisters ⊢
    cases hregisters with
    | known hmem => exact iff_of_true h (.inl hmem)
    | refused hnew hparent hcycle => exact iff_of_true h (.inr (.inl ⟨_, hparent, hcycle⟩))
    | linked hnew hclear hlinks =>
      have hnotcycle : ¬ ∃ parent, parentTaskId = some parent ∧
          detectCycle parent taskId t.parentOf t.maxDepth = true := by
        rintro ⟨parent, hparent, hcycle⟩
        rw [hclear parent hparent] at hcycle
        cases hcycle
      rw [or_iff_right hnew, or_iff_right hnotcycle]
      exact coherent_links_iff h hnew hclear hlinks
  | unregister taskId =>
    obtain rfl := Option.some.inj hstep
    exact coherent_unlinks_iff hb h (unregister_unlinks t taskId)

/-! ## Whole runs -/

/-- The cached chains are the walked ones, and the reads mention tracked tasks only,
    in every state of a run exactly when every call of the run is repairable. -/
theorem cacheCoherent_iff_repairable (maxDepth : Nat) (acts : List Action) :
    AllStates step (fun t => t.CacheCoherent ∧ t.ReadsTracked) (initial maxDepth) acts ↔
      AllSteps step Repairable (initial maxDepth) acts := by
  -- a refused registration is a step as well
  have htotal : ∀ (t : LineageTracker) (a : Action), ∃ t', step t a = some t' := by
    intro t a
    cases a <;> exact ⟨_, rfl⟩
  obtain ⟨t, hrun⟩ := exec_isSome htotal (initial maxDepth) acts
  have hstart : (initial maxDepth).CacheCoherent := fun id hid => absurd hid (Dict.not_mem_empty id)
  refine allStates_iff_allSteps (J := Bucketed) (fun t a t' hb hstep => bucketed_step hb hstep)
    (fun t a t' hb h hstep => ?_) (bucketed_initial maxDepth) ⟨hstart, hstart.readsTracked⟩ hrun
  rw [← coherent_step_iff hb h.1 hstep]
  exact ⟨fun h' => h'.1, fun h' => ⟨h', h'.readsTracked⟩⟩

/-- The removal of a grandparent leaves its id in the cached chain of the grandchild. -/
theorem not_cacheCoherent_after_unregister :
    ¬ ∀ (acts : List Action) (t : LineageTracker),
      exec step (initial defaultMaxDepth) acts = some t →
      t.CacheCoherent ∧ t.ReadsTracked := by
  intro hall
  obtain ⟨-, hreads⟩ := hall
    [.register "a" none, .register "b" (some "a"), .register "c" (some "b"), .unregister "a"] _ rfl
  have hroot := hreads.rootOf_mem "c" "a" (by decide +kernel)
  revert hroot
  decide +kernel

end LineageTracker

end AsyncViz.Runtime.Lineage
