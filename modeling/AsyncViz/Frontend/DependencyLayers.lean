/-
  AsyncViz.Frontend.DependencyLayers

  The loop of `assignLayers`.

  `Peeled` is the state between two rounds: the nodes that are done, the rest of the
  in-degrees, and the layers as far as the done nodes give them.  A layer is written
  as soon as one predecessor is done, so a node that no round ever takes has a layer
  all the same when one of its predecessors has been taken: `Peeled.layered`.
-/

import AsyncViz.Frontend.DependencyLayout

namespace AsyncViz.Frontend.Dependencies

open AsyncViz.Lib AsyncViz.Lib.Layering Relation

namespace Layering

/-! ## One round -/

variable {fromLayer : Nat} {children : List String} {s : Layering}

/-- A child has a layer above the node, and keeps a higher one. -/
theorem get?_layers_foldl_visitChild (b : String) :
    (children.foldl (visitChild fromLayer) s).layers.get? b
      = if b ∈ children then some (max (fromLayer + 1) (layerOf s.layers b))
        else s.layers.get? b := by
  induction children generalizing s with
  | nil => rfl
  | cons c children ih =>
    rw [List.foldl_cons, ih, layerOf, visitChild]
    dsimp only
    rw [Dict.get?_set]
    by_cases hbc : b = c
    · subst hbc
      by_cases hb : b ∈ children <;> simp [hb, layerOf]
    · by_cases hb : b ∈ children <;> simp [hb, hbc, layerOf]

theorem get?_remaining_visitChild (fromLayer : Nat) {c : String} {n : Int}
    (hn : s.remainingInDegree.get? c = some n) (b : String) :
    (visitChild fromLayer s c).remainingInDegree.get? b
      = if b = c then some (n - 1) else s.remainingInDegree.get? b := by
  unfold visitChild
  dsimp only
  rw [Dict.get?_set, hn, Option.getD_some]

/-- A child has one in-edge less for each time it occurs. -/
theorem get?_remaining_foldl_visitChild
    (hknown : ∀ c ∈ children, ∃ n, s.remainingInDegree.get? c = some n) (b : String) :
    (children.foldl (visitChild fromLayer) s).remainingInDegree.get? b
      = (s.remainingInDegree.get? b).map (· - (children.count b : Int)) := by
  induction children generalizing s with
  | nil =>
    rw [List.foldl_nil, List.count_nil]
    cases s.remainingInDegree.get? b with
    | none => rfl
    | some n => exact congrArg some (Int.sub_zero n).symm
  | cons c children ih =>
    obtain ⟨n, hn⟩ := hknown c List.mem_cons_self
    have hget := get?_remaining_visitChild fromLayer hn
    rw [List.foldl_cons, ih, hget]
    · by_cases hbc : b = c
      · subst hbc
        rw [if_pos rfl, hn, List.count_cons_self, Option.map_some, Option.map_some]
        exact congrArg some (by omega)
      · rw [if_neg hbc, List.count_cons_of_ne (Ne.symm hbc)]
    · intro d hd
      rw [hget]
      by_cases hdc : d = c
      · exact ⟨n - 1, if_pos hdc⟩
      · rw [if_neg hdc]
        exact hknown d (List.mem_cons_of_mem c hd)

/-- The children whose last in-edge is gone are queued, each of them once. -/
theorem frontier_foldl_visitChild (fromLayer : Nat)
    (hdegree : ∀ c ∈ children, ∃ n : Int, s.remainingInDegree.get? c = some n ∧
      (children.count c : Int) ≤ n) :
    ∃ fresh : List String,
      (children.foldl (visitChild fromLayer) s).frontier = s.frontier ++ fresh ∧ fresh.Nodup ∧
        ∀ b, b ∈ fresh ↔ b ∈ children ∧
          s.remainingInDegree.get? b = some (children.count b : Int) := by
  -- by induction on the children, each as often as it has edges
  induction children generalizing s with
  | nil => exact ⟨[], (List.append_nil _).symm, List.nodup_nil, fun b => by simp⟩
  | cons c children ih =>
    obtain ⟨n, hn, hle⟩ := hdegree c List.mem_cons_self
    rw [List.count_cons_self] at hle
    have hget := get?_remaining_visitChild fromLayer hn
    have hqueue : (visitChild fromLayer s c).frontier
        = s.frontier ++ if n - 1 = 0 then [c] else [] := by
      unfold visitChild
      dsimp only
      rw [hn, Option.getD_some]
      by_cases hlast : n - 1 = 0
      · rw [if_pos hlast, if_pos hlast]
      · rw [if_neg hlast, if_neg hlast, List.append_nil]
    obtain ⟨fresh, hfrontier, hnodup, hfresh⟩ := ih (s := visitChild fromLayer s c) <| by
      intro b hb
      rw [hget]
      by_cases hbc : b = c
      · subst hbc
        exact ⟨n - 1, if_pos rfl, by omega⟩
      · obtain ⟨m, hm, hcount⟩ := hdegree b (List.mem_cons_of_mem c hb)
        rw [List.count_cons_of_ne (Ne.symm hbc)] at hcount
        exact ⟨m, by rw [if_neg hbc, hm], hcount⟩
    -- `c` itself is queued here when this is its last in-edge, and by the rest otherwise
    have hself : c ∈ fresh ↔ 0 < children.count c ∧ n - 1 = (children.count c : Int) := by
      rw [hfresh, hget, if_pos rfl, Option.some_inj, List.count_pos_iff]
    refine ⟨(if n - 1 = 0 then [c] else []) ++ fresh, ?_, ?_, fun b => ?_⟩
    · rw [List.foldl_cons, hfrontier, hqueue, List.append_assoc]
    · by_cases hlast : n - 1 = 0
      · rw [if_pos hlast, List.singleton_append]
        exact List.nodup_cons.mpr ⟨fun hmem => by have := hself.mp hmem; omega, hnodup⟩
      · rw [if_neg hlast, List.nil_append]
        exact hnodup
    · -- `c` has been counted down once more than the others
      by_cases hbc : b = c
      · subst hbc
        rw [List.mem_append, hself, hn, List.count_cons_self, Option.some_inj]
        have hhead : b ∈ b :: children := List.mem_cons_self
        by_cases hlast : n - 1 = 0
        · rw [if_pos hlast]
          exact iff_of_true (.inl List.mem_cons_self) ⟨hhead, by omega⟩
        · rw [if_neg hlast]
          constructor
          · rintro (hnil | ⟨-, hrest⟩)
            · exact absurd hnil List.not_mem_nil
            · exact ⟨hhead, by omega⟩
          · rintro ⟨-, hall⟩
            exact .inr (by omega)
      · have hnot : b ∉ (if n - 1 = 0 then [c] else [] : List String) := by
          split_ifs <;> simp [hbc]
        rw [List.mem_append, hfresh, hget, if_neg hbc, List.count_cons_of_ne (Ne.symm hbc),
          List.mem_cons]
        simp [hnot, hbc]

/-! ## The state between two rounds -/

/-- `b` follows `a`. -/
def Leads (E : List (String × String)) (a b : String) : Prop := (a, b) ∈ E

/-- What holds of the edges `E` between the nodes `ids` when the nodes `done` have been taken. -/
structure Peeled (ids : List String) (E : List (String × String)) (done : List String)
    (s : Layering) : Prop where
  nodup : (done ++ s.frontier).Nodup
  ready : ∀ b, b ∈ done ++ s.frontier ↔ b ∈ ids ∧ ∀ a, Leads E a b → a ∈ done
  remaining : ∀ b ∈ ids, s.remainingInDegree.get? b
    = some ((E.countP fun e => e.2 = b ∧ e.1 ∉ done : Nat) : Int)
  acc : ∀ b ∈ done ++ s.frontier, Acc (Leads E) b
  layered : ∀ b, b ∈ s.layers ↔ b ∈ ids ∧
    ((∀ a, ¬ Leads E a b) ∨ ∃ a, Leads E a b ∧ a ∈ done)
  above : ∀ a b, Leads E a b → a ∈ done → layerOf s.layers a + 1 ≤ layerOf s.layers b
  attained : ∀ b, layerOf s.layers b ≠ 0 →
    ∃ a, Leads E a b ∧ a ∈ done ∧ layerOf s.layers a + 1 = layerOf s.layers b

namespace Peeled

variable {ids : List String} {E : List (String × String)} {done : List String} {s : Layering}

/-- The children of a node, as the map of the outgoing edges has them. -/
def childrenOf (E : List (String × String)) (a : String) : List String :=
  (E.filter (·.1 = a)).map Prod.snd

theorem mem_childrenOf {a b : String} : b ∈ childrenOf E a ↔ Leads E a b := by
  -- `childrenOf` keeps the second ends of the edges that start in `a`
  constructor
  · intro h
    obtain ⟨⟨a', b'⟩, he, rfl⟩ := List.mem_map.mp h
    obtain ⟨hmem, ha⟩ := List.mem_filter.mp he
    have heq : a' = a := of_decide_eq_true ha
    exact heq ▸ hmem
  · intro h
    exact List.mem_map.mpr ⟨(a, b), List.mem_filter.mpr ⟨h, decide_eq_true rfl⟩, rfl⟩

/-- Taking a node accounts for its edges, as often as they occur. -/
theorem countP_done {next : String} (hnext : next ∉ done) (b : String) :
    E.countP (fun e => e.2 = b ∧ e.1 ∉ done)
      = E.countP (fun e => e.2 = b ∧ e.1 ∉ done ++ [next]) + (childrenOf E next).count b := by
  induction E with
  | nil => rfl
  | cons e E ih =>
    -- an edge counts among the children exactly if it leads from the node that is taken
    have hchildren : (childrenOf (e :: E) next).count b
        = (childrenOf E next).count b + if e.1 = next ∧ e.2 = b then 1 else 0 := by
      unfold childrenOf
      by_cases h1 : e.1 = next
      · rw [List.filter_cons_of_pos (by simpa using h1), List.map_cons, List.count_cons]
        simp [h1]
      · rw [List.filter_cons_of_neg (by simpa using h1)]
        simp [h1]
    rw [List.countP_cons, List.countP_cons, ih, hchildren]
    by_cases h1 : e.1 = next
    · subst h1
      simp [hnext]
      omega
    · simp [h1]
      omega

variable {next : String} {rest : List String}

/-- A round of the loop, for the node at the head of the frontier. -/
def round (s : Layering) (E : List (String × String)) (next : String) (rest : List String) :
    Layering :=
  (childrenOf E next).foldl (visitChild (layerOf s.layers next)) { s with frontier := rest }

theorem not_mem_done (h : Peeled ids E done s) (hfrontier : s.frontier = next :: rest) :
    next ∉ done := by
  have hnodup := h.nodup
  rw [hfrontier] at hnodup
  intro hmem
  exact (List.nodup_append.mp hnodup).2.2 next hmem next List.mem_cons_self rfl

/-- No edge leads from the next node to one that is done or queued. -/
theorem not_leads_next (h : Peeled ids E done s) (hfrontier : s.frontier = next :: rest)
    {b : String} (hb : b ∈ done ++ s.frontier) : ¬ Leads E next b := fun hlead =>
  h.not_mem_done hfrontier (((h.ready b).mp hb).2 next hlead)

theorem layerOf_round (s : Layering) (E : List (String × String)) (next : String)
    (rest : List String) (b : String) :
    layerOf (round s E next rest).layers b = if b ∈ childrenOf E next then
      max (layerOf s.layers next + 1) (layerOf s.layers b) else layerOf s.layers b := by
  rw [layerOf, round, get?_layers_foldl_visitChild]
  split_ifs <;> rfl

/-- What is done or queued keeps its layer. -/
theorem layerOf_round_of_mem (h : Peeled ids E done s) (hfrontier : s.frontier = next :: rest)
    {a : String} (ha : a ∈ done ++ s.frontier) :
    layerOf (round s E next rest).layers a = layerOf s.layers a := by
  have hnot : a ∉ childrenOf E next := fun hmem =>
    h.not_leads_next hfrontier ha (mem_childrenOf.mp hmem)
  rw [layerOf_round, if_neg hnot]

/-- Where the frontier has a node, what the pass over its children queues. -/
theorem frontier_round (h : Peeled ids E done s) (hfrontier : s.frontier = next :: rest)
    (hends : ∀ e ∈ E, e.2 ∈ ids) :
    ∃ fresh : List String, (round s E next rest).frontier = rest ++ fresh ∧ fresh.Nodup ∧
      ∀ b, b ∈ fresh ↔ Leads E next b ∧ ∀ a, Leads E a b → a ∈ done ++ [next] := by
  have hcount := countP_done (E := E) (h.not_mem_done hfrontier)
  obtain ⟨fresh, hqueue, hnodup, hfresh⟩ := frontier_foldl_visitChild
    (s := { s with frontier := rest }) (layerOf s.layers next) <| by
      intro c hc
      refine ⟨_, h.remaining c (hends (next, c) (mem_childrenOf.mp hc)), ?_⟩
      have := hcount c
      omega
  refine ⟨fresh, hqueue, hnodup, fun b => ?_⟩
  rw [hfresh, mem_childrenOf, and_congr_right_iff]
  intro hlead
  dsimp only
  rw [h.remaining b (hends (next, b) hlead), Option.some_inj, Int.natCast_inj, hcount b]
  -- nothing is left of the in-degree iff every in-edge comes from a done node
  have hzero : E.countP (fun e => e.2 = b ∧ e.1 ∉ done ++ [next]) = 0 ↔
      ∀ a, Leads E a b → a ∈ done ++ [next] := by
    rw [List.countP_eq_zero]
    constructor
    · intro hnone a hab
      by_contra hnot
      exact hnone (a, b) hab (decide_eq_true ⟨rfl, hnot⟩)
    · intro hall e he hopen
      obtain ⟨rfl, hnot⟩ := of_decide_eq_true hopen
      exact hnot (hall e.1 he)
  rw [← hzero]
  omega

theorem nodup_round (h : Peeled ids E done s) (hfrontier : s.frontier = next :: rest)
    {fresh : List String} (hnodup : fresh.Nodup)
    (hfresh : ∀ b ∈ fresh, Leads E next b) : (done ++ [next] ++ (rest ++ fresh)).Nodup := by
  have hold := h.nodup
  have hsplit : done ++ [next] ++ (rest ++ fresh) = done ++ s.frontier ++ fresh := by
    rw [hfrontier, List.append_assoc, List.append_assoc, List.singleton_append,
      List.cons_append]
  rw [hsplit, List.nodup_append]
  refine ⟨hold, hnodup, fun a ha b hb => ?_⟩
  rintro rfl
  exact h.not_leads_next hfrontier ha (hfresh a hb)

theorem mem_of_mem_done_next (hfrontier : s.frontier = next :: rest) {a : String}
    (ha : a ∈ done ++ [next]) : a ∈ done ++ s.frontier := by
  rcases List.mem_append.mp ha with ha | ha
  · exact List.mem_append_left _ ha
  · rw [List.mem_singleton.mp ha, hfrontier]
    simp

/-- The nodes that are done after a round keep their layers in it. -/
theorem layerOf_round_done (h : Peeled ids E done s) (hfrontier : s.frontier = next :: rest)
    {a : String} (ha : a ∈ done ++ [next]) :
    layerOf (round s E next rest).layers a = layerOf s.layers a :=
  h.layerOf_round_of_mem hfrontier (mem_of_mem_done_next hfrontier ha)

theorem ready_round (h : Peeled ids E done s) (hfrontier : s.frontier = next :: rest)
    (hends : ∀ e ∈ E, e.2 ∈ ids) (b : String) :
    b ∈ done ++ [next] ++ (round s E next rest).frontier ↔
      b ∈ ids ∧ ∀ a, Leads E a b → a ∈ done ++ [next] := by
  obtain ⟨fresh, hqueue, -, hfresh⟩ := h.frontier_round hfrontier hends
  have hmem : b ∈ done ++ [next] ++ (round s E next rest).frontier ↔
      b ∈ done ++ s.frontier ∨ b ∈ fresh := by
    rw [hqueue, hfrontier]
    simp [or_assoc]
  rw [hmem, h.ready, hfresh]
  constructor
  · rintro (⟨hid, hall⟩ | ⟨hlead, hall⟩)
    · exact ⟨hid, fun a hab => List.mem_append_left _ (hall a hab)⟩
    · exact ⟨hends (next, b) hlead, hall⟩
  · rintro ⟨hid, hall⟩
    by_cases hlead : Leads E next b
    · exact .inr ⟨hlead, hall⟩
    · refine .inl ⟨hid, fun a hab => (List.mem_append.mp (hall a hab)).resolve_right ?_⟩
      intro ha
      rw [List.mem_singleton.mp ha] at hab
      exact hlead hab

theorem above_round (h : Peeled ids E done s) (hfrontier : s.frontier = next :: rest)
    {a b : String} (hab : Leads E a b) (ha : a ∈ done ++ [next]) :
    layerOf (round s E next rest).layers a + 1 ≤ layerOf (round s E next rest).layers b := by
  rw [h.layerOf_round_done hfrontier ha, layerOf_round]
  rcases List.mem_append.mp ha with hdone | hlast
  · have hle := h.above a b hab hdone
    by_cases hchild : b ∈ childrenOf E next
    · rw [if_pos hchild]
      exact le_trans hle (le_max_right _ _)
    · rw [if_neg hchild]
      exact hle
  · rw [List.mem_singleton.mp hlast] at hab ⊢
    rw [if_pos (mem_childrenOf.mpr hab)]
    exact le_max_left _ _

theorem attained_round (h : Peeled ids E done s) (hfrontier : s.frontier = next :: rest)
    {b : String} (hb : layerOf (round s E next rest).layers b ≠ 0) :
    ∃ a, Leads E a b ∧ a ∈ done ++ [next] ∧
      layerOf (round s E next rest).layers a + 1 = layerOf (round s E next rest).layers b := by
  -- a layer that the round leaves as it was is attained as it was
  have hold : layerOf s.layers b ≠ 0 → layerOf (round s E next rest).layers b
      = layerOf s.layers b → ∃ a, Leads E a b ∧ a ∈ done ++ [next] ∧
        layerOf (round s E next rest).layers a + 1 = layerOf (round s E next rest).layers b := by
    intro hne heq
    obtain ⟨a, hab, ha, hlayer⟩ := h.attained b hne
    have ha' : a ∈ done ++ [next] := List.mem_append_left _ ha
    exact ⟨a, hab, ha', by rw [h.layerOf_round_done hfrontier ha', heq, hlayer]⟩
  have hget := layerOf_round s E next rest b
  by_cases hchild : b ∈ childrenOf E next
  · rw [if_pos hchild] at hget
    rcases max_choice (layerOf s.layers next + 1) (layerOf s.layers b) with hmax | hmax
    · have hlast : next ∈ done ++ [next] := by simp
      refine ⟨next, mem_childrenOf.mp hchild, hlast, ?_⟩
      rw [h.layerOf_round_done hfrontier hlast, hget, hmax]
    · rw [hmax] at hget
      exact hold (hget ▸ hb) hget
  · rw [if_neg hchild] at hget
    exact hold (hget ▸ hb) hget

/-- What one round preserves. -/
theorem next_round (h : Peeled ids E done s) (hfrontier : s.frontier = next :: rest)
    (hends : ∀ e ∈ E, e.2 ∈ ids) : Peeled ids E (done ++ [next]) (round s E next rest) := by
  obtain ⟨fresh, hqueue, hfreshNodup, hfresh⟩ := h.frontier_round hfrontier hends
  constructor
  case nodup =>
    rw [hqueue]
    exact h.nodup_round hfrontier hfreshNodup fun b hb => ((hfresh b).mp hb).1
  case ready => exact h.ready_round hfrontier hends
  case remaining =>
    intro b hb
    have hknown : ∀ c ∈ childrenOf E next,
        ∃ n, { s with frontier := rest }.remainingInDegree.get? c = some n :=
      fun c hc => ⟨_, h.remaining c (hends (next, c) (mem_childrenOf.mp hc))⟩
    rw [round, get?_remaining_foldl_visitChild hknown]
    dsimp only
    rw [h.remaining b hb, countP_done (h.not_mem_done hfrontier), Option.map_some]
    exact congrArg some (by omega)
  case acc =>
    intro b hb
    have hin := ((h.ready_round hfrontier hends b).mp hb).2
    exact Acc.intro b fun a hab => h.acc a (mem_of_mem_done_next hfrontier (hin a hab))
  case layered =>
    intro b
    rw [Dict.mem_iff_exists_get?, round, get?_layers_foldl_visitChild]
    dsimp only
    by_cases hlead : Leads E next b
    · rw [if_pos (mem_childrenOf.mpr hlead)]
      exact iff_of_true ⟨_, rfl⟩ ⟨hends (next, b) hlead, .inr ⟨next, hlead, by simp⟩⟩
    · rw [if_neg (fun hchild => hlead (mem_childrenOf.mp hchild)), ← Dict.mem_iff_exists_get?,
        h.layered]
      refine and_congr_right fun _ => or_congr_right (exists_congr fun a => ?_)
      refine and_congr_right fun hab => ?_
      have hne : a ≠ next := fun heq => hlead (heq ▸ hab)
      simp [hne]
  case above => exact fun a b hab ha => h.above_round hfrontier hab ha
  case attained => exact fun b hb => h.attained_round hfrontier hb

end Peeled

/-! ## The whole loop -/

/-- More rounds do not change a result. -/
theorem drain_mono {outgoing : Dict String (List String)} {rounds rounds' : Nat} {s s' : Layering}
    (h : drain outgoing rounds s = some s') (hle : rounds ≤ rounds') :
    drain outgoing rounds' s = some s' := by
  induction rounds generalizing rounds' s with
  | zero =>
    unfold drain at h ⊢
    split at h
    next => exact h
    next => cases h
  | succ rounds ih =>
    obtain ⟨rounds', rfl⟩ := Nat.exists_eq_add_of_le' (Nat.le_trans (Nat.succ_pos rounds) hle)
    unfold drain at h ⊢
    split at h
    next => exact h
    next => exact ih h (Nat.le_of_succ_le_succ hle)

section Run

variable {ids : List String} {E : List (String × String)} {adj : Adjacency}

/-- A round for each node is enough, and what a round preserves holds at the end. -/
theorem drain_spec (htallies : Tallies ids E adj) (hends : ∀ e ∈ E, e.2 ∈ ids) (rounds : Nat)
    {done : List String} {s : Layering} (h : Peeled ids E done s)
    (hrounds : ids.length ≤ done.length + rounds) :
    ∃ s' done', drain adj.outgoing rounds s = some s' ∧ s'.frontier = [] ∧
      Peeled ids E done' s' := by
  have hlen : done.length + s.frontier.length ≤ ids.length := by
    rw [← List.length_append]
    exact (h.nodup.subperm fun b hb => ((h.ready b).mp hb).1).length_le
  induction rounds generalizing done s with
  | zero =>
    have hfrontier : s.frontier = [] := List.eq_nil_of_length_eq_zero (by omega)
    refine ⟨s, done, ?_, hfrontier, h⟩
    unfold drain
    rw [hfrontier]
  | succ rounds ih =>
    unfold drain
    cases hfrontier : s.frontier with
    | nil => exact ⟨s, done, rfl, hfrontier, h⟩
    | cons next rest =>
      have hnext : next ∈ ids := ((h.ready next).mp (by rw [hfrontier]; simp)).1
      have hround := h.next_round hfrontier hends
      dsimp only
      rw [htallies.outgoing, if_pos hnext, Option.getD_some]
      refine ih hround ?_ ?_
      · rw [List.length_append, List.length_singleton]
        omega
      · rw [← List.length_append]
        exact (hround.nodup.subperm fun b hb => ((hround.ready b).mp hb).1).length_le

/-- The seed: the nodes that have no in-edge. -/
theorem foldl_seed (nodes : List AwaitNodeView) (s : Layering) :
    (nodes.foldl seed s).remainingInDegree = s.remainingInDegree ∧
      (nodes.foldl seed s).frontier = s.frontier ++ (nodes.map (·.id)).filter
        (fun id => (s.remainingInDegree.get? id).getD 0 = 0) ∧
      ∀ b, (nodes.foldl seed s).layers.get? b
        = if b ∈ nodes.map (·.id) ∧ (s.remainingInDegree.get? b).getD 0 = 0 then some 0
          else s.layers.get? b := by
  induction nodes generalizing s with
  | nil => exact ⟨rfl, (List.append_nil _).symm, fun b => (if_neg fun h => nomatch h.1).symm⟩
  | cons node nodes ih =>
    obtain ⟨hremaining, hfrontier, hlayers⟩ := ih (s.seed node)
    rw [List.foldl_cons, hremaining, hfrontier]
    simp only [hlayers]
    unfold seed
    by_cases hroot : (s.remainingInDegree.get? node.id).getD 0 = 0
    · rw [if_pos hroot]
      refine ⟨rfl, by simp [hroot], fun b => ?_⟩
      dsimp only
      rw [Dict.get?_set]
      by_cases hb : b = node.id
      · subst hb
        simp [hroot]
      · simp [hb]
    · rw [if_neg hroot]
      refine ⟨rfl, by simp [hroot], fun b => ?_⟩
      by_cases hb : b = node.id
      · subst hb
        simp [hroot]
      · simp [hb]

theorem peeled_seed {nodes : List AwaitNodeView} (hnodup : (nodes.map (·.id)).Nodup)
    (htallies : Tallies (nodes.map (·.id)) E adj) :
    Peeled (nodes.map (·.id)) E [] (nodes.foldl seed { remainingInDegree := adj.inDegree }) := by
  obtain ⟨hremaining, hfrontier, hlayers⟩ := foldl_seed nodes { remainingInDegree := adj.inDegree }
  dsimp only at hremaining hfrontier hlayers
  rw [List.nil_append] at hfrontier
  have hroot : ∀ b, b ∈ nodes.map (·.id) →
      ((adj.inDegree.get? b).getD 0 = 0 ↔ ∀ a, ¬ Leads E a b) := by
    intro b hb
    rw [htallies.inDegree, if_pos hb, Option.getD_some, Int.natCast_eq_zero, List.countP_eq_zero]
    constructor
    · exact fun hnone a hab => hnone (a, b) hab (decide_eq_true rfl)
    · intro hnone e he heq
      exact hnone e.1 (of_decide_eq_true heq ▸ he)
  have hzero : ∀ b, layerOf (nodes.foldl seed { remainingInDegree := adj.inDegree }).layers b
      = 0 := by
    intro b
    rw [layerOf, hlayers]
    split_ifs <;> rfl
  constructor
  case nodup =>
    rw [List.nil_append, hfrontier]
    exact hnodup.filter _
  case ready =>
    intro b
    rw [List.nil_append, hfrontier, List.mem_filter, decide_eq_true_iff]
    refine and_congr_right fun hb => (hroot b hb).trans (forall_congr' fun a => ?_)
    simp
  case remaining =>
    intro b hb
    rw [hremaining, htallies.inDegree, if_pos hb]
    simp
  case acc =>
    intro b hb
    rw [List.nil_append, hfrontier, List.mem_filter, decide_eq_true_iff] at hb
    exact Acc.intro b fun a hab => absurd hab ((hroot b hb.1).mp hb.2 a)
  case layered =>
    intro b
    have hnever : ¬ ∃ layer : Nat, (none : Option Nat) = some layer := by
      rintro ⟨layer, hlayer⟩
      cases hlayer
    rw [Dict.mem_iff_exists_get?, hlayers]
    by_cases hb : b ∈ nodes.map (·.id)
    · by_cases hnone : (adj.inDegree.get? b).getD 0 = 0
      · rw [if_pos ⟨hb, hnone⟩]
        exact iff_of_true ⟨0, rfl⟩ ⟨hb, .inl ((hroot b hb).mp hnone)⟩
      · rw [if_neg fun h => hnone h.2]
        refine iff_of_false hnever ?_
        rintro ⟨-, hroots | ⟨a, -, ha⟩⟩
        · exact hnone ((hroot b hb).mpr hroots)
        · exact List.not_mem_nil ha
    · rw [if_neg fun h => hb h.1]
      exact iff_of_false hnever fun h => hb h.1
  case above => exact fun a b _ ha => absurd ha List.not_mem_nil
  case attained => exact fun b hb => absurd (hzero b) hb

end Run

/-! ## The nodes that are left -/

theorem foldl_pin (nodes : List AwaitNodeView) (layers : Dict String Nat) (flag : Bool) :
    (∀ b, layerOf (nodes.foldl pin (layers, flag)).1 b = layerOf layers b) ∧
      ((nodes.foldl pin (layers, flag)).2 = true ↔
        flag = true ∨ ∃ node ∈ nodes, node.id ∉ layers) := by
  induction nodes generalizing layers flag with
  | nil => exact ⟨fun _ => rfl, by simp⟩
  | cons node nodes ih =>
    rw [List.foldl_cons, pin]
    dsimp only
    by_cases hmem : node.id ∈ layers
    · rw [if_pos hmem]
      refine ⟨(ih layers flag).1, (ih layers flag).2.trans (or_congr_right ?_)⟩
      simp [hmem]
    · rw [if_neg hmem]
      obtain ⟨hlayer, hflag⟩ := ih (layers.set node.id 0) true
      refine ⟨fun b => ?_, iff_of_true (hflag.mpr (.inl rfl)) (.inr ⟨node, by simp, hmem⟩)⟩
      rw [hlayer, layerOf, Dict.get?_set]
      by_cases hb : b = node.id
      · subst hb
        rw [if_pos rfl, layerOf, Dict.get?_eq_none_iff.mpr hmem]
        rfl
      · rw [if_neg hb, layerOf]

end Layering

open Layering

/-! ## The layout -/

/-- The graph of the edges between known nodes. -/
def LayoutInputs.Leads (inputs : LayoutInputs) (a b : String) : Prop :=
  (⟨a, b⟩ : AwaitEdgeView) ∈ inputs.edges ∧ (⟨a⟩ : AwaitNodeView) ∈ inputs.nodes ∧
    (⟨b⟩ : AwaitNodeView) ∈ inputs.nodes

/-- The layering is as it should be. -/
structure Layered (inputs : LayoutInputs) (frame : LayoutFrame) : Prop where
  /-- Every node is placed once, in one of the layers. -/
  placed : (frame.laidNodes.map (·.node)).Perm inputs.nodes
  counted : ∀ laid ∈ frame.laidNodes, laid.layer < frame.layerCount
  /-- Without cycles a layer is the length of the longest path, and edges go up. -/
  longest : Acyclic inputs.Leads → ∀ laid ∈ frame.laidNodes,
    IsDepth inputs.Leads laid.node.id laid.layer
  upward : Acyclic inputs.Leads → ∀ source ∈ frame.laidNodes, ∀ sink ∈ frame.laidNodes,
    inputs.Leads source.node.id sink.node.id → source.layer < sink.layer
  cycles : frame.cycleDetected = true ↔ ∃ id, TransGen inputs.Leads id id

/-- There is no cycle, or some node behind a cycle has no predecessor before the cycles. -/
def CycleShows (inputs : LayoutInputs) : Prop :=
  Acyclic inputs.Leads ∨ ∃ node ∈ inputs.nodes, Downstream inputs.Leads node.id ∧
    ∀ a, inputs.Leads a node.id → Downstream inputs.Leads a

theorem mem_map_id {nodes : List AwaitNodeView} {id : String} :
    id ∈ nodes.map (·.id) ↔ (⟨id⟩ : AwaitNodeView) ∈ nodes := by
  constructor
  · intro h
    obtain ⟨node, hnode, rfl⟩ := List.mem_map.mp h
    exact hnode
  · exact fun h => List.mem_map_of_mem h

theorem leads_knownEdges (inputs : LayoutInputs) :
    Layering.Leads (knownEdges (inputs.nodes.map (·.id)) inputs.edges) = inputs.Leads := by
  funext a b
  refine propext ?_
  unfold Layering.Leads knownEdges
  rw [List.mem_filter, decide_eq_true_iff, mem_map_id, mem_map_id, LayoutInputs.Leads]
  refine and_congr_left fun _ => ⟨fun h => ?_, fun h => List.mem_map_of_mem h⟩
  obtain ⟨edge, hedge, heq⟩ := List.mem_map.mp h
  cases heq
  exact hedge

theorem finite_leads (inputs : LayoutInputs) : {a | ∃ b, inputs.Leads a b}.Finite := by
  refine (List.finite_toSet (inputs.nodes.map (·.id))).subset ?_
  rintro a ⟨b, hab⟩
  exact mem_map_id.mpr hab.2.1

/-- What `assignLayers` computes: the layers are one more than the greatest before them as far
    as no cycle is behind, and the flag is set for a node all of whose predecessors have one. -/
theorem assignLayers_spec {inputs : LayoutInputs} (hnodup : (inputs.nodes.map (·.id)).Nodup) :
    ∃ layers flag,
      (∀ rounds, inputs.nodes.length ≤ rounds → assignLayers rounds inputs.nodes
        (buildAdjacency inputs.nodes inputs.edges) = some (layers, flag)) ∧
      (∀ a b, inputs.Leads a b → Acc inputs.Leads a → layerOf layers a + 1 ≤ layerOf layers b) ∧
      (∀ b, layerOf layers b ≠ 0 →
        ∃ a, inputs.Leads a b ∧ layerOf layers a + 1 = layerOf layers b) ∧
      (flag = true ↔ ∃ node ∈ inputs.nodes, (∃ a, inputs.Leads a node.id) ∧
        ∀ a, inputs.Leads a node.id → ¬ Acc inputs.Leads a) := by
  have htallies := tallies_buildAdjacency inputs.nodes inputs.edges
  have hends : ∀ e ∈ knownEdges (inputs.nodes.map (·.id)) inputs.edges,
      e.2 ∈ inputs.nodes.map (·.id) := by
    intro e he
    exact (of_decide_eq_true (List.mem_filter.mp he).2).2
  obtain ⟨s, done, hdrain, hempty, hpeeled⟩ := drain_spec htallies hends
    inputs.nodes.length (peeled_seed hnodup htallies) (by simp)
  have hready := hpeeled.ready
  have hacc := hpeeled.acc
  have hlayered := hpeeled.layered
  have habove := hpeeled.above
  have hattained := hpeeled.attained
  rw [hempty, List.append_nil, leads_knownEdges] at hready hacc
  rw [leads_knownEdges] at hlayered habove hattained
  -- what is done is what no cycle leads to
  have hdone : ∀ a b, inputs.Leads a b → (a ∈ done ↔ Acc inputs.Leads a) := by
    intro a b hab
    have hiff := mem_iff_acc (r := inputs.Leads) (b := a)
      (s := fun c => (⟨c⟩ : AwaitNodeView) ∈ inputs.nodes → c ∈ done) ?_ ?_
    · exact ⟨fun h => hiff.mp fun _ => h, fun h => hiff.mpr h hab.2.1⟩
    · intro c hc
      by_cases hknown : (⟨c⟩ : AwaitNodeView) ∈ inputs.nodes
      · exact hacc c (hc hknown)
      · exact Acc.intro c fun d hdc => absurd hdc.2.2 hknown
    · intro c hc
      obtain ⟨hknown, hnot⟩ := Classical.not_imp.mp hc
      rw [hready, not_and, mem_map_id] at hnot
      obtain ⟨d, hd⟩ := not_forall.mp (hnot hknown)
      obtain ⟨hdc, hd⟩ := Classical.not_imp.mp hd
      exact ⟨d, hdc, fun himp => hd (himp hdc.2.1)⟩
  obtain ⟨hlayer, hflag⟩ := foldl_pin inputs.nodes s.layers false
  refine ⟨(inputs.nodes.foldl pin (s.layers, false)).1,
    (inputs.nodes.foldl pin (s.layers, false)).2, fun rounds hrounds => ?_, ?_, ?_, ?_⟩
  · rw [assignLayers, drain_mono hdrain hrounds]
    rfl
  · intro a b hab ha
    rw [hlayer, hlayer]
    exact habove a b hab ((hdone a b hab).mpr ha)
  · intro b hb
    rw [hlayer] at hb
    obtain ⟨a, hab, -, heq⟩ := hattained b hb
    exact ⟨a, hab, by rw [hlayer, hlayer, heq]⟩
  · rw [hflag]
    simp only [Bool.false_eq_true, false_or]
    refine exists_congr fun node => and_congr_right fun hnode => ?_
    rw [hlayered, mem_map_id, not_and, not_or, Classical.not_forall]
    have hknown : (⟨node.id⟩ : AwaitNodeView) ∈ inputs.nodes := hnode
    simp only [hknown, true_imp_iff, Classical.not_not, not_exists, not_and]
    refine and_congr_right fun _ => forall_congr' fun a => imp_congr_right fun hab => ?_
    rw [hdone a node.id hab]

/-- A frame for layers that are one more than the greatest before them, as far as no cycle is
    behind, is as it should be up to the flag. -/
theorem layered_frameOf_iff {inputs : LayoutInputs} (hnodup : (inputs.nodes.map (·.id)).Nodup)
    {layers : Dict String Nat} {flag : Bool}
    (habove : ∀ a b, inputs.Leads a b → Acc inputs.Leads a →
      layerOf layers a + 1 ≤ layerOf layers b)
    (hattained : ∀ b, layerOf layers b ≠ 0 →
      ∃ a, inputs.Leads a b ∧ layerOf layers a + 1 = layerOf layers b) :
    Layered inputs (frameOf inputs layers flag) ↔ (flag = true ↔ ¬ Acyclic inputs.Leads) := by
  have hcycles : (∃ id, TransGen inputs.Leads id id) ↔ ¬ Acyclic inputs.Leads := by
    unfold Acyclic
    rw [not_forall]
    exact exists_congr fun _ => Classical.not_not.symm
  have hall : Acyclic inputs.Leads → ∀ a, Acc inputs.Leads a :=
    (acyclic_iff_forall_acc (finite_leads inputs)).mp
  constructor
  · intro h
    rw [← hcycles]
    exact h.cycles
  · intro hflag
    refine ⟨perm_laidNodes hnodup layers flag, fun laid hlaid => (layer_laidNodes hlaid).2, ?_, ?_,
      by rw [hcycles]; exact hflag⟩
    · intro hacyclic laid hlaid
      rw [(layer_laidNodes hlaid).1]
      exact isDepth_of_acc (hall hacyclic _) (fun a b hab => habove a b hab (hall hacyclic a))
        hattained
    · intro hacyclic source hsource sink hsink hlead
      rw [(layer_laidNodes hsource).1, (layer_laidNodes hsink).1]
      exact habove _ _ hlead (hall hacyclic _)

/-- The flag is right iff a cycle shows. -/
theorem flag_iff_cycleShows {inputs : LayoutInputs} {flag : Bool}
    (hflag : flag = true ↔ ∃ node ∈ inputs.nodes, (∃ a, inputs.Leads a node.id) ∧
      ∀ a, inputs.Leads a node.id → ¬ Acc inputs.Leads a) :
    (flag = true ↔ ¬ Acyclic inputs.Leads) ↔ CycleShows inputs := by
  have hacc : ∀ a, ¬ Acc inputs.Leads a ↔ Downstream inputs.Leads a := fun a => by
    rw [acc_iff_not_downstream (finite_leads inputs), Classical.not_not]
  have hnode : flag = true ↔ ∃ node ∈ inputs.nodes, Downstream inputs.Leads node.id ∧
      ∀ a, inputs.Leads a node.id → Downstream inputs.Leads a := by
    rw [hflag]
    refine exists_congr fun node => and_congr_right fun _ => ?_
    simp only [hacc]
    constructor
    · rintro ⟨⟨a, hab⟩, hall⟩
      obtain ⟨c, hcycle, hpath⟩ := hall a hab
      exact ⟨⟨c, hcycle, hpath.tail hab⟩, hall⟩
    · rintro ⟨hdown, hall⟩
      obtain ⟨a, hab, -⟩ := hdown.exists_pred
      exact ⟨⟨a, hab⟩, hall⟩
  -- a node behind a cycle is a reason why there is one
  have hcyclic : flag = true → ¬ Acyclic inputs.Leads := by
    intro h hacyclic
    obtain ⟨node, -, ⟨c, hcycle, -⟩, -⟩ := hnode.mp h
    exact hacyclic c hcycle
  unfold CycleShows
  rw [← hnode]
  constructor
  · intro h
    by_cases hacyclic : Acyclic inputs.Leads
    · exact .inl hacyclic
    · exact .inr (h.mpr hacyclic)
  · rintro (hacyclic | h)
    · exact iff_of_false (fun h => hcyclic h hacyclic) (Classical.not_not.mpr hacyclic)
    · exact iff_of_true h (hcyclic h)

theorem layered_of_empty {inputs : LayoutInputs} (hempty : inputs.nodes = []) {frame : LayoutFrame}
    (hnodes : frame.laidNodes = []) (hflag : frame.cycleDetected = false) :
    Layered inputs frame := by
  have hnone : ∀ a b, ¬ inputs.Leads a b := fun a b hab => by
    have := hab.2.1
    rw [hempty] at this
    exact List.not_mem_nil this
  constructor
  case placed => rw [hnodes, hempty]; exact List.Perm.refl _
  case counted => rw [hnodes]; exact fun _ h => absurd h List.not_mem_nil
  case longest => rw [hnodes]; exact fun _ _ h => absurd h List.not_mem_nil
  case upward => rw [hnodes]; exact fun _ _ h => absurd h List.not_mem_nil
  case cycles =>
    rw [hflag]
    refine iff_of_false Bool.false_ne_true ?_
    rintro ⟨id, hcycle⟩
    obtain ⟨a, -, ha⟩ := TransGen.tail'_iff.mp hcycle
    exact hnone _ _ ha

/-- The layout ends, and its frame is as it should be iff a cycle shows where there is one. -/
theorem layered_iff_cycleShows (inputs : LayoutInputs)
    (hnodup : (inputs.nodes.map (·.id)).Nodup) :
    ∃ frame, (∀ rounds, inputs.nodes.length ≤ rounds →
        layoutDependencies rounds inputs = some frame) ∧
      (Layered inputs frame ↔ CycleShows inputs) := by
  by_cases hempty : inputs.nodes = []
  · have hlayered : ∀ frame : LayoutFrame, frame.laidNodes = [] → frame.cycleDetected = false →
        Layered inputs frame := fun _ => layered_of_empty hempty
    have hlen : inputs.nodes.length = 0 := by rw [hempty]; rfl
    refine ⟨_, fun rounds _ => if_pos hlen, iff_of_true (hlayered _ rfl rfl) (.inl ?_)⟩
    intro id hcycle
    have := (hlayered ⟨[], [], 0, 0, 0, false⟩ rfl rfl).cycles.mpr ⟨id, hcycle⟩
    cases this
  · obtain ⟨layers, flag, hassign, habove, hattained, hflag⟩ := assignLayers_spec hnodup
    have hlen : inputs.nodes.length ≠ 0 := fun h => hempty (List.eq_nil_of_length_eq_zero h)
    refine ⟨frameOf inputs layers flag, fun rounds hrounds => ?_, ?_⟩
    · rw [layoutDependencies, if_neg hlen, hassign rounds hrounds]
      rfl
    · rw [layered_frameOf_iff hnodup habove hattained]
      exact flag_iff_cycleShows hflag

/-- Two tasks that await each other. -/
def pairAwait : LayoutInputs where
  nodes := [⟨"a"⟩, ⟨"b"⟩]
  edges := [⟨"a", "b"⟩, ⟨"b", "a"⟩]

/-- Nothing stands before their cycle, so that it shows. -/
theorem layered_iff_cycleShows_pairAwait : ∃ frame,
    (∀ rounds, 2 ≤ rounds → layoutDependencies rounds pairAwait = some frame) ∧
      CycleShows pairAwait ∧ Layered pairAwait frame := by
  obtain ⟨frame, hframe, hlayered⟩ := layered_iff_cycleShows pairAwait (by decide)
  have hab : pairAwait.Leads "a" "b" := by
    unfold LayoutInputs.Leads
    decide
  have hba : pairAwait.Leads "b" "a" := by
    unfold LayoutInputs.Leads
    decide
  have hcycle : TransGen pairAwait.Leads "a" "a" := .tail (.single hab) hba
  have hshows : CycleShows pairAwait := by
    refine .inr ⟨⟨"a"⟩, List.mem_cons_self, ⟨"a", hcycle, .refl⟩, fun c hc => ?_⟩
    -- only `b` leads to `a`, and it lies on the cycle
    obtain rfl : c = "b" := by
      unfold LayoutInputs.Leads at hc
      simp [pairAwait] at hc
      exact hc.1
    exact ⟨"a", hcycle, .single hab⟩
  exact ⟨frame, hframe, hshows, hlayered.mpr hshows⟩

/-- Two tasks that await each other, and a third that awaits both. -/
def mutualAwait : LayoutInputs where
  nodes := [⟨"root"⟩, ⟨"a"⟩, ⟨"b"⟩]
  edges := [⟨"root", "a"⟩, ⟨"root", "b"⟩, ⟨"a", "b"⟩, ⟨"b", "a"⟩]

/-- Both tasks of the cycle have a layer from their third predecessor, and no cycle is reported. -/
theorem not_layered_mutualAwait :
    (mutualAwait.nodes.map (·.id)).Nodup ∧ ∃ frame,
      layoutDependencies mutualAwait.nodes.length mutualAwait = some frame ∧
        ¬ Layered mutualAwait frame := by
  refine ⟨by decide, ?_⟩
  have hflag : (layoutDependencies 3 mutualAwait).map (·.cycleDetected) = some false := by
    decide +kernel
  obtain ⟨frame, hframe, hdetected⟩ := Option.map_eq_some_iff.mp hflag
  refine ⟨frame, hframe, fun h => ?_⟩
  have hab : mutualAwait.Leads "a" "b" := by
    unfold LayoutInputs.Leads
    decide
  have hba : mutualAwait.Leads "b" "a" := by
    unfold LayoutInputs.Leads
    decide
  rw [h.cycles.mpr ⟨"a", .tail (.single hab) hba⟩] at hdetected
  cases hdetected

end AsyncViz.Frontend.Dependencies
