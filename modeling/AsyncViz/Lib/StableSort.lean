/-
  AsyncViz.Lib.StableSort

  The halving loop over a list that a predicate cuts in two, and where a stable
  sort puts an entry.

  * `partitionPoint` is `bisect_left` for a predicate: the number of entries that
    stand before the cut (`partitionPoint_eq`).
  * A stable sort is the sort by key and place.  `sortedBy_map_fst` says that of
    the entries with their places in the list, and `mem_take_iff` counts there
    what follows an entry.
  * `insertLate` puts an entry behind its equals, which is what a stable sort does
    with the last entry of a list (`sortedBy_concat`).
-/

import AsyncViz.Lib.Bisect
import Mathlib.Data.List.Induction
import Mathlib.Data.Prod.Lex

namespace AsyncViz.Lib.Bisect

variable {α κ : Type _}

/-! ## Lists that a predicate cuts in two -/

/-- No entry with `p` stands behind one without. -/
def CutBy (p : α → Bool) (l : List α) : Prop := l.Pairwise fun a b => p b → p a

theorem CutBy.filter_eq_takeWhile {p : α → Bool} {l : List α} (h : CutBy p l) :
    l.filter p = l.takeWhile p := by
  induction l with
  | nil => rfl
  | cons a l ih =>
    obtain ⟨hhead, htail⟩ := List.pairwise_cons.mp h
    by_cases ha : p a
    · rw [List.filter_cons_of_pos ha, List.takeWhile_cons_of_pos ha, ih htail]
    · -- behind the first entry without `p` there is none with it
      have hnone : ∀ b ∈ l, ¬ p b := fun b hb hpb => ha (hhead b hb hpb)
      rw [List.filter_cons_of_neg ha, List.takeWhile_cons_of_neg ha,
        List.filter_eq_nil_iff.mpr hnone]

/-- The halving loop on the bounds `lo` and `hi`, for at most `rounds` rounds. -/
def partitionLoop (p : α → Bool) (l : List α) : Nat → Nat → Nat → Nat
  | 0, lo, _ => lo
  | rounds + 1, lo, hi =>
    if lo < hi then
      let mid := (lo + hi) / 2
      match l[mid]? with
      | some pivot =>
        if p pivot then partitionLoop p l rounds (mid + 1) hi
        else partitionLoop p l rounds lo mid
      | none => lo
    else lo

/-- The first position whose entry is without `p`. -/
def partitionPoint (p : α → Bool) (l : List α) : Nat := partitionLoop p l l.length 0 l.length

/-- What stands before `l.takeWhile p` ends has `p`, what stands behind it has not. -/
theorem CutBy.getElem_iff {p : α → Bool} {l : List α} (h : CutBy p l) {i : Nat}
    (hi : i < l.length) : p l[i] ↔ i < (l.takeWhile p).length := by
  induction l generalizing i with
  | nil => exact absurd hi (Nat.not_lt_zero i)
  | cons a l ih =>
    obtain ⟨hhead, htail⟩ := List.pairwise_cons.mp h
    by_cases ha : p a
    · rw [List.takeWhile_cons_of_pos ha]
      cases i with
      | zero => simp [ha]
      | succ i => simpa using ih htail (Nat.lt_of_succ_lt_succ hi)
    · rw [List.takeWhile_cons_of_neg ha]
      cases i with
      | zero => simp [ha]
      | succ i =>
        have hi' : i < l.length := Nat.lt_of_succ_lt_succ hi
        have hnot : ¬ p l[i] := fun hp => ha (hhead _ (List.getElem_mem hi') hp)
        simpa using hnot

/-- The cut stays between the bounds, which as many rounds as the window is wide bring
    together. -/
theorem partitionLoop_eq {p : α → Bool} {l : List α} (h : CutBy p l) {rounds lo hi : Nat}
    (hrounds : hi ≤ lo + rounds) (hlo : lo ≤ (l.takeWhile p).length)
    (hhi : (l.takeWhile p).length ≤ hi) (hlen : hi ≤ l.length) :
    partitionLoop p l rounds lo hi = (l.takeWhile p).length := by
  -- by induction on the rounds; each of them leaves less than it found between the bounds
  induction rounds generalizing lo hi with
  | zero =>
    rw [partitionLoop]
    omega
  | succ rounds ih =>
    rw [partitionLoop]
    by_cases hlt : lo < hi
    · have hmid : (lo + hi) / 2 < l.length := by omega
      have hcut := h.getElem_iff hmid
      rw [if_pos hlt]
      simp only [List.getElem?_eq_getElem hmid]
      by_cases hp : p l[(lo + hi) / 2]
      · rw [if_pos hp]
        exact ih (by omega) (hcut.mp hp) hhi hlen
      · rw [if_neg hp]
        have hbefore : ¬ (lo + hi) / 2 < (l.takeWhile p).length := fun hlt' => hp (hcut.mpr hlt')
        exact ih (by omega) hlo (by omega) (by omega)
    · rw [if_neg hlt]
      omega

theorem partitionPoint_eq {p : α → Bool} {l : List α} (h : CutBy p l) :
    partitionPoint p l = (l.takeWhile p).length := by
  have hle : (l.takeWhile p).length ≤ l.length := ( List.takeWhile_prefix p).length_le
  exact partitionLoop_eq h (by omega) (Nat.zero_le _) hle (le_refl _)

/-! ## Stable sorting -/

/-- The entry `e` of a list in strict order is not among the last `n` iff `n` entries follow
    it. -/
theorem mem_take_iff {r : α → α → Prop} [DecidableRel r] (hirrefl : ∀ a, ¬ r a a)
    (hasymm : ∀ a b, r a b → ¬ r b a) {l : List α} (h : l.Pairwise r) (n : Nat) {e : α} :
    e ∈ l.take (l.length - n) ↔ e ∈ l ∧ n ≤ l.countP (r e ·) := by
  induction l with
  | nil => simp
  | cons a l ih =>
    obtain ⟨hhead, htail⟩ := List.pairwise_cons.mp h
    -- all that stands behind `a` follows it, and `a` follows none of that
    have hall : (a :: l).countP (r a ·) = l.length := by
      rw [List.countP_cons_of_neg (by simpa using hirrefl a), List.countP_eq_length]
      exact fun b hb => decide_eq_true (hhead b hb)
    have hrest : ∀ b ∈ l, (a :: l).countP (r b ·) = l.countP (r b ·) := fun b hb =>
      List.countP_cons_of_neg (by simpa using hasymm a b (hhead b hb))
    by_cases hn : n ≤ l.length
    · rw [List.length_cons, Nat.succ_sub hn, List.take_succ_cons, List.mem_cons, List.mem_cons,
        ih htail]
      constructor
      · rintro (rfl | ⟨hmem, hcount⟩)
        · exact ⟨.inl rfl, hall ▸ hn⟩
        · exact ⟨.inr hmem, (hrest e hmem).symm ▸ hcount⟩
      · rintro ⟨rfl | hmem, hcount⟩
        · exact .inl rfl
        · exact .inr ⟨hmem, hrest e hmem ▸ hcount⟩
    · have hzero : (a :: l).length - n = 0 := by rw [List.length_cons]; omega
      rw [hzero, List.take_zero]
      refine iff_of_false List.not_mem_nil ?_
      rintro ⟨hmem, hcount⟩
      -- nothing has more behind it than the list is long
      rcases List.mem_cons.mp hmem with rfl | hmem
      · omega
      · have hle := l.countP_le_length (p := (r e ·))
        rw [hrest e hmem] at hcount
        omega

variable [LinearOrder κ] {key : α → κ}

/-- `f` comes behind `e` in a stable sort: its key is greater, or the same at a later place. -/
def Follows (key : α → κ) (e f : α × Nat) : Prop :=
  key e.1 < key f.1 ∨ key e.1 = key f.1 ∧ e.2 < f.2

instance : DecidableRel (Follows key) := fun _ _ => instDecidableOr

/-- Key and place as one key. -/
def placeKey (key : α → κ) (e : α × Nat) : κ ×ₗ Nat := toLex (key e.1, e.2)

theorem placeKey_lt_iff {e f : α × Nat} : placeKey key e < placeKey key f ↔ Follows key e f :=
  Prod.Lex.toLex_lt_toLex

theorem follows_irrefl (e : α × Nat) : ¬ Follows key e e := fun h =>
  lt_irrefl _ (placeKey_lt_iff.mpr h)

theorem follows_asymm (e f : α × Nat) (h : Follows key e f) : ¬ Follows key f e := fun h' =>
  lt_asymm (placeKey_lt_iff.mpr h) (placeKey_lt_iff.mpr h')

theorem orderedInsert_map_fst {e : α × Nat} {l : List (α × Nat)} (h : ∀ f ∈ l, e.2 < f.2) :
    (l.map Prod.fst).orderedInsert (fun a b => key a ≤ key b) e.1
      = (l.orderedInsert (fun a b => placeKey key a ≤ placeKey key b) e).map Prod.fst := by
  induction l with
  | nil => rfl
  | cons f l ih =>
    -- `e` is in front of all places, so that equal keys leave it in front
    have hplace : key e.1 ≤ key f.1 ↔ placeKey key e ≤ placeKey key f := by
      rw [placeKey, placeKey, Prod.Lex.toLex_le_toLex, le_iff_lt_or_eq]
      have := (h f List.mem_cons_self).le
      simp [this]
    by_cases hle : key e.1 ≤ key f.1
    · rw [List.map_cons, List.orderedInsert_cons, List.orderedInsert_cons, if_pos hle,
        if_pos (hplace.mp hle)]
      rfl
    · rw [List.map_cons, List.orderedInsert_cons, List.orderedInsert_cons, if_neg hle,
        if_neg (fun hcon => hle (hplace.mpr hcon)), List.map_cons,
        ih fun g hg => h g (List.mem_cons_of_mem f hg)]

/-- A stable sort is the sort by key and place. -/
theorem sortedBy_map_fst {l : List (α × Nat)} (h : l.Pairwise fun e f => e.2 < f.2) :
    sortedBy key (l.map Prod.fst) = (sortedBy (placeKey key) l).map Prod.fst := by
  induction l with
  | nil => rfl
  | cons e l ih =>
    obtain ⟨hhead, htail⟩ := List.pairwise_cons.mp h
    have hplaces : ∀ f ∈ sortedBy (placeKey key) l, e.2 < f.2 := fun f hf =>
      hhead f ((perm_sortedBy _ _).mem_iff.mp hf)
    calc sortedBy key ((e :: l).map Prod.fst)
        = (sortedBy key (l.map Prod.fst)).orderedInsert (fun a b => key a ≤ key b) e.1 := rfl
      _ = _ := by rw [ih htail, orderedInsert_map_fst hplaces]; rfl

/-- No two entries share their place, so the order is strict. -/
theorem pairwise_follows_sortedBy {l : List (α × Nat)} (h : l.Pairwise fun e f => e.2 < f.2) :
    (sortedBy (placeKey key) l).Pairwise (Follows key) := by
  -- places are distinct, so that no two entries have the same key and place
  have hdistinct : (sortedBy (placeKey key) l).Pairwise fun e f => e.2 ≠ f.2 :=
    ((perm_sortedBy _ _).pairwise_iff fun hne => hne.symm).mpr (h.imp Nat.ne_of_lt)
  refine ((pairwise_sortedBy _ _).and hdistinct).imp fun {e f} ⟨hle, hne⟩ => ?_
  refine placeKey_lt_iff.mp (lt_of_le_of_ne hle fun heq => hne ?_)
  exact (Prod.mk.inj heq).2

/-! ## Inserting behind what is equal -/

/-- `x` goes behind the entries whose key is at most its own. -/
def insertLate (key : α → κ) (x : α) : List α → List α
  | [] => [x]
  | a :: l => if key a ≤ key x then a :: insertLate key x l else x :: a :: l

theorem perm_insertLate (x : α) (l : List α) : (insertLate key x l).Perm (x :: l) := by
  induction l with
  | nil => exact List.Perm.refl _
  | cons a l ih =>
    rw [insertLate]
    split
    · exact (ih.cons a).trans (List.Perm.swap x a l)
    · exact List.Perm.refl _

theorem map_insertLate {γ ι : Type _} [LinearOrder ι] {key' : γ → ι} (f : α → γ) {x : α}
    {l : List α} (h : ∀ a ∈ l, key a ≤ key x ↔ key' (f a) ≤ key' (f x)) :
    (insertLate key x l).map f = insertLate key' (f x) (l.map f) := by
  induction l with
  | nil => rfl
  | cons a l ih =>
    rw [insertLate, List.map_cons, insertLate]
    by_cases hle : key a ≤ key x
    · rw [if_pos hle, if_pos ((h a List.mem_cons_self).mp hle), List.map_cons,
        ih fun b hb => h b (List.mem_cons_of_mem a hb)]
    · rw [if_neg hle, if_neg fun hle' => hle ((h a List.mem_cons_self).mpr hle')]
      rfl

/-- Behind a prefix that is all at most `x` the insertion goes on in the rest. -/
theorem insertLate_append {x : α} {l : List α} (h : ∀ a ∈ l, key a ≤ key x) (l' : List α) :
    insertLate key x (l ++ l') = l ++ insertLate key x l' := by
  induction l with
  | nil => rfl
  | cons a l ih =>
    rw [List.cons_append, insertLate, if_pos (h a List.mem_cons_self),
      ih fun b hb => h b (List.mem_cons_of_mem a hb)]
    rfl

/-- Before a suffix that is all above `x` it ends. -/
theorem insertLate_append_of_lt {x : α} (l : List α) {l' : List α} (h : ∀ a ∈ l', key x < key a) :
    insertLate key x (l ++ l') = insertLate key x l ++ l' := by
  induction l with
  | nil =>
    cases l' with
    | nil => rfl
    | cons a l' =>
      exact if_neg (not_le.mpr (h a List.mem_cons_self))
  | cons a l ih =>
    rw [List.cons_append, insertLate, insertLate, ih]
    split <;> rfl

theorem orderedInsert_insertLate (a x : α) (l : List α) :
    (insertLate key x l).orderedInsert (fun a b => key a ≤ key b) a
      = insertLate key x (l.orderedInsert (fun a b => key a ≤ key b) a) := by
  induction l with
  | nil =>
    rw [insertLate, List.orderedInsert_cons]
    rfl
  | cons b l ih =>
    rw [insertLate, List.orderedInsert_cons]
    -- `b` stops both entries, one of them or neither
    by_cases hab : key a ≤ key b
    · rw [if_pos hab, insertLate, insertLate]
      by_cases hbx : key b ≤ key x
      · rw [if_pos hbx, if_pos (hab.trans hbx), List.orderedInsert_cons, if_pos hab]
      · rw [if_neg hbx, List.orderedInsert_cons, List.orderedInsert_cons, if_pos hab]
    · have hba : key b ≤ key a := le_of_not_ge hab
      rw [if_neg hab, insertLate]
      by_cases hbx : key b ≤ key x
      · rw [if_pos hbx, if_pos hbx, List.orderedInsert_cons, if_neg hab, ih]
      · have hax : ¬ key a ≤ key x := fun hle => hbx (hba.trans hle)
        rw [if_neg hbx, if_neg hbx, List.orderedInsert_cons, List.orderedInsert_cons, if_neg hax,
          if_neg hab]

/-- The last entry of a list stands behind its equals in the stable sort. -/
theorem sortedBy_concat (l : List α) (x : α) :
    sortedBy key (l ++ [x]) = insertLate key x (sortedBy key l) := by
  -- the sort inserts from the first entry on, and the last one has been inserted before all others
  induction l with
  | nil => rfl
  | cons a l ih =>
    calc sortedBy key (a :: l ++ [x])
        = (sortedBy key (l ++ [x])).orderedInsert (fun a b => key a ≤ key b) a := rfl
      _ = (insertLate key x (sortedBy key l)).orderedInsert (fun a b => key a ≤ key b) a := by
          rw [ih]
      _ = insertLate key x (sortedBy key (a :: l)) := orderedInsert_insertLate a x _

/-- Among the entries of one key the new one is the last. -/
theorem filter_insertLate {x : α} {l : List α} (h : l.Pairwise fun a b => key a ≤ key b) (k : κ) :
    (insertLate key x l).filter (key · = k)
      = l.filter (key · = k) ++ if key x = k then [x] else [] := by
  induction l with
  | nil =>
    rw [insertLate, List.filter_cons]
    by_cases hk : key x = k <;> simp [hk]
  | cons a l ih =>
    obtain ⟨hhead, htail⟩ := List.pairwise_cons.mp h
    rw [insertLate]
    -- an entry of the key stands in front of the place, or the place is behind all of its key
    by_cases hax : key a ≤ key x
    · rw [if_pos hax, List.filter_cons, List.filter_cons, ih htail]
      by_cases ha : key a = k <;> simp [ha]
    · rw [if_neg hax, List.filter_cons]
      by_cases hk : key x = k
      · -- from here on every key is greater
        have hnone : (a :: l).filter (key · = k) = [] := by
          rw [List.filter_eq_nil_iff]
          intro b hb heq
          have hb' : key b = key x := (of_decide_eq_true heq).trans hk.symm
          rcases List.mem_cons.mp hb with rfl | hb
          · exact hax hb'.le
          · exact hax ((hhead b hb).trans hb'.le)
        rw [hnone]
        simp [hk]
      · simp [hk]

theorem pairwise_insertLate {x : α} {l : List α} (h : l.Pairwise fun a b => key a ≤ key b) :
    (insertLate key x l).Pairwise fun a b => key a ≤ key b := by
  have hsorted := pairwise_sortedBy key (l ++ [x])
  rwa [sortedBy_concat, sortedBy_eq_self h] at hsorted

/-- The sort begins with the first entry that has the least key, and goes on as the sort of
    the others. -/
theorem sortedBy_eq_cons {l : List α} {a : α} {rest : List α} (h : sortedBy key l = a :: rest) :
    l.find? (key · = key a) = some a ∧ rest = sortedBy key (l.eraseP (key · = key a)) := by
  induction l generalizing a rest with
  | nil => cases h
  | cons x l ih =>
    have hsort : (sortedBy key l).orderedInsert (fun a b => key a ≤ key b) x = a :: rest := h
    -- the first entry leads the sort if no later key is less, else it is passed over
    by_cases hfirst : ∀ b ∈ (sortedBy key l).head?, key x ≤ key b
    · have hcons : (sortedBy key l).orderedInsert (fun a b => key a ≤ key b) x
          = x :: sortedBy key l := by
        cases hl : sortedBy key l with
        | nil => rfl
        | cons b l' => exact if_pos (hfirst b (by rw [hl]; rfl))
      rw [hcons] at hsort
      cases hsort
      have hself : decide (key x = key x) = true := decide_eq_true rfl
      rw [List.find?_cons_of_pos (p := (key · = key x)) hself,
        List.eraseP_cons_of_pos (p := (key · = key x)) hself]
      exact ⟨rfl, rfl⟩
    · push Not at hfirst
      obtain ⟨b, hb, hlt⟩ := hfirst
      obtain ⟨l', hl'⟩ := List.head?_eq_some_iff.mp hb
      rw [hl', List.orderedInsert_cons, if_neg (not_le.mpr hlt)] at hsort
      cases hsort
      obtain ⟨hfind, hrest⟩ := ih hl'
      have hne : ¬ decide (key x = key a) = true := by simpa using hlt.ne'
      rw [List.find?_cons_of_neg (p := (key · = key a)) hne,
        List.eraseP_cons_of_neg (p := (key · = key a)) hne, hrest]
      exact ⟨hfind, rfl⟩

/-- A stable sort keeps the entries of one key in their order. -/
theorem filter_sortedBy (l : List α) (k : κ) :
    (sortedBy key l).filter (key · = k) = l.filter (key · = k) := by
  induction l using List.reverseRecOn with
  | nil => rfl
  | append_singleton l x ih =>
    rw [sortedBy_concat, filter_insertLate (pairwise_sortedBy key l), ih, List.filter_append,
      List.filter_singleton]
    by_cases hk : key x = k <;> simp [hk]

end AsyncViz.Lib.Bisect
