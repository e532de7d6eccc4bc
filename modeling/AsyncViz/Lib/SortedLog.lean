/-
  AsyncViz.Lib.SortedLog

  Lists whose keys strictly increase, read by key: the part up to a key, the part
  between two keys, the part after one.

  * `upTo_append_within`, `upTo_append_after`: the parts put together again.
  * `foldl_within`: folding the part between `s` and `t` onto the fold up to `s`
    is the fold up to `t`, which is what a stored fold is good for.
  * `IsNext log p a` says that `a` is the first entry after `p`; reading one entry
    more extends every part by it (`upTo_of_isNext`, `within_of_isNext`).
  * `takeWhile_le` and `takeWhile_after`: on such a list a scan that stops at the first
    larger key misses nothing.
-/

import Mathlib.Data.List.Sort

namespace AsyncViz.Lib.SortedLog

variable {α κ β : Type _} [LinearOrder κ] {key : α → κ} {log : List α} {s t u : κ}

/-- The keys strictly increase. -/
def Increasing (key : α → κ) (log : List α) : Prop := log.Pairwise fun a b => key a < key b

/-- The entries up to `t`. -/
def upTo (key : α → κ) (log : List α) (t : κ) : List α := log.filter fun a => key a ≤ t

/-- The entries after `s`. -/
def after (key : α → κ) (log : List α) (s : κ) : List α := log.filter fun a => s < key a

/-- The entries after `s` up to `t`. -/
def within (key : α → κ) (log : List α) (s t : κ) : List α :=
  log.filter fun a => s < key a ∧ key a ≤ t

theorem mem_upTo {a : α} : a ∈ upTo key log t ↔ a ∈ log ∧ key a ≤ t := by
  simp [upTo]

theorem mem_after {a : α} : a ∈ after key log s ↔ a ∈ log ∧ s < key a := by
  simp [after]

theorem mem_within {a : α} : a ∈ within key log s t ↔ a ∈ log ∧ s < key a ∧ key a ≤ t := by
  simp [within]

theorem Increasing.filter (h : Increasing key log) (p : α → Bool) :
    Increasing key (log.filter p) :=
  List.Pairwise.filter p h

theorem Increasing.nodup (h : Increasing key log) : log.Nodup :=
  List.Pairwise.imp (fun hlt heq => absurd hlt (by rw [heq]; exact lt_irrefl _)) h

/-- An entry is determined by its key. -/
theorem Increasing.eq_of_key_eq (h : Increasing key log) {a b : α} (ha : a ∈ log) (hb : b ∈ log)
    (heq : key a = key b) : a = b := by
  induction log with
  | nil => exact absurd ha List.not_mem_nil
  | cons c log ih =>
    obtain ⟨hc, hrest⟩ := List.pairwise_cons.mp h
    rcases List.mem_cons.mp ha with rfl | ha'
    · rcases List.mem_cons.mp hb with rfl | hb'
      · rfl
      · exact absurd heq (hc b hb').ne
    · rcases List.mem_cons.mp hb with rfl | hb'
      · exact absurd heq.symm (hc a ha').ne
      · exact ih hrest ha' hb'

/-- Another value that does not decrease along the list does not decrease with the key. -/
theorem Increasing.le_of_key_lt {τ : Type _} [Preorder τ] {val : α → τ} (h : Increasing key log)
    (hval : log.Pairwise fun a b => val a ≤ val b) {a b : α} (ha : a ∈ log) (hb : b ∈ log)
    (hlt : key a < key b) : val a ≤ val b := by
  obtain ⟨i, hi, rfl⟩ := List.getElem_of_mem ha
  obtain ⟨j, hj, rfl⟩ := List.getElem_of_mem hb
  rcases Nat.lt_trichotomy i j with hij | rfl | hji
  · exact List.pairwise_iff_getElem.mp hval i j hi hj hij
  · exact le_refl _
  · have hback := List.pairwise_iff_getElem.mp h j i hj hi hji
    exact absurd hlt (not_lt.mpr hback.le)

/-- A search by key finds the entry that has it. -/
theorem Increasing.find?_key (h : Increasing key log) {a : α} (ha : a ∈ log) :
    log.find? (fun b => key b = key a) = some a := by
  cases hfind : log.find? (fun b => decide (key b = key a)) with
  | none =>
    have := List.find?_eq_none.mp hfind a ha
    simp at this
  | some b =>
    have hkey : key b = key a := by simpa using List.find?_some hfind
    rw [h.eq_of_key_eq (List.mem_of_find?_eq_some hfind) ha hkey]

/-- The entries of a list whose keys increase are determined by which they are. -/
theorem Increasing.eq_of_mem_iff {log' : List α} (h : Increasing key log)
    (h' : Increasing key log') (hmem : ∀ a, a ∈ log ↔ a ∈ log') : log = log' := by
  refine List.Perm.eq_of_pairwise (fun a b _ _ hab hba => ?_) h h'
    ((List.perm_ext_iff_of_nodup h.nodup h'.nodup).mpr hmem)
  exact absurd hab (not_lt.mpr hba.le)

/-- The last entry has the greatest key. -/
theorem Increasing.getLastD_isMax {a : α} {rest : List α} (h : Increasing key (a :: rest)) :
    (∃ b ∈ a :: rest, key b = (rest.map key).getLastD (key a)) ∧
      ∀ b ∈ a :: rest, key b ≤ (rest.map key).getLastD (key a) := by
  induction rest generalizing a with
  | nil => exact ⟨⟨a, List.mem_singleton_self a, rfl⟩, fun b hb => by simp_all⟩
  | cons c rest ih =>
    obtain ⟨hfirst, hrest⟩ := List.pairwise_cons.mp h
    obtain ⟨⟨b, hb, hkey⟩, hmax⟩ := ih hrest
    rw [List.map_cons, List.getLastD_cons]
    refine ⟨⟨b, List.mem_cons_of_mem a hb, hkey⟩, fun d hd => ?_⟩
    rcases List.mem_cons.mp hd with rfl | hd'
    · exact (hfirst c List.mem_cons_self).le.trans (hmax c List.mem_cons_self)
    · exact hmax d hd'

/-! ## The end of the list -/

/-- An entry above all others goes behind them. -/
theorem increasing_snoc {a : α} :
    Increasing key (log ++ [a]) ↔ Increasing key log ∧ ∀ b ∈ log, key b < key a := by
  constructor
  · intro h
    obtain ⟨hlog, -, hcross⟩ := List.pairwise_append.mp h
    exact ⟨hlog, fun b hb => hcross b hb a (List.mem_singleton_self a)⟩
  · rintro ⟨hlog, hbelow⟩
    refine List.pairwise_append.mpr ⟨hlog, List.pairwise_singleton _ a, fun b hb c hc => ?_⟩
    rw [List.mem_singleton.mp hc]
    exact hbelow b hb

theorem Increasing.le_last {a : α} (h : Increasing key (log ++ [a])) (b : α)
    (hb : b ∈ log ++ [a]) : key b ≤ key a := by
  rcases List.mem_append.mp hb with hin | hin
  · exact ((increasing_snoc.mp h).2 b hin).le
  · rw [List.mem_singleton.mp hin]

/-- The last entry gives way to another with its key. -/
theorem Increasing.replace_last {a b : α} (h : Increasing key (log ++ [a]))
    (hkey : key b = key a) : Increasing key (log ++ [b]) := by
  obtain ⟨hlog, hbelow⟩ := increasing_snoc.mp h
  refine increasing_snoc.mpr ⟨hlog, fun c hc => ?_⟩
  rw [hkey]
  exact hbelow c hc

/-! ## Putting the parts together -/

/-- A part before a key and a part after it make up one increasing list. -/
theorem Increasing.append {xs ys : List α} (hx : Increasing key xs) (hy : Increasing key ys)
    (hle : ∀ a ∈ xs, key a ≤ s) (hlt : ∀ b ∈ ys, s < key b) : Increasing key (xs ++ ys) := by
  refine List.pairwise_append.mpr ⟨hx, hy, fun a ha b hb => ?_⟩
  exact lt_of_le_of_lt (hle a ha) (hlt b hb)

theorem upTo_append_within (h : Increasing key log) (hst : s ≤ t) :
    upTo key log s ++ within key log s t = upTo key log t := by
  refine Increasing.eq_of_mem_iff ?_ (h.filter _) fun a => ?_
  · exact (h.filter _).append (h.filter _) (fun a ha => (mem_upTo.mp ha).2)
      (fun b hb => (mem_within.mp hb).2.1)
  · rw [List.mem_append, mem_upTo, mem_within, mem_upTo]
    rcases le_or_gt (key a) s with hle | hlt
    · simp [hle, hle.trans hst]
    · simp [hlt, not_le.mpr hlt]

theorem upTo_append_after (h : Increasing key log) (s : κ) :
    upTo key log s ++ after key log s = log := by
  refine Increasing.eq_of_mem_iff ?_ h fun a => ?_
  · exact (h.filter _).append (h.filter _) (fun a ha => (mem_upTo.mp ha).2)
      (fun b hb => (mem_after.mp hb).2)
  · rw [List.mem_append, mem_upTo, mem_after]
    rcases le_or_gt (key a) s with hle | hlt
    · simp [hle]
    · simp [hlt]

theorem within_append_within (h : Increasing key log) (hst : s ≤ t) (htu : t ≤ u) :
    within key log s t ++ within key log t u = within key log s u := by
  refine Increasing.eq_of_mem_iff ?_ (h.filter _) fun a => ?_
  · exact (h.filter _).append (h.filter _) (fun a ha => (mem_within.mp ha).2.2)
      (fun b hb => (mem_within.mp hb).2.1)
  · rw [List.mem_append, mem_within, mem_within, mem_within]
    rcases le_or_gt (key a) t with hle | hlt
    · simp [hle, hle.trans htu, not_lt.mpr hle]
    · simp [hlt, hst.trans_lt hlt, not_le.mpr hlt]

theorem within_eq_upTo (hs : ∀ a ∈ log, s < key a) : within key log s t = upTo key log t :=
  List.filter_congr fun a ha => by simp [hs a ha]

theorem within_eq_nil (hts : t ≤ s) : within key log s t = [] := by
  refine List.filter_eq_nil_iff.mpr fun a _ => ?_
  simp only [decide_eq_true_eq, not_and, not_le]
  exact fun hlt => lt_of_le_of_lt hts hlt

theorem upTo_eq_nil (ht : ∀ a ∈ log, t < key a) : upTo key log t = [] :=
  List.filter_eq_nil_iff.mpr fun a ha => by simp [ht a ha]

/-- Entries missing between `s` and `t` leave the two parts the same. -/
theorem upTo_eq_upTo (hst : s ≤ t) (hnone : ∀ a ∈ log, key a ≤ t → key a ≤ s) :
    upTo key log t = upTo key log s := by
  refine List.filter_congr fun a ha => ?_
  by_cases hle : key a ≤ s
  · simp [hle, hle.trans hst]
  · have hgt : ¬ key a ≤ t := fun h => hle (hnone a ha h)
    simp [hle, hgt]

/-- A fold that was stored at `s` is carried on to `t`. -/
theorem foldl_within (h : Increasing key log) (hst : s ≤ t) (f : β → α → β) (init : β) :
    (within key log s t).foldl f ((upTo key log s).foldl f init)
      = (upTo key log t).foldl f init := by
  rw [← List.foldl_append, upTo_append_within h hst]

/-! ## Scanning -/

theorem takeWhile_le (h : Increasing key log) (t : κ) :
    log.takeWhile (fun a => key a ≤ t) = upTo key log t := by
  induction log with
  | nil => rfl
  | cons a log ih =>
    obtain ⟨ha, hrest⟩ := List.pairwise_cons.mp h
    by_cases hle : key a ≤ t
    · rw [List.takeWhile_cons_of_pos (by simpa using hle), ih hrest, upTo, upTo,
        List.filter_cons_of_pos (by simpa using hle)]
    · -- the scan stops, and everything behind `a` is above `t` as well
      rw [List.takeWhile_cons_of_neg (by simpa using hle), upTo_eq_nil]
      intro b hb
      rcases List.mem_cons.mp hb with rfl | hb
      · exact not_le.mp hle
      · exact (not_le.mp hle).trans (ha b hb)

theorem takeWhile_after (h : Increasing key log) (s t : κ) :
    (after key log s).takeWhile (fun a => key a ≤ t) = within key log s t := by
  have hafter : Increasing key (after key log s) := h.filter _
  rw [takeWhile_le hafter, upTo, after, List.filter_filter]
  exact List.filter_congr fun a _ => by simp [and_comm]

/-- Behind the last of the first `n` entries are the others. -/
theorem Increasing.after_last_taken (h : Increasing key log) {n : Nat} {a : α}
    (hlast : (log.take n).getLast? = some a) : after key log (key a) = log.drop n := by
  obtain ⟨before, hbefore⟩ := List.getLast?_eq_some_iff.mp hlast
  have hsplit := List.take_append_drop n log
  rw [hbefore] at hsplit
  rw [← hsplit] at h
  obtain ⟨htaken, -, hcross⟩ := List.pairwise_append.mp h
  rw [after]
  conv_lhs => rw [← hsplit]
  rw [List.filter_append, List.filter_eq_nil_iff.mpr fun b hb => ?_,
    List.filter_eq_self.mpr fun b hb => ?_, List.nil_append]
  · exact decide_eq_true (hcross a (List.mem_append_right _ List.mem_cons_self) b hb)
  · have hle : key b ≤ key a := Increasing.le_last htaken b hb
    simpa using hle

/-! ## The next entry -/

/-- `a` is the first entry after `p`. -/
structure IsNext (key : α → κ) (log : List α) (p : κ) (a : α) : Prop where
  mem : a ∈ log
  lt : p < key a
  first : ∀ b ∈ log, p < key b → key a ≤ key b

/-- What a search from `t` on finds first has the least key there. -/
theorem Increasing.first_of_find? (h : Increasing key log) {t : κ} {a : α}
    (hfind : log.find? (t ≤ key ·) = some a) :
    a ∈ log ∧ t ≤ key a ∧ ∀ b ∈ log, t ≤ key b → key a ≤ key b := by
  obtain ⟨hta, before, behind, rfl, hbefore⟩ := List.find?_eq_some_iff_append.mp hfind
  refine ⟨List.mem_append_right _ List.mem_cons_self, of_decide_eq_true hta, fun b hb htb => ?_⟩
  obtain ⟨-, hbehind, -⟩ := List.pairwise_append.mp h
  rcases List.mem_append.mp hb with hin | hin
  · have hnot := hbefore b hin
    simp [htb] at hnot
  · rcases List.mem_cons.mp hin with rfl | hin
    · exact le_refl _
    · exact ((List.pairwise_cons.mp hbehind).1 b hin).le

theorem Increasing.find?_le_iff (h : Increasing key log) {t : κ} {a : α} :
    log.find? (t ≤ key ·) = some a ↔
      a ∈ log ∧ t ≤ key a ∧ ∀ b ∈ log, t ≤ key b → key a ≤ key b := by
  refine ⟨h.first_of_find?, ?_⟩
  rintro ⟨ha, hta, hfirst⟩
  cases hfind : log.find? (t ≤ key ·) with
  | none =>
    have hnot := List.find?_eq_none.mp hfind a ha
    simp [hta] at hnot
  | some b =>
    obtain ⟨hb, htb, hmin⟩ := h.first_of_find? hfind
    rw [h.eq_of_key_eq hb ha (le_antisymm (hmin a ha hta) (hfirst b hb htb))]

theorem IsNext.eq {p : κ} {a b : α} (h : Increasing key log) (ha : IsNext key log p a)
    (hb : IsNext key log p b) : a = b :=
  h.eq_of_key_eq ha.mem hb.mem (le_antisymm (ha.first b hb.mem hb.lt) (hb.first a ha.mem ha.lt))

theorem within_of_isNext {a : α} (h : Increasing key log) (hnext : IsNext key log s a) :
    within key log s (key a) = [a] := by
  refine Increasing.eq_of_mem_iff (h.filter _) (List.pairwise_singleton _ a) fun b => ?_
  rw [mem_within, List.mem_singleton]
  constructor
  · rintro ⟨hb, hsb, hba⟩
    exact h.eq_of_key_eq hb hnext.mem (le_antisymm hba (hnext.first b hb hsb))
  · rintro rfl
    exact ⟨hnext.mem, hnext.lt, le_refl _⟩

theorem upTo_of_isNext {a : α} (h : Increasing key log) (hnext : IsNext key log s a) :
    upTo key log (key a) = upTo key log s ++ [a] := by
  rw [← upTo_append_within h hnext.lt.le, within_of_isNext h hnext]

theorem within_append_of_isNext {a : α} (h : Increasing key log) (hnext : IsNext key log t a)
    (hs : s < key a) : within key log s (key a) = within key log s t ++ [a] := by
  refine Increasing.eq_of_mem_iff (h.filter _) ?_ fun b => ?_
  · exact increasing_snoc.mpr ⟨h.filter _, fun b hb => (mem_within.mp hb).2.2.trans_lt hnext.lt⟩
  · rw [List.mem_append, mem_within, mem_within, List.mem_singleton]
    constructor
    · rintro ⟨hb, hsb, hba⟩
      rcases le_or_gt (key b) t with hle | hlt
      · exact .inl ⟨hb, hsb, hle⟩
      · exact .inr (h.eq_of_key_eq hb hnext.mem (le_antisymm hba (hnext.first b hb hlt)))
    · rintro (⟨hb, hsb, hbt⟩ | rfl)
      · exact ⟨hb, hsb, hbt.trans hnext.lt.le⟩
      · exact ⟨hnext.mem, hs, le_refl _⟩

end AsyncViz.Lib.SortedLog
