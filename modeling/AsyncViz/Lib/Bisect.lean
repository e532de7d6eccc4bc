/-
  AsyncViz.Lib.Bisect

  Binary search in a sorted list, and the lookup that is built on it: the last
  entry whose key is at most a given one.

  * `bisectRight` is the halving loop.  `bisectRight_spec` is its contract: the
    keys before the returned position are at most `x`, the others above it.
  * `lastAtOrBefore` takes the entry before that position.
  * `IsNearest` says what such a lookup is for, in terms of membership alone, so
    it does not depend on how the entries are ordered;
    `lastAtOrBefore_isNearest` connects the two.
-/

import Mathlib.Data.List.Sort

namespace AsyncViz.Lib.Bisect

variable {α κ : Type _} [LinearOrder κ]

/-- The halving loop on the bounds `lo` and `hi`, for at most `rounds` rounds. -/
def bisectLoop (keys : List κ) (x : κ) : Nat → Nat → Nat → Nat
  | 0, lo, _ => lo
  | rounds + 1, lo, hi =>
    if lo < hi then
      let mid := (lo + hi) / 2
      match keys[mid]? with
      | some pivot =>
        if x < pivot then bisectLoop keys x rounds lo mid
        else bisectLoop keys x rounds (mid + 1) hi
      | none => lo
    else lo

/-- `bisect_right(keys, x)`. -/
def bisectRight (keys : List κ) (x : κ) : Nat := bisectLoop keys x keys.length 0 keys.length

/-- `p` splits `keys` at `x`: what stands before `p` is at most `x`, what stands
    at `p` or after it is above `x`. -/
structure Splits (keys : List κ) (x : κ) (p : Nat) : Prop where
  le_length : p ≤ keys.length
  before : ∀ i key, keys[i]? = some key → i < p → key ≤ x
  after : ∀ i key, keys[i]? = some key → p ≤ i → x < key

theorem getElem?_le_of_sorted {keys : List κ} (hsorted : keys.Pairwise (· ≤ ·)) {i j : Nat}
    {a b : κ} (hi : keys[i]? = some a) (hj : keys[j]? = some b) (hij : i ≤ j) : a ≤ b := by
  obtain ⟨hi', rfl⟩ := List.getElem?_eq_some_iff.mp hi
  obtain ⟨hj', rfl⟩ := List.getElem?_eq_some_iff.mp hj
  rcases Nat.lt_or_eq_of_le hij with hlt | rfl
  · exact List.pairwise_iff_getElem.mp hsorted i j hi' hj' hlt
  · exact le_refl _

/-- What holds outside the bounds holds of the position the loop returns.  Each
    round halves the window, so as many rounds as it is wide are enough. -/
theorem bisectLoop_splits {keys : List κ} (hsorted : keys.Pairwise (· ≤ ·)) (x : κ)
    {rounds lo hi : Nat} (hrounds : hi ≤ lo + rounds) (hlo : lo ≤ hi) (hhi : hi ≤ keys.length)
    (hbefore : ∀ i key, keys[i]? = some key → i < lo → key ≤ x)
    (hafter : ∀ i key, keys[i]? = some key → hi ≤ i → x < key) :
    Splits keys x (bisectLoop keys x rounds lo hi) := by
  induction rounds generalizing lo hi with
  | zero =>
    have heq : lo = hi := by omega
    exact ⟨by rw [bisectLoop]; omega, hbefore, by rw [bisectLoop, heq]; exact hafter⟩
  | succ rounds ih =>
    rw [bisectLoop]
    by_cases hlt : lo < hi
    · have hmid : (lo + hi) / 2 < keys.length := by omega
      rw [if_pos hlt]
      simp only [List.getElem?_eq_getElem hmid]
      by_cases hx : x < keys[(lo + hi) / 2]
      · -- the pivot is above `x`, and so is everything after it
        rw [if_pos hx]
        refine ih (by omega) (by omega) (by omega) hbefore fun i key hkey hi' => ?_
        have hge := getElem?_le_of_sorted hsorted (List.getElem?_eq_getElem hmid) hkey hi'
        exact lt_of_lt_of_le hx hge
      · -- the pivot is at most `x`, and so is everything before it
        rw [if_neg hx]
        refine ih (by omega) (by omega) hhi (fun i key hkey hi' => ?_) hafter
        have hle := getElem?_le_of_sorted hsorted hkey (List.getElem?_eq_getElem hmid)
          (by omega : i ≤ (lo + hi) / 2)
        exact le_trans hle (not_lt.mp hx)
    · have heq : lo = hi := by omega
      rw [if_neg hlt]
      exact ⟨by omega, hbefore, by rw [heq]; exact hafter⟩

theorem bisectRight_spec {keys : List κ} (hsorted : keys.Pairwise (· ≤ ·)) (x : κ) :
    Splits keys x (bisectRight keys x) := by
  refine bisectLoop_splits hsorted x (by omega) (by omega) (le_refl _) ?_ ?_
  · intro i key _ hi
    exact absurd hi (Nat.not_lt_zero i)
  · intro i key hkey hi
    obtain ⟨hlt, -⟩ := List.getElem?_eq_some_iff.mp hkey
    omega

/-! ## The last entry at or before a key -/

/-- The entry that stands before the insertion point of `x`. -/
def lastAtOrBefore (entries : List α) (key : α → κ) (x : κ) : Option α :=
  match bisectRight (entries.map key) x with
  | 0 => none
  | pos + 1 => entries[pos]?

/-- `nearest` is an entry with the greatest key at or before `x`, or none of the
    entries has such a key. -/
def IsNearest (entries : List α) (key : α → κ) (x : κ) : Option α → Prop
  | none => ∀ e ∈ entries, x < key e
  | some nearest =>
    nearest ∈ entries ∧ key nearest ≤ x ∧ ∀ e ∈ entries, key e ≤ x → key e ≤ key nearest

theorem IsNearest.of_perm {entries entries' : List α} {key : α → κ} {x : κ} {nearest : Option α}
    (hperm : entries.Perm entries') (h : IsNearest entries key x nearest) :
    IsNearest entries' key x nearest := by
  cases nearest with
  | none => exact fun e he => h e (hperm.mem_iff.mpr he)
  | some nearest =>
    obtain ⟨hmem, hle, hmax⟩ := h
    exact ⟨hperm.mem_iff.mp hmem, hle, fun e he => hmax e (hperm.mem_iff.mpr he)⟩

theorem lastAtOrBefore_isNearest {entries : List α} {key : α → κ}
    (hsorted : entries.Pairwise fun a b => key a ≤ key b) (x : κ) :
    IsNearest entries key x (lastAtOrBefore entries key x) := by
  have hspec := bisectRight_spec (List.pairwise_map.mpr hsorted) x
  have hget : ∀ (i : Nat) (e : α), entries[i]? = some e → (entries.map key)[i]? = some (key e) :=
    fun i e he => by rw [List.getElem?_map, he, Option.map_some]
  rw [lastAtOrBefore]
  split
  next hpos =>
    intro e he
    obtain ⟨i, hi⟩ := List.mem_iff_getElem?.mp he
    exact hspec.after i (key e) (hget i e hi) (by omega)
  next pos hpos =>
    have hlt : pos < entries.length := by
      have := hspec.le_length
      rw [hpos, List.length_map] at this
      omega
    have hnearest : entries[pos]? = some entries[pos] := List.getElem?_eq_getElem hlt
    rw [hnearest]
    refine ⟨List.getElem_mem hlt, hspec.before pos _ (hget pos _ hnearest) (by omega), ?_⟩
    intro e he hle
    obtain ⟨i, hi⟩ := List.mem_iff_getElem?.mp he
    -- an entry behind the insertion point is above `x`
    by_cases hip : i ≤ pos
    · exact getElem?_le_of_sorted (List.pairwise_map.mpr hsorted) (hget i e hi)
        (hget pos _ hnearest) hip
    · exact absurd (hspec.after i (key e) (hget i e hi) (by omega)) (not_lt.mpr hle)

/-- The entry found is the last one at or before `x`. -/
theorem lastAtOrBefore_eq_getLast? {entries : List α} {key : α → κ}
    (hsorted : entries.Pairwise fun a b => key a ≤ key b) (x : κ) :
    lastAtOrBefore entries key x = (entries.filter (key · ≤ x)).getLast? := by
  have hspec := bisectRight_spec (List.pairwise_map.mpr hsorted) x
  rw [lastAtOrBefore]
  generalize bisectRight (entries.map key) x = pos at hspec
  have hle : pos ≤ entries.length := by simpa using hspec.le_length
  have hget : ∀ (i : Nat) (e : α), entries[i]? = some e → (entries.map key)[i]? = some (key e) :=
    fun i e he => by rw [List.getElem?_map, he, Option.map_some]
  have hbefore : ∀ e ∈ entries.take pos, key e ≤ x := by
    intro e he
    obtain ⟨i, hi, rfl⟩ := List.mem_take_iff_getElem.mp he
    exact hspec.before i _ (hget i _ (List.getElem?_eq_getElem (by omega))) (by omega)
  have hafter : ∀ e ∈ entries.drop pos, ¬ key e ≤ x := by
    intro e he
    obtain ⟨i, hi, rfl⟩ := List.mem_drop_iff_getElem.mp he
    have hlt : pos + i < entries.length := by omega
    exact not_le.mpr
      (hspec.after (pos + i) _ (hget _ _ (List.getElem?_eq_getElem hlt)) (Nat.le_add_right pos i))
  have hfilter : entries.filter (key · ≤ x) = entries.take pos := by
    conv_lhs => rw [← List.take_append_drop pos entries]
    rw [List.filter_append, List.filter_eq_self.mpr fun e he => decide_eq_true (hbefore e he),
      List.filter_eq_nil_iff.mpr fun e he => by simpa using hafter e he, List.append_nil]
  rw [hfilter, List.getLast?_take]
  cases pos with
  | zero => rfl
  | succ pos =>
    have hlt : pos < entries.length := hle
    dsimp only
    rw [if_neg (Nat.succ_ne_zero pos), Nat.add_sub_cancel, List.getElem?_eq_getElem hlt]
    rfl

/-! ## Sorting by a key -/

/-- `sorted(entries, key=key)`. -/
def sortedBy (key : α → κ) (entries : List α) : List α :=
  entries.insertionSort fun a b => key a ≤ key b

theorem perm_sortedBy (key : α → κ) (entries : List α) : (sortedBy key entries).Perm entries :=
  List.perm_insertionSort _ _

theorem pairwise_sortedBy (key : α → κ) (entries : List α) :
    (sortedBy key entries).Pairwise fun a b => key a ≤ key b := by
  have : Std.Total (fun a b : α => key a ≤ key b) := ⟨fun a b => le_total _ _⟩
  have : IsTrans α (fun a b : α => key a ≤ key b) := ⟨fun _ _ _ => le_trans⟩
  exact List.pairwise_insertionSort _ _

theorem sortedBy_eq_self {key : α → κ} {entries : List α}
    (h : entries.Pairwise fun a b => key a ≤ key b) : sortedBy key entries = entries :=
  h.insertionSort_eq

/-- Looking up in the sorted entries finds a nearest one. -/
theorem lastAtOrBefore_sortedBy (key : α → κ) (entries : List α) (x : κ) :
    IsNearest entries key x (lastAtOrBefore (sortedBy key entries) key x) :=
  (lastAtOrBefore_isNearest (pairwise_sortedBy key entries) x).of_perm (perm_sortedBy key entries)

end AsyncViz.Lib.Bisect
