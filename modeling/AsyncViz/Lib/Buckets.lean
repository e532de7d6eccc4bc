/-
  AsyncViz.Lib.Buckets

  A dict of sets, as a secondary index has it: a bucket is made with its first element and goes
  with its last one.  `bucket` reads one, empty or not, and `Trim` says that none is empty.

  * `mem_bucket_addTo`, `mem_bucket_discardFrom`: what one operation does to every bucket.
  * `mem_bucket_addAll`, `mem_bucket_discardAll`: the same for the keys of one element.
-/

import AsyncViz.Lib.Dict
import Mathlib.Data.Finset.Basic

namespace AsyncViz.Lib

/-- Sets by key. -/
abbrev Buckets (κ ι : Type _) := Dict κ (Finset ι)

namespace Buckets

variable {κ ι : Type _} [DecidableEq κ]

/-- The set under a key. -/
def bucket (d : Buckets κ ι) (k : κ) : Finset ι := (d.get? k).getD ∅

/-- No set is empty. -/
def Trim (d : Buckets κ ι) : Prop := ∀ k s, d.get? k = some s → s ≠ ∅

theorem bucket_of_get? {d : Buckets κ ι} {k : κ} {s : Finset ι} (h : d.get? k = some s) :
    bucket d k = s := by
  rw [bucket, h]
  rfl

theorem bucket_set (d : Buckets κ ι) (k k' : κ) (s : Finset ι) :
    bucket (d.set k s) k' = if k' = k then s else bucket d k' := by
  rw [bucket, Dict.get?_set]
  split <;> rfl

theorem bucket_pop (d : Buckets κ ι) (k k' : κ) :
    bucket (d.pop k) k' = if k' = k then ∅ else bucket d k' := by
  rw [bucket, Dict.get?_pop]
  split <;> rfl

variable [DecidableEq ι]

/-- Puts an element into the set under a key. -/
def addTo (d : Buckets κ ι) (k : κ) (i : ι) : Buckets κ ι := d.set k (insert i (bucket d k))

/-- Takes an element out of the set under a key, and the set away once it is empty. -/
def discardFrom (d : Buckets κ ι) (k : κ) (i : ι) : Buckets κ ι :=
  match d.get? k with
  | none => d
  | some s => if s.erase i = ∅ then d.pop k else d.set k (s.erase i)

/-- Puts an element under each of the keys. -/
def addAll (d : Buckets κ ι) (ks : List κ) (i : ι) : Buckets κ ι :=
  ks.foldl (fun d k => addTo d k i) d

/-- Takes an element out from under each of the keys. -/
def discardAll (d : Buckets κ ι) (ks : List κ) (i : ι) : Buckets κ ι :=
  ks.foldl (fun d k => discardFrom d k i) d

variable {d : Buckets κ ι} {k k' : κ} {i j : ι} {ks : List κ}

theorem mem_bucket_addTo : j ∈ bucket (addTo d k i) k' ↔ j ∈ bucket d k' ∨ (k' = k ∧ j = i) := by
  rw [addTo, bucket_set]
  by_cases hk : k' = k
  · subst hk
    rw [if_pos rfl, Finset.mem_insert, or_comm]
    simp
  · rw [if_neg hk]
    simp [hk]

theorem mem_bucket_discardFrom :
    j ∈ bucket (discardFrom d k i) k' ↔ j ∈ bucket d k' ∧ ¬ (k' = k ∧ j = i) := by
  rw [discardFrom]
  cases hget : d.get? k with
  | none =>
    -- there is nothing under `k`
    dsimp only
    refine ⟨fun hmem => ⟨hmem, ?_⟩, And.left⟩
    rintro ⟨rfl, -⟩
    rw [bucket, hget] at hmem
    exact Finset.notMem_empty j hmem
  | some s =>
    have hbucket := bucket_of_get? hget
    have hset : ∀ t : Finset ι, t = s.erase i → (j ∈ (if k' = k then t else bucket d k') ↔
        j ∈ bucket d k' ∧ ¬ (k' = k ∧ j = i)) := by
      rintro t rfl
      by_cases hk : k' = k
      · subst hk
        rw [if_pos rfl, Finset.mem_erase, hbucket]
        simp [and_comm]
      · rw [if_neg hk]
        simp [hk]
    dsimp only
    split
    · next hempty =>
      rw [bucket_pop]
      exact hset ∅ hempty.symm
    · rw [bucket_set]
      exact hset (s.erase i) rfl

theorem trim_addTo (h : Trim d) : Trim (addTo d k i) := by
  intro k' s hget
  rw [addTo, Dict.get?_set] at hget
  split at hget
  · rw [← Option.some.inj hget]
    exact Finset.insert_ne_empty i _
  · exact h k' s hget

theorem trim_discardFrom (h : Trim d) : Trim (discardFrom d k i) := by
  intro k' s hget
  rw [discardFrom] at hget
  split at hget
  · exact h k' s hget
  · split at hget
    · rw [Dict.get?_pop] at hget
      split at hget
      · cases hget
      · exact h k' s hget
    · next hne =>
      rw [Dict.get?_set] at hget
      split at hget
      · rw [← Option.some.inj hget]
        exact hne
      · exact h k' s hget

theorem mem_bucket_addAll :
    j ∈ bucket (addAll d ks i) k' ↔ j ∈ bucket d k' ∨ (k' ∈ ks ∧ j = i) := by
  induction ks generalizing d with
  | nil => simp [addAll]
  | cons k ks ih =>
    refine (ih (d := addTo d k i)).trans ?_
    rw [mem_bucket_addTo, List.mem_cons, or_assoc, or_and_right]

theorem mem_bucket_discardAll :
    j ∈ bucket (discardAll d ks i) k' ↔ j ∈ bucket d k' ∧ ¬ (k' ∈ ks ∧ j = i) := by
  induction ks generalizing d with
  | nil => simp [discardAll]
  | cons k ks ih =>
    refine (ih (d := discardFrom d k i)).trans ?_
    rw [mem_bucket_discardFrom, List.mem_cons, and_assoc, or_and_right, not_or]

theorem trim_addAll (h : Trim d) : Trim (addAll d ks i) := by
  induction ks generalizing d with
  | nil => exact h
  | cons k ks ih => exact ih (trim_addTo h)

theorem trim_discardAll (h : Trim d) : Trim (discardAll d ks i) := by
  induction ks generalizing d with
  | nil => exact h
  | cons k ks ih => exact ih (trim_discardFrom h)

end Buckets

end AsyncViz.Lib
