/-
  AsyncViz.Lib.BoundedRing

  The bounded ring of `collections.deque(maxlen=n)`: appending to a full ring
  drops the oldest element.

  After any sequence of appends the ring holds the last `capacity` elements of
  everything it was given (`items_foldl_push`), a suffix in the order of the
  appends (`push_items_suffix`).
-/

import Mathlib.Data.List.DropRight
import Mathlib.Data.List.Infix

namespace AsyncViz.Lib

/-- A ring of at most `capacity` elements, oldest first. -/
structure BoundedRing (α : Type _) where
  capacity : Nat
  items : List α
  length_le : items.length ≤ capacity
deriving DecidableEq, Repr

namespace BoundedRing

variable {α : Type _}

/-- `deque(maxlen=capacity)`. -/
def empty (capacity : Nat) : BoundedRing α := ⟨capacity, [], Nat.zero_le _⟩

theorem length_rtake (n : Nat) (l : List α) : (l.rtake n).length = min n l.length := by
  rw [List.rtake, List.length_drop]
  omega

theorem length_rtake_le (n : Nat) (l : List α) : (l.rtake n).length ≤ n := by
  rw [length_rtake]
  exact Nat.min_le_left _ _

/-- `ring.append(x)`. -/
def push (r : BoundedRing α) (x : α) : BoundedRing α :=
  ⟨r.capacity, (r.items ++ [x]).rtake r.capacity, length_rtake_le _ _⟩

/-- `ring.clear()`. -/
def clear (r : BoundedRing α) : BoundedRing α := empty r.capacity

/-- The ring is full: the next append evicts its head. -/
def Full (r : BoundedRing α) : Prop := r.items.length = r.capacity

instance (r : BoundedRing α) : Decidable r.Full :=
  inferInstanceAs (Decidable (r.items.length = r.capacity))

@[simp] theorem empty_items (n : Nat) : (empty n : BoundedRing α).items = [] := rfl
@[simp] theorem empty_capacity (n : Nat) : (empty n : BoundedRing α).capacity = n := rfl
@[simp] theorem push_capacity (r : BoundedRing α) (x : α) : (r.push x).capacity = r.capacity := rfl
@[simp] theorem clear_items (r : BoundedRing α) : r.clear.items = [] := rfl
@[simp] theorem clear_capacity (r : BoundedRing α) : r.clear.capacity = r.capacity := rfl

theorem push_items (r : BoundedRing α) (x : α) :
    (r.push x).items = (r.items ++ [x]).rtake r.capacity := rfl

/-! ## The last `n` elements -/

theorem rtake_of_length_le {n : Nat} {l : List α} (h : l.length ≤ n) : l.rtake n = l := by
  rw [List.rtake, Nat.sub_eq_zero_of_le h, List.drop_zero]

theorem rtake_suffix (n : Nat) (l : List α) : l.rtake n <:+ l := List.drop_suffix _ _

/-- A short end of the list is among the last `n`. -/
theorem suffix_rtake {n : Nat} {l l' : List α} (h : l' <:+ l) (hlen : l'.length ≤ n) :
    l' <:+ l.rtake n := by
  have hle := h.length_le
  apply List.suffix_of_suffix_length_le h (rtake_suffix n l)
  rw [length_rtake]
  exact Nat.le_min.mpr ⟨hlen, hle⟩

theorem rtake_append_of_length_eq {n : Nat} {l l' : List α} (h : l'.length = n) :
    (l ++ l').rtake n = l' := by
  rw [List.rtake, List.length_append, h, Nat.add_sub_cancel, List.drop_left]

theorem rtake_rtake {n j : Nat} (h : j ≤ n) (l : List α) : (l.rtake n).rtake j = l.rtake j := by
  unfold List.rtake
  rw [List.drop_drop, List.length_drop]
  congr 1
  omega

/-- Forgetting early does not matter: the last `n` of `l ++ l'` only needs the
    last `n` of `l`. -/
theorem rtake_rtake_append (n : Nat) (l l' : List α) :
    (l.rtake n ++ l').rtake n = (l ++ l').rtake n := by
  unfold List.rtake
  rw [List.length_append, List.length_append, List.length_drop, List.drop_append, List.drop_append,
    List.drop_drop, List.length_drop]
  congr 2 <;> omega

/-- The last `n` of `l ++ l'`: what fits of `l`, then what fits of `l'`. -/
theorem rtake_append (n : Nat) (l l' : List α) :
    (l ++ l').rtake n = l.rtake (n - l'.length) ++ l'.rtake n := by
  unfold List.rtake
  rw [List.length_append, List.drop_append]
  congr 1
  · by_cases hlong : n < l'.length
    · -- nothing of `l` is left
      rw [List.drop_of_length_le (by omega), List.drop_of_length_le (by omega)]
    · rw [show l.length + l'.length - n = l.length - (n - l'.length) by omega]
  · rw [show l.length + l'.length - n - l.length = l'.length - n by omega]

/-! ## Append -/

theorem push_items_of_not_full {r : BoundedRing α} (x : α) (h : ¬ r.Full) :
    (r.push x).items = r.items ++ [x] := by
  have hle := r.length_le
  have hne : r.items.length ≠ r.capacity := h
  rw [push_items, rtake_of_length_le]
  rw [List.length_append, List.length_singleton]
  omega

theorem push_items_of_full {r : BoundedRing α} (x : α) (h : r.Full) (hpos : 0 < r.capacity) :
    (r.push x).items = r.items.tail ++ [x] := by
  have hlen : r.items.length = r.capacity := h
  rw [push_items, List.rtake, List.length_append, List.length_singleton, hlen,
    Nat.add_sub_cancel_left, List.drop_append_of_le_length (by omega), List.drop_one]

theorem push_items_suffix (r : BoundedRing α) (x : α) :
    (r.push x).items <:+ r.items ++ [x] := rtake_suffix _ _

theorem mem_push_self (r : BoundedRing α) (x : α) (hpos : 0 < r.capacity) :
    x ∈ (r.push x).items := by
  by_cases h : r.Full
  · simp [push_items_of_full x h hpos]
  · simp [push_items_of_not_full x h]

theorem push_items_ne_nil (r : BoundedRing α) (x : α) (hpos : 0 < r.capacity) :
    (r.push x).items ≠ [] :=
  List.ne_nil_of_mem (mem_push_self r x hpos)

theorem foldl_push_capacity (r : BoundedRing α) (xs : List α) :
    (xs.foldl push r).capacity = r.capacity := by
  induction xs generalizing r with
  | nil => rfl
  | cons x xs ih => rw [List.foldl_cons, ih, push_capacity]

/-- The run rule of the ring: it holds the last `capacity` of all it was given. -/
theorem items_foldl_push (r : BoundedRing α) (xs : List α) :
    (xs.foldl push r).items = (r.items ++ xs).rtake r.capacity := by
  induction xs generalizing r with
  | nil => simp [rtake_of_length_le r.length_le]
  | cons x xs ih =>
    rw [List.foldl_cons, ih, push_capacity, push_items, rtake_rtake_append, List.append_assoc,
      List.singleton_append]

end BoundedRing

end AsyncViz.Lib
