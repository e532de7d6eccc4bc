/-
  AsyncViz.Lib.AsyncioQueue

  The non-blocking core of `asyncio.Queue`: the FIFO list of items, the
  unfinished-task counter that `join` waits on, the `_finished` event and the
  number of coroutines suspended on it.

  `putNowait`, `getNowait` and `taskDone` are partial the way the originals
  raise: `QueueFull`, `QueueEmpty` and `ValueError`.  A `taskDone` that brings
  the counter to zero sets the event and so resumes every suspended `join`.
-/

import Mathlib.Data.List.Basic

namespace AsyncViz.Lib

/-- An `asyncio.Queue`; `maxsize = 0` means unbounded. -/
structure AsyncioQueue (α : Type _) where
  maxsize : Nat
  items : List α
  unfinishedTasks : Nat
  finished : Bool
  joinWaiters : Nat

namespace AsyncioQueue

variable {α : Type _}

/-- `asyncio.Queue(maxsize)`. -/
def new (maxsize : Nat) : AsyncioQueue α :=
  { maxsize := maxsize, items := [], unfinishedTasks := 0, finished := true, joinWaiters := 0 }

/-- `q.qsize()`. -/
def qsize (q : AsyncioQueue α) : Nat := q.items.length

/-- `q.full()`. -/
def full (q : AsyncioQueue α) : Bool := 0 < q.maxsize && q.maxsize ≤ q.qsize

/-- `q.put_nowait(item)`; `none` is `QueueFull`. -/
def putNowait (q : AsyncioQueue α) (item : α) : Option (AsyncioQueue α) :=
  if q.full then none
  else some { q with
    items := q.items ++ [item]
    unfinishedTasks := q.unfinishedTasks + 1
    finished := false }

/-- `q.get_nowait()`; `none` is `QueueEmpty`. -/
def getNowait (q : AsyncioQueue α) : Option (α × AsyncioQueue α) :=
  match q.items with
  | [] => none
  | item :: rest => some (item, { q with items := rest })

/-- `q.task_done()`; `none` is the `ValueError` of too many calls. -/
def taskDone (q : AsyncioQueue α) : Option (AsyncioQueue α) :=
  if q.unfinishedTasks ≤ 0 then none
  else if q.unfinishedTasks - 1 = 0 then
    some { q with unfinishedTasks := 0, finished := true, joinWaiters := 0 }
  else some { q with unfinishedTasks := q.unfinishedTasks - 1 }

/-- `q.join()` up to its suspension: `true` when it returns at once. -/
def join (q : AsyncioQueue α) : Bool × AsyncioQueue α :=
  if 0 < q.unfinishedTasks then
    if q.finished then (true, q) else (false, { q with joinWaiters := q.joinWaiters + 1 })
  else (true, q)

/-! ## What one operation does -/

theorem full_iff {q : AsyncioQueue α} (hpos : 0 < q.maxsize) :
    q.full = true ↔ q.maxsize ≤ q.items.length := by
  rw [full, qsize]
  rw [Bool.and_eq_true, decide_eq_true_iff, decide_eq_true_iff, and_iff_right hpos]

theorem putNowait_eq_some {q q' : AsyncioQueue α} {item : α} (h : q.putNowait item = some q') :
    q.full = false ∧ q' = { q with
      items := q.items ++ [item]
      unfinishedTasks := q.unfinishedTasks + 1
      finished := false } := by
  rw [putNowait] at h
  cases hfull : q.full with
  | true => simp [hfull] at h
  | false =>
    rw [hfull] at h
    exact ⟨rfl, (Option.some.inj h).symm⟩

theorem putNowait_eq_none_iff {q : AsyncioQueue α} {item : α} :
    q.putNowait item = none ↔ q.full = true := by
  rw [putNowait]
  cases hfull : q.full <;> simp

theorem getNowait_eq_some {q q' : AsyncioQueue α} {item : α} (h : q.getNowait = some (item, q')) :
    q.items = item :: q'.items ∧ q'.maxsize = q.maxsize ∧
      q'.unfinishedTasks = q.unfinishedTasks ∧ q'.finished = q.finished ∧
      q'.joinWaiters = q.joinWaiters := by
  rw [getNowait] at h
  cases hitems : q.items with
  | nil => simp [hitems] at h
  | cons x rest =>
    rw [hitems] at h
    obtain ⟨rfl, rfl⟩ := Prod.mk.inj (Option.some.inj h)
    exact ⟨rfl, rfl, rfl, rfl, rfl⟩

theorem getNowait_eq_none_iff {q : AsyncioQueue α} : q.getNowait = none ↔ q.items = [] := by
  rw [getNowait]
  cases q.items <;> simp

theorem taskDone_eq_none_iff {q : AsyncioQueue α} : q.taskDone = none ↔ q.unfinishedTasks = 0 := by
  rw [taskDone]
  by_cases hzero : q.unfinishedTasks ≤ 0
  · rw [if_pos hzero]
    exact ⟨fun _ => Nat.le_zero.mp hzero, fun _ => rfl⟩
  · rw [if_neg hzero]
    constructor
    · intro h
      split at h <;> cases h
    · intro h
      omega

/-- `task_done` counts one task off, keeps the items, and resumes the joiners
    exactly when it counts the last one off. -/
theorem taskDone_eq_some {q q' : AsyncioQueue α} (h : q.taskDone = some q') :
    q.unfinishedTasks = q'.unfinishedTasks + 1 ∧ q'.items = q.items ∧ q'.maxsize = q.maxsize ∧
      q'.finished = (if q'.unfinishedTasks = 0 then true else q.finished) ∧
      q'.joinWaiters = (if q'.unfinishedTasks = 0 then 0 else q.joinWaiters) := by
  rw [taskDone] at h
  by_cases hzero : q.unfinishedTasks ≤ 0
  · simp [hzero] at h
  · rw [if_neg hzero] at h
    by_cases hlast : q.unfinishedTasks - 1 = 0
    · rw [if_pos hlast] at h
      obtain rfl := Option.some.inj h
      refine ⟨?_, rfl, rfl, rfl, rfl⟩
      show q.unfinishedTasks = 0 + 1
      omega
    · rw [if_neg hlast] at h
      obtain rfl := Option.some.inj h
      refine ⟨?_, rfl, rfl, (if_neg hlast).symm, (if_neg hlast).symm⟩
      show q.unfinishedTasks = q.unfinishedTasks - 1 + 1
      omega

end AsyncioQueue

end AsyncViz.Lib
