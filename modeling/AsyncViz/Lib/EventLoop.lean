/-
  AsyncViz.Lib.EventLoop

  The queues of a browser's event loop, as far as a program sees them: microtasks, and animation
  frames that are known by a handle and can be cancelled.  Callbacks are values of any type.

  A handle is never given twice (`fresh`), so that what waits under one stays what it was until it
  runs or is cancelled: `get?_raf_of_get?`, `get?_caf_of_get?`.
-/

import AsyncViz.Lib.Dict

namespace AsyncViz.Lib

/-- The callbacks that wait. -/
structure EventLoop (μ φ : Type _) where
  microtasks : List μ := []
  frames : Dict Nat φ := .empty
  nextHandle : Nat := 0
  fresh : ∀ handle ∈ frames, handle < nextHandle

namespace EventLoop

variable {μ φ : Type _}

theorem fresh_empty : ∀ handle ∈ (Dict.empty : Dict Nat φ), handle < 0 := by
  intro handle hmem
  cases hmem

/-- Nothing waits. -/
def empty : EventLoop μ φ where
  fresh := fresh_empty

/-- `queueMicrotask(task)`. -/
def queueMicrotask (loop : EventLoop μ φ) (task : μ) : EventLoop μ φ :=
  { loop with microtasks := loop.microtasks ++ [task] }

/-- `requestAnimationFrame(cb)`: the handle. -/
def raf (loop : EventLoop μ φ) (cb : φ) : Nat × EventLoop μ φ :=
  (loop.nextHandle,
    { loop with
      frames := loop.frames.set loop.nextHandle cb
      nextHandle := loop.nextHandle + 1
      fresh := by
        intro handle hmem
        rcases (Dict.mem_set_iff _ _ _ _).mp hmem with rfl | hmem
        · exact Nat.lt_succ_self _
        · exact Nat.lt_succ_of_lt (loop.fresh handle hmem) })

/-- `cancelAnimationFrame(handle)`. -/
def caf (loop : EventLoop μ φ) (handle : Nat) : EventLoop μ φ :=
  { loop with
    frames := loop.frames.pop handle
    fresh := fun other hmem => loop.fresh other ((Dict.mem_pop_iff _ _ _).mp hmem).2 }

/-- A microtask is taken to be run; `none` if it does not wait. -/
def takeMicrotask [DecidableEq μ] (loop : EventLoop μ φ) (task : μ) : Option (EventLoop μ φ) :=
  if task ∈ loop.microtasks then some { loop with microtasks := loop.microtasks.erase task }
  else none

/-- A frame is taken to be run; `none` if it does not wait. -/
def takeFrame (loop : EventLoop μ φ) (handle : Nat) : Option (φ × EventLoop μ φ) :=
  (loop.frames.get? handle).map fun cb => (cb, loop.caf handle)

variable {loop : EventLoop μ φ} {task : μ} {cb cb' : φ} {handle handle' : Nat}

theorem mem_queueMicrotask : task ∈ (loop.queueMicrotask task).microtasks :=
  List.mem_append_right _ (List.mem_singleton.mpr rfl)

theorem get?_raf_self : (loop.raf cb).2.frames.get? (loop.raf cb).1 = some cb :=
  Dict.get?_set_self _ _ _

/-- What waits keeps its handle. -/
theorem get?_raf_of_get? (h : loop.frames.get? handle = some cb) :
    (loop.raf cb').2.frames.get? handle = some cb := by
  have hlt := loop.fresh handle (Dict.mem_of_get?_eq_some h)
  exact (Dict.get?_set_of_ne _ _ (Nat.ne_of_lt hlt)).trans h

/-- What waits afterwards is new or has waited before. -/
theorem get?_raf (h : (loop.raf cb').2.frames.get? handle = some cb) :
    cb = cb' ∨ loop.frames.get? handle = some cb := by
  have hset : (loop.frames.set loop.nextHandle cb').get? handle = some cb := h
  rw [Dict.get?_set] at hset
  by_cases hnew : handle = loop.nextHandle
  · rw [if_pos hnew] at hset
    exact .inl (Option.some.inj hset).symm
  · rw [if_neg hnew] at hset
    exact .inr hset

/-- What waits goes on waiting when another one is cancelled. -/
theorem get?_caf_of_get? (h : loop.frames.get? handle' = some cb)
    (hcancelled : loop.frames.get? handle = some cb') (hne : cb ≠ cb') :
    (loop.caf handle).frames.get? handle' = some cb := by
  have hother : handle' ≠ handle := by
    rintro rfl
    exact hne (Option.some.inj (h.symm.trans hcancelled))
  exact (Dict.get?_pop_of_ne _ hother).trans h

theorem get?_of_get?_caf (h : (loop.caf handle).frames.get? handle' = some cb) :
    loop.frames.get? handle' = some cb := by
  have hpop : (loop.frames.pop handle).get? handle' = some cb := h
  rw [Dict.get?_pop] at hpop
  by_cases hsame : handle' = handle
  · rw [if_pos hsame] at hpop
    cases hpop
  · rw [if_neg hsame] at hpop
    exact hpop

theorem takeFrame_eq_some {loop' : EventLoop μ φ} (h : loop.takeFrame handle = some (cb, loop')) :
    loop.frames.get? handle = some cb ∧ loop' = loop.caf handle := by
  obtain ⟨cb', hget, heq⟩ := Option.map_eq_some_iff.mp h
  cases heq
  exact ⟨hget, rfl⟩

theorem takeMicrotask_eq_some [DecidableEq μ] {loop' : EventLoop μ φ}
    (h : loop.takeMicrotask task = some loop') :
    task ∈ loop.microtasks ∧ loop'.frames = loop.frames := by
  obtain ⟨hmem, heq⟩ := Option.ite_none_right_eq_some.mp h
  cases heq
  exact ⟨hmem, rfl⟩

end EventLoop

end AsyncViz.Lib
