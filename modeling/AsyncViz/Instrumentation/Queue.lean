/-
  AsyncViz.Instrumentation.Queue

  The patched methods of `QueueInstrumentationEngine` (`instrumentation/queue/queue_patch.py`)
  on one `asyncio.Queue`, and the calls that any number of tasks make on it.

  `put` and `get` of asyncio end in `put_nowait` and `get_nowait`, which are patched as well
  and stay silent within a patched outer call.  They know by a flag, `_in_outer_put` or
  `_in_outer_get`, that the outer call sets for as long as it waits and then resets to what it
  was.  The flags are `ContextVar`s: they belong to the Context that a call runs in, not to the
  call or the queue.  Nothing is assumed of the Contexts: tasks may share one, one may be copied
  while a call waits in it, and calls on other queues set the same flags.  Where every task has
  a Context of its own (`OwnContext`), a flag says just what it is meant to say.

  A call that was waiting when the patch was installed runs the unpatched outer method, so its
  inner one speaks.

  A call that waits may run on at any time; it finds the queue as it is then, and waits again
  if it must.  All emit flags are on and the queue is not internal.
-/

import AsyncViz.Lib.AsyncioQueue
import AsyncViz.Lib.Dict
import AsyncViz.Lib.Transition

namespace AsyncViz.Instrumentation.Queue

open AsyncViz.Lib AsyncViz.Lib.Transition

/-- What the engine publishes about a queue, with the snapshot's size where it carries one. -/
inductive Event where
  | put (nowait blocked : Bool) (size : Nat)
  | get (nowait blocked : Bool) (size : Nat)
  | fullWait
  | emptyWait
  | taskDone
  | putCancelled
  | getCancelled
deriving DecidableEq, Repr

def Event.isPut : Event → Bool
  | .put _ _ _ => true
  | _ => false

def Event.isGet : Event → Bool
  | .get _ _ _ => true
  | _ => false

def Event.isTaskDone : Event → Bool
  | .taskDone => true
  | _ => false

/-- The two `ContextVar`s. -/
inductive Var where
  | inOuterPut
  | inOuterGet
deriving DecidableEq, Repr

/-- What waits: a `put` or a `get` on the queue, or a patched one on another queue. -/
inductive Waiter (α : Type _) where
  | put (item : α)
  | get
  | elsewhere (var : Var)

/-- The flag that its outer method sets. -/
def Waiter.var {α : Type _} : Waiter α → Var
  | .put _ => .inOuterPut
  | .get => .inOuterGet
  | .elsewhere var => var

/-- A call that waits, with its Context.  `token` is what a patched outer method resets its flag
    to; an unpatched one has none. -/
structure Waiting (α : Type _) where
  waiter : Waiter α
  context : Nat
  token : Option Bool

/-- What a step does: what it publishes, and whether it has put an item in, taken one out or
    marked one as done. -/
structure Effect (α : Type _) where
  queue : AsyncioQueue α
  published : List Event
  enqueued : Bool
  dequeued : Bool
  done : Bool

namespace Effect

variable {α : Type _}

/-- Nothing but events. -/
def silent (queue : AsyncioQueue α) (published : List Event) : Effect α :=
  ⟨queue, published, false, false, false⟩

/-- `patched_put_nowait(item)`: the events stand in the `finally` arm. -/
def putNowait (inOuterPut : Bool) (queue : AsyncioQueue α) (item : α) : Effect α :=
  match queue.putNowait item with
  | some queue =>
    ⟨queue, if inOuterPut then [] else [.put true false queue.qsize], true, false, false⟩
  | none => silent queue (if inOuterPut then [] else [.put true false queue.qsize])

/-- `patched_get_nowait()`. -/
def getNowait (inOuterGet : Bool) (queue : AsyncioQueue α) : Effect α :=
  match queue.getNowait with
  | some (_, queue) =>
    ⟨queue, if inOuterGet then [] else [.get true false queue.qsize], false, true, false⟩
  | none => silent queue []

/-- `patched_task_done()`: the event stands in the `finally` arm. -/
def taskDone (queue : AsyncioQueue α) : Effect α :=
  match queue.taskDone with
  | some queue => ⟨queue, [.taskDone], false, false, true⟩
  | none => silent queue [.taskDone]

/-- The end of a `put` that has found room: the inner `put_nowait`, then the `finally` arm of
    the outer method if that is patched. -/
def endPut (patched inOuterPut blocked : Bool) (queue : AsyncioQueue α) (item : α) : Effect α :=
  let inner := putNowait inOuterPut queue item
  if patched then
    { inner with published := inner.published ++ [.put false blocked inner.queue.qsize] }
  else inner

/-- The end of a `get` that has found an item. -/
def endGet (patched inOuterGet blocked : Bool) (queue : AsyncioQueue α) : Effect α :=
  let inner := getNowait inOuterGet queue
  if patched then
    { inner with published := inner.published ++ [.get false blocked inner.queue.qsize] }
  else inner

/-- A `put` that is cancelled where it waits. -/
def cancelPut (patched : Bool) (queue : AsyncioQueue α) : Effect α :=
  silent queue (if patched then [.putCancelled, .put false true queue.qsize] else [])

/-- A `get` that is cancelled where it waits. -/
def cancelGet (patched : Bool) (queue : AsyncioQueue α) : Effect α :=
  silent queue (if patched then [.getCancelled] else [])

/-- What is published fits what is done. -/
structure Matches (e : Effect α) : Prop where
  puts : e.published.countP Event.isPut = if e.enqueued then 1 else 0
  gets : e.published.countP Event.isGet = if e.dequeued then 1 else 0
  dones : e.published.countP Event.isTaskDone = if e.done then 1 else 0

/-- What is done fits the change of the queue's size. -/
def Conserves (queue : AsyncioQueue α) (e : Effect α) : Prop :=
  e.queue.qsize + (if e.dequeued then 1 else 0) = queue.qsize + if e.enqueued then 1 else 0

end Effect

/-- The flags of every Context. -/
def Flags := Var → Nat → Bool

namespace Flags

/-- `var.set(value)` in a Context. -/
def set (flags : Flags) (var : Var) (context : Nat) (value : Bool) : Flags :=
  fun var' context' => if var' = var ∧ context' = context then value else flags var' context'

/-- `var.reset(token)`, where the outer method has a token. -/
def reset (flags : Flags) (var : Var) (context : Nat) : Option Bool → Flags
  | none => flags
  | some value => flags.set var context value

/-- `copy_context()`: the new Context has the values of the old one. -/
def copy (flags : Flags) (source target : Nat) : Flags :=
  fun var context => if context = target then flags var source else flags var context

end Flags

/-- The queue, the flags, the calls that wait, and what has been published and done, each under
    the call that did it. -/
structure World (α : Type _) where
  queue : AsyncioQueue α
  flags : Flags
  waiting : Dict Nat (Waiting α)
  events : List (Nat × Event)
  enqueued : List Nat
  dequeued : List Nat
  done : List Nat

namespace World

variable {α : Type _}

/-- A queue at the moment the patch is installed: no flag is set, and the calls that wait are
    unpatched. -/
def installed (queue : AsyncioQueue α) (waiting : Dict Nat (Nat × Option α)) : World α :=
  { queue := queue
    flags := fun _ _ => false
    waiting := waiting.mapValues fun call =>
      match call.2 with
      | some item => ⟨.put item, call.1, none⟩
      | none => ⟨.get, call.1, none⟩
    events := []
    enqueued := []
    dequeued := []
    done := [] }

/-- A call in a Context, what becomes of one that waits, a call that waits on another queue and
    its end, or a new Context. -/
inductive Action (α : Type _) where
  | put (call context : Nat) (item : α)
  | putNowait (call context : Nat) (item : α)
  | get (call context : Nat)
  | getNowait (call context : Nat)
  | taskDone (call : Nat)
  | resume (call : Nat)
  | cancel (call : Nat)
  | enterElsewhere (call context : Nat) (var : Var)
  | leaveElsewhere (call : Nat)
  | copyContext (source target : Nat)

/-- The effect of a step of `call`, with the flags and the calls that wait after it. -/
def apply (w : World α) (call : Nat) (flags : Flags) (waiting : Dict Nat (Waiting α))
    (e : Effect α) : World α :=
  { queue := e.queue
    flags := flags
    waiting := waiting
    events := w.events ++ e.published.map fun event => (call, event)
    enqueued := w.enqueued ++ if e.enqueued then [call] else []
    dequeued := w.dequeued ++ if e.dequeued then [call] else []
    done := w.done ++ if e.done then [call] else [] }

/-- A patched outer method sets its flag and waits. -/
def wait (w : World α) (call : Nat) (waiter : Waiter α) (context : Nat)
    (published : List Event) : World α :=
  w.apply call (w.flags.set waiter.var context true)
    (w.waiting.set call ⟨waiter, context, some (w.flags waiter.var context)⟩)
    (.silent w.queue published)

/-- A call that waits ends: its outer method resets the flag. -/
def leave (w : World α) (call : Nat) (waiting : Waiting α) (e : Effect α) : World α :=
  w.apply call (w.flags.reset waiting.waiter.var waiting.context waiting.token)
    (w.waiting.pop call) e

/-- No call waits in the Context. -/
def Idle (w : World α) (context : Nat) : Prop :=
  ∀ waiting ∈ w.waiting.values, waiting.context ≠ context

instance (w : World α) (context : Nat) : Decidable (w.Idle context) :=
  inferInstanceAs (Decidable (∀ waiting ∈ _, _))

/-- One step; `none` is one that cannot be taken. -/
def step (w : World α) : Action α → Option (World α)
  | .put call context item =>
    if call ∈ w.waiting then none
    else if w.queue.full then some (w.wait call (.put item) context [.fullWait])
    -- the flag is set around the inner call, and back behind it
    else some (w.apply call w.flags w.waiting (.endPut true true false w.queue item))
  | .putNowait call context item =>
    some (w.apply call w.flags w.waiting (.putNowait (w.flags .inOuterPut context) w.queue item))
  | .get call context =>
    if call ∈ w.waiting then none
    else if w.queue.qsize = 0 then some (w.wait call .get context [.emptyWait])
    else some (w.apply call w.flags w.waiting (.endGet true true false w.queue))
  | .getNowait call context =>
    some (w.apply call w.flags w.waiting (.getNowait (w.flags .inOuterGet context) w.queue))
  | .taskDone call => some (w.apply call w.flags w.waiting (.taskDone w.queue))
  | .resume call =>
    match w.waiting.get? call with
    | some ⟨.put item, context, token⟩ =>
      if w.queue.full then some w
      else some (w.leave call ⟨.put item, context, token⟩
        (.endPut token.isSome (w.flags .inOuterPut context) true w.queue item))
    | some ⟨.get, context, token⟩ =>
      if w.queue.qsize = 0 then some w
      else some (w.leave call ⟨.get, context, token⟩
        (.endGet token.isSome (w.flags .inOuterGet context) true w.queue))
    | _ => none
  | .cancel call =>
    match w.waiting.get? call with
    | some ⟨.put item, context, token⟩ =>
      some (w.leave call ⟨.put item, context, token⟩ (.cancelPut token.isSome w.queue))
    | some ⟨.get, context, token⟩ =>
      some (w.leave call ⟨.get, context, token⟩ (.cancelGet token.isSome w.queue))
    | _ => none
  | .enterElsewhere call context var =>
    if call ∈ w.waiting then none else some (w.wait call (.elsewhere var) context [])
  | .leaveElsewhere call =>
    match w.waiting.get? call with
    | some ⟨.elsewhere var, context, token⟩ =>
      some (w.leave call ⟨.elsewhere var, context, token⟩ (.silent w.queue []))
    | _ => none
  | .copyContext source target =>
    if w.Idle target then
      some (w.apply 0 (w.flags.copy source target) w.waiting (.silent w.queue []))
    else none

/-- The calls that have published an event of a kind, once for each. -/
def publishers (w : World α) (kind : Event → Bool) : List Nat :=
  (w.events.filter fun p => kind p.2).map Prod.fst

/-- The put, get and task-done events are those of the items put in, of the items taken out and
    of the successful `task_done` calls, in their order; so the puts less the gets are what the
    queue has grown by. -/
structure Faithful (initial : Nat) (w : World α) : Prop where
  puts : w.publishers Event.isPut = w.enqueued
  gets : w.publishers Event.isGet = w.dequeued
  dones : w.publishers Event.isTaskDone = w.done
  size : ((w.publishers Event.isPut).length : Int) - (w.publishers Event.isGet).length
    = w.queue.qsize - initial

/-- A call that waits and can go on finds its flag as its outer method needs it: set within a
    patched one, and clear within an unpatched one. -/
def Flagged (w : World α) (call : Nat) : Prop :=
  (∀ item context token, w.waiting.get? call = some ⟨.put item, context, token⟩ →
    w.queue.full = false → w.flags .inOuterPut context = token.isSome) ∧
  ∀ context token, w.waiting.get? call = some ⟨.get, context, token⟩ →
    w.queue.qsize ≠ 0 → w.flags .inOuterGet context = token.isSome

/-- No patched `put` is cancelled where it waits, `task_done` finds an unfinished task,
    `put_nowait` speaks if there is room and is silent if there is none, `get_nowait` is silent
    only if there is no item, and a call that has waited finds its flag as it needs it. -/
def Succeeds (w : World α) : Action α → Prop
  | .cancel call => ∀ item context value,
      w.waiting.get? call ≠ some ⟨.put item, context, some value⟩
  | .putNowait _ context _ => w.flags .inOuterPut context = w.queue.full
  | .getNowait _ context => w.flags .inOuterGet context = true → w.queue.qsize = 0
  | .taskDone _ => 0 < w.queue.unfinishedTasks
  | .resume call => w.Flagged call
  | _ => True

end World

variable {α : Type _}

/-! ## What one call does -/

namespace Effect

variable {queue : AsyncioQueue α} {item : α}

theorem silent_conserves (published : List Event) : (silent queue published).Conserves queue := rfl

theorem putNowait_conserves (inOuterPut : Bool) :
    (putNowait inOuterPut queue item).Conserves queue := by
  unfold putNowait
  cases h : queue.putNowait item with
  | none => exact silent_conserves _
  | some queue' =>
    obtain ⟨-, rfl⟩ := AsyncioQueue.putNowait_eq_some h
    simp [Conserves, AsyncioQueue.qsize]

theorem getNowait_conserves (inOuterGet : Bool) :
    (getNowait inOuterGet queue).Conserves queue := by
  unfold getNowait
  cases h : queue.getNowait with
  | none => exact silent_conserves _
  | some p =>
    obtain ⟨item, queue'⟩ := p
    have hitems := (AsyncioQueue.getNowait_eq_some h).1
    simp [Conserves, AsyncioQueue.qsize, hitems]

theorem taskDone_conserves : (taskDone queue).Conserves queue := by
  unfold taskDone
  cases h : queue.taskDone with
  | none => exact silent_conserves _
  | some queue' =>
    have hitems := (AsyncioQueue.taskDone_eq_some h).2.1
    simp [Conserves, AsyncioQueue.qsize, hitems]

theorem endPut_conserves (patched inOuterPut blocked : Bool) :
    (endPut patched inOuterPut blocked queue item).Conserves queue := by
  have h : (putNowait inOuterPut queue item).Conserves queue := putNowait_conserves inOuterPut
  unfold endPut
  cases patched
  · exact h
  · exact h

theorem endGet_conserves (patched inOuterGet blocked : Bool) :
    (endGet patched inOuterGet blocked queue).Conserves queue := by
  have h : (getNowait inOuterGet queue).Conserves queue := getNowait_conserves inOuterGet
  unfold endGet
  cases patched
  · exact h
  · exact h

/-- A `put_nowait` that speaks is counted right exactly if there is room, and a silent one if
    there is none: the event does not depend on the outcome. -/
theorem putNowait_matches_iff (inOuterPut : Bool) :
    (putNowait inOuterPut queue item).Matches ↔ inOuterPut = queue.full := by
  unfold putNowait
  cases h : queue.putNowait item with
  | none =>
    have hfull := AsyncioQueue.putNowait_eq_none_iff.mp h
    rw [hfull]
    cases inOuterPut with
    | true => exact iff_of_true ⟨rfl, rfl, rfl⟩ rfl
    | false => exact iff_of_false (fun hbad => absurd hbad.puts (Nat.succ_ne_zero 0)) (by decide)
  | some queue' =>
    rw [(AsyncioQueue.putNowait_eq_some h).1]
    cases inOuterPut with
    | true => exact iff_of_false (fun hbad => absurd hbad.puts Nat.zero_ne_one) (by decide)
    | false => exact iff_of_true ⟨rfl, rfl, rfl⟩ rfl

theorem qsize_ne_zero_iff : queue.qsize ≠ 0 ↔ queue.getNowait ≠ none := by
  rw [not_iff_not, AsyncioQueue.getNowait_eq_none_iff, AsyncioQueue.qsize, List.length_eq_zero_iff]

theorem getNowait_matches_iff (inOuterGet : Bool) :
    (getNowait inOuterGet queue).Matches ↔ (inOuterGet = true → queue.qsize = 0) := by
  have hsize : queue.qsize = 0 ↔ queue.getNowait = none := not_iff_not.mp qsize_ne_zero_iff
  rw [hsize]
  unfold getNowait
  cases h : queue.getNowait with
  | none => exact iff_of_true ⟨rfl, rfl, rfl⟩ fun _ => rfl
  | some p =>
    cases inOuterGet with
    | true =>
      exact iff_of_false (fun hbad => absurd hbad.gets Nat.zero_ne_one) fun h => by cases h rfl
    | false => exact iff_of_true ⟨rfl, rfl, rfl⟩ fun h => by cases h

theorem taskDone_matches_iff : (taskDone queue).Matches ↔ 0 < queue.unfinishedTasks := by
  unfold taskDone
  cases h : queue.taskDone with
  | none =>
    have hzero := AsyncioQueue.taskDone_eq_none_iff.mp h
    refine iff_of_false (fun hbad => ?_) (by omega)
    exact absurd hbad.dones (Nat.succ_ne_zero 0)
  | some queue' =>
    have hcount := (AsyncioQueue.taskDone_eq_some h).1
    exact iff_of_true ⟨rfl, rfl, rfl⟩ (by omega)

/-- A `put` that has found room publishes once, from its own `finally` arm or from the inner
    `put_nowait` of an unpatched one, exactly if the flag tells the inner one which. -/
theorem endPut_matches_iff (patched inOuterPut blocked : Bool) (hroom : queue.full = false) :
    (endPut patched inOuterPut blocked queue item).Matches ↔ inOuterPut = patched := by
  have hput : queue.putNowait item ≠ none := by
    simp [AsyncioQueue.putNowait_eq_none_iff, hroom]
  simp only [endPut, putNowait]
  cases h : queue.putNowait item with
  | none => exact absurd h hput
  | some queue' =>
    cases patched <;> cases inOuterPut
    · exact iff_of_true ⟨rfl, rfl, rfl⟩ rfl
    · exact iff_of_false (fun hbad => absurd hbad.puts Nat.zero_ne_one) (by decide)
    · exact iff_of_false (fun hbad => absurd hbad.puts (by decide : (2 : Nat) ≠ 1)) (by decide)
    · exact iff_of_true ⟨rfl, rfl, rfl⟩ rfl

/-- So does a `get` that has found an item. -/
theorem endGet_matches_iff (patched inOuterGet blocked : Bool) (hitem : queue.qsize ≠ 0) :
    (endGet patched inOuterGet blocked queue).Matches ↔ inOuterGet = patched := by
  have hget : queue.getNowait ≠ none := qsize_ne_zero_iff.mp hitem
  simp only [endGet, getNowait]
  cases h : queue.getNowait with
  | none => exact absurd h hget
  | some p =>
    cases patched <;> cases inOuterGet
    · exact iff_of_true ⟨rfl, rfl, rfl⟩ rfl
    · exact iff_of_false (fun hbad => absurd hbad.gets Nat.zero_ne_one) (by decide)
    · exact iff_of_false (fun hbad => absurd hbad.gets (by decide : (2 : Nat) ≠ 1)) (by decide)
    · exact iff_of_true ⟨rfl, rfl, rfl⟩ rfl

/-- The `finally` arm counts a cancelled `put` as one. -/
theorem cancelPut_matches_iff (patched : Bool) :
    (cancelPut patched queue).Matches ↔ patched = false := by
  cases patched with
  | false => exact iff_of_true ⟨rfl, rfl, rfl⟩ rfl
  | true =>
    refine iff_of_false (fun hbad => ?_) (by decide)
    exact absurd hbad.puts (Nat.succ_ne_zero 0)

theorem cancelGet_matches (patched : Bool) : (cancelGet patched queue).Matches := by
  cases patched <;> exact ⟨rfl, rfl, rfl⟩

end Effect

/-! ## Steps -/

namespace World

variable {initial : Nat} {w w' : World α} {call : Nat} {flags : Flags}
  {waiting : Dict Nat (Waiting α)} {e : Effect α}

/-- The items put in less the items taken out are what the queue has grown by. -/
def Balanced (initial : Nat) (w : World α) : Prop :=
  w.queue.qsize + w.dequeued.length = initial + w.enqueued.length

theorem Balanced.apply (h : Balanced initial w) (he : e.Conserves w.queue) :
    Balanced initial (w.apply call flags waiting e) := by
  have hgrow : ∀ (b : Bool), (if b then [call] else []).length = if b then 1 else 0 := by
    intro b
    cases b <;> rfl
  simp only [Balanced, World.apply, List.length_append, hgrow]
  simp only [Balanced] at h
  simp only [Effect.Conserves] at he
  omega

/-- One list of publishers after an effect is right exactly if the effect's count is. -/
theorem publishers_apply_iff {kind : Event → Bool} {did : Bool} {doers : List Nat}
    (h : w.publishers kind = doers) :
    (w.apply call flags waiting e).publishers kind = doers ++ (if did then [call] else []) ↔
      e.published.countP kind = if did then 1 else 0 := by
  have hsplit : (w.apply call flags waiting e).publishers kind
      = doers ++ List.replicate (e.published.countP kind) call := by
    simp only [publishers, World.apply, List.filter_append, List.map_append]
    rw [← h, publishers, List.append_cancel_left_eq, List.filter_map, List.map_map,
      List.countP_eq_length_filter]
    exact List.map_const' ..
  have hdid : (if did then [call] else []) = List.replicate (if did then 1 else 0) call := by
    cases did <;> rfl
  rw [hsplit, hdid, List.append_cancel_left_eq]
  constructor
  · intro heq
    simpa using congrArg List.length heq
  · intro heq
    rw [heq]

/-- From a faithful world an effect leads to a faithful one exactly if it is counted right. -/
theorem faithful_apply_iff (hbalanced : Balanced initial w) (h : Faithful initial w)
    (he : e.Conserves w.queue) :
    Faithful initial (w.apply call flags waiting e) ↔ e.Matches := by
  constructor
  · intro h'
    exact ⟨(publishers_apply_iff h.puts).mp h'.puts, (publishers_apply_iff h.gets).mp h'.gets,
      (publishers_apply_iff h.dones).mp h'.dones⟩
  · intro hmatches
    have hputs : (w.apply call flags waiting e).publishers Event.isPut
        = (w.apply call flags waiting e).enqueued := (publishers_apply_iff h.puts).mpr hmatches.puts
    have hgets : (w.apply call flags waiting e).publishers Event.isGet
        = (w.apply call flags waiting e).dequeued := (publishers_apply_iff h.gets).mpr hmatches.gets
    have hsize : Balanced initial (w.apply call flags waiting e) := hbalanced.apply he
    refine ⟨hputs, hgets, (publishers_apply_iff h.dones).mpr hmatches.dones, ?_⟩
    rw [hputs, hgets]
    simp only [Balanced] at hsize
    omega

/-- What a call that waits can do next: wait on, or end with an effect that is counted right
    exactly if the flag is as it needs it. -/
theorem resume_cases (hstep : step w (.resume call) = some w') :
    (w' = w ∧ Flagged w call) ∨ ∃ call' flags waiting e, w' = w.apply call' flags waiting e ∧
      e.Conserves w.queue ∧ (e.Matches ↔ Flagged w call) := by
  simp only [step] at hstep
  split at hstep
  · rename_i item context token hget
    -- a put that finds no room waits again; `Flagged` asks nothing of it
    cases hfull : w.queue.full with
    | true =>
      rw [hfull, if_pos rfl] at hstep
      refine .inl ⟨(Option.some.inj hstep).symm, fun _ _ _ _ hroom => ?_, fun _ _ h => ?_⟩
      · rw [hfull] at hroom
        cases hroom
      · rw [hget] at h
        cases h
    | false =>
      rw [hfull, if_neg Bool.false_ne_true] at hstep
      refine .inr ⟨_, _, _, _, (Option.some.inj hstep).symm, Effect.endPut_conserves _ _ _, ?_⟩
      rw [Effect.endPut_matches_iff _ _ true hfull]
      refine ⟨fun hflag => ⟨fun item' context' token' h _ => ?_, fun _ _ h => ?_⟩,
        fun h => h.1 item context token hget hfull⟩
      · rw [hget] at h
        cases h
        exact hflag
      · rw [hget] at h
        cases h
  · -- a get, the same with an item
    rename_i context token hget
    split at hstep
    · rename_i hempty
      refine .inl ⟨(Option.some.inj hstep).symm, fun _ _ _ h => ?_, fun _ _ _ hitem => ?_⟩
      · rw [hget] at h
        cases h
      · exact absurd hempty hitem
    · rename_i hitem
      refine .inr ⟨_, _, _, _, (Option.some.inj hstep).symm, Effect.endGet_conserves _ _ _, ?_⟩
      rw [Effect.endGet_matches_iff _ _ true hitem]
      refine ⟨fun hflag => ⟨fun _ _ _ h => ?_, fun context' token' h _ => ?_⟩,
        fun h => h.2 context token hget hitem⟩
      · rw [hget] at h
        cases h
      · rw [hget] at h
        cases h
        exact hflag
  · cases hstep

/-- What a step can be: nothing at all, or an effect that conserves the items and is counted
    right exactly if the step succeeds. -/
theorem step_cases {a : Action α} (hstep : step w a = some w') :
    (w' = w ∧ Succeeds w a) ∨ ∃ call flags waiting e, w' = w.apply call flags waiting e ∧
      e.Conserves w.queue ∧ (e.Matches ↔ Succeeds w a) := by
  cases a with
  | put call context item =>
    right
    simp only [step] at hstep
    split at hstep
    · cases hstep
    · -- a full queue: the call waits, and its flag is set
      cases hfull : w.queue.full with
      | true =>
        rw [hfull, if_pos rfl] at hstep
        exact ⟨_, _, _, _, (Option.some.inj hstep).symm, Effect.silent_conserves _,
          iff_of_true ⟨rfl, rfl, rfl⟩ trivial⟩
      | false =>
        rw [hfull, if_neg Bool.false_ne_true] at hstep
        exact ⟨_, _, _, _, (Option.some.inj hstep).symm, Effect.endPut_conserves _ _ _,
          iff_of_true ((Effect.endPut_matches_iff true true false hfull).mpr rfl) trivial⟩
  | putNowait call context item =>
    exact .inr ⟨_, _, _, _, (Option.some.inj hstep).symm, Effect.putNowait_conserves _,
      Effect.putNowait_matches_iff _⟩
  | get call context =>
    right
    simp only [step] at hstep
    split at hstep
    · cases hstep
    · split at hstep
      · exact ⟨_, _, _, _, (Option.some.inj hstep).symm, Effect.silent_conserves _,
          iff_of_true ⟨rfl, rfl, rfl⟩ trivial⟩
      · rename_i hitem
        exact ⟨_, _, _, _, (Option.some.inj hstep).symm, Effect.endGet_conserves _ _ _,
          iff_of_true ((Effect.endGet_matches_iff true true false hitem).mpr rfl) trivial⟩
  | getNowait call context =>
    exact .inr ⟨_, _, _, _, (Option.some.inj hstep).symm, Effect.getNowait_conserves _,
      Effect.getNowait_matches_iff _⟩
  | taskDone call =>
    exact .inr ⟨_, _, _, _, (Option.some.inj hstep).symm, Effect.taskDone_conserves,
      Effect.taskDone_matches_iff⟩
  | resume call => exact resume_cases hstep
  | cancel call =>
    right
    simp only [step] at hstep
    split at hstep
    · -- a put that was called on the patched method speaks when it is cancelled
      rename_i item context token hget
      refine ⟨_, _, _, _, (Option.some.inj hstep).symm, Effect.silent_conserves _, ?_⟩
      rw [Effect.cancelPut_matches_iff]
      simp only [Succeeds, hget]
      cases token <;> simp
    · rename_i context token hget
      refine ⟨_, _, _, _, (Option.some.inj hstep).symm, Effect.silent_conserves _,
        iff_of_true (Effect.cancelGet_matches _) ?_⟩
      simp [Succeeds, hget]
    · cases hstep
  | enterElsewhere call context var =>
    right
    simp only [step] at hstep
    split at hstep
    · cases hstep
    · exact ⟨_, _, _, _, (Option.some.inj hstep).symm, Effect.silent_conserves _,
        iff_of_true ⟨rfl, rfl, rfl⟩ trivial⟩
  | leaveElsewhere call =>
    right
    simp only [step] at hstep
    split at hstep
    · exact ⟨_, _, _, _, (Option.some.inj hstep).symm, Effect.silent_conserves _,
        iff_of_true ⟨rfl, rfl, rfl⟩ trivial⟩
    · cases hstep
  | copyContext source target =>
    right
    simp only [step] at hstep
    split at hstep
    · exact ⟨_, _, _, _, (Option.some.inj hstep).symm, Effect.silent_conserves _,
        iff_of_true ⟨rfl, rfl, rfl⟩ trivial⟩
    · cases hstep

/-! ## Runs -/

theorem balanced_installed (queue : AsyncioQueue α) (waiting : Dict Nat (Nat × Option α)) :
    Balanced queue.qsize (installed queue waiting) := rfl

theorem faithful_installed (queue : AsyncioQueue α) (waiting : Dict Nat (Nat × Option α)) :
    Faithful queue.qsize (installed queue waiting) :=
  ⟨rfl, rfl, rfl, (Int.sub_self _).symm⟩

/-- A run is faithful in every state exactly if every step of it succeeds. -/
theorem faithful_iff_succeeds (queue : AsyncioQueue α) (waiting : Dict Nat (Nat × Option α))
    (acts : List (Action α)) (hrun : exec step (installed queue waiting) acts = some w') :
    AllStates step (Faithful queue.qsize) (installed queue waiting) acts ↔
      AllSteps step Succeeds (installed queue waiting) acts := by
  refine allStates_iff_allSteps (J := Balanced queue.qsize) ?_ ?_
    (balanced_installed queue waiting) (faithful_installed queue waiting) hrun
  · intro w a w' hbalanced hstep
    obtain ⟨rfl, -⟩ | ⟨call, flags, waiting, e, rfl, he, -⟩ := step_cases hstep
    · exact hbalanced
    · exact hbalanced.apply he
  · intro w a w' hbalanced hfaithful hstep
    obtain ⟨rfl, hsucceeds⟩ | ⟨call, flags, waiting, e, rfl, he, hmatches⟩ := step_cases hstep
    · exact iff_of_true hfaithful hsucceeds
    · rw [← hmatches]
      exact faithful_apply_iff hbalanced hfaithful he

/-! ## Contexts of their own -/

/-- No call is made in a Context in which another one waits, and no such Context is copied: so
    it is where every task has a Context of its own. -/
def OwnContext (w : World α) : Action α → Prop
  | .put _ context _ | .putNowait _ context _ | .get _ context | .getNowait _ context
  | .enterElsewhere _ context _ => w.Idle context
  | .copyContext source _ => w.Idle source
  | .taskDone _ | .resume _ | .cancel _ | .leaveElsewhere _ => True

/-- What is left of `Succeeds` there. -/
def SucceedsAlone (w : World α) : Action α → Prop
  | .cancel call => ∀ item context value,
      w.waiting.get? call ≠ some ⟨.put item, context, some value⟩
  | .putNowait _ _ _ => w.queue.full = false
  | .taskDone _ => 0 < w.queue.unfinishedTasks
  | _ => True

/-- A flag is set exactly in the Context of a patched call that waits, which is the only one that
    waits there, and was clear before. -/
structure OwnFlags (flags : Flags) (waiting : Dict Nat (Waiting α)) : Prop where
  held : ∀ var context, flags var context = true → ∃ call v, waiting.get? call = some v ∧
    v.context = context ∧ v.waiter.var = var ∧ v.token.isSome = true
  set : ∀ call v, waiting.get? call = some v → v.token.isSome = true →
    flags v.waiter.var v.context = true ∧ v.token = some false
  alone : ∀ call call' v v', waiting.get? call = some v → waiting.get? call' = some v' →
    v.context = v'.context → v.token.isSome = true → call = call'

theorem idle_iff {w : World α} {context : Nat} :
    w.Idle context ↔ ∀ call v, w.waiting.get? call = some v → v.context ≠ context := by
  constructor
  · intro h call v hv
    exact h v (Dict.mem_values_iff.mpr ⟨call, hv⟩)
  · intro h v hv
    obtain ⟨call, hcall⟩ := Dict.mem_values_iff.mp hv
    exact h call v hcall

/-- In an idle Context no flag is set. -/
theorem OwnFlags.of_idle (h : OwnFlags w.flags w.waiting) {context : Nat} (hidle : w.Idle context)
    (var : Var) : w.flags var context = false := by
  cases hflag : w.flags var context with
  | false => rfl
  | true =>
    obtain ⟨call, v, hv, hcontext, -⟩ := h.held var context hflag
    exact absurd hcontext (idle_iff.mp hidle call v hv)

/-- A call that waits finds the flag set exactly if its outer method has set it. -/
theorem OwnFlags.flag_eq (h : OwnFlags w.flags w.waiting) {call : Nat} {v : Waiting α}
    (hv : w.waiting.get? call = some v) : w.flags v.waiter.var v.context = v.token.isSome := by
  cases htoken : v.token.isSome with
  | true => exact (h.set call v hv htoken).1
  | false =>
    cases hflag : w.flags v.waiter.var v.context with
    | false => rfl
    | true =>
      obtain ⟨call', v', hv', hcontext, -, htoken'⟩ := h.held _ _ hflag
      obtain rfl := h.alone call' call v' v hv' hv hcontext htoken'
      rw [hv] at hv'
      rw [← Option.some.inj hv', htoken] at htoken'
      cases htoken'

/-- A call starts to wait in an idle Context. -/
theorem OwnFlags.wait (h : OwnFlags w.flags w.waiting) {call context : Nat} {waiter : Waiter α}
    (hidle : w.Idle context) (hcall : call ∉ w.waiting) (published : List Event) :
    OwnFlags (w.wait call waiter context published).flags
      (w.wait call waiter context published).waiting := by
  have hclear := h.of_idle hidle waiter.var
  have hcases : ∀ {c : Nat} {v : Waiting α},
      (w.waiting.set call ⟨waiter, context, some (w.flags waiter.var context)⟩).get? c = some v →
      (c = call ∧ v = ⟨waiter, context, some false⟩) ∨
        (w.waiting.get? c = some v ∧ v.context ≠ context) := by
    intro c v hc
    rw [Dict.get?_set] at hc
    split at hc
    · next heq =>
      rw [hclear] at hc
      exact .inl ⟨heq, (Option.some.inj hc).symm⟩
    · exact .inr ⟨hc, idle_iff.mp hidle c v hc⟩
  refine ⟨fun var' context' hflag => ?_, fun c v hc htoken => ?_,
    fun c c' v v' hc hc' hsame htoken => ?_⟩
  · -- a flag that is set is held by this call, or by the one that held it before
    change (if var' = waiter.var ∧ context' = context then true
      else w.flags var' context') = true at hflag
    by_cases hnew : var' = waiter.var ∧ context' = context
    · exact ⟨call, _, Dict.get?_set_self _ _ _, hnew.2.symm, hnew.1.symm, rfl⟩
    · rw [if_neg hnew] at hflag
      obtain ⟨c, v, hc, hv⟩ := h.held var' context' hflag
      refine ⟨c, v, (Dict.get?_set_of_ne _ _ fun heq => hcall ?_).trans hc, hv⟩
      rw [← heq]
      exact Dict.mem_of_get?_eq_some hc
  · -- every call that waits has its flag set, and found it clear
    show (if v.waiter.var = waiter.var ∧ v.context = context then true
      else w.flags v.waiter.var v.context) = true ∧ _
    rcases hcases hc with ⟨-, rfl⟩ | ⟨hold, hother⟩
    · exact ⟨if_pos ⟨rfl, rfl⟩, rfl⟩
    · rw [if_neg fun hboth => hother hboth.2]
      exact h.set c v hold htoken
  · -- no two of them are in one context
    rcases hcases hc with ⟨rfl, rfl⟩ | ⟨hold, hother⟩
    · rcases hcases hc' with ⟨rfl, -⟩ | ⟨-, hother'⟩
      · rfl
      · exact absurd hsame.symm hother'
    · rcases hcases hc' with ⟨-, rfl⟩ | ⟨hold', -⟩
      · exact absurd hsame hother
      · exact h.alone c c' v v' hold hold' hsame htoken

/-- A call that waited is gone, and its flag with it. -/
theorem OwnFlags.leave (h : OwnFlags w.flags w.waiting) {call : Nat} {v : Waiting α}
    (hv : w.waiting.get? call = some v) (e : Effect α) :
    OwnFlags (w.leave call v e).flags (w.leave call v e).waiting := by
  have hcases : ∀ {c : Nat} {u : Waiting α}, (w.waiting.pop call).get? c = some u →
      c ≠ call ∧ w.waiting.get? c = some u := by
    intro c u hc
    rw [Dict.get?_pop] at hc
    split at hc
    · cases hc
    · next hne => exact ⟨hne, hc⟩
  have hflags : ∀ var context, (w.leave call v e).flags var context = true →
      w.flags var context = true ∧
        ¬ (v.token.isSome = true ∧ var = v.waiter.var ∧ context = v.context) := by
    intro var context hflag
    change w.flags.reset v.waiter.var v.context v.token var context = true at hflag
    cases htoken : v.token with
    | none =>
      rw [htoken] at hflag
      exact ⟨hflag, fun hbad => by cases hbad.1⟩
    | some value =>
      have hvalue := (h.set call v hv (by rw [htoken]; rfl)).2
      rw [htoken] at hvalue
      rw [htoken, hvalue] at hflag
      change (if var = v.waiter.var ∧ context = v.context then false
        else w.flags var context) = true at hflag
      split at hflag
      · cases hflag
      · next hne => exact ⟨hflag, fun hbad => hne hbad.2⟩
  refine ⟨fun var context hflag => ?_, fun c u hc htoken => ?_, fun c c' u u' hc hc' => ?_⟩
  · obtain ⟨hold, hnot⟩ := hflags var context hflag
    obtain ⟨c, u, hc, hcontext, hvar, htoken⟩ := h.held var context hold
    refine ⟨c, u, (Dict.get?_pop_of_ne _ fun heq => hnot ?_).trans hc, hcontext, hvar, htoken⟩
    rw [heq, hv] at hc
    obtain rfl := Option.some.inj hc
    exact ⟨htoken, hvar.symm, hcontext.symm⟩
  · obtain ⟨hne, hold⟩ := hcases hc
    obtain ⟨hflag, hfalse⟩ := h.set c u hold htoken
    refine ⟨?_, hfalse⟩
    show w.flags.reset v.waiter.var v.context v.token u.waiter.var u.context = true
    cases htok : v.token with
    | none => exact hflag
    | some value =>
      -- the two calls wait in different Contexts
      refine (if_neg fun hboth => hne ?_).trans hflag
      exact h.alone c call u v hold hv hboth.2 htoken
  · obtain ⟨-, hold⟩ := hcases hc
    obtain ⟨-, hold'⟩ := hcases hc'
    exact h.alone c c' u u' hold hold'

/-- A copy of an idle Context is as clear as it is. -/
theorem OwnFlags.copy (h : OwnFlags w.flags w.waiting) {source target : Nat}
    (hsource : w.Idle source) (htarget : w.Idle target) :
    OwnFlags (w.flags.copy source target) w.waiting := by
  have hsame : w.flags.copy source target = w.flags := by
    funext var context
    rw [Flags.copy]
    split
    · next heq => rw [heq, h.of_idle hsource, h.of_idle htarget]
    · rfl
  rw [hsame]
  exact h

theorem ownFlags_installed (queue : AsyncioQueue α) (waiting : Dict Nat (Nat × Option α)) :
    OwnFlags (installed queue waiting).flags (installed queue waiting).waiting := by
  have hunpatched : ∀ call v, (installed queue waiting).waiting.get? call = some v →
      v.token.isSome = false := by
    intro call v hv
    rw [installed, Dict.get?_mapValues] at hv
    obtain ⟨⟨context, item⟩, -, rfl⟩ := Option.map_eq_some_iff.mp hv
    cases item <;> rfl
  refine ⟨fun var context hflag => (by cases hflag), fun call v hv htoken => ?_,
    fun call call' v v' hv hv' _ htoken => ?_⟩
  · rw [hunpatched call v hv] at htoken
    cases htoken
  · rw [hunpatched call v hv] at htoken
    cases htoken

/-- Step lemma. -/
theorem step_ownFlags {a : Action α} (h : OwnFlags w.flags w.waiting) (hown : OwnContext w a)
    (hstep : step w a = some w') : OwnFlags w'.flags w'.waiting := by
  cases a with
  | putNowait | getNowait | taskDone =>
    obtain rfl := Option.some.inj hstep
    exact h
  | put call context item =>
    simp only [step] at hstep
    split at hstep
    · cases hstep
    · next hcall =>
      split at hstep
      · rw [← Option.some.inj hstep]
        exact h.wait hown hcall _
      · rw [← Option.some.inj hstep]
        exact h
  | get call context =>
    simp only [step] at hstep
    split at hstep
    · cases hstep
    · next hcall =>
      split at hstep
      · rw [← Option.some.inj hstep]
        exact h.wait hown hcall _
      · rw [← Option.some.inj hstep]
        exact h
  | resume call =>
    simp only [step] at hstep
    split at hstep
    · next hget =>
      split at hstep <;> rw [← Option.some.inj hstep]
      · exact h
      · exact h.leave hget _
    · next hget =>
      split at hstep <;> rw [← Option.some.inj hstep]
      · exact h
      · exact h.leave hget _
    · cases hstep
  | cancel call =>
    simp only [step] at hstep
    split at hstep
    · next hget =>
      rw [← Option.some.inj hstep]
      exact h.leave hget _
    · next hget =>
      rw [← Option.some.inj hstep]
      exact h.leave hget _
    · cases hstep
  | enterElsewhere call context var =>
    simp only [step] at hstep
    split at hstep
    · cases hstep
    · next hcall =>
      rw [← Option.some.inj hstep]
      exact h.wait hown hcall _
  | leaveElsewhere call =>
    simp only [step] at hstep
    split at hstep
    · next hget =>
      rw [← Option.some.inj hstep]
      exact h.leave hget _
    · cases hstep
  | copyContext source target =>
    simp only [step] at hstep
    split at hstep
    · next htarget =>
      rw [← Option.some.inj hstep]
      exact h.copy hown htarget
    · cases hstep

/-- With Contexts of their own the flags are as the calls need them. -/
theorem succeeds_iff_alone {a : Action α} (h : OwnFlags w.flags w.waiting)
    (hown : OwnContext w a) : Succeeds w a ↔ SucceedsAlone w a := by
  cases a with
  | putNowait call context item =>
    rw [Succeeds, SucceedsAlone, h.of_idle hown]
    exact eq_comm
  | getNowait call context =>
    refine iff_of_true (fun hflag => ?_) trivial
    rw [h.of_idle hown] at hflag
    cases hflag
  | resume call =>
    exact iff_of_true ⟨fun _ _ _ hget _ => h.flag_eq hget, fun _ _ hget _ => h.flag_eq hget⟩
      trivial
  | put | get | taskDone | cancel | enterElsewhere | leaveElsewhere | copyContext => exact Iff.rfl

/-- **Contexts of their own.**  Where no call is made in a Context in which another one waits, a
    run is faithful in every state exactly if no patched `put` is cancelled where it waits,
    `put_nowait` finds room and `task_done` an unfinished task. -/
theorem faithful_iff_of_ownContexts (queue : AsyncioQueue α)
    (waiting : Dict Nat (Nat × Option α)) (acts : List (Action α))
    (hrun : exec step (installed queue waiting) acts = some w')
    (hown : AllSteps step OwnContext (installed queue waiting) acts) :
    AllStates step (Faithful queue.qsize) (installed queue waiting) acts ↔
      AllSteps step SucceedsAlone (installed queue waiting) acts :=
  (faithful_iff_succeeds queue waiting acts hrun).trans
    (allSteps_iff_of_keep (K := fun w => OwnFlags w.flags w.waiting)
      (fun _ _ h hown => succeeds_iff_alone h hown)
      (fun _ _ _ h hown _ hstep => step_ownFlags h hown hstep)
      (ownFlags_installed queue waiting) hown)

/-! ## The failing run -/

/-- A queue of one: a second `put_nowait` raises, a `put` waits and is cancelled, and
    `task_done` is called once too often; every call has a Context of its own. -/
def failingRun : List (Action Nat) :=
  [.putNowait 0 0 7, .putNowait 1 1 8, .put 2 2 9, .cancel 2, .taskDone 3, .taskDone 4]

/-- One item is in the queue, and three put events and two task-done events are out. -/
theorem not_faithful_failingRun :
    ∃ w, exec step (installed (.new 1) .empty) failingRun = some w ∧ w.enqueued = [0] ∧
      w.queue.qsize = 1 ∧ w.publishers Event.isPut = [0, 1, 2] ∧ w.done = [3] ∧
      w.publishers Event.isTaskDone = [3, 4] ∧ ¬ Faithful 0 w := by
  refine ⟨_, rfl, rfl, rfl, rfl, rfl, rfl, fun hfaithful => ?_⟩
  exact absurd hfaithful.puts (by decide)

/-- Two tasks share a Context: while one waits in `put`, the other takes the item out and puts
    another one in with `put_nowait`, which takes itself for an inner call and says nothing. -/
example : ∃ w : World Nat, exec step (installed (.new 1) .empty)
    [.put 0 0 7, .put 1 0 8, .getNowait 2 0, .putNowait 3 0 9] = some w ∧
      w.enqueued = [0, 3] ∧ w.publishers Event.isPut = [0] := ⟨_, rfl, rfl, rfl⟩

/-- The queue of one with a `get` that waits since before the patch: it gets the item of the
    first `put`, a second `get` is cancelled, and a second `put` waits for the third. -/
def blockingRun : List (Action Nat) :=
  [.get 1 1, .cancel 1, .put 2 2 7, .resume 0, .getNowait 3 3, .taskDone 4, .put 5 5 8, .put 6 6 9,
    .get 7 7, .resume 6]

theorem faithful_blockingRun :
    AllStates step (Faithful 0) (installed (.new 1) ((Dict.empty).set 0 (0, none)))
      blockingRun := by
  refine (faithful_iff_succeeds (.new 1) _ blockingRun rfl).mpr ?_
  refine .cons rfl trivial (.cons rfl (fun _ _ _ h => (by cases h)) (.cons rfl trivial
    (.cons rfl ⟨fun _ _ _ h => (by cases h), fun _ _ h _ => ?_⟩
    (.cons rfl (fun h => (by cases h)) (.cons rfl Nat.one_pos (.cons rfl trivial
    (.cons rfl trivial (.cons rfl trivial
    (.cons rfl ⟨fun _ _ _ h _ => ?_, fun _ _ h => (by cases h)⟩ trivial)))))))))
  · cases h
    rfl
  · cases h
    rfl

end World

end AsyncViz.Instrumentation.Queue
