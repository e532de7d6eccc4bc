/-
  AsyncViz.Instrumentation.Executor

  `ExecutorInstrumentationEngine` (`instrumentation/executor/executor_patch.py`) around
  `run_in_executor`: the registry of the work items, the wrapper that a worker thread runs, the
  done callback of the returned future, and the metrics that fold what both publish.

  The steps are those of the event loop and of the worker threads, in any order.  CPython's part
  of them: a worker runs a function to its end whatever becomes of the future, and the loop
  resolves the future afterwards if it is still pending.  The done callback runs once, when the
  future is done; just before it the loop hands a cancellation on to the executor, which drops
  the item if it is still in the queue.  A submission that the executor refuses raises, and so
  does the fallback, which submits once more.

  All emit flags are on and the executor is registered.  A callback runs in one piece, and so
  does what the wrapper does before the function and after it.
-/

import AsyncViz.Lib.Dict
import AsyncViz.Lib.Transition

namespace AsyncViz.Instrumentation.Executor

open AsyncViz.Lib AsyncViz.Lib.Transition

/-- The events of a work item. -/
inductive Kind where
  | submitted
  | started
  | completed
  | failed
  | cancelled
deriving DecidableEq, Repr

/-- The kinds that end a work item. -/
def Kind.isTerminal : Kind → Bool
  | .completed | .failed | .cancelled => true
  | .submitted | .started => false

/-- An event, with the executor and the work item that it names. -/
structure Event where
  executor : Nat
  item : Nat
  kind : Kind
deriving DecidableEq, Repr

/-! ## The registry -/

/-- `_WorkItemEntry`. -/
structure WorkItemEntry where
  executor : Nat
  started : Bool
  completed : Bool
  cancelled : Bool
  failed : Bool
deriving DecidableEq, Repr

/-- `WorkItemRegistry`. -/
structure WorkItemRegistry where
  counter : Nat
  entries : Dict Nat WorkItemEntry
  finalized : Nat

namespace WorkItemRegistry

/-- `register(executor_id)`, with the id that it hands out. -/
def register (r : WorkItemRegistry) (executor : Nat) : Nat × WorkItemRegistry :=
  (r.counter, { r with
    counter := r.counter + 1
    entries := r.entries.set r.counter ⟨executor, false, false, false, false⟩ })

/-- What the four `mark_*` methods share: an id that is not known is left alone. -/
def mark (r : WorkItemRegistry) (id : Nat) (f : WorkItemEntry → WorkItemEntry) :
    WorkItemRegistry :=
  match r.entries.get? id with
  | some entry => { r with entries := r.entries.set id (f entry) }
  | none => r

def markStarted (r : WorkItemRegistry) (id : Nat) : WorkItemRegistry :=
  r.mark id fun entry => { entry with started := true }

def markCompleted (r : WorkItemRegistry) (id : Nat) : WorkItemRegistry :=
  r.mark id fun entry => { entry with completed := true }

def markFailed (r : WorkItemRegistry) (id : Nat) : WorkItemRegistry :=
  r.mark id fun entry => { entry with failed := true }

def markCancelled (r : WorkItemRegistry) (id : Nat) : WorkItemRegistry :=
  r.mark id fun entry => { entry with cancelled := true }

/-- `forget(work_item_id)`. -/
def forget (r : WorkItemRegistry) (id : Nat) : WorkItemRegistry :=
  if id ∈ r.entries then { r with entries := r.entries.pop id, finalized := r.finalized + 1 }
  else r

/-- The entry of `id` says that its function was started. -/
def hasStarted (r : WorkItemRegistry) (id : Nat) : Bool :=
  match r.entries.get? id with
  | some entry => entry.started
  | none => false

end WorkItemRegistry

/-! ## The metrics -/

/-- `ThroughputCounters`. -/
structure ThroughputCounters where
  submissions : Nat
  completions : Nat
  failures : Nat
  cancellations : Nat
deriving DecidableEq, Repr

/-- The backlog of `ThroughputCounters.snapshot`, never below zero. -/
def ThroughputCounters.backlog (t : ThroughputCounters) : Nat :=
  t.submissions - t.completions - t.failures - t.cancellations

/-- The counters of `ExecutorAggregateState`. -/
structure ExecutorAggregateState where
  activeWorkers : Nat
  throughput : ThroughputCounters
deriving DecidableEq, Repr

namespace ExecutorAggregateState

def new : ExecutorAggregateState := ⟨0, ⟨0, 0, 0, 0⟩⟩

/-- `apply_event(event)`; `UtilizationTracker.decrement` stops at zero. -/
def applyEvent (s : ExecutorAggregateState) : Kind → ExecutorAggregateState
  | .submitted =>
    { s with throughput := { s.throughput with submissions := s.throughput.submissions + 1 } }
  | .started => { s with activeWorkers := s.activeWorkers + 1 }
  | .completed =>
    { activeWorkers := s.activeWorkers - 1
      throughput := { s.throughput with completions := s.throughput.completions + 1 } }
  | .failed =>
    { activeWorkers := s.activeWorkers - 1
      throughput := { s.throughput with failures := s.throughput.failures + 1 } }
  | .cancelled =>
    { s with throughput := { s.throughput with cancellations := s.throughput.cancellations + 1 } }

end ExecutorAggregateState

/-! ## Work items -/

/-- Where the executor has got to with an item: `dropped` is one that was cancelled in its
    queue, `rejected` one whose future got an exception without a run of the function, `refused`
    one that was never taken. -/
inductive Worker where
  | queued
  | picked
  | running
  | ended (raised : Bool)
  | dropped
  | rejected
  | refused
deriving DecidableEq, Repr

/-- The asyncio future that `run_in_executor` returns. -/
inductive FutureState where
  | pending
  | cancelled
  | failed
  | done
deriving DecidableEq, Repr

structure Item where
  executor : Nat
  worker : Worker
  future : FutureState
  callbackRan : Bool
deriving DecidableEq, Repr

/-- Nothing will happen to the item any more. -/
def Item.settled (item : Item) : Bool :=
  match item.worker with
  | .queued | .picked | .running => false
  | .ended _ | .dropped | .rejected => item.callbackRan
  | .refused => true

/-- The work items, the registry and what has been published. -/
structure World where
  items : Dict Nat Item
  registry : WorkItemRegistry
  events : List Event

namespace World

def start : World := ⟨.empty, ⟨0, .empty, 0⟩, []⟩

inductive Action where
  | submit (executor : Nat)
  | refuse (executor : Nat)
  | pick (id : Nat)
  | run (id : Nat)
  | finish (id : Nat) (raised : Bool)
  | drop (id : Nat)
  | reject (id : Nat)
  | resolve (id : Nat)
  | cancel (id : Nat)
  | callback (id : Nat)
deriving DecidableEq, Repr

/-- An item as it is now, with the event that is published about it. -/
def advance (w : World) (id : Nat) (item : Item) (registry : WorkItemRegistry)
    (published : Option Kind) : World :=
  { items := w.items.set id item
    registry := registry
    events := w.events ++ published.toList.map fun kind => ⟨item.executor, id, kind⟩ }

/-- `_dispatch` up to the call of the original. -/
def dispatch (w : World) (executor : Nat) (worker : Worker) : World :=
  let (id, registry) := w.registry.register executor
  w.advance id ⟨executor, worker, .pending, false⟩ registry (some .submitted)

/-- `_emit_completed`, `_emit_failed` and `_emit_cancelled` publish about items that the
    registry knows. -/
def known (w : World) (id : Nat) (kind : Kind) : Option Kind :=
  if id ∈ w.registry.entries then some kind else none

/-- `_on_done(future)`. -/
def onDone (w : World) (id : Nat) (future : FutureState) : WorkItemRegistry × Option Kind :=
  if w.registry.hasStarted id then (w.registry.forget id, none)
  else
    match future with
    | .failed => ((w.registry.markFailed id).forget id, w.known id .failed)
    | .cancelled => ((w.registry.markCancelled id).forget id, w.known id .cancelled)
    | _ => (w.registry.forget id, none)

/-- A step of the item `id`, where `f` allows one. -/
def move (w : World) (id : Nat)
    (f : Item → Option (Item × WorkItemRegistry × Option Kind)) : Option World := do
  let item ← w.items.get? id
  let (item, registry, published) ← f item
  return w.advance id item registry published

/-- One step; `none` is one that cannot be taken. -/
def step (w : World) : Action → Option World
  | .submit executor => some (w.dispatch executor .queued)
  | .refuse executor => some (w.dispatch executor .refused)
  | .pick id => w.move id fun item =>
    if item.worker = .queued then some ({ item with worker := .picked }, w.registry, none)
    else none
  | .run id => w.move id fun item =>
    if item.worker = .picked then
      some ({ item with worker := .running }, w.registry.markStarted id, some .started)
    else none
  | .finish id raised => w.move id fun item =>
    if item.worker = .running then
      some ({ item with worker := .ended raised },
        if raised then w.registry.markFailed id else w.registry.markCompleted id,
        w.known id (if raised then .failed else .completed))
    else none
  | .drop id => w.move id fun item =>
    if item.worker = .queued then some ({ item with worker := .dropped }, w.registry, none)
    else none
  | .reject id => w.move id fun item =>
    if item.worker = .queued ∨ item.worker = .picked then
      some ({ item with worker := .rejected }, w.registry, none)
    else none
  | .resolve id => w.move id fun item =>
    if item.future = .pending then
      match item.worker with
      | .ended false => some ({ item with future := .done }, w.registry, none)
      | .ended true | .rejected => some ({ item with future := .failed }, w.registry, none)
      | .dropped => some ({ item with future := .cancelled }, w.registry, none)
      | _ => none
    else none
  | .cancel id => w.move id fun item =>
    if item.future = .pending ∧ item.worker ≠ .refused then
      some ({ item with future := .cancelled }, w.registry, none)
    else none
  | .callback id => w.move id fun item =>
    if item.future = .pending ∨ item.callbackRan then none
    else
      let worker := if item.future = .cancelled ∧ item.worker = .queued then .dropped
        else item.worker
      some ({ item with worker := worker, callbackRan := true }, w.onDone id item.future)

/-! ## What is promised -/

/-- What has been published about a work item. -/
def history (w : World) (id : Nat) : List Kind :=
  (w.events.filter fun event => event.item = id).map Event.kind

/-- The aggregate of an executor after the events about it. -/
def aggregate (w : World) (executor : Nat) : ExecutorAggregateState :=
  (w.events.filter fun event => event.executor = executor).foldl
    (fun s event => s.applyEvent event.kind) .new

/-- How many functions the executor runs. -/
def running (w : World) (executor : Nat) : Nat :=
  w.items.tally fun item => item.executor = executor && item.worker = .running

/-- The courses that a work item may take. -/
def courses : List (List Kind) :=
  [[.submitted, .started, .completed], [.submitted, .started, .failed],
    [.submitted, .cancelled], [.submitted, .failed]]

/-- Every item is on one of the courses and at its end when it is settled; the aggregate of an
    executor counts the functions that run, and no backlog once all of its items are settled. -/
structure Accounted (w : World) : Prop where
  onCourse : ∀ id item, w.items.get? id = some item → ∃ course ∈ courses, w.history id <+: course
  ended : ∀ id item, w.items.get? id = some item → item.settled = true → w.history id ∈ courses
  active : ∀ executor, (w.aggregate executor).activeWorkers = w.running executor
  quiescent : ∀ executor,
    (∀ id item, w.items.get? id = some item → item.executor = executor → item.settled = true) →
      (w.aggregate executor).activeWorkers = 0 ∧ (w.aggregate executor).throughput.backlog = 0

/-- No submission is refused, a function starts and ends before the done callback of its item
    runs, and where the callback reports an item that was rejected without a run, its executor
    runs no function. -/
def Orderly (w : World) : Action → Prop
  | .refuse _ => False
  | .run id | .finish id _ => ∀ item, w.items.get? id = some item → item.callbackRan = false
  | .callback id => ∀ item, w.items.get? id = some item → item.worker = .rejected →
    item.future = .failed → w.running item.executor = 0
  | _ => True

end World

end AsyncViz.Instrumentation.Executor
