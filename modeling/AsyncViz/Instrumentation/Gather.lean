/-
  AsyncViz.Instrumentation.Gather

  `GatherInstrumentationEngine` (`instrumentation/gather/gather_patch.py`) around one call of
  `asyncio.gather`: the futures of its children, the outer future, the loop's queue of
  callbacks, and the entry of `GatherRegistry` that the engine's callbacks work on.

  A future that is done hands its callbacks to the loop in the order they were registered:
  gather's own, then one of the engine's for every position of the future among the arguments.
  Gather's own callback counts each future once and resolves the outer future, whose callback
  goes to the end of the loop's queue.  For a future that is done when gather is called it runs
  at once.

  An outer future that fails with a `CancelledError` is one that was cancelled, and so is a
  child that does.  All emit flags are on.  The call itself, the snapshots and the durations are
  left out, and so is the weak reference of the entry: the callbacks hold the outer future.
-/

import Mathlib.Data.List.Dedup
import AsyncViz.Lib.Transition

namespace AsyncViz.Instrumentation.Gather

open AsyncViz.Lib.Transition

/-! ## The registry -/

/-- `_RegistryEntry`, with what `GatherIdentity` says of the gather. -/
structure Entry where
  parent : Option String
  childCount : Nat
  completedCount : Nat
  cancelled : Bool
  failed : Bool
deriving DecidableEq, Repr

/-- `record_child_completed(gather_id)`: the entry, and the count that it reports. -/
def recordChildCompleted : Option Entry → Option Entry × Option Nat
  | some entry =>
    (some { entry with completedCount := entry.completedCount + 1 },
      some (entry.completedCount + 1))
  | none => (none, none)

/-! ## Events -/

inductive Outcome where
  | succeeded
  | failed
  | cancelled
deriving DecidableEq, Repr

/-- `GatherChildCompletedEvent`. -/
structure ChildCompleted where
  parent : Option String
  childCount : Nat
  childTaskId : String
  childIndex : Nat
  cancelled : Bool
  failed : Bool
  completedCount : Nat
deriving DecidableEq, Repr

/-- `GatherCompletedEvent`. -/
structure GatherCompleted where
  parent : Option String
  childCount : Nat
  completedCount : Nat
  cancelledChildren : Nat
  failedChildren : Nat
deriving DecidableEq, Repr

/-- What the engine's callbacks publish. -/
inductive Event where
  | childCompleted (event : ChildCompleted)
  | completed (event : GatherCompleted)
  | cancelled (parent : Option String) (childCount completedCount : Nat)
  | failed (parent : Option String) (childCount completedCount : Nat)
deriving DecidableEq, Repr

def Event.child? : Event → Option ChildCompleted
  | .childCompleted event => some event
  | _ => none

def Event.completed? : Event → Option GatherCompleted
  | .completed event => some event
  | _ => none

/-- The gather's own last event. -/
def Event.isTerminal : Event → Bool
  | .childCompleted _ => false
  | .completed _ | .cancelled _ _ _ | .failed _ _ _ => true

/-! ## The loop -/

/-- An argument of gather: its future, and the task id that the engine has found for it. -/
structure Child where
  future : Nat
  taskId : String
deriving DecidableEq, Repr

/-- A callback in the loop's queue, with how its future has ended: gather's own, the engine's
    for the child at an index, or the engine's for the outer future. -/
inductive Callback where
  | own (outcome : Outcome)
  | child (index : Nat) (child : Child) (outcome : Outcome)
  | gather (outcome : Outcome)
deriving DecidableEq, Repr

def Callback.isOwn : Callback → Bool
  | .own _ => true
  | _ => false

def Callback.isChild : Callback → Bool
  | .child _ _ _ => true
  | _ => false

def Callback.isGather : Callback → Bool
  | .gather _ => true
  | _ => false

/-- A gather under way.  `watched` says that the engine has its callback on the outer future. -/
structure World where
  children : List Child
  parent : Option String
  returnExceptions : Bool
  outcomes : Nat → Option Outcome
  nfinished : Nat
  cancelRequested : Bool
  outer : Option Outcome
  watched : Bool
  ready : List Callback
  entry : Option Entry
  events : List Event

namespace World

/-- The futures among the arguments, each where it comes first. -/
def futures (w : World) : List Nat := (w.children.map Child.future).reverse.dedup.reverse

/-- The future is done. -/
def isDone (w : World) (future : Nat) : Bool := (w.outcomes future).isSome

/-- The outer future is resolved. -/
def resolve (w : World) (outcome : Outcome) : World :=
  { w with
    outer := some outcome
    ready := if w.watched then w.ready ++ [.gather outcome] else w.ready }

/-- Gather's `_done_callback`. -/
def ownCallback (w : World) (outcome : Outcome) : World :=
  let w := { w with nfinished := w.nfinished + 1 }
  if w.outer.isSome then w
  else if !w.returnExceptions && outcome != .succeeded then w.resolve outcome
  else if w.nfinished = w.futures.length then
    w.resolve (if w.cancelRequested then .cancelled else .succeeded)
  else w

/-- The event of `_emit_child_completed`; without an entry it has zeros for the counts. -/
def childEvent (entry : Option Entry) (index : Nat) (child : Child) (outcome : Outcome) :
    ChildCompleted :=
  { parent := entry.bind Entry.parent
    childCount := (entry.map Entry.childCount).getD 0
    childTaskId := child.taskId
    childIndex := index
    cancelled := outcome = .cancelled
    failed := outcome = .failed
    completedCount := (recordChildCompleted entry).2.getD 0 }

/-- The engine's callback of a child. -/
def childCallback (w : World) (index : Nat) (child : Child) (outcome : Outcome) : World :=
  { w with
    entry := (recordChildCompleted w.entry).1
    events := w.events ++ [.childCompleted (childEvent w.entry index child outcome)] }

/-- `_emit_gather_completed`; the flags are those of the entry. -/
def completedEvent (entry : Option Entry) : GatherCompleted :=
  match entry with
  | some entry =>
    { parent := entry.parent
      childCount := entry.childCount
      completedCount := entry.completedCount
      cancelledChildren := if entry.cancelled then 1 else 0
      failedChildren := if entry.failed then 1 else 0 }
  | none => ⟨none, 0, 0, 0, 0⟩

/-- The engine's callback of the outer future.  `mark_terminal` comes before the event, but is
    read by none, and the entry is forgotten behind it. -/
def gatherCallback (w : World) (outcome : Outcome) : World :=
  let parent := w.entry.bind Entry.parent
  let childCount := (w.entry.map Entry.childCount).getD 0
  let completed := (w.entry.map Entry.completedCount).getD 0
  let event : Event :=
    match outcome with
    | .succeeded => .completed (completedEvent w.entry)
    | .failed => .failed parent childCount completed
    | .cancelled => .cancelled parent childCount completed
  { w with events := w.events ++ [event], entry := none }

def runCallback (w : World) : Callback → World
  | .own outcome => w.ownCallback outcome
  | .child index child outcome => w.childCallback index child outcome
  | .gather outcome => w.gatherCallback outcome

/-- The engine's callbacks for the children that `outcome` has one for, in the order of the
    arguments. -/
def childCallbacks (w : World) (outcome : Child → Option Outcome) : List Callback :=
  w.children.zipIdx.filterMap fun p => (outcome p.1).map (.child p.2 p.1)

/-- A gather that has not looked at its futures; without any it has its result at once. -/
def opened (children : List Child) (parent : Option String) (returnExceptions : Bool)
    (outcomes : Nat → Option Outcome) : World :=
  { children := children
    parent := parent
    returnExceptions := returnExceptions
    outcomes := outcomes
    nfinished := 0
    cancelRequested := false
    outer := if children.isEmpty then some .succeeded else none
    watched := false
    ready := []
    entry := some ⟨parent, children.length, 0, false, false⟩
    events := [] }

/-- The call of gather: `outcomes` are those of the arguments that are done already. -/
def gather (children : List Child) (parent : Option String) (returnExceptions : Bool)
    (outcomes : Nat → Option Outcome) : World :=
  let w := opened children parent returnExceptions outcomes
  let w := (w.futures.filterMap outcomes).foldl ownCallback w
  { w with
    watched := true
    ready := w.childCallbacks (fun child => outcomes child.future)
      ++ (w.outer.map Callback.gather).toList }

/-- A future gets done, and hands its callbacks to the loop. -/
def finish (w : World) (future : Nat) (outcome : Outcome) : World :=
  { w with
    outcomes := fun f => if f = future then some outcome else w.outcomes f
    ready := w.ready ++ .own outcome :: w.childCallbacks fun child =>
      if child.future = future then some outcome else none }

/-- What happens: a future gets done, the outer future is cancelled, or the loop runs the next
    callback. -/
inductive Action where
  | finish (future : Nat) (outcome : Outcome)
  | cancel
  | turn
deriving DecidableEq, Repr

/-- One step; `none` is one that cannot be taken. -/
def step (w : World) : Action → Option World
  | .finish future outcome =>
    if future ∈ w.futures ∧ w.isDone future = false then some (w.finish future outcome)
    else none
  | .cancel =>
    -- `cancel()` of `_GatheringFuture`: some child takes it unless all of them are done
    if w.outer.isSome then none
    else some { w with
      cancelRequested := w.cancelRequested || w.futures.any fun future => !w.isDone future }
  | .turn =>
    match w.ready with
    | callback :: ready => some ({ w with ready := ready }.runCallback callback)
    | [] => none

/-! ## What is promised -/

def childEvents (w : World) : List ChildCompleted := w.events.filterMap Event.child?

/-- How many terminal events are out. -/
def terminals (w : World) : Nat := w.events.countP Event.isTerminal

/-- How many children have ended like this. -/
def ended (w : World) (outcome : Outcome) : Nat :=
  w.children.countP fun child => w.outcomes child.future = some outcome

/-- Every child is done. -/
def allDone (w : World) : Prop := ∀ child ∈ w.children, w.isDone child.future = true

/-- The child events carry their number, the parent and the count of the children; there is one
    terminal event at most, and one once the loop has run every callback of an outer future that
    is resolved or of children that are all done; and the counts of a completed event are those
    of the children. -/
structure Accounted (w : World) : Prop where
  children : ∀ k event, w.childEvents[k]? = some event → event.completedCount = k + 1 ∧
    event.parent = w.parent ∧ event.childCount = w.children.length
  once : w.terminals ≤ 1
  ended : w.ready = [] → w.outer.isSome ∨ w.allDone → w.terminals = 1
  completed : ∀ event, .completed event ∈ w.events →
    event.completedCount = w.children.countP (fun child => w.isDone child.future) ∧
    event.failedChildren = w.ended .failed ∧ event.cancelledChildren = w.ended .cancelled

/-- No child's callback runs after the terminal event, and where the callback of an outer future
    with a result runs, every child that is done has succeeded. -/
def Orderly (w : World) : Action → Prop
  | .turn =>
    match w.ready with
    | .child _ _ _ :: _ => w.terminals = 0
    | .gather .succeeded :: _ => w.ended .failed = 0 ∧ w.ended .cancelled = 0
    | _ => True
  | _ => True

end World

end AsyncViz.Instrumentation.Gather
