/-
  AsyncViz.Instrumentation.Tasks.Patcher

  The patch of `asyncio.create_task` and what it reports of a task
  (`instrumentation/asyncio/{patcher,create_task,wrappers,lifecycle,context}.py`,
  `runtime/lineage/context.py`).

  A `Callable` is what `asyncio.create_task` can be: the interpreter's, a wrapper of the
  patcher, or a layer that a third party has put on another callable.  A `Process` is the
  interpreter with its tasks, the patcher and the events that were published; its steps are
  everything that patches, creates or ends tasks, asks a task for its exception or gives it up.
  Layers of third parties are drop-in, and a coroutine does not run before its task is returned.

  A task that failed and that nobody has asked for its exception is reported to the exception
  handler of the loop when it is collected ("Task exception was never retrieved").  The
  done-callback of the instrumentation asks too, and a task does not know who did.
-/

import AsyncViz.Lib.Dict
import AsyncViz.Lib.Transition

namespace AsyncViz.Instrumentation.Tasks

open AsyncViz.Lib

/-- A task of asyncio, by the order of creation. -/
abbrev TaskRef := Nat

/-- An id of `new_task_id`: ids are never given twice. -/
abbrev TaskId := Nat

/-! ## Callables -/

/-- What `asyncio.create_task` can be; `object` is the identity of a wrapper. -/
inductive Callable where
  | interpreter
  | instrumented (object : Nat) (inner : Callable)
  | foreign (object : Nat) (inner : Callable)
deriving DecidableEq, Repr

/-- `current is self._patched_callable`. -/
def Callable.isWrapper : Callable → Option Nat → Bool
  | .instrumented object _, some patched => object = patched
  | _, _ => false

/-! ## Events -/

inductive Outcome where
  | completed
  | failed
  | cancelled
deriving DecidableEq, Repr

/-- What `CancellationContext.attribute` answers. -/
inductive Origin where
  | shutdown
  | explicit
deriving DecidableEq, Repr

/-- The event of a task, by its type. -/
inductive Kind where
  | created (parent : Option TaskId)
  | completed
  | failed
  | cancelled (origin : Origin)
deriving DecidableEq, Repr

structure TaskEvent where
  taskId : TaskId
  kind : Kind
deriving DecidableEq, Repr

/-! ## The process -/

/-- A task, with `_RUNTIME_TASK_ID` in its context and the done-callbacks of its
    instrumentation.  `retrieved` is that someone has asked it for its exception since it ended.
    `taskIds` is a history: the ids under which it was reported. -/
structure Task where
  runtimeTask : Option TaskId
  watches : List TaskId
  outcome : Option Outcome
  retrieved : Bool
  collected : Bool
  taskIds : List TaskId
deriving DecidableEq, Repr

/-- A task as `create_task` of the interpreter returns it. -/
def Task.created (var : Option TaskId) : Task := ⟨var, [], none, false, false, []⟩

/-- The interpreter, the patcher, and the events that the bus was given.  `saved` are the
    callables that someone keeps a reference to, `scheduled` the done-callbacks that the loop
    has to run; `foreignCalls` is a history of the layers of third parties that were called, and
    `reported` one of the tasks of which the exception handler of the loop was told. -/
structure Process where
  installed : Callable
  saved : List Callable
  foreignObjects : Nat
  objects : Nat
  original : Option Callable
  patchedCallable : Option Nat
  patched : Bool
  context : Dict TaskRef TaskId
  shutdownInProgress : Bool
  tasks : List Task
  scheduled : List (TaskRef × TaskId)
  nextId : TaskId
  published : List TaskEvent
  foreignCalls : List Nat
  reported : List TaskRef

namespace Process

/-- A process in which nothing has happened. -/
def start : Process where
  installed := .interpreter
  saved := []
  foreignObjects := 0
  objects := 0
  original := none
  patchedCallable := none
  patched := false
  context := Dict.empty
  shutdownInProgress := false
  tasks := []
  scheduled := []
  nextId := 0
  published := []
  foreignCalls := []
  reported := []

/-- `patch`. -/
def patch (p : Process) : Process :=
  if p.patched then p
  else { p with
    original := some p.installed
    installed := .instrumented p.objects p.installed
    patchedCallable := some p.objects
    objects := p.objects + 1
    patched := true }

/-- What `unpatch` leaves in `asyncio.create_task`. -/
def restored (p : Process) : Callable :=
  match p.original with
  | some original => if p.installed.isWrapper p.patchedCallable then original else p.installed
  | none => p.installed

/-- `unpatch`. -/
def unpatch (p : Process) : Process :=
  if p.patched then
    { p with
      installed := p.restored
      original := none
      patchedCallable := none
      patched := false
      context := Dict.empty }
  else p

end Process

/-! ## Creating a task -/

/-- Who calls `create_task`: a task, or a callback that runs in the context of a task or in a
    fresh one. -/
inductive Caller where
  | task (task : TaskRef)
  | callback (context : Option TaskRef)
deriving DecidableEq, Repr

/-- `asyncio.current_task`. -/
def Caller.currentTask : Caller → Option TaskRef
  | .task t => some t
  | .callback _ => none

/-- The task whose context the caller runs in. -/
def Caller.context : Caller → Option TaskRef
  | .task t => some t
  | .callback t => t

namespace Process

/-- The task is not done. -/
def running (p : Process) (task : TaskRef) : Bool :=
  match p.tasks[task]? with
  | some task => task.outcome.isNone
  | none => false

/-- `outcome` of a task that is done. -/
def outcome (p : Process) (task : TaskRef) : Option Outcome := p.tasks[task]?.bind (·.outcome)

/-- A task that calls is not done, and a context is that of some task. -/
def canCall (p : Process) : Caller → Bool
  | .task task => p.running task
  | .callback (some task) => decide (task < p.tasks.length)
  | .callback none => true

/-- `current_runtime_task` in the context of the caller. -/
def runtimeTask (p : Process) (caller : Caller) : Option TaskId :=
  caller.context.bind fun task => p.tasks[task]?.bind (·.runtimeTask)

/-- `context.get`. -/
def taskIdOf (p : Process) (task : Option TaskRef) : Option TaskId := task.bind p.context.get?

/-- `instrument_task`: `fails` is whether it raises before `attach_done_callback`, in the bus
    for one, which `instrumented_create_task` swallows. -/
def instrumentTask (p : Process) (task : TaskRef) (parentTask : Option TaskRef)
    (parentOverride : Option TaskId) (taskId : TaskId) (fails : Bool) : Process :=
  let registered := { p with context := p.context.set task taskId }
  if fails then registered
  else
    let parent := parentOverride.or (registered.taskIdOf parentTask)
    { registered with
      published := registered.published ++ [⟨taskId, .created parent⟩]
      tasks := registered.tasks.modify task fun t =>
        { t with watches := t.watches ++ [taskId], taskIds := t.taskIds ++ [taskId] } }

/-- A call of `create_task`; `raises` is whether the interpreter's raises, and `var` is
    `_RUNTIME_TASK_ID` where it is called. -/
def call (caller : Caller) (raises : Bool) (fails : TaskId → Bool) :
    Callable → Option TaskId → Process → Option TaskRef × Process
  | .interpreter, var, p =>
    if raises then (none, p)
    else (some p.tasks.length, { p with tasks := p.tasks ++ [.created var] })
  | .foreign object inner, var, p =>
    call caller raises fails inner var { p with foreignCalls := p.foreignCalls ++ [object] }
  | .instrumented _ inner, var, p =>
    let taskId := p.nextId
    let parentTaskId := match caller.currentTask with
      | some task => p.taskIdOf (some task)
      | none => var
    -- the context variable is bound to the new id, and reset behind the call
    match call caller raises fails inner (some taskId) { p with nextId := p.nextId + 1 } with
    | (none, p) => (none, p)
    | (some task, p) =>
      (some task,
        p.instrumentTask task caller.currentTask parentTaskId taskId (fails taskId))

/-- Neither the patcher nor what is installed has changed. -/
structure SamePatcher (p p' : Process) : Prop where
  installed : p'.installed = p.installed
  saved : p'.saved = p.saved
  objects : p'.objects = p.objects
  original : p'.original = p.original
  patchedCallable : p'.patchedCallable = p.patchedCallable
  patched : p'.patched = p.patched

theorem samePatcher_instrumentTask (p : Process) (task : TaskRef) (parentTask : Option TaskRef)
    (parentOverride : Option TaskId) (taskId : TaskId) (fails : Bool) :
    SamePatcher p (p.instrumentTask task parentTask parentOverride taskId fails) := by
  unfold instrumentTask
  dsimp only
  split <;> exact ⟨rfl, rfl, rfl, rfl, rfl, rfl⟩

theorem samePatcher_call (caller : Caller) (raises : Bool) (fails : TaskId → Bool)
    (callable : Callable) (var : Option TaskId) (p : Process) :
    SamePatcher p (call caller raises fails callable var p).2 := by
  induction callable generalizing var p with
  | interpreter =>
    rw [call]
    split <;> exact ⟨rfl, rfl, rfl, rfl, rfl, rfl⟩
  | foreign object inner ih =>
    have hinner := ih var { p with foreignCalls := p.foreignCalls ++ [object] }
    rw [call]
    exact ⟨hinner.installed, hinner.saved, hinner.objects, hinner.original,
      hinner.patchedCallable, hinner.patched⟩
  | instrumented object inner ih =>
    have hinner := ih (some p.nextId) { p with nextId := p.nextId + 1 }
    rw [call]
    revert hinner
    cases call caller raises fails inner (some p.nextId) { p with nextId := p.nextId + 1 } with
    | mk result p' =>
      intro hinner
      cases result with
      | none => exact ⟨hinner.installed, hinner.saved, hinner.objects, hinner.original,
          hinner.patchedCallable, hinner.patched⟩
      | some task =>
        have hlast := samePatcher_instrumentTask p' task caller.currentTask
          (match caller.currentTask with
            | some task => p.taskIdOf (some task)
            | none => var) p.nextId (fails p.nextId)
        exact ⟨hlast.installed.trans hinner.installed, hlast.saved.trans hinner.saved,
          hlast.objects.trans hinner.objects, hlast.original.trans hinner.original,
          hlast.patchedCallable.trans hinner.patchedCallable,
          hlast.patched.trans hinner.patched⟩

/-! ## The end of a task -/

/-- `CancellationContext.attribute`. -/
def origin (p : Process) : Origin := if p.shutdownInProgress then .shutdown else .explicit

/-- The event that `_publish_terminal_event` makes. -/
def terminal (p : Process) : Outcome → Kind
  | .cancelled => .cancelled p.origin
  | .failed => .failed
  | .completed => .completed

/-- A task ends: its done-callbacks are scheduled. -/
def finish (p : Process) (task : TaskRef) (outcome : Outcome) : Option Process :=
  if p.running task then
    some { p with
      tasks := p.tasks.modify task fun t => { t with watches := [], outcome := some outcome }
      scheduled := p.scheduled ++ match p.tasks[task]? with
        | some t => t.watches.map fun id => (task, id)
        | none => [] }
  else none

/-- `_publish_terminal_event`: it calls `exception` on a task that was not cancelled, and
    `fails` is whether the bus raises behind it, which `_done` swallows. -/
def publishTerminal (p : Process) (task : TaskRef) (taskId : TaskId) (outcome : Outcome)
    (fails : Bool) : Process :=
  let read :=
    if outcome = .cancelled then p
    else { p with tasks := p.tasks.modify task fun t => { t with retrieved := true } }
  if fails then read
  else { read with published := p.published ++ [⟨taskId, p.terminal outcome⟩] }

/-- The loop runs the first of the done-callbacks. -/
def runDone (p : Process) (fails : Bool) : Process :=
  match p.scheduled with
  | [] => p
  | (task, taskId) :: scheduled =>
    match p.outcome task with
    | some outcome => { p with scheduled := scheduled }.publishTerminal task taskId outcome fails
    | none => { p with scheduled := scheduled }

theorem samePatcher_publishTerminal (p : Process) (task : TaskRef) (taskId : TaskId)
    (outcome : Outcome) (fails : Bool) :
    SamePatcher p (p.publishTerminal task taskId outcome fails) := by
  unfold publishTerminal
  dsimp only
  split <;> split <;> exact ⟨rfl, rfl, rfl, rfl, rfl, rfl⟩

theorem samePatcher_runDone (p : Process) (fails : Bool) : SamePatcher p (p.runDone fails) := by
  rw [runDone]
  split
  · exact ⟨rfl, rfl, rfl, rfl, rfl, rfl⟩
  · next task taskId scheduled _ =>
    split
    · next outcome _ =>
      have hsame := samePatcher_publishTerminal { p with scheduled := scheduled } task taskId
        outcome fails
      exact ⟨hsame.installed, hsame.saved, hsame.objects, hsame.original, hsame.patchedCallable,
        hsame.patched⟩
    · exact ⟨rfl, rfl, rfl, rfl, rfl, rfl⟩

/-- The program asks a task that is done for its exception. -/
def retrieve (p : Process) (task : TaskRef) : Option Process :=
  if (p.outcome task).isSome then
    some { p with tasks := p.tasks.modify task fun t => { t with retrieved := true } }
  else none

/-- A task that is done is collected, and its weak reference in the context goes. -/
def collect (p : Process) (task : TaskRef) : Option Process :=
  match p.tasks[task]? with
  | some t =>
    if t.outcome.isSome ∧ t.collected = false then
      some { p with
        context := p.context.pop task
        tasks := p.tasks.modify task fun t => { t with collected := true }
        reported := p.reported ++
          if t.outcome = some .failed ∧ t.retrieved = false then [task] else [] }
    else none
  | none => none

end Process

/-! ## The steps -/

/-- What happens in a process.  `wrap` is a third party that puts its own layer on what is
    installed, `save` one that keeps a reference, `assign` one that installs what it kept;
    `createTask` is a call through a kept reference or what is installed. -/
inductive Action where
  | patch
  | unpatch
  | wrap
  | save
  | assign (index : Nat)
  | createTask (through : Option Nat) (caller : Caller) (raises : Bool) (fails : TaskId → Bool)
  | finish (task : TaskRef) (outcome : Outcome)
  | runDone (fails : Bool)
  | retrieve (task : TaskRef)
  | collect (task : TaskRef)
  | beginShutdown
  | endShutdown

namespace Process

/-- The callable that a call goes through. -/
def callable (p : Process) : Option Nat → Option Callable
  | none => some p.installed
  | some index => p.saved[index]?

/-- One step of the process. -/
def step (p : Process) : Action → Option Process
  | .patch => some p.patch
  | .unpatch => some p.unpatch
  | .wrap =>
    some { p with
      installed := .foreign p.foreignObjects p.installed
      foreignObjects := p.foreignObjects + 1 }
  | .save => some { p with saved := p.saved ++ [p.installed] }
  | .assign index => p.saved[index]?.map fun callable => { p with installed := callable }
  | .createTask through caller raises fails =>
    if p.canCall caller then
      (p.callable through).map fun callable =>
        (call caller raises fails callable (p.runtimeTask caller) p).2
    else none
  | .finish task outcome => p.finish task outcome
  | .runDone fails => some (p.runDone fails)
  | .retrieve task => p.retrieve task
  | .collect task => p.collect task
  | .beginShutdown => some { p with shutdownInProgress := true }
  | .endShutdown => some { p with shutdownInProgress := false }

end Process

end AsyncViz.Instrumentation.Tasks
