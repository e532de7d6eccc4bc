/-
  AsyncViz.Runtime.Events

  The event values that flow through a runtime (`runtime/events/models`): the
  lifecycle states, the envelope every event shares, the seven task events with
  their own fields, and one constructor for every other event class (queue,
  semaphore, gather, executor, metrics, warning and generic events), which the
  task subsystems treat alike.

  Floats are rationals and UUIDs are strings.  A free-form `Any` field holds JSON
  values and whatever else the program put there (`Json.foreign`), for which pydantic
  has no JSON form: `toDict`, the JSON serialization of an event
  (`serialization.py`), lists the fields in declaration order, base class first, and
  is `none` where the source raises.
-/

import AsyncViz.Lib.Dict
import Mathlib.Data.Rat.Defs

namespace AsyncViz.Runtime

open AsyncViz.Lib

/-- The values of an `Any` field. -/
inductive Json where
  | null
  | bool (b : Bool)
  | int (n : Int)
  | num (q : ℚ)
  | str (s : String)
  | arr (items : List Json)
  | obj (fields : List (String × Json))
  /-- An object of a class that pydantic has no JSON form for. -/
  | foreign (typeName : String)
deriving Inhabited

namespace Json

/-- `null` for `None`. -/
def ofOption {α : Type _} (f : α → Json) : Option α → Json
  | none => .null
  | some a => f a

mutual

/-- pydantic finds a JSON form for the value and for all that it holds. -/
def serializes : Json → Bool
  | .foreign _ => false
  | .arr items => serializesAll items
  | .obj fields => serializesFields fields
  | _ => true

/-- So for the items of a list. -/
def serializesAll : List Json → Bool
  | [] => true
  | item :: items => item.serializes && serializesAll items

/-- So for the values of a mapping. -/
def serializesFields : List (String × Json) → Bool
  | [] => true
  | (_, value) :: fields => value.serializes && serializesFields fields

end

end Json

/-- `TaskState`: the canonical lifecycle states of a task. -/
inductive TaskState where
  | created
  | running
  | waiting
  | completed
  | cancelled
  | failed
deriving DecidableEq, Repr, Inhabited

/-- `TaskState.value`. -/
def TaskState.wire : TaskState → String
  | .created => "created"
  | .running => "running"
  | .waiting => "waiting"
  | .completed => "completed"
  | .cancelled => "cancelled"
  | .failed => "failed"

/-- The fields of `_TaskEventBase`. -/
structure TaskEventBase where
  taskId : String
  parentTaskId : Option String := none
  coroutineName : Option String := none
  taskName : Option String := none
  metadata : Dict String Json := .empty

/-- The fields `_TerminalTaskEventBase` adds. -/
structure TerminalTaskEventBase where
  createdAt : Option ℚ := none
  completedAt : Option ℚ := none
  durationSeconds : Option ℚ := none

/-- The event class with its own fields. -/
inductive EventBody where
  | taskCreated (task : TaskEventBase)
  | taskStarted (task : TaskEventBase)
  | taskWaiting (task : TaskEventBase) (reason : Option String)
  | taskResumed (task : TaskEventBase)
  | taskCompleted (task : TaskEventBase) (terminal : TerminalTaskEventBase)
  | taskCancelled (task : TaskEventBase) (terminal : TerminalTaskEventBase)
      (cancellationOrigin : Option String)
  | taskFailed (task : TaskEventBase) (terminal : TerminalTaskEventBase)
      (exceptionType exceptionMessage : Option String)
  /-- Any class outside `TASK_EVENT_TYPES`, with its own fields as they serialize. -/
  | other (eventType : String) (fields : List (String × Json))

/-- `RuntimeEvent`: the envelope fields and the class-specific body. -/
structure RuntimeEvent where
  eventId : String
  timestamp : ℚ := 0
  monotonicTimestamp : ℚ := 0
  monotonicNs : Int := 0
  runtimeId : String := ""
  source : String := "runtime"
  payloadVersion : Int := 1
  body : EventBody

namespace EventBody

/-- `event_type`, the wire name of the class. -/
def eventType : EventBody → String
  | .taskCreated _ => "asyncio.task.created"
  | .taskStarted _ => "asyncio.task.started"
  | .taskWaiting _ _ => "asyncio.task.waiting"
  | .taskResumed _ => "asyncio.task.resumed"
  | .taskCompleted _ _ => "asyncio.task.completed"
  | .taskCancelled _ _ _ => "asyncio.task.cancelled"
  | .taskFailed _ _ _ _ => "asyncio.task.failed"
  | .other eventType _ => eventType

/-- The task fields of a task event. -/
def task? : EventBody → Option TaskEventBase
  | .taskCreated t => some t
  | .taskStarted t => some t
  | .taskWaiting t _ => some t
  | .taskResumed t => some t
  | .taskCompleted t _ => some t
  | .taskCancelled t _ _ => some t
  | .taskFailed t _ _ _ => some t
  | .other _ _ => none

/-- The state a task event moves its task to. -/
def targetState? : EventBody → Option TaskState
  | .taskCreated _ => some .created
  | .taskStarted _ => some .running
  | .taskWaiting _ _ => some .waiting
  | .taskResumed _ => some .running
  | .taskCompleted _ _ => some .completed
  | .taskCancelled _ _ _ => some .cancelled
  | .taskFailed _ _ _ _ => some .failed
  | .other _ _ => none

/-- `isinstance(event, TASK_EVENT_TYPES)`. -/
def isTaskEvent (b : EventBody) : Bool := b.task?.isSome

end EventBody

namespace TaskEventBase

/-- The shared task fields as they serialize. -/
def fields (t : TaskEventBase) : List (String × Json) :=
  [("task_id", .str t.taskId),
   ("parent_task_id", .ofOption .str t.parentTaskId),
   ("coroutine_name", .ofOption .str t.coroutineName),
   ("task_name", .ofOption .str t.taskName),
   ("metadata", .obj t.metadata.entries)]

end TaskEventBase

/-- The shared terminal fields as they serialize. -/
def TerminalTaskEventBase.fields (t : TerminalTaskEventBase) : List (String × Json) :=
  [("created_at", .ofOption .num t.createdAt),
   ("completed_at", .ofOption .num t.completedAt),
   ("duration_seconds", .ofOption .num t.durationSeconds)]

/-- The class-specific fields as they serialize. -/
def EventBody.fields : EventBody → List (String × Json)
  | .taskCreated t => t.fields
  | .taskStarted t => t.fields
  | .taskWaiting t reason => t.fields ++ [("reason", .ofOption .str reason)]
  | .taskResumed t => t.fields
  | .taskCompleted t d => t.fields ++ d.fields
  | .taskCancelled t d origin =>
      t.fields ++ d.fields ++ [("cancellation_origin", .ofOption .str origin)]
  | .taskFailed t d exceptionType exceptionMessage =>
      t.fields ++ d.fields ++
        [("exception_type", .ofOption .str exceptionType),
         ("exception_message", .ofOption .str exceptionMessage)]
  | .other _ fields => fields

namespace RuntimeEvent

/-- `event.event_type`. -/
def eventType (e : RuntimeEvent) : String := e.body.eventType

/-- `getattr(event, name, None)` where that is a string. -/
def strField? (e : RuntimeEvent) (name : String) : Option String :=
  match e.body.fields.lookup name with
  | some (.str s) => some s
  | _ => none

/-- All fields of the event, as far as they have a JSON form. -/
def modelDump (e : RuntimeEvent) : Json :=
  .obj <|
    [("event_id", .str e.eventId),
     ("event_type", .str e.eventType),
     ("timestamp", .num e.timestamp),
     ("monotonic_timestamp", .num e.monotonicTimestamp),
     ("monotonic_ns", .int e.monotonicNs),
     ("runtime_id", .str e.runtimeId),
     ("source", .str e.source),
     ("payload_version", .int e.payloadVersion)] ++ e.body.fields

/-- Every value the event carries has a JSON form. -/
def serializes (e : RuntimeEvent) : Bool := e.modelDump.serializes

/-- `to_dict(event)`: `event.model_dump(mode="json")`, which raises on a value that
    has no JSON form. -/
def toDict (e : RuntimeEvent) : Option Json := if e.serializes then some e.modelDump else none

theorem toDict_isSome (e : RuntimeEvent) : e.toDict.isSome = e.serializes := by
  cases h : e.serializes <;> simp [toDict, h]

end RuntimeEvent

/-- A task event targets a state exactly when it is a task event. -/
theorem EventBody.targetState?_isSome (b : EventBody) :
    b.targetState?.isSome = b.isTaskEvent := by
  cases b <;> rfl

theorem EventBody.exists_targetState {b : EventBody} {task : TaskEventBase}
    (h : b.task? = some task) : ∃ target, b.targetState? = some target := by
  have hsome := b.targetState?_isSome
  rw [isTaskEvent, h] at hsome
  exact Option.isSome_iff_exists.mp hsome

theorem EventBody.isTaskEvent_eq_false_iff {b : EventBody} :
    b.isTaskEvent = false ↔ b.task? = none := Option.isSome_eq_false_iff.trans Option.isNone_iff_eq_none

end AsyncViz.Runtime
