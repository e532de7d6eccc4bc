/-
  AsyncViz.Runtime.Tasks.Models

  The lifecycle table of a task (`runtime/tasks/state.py`) and its in-memory
  record (`models.py`).
-/

import AsyncViz.Runtime.Events

namespace AsyncViz.Runtime.Tasks

open AsyncViz.Lib

/-! ## The lifecycle table -/

/-- `is_terminal`. -/
def isTerminal : TaskState → Bool
  | .completed | .cancelled | .failed => true
  | .created | .running | .waiting => false

/-- `TRANSITIONS`: the states a state may move to. -/
def transitions : TaskState → List TaskState
  | .created => [.running, .waiting, .completed, .cancelled, .failed]
  | .running => [.waiting, .completed, .cancelled, .failed]
  | .waiting => [.running, .completed, .cancelled, .failed]
  | .completed => []
  | .cancelled => []
  | .failed => []

/-- `can_transition`. -/
def canTransition (current target : TaskState) : Bool := target ∈ transitions current

/-- Terminal states have no way out. -/
theorem canTransition_of_isTerminal {current target : TaskState} (h : isTerminal current = true) :
    canTransition current target = false := by
  cases current <;> first | rfl | cases h

/-- Nothing moves back to `created`, and no state moves to itself. -/
theorem canTransition_ne {current target : TaskState} (h : canTransition current target = true) :
    target ≠ .created ∧ target ≠ current := by
  revert h
  cases current <;> cases target <;> decide

/-! ## Records -/

/-- `TaskMetadata`. -/
structure TaskMetadata where
  coroutineName : Option String := none
  taskName : Option String := none
  parentTaskId : Option String := none
  asyncioTaskId : Option Int := none
  runtimeId : Option String := none
  tags : Dict String String := .empty
  extra : Dict String Json := .empty

/-- `RuntimeTask`. -/
structure RuntimeTask where
  taskId : String
  state : TaskState
  createdAt : ℚ
  updatedAt : ℚ
  asyncioTaskId : Option Int := none
  coroutineName : Option String := none
  taskName : Option String := none
  parentTaskId : Option String := none
  rootTaskId : Option String := none
  depth : Nat := 0
  ancestorChain : List String := []
  childCount : Nat := 0
  completedAt : Option ℚ := none
  durationSeconds : Option ℚ := none
  exceptionType : Option String := none
  exceptionMessage : Option String := none
  cancellationOrigin : Option String := none
  runtimeId : Option String := none
  tags : Dict String String := .empty
  metadata : Dict String Json := .empty

/-- `RuntimeTask.create`, at wall-clock `now`. -/
def RuntimeTask.create (now : ℚ) (taskId : String) (md : TaskMetadata) (state : TaskState) :
    RuntimeTask :=
  { taskId := taskId
    state := state
    createdAt := now
    updatedAt := now
    asyncioTaskId := md.asyncioTaskId
    coroutineName := md.coroutineName
    taskName := md.taskName
    parentTaskId := md.parentTaskId
    rootTaskId := some taskId
    runtimeId := md.runtimeId
    tags := md.tags
    metadata := md.extra }

/-- `TaskSnapshot`: the immutable copy of a record, field by field. -/
abbrev TaskSnapshot := RuntimeTask

/-- `TaskSnapshot.from_task`. -/
def TaskSnapshot.fromTask (task : RuntimeTask) : TaskSnapshot := task

end AsyncViz.Runtime.Tasks
