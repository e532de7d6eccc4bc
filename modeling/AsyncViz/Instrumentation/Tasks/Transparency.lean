/-
  AsyncViz.Instrumentation.Tasks.Transparency

  What the patch of `asyncio.create_task` leaves as it was, and the one thing that it does not.

  `Bare` is the same interpreter without the patcher: the layers of third parties, the tasks,
  their outcomes and the exceptions that were never retrieved.  `erase` takes the patcher out of
  a process, its wrappers included.  `Owned` is what `unpatch` relies on: a callable that is the
  patcher's own wrapper has the layers of what the patcher remembers as the original.

  The one thing is that the done-callback of the instrumentation asks its task for the exception,
  which keeps a failed task from the exception handler of the loop.  `Process.seen` is what is
  left of an action without the patcher: of such a done-callback, that someone asks the task.
-/

import AsyncViz.Instrumentation.Tasks.Patcher

namespace AsyncViz.Instrumentation.Tasks

open AsyncViz.Lib AsyncViz.Lib.Transition

/-! ## The interpreter without the patcher -/

/-- A task of the program. -/
structure BareTask where
  outcome : Option Outcome
  retrieved : Bool
  collected : Bool
deriving DecidableEq, Repr

/-- The interpreter without the patcher; a callable is its layers of third parties, outermost
    first. -/
structure Bare where
  installed : List Nat
  saved : List (List Nat)
  foreignObjects : Nat
  tasks : List BareTask
  foreignCalls : List Nat
  reported : List TaskRef
deriving DecidableEq, Repr

inductive BareAction where
  | wrap
  | save
  | assign (index : Nat)
  | createTask (through : Option Nat) (caller : Caller) (raises : Bool)
  | finish (task : TaskRef) (outcome : Outcome)
  | retrieve (task : TaskRef)
  | collect (task : TaskRef)
deriving DecidableEq, Repr

namespace Bare

def start : Bare := ⟨[], [], 0, [], [], []⟩

def running (b : Bare) (task : TaskRef) : Bool :=
  match b.tasks[task]? with
  | some task => task.outcome.isNone
  | none => false

def outcome (b : Bare) (task : TaskRef) : Option Outcome := b.tasks[task]?.bind (·.outcome)

def canCall (b : Bare) : Caller → Bool
  | .task t => b.running t
  | .callback (some t) => decide (t < b.tasks.length)
  | .callback none => true

def callable (b : Bare) : Option Nat → Option (List Nat)
  | none => some b.installed
  | some index => b.saved[index]?

/-- A call goes through the layers to the interpreter. -/
def call (b : Bare) (layers : List Nat) (raises : Bool) : Bare :=
  { b with
    tasks := if raises then b.tasks else b.tasks ++ [⟨none, false, false⟩]
    foreignCalls := b.foreignCalls ++ layers }

def step (b : Bare) : BareAction → Option Bare
  | .wrap =>
    some { b with
      installed := b.foreignObjects :: b.installed
      foreignObjects := b.foreignObjects + 1 }
  | .save => some { b with saved := b.saved ++ [b.installed] }
  | .assign index => b.saved[index]?.map fun layers => { b with installed := layers }
  | .createTask through caller raises =>
    if b.canCall caller then (b.callable through).map fun layers => b.call layers raises else none
  | .finish task outcome =>
    if b.running task then
      some { b with tasks := b.tasks.modify task fun t => { t with outcome := some outcome } }
    else none
  | .retrieve task =>
    if (b.outcome task).isSome then
      some { b with tasks := b.tasks.modify task fun t => { t with retrieved := true } }
    else none
  | .collect task =>
    match b.tasks[task]? with
    | some t =>
      if t.outcome.isSome ∧ t.collected = false then
        some { b with
          tasks := b.tasks.modify task fun t => { t with collected := true }
          reported := b.reported ++
            if t.outcome = some .failed ∧ t.retrieved = false then [task] else [] }
      else none
    | none => none

end Bare

/-! ## Taking the patcher out -/

/-- The layers of third parties. -/
def Callable.layers : Callable → List Nat
  | .interpreter => []
  | .instrumented _ inner => inner.layers
  | .foreign object inner => object :: inner.layers

/-- What the program has of a task. -/
def Task.erase (t : Task) : BareTask := ⟨t.outcome, t.retrieved, t.collected⟩

/-- The process without its patcher. -/
def Process.erase (p : Process) : Bare where
  installed := p.installed.layers
  saved := p.saved.map Callable.layers
  foreignObjects := p.foreignObjects
  tasks := p.tasks.map Task.erase
  foreignCalls := p.foreignCalls
  reported := p.reported

/-- The task that the next done-callback asks for its exception. -/
def Process.asks (p : Process) : Option TaskRef :=
  match p.scheduled with
  | [] => none
  | (task, _) :: _ =>
    match p.outcome task with
    | none | some .cancelled => none
    | some _ => some task

/-- What an action is without the patcher. -/
def Process.seen (p : Process) : Action → Option BareAction
  | .wrap => some .wrap
  | .save => some .save
  | .assign index => some (.assign index)
  | .createTask through caller raises _ => some (.createTask through caller raises)
  | .finish task outcome => some (.finish task outcome)
  | .retrieve task => some (.retrieve task)
  | .collect task => some (.collect task)
  | .runDone _ => p.asks.map .retrieve
  | _ => none

theorem running_erase (p : Process) (task : TaskRef) : p.erase.running task = p.running task := by
  rw [Bare.running, Process.running, Process.erase, List.getElem?_map]
  cases p.tasks[task]? <;> rfl

theorem outcome_erase (p : Process) (task : TaskRef) : p.erase.outcome task = p.outcome task := by
  rw [Bare.outcome, Process.outcome, Process.erase, List.getElem?_map]
  cases p.tasks[task]? <;> rfl

theorem canCall_erase (p : Process) (caller : Caller) : p.erase.canCall caller = p.canCall caller := by
  cases caller with
  | task t => exact running_erase p t
  | callback context =>
    cases context with
    | none => rfl
    | some t =>
      rw [Bare.canCall, Process.canCall, Process.erase, List.length_map]

theorem callable_erase (p : Process) (through : Option Nat) :
    p.erase.callable through = (p.callable through).map Callable.layers := by
  cases through with
  | none => rfl
  | some index => exact List.getElem?_map

/-- A change of one task, as the program has it. -/
theorem erase_modify {f : Task → Task} {g : BareTask → BareTask}
    (h : ∀ t, (f t).erase = g t.erase) (p : Process) (task : TaskRef) :
    { p with tasks := p.tasks.modify task f }.erase
      = { p.erase with tasks := p.erase.tasks.modify task g } := by
  have htasks : (p.tasks.modify task f).map Task.erase
      = (p.tasks.map Task.erase).modify task g := by
    refine List.ext_getElem? fun j => ?_
    rw [List.getElem?_map, List.getElem?_modify, List.getElem?_modify, List.getElem?_map]
    split
    · cases p.tasks[j]? with
      | none => rfl
      | some t => exact congrArg some (h t)
    · cases p.tasks[j]? <;> rfl
  exact congrArg (fun tasks => { p.erase with tasks := tasks }) htasks

/-- A change that the program does not see. -/
theorem erase_modify_of_same {f : Task → Task} (h : ∀ t, (f t).erase = t.erase) (p : Process)
    (task : TaskRef) : { p with tasks := p.tasks.modify task f }.erase = p.erase := by
  rw [erase_modify (g := id) h, List.modify_id]

theorem erase_instrumentTask (p : Process) (task : TaskRef) (parentTask : Option TaskRef)
    (parentOverride : Option TaskId) (taskId : TaskId) (fails : Bool) :
    (p.instrumentTask task parentTask parentOverride taskId fails).erase = p.erase := by
  unfold Process.instrumentTask
  dsimp only
  split
  · rfl
  · exact erase_modify_of_same (f := fun t => { t with
      watches := t.watches ++ [taskId], taskIds := t.taskIds ++ [taskId] }) (fun _ => rfl) p task

/-- A call does what it does without the patcher, and its caller gets the same. -/
theorem erase_call (caller : Caller) (raises : Bool) (fails : TaskId → Bool) (callable : Callable)
    (var : Option TaskId) (p : Process) :
    (Process.call caller raises fails callable var p).2.erase = p.erase.call callable.layers raises ∧
      (Process.call caller raises fails callable var p).1
        = if raises then none else some p.tasks.length := by
  induction callable generalizing var p with
  | interpreter =>
    rw [Process.call]
    cases raises with
    | true => exact ⟨congrArg (fun calls => { p.erase with foreignCalls := calls })
        (List.append_nil _).symm, rfl⟩
    | false =>
      refine ⟨?_, rfl⟩
      rw [Process.erase, Bare.call, Callable.layers]
      simp [Process.erase, Task.erase, Task.created]
  | foreign object inner ih =>
    rw [Process.call]
    obtain ⟨herase, hresult⟩ := ih var { p with foreignCalls := p.foreignCalls ++ [object] }
    refine ⟨herase.trans ?_, hresult⟩
    rw [Bare.call, Bare.call, Callable.layers]
    simp [Process.erase]
  | instrumented object inner ih =>
    -- the wrapper calls on, and instruments the task that it gets
    obtain ⟨herase, hresult⟩ := ih (some p.nextId) { p with nextId := p.nextId + 1 }
    rw [Process.call]
    cases hcall : Process.call caller raises fails inner (some p.nextId)
        { p with nextId := p.nextId + 1 } with
    | mk result p' =>
      rw [hcall] at herase hresult
      cases result with
      | none => exact ⟨herase, hresult⟩
      | some task => exact ⟨(erase_instrumentTask ..).trans herase, hresult⟩

/-! ## The patcher's own wrappers -/

/-- The callables that are around. -/
def Process.callables (p : Process) : List Callable :=
  p.installed :: (p.saved ++ p.original.toList)

/-- What `unpatch` relies on. -/
structure Owned (p : Process) : Prop where
  known : ∀ c ∈ p.callables, ∀ object, c.isWrapper (some object) = true → object < p.objects
  layers : ∀ c ∈ p.callables, c.isWrapper p.patchedCallable = true → ∀ original,
    p.original = some original → original.layers = c.layers

theorem owned_start : Owned Process.start where
  known c hc object hobject := by
    rw [List.mem_singleton.mp hc] at hobject
    cases hobject
  layers c hc hwrapper original horiginal := by cases horiginal

/-- A step that brings no new callable. -/
theorem Owned.of_subset {p p' : Process} (h : Owned p)
    (hcallables : ∀ c ∈ p'.callables, c ∈ p.callables) (hobjects : p'.objects = p.objects)
    (hpatched : p'.patchedCallable = p.patchedCallable) (horiginal : p'.original = p.original) :
    Owned p' where
  known c hc := hobjects ▸ h.known c (hcallables c hc)
  layers c hc hwrapper := horiginal ▸ h.layers c (hcallables c hc) (hpatched ▸ hwrapper)

theorem owned_patch {p : Process} (h : Owned p) : Owned p.patch := by
  rw [Process.patch]
  split
  · exact h
  · have hfresh : ∀ c ∈ p.callables, c.isWrapper (some p.objects) = false := by
      intro c hc
      by_contra hcontra
      have := h.known c hc p.objects (by simpa using hcontra)
      omega
    have hmem : ∀ c, c ∈ p.saved ++ [p.installed] → c ∈ p.callables := by
      intro c hc
      rcases List.mem_append.mp hc with hsaved | hinstalled
      · exact List.mem_cons_of_mem _ (List.mem_append_left _ hsaved)
      · rw [List.mem_singleton.mp hinstalled]
        exact List.mem_cons_self
    constructor
    · intro c hc object hobject
      rcases List.mem_cons.mp hc with rfl | hc
      · have hsame : p.objects = object := of_decide_eq_true hobject
        rw [← hsame]
        exact Nat.lt_succ_self _
      · exact Nat.lt_succ_of_lt (h.known c (hmem c hc) object hobject)
    · intro c hc hwrapper original horiginal
      cases horiginal
      rcases List.mem_cons.mp hc with rfl | hc
      · rfl
      · rw [hfresh c (hmem c hc)] at hwrapper
        cases hwrapper

theorem restored_mem_callables (p : Process) : p.restored ∈ p.callables := by
  rw [Process.restored]
  split
  · rename_i original horiginal
    split
    · refine List.mem_cons_of_mem _ (List.mem_append_right _ ?_)
      rw [horiginal]
      exact List.mem_singleton_self _
    · exact List.mem_cons_self
  · exact List.mem_cons_self

theorem Owned.layers_restored {p : Process} (h : Owned p) :
    p.restored.layers = p.installed.layers := by
  rw [Process.restored]
  split
  · rename_i original horiginal
    split
    · rename_i hwrapper
      exact h.layers _ List.mem_cons_self hwrapper original horiginal
    · rfl
  · rfl

theorem owned_unpatch {p : Process} (h : Owned p) : Owned p.unpatch := by
  rw [Process.unpatch]
  split
  · constructor
    · intro c hc
      rcases List.mem_cons.mp hc with rfl | hc
      · exact h.known _ (restored_mem_callables p)
      · rw [Option.toList_none, List.append_nil] at hc
        exact h.known c (List.mem_cons_of_mem _ (List.mem_append_left _ hc))
    · intro c _ _ original horiginal
      cases horiginal
  · exact h

/-- The wrappers keep the layers of what is remembered as the original, whatever is assigned. -/
theorem owned_step {p p' : Process} {action : Action} (h : Owned p)
    (hstep : p.step action = some p') : Owned p' := by
  cases action with
  | patch =>
    cases hstep
    exact owned_patch h
  | unpatch =>
    cases hstep
    exact owned_unpatch h
  | wrap =>
    cases hstep
    constructor
    · intro c hc
      rcases List.mem_cons.mp hc with rfl | hc
      · exact fun _ hobject => by cases hobject
      · exact h.known c (List.mem_cons_of_mem _ hc)
    · intro c hc
      rcases List.mem_cons.mp hc with rfl | hc
      · exact fun hwrapper => by cases hwrapper
      · exact h.layers c (List.mem_cons_of_mem _ hc)
  -- the rest only moves callables about that are known
  | save =>
    cases hstep
    refine h.of_subset (fun c hc => ?_) rfl rfl rfl
    rcases List.mem_cons.mp hc with rfl | hc
    · exact List.mem_cons_self
    · rw [List.append_assoc] at hc
      rcases List.mem_append.mp hc with hsaved | hrest
      · exact List.mem_cons_of_mem _ (List.mem_append_left _ hsaved)
      · rcases List.mem_append.mp hrest with hinstalled | horiginal
        · rw [List.mem_singleton.mp hinstalled]
          exact List.mem_cons_self
        · exact List.mem_cons_of_mem _ (List.mem_append_right _ horiginal)
  | assign index =>
    obtain ⟨callable, hsaved, rfl⟩ := Option.map_eq_some_iff.mp hstep
    refine h.of_subset (fun c hc => ?_) rfl rfl rfl
    rcases List.mem_cons.mp hc with rfl | hc
    · exact List.mem_cons_of_mem _ (List.mem_append_left _ (List.mem_of_getElem? hsaved))
    · exact List.mem_cons_of_mem _ hc
  -- a call and a done-callback leave the patcher alone
  | createTask through caller raises fails =>
    obtain ⟨-, hstep⟩ := Option.ite_none_right_eq_some.mp hstep
    obtain ⟨callable, -, rfl⟩ := Option.map_eq_some_iff.mp hstep
    have hsame := Process.samePatcher_call caller raises fails callable (p.runtimeTask caller) p
    refine h.of_subset (fun c hc => ?_) hsame.objects hsame.patchedCallable hsame.original
    rwa [Process.callables, hsame.installed, hsame.saved, hsame.original] at hc
  | finish task outcome =>
    obtain ⟨-, heq⟩ := Option.ite_none_right_eq_some.mp hstep
    cases heq
    exact h.of_subset (fun _ hc => hc) rfl rfl rfl
  | runDone fails =>
    cases hstep
    have hsame := Process.samePatcher_runDone p fails
    refine h.of_subset (fun c hc => ?_) hsame.objects hsame.patchedCallable hsame.original
    rwa [Process.callables, hsame.installed, hsame.saved, hsame.original] at hc
  | retrieve task =>
    obtain ⟨-, heq⟩ := Option.ite_none_right_eq_some.mp hstep
    cases heq
    exact h.of_subset (fun _ hc => hc) rfl rfl rfl
  | collect task =>
    unfold Process.step Process.collect at hstep
    dsimp only at hstep
    split at hstep
    · obtain ⟨-, heq⟩ := Option.ite_none_right_eq_some.mp hstep
      cases heq
      exact h.of_subset (fun _ hc => hc) rfl rfl rfl
    · cases hstep
  | beginShutdown =>
    cases hstep
    exact h.of_subset (fun _ hc => hc) rfl rfl rfl
  | endShutdown =>
    cases hstep
    exact h.of_subset (fun _ hc => hc) rfl rfl rfl

/-! ## Transparency -/

theorem erase_unpatch {p : Process} (h : Owned p) : p.unpatch.erase = p.erase := by
  rw [Process.unpatch]
  split
  · exact congrArg (fun layers => { p.erase with installed := layers }) h.layers_restored
  · rfl

/-- The end of a done-callback is one more that asks the task. -/
theorem erase_publishTerminal (p : Process) (task : TaskRef) (taskId : TaskId) {outcome : Outcome}
    (houtcome : p.outcome task = some outcome) (fails : Bool) :
    (outcome = .cancelled → (p.publishTerminal task taskId outcome fails).erase = p.erase) ∧
    (outcome ≠ .cancelled →
      some (p.publishTerminal task taskId outcome fails).erase
        = p.erase.step (.retrieve task)) := by
  unfold Process.publishTerminal
  dsimp only
  refine ⟨fun hcancelled => ?_, fun hcancelled => ?_⟩
  · rw [if_pos hcancelled]
    split <;> rfl
  · have hread := erase_modify (f := fun t => { t with retrieved := true })
      (g := fun t => { t with retrieved := true }) (fun _ => rfl) p task
    rw [if_neg hcancelled, Bare.step, outcome_erase, houtcome, if_pos (Option.isSome_some), ← hread]
    split <;> rfl

/-- A done-callback either asks its task or does nothing that the program could see. -/
theorem erase_runDone (p : Process) (fails : Bool) :
    (∀ task, p.asks = some task → some (p.runDone fails).erase = p.erase.step (.retrieve task)) ∧
    (p.asks = none → (p.runDone fails).erase = p.erase) := by
  unfold Process.asks Process.runDone
  cases p.scheduled with
  | nil => exact ⟨nofun, fun _ => rfl⟩
  | cons callback scheduled =>
    obtain ⟨task, taskId⟩ := callback
    dsimp only
    cases houtcome : p.outcome task with
    | none => exact ⟨nofun, fun _ => rfl⟩
    | some outcome =>
      obtain ⟨hsilent, hasks⟩ := erase_publishTerminal { p with scheduled := scheduled } task taskId
        houtcome fails
      cases outcome with
      | cancelled => exact ⟨nofun, fun _ => hsilent rfl⟩
      | completed =>
        refine ⟨fun asked hasked => ?_, nofun⟩
        cases hasked
        exact hasks nofun
      | failed =>
        refine ⟨fun asked hasked => ?_, nofun⟩
        cases hasked
        exact hasks nofun

/-- A step that the program takes. -/
theorem erase_labelled {p : Process} {action : Action} {b : BareAction}
    (hlabel : p.seen action = some b) : (p.step action).map Process.erase = p.erase.step b := by
  cases action with
  | wrap =>
    cases hlabel
    rfl
  | save =>
    cases hlabel
    simp [Process.step, Bare.step, Process.erase]
  | assign index =>
    cases hlabel
    rw [Process.step, Bare.step, Process.erase, List.getElem?_map]
    cases p.saved[index]? <;> rfl
  | createTask through caller raises fails =>
    cases hlabel
    rw [Process.step, Bare.step, canCall_erase, callable_erase]
    split
    · cases p.callable through with
      | none => rfl
      | some callable => exact congrArg some (erase_call caller raises fails callable _ p).1
    · rfl
  | finish task outcome =>
    cases hlabel
    rw [Process.step, Process.finish, Bare.step, running_erase]
    split
    · exact congrArg some (erase_modify (fun _ => rfl) p task)
    · rfl
  | retrieve task =>
    cases hlabel
    rw [Process.step, Process.retrieve, Bare.step, outcome_erase]
    split
    · exact congrArg some (erase_modify (fun _ => rfl) p task)
    · rfl
  | collect task =>
    cases hlabel
    have hget : p.erase.tasks[task]? = p.tasks[task]?.map Task.erase := List.getElem?_map
    have htasks := congrArg Bare.tasks (erase_modify (f := fun t => { t with collected := true })
      (g := fun t => { t with collected := true }) (fun _ => rfl) p task)
    rw [Process.step, Process.collect, Bare.step, hget]
    cases p.tasks[task]? with
    | none => rfl
    | some t =>
      -- what is collected is done, and reported where nobody asked
      by_cases hheld : t.outcome.isSome ∧ t.collected = false
      · dsimp only [Option.map_some, Task.erase]
        rw [if_pos hheld, if_pos hheld]
        exact congrArg (fun tasks => some { p.erase with
          tasks := tasks
          reported := p.reported ++
            if t.outcome = some Outcome.failed ∧ t.retrieved = false then [task] else [] }) htasks
      · dsimp only [Option.map_some, Task.erase]
        rw [if_neg hheld, if_neg hheld]
        rfl
  | runDone fails =>
    obtain ⟨task, hasks, rfl⟩ := Option.map_eq_some_iff.mp hlabel
    exact (erase_runDone p fails).1 task hasks
  | _ => cases hlabel

/-- A step of the patcher, or of what it has put into the process. -/
theorem erase_silent {p : Process} {action : Action} (h : Owned p)
    (hlabel : p.seen action = none) : (p.step action).map Process.erase = some p.erase := by
  cases action with
  | patch =>
    rw [Process.step, Option.map_some, Process.patch]
    split <;> rfl
  | unpatch => exact congrArg some (erase_unpatch h)
  | runDone fails =>
    exact congrArg some ((erase_runDone p fails).2 (Option.map_eq_none_iff.mp hlabel))
  | beginShutdown => rfl
  | endShutdown => rfl
  | _ => cases hlabel

/-- Whatever is patched, unpatched and reported, and whatever fails in it, the program sees the
    interpreter that it would see without the patcher: each call goes through the same layers of
    third parties to the interpreter once, gives the same task or raises, and a layer that
    someone has installed stays installed.  Only its failed tasks are kept from the exception
    handler of the loop, as if someone had asked each of them for its exception where its
    done-callback runs. -/
theorem instrumentation_transparent (acts : List Action) :
    (exec Process.step Process.start acts).map Process.erase
      = exec Bare.step Bare.start (labels Process.step Process.seen Process.start acts) :=
  exec_map_project Process.erase Process.seen (fun _ _ _ => owned_step)
    (fun _ _ _ _ hlabel => erase_labelled hlabel) (fun _ _ h hlabel => erase_silent h hlabel)
    owned_start acts

/-- A task that fails before the patch, and one that fails under it. -/
def failingActs : List Action :=
  [.createTask none (.callback none) false (fun _ => false), .finish 0 .failed, .collect 0, .patch,
    .createTask none (.callback none) false (fun _ => false), .finish 1 .failed, .runDone false,
    .collect 1]

-- the exception handler hears of the first of them, and would hear of both
example : (exec Process.step Process.start failingActs).map Process.reported = some [0] ∧
    (exec Bare.step Bare.start ((labels Process.step Process.seen Process.start failingActs).filter
      (· ≠ .retrieve 1))).map Bare.reported = some [0, 1] := by decide

end AsyncViz.Instrumentation.Tasks
