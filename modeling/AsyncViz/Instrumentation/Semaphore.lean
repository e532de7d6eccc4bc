/-
  AsyncViz.Instrumentation.Semaphore

  `SemaphoreInstrumentationEngine` (`instrumentation/semaphore/semaphore_patch.py`) on the
  two semaphore classes of asyncio.

  A method is a value: the interpreter's own, or a closure over the method it was patched
  over.  A class resolves a name in its own attributes, then in its parent's, and
  `BoundedSemaphore` has no `acquire` of its own.  `patch()` goes through the two classes
  one after the other, so what it finds for `BoundedSemaphore.acquire` is what it has just
  put on `Semaphore`.

  All emit flags are on and no semaphore is marked internal; contention events are left
  out.  Which waiter an original `acquire` serves next does not matter here: a pending
  call completes at any time the semaphore has a permit, or is cancelled.
-/

import AsyncViz.Lib.Dict
import AsyncViz.Lib.Transition

namespace AsyncViz.Instrumentation.Semaphore

open AsyncViz.Lib AsyncViz.Lib.Transition

/-! ## Methods and classes -/

/-- `PATCHED_CLASSES`. -/
inductive SemaphoreClass where
  | semaphore
  | boundedSemaphore
deriving DecidableEq, Repr

/-- The patched names. -/
inductive Method where
  | init
  | acquire
  | release
deriving DecidableEq, Repr

/-- A method as an object: one of asyncio's, or a wrapper over `captured`, the `_orig_*` of
    its closure.  Every run of the loop in `patch()` makes wrappers of its own. -/
inductive Fn where
  | original (cls : SemaphoreClass) (method : Method)
  | patched (serial : Nat) (method : Method) (captured : Fn)
deriving DecidableEq, Repr

/-- The wrappers around the original. -/
def Fn.layers : Fn → Nat
  | .original _ _ => 0
  | .patched _ _ captured => captured.layers + 1

/-- The attributes that the classes have themselves. -/
abbrev Classes := SemaphoreClass → Method → Option Fn

namespace Classes

/-- The classes as asyncio defines them. -/
def pristine : Classes
  | .semaphore, method => some (.original .semaphore method)
  | .boundedSemaphore, .acquire => none
  | .boundedSemaphore, method => some (.original .boundedSemaphore method)

/-- `getattr(cls, name)`. -/
def resolve (classes : Classes) : SemaphoreClass → Method → Option Fn
  | .semaphore, method => classes .semaphore method
  | .boundedSemaphore, method =>
    (classes .boundedSemaphore method).or (classes .semaphore method)

/-- `setattr(cls, name, fn)` for every name that `fns` has. -/
def setAll (classes : Classes) (cls : SemaphoreClass) (fns : Method → Option Fn) : Classes :=
  fun cls' method => if cls' = cls then (fns method).or (classes cls' method)
    else classes cls' method

/-- One round of the loop in `patch()`: the classes it leaves and the originals it saves. -/
def patchClass (classes : Classes) (serial : Nat) (cls : SemaphoreClass) :
    Classes × (Method → Option Fn) :=
  let originals := classes.resolve cls
  (classes.setAll cls fun method => (originals method).map (.patched serial method), originals)

end Classes

/-! ## Calls -/

/-- What the engine publishes. -/
inductive Event where
  | created
  | acquireStarted
  | acquired
  | waitCancelled
  | released
deriving DecidableEq, Repr

/-- A semaphore; `bound` is `_bound_value` of a `BoundedSemaphore`. -/
structure Sem where
  cls : SemaphoreClass
  value : Nat
  bound : Nat
deriving DecidableEq, Repr

/-- The events of an `acquire` up to its suspension, outermost wrapper first. -/
def startEvents : Fn → List Event
  | .original _ _ => []
  | .patched _ _ captured => .acquireStarted :: startEvents captured

/-- The events of an `acquire` that ends with `last`, innermost wrapper first. -/
def endEvents (last : Event) : Fn → List Event
  | .original _ _ => []
  | .patched _ _ captured => endEvents last captured ++ [last]

/-- What a `release` does. -/
structure Released where
  raised : Bool
  sem : Sem
  events : List Event
deriving DecidableEq, Repr

/-- A call of `release`; `superRelease` is `super().release()` of the bounded original. -/
def runRelease (superRelease : Sem → Released) : Fn → Sem → Released
  | .original .semaphore _, sem => ⟨false, { sem with value := sem.value + 1 }, []⟩
  | .original .boundedSemaphore _, sem =>
    if sem.bound ≤ sem.value then ⟨true, sem, []⟩ else superRelease sem
  | .patched _ _ captured, sem =>
    -- the `finally` arm emits for a call that raises, too
    let released := runRelease superRelease captured sem
    { released with events := released.events ++ [.released] }

/-- `release` as `Semaphore` has it; it is never a bounded original. -/
def baseRelease (fn : Fn) (sem : Sem) : Released := runRelease (fun sem => ⟨true, sem, []⟩) fn sem

/-- The events of a construction; `superInit` are those of `super().__init__()` of the bounded
    original.  Within a patched `__init__` every other one stays silent. -/
def initEvents (superInit : List Event) : Fn → List Event
  | .original .semaphore _ => []
  | .original .boundedSemaphore _ => superInit
  | .patched _ _ _ => [.created]

/-! ## The engine and its runs -/

/-- Where a call stands. -/
inductive CallState where
  | pending (fn : Fn)
  | completed
  | cancelled
  | raised
deriving DecidableEq, Repr

/-- A call of one of the methods; `patched` says that the engine was, when it was made. -/
structure Call where
  method : Method
  sem : Nat
  patched : Bool
  state : CallState
deriving DecidableEq, Repr

/-- The classes, the engine (`_patched`, `_originals`), the semaphores, and what has been
    called and published: each event under the call it belongs to. -/
structure World where
  classes : Classes
  patched : Bool
  originals : List (SemaphoreClass × (Method → Option Fn))
  serial : Nat
  sems : Dict Nat Sem
  calls : Dict Nat Call
  events : List (Nat × Event)

namespace World

/-- Before the first `patch()`. -/
def start : World := ⟨.pristine, false, [], 0, .empty, .empty, []⟩

/-- What happens: the engine's calls, constructions, and the calls of the program, each with
    an id of its own. -/
inductive Action where
  | patch
  | unpatch
  | construct (call sem : Nat) (cls : SemaphoreClass) (value : Nat)
  | acquire (call sem : Nat)
  | complete (call : Nat)
  | cancel (call : Nat)
  | release (call sem : Nat)
deriving DecidableEq, Repr

/-- `engine.patch()`. -/
def patch (w : World) : World :=
  if w.patched then w
  else
    let (classes, baseOriginals) := w.classes.patchClass w.serial .semaphore
    let (classes, boundedOriginals) := classes.patchClass (w.serial + 1) .boundedSemaphore
    { w with
      classes := classes
      patched := true
      originals := [(.semaphore, baseOriginals), (.boundedSemaphore, boundedOriginals)]
      serial := w.serial + 2 }

/-- `engine.unpatch()`. -/
def unpatch (w : World) : World :=
  if w.patched then
    { w with
      classes := w.originals.foldl (fun classes p => classes.setAll p.1 p.2) w.classes
      patched := false
      originals := [] }
  else w

/-- The events `published` by `call`. -/
def publish (w : World) (call : Nat) (published : List Event) : World :=
  { w with events := w.events ++ published.map fun event => (call, event) }

/-- A call with its id, as far as it has got. -/
def record (w : World) (call : Nat) (method : Method) (sem : Nat) (state : CallState) : World :=
  { w with calls := w.calls.set call ⟨method, sem, w.patched, state⟩ }

/-- One step. -/
def step (w : World) : Action → Option World
  | .patch => some w.patch
  | .unpatch => some w.unpatch
  | .construct call sem cls value => do
    if call ∈ w.calls ∨ sem ∈ w.sems then none
    else
      let fn ← w.classes.resolve cls .init
      let base ← w.classes.resolve .semaphore .init
      let w := { w with sems := w.sems.set sem ⟨cls, value, value⟩ }
      return (w.publish call (initEvents (initEvents [] base) fn)).record call .init sem .completed
  | .acquire call sem => do
    if call ∈ w.calls then none
    else
      let object ← w.sems.get? sem
      let fn ← w.classes.resolve object.cls .acquire
      return (w.publish call (startEvents fn)).record call .acquire sem (.pending fn)
  | .complete call => do
    let pending ← w.calls.get? call
    let object ← w.sems.get? pending.sem
    match pending.state, object.value with
    | .pending fn, value + 1 =>
      return { w.publish call (endEvents .acquired fn) with
        sems := w.sems.set pending.sem { object with value := value }
        calls := w.calls.set call { pending with state := .completed } }
    | _, _ => none
  | .cancel call => do
    let pending ← w.calls.get? call
    match pending.state with
    | .pending fn =>
      return { w.publish call (endEvents .waitCancelled fn) with
        calls := w.calls.set call { pending with state := .cancelled } }
    | _ => none
  | .release call sem => do
    if call ∈ w.calls then none
    else
      let object ← w.sems.get? sem
      let fn ← w.classes.resolve object.cls .release
      let base ← w.classes.resolve .semaphore .release
      let released := runRelease (baseRelease base) fn object
      let w := { w with sems := w.sems.set sem released.sem }
      return (w.publish call released.events).record call .release sem
        (if released.raised then .raised else .completed)

/-! ## What is promised -/

/-- How often a call should have published an event: the acquire events once each, the end
    that it came to, and `released` for a release that has not raised.  A call that was made
    while the engine was not patched publishes nothing. -/
def Call.expected (call : Call) (event : Event) : Nat :=
  if call.patched = false then 0
  else
    match call.method, event with
    | .init, .created => 1
    | .acquire, .acquireStarted => 1
    | .acquire, .acquired => if call.state = .completed then 1 else 0
    | .acquire, .waitCancelled => if call.state = .cancelled then 1 else 0
    | .release, .released => if call.state = .completed then 1 else 0
    | _, _ => 0

/-- How often `call` has published `event`. -/
def published (w : World) (call : Nat) (event : Event) : Nat := w.events.count (call, event)

/-- Every call has published what it should, and with the engine unpatched both classes
    resolve every name as before the first patch. -/
structure Faithful (w : World) : Prop where
  calls : ∀ id call, w.calls.get? id = some call → ∀ event,
    w.published id event = Call.expected call event
  restored : w.patched = false → ∀ cls method,
    w.classes.resolve cls method = Classes.pristine.resolve cls method

/-- While patched the program keeps to `Semaphore`, and the engine stays patched. -/
def Plain (w : World) : Action → Prop
  | .acquire _ sem | .release _ sem =>
    w.patched = true → ∀ object, w.sems.get? sem = some object → object.cls = .semaphore
  | .unpatch => w.patched = false
  | _ => True

/-- A call to a semaphore that is there. -/
theorem plain_call_iff {w : World} {sem : Nat} {object : Sem}
    (hsem : w.sems.get? sem = some object) :
    (w.patched = true → ∀ object', w.sems.get? sem = some object' → object'.cls = .semaphore) ↔
      (w.patched = true → object.cls = .semaphore) := by
  constructor
  · exact fun hplain hpatched => hplain hpatched object hsem
  · intro hplain hpatched object' hsem'
    rw [hsem] at hsem'
    cases hsem'
    exact hplain hpatched

/-! ## What the engine does to the classes -/

/-- The classes while patched; `captured` is what stands behind `BoundedSemaphore.acquire`. -/
def patchedOver (serial : Nat) (captured : Fn) : Classes
  | .semaphore, method => some (.patched serial method (.original .semaphore method))
  | .boundedSemaphore, .acquire => some (.patched (serial + 1) .acquire captured)
  | .boundedSemaphore, method =>
    some (.patched (serial + 1) method (.original .boundedSemaphore method))

/-- The classes after that: `BoundedSemaphore` has got an `acquire` of its own. -/
def leftBehind (captured : Fn) : Classes
  | .boundedSemaphore, .acquire => some captured
  | cls, method => Classes.pristine cls method

/-- What `patch()` saves of `BoundedSemaphore`. -/
def boundedOriginals (captured : Fn) : Method → Option Fn
  | .acquire => some captured
  | method => some (.original .boundedSemaphore method)

/-- The originals that `patch()` saves. -/
def savedOver (captured : Fn) : List (SemaphoreClass × (Method → Option Fn)) :=
  [(.semaphore, fun method => some (.original .semaphore method)),
    (.boundedSemaphore, boundedOriginals captured)]

/-- Where the engine can have got the classes to. -/
inductive Installed (w : World) : Prop where
  | never (hpatched : w.patched = false) (hclasses : w.classes = .pristine)
  | patched (serial : Nat) (captured : Fn) (hlayers : 0 < captured.layers)
      (hpatched : w.patched = true) (hclasses : w.classes = patchedOver serial captured)
      (horiginals : w.originals = savedOver captured)
  | removed (captured : Fn) (hlayers : 0 < captured.layers) (hpatched : w.patched = false)
      (hclasses : w.classes = leftBehind captured)

theorem patch_of_patched {w : World} (h : w.patched = true) : w.patch = w := if_pos h

theorem unpatch_of_unpatched {w : World} (h : w.patched = false) : w.unpatch = w := by
  rw [unpatch, h]
  rfl

/-- Patching classes whose `Semaphore` has its originals: `captured` is what
    `BoundedSemaphore.acquire` resolves to once `Semaphore` is patched. -/
theorem patch_unpatched {w : World} {captured : Fn} (hpatched : w.patched = false)
    (hsemaphore : ∀ method, w.classes .semaphore method = some (.original .semaphore method))
    (hbounded : ∀ method, (w.classes .boundedSemaphore method).or
        (some (.patched w.serial method (.original .semaphore method)))
      = boundedOriginals captured method) :
    w.patch = { w with
      classes := patchedOver w.serial captured
      patched := true
      originals := savedOver captured
      serial := w.serial + 2 } := by
  -- What the first round leaves, and what the second one resolves over it.
  have hfirst : ∀ method, (w.classes.patchClass w.serial .semaphore).1 .semaphore method
      = some (.patched w.serial method (.original .semaphore method)) := by
    intro method
    simp [Classes.patchClass, Classes.setAll, Classes.resolve, hsemaphore]
  have hsecond : (w.classes.patchClass w.serial .semaphore).1.resolve .boundedSemaphore
      = boundedOriginals captured := by
    funext method
    rw [Classes.resolve, hfirst, ← hbounded]
    rfl
  rw [patch, if_neg (by simp [hpatched])]
  simp only [World.mk.injEq, true_and, and_true, savedOver, List.cons.injEq, Prod.mk.injEq]
  refine ⟨?_, ?_, hsecond⟩
  · funext cls method
    cases cls with
    | semaphore => exact hfirst method
    | boundedSemaphore =>
      rw [Classes.patchClass, hsecond]
      cases method <;> rfl
  · funext method
    exact hsemaphore method

/-- Patching classes that were never patched: the wrapper of `Semaphore.acquire` is what
    `BoundedSemaphore.acquire` resolves to by then. -/
theorem patch_pristine {w : World} (hpatched : w.patched = false)
    (hclasses : w.classes = .pristine) :
    w.patch = { w with
      classes := patchedOver w.serial (.patched w.serial .acquire (.original .semaphore .acquire))
      patched := true
      originals := savedOver (.patched w.serial .acquire (.original .semaphore .acquire))
      serial := w.serial + 2 } := by
  refine patch_unpatched hpatched (fun method => ?_) fun method => ?_
  · rw [hclasses]
    rfl
  · rw [hclasses]
    cases method <;> rfl

/-- Patching them again. -/
theorem patch_leftBehind {w : World} {captured : Fn} (hpatched : w.patched = false)
    (hclasses : w.classes = leftBehind captured) :
    w.patch = { w with
      classes := patchedOver w.serial captured
      patched := true
      originals := savedOver captured
      serial := w.serial + 2 } := by
  refine patch_unpatched hpatched (fun method => ?_) fun method => ?_
  · rw [hclasses]
    rfl
  · rw [hclasses]
    cases method <;> rfl

/-- Unpatching sets what was captured as an attribute of `BoundedSemaphore`. -/
theorem unpatch_patchedOver {w : World} {serial : Nat} {captured : Fn}
    (hpatched : w.patched = true) (hclasses : w.classes = patchedOver serial captured)
    (horiginals : w.originals = savedOver captured) :
    w.unpatch = { w with classes := leftBehind captured, patched := false, originals := [] } := by
  rw [unpatch, hpatched, hclasses, horiginals]
  simp only [if_true, World.mk.injEq, and_true, savedOver, List.foldl_cons, List.foldl_nil]
  funext cls method
  cases cls <;> cases method <;> rfl

/-! ## Expected events -/

/-- An acquire that ends adds the event of its end, once while patched. -/
theorem expected_ended {pending : Call} {fn : Fn} {last : Event} {state : CallState}
    (hmethod : pending.method = .acquire) (hpending : pending.state = .pending fn)
    (hlayers : fn.layers = Call.expected pending .acquireStarted)
    (hlast : last = .acquired ∧ state = .completed ∨ last = .waitCancelled ∧ state = .cancelled)
    (event : Event) :
    Call.expected pending event + (if event = last then fn.layers else 0)
      = Call.expected { pending with state := state } event := by
  obtain ⟨method, sem, patched, before⟩ := pending
  cases hmethod
  cases hpending
  rw [hlayers]
  cases patched with
  | false =>
    have hnothing : ∀ state event, Call.expected ⟨.acquire, sem, false, state⟩ event = 0 :=
      fun _ _ => if_pos rfl
    rw [hnothing, hnothing, hnothing, ite_self]
  | true =>
    rcases hlast with ⟨rfl, rfl⟩ | ⟨rfl, rfl⟩
    · cases event <;> rfl
    · cases event <;> rfl

/-! ## Event counts -/

variable {w w' : World}

@[simp] theorem published_publish_self (w : World) (call : Nat) (published' : List Event)
    (event : Event) :
    (w.publish call published').published call event
      = w.published call event + published'.count event := by
  rw [published, publish, List.count_append, published]
  congr 1
  rw [List.count_eq_countP, List.countP_map, List.count_eq_countP]
  congr 1
  funext x
  simp

theorem published_publish_of_ne {call call' : Nat} (hne : call' ≠ call)
    (published' : List Event) (event : Event) :
    (w.publish call published').published call' event = w.published call' event := by
  have hnone : (published'.map fun x => (call, x)).count (call', event) = 0 := by
    rw [List.count_eq_zero]
    intro hmem
    obtain ⟨x, -, hx⟩ := List.mem_map.mp hmem
    exact hne (congrArg Prod.fst hx).symm
  rw [published, publish, List.count_append, hnone, Nat.add_zero, published]

theorem count_startEvents (fn : Fn) (event : Event) :
    (startEvents fn).count event = if event = .acquireStarted then fn.layers else 0 := by
  induction fn with
  | original cls method => cases event <;> rfl
  | patched serial method captured ih =>
    rw [startEvents, List.count_cons, ih]
    cases event <;> rfl

theorem count_endEvents (last : Event) (fn : Fn) (event : Event) :
    (endEvents last fn).count event = if event = last then fn.layers else 0 := by
  induction fn with
  | original cls method => cases event <;> cases last <;> rfl
  | patched serial method captured ih =>
    rw [endEvents, List.count_append, ih, List.count_singleton]
    by_cases hlast : event = last
    · simp [hlast, Fn.layers]
    · simp [hlast, Ne.symm hlast]

/-- A call that is under way has published one start for every wrapper it runs in, and
    nothing else; without a call there is no event. -/
structure Tallied (w : World) : Prop where
  absent : ∀ id, id ∉ w.calls → ∀ event, w.published id event = 0
  pending : ∀ id call fn, w.calls.get? id = some call → call.state = .pending fn →
    call.method = .acquire ∧
      ∀ event, w.published id event = if event = .acquireStarted then fn.layers else 0

/-- The rule for a step that is one call's: it is the only one whose events and whose record
    change. -/
structure Moves (w w' : World) (id : Nat) (call : Call) (events : List Event) : Prop where
  calls : w'.calls = w.calls.set id call
  events : ∀ id' event, w'.published id' event
    = w.published id' event + if id' = id then events.count event else 0

theorem moves_publish {w₀ : World} {id : Nat} {call : Call} {events : List Event}
    (hcalls : w'.calls = w.calls.set id call) (hevents : w'.events = (w₀.publish id events).events)
    (hsame : w₀.events = w.events) : Moves w w' id call events := by
  refine ⟨hcalls, fun id' event => ?_⟩
  have hcount : w'.published id' event = (w.publish id events).published id' event := by
    rw [published, hevents, published, publish, publish, hsame]
  rw [hcount]
  by_cases hid : id' = id
  · rw [hid, if_pos rfl, published_publish_self]
  · rw [if_neg hid, Nat.add_zero, published_publish_of_ne hid]

/-- Such a step keeps the tally if it keeps that of its call. -/
theorem Tallied.moves (h : Tallied w) {id : Nat} {call : Call} {events : List Event}
    (hmoves : Moves w w' id call events)
    (hcall : ∀ fn, call.state = .pending fn → call.method = .acquire ∧
      ∀ event, w'.published id event = if event = .acquireStarted then fn.layers else 0) :
    Tallied w' := by
  refine ⟨fun id' hnot event => ?_, fun id' call' fn hget hstate => ?_⟩
  · rw [hmoves.calls, Dict.mem_set_iff, not_or] at hnot
    rw [hmoves.events, if_neg hnot.1, Nat.add_zero]
    exact h.absent id' hnot.2 event
  · rw [hmoves.calls, Dict.get?_set] at hget
    by_cases hid : id' = id
    · rw [if_pos hid] at hget
      cases hget
      rw [hid]
      exact hcall fn hstate
    · rw [if_neg hid] at hget
      obtain ⟨hmethod, hcount⟩ := h.pending id' call' fn hget hstate
      refine ⟨hmethod, fun event => ?_⟩
      rw [hmoves.events, if_neg hid, Nat.add_zero]
      exact hcount event

/-- Such a step keeps faith if its call does. -/
theorem Moves.calls_iff {id : Nat} {call : Call} {events : List Event}
    (hmoves : Moves w w' id call events)
    (h : ∀ id' call', w.calls.get? id' = some call' → ∀ event,
      w.published id' event = Call.expected call' event) :
    (∀ id' call', w'.calls.get? id' = some call' → ∀ event,
        w'.published id' event = Call.expected call' event) ↔
      ∀ event, w'.published id event = Call.expected call event := by
  constructor
  · intro hall
    refine hall id call ?_
    rw [hmoves.calls]
    exact Dict.get?_set_self _ _ _
  · intro hone id' call' hget event
    rw [hmoves.calls, Dict.get?_set] at hget
    by_cases hid : id' = id
    · rw [if_pos hid] at hget
      cases hget
      rw [hid]
      exact hone event
    · rw [if_neg hid] at hget
      rw [hmoves.events, if_neg hid, Nat.add_zero]
      exact h id' call' hget event

/-! ## Soundness -/

/-- What every step keeps. -/
structure Sound (w : World) : Prop where
  installed : Installed w
  tallied : Tallied w

/-- A step that leaves the classes and the engine alone. -/
theorem Installed.congr (h : Installed w) (hclasses : w'.classes = w.classes)
    (hpatched : w'.patched = w.patched) (horiginals : w'.originals = w.originals) :
    Installed w' := by
  cases h with
  | never hp hc => exact .never (hpatched.trans hp) (hclasses.trans hc)
  | patched serial captured hlayers hp hc ho =>
    exact .patched serial captured hlayers (hpatched.trans hp) (hclasses.trans hc)
      (horiginals.trans ho)
  | removed captured hlayers hp hc =>
    exact .removed captured hlayers (hpatched.trans hp) (hclasses.trans hc)

theorem Installed.patch (h : Installed w) : Installed w.patch := by
  cases h with
  | never hp hc =>
    rw [patch_pristine hp hc]
    have hlayers : 0 < (Fn.patched w.serial .acquire (.original .semaphore .acquire)).layers :=
      Nat.one_pos
    exact .patched _ _ hlayers rfl rfl rfl
  | patched serial captured hlayers hp hc ho =>
    rw [patch_of_patched hp]
    exact .patched serial captured hlayers hp hc ho
  | removed captured hlayers hp hc =>
    rw [patch_leftBehind hp hc]
    exact .patched _ _ hlayers rfl rfl rfl

theorem Installed.unpatch (h : Installed w) : Installed w.unpatch := by
  cases h with
  | never hp hc =>
    rw [unpatch_of_unpatched hp]
    exact .never hp hc
  | patched serial captured hlayers hp hc ho =>
    rw [unpatch_patchedOver hp hc ho]
    exact .removed captured hlayers rfl rfl
  | removed captured hlayers hp hc =>
    rw [unpatch_of_unpatched hp]
    exact .removed captured hlayers hp hc

/-- What a name resolves to while patched. -/
theorem Installed.resolve_patched (h : Installed w) (hpatched : w.patched = true) :
    ∃ serial captured, 0 < captured.layers ∧ w.classes = patchedOver serial captured := by
  cases h with
  | never hp => exact absurd (hp.symm.trans hpatched) Bool.false_ne_true
  | patched serial captured hlayers _ hc _ => exact ⟨serial, captured, hlayers, hc⟩
  | removed _ _ hp => exact absurd (hp.symm.trans hpatched) Bool.false_ne_true

/-- The call that a step makes or moves. -/
inductive Stepped (w : World) : Action → World → Prop where
  | patched : Stepped w .patch w.patch
  | unpatched : Stepped w .unpatch w.unpatch
  | constructed (call sem : Nat) (cls : SemaphoreClass) (value : Nat) (fn base : Fn)
      (hfresh : call ∉ w.calls) (hfn : w.classes.resolve cls .init = some fn)
      (hbase : w.classes.resolve .semaphore .init = some base) (w' : World)
      (hmoves : Moves w w' call ⟨.init, sem, w.patched, .completed⟩
        (initEvents (initEvents [] base) fn))
      (hsame : w'.classes = w.classes ∧ w'.patched = w.patched ∧ w'.originals = w.originals) :
      Stepped w (.construct call sem cls value) w'
  | acquired (call sem : Nat) (object : Sem) (fn : Fn) (hfresh : call ∉ w.calls)
      (hsem : w.sems.get? sem = some object)
      (hfn : w.classes.resolve object.cls .acquire = some fn) (w' : World)
      (hmoves : Moves w w' call ⟨.acquire, sem, w.patched, .pending fn⟩ (startEvents fn))
      (hsame : w'.classes = w.classes ∧ w'.patched = w.patched ∧ w'.originals = w.originals) :
      Stepped w (.acquire call sem) w'
  | completed (call : Nat) (pending : Call) (fn : Fn) (hget : w.calls.get? call = some pending)
      (hpending : pending.state = .pending fn) (w' : World)
      (hmoves : Moves w w' call { pending with state := .completed } (endEvents .acquired fn))
      (hsame : w'.classes = w.classes ∧ w'.patched = w.patched ∧ w'.originals = w.originals) :
      Stepped w (.complete call) w'
  | cancelled (call : Nat) (pending : Call) (fn : Fn) (hget : w.calls.get? call = some pending)
      (hpending : pending.state = .pending fn) (w' : World)
      (hmoves : Moves w w' call { pending with state := .cancelled }
        (endEvents .waitCancelled fn))
      (hsame : w'.classes = w.classes ∧ w'.patched = w.patched ∧ w'.originals = w.originals) :
      Stepped w (.cancel call) w'
  | released (call sem : Nat) (object : Sem) (fn base : Fn) (hfresh : call ∉ w.calls)
      (hsem : w.sems.get? sem = some object)
      (hfn : w.classes.resolve object.cls .release = some fn)
      (hbase : w.classes.resolve .semaphore .release = some base) (w' : World)
      (hmoves : Moves w w' call ⟨.release, sem, w.patched,
        if (runRelease (baseRelease base) fn object).raised then .raised else .completed⟩
        (runRelease (baseRelease base) fn object).events)
      (hsame : w'.classes = w.classes ∧ w'.patched = w.patched ∧ w'.originals = w.originals) :
      Stepped w (.release call sem) w'

theorem stepped_of_step {a : Action} (hstep : step w a = some w') : Stepped w a w' := by
  cases a with
  | patch =>
    cases hstep
    exact .patched
  | unpatch =>
    cases hstep
    exact .unpatched
  | construct call sem cls value =>
    simp only [step] at hstep
    split at hstep
    · cases hstep
    next hfresh =>
      obtain ⟨fn, hfn, hrest⟩ := Option.bind_eq_some_iff.mp hstep
      obtain ⟨base, hbase, heq⟩ := Option.bind_eq_some_iff.mp hrest
      cases heq
      exact .constructed call sem cls value fn base (fun hin => hfresh (.inl hin)) hfn hbase _
        (moves_publish rfl rfl rfl) ⟨rfl, rfl, rfl⟩
  | acquire call sem =>
    simp only [step] at hstep
    split at hstep
    · cases hstep
    next hfresh =>
      obtain ⟨object, hsem, hrest⟩ := Option.bind_eq_some_iff.mp hstep
      obtain ⟨fn, hfn, heq⟩ := Option.bind_eq_some_iff.mp hrest
      cases heq
      exact .acquired call sem object fn hfresh hsem hfn _ (moves_publish rfl rfl rfl)
        ⟨rfl, rfl, rfl⟩
  | complete call =>
    obtain ⟨pending, hget, hrest⟩ := Option.bind_eq_some_iff.mp hstep
    obtain ⟨object, -, hmatch⟩ := Option.bind_eq_some_iff.mp hrest
    split at hmatch
    next fn value hstate hvalue =>
      cases hmatch
      exact .completed call pending fn hget hstate _ (moves_publish rfl rfl rfl) ⟨rfl, rfl, rfl⟩
    next => cases hmatch
  | cancel call =>
    obtain ⟨pending, hget, hmatch⟩ := Option.bind_eq_some_iff.mp hstep
    split at hmatch
    next fn hstate =>
      cases hmatch
      exact .cancelled call pending fn hget hstate _ (moves_publish rfl rfl rfl) ⟨rfl, rfl, rfl⟩
    next => cases hmatch
  | release call sem =>
    simp only [step] at hstep
    split at hstep
    · cases hstep
    next hfresh =>
      obtain ⟨object, hsem, hrest⟩ := Option.bind_eq_some_iff.mp hstep
      obtain ⟨fn, hfn, hrest⟩ := Option.bind_eq_some_iff.mp hrest
      obtain ⟨base, hbase, heq⟩ := Option.bind_eq_some_iff.mp hrest
      cases heq
      exact .released call sem object fn base hfresh hsem hfn hbase _ (moves_publish rfl rfl rfl)
        ⟨rfl, rfl, rfl⟩

theorem Stepped.sound (h : Sound w) {a : Action} (hstep : Stepped w a w') : Sound w' := by
  have hinstalled : w'.classes = w.classes ∧ w'.patched = w.patched ∧
      w'.originals = w.originals → Installed w' :=
    fun hsame => h.installed.congr hsame.1 hsame.2.1 hsame.2.2
  cases hstep with
  | patched =>
    refine ⟨h.installed.patch, ?_⟩
    unfold World.patch
    split <;> exact ⟨h.tallied.absent, h.tallied.pending⟩
  | unpatched =>
    refine ⟨h.installed.unpatch, ?_⟩
    unfold World.unpatch
    split <;> exact ⟨h.tallied.absent, h.tallied.pending⟩
  | constructed call sem cls value fn base _ _ _ _ hmoves hsame =>
    exact ⟨hinstalled hsame, h.tallied.moves hmoves fun _ hstate => by cases hstate⟩
  | acquired call sem object fn hfresh _ _ _ hmoves hsame =>
    refine ⟨hinstalled hsame, h.tallied.moves hmoves fun fn' hstate => ⟨rfl, fun event => ?_⟩⟩
    cases hstate
    rw [hmoves.events, if_pos rfl, h.tallied.absent call hfresh, Nat.zero_add, count_startEvents]
  | completed call pending fn _ _ _ hmoves hsame =>
    exact ⟨hinstalled hsame, h.tallied.moves hmoves fun _ hstate => by cases hstate⟩
  | cancelled call pending fn _ _ _ hmoves hsame =>
    exact ⟨hinstalled hsame, h.tallied.moves hmoves fun _ hstate => by cases hstate⟩
  | released call sem object fn base _ _ _ _ _ hmoves hsame =>
    refine ⟨hinstalled hsame, h.tallied.moves hmoves fun _ hstate => ?_⟩
    change (if _ then CallState.raised else .completed) = _ at hstate
    split at hstate <;> cases hstate

/-! ## Exactness -/

/-- A construction publishes one `created` while patched. -/
theorem Installed.initEvents_eq (h : Installed w) {cls : SemaphoreClass} {fn base : Fn}
    (hfn : w.classes.resolve cls .init = some fn)
    (hbase : w.classes.resolve .semaphore .init = some base) :
    initEvents (initEvents [] base) fn = if w.patched then [.created] else [] := by
  cases h with
  | never hp hc =>
    rw [hc] at hfn hbase
    cases hbase
    cases cls <;> cases hfn <;> simp [initEvents, hp]
  | patched serial captured _ hp hc _ =>
    rw [hc] at hfn hbase
    cases cls <;> cases hfn <;> simp [initEvents, hp]
  | removed captured _ hp hc =>
    rw [hc] at hfn hbase
    cases hbase
    cases cls <;> cases hfn <;> simp [initEvents, hp]

/-- While patched an `acquire` runs in one wrapper on `Semaphore` and in more on
    `BoundedSemaphore`. -/
theorem Installed.layers_acquire (h : Installed w) (hpatched : w.patched = true)
    {cls : SemaphoreClass} {fn : Fn} (hfn : w.classes.resolve cls .acquire = some fn) :
    fn.layers = 1 ↔ cls = .semaphore := by
  obtain ⟨serial, captured, hlayers, hclasses⟩ := h.resolve_patched hpatched
  rw [hclasses] at hfn
  cases cls with
  | semaphore =>
    cases hfn
    exact iff_of_true rfl rfl
  | boundedSemaphore =>
    cases hfn
    refine iff_of_false (fun h => ?_) (by decide)
    change captured.layers + 1 = 1 at h
    omega

/-- While patched a `release` on `Semaphore` succeeds and publishes once.  On a
    `BoundedSemaphore` it publishes once where it raises and twice where it does not. -/
theorem Installed.release_patched (h : Installed w) (hpatched : w.patched = true) {object : Sem}
    {fn base : Fn} (hfn : w.classes.resolve object.cls .release = some fn)
    (hbase : w.classes.resolve .semaphore .release = some base) :
    (runRelease (baseRelease base) fn object).events.count .released
        = (if (runRelease (baseRelease base) fn object).raised then 0 else 1) ↔
      object.cls = .semaphore := by
  obtain ⟨serial, captured, -, hclasses⟩ := h.resolve_patched hpatched
  rw [hclasses] at hfn hbase
  cases hbase
  cases hcls : object.cls with
  | semaphore =>
    rw [hcls] at hfn
    cases hfn
    exact iff_of_true rfl rfl
  | boundedSemaphore =>
    rw [hcls] at hfn
    cases hfn
    refine iff_of_false (fun h => ?_) (by decide)
    simp only [runRelease, baseRelease] at h
    split at h <;> simp at h

/-- With the classes as they were a `release` publishes nothing. -/
theorem release_restored
    (h : ∀ cls method, w.classes.resolve cls method = Classes.pristine.resolve cls method)
    {object : Sem} {fn base : Fn} (hfn : w.classes.resolve object.cls .release = some fn)
    (hbase : w.classes.resolve .semaphore .release = some base) :
    (runRelease (baseRelease base) fn object).events = [] := by
  rw [h] at hfn hbase
  cases hbase
  cases hcls : object.cls with
  | semaphore =>
    rw [hcls] at hfn
    cases hfn
    rfl
  | boundedSemaphore =>
    rw [hcls] at hfn
    cases hfn
    simp only [runRelease, baseRelease]
    split <;> rfl

theorem layers_restored
    (h : ∀ cls method, w.classes.resolve cls method = Classes.pristine.resolve cls method)
    {cls : SemaphoreClass} {fn : Fn} (hfn : w.classes.resolve cls .acquire = some fn) :
    fn.layers = 0 := by
  rw [h] at hfn
  cases cls <;> cases hfn <;> rfl

/-- All that a release publishes is `released`. -/
theorem count_release_of_ne (base fn : Fn) (object : Sem) {event : Event}
    (hne : event ≠ .released) :
    (runRelease (baseRelease base) fn object).events.count event = 0 := by
  have hrun : ∀ (super : Sem → Released), (∀ sem, (super sem).events.count event = 0) →
      ∀ (fn : Fn) sem, (runRelease super fn sem).events.count event = 0 := by
    intro super hsuper fn
    induction fn with
    | original cls method =>
      intro sem
      cases cls with
      | semaphore => rfl
      | boundedSemaphore =>
        simp only [runRelease]
        split
        · rfl
        · exact hsuper sem
    | patched serial method captured ih =>
      intro sem
      simp only [runRelease, List.count_append, ih sem, List.count_singleton]
      simp [hne.symm]
  exact hrun _ (fun sem => hrun _ (fun _ => rfl) base sem) fn object

/-- Unpatching leaves a faithful world only where it does nothing: else the `acquire` that
    `BoundedSemaphore` is left with is a wrapper. -/
theorem Installed.faithful_unpatch_iff (h : Installed w) (hfaithful : Faithful w) :
    Faithful w.unpatch ↔ w.patched = false := by
  cases hp : w.patched with
  | false =>
    rw [unpatch_of_unpatched hp]
    exact iff_of_true hfaithful rfl
  | true =>
    refine iff_of_false (fun hbad => ?_) (by decide)
    cases h with
    | never hnot => exact absurd (hnot.symm.trans hp) Bool.false_ne_true
    | removed _ _ hnot => exact absurd (hnot.symm.trans hp) Bool.false_ne_true
    | patched serial captured hlayers _ hclasses horiginals =>
      rw [unpatch_patchedOver hp hclasses horiginals] at hbad
      have hresolve := hbad.restored rfl .boundedSemaphore .acquire
      cases hresolve
      exact absurd hlayers (Nat.lt_irrefl 0)

/-- What an `acquire` publishes as it starts is what it should. -/
theorem Installed.acquire_expected_iff (h : Installed w) (hfaithful : Faithful w)
    {cls : SemaphoreClass} {fn : Fn} (hfn : w.classes.resolve cls .acquire = some fn) (sem : Nat) :
    (∀ event, (startEvents fn).count event
        = Call.expected ⟨.acquire, sem, w.patched, .pending fn⟩ event) ↔
      (w.patched = true → cls = .semaphore) := by
  cases hp : w.patched with
  | false =>
    refine iff_of_true (fun event => ?_) (fun hpatched => absurd hpatched Bool.false_ne_true)
    rw [count_startEvents, layers_restored (hfaithful.restored hp) hfn]
    cases event <;> simp [Call.expected]
  | true =>
    have hlayers := h.layers_acquire hp hfn
    constructor
    · intro hall _
      have hstarted := hall .acquireStarted
      rw [count_startEvents, if_pos rfl] at hstarted
      exact hlayers.mp hstarted
    · intro hcls event
      rw [count_startEvents, hlayers.mpr (hcls rfl)]
      cases event <;> simp [Call.expected]

/-- What a `release` publishes is what it should. -/
theorem Installed.release_expected_iff (h : Installed w) (hfaithful : Faithful w) {object : Sem}
    {fn base : Fn} (hfn : w.classes.resolve object.cls .release = some fn)
    (hbase : w.classes.resolve .semaphore .release = some base) (sem : Nat) :
    (∀ event, (runRelease (baseRelease base) fn object).events.count event
        = Call.expected ⟨.release, sem, w.patched,
            if (runRelease (baseRelease base) fn object).raised then .raised else .completed⟩
          event) ↔
      (w.patched = true → object.cls = .semaphore) := by
  cases hp : w.patched with
  | false =>
    refine iff_of_true (fun event => ?_) (fun hpatched => absurd hpatched Bool.false_ne_true)
    rw [release_restored (hfaithful.restored hp) hfn hbase]
    rfl
  | true =>
    have hreleased := h.release_patched hp hfn hbase
    have hexpected : Call.expected ⟨.release, sem, true,
        if (runRelease (baseRelease base) fn object).raised then .raised else .completed⟩
          .released = if (runRelease (baseRelease base) fn object).raised then 0 else 1 := by
      cases (runRelease (baseRelease base) fn object).raised <;> rfl
    constructor
    · intro hall _
      have hone := hall .released
      rw [hexpected] at hone
      exact hreleased.mp hone
    · intro hcls event
      by_cases hevent : event = .released
      · rw [hevent, hexpected]
        exact hreleased.mpr (hcls rfl)
      · rw [count_release_of_ne base fn object hevent]
        cases event <;> first | rfl | exact absurd rfl hevent

/-- What a pending `acquire` has published, once it ends, is what it should be. -/
theorem Sound.ended_expected (h : Sound w) (hfaithful : Faithful w) {id : Nat} {call : Call}
    {fn : Fn} (hget : w.calls.get? id = some call) (hpending : call.state = .pending fn)
    {state : CallState} {ending : Event}
    (hending : ending = .acquired ∧ state = .completed ∨
      ending = .waitCancelled ∧ state = .cancelled) (event : Event) :
    w.published id event + (endEvents ending fn).count event
      = Call.expected { call with state := state } event := by
  obtain ⟨hmethod, htally⟩ := h.tallied.pending id call fn hget hpending
  have hold := hfaithful.calls id call hget
  have hlayers := (htally .acquireStarted).symm.trans (hold .acquireStarted)
  rw [hold, count_endEvents]
  exact expected_ended hmethod hpending hlayers hending event

/-- From a faithful world a step leads to a faithful one exactly if it is plain. -/
theorem Stepped.faithful_iff (h : Sound w) (hfaithful : Faithful w) {a : Action}
    (hstep : Stepped w a w') : Faithful w' ↔ Plain w a := by
  have hrestored : w'.classes = w.classes ∧ w'.patched = w.patched ∧
      w'.originals = w.originals → w'.patched = false → ∀ cls method,
        w'.classes.resolve cls method = Classes.pristine.resolve cls method := by
    rintro ⟨hclasses, hpatched, -⟩ hunpatched
    rw [hclasses]
    exact hfaithful.restored (hpatched.symm.trans hunpatched)
  -- a step of one call keeps faith if that call does
  have hone : ∀ {id : Nat} {call : Call} {events : List Event}, Moves w w' id call events →
      w'.classes = w.classes ∧ w'.patched = w.patched ∧ w'.originals = w.originals →
      (Faithful w' ↔
        ∀ event, w.published id event + events.count event = Call.expected call event) := by
    intro id call events hmoves hsame
    have hcount : ∀ event, w'.published id event = w.published id event + events.count event :=
      fun event => by rw [hmoves.events, if_pos rfl]
    simp only [← hcount]
    rw [← hmoves.calls_iff hfaithful.calls]
    exact ⟨fun h' => h'.calls, fun hcalls => ⟨hcalls, hrestored hsame⟩⟩
  have hnew : ∀ {id : Nat} {call : Call} {events : List Event}, id ∉ w.calls →
      Moves w w' id call events →
      w'.classes = w.classes ∧ w'.patched = w.patched ∧ w'.originals = w.originals →
      (Faithful w' ↔ ∀ event, events.count event = Call.expected call event) := by
    intro id call events hfresh hmoves hsame
    rw [hone hmoves hsame]
    exact forall_congr' fun event => by rw [h.tallied.absent id hfresh, Nat.zero_add]
  cases hstep with
  | patched =>
    refine iff_of_true ?_ trivial
    unfold World.patch
    split
    · exact hfaithful
    · exact ⟨hfaithful.calls, fun hp => absurd hp.symm Bool.false_ne_true⟩
  | unpatched => exact h.installed.faithful_unpatch_iff hfaithful
  | constructed call sem cls value fn base hfresh hfn hbase _ hmoves hsame =>
    rw [hnew hfresh hmoves hsame]
    refine iff_of_true (fun event => ?_) trivial
    rw [h.installed.initEvents_eq hfn hbase]
    cases hp : w.patched <;> cases event <;> simp [Call.expected]
  | acquired call sem object fn hfresh hsem hfn _ hmoves hsame =>
    rw [hnew hfresh hmoves hsame, h.installed.acquire_expected_iff hfaithful hfn]
    exact (plain_call_iff hsem).symm
  | completed call pending fn hget hpending _ hmoves hsame =>
    rw [hone hmoves hsame]
    exact iff_of_true (h.ended_expected hfaithful hget hpending (.inl ⟨rfl, rfl⟩)) trivial
  | cancelled call pending fn hget hpending _ hmoves hsame =>
    rw [hone hmoves hsame]
    exact iff_of_true (h.ended_expected hfaithful hget hpending (.inr ⟨rfl, rfl⟩)) trivial
  | released call sem object fn base hfresh hsem hfn hbase _ hmoves hsame =>
    rw [hnew hfresh hmoves hsame, h.installed.release_expected_iff hfaithful hfn hbase]
    exact (plain_call_iff hsem).symm

/-! ## Runs -/

theorem sound_start : Sound start := by
  refine ⟨.never rfl rfl, fun id _ event => rfl, fun id call fn hget => ?_⟩
  cases hget

theorem faithful_start : Faithful start := by
  refine ⟨fun id call hget => ?_, fun _ cls method => rfl⟩
  cases hget

/-- A run is faithful in every state exactly if every step of it is plain. -/
theorem faithful_iff_plain (acts : List Action) (hrun : exec step start acts = some w') :
    AllStates step Faithful start acts ↔ AllSteps step Plain start acts :=
  allStates_iff_allSteps (J := Sound) (fun _ _ _ hs hstep => (stepped_of_step hstep).sound hs)
    (fun _ _ _ hs hfaithful hstep => (stepped_of_step hstep).faithful_iff hs hfaithful)
    sound_start faithful_start hrun

/-- One permit of a `BoundedSemaphore` is acquired and released, and released once too often;
    then the engine is unpatched, and it is acquired again. -/
def boundedRun : List Action :=
  [.patch, .construct 0 0 .boundedSemaphore 1, .acquire 1 0, .complete 1, .release 2 0,
    .release 3 0, .unpatch, .acquire 4 0]

/-- Both wrappers publish, the release that raises does so too, and the inner wrapper outlives
    the engine. -/
theorem not_faithful_boundedRun :
    ∃ w, exec step start boundedRun = some w ∧ w.published 1 .acquireStarted = 2 ∧
      w.published 1 .acquired = 2 ∧ w.published 2 .released = 2 ∧
      (w.calls.get? 3).map (fun call => call.state) = some .raised ∧ w.published 3 .released = 1 ∧
      w.patched = false ∧ w.published 4 .acquireStarted = 1 ∧
      w.classes.resolve .boundedSemaphore .acquire
        = some (.patched 0 .acquire (.original .semaphore .acquire)) ∧ ¬ Faithful w := by
  refine ⟨_, rfl, rfl, rfl, rfl, rfl, rfl, rfl, rfl, rfl, fun hfaithful => ?_⟩
  exact absurd (hfaithful.restored rfl .boundedSemaphore .acquire) (by decide)

/-- A `Semaphore` while patched: one wait is cancelled, one is not and releases. -/
def plainRun : List Action :=
  [.construct 0 0 .boundedSemaphore 1, .acquire 1 0, .complete 1, .patch,
    .construct 2 1 .semaphore 1, .acquire 3 1, .cancel 3, .acquire 4 1, .complete 4, .release 5 1]

theorem faithful_plainRun : AllStates step Faithful start plainRun := by
  refine (faithful_iff_plain plainRun rfl).mpr ?_
  have hunpatched : ∀ (w : World) call sem, w.patched = false → Plain w (.acquire call sem) :=
    fun w call sem hp hpatched => absurd (hp.symm.trans hpatched) Bool.false_ne_true
  have hbase : ∀ (w : World) sem, w.sems.get? sem = some ⟨.semaphore, 1, 1⟩ ∨
      w.sems.get? sem = some ⟨.semaphore, 0, 1⟩ → ∀ object, w.sems.get? sem = some object →
        object.cls = .semaphore := by
    rintro w sem (hget | hget) object hget' <;> rw [hget] at hget' <;> cases hget' <;> rfl
  exact .cons rfl trivial (.cons rfl (hunpatched _ _ _ rfl) (.cons rfl trivial (.cons rfl trivial
    (.cons rfl trivial (.cons rfl (fun _ => hbase _ _ (.inl rfl)) (.cons rfl trivial
    (.cons rfl (fun _ => hbase _ _ (.inl rfl)) (.cons rfl trivial
    (.cons rfl (fun _ => hbase _ _ (.inr rfl)) trivial)))))))))

end World

end AsyncViz.Instrumentation.Semaphore
