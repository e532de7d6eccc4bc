/-
  AsyncViz.Instrumentation.ExecutorAccounting

  When the events of `run_in_executor` account for every work item.

  The registry entry of an item lives until its done callback, and all that the wrapper
  publishes after the function goes through that entry; the callback in turn takes an item for
  one that never ran as long as the entry does not say otherwise.  In an orderly run the state
  of an item determines what has been published about it (`Item.history`), which gives the
  counts of the aggregates; each of the other steps publishes one event too many or too few.
-/

import AsyncViz.Instrumentation.Executor

namespace AsyncViz.Instrumentation.Executor

open AsyncViz.Lib AsyncViz.Lib.Transition

/-! ## Items -/

namespace Item

/-- What an orderly run has published about an item. -/
def history (item : Item) : List Kind :=
  match item.worker with
  | .queued | .refused => [.submitted]
  | .running => [.submitted, .started]
  | .ended raised => [.submitted, .started, if raised then .failed else .completed]
  | .picked | .dropped => if item.callbackRan then [.submitted, .cancelled] else [.submitted]
  | .rejected =>
    if item.callbackRan then [.submitted, if item.future = .failed then .failed else .cancelled]
    else [.submitted]

/-- Its last event is out. -/
def closed (item : Item) : Bool := item.history.any Kind.isTerminal

/-- Its function has been started. -/
def hasStarted (item : Item) : Bool :=
  match item.worker with
  | .running | .ended _ => true
  | _ => false

/-- An item of `executor`. -/
def isOf (executor : Nat) (item : Item) : Bool := item.executor = executor

/-- An item whose function `executor` runs. -/
def runsOn (executor : Nat) (item : Item) : Bool :=
  item.executor = executor && item.worker = .running

/-- An item of `executor` whose last event is out. -/
def closedOf (executor : Nat) (item : Item) : Bool := item.isOf executor && item.closed

/-- The states that an item can be in. -/
structure Sound (item : Item) : Prop where
  accepted : item.worker ≠ .refused
  resolved : item.callbackRan = true → item.future ≠ .pending
  queued : item.worker = .queued → item.callbackRan = false
  open_ : item.worker = .queued ∨ item.worker = .picked ∨ item.worker = .running ∨
    item.worker = .dropped → item.future = .pending ∨ item.future = .cancelled
  rejected : item.worker = .rejected → item.future ≠ .done

/-- Every history is the beginning of a course. -/
theorem exists_course (item : Item) : ∃ course ∈ World.courses, item.history <+: course := by
  have hcourse : ∀ h ∈ World.courses, ∀ n, ∃ course ∈ World.courses, h.take n <+: course :=
    fun h hmem n => ⟨h, hmem, List.take_prefix n h⟩
  have hsubmitted := hcourse [.submitted, .cancelled] (by decide) 1
  unfold history
  split
  · exact hsubmitted
  · exact hsubmitted
  · exact hcourse [.submitted, .started, .completed] (by decide) 2
  · rename_i raised _
    cases raised
    · exact hcourse [.submitted, .started, .completed] (by decide) 3
    · exact hcourse [.submitted, .started, .failed] (by decide) 3
  · split
    · exact hcourse [.submitted, .cancelled] (by decide) 2
    · exact hsubmitted
  · split
    · exact hcourse [.submitted, .cancelled] (by decide) 2
    · exact hsubmitted
  · split
    · split
      · exact hcourse [.submitted, .failed] (by decide) 2
      · exact hcourse [.submitted, .cancelled] (by decide) 2
    · exact hsubmitted

/-- The history of a settled item is a course. -/
theorem history_mem_courses {item : Item} (hsound : item.Sound) (hsettled : item.settled = true) :
    item.history ∈ World.courses := by
  obtain ⟨executor, worker, future, ran⟩ := item
  cases worker with
  | queued | picked | running => cases hsettled
  | refused => exact absurd rfl hsound.accepted
  | ended raised =>
    cases raised
    · exact (by decide : [Kind.submitted, .started, .completed] ∈ World.courses)
    · exact (by decide : [Kind.submitted, .started, .failed] ∈ World.courses)
  | dropped =>
    obtain rfl : ran = true := hsettled
    exact (by decide : [Kind.submitted, .cancelled] ∈ World.courses)
  | rejected =>
    obtain rfl : ran = true := hsettled
    have hends : [Kind.submitted, .failed] ∈ World.courses ∧
        [Kind.submitted, .cancelled] ∈ World.courses := by decide
    cases future
    · exact hends.2
    · exact hends.2
    · exact hends.1
    · exact hends.2

theorem closed_of_mem_courses {item : Item} (h : item.history ∈ World.courses) :
    item.closed = true := by
  have hall : ∀ course ∈ World.courses, course.any Kind.isTerminal = true := by decide
  exact hall _ h

/-- The item after its callback. -/
def called (item : Item) : Item :=
  { item with
    worker := if item.future = .cancelled ∧ item.worker = .queued then .dropped else item.worker
    callbackRan := true }

/-- What the callback publishes: how the future of an item that was not started has ended. -/
def report (item : Item) : Option Kind :=
  if item.hasStarted then none
  else
    match item.future with
    | .failed => some .failed
    | .cancelled => some .cancelled
    | _ => none

theorem Sound.callbackRan_eq_false {item : Item} (h : item.Sound)
    (hpending : item.future = .pending) : item.callbackRan = false :=
  Bool.eq_false_iff.mpr fun hran => h.resolved hran hpending

/-- Where the worker may take an item to. -/
theorem Sound.moved {item : Item} (h : item.Sound) {worker : Worker}
    (hlive : item.worker = .queued ∨ item.worker = .picked ∨ item.worker = .running)
    (hworker : worker ≠ .refused ∧ worker ≠ .queued) :
    { item with worker := worker }.Sound := by
  have hopen : item.future = .pending ∨ item.future = .cancelled := by
    refine h.open_ ?_
    obtain hq | hp | hr := hlive
    · exact .inl hq
    · exact .inr (.inl hp)
    · exact .inr (.inr (.inl hr))
  refine ⟨hworker.1, h.resolved, fun hq => absurd hq hworker.2, fun _ => hopen, fun _ => ?_⟩
  obtain hp | hc := hopen
  · simp [hp]
  · simp [hc]

/-- An item whose function has not started yet shows in its history only whether the callback has
    run, wherever the worker puts it next. -/
theorem Sound.history_moved {item : Item} (h : item.Sound) {worker : Worker}
    (hwaiting : item.worker = .queued ∨ item.worker = .picked)
    (hworker : worker = .picked ∨ worker = .dropped ∨ worker = .rejected) :
    { item with worker := worker }.history = item.history := by
  have hnow : item.history =
      if item.callbackRan then [.submitted, .cancelled] else [.submitted] := by
    obtain hqueued | hpicked := hwaiting
    · rw [history, hqueued, h.queued hqueued]
      rfl
    · rw [history, hpicked]
  obtain rfl | rfl | rfl := hworker
  · exact hnow.symm
  · exact hnow.symm
  · have hfuture : item.future ≠ .failed := by
      obtain hpending | hcancelled := h.open_ (hwaiting.imp_right .inl)
      · simp [hpending]
      · simp [hcancelled]
    rw [hnow, history]
    dsimp only
    rw [if_neg hfuture]

/-- A future that is resolved or cancelled. -/
theorem Sound.withFuture {item : Item} (h : item.Sound) {future : FutureState}
    (hpending : future ≠ .pending)
    (hfuture : future = .cancelled ∨ (∃ raised, item.worker = .ended raised) ∨
      (item.worker = .rejected ∧ future = .failed)) :
    { item with future := future }.Sound := by
  refine ⟨h.accepted, fun _ => hpending, h.queued, fun hopen => ?_, fun hrejected => ?_⟩
  · obtain rfl | ⟨raised, hended⟩ | ⟨hrejected, -⟩ := hfuture
    · exact .inr rfl
    · simp [hended] at hopen
    · simp [hrejected] at hopen
  · obtain rfl | ⟨raised, hended⟩ | ⟨-, rfl⟩ := hfuture
    · exact FutureState.noConfusion
    · cases hended.symm.trans hrejected
    · exact FutureState.noConfusion

theorem Sound.called {item : Item} (h : item.Sound) (hfuture : item.future ≠ .pending) :
    item.called.Sound := by
  obtain ⟨executor, worker, future, ran⟩ := item
  obtain ⟨haccepted, -, -, hopen, hrejected⟩ := h
  have hcancelled : worker = .queued → future = .cancelled :=
    fun hqueued => (hopen (.inl hqueued)).resolve_left hfuture
  refine ⟨?_, fun _ => hfuture, ?_, fun _ => ?_, ?_⟩ <;> cases worker <;> simp_all [Item.called]

theorem Sound.history_called {item : Item} (h : item.Sound) (hfuture : item.future ≠ .pending)
    (hran : item.callbackRan = false) :
    item.called.history = item.history ++ item.report.toList := by
  obtain ⟨executor, worker, future, ran⟩ := item
  obtain rfl : ran = false := hran
  obtain ⟨haccepted, -, -, hopen, hrejected⟩ := h
  cases worker <;> cases future <;> simp_all [Item.called, Item.history, Item.report,
    Item.hasStarted]

theorem runsOn_eq_false {item : Item} {executor : Nat} (h : item.worker ≠ .running) :
    item.runsOn executor = false := by
  simp [runsOn, h]

end Item

/-! ## The registry -/

namespace WorkItemRegistry

variable {r : WorkItemRegistry} {id id' : Nat} {f : WorkItemEntry → WorkItemEntry}

theorem get?_mark :
    (r.mark id f).entries.get? id'
      = if id' = id then (r.entries.get? id).map f else r.entries.get? id' := by
  unfold mark
  split
  · rename_i entry hget
    rw [Dict.get?_set, hget]
    rfl
  · rename_i hget
    split
    · rename_i h
      rw [h, hget]
      rfl
    · rfl

@[simp] theorem counter_mark : (r.mark id f).counter = r.counter := by
  unfold mark
  split <;> rfl

theorem get?_forget :
    (r.forget id).entries.get? id' = if id' = id then none else r.entries.get? id' := by
  unfold forget
  split
  · exact Dict.get?_pop _ _ _
  · rename_i hnot
    split
    · rename_i h
      rw [h]
      exact Dict.get?_eq_none_iff.mpr hnot
    · rfl

@[simp] theorem counter_forget : (r.forget id).counter = r.counter := by
  unfold forget
  split <;> rfl

end WorkItemRegistry

/-! ## Orderly states -/

namespace World

variable {w w' : World} {id : Nat} {item item' : Item}

/-- The registry has the entry of an item until its callback runs, and the entry says whether the
    function was started. -/
def Tracks (entry : Option WorkItemEntry) (item : Item) : Prop :=
  if item.callbackRan then entry = none
  else entry.map WorkItemEntry.started = some item.hasStarted

/-- The aggregate of an executor counts its items. -/
structure Counts (w : World) (executor : Nat) : Prop where
  active : (w.aggregate executor).activeWorkers = w.items.tally (Item.runsOn executor)
  submissions : (w.aggregate executor).throughput.submissions
    = w.items.tally (Item.isOf executor)
  ends : (w.aggregate executor).throughput.completions
      + (w.aggregate executor).throughput.failures
      + (w.aggregate executor).throughput.cancellations = w.items.tally (Item.closedOf executor)

/-- What orderly steps keep. -/
structure Kept (w : World) : Prop where
  fresh : ∀ id, id ∈ w.items → id < w.registry.counter
  silent : ∀ id, id ∉ w.items → w.history id = []
  sound : ∀ id item, w.items.get? id = some item → item.Sound
  history : ∀ id item, w.items.get? id = some item → w.history id = item.history
  tracks : ∀ id item, w.items.get? id = some item → Tracks (w.registry.entries.get? id) item
  counts : ∀ executor, Counts w executor

theorem running_eq (w : World) (executor : Nat) :
    w.running executor = w.items.tally (Item.runsOn executor) := rfl

/-! ### One event -/

variable {registry : WorkItemRegistry} {published : Option Kind}

theorem history_advance (id' : Nat) :
    (w.advance id item registry published).history id'
      = w.history id' ++ if id' = id then published.toList else [] := by
  simp only [history, advance, List.filter_append, List.map_append, List.append_cancel_left_eq]
  by_cases h : id' = id
  · subst h
    cases published <;> simp
  · cases published <;> simp [h, Ne.symm h]

theorem aggregate_advance (executor : Nat) :
    (w.advance id item registry published).aggregate executor
      = if item.executor = executor then published.toList.foldl .applyEvent (w.aggregate executor)
        else w.aggregate executor := by
  simp only [aggregate, advance, List.filter_append, List.foldl_append]
  by_cases h : item.executor = executor
  · cases published <;> simp [h]
  · cases published <;> simp [h]

/-- How the counts of an item may move with what is published; `others` is how many functions
    the executor runs. -/
def Shifts (item item' : Item) (others : Nat) : Option Kind → Prop
  | none => (item'.worker = .running ↔ item.worker = .running) ∧ item'.closed = item.closed
  | some .submitted => False
  | some .started =>
    item.worker ≠ .running ∧ item'.worker = .running ∧ item'.closed = item.closed
  | some .cancelled => (item'.worker = .running ↔ item.worker = .running) ∧
    item.closed = false ∧ item'.closed = true
  | some _ => (item.worker = .running ∨ others = 0) ∧ item'.worker ≠ .running ∧
    item.closed = false ∧ item'.closed = true

/-- The aggregate of another executor does not move. -/
theorem Counts.advance_other {executor : Nat} (h : Counts w executor)
    (hget : w.items.get? id = some item) (hexecutor : item'.executor = item.executor)
    (hne : item.executor ≠ executor) : Counts (w.advance id item' registry published) executor := by
  have hsame : ∀ (p : Item → Bool), p item = false → p item' = false →
      (w.advance id item' registry published).items.tally p = w.items.tally p := by
    intro p hp hp'
    have hset := Dict.tally_set_of_get? p item' hget
    rw [hp, hp'] at hset
    exact hset
  have hagg : (w.advance id item' registry published).aggregate executor
      = w.aggregate executor := by
    rw [aggregate_advance, hexecutor, if_neg hne]
  have hne' : item'.executor ≠ executor := hexecutor ▸ hne
  constructor
  · rw [hagg, h.active, hsame _ (by simp [Item.runsOn, hne]) (by simp [Item.runsOn, hne'])]
  · rw [hagg, h.submissions, hsame _ (by simp [Item.isOf, hne]) (by simp [Item.isOf, hne'])]
  · rw [hagg, h.ends, hsame _ (by simp [Item.closedOf, Item.isOf, hne])
      (by simp [Item.closedOf, Item.isOf, hne'])]

/-- The aggregate follows an item that moves like this. -/
theorem Counts.advance {executor : Nat} (h : Counts w executor) (hget : w.items.get? id = some item)
    (hexecutor : item'.executor = item.executor)
    (hshifts : Shifts item item' (w.running item.executor) published) :
    Counts (w.advance id item' registry published) executor := by
  by_cases he : item.executor = executor
  · subst he
    obtain ⟨hactive, hsubmissions, hends⟩ := h
    have hruns := Dict.tally_set_of_get? (Item.runsOn item.executor) item' hget
    have hof := Dict.tally_set_of_get? (Item.isOf item.executor) item' hget
    have hclosed := Dict.tally_set_of_get? (Item.closedOf item.executor) item' hget
    have hitems : (w.advance id item' registry published).items = w.items.set id item' := rfl
    have hagg : (w.advance id item' registry published).aggregate item.executor
        = published.toList.foldl .applyEvent (w.aggregate item.executor) := by
      rw [aggregate_advance, if_pos hexecutor]
    simp only [Item.runsOn, Item.isOf, Item.closedOf, hexecutor, decide_true, Bool.true_and]
      at hruns hof hclosed
    rw [running_eq] at hshifts
    cases published with
    | none =>
      obtain ⟨hrun, hclose⟩ := hshifts
      rw [decide_eq_decide.mpr hrun] at hruns
      rw [hclose] at hclosed
      constructor <;> rw [hagg, hitems] <;> simp only [Option.toList, List.foldl] <;> omega
    | some kind =>
      cases kind with
      | submitted => exact hshifts.elim
      | started =>
        obtain ⟨hnot, hrun, hclose⟩ := hshifts
        rw [decide_eq_true hrun, decide_eq_false hnot] at hruns
        rw [hclose] at hclosed
        simp only [Bool.toNat_true, Bool.toNat_false] at hruns
        constructor <;> rw [hagg, hitems] <;>
          simp only [Option.toList, List.foldl, ExecutorAggregateState.applyEvent] <;> omega
      | cancelled =>
        obtain ⟨hrun, hopen, hclose⟩ := hshifts
        rw [decide_eq_decide.mpr hrun] at hruns
        rw [hopen, hclose] at hclosed
        simp only [Bool.toNat_true, Bool.toNat_false] at hclosed
        constructor <;> rw [hagg, hitems] <;>
          simp only [Option.toList, List.foldl, ExecutorAggregateState.applyEvent] <;> omega
      | completed | failed =>
        obtain ⟨hrun, hnot, hopen, hclose⟩ := hshifts
        have hless : (w.items.set id item').tally (Item.runsOn item.executor)
            = w.items.tally (Item.runsOn item.executor) - 1 := by
          rw [decide_eq_false hnot] at hruns
          obtain hrun | hnone := hrun
          · rw [decide_eq_true hrun] at hruns
            simp only [Bool.toNat_true, Bool.toNat_false] at hruns
            omega
          · simp only [Bool.toNat_false] at hruns
            omega
        rw [hopen, hclose] at hclosed
        simp only [Bool.toNat_true, Bool.toNat_false] at hclosed
        constructor <;> rw [hagg, hitems] <;>
          simp only [Option.toList, List.foldl, ExecutorAggregateState.applyEvent] <;> omega
  · exact h.advance_other hget hexecutor he

theorem Kept.advance (h : Kept w) (hget : w.items.get? id = some item)
    (hexecutor : item'.executor = item.executor) (hsound : item'.Sound)
    (hhistory : item'.history = item.history ++ published.toList)
    (hshifts : Shifts item item' (w.running item.executor) published)
    (htracks : Tracks (registry.entries.get? id) item')
    (hothers : ∀ id', id' ≠ id → registry.entries.get? id' = w.registry.entries.get? id')
    (hcounter : registry.counter = w.registry.counter) :
    Kept (w.advance id item' registry published) := by
  have hmem : ∀ id', id' ∈ (w.advance id item' registry published).items ↔ id' ∈ w.items := by
    intro id'
    change id' ∈ w.items.set id item' ↔ _
    rw [Dict.mem_set_iff]
    refine ⟨?_, Or.inr⟩
    rintro (rfl | hmem)
    · exact Dict.mem_of_get?_eq_some hget
    · exact hmem
  have hitem : ∀ id' item₀, (w.advance id item' registry published).items.get? id' = some item₀ →
      (id' = id ∧ item₀ = item') ∨ (id' ≠ id ∧ w.items.get? id' = some item₀) := by
    intro id' item₀ hget'
    change (w.items.set id item').get? id' = some item₀ at hget'
    rw [Dict.get?_set] at hget'
    split at hget'
    · rename_i heq
      exact .inl ⟨heq, (Option.some.inj hget').symm⟩
    · rename_i hne
      exact .inr ⟨hne, hget'⟩
  refine ⟨fun id' hid' => ?_, fun id' hid' => ?_, fun id' item₀ hget' => ?_,
    fun id' item₀ hget' => ?_, fun id' item₀ hget' => ?_, fun executor => ?_⟩
  · change id' < registry.counter
    rw [hcounter]
    exact h.fresh id' ((hmem id').mp hid')
  · rw [hmem] at hid'
    have hne : id' ≠ id := fun heq => hid' (heq ▸ Dict.mem_of_get?_eq_some hget)
    rw [history_advance, h.silent id' hid', if_neg hne]
    rfl
  · obtain ⟨-, rfl⟩ | ⟨-, hold⟩ := hitem id' item₀ hget'
    · exact hsound
    · exact h.sound id' item₀ hold
  · rw [history_advance]
    obtain ⟨rfl, rfl⟩ | ⟨hne, hold⟩ := hitem id' item₀ hget'
    · rw [if_pos rfl, h.history id' item hget, hhistory]
    · rw [if_neg hne, List.append_nil, h.history id' item₀ hold]
  · obtain ⟨rfl, rfl⟩ | ⟨hne, hold⟩ := hitem id' item₀ hget'
    · exact htracks
    · change Tracks (registry.entries.get? id') item₀
      rw [hothers id' hne]
      exact h.tracks id' item₀ hold
  · exact (h.counts executor).advance hget hexecutor hshifts

/-- A submission that the executor takes. -/
theorem Kept.submit (h : Kept w) (executor : Nat) : Kept (w.dispatch executor .queued) := by
  have hnew : w.registry.counter ∉ w.items := fun hmem => Nat.lt_irrefl _ (h.fresh _ hmem)
  have hitem : ∀ id item, (w.dispatch executor .queued).items.get? id = some item →
      (id = w.registry.counter ∧ item = ⟨executor, .queued, .pending, false⟩) ∨
      (id ≠ w.registry.counter ∧ w.items.get? id = some item) := by
    intro id item hget
    change (w.items.set w.registry.counter _).get? id = some item at hget
    rw [Dict.get?_set] at hget
    split at hget
    · rename_i heq
      exact .inl ⟨heq, (Option.some.inj hget).symm⟩
    · rename_i hne
      exact .inr ⟨hne, hget⟩
  have htally : ∀ (p : Item → Bool), (w.dispatch executor .queued).items.tally p
      = w.items.tally p + (p ⟨executor, .queued, .pending, false⟩).toNat :=
    fun p => Dict.tally_set_of_not_mem p _ hnew
  refine ⟨fun id hid => ?_, fun id hid => ?_, fun id item hget => ?_, fun id item hget => ?_,
    fun id item hget => ?_, fun executor' => ?_⟩
  · change id < w.registry.counter + 1
    change id ∈ w.items.set w.registry.counter _ at hid
    rw [Dict.mem_set_iff] at hid
    obtain rfl | hmem := hid
    · exact Nat.lt_succ_self _
    · exact Nat.lt_succ_of_lt (h.fresh id hmem)
  · change id ∉ w.items.set w.registry.counter _ at hid
    rw [Dict.mem_set_iff, not_or] at hid
    rw [dispatch, WorkItemRegistry.register, history_advance, h.silent id hid.2, if_neg hid.1]
    rfl
  · obtain ⟨-, rfl⟩ | ⟨-, hold⟩ := hitem id item hget
    · constructor <;> simp
    · exact h.sound id item hold
  · rw [dispatch, WorkItemRegistry.register, history_advance]
    obtain ⟨rfl, rfl⟩ | ⟨hne, hold⟩ := hitem id item hget
    · rw [if_pos rfl, h.silent _ hnew]
      rfl
    · rw [if_neg hne, List.append_nil, h.history id item hold]
  · change Tracks ((w.registry.entries.set w.registry.counter _).get? id) item
    rw [Dict.get?_set]
    obtain ⟨rfl, rfl⟩ | ⟨hne, hold⟩ := hitem id item hget
    · rw [if_pos rfl]
      rfl
    · rw [if_neg hne]
      exact h.tracks id item hold
  · obtain ⟨hactive, hsubmissions, hends⟩ := h.counts executor'
    have hagg : (w.dispatch executor .queued).aggregate executor'
        = if executor = executor' then (w.aggregate executor').applyEvent .submitted
          else w.aggregate executor' := by
      rw [dispatch, WorkItemRegistry.register, aggregate_advance]
      rfl
    by_cases he : executor = executor'
    · rw [if_pos he] at hagg
      constructor <;> rw [hagg, htally] <;>
        simp [ExecutorAggregateState.applyEvent, Item.runsOn, Item.isOf, Item.closedOf,
          Item.closed, Item.history, Kind.isTerminal, he, hactive, hsubmissions, hends]
    · rw [if_neg he] at hagg
      constructor <;> rw [hagg, htally] <;>
        simp [Item.runsOn, Item.isOf, Item.closedOf, he, hactive, hsubmissions, hends]

/-- An orderly state accounts for every item. -/
theorem Kept.accounted (h : Kept w) : Accounted w := by
  refine ⟨fun id item hget => ?_, fun id item hget hsettled => ?_, fun executor => ?_,
    fun executor hall => ?_⟩
  · rw [h.history id item hget]
    exact item.exists_course
  · rw [h.history id item hget]
    exact Item.history_mem_courses (h.sound id item hget) hsettled
  · exact (h.counts executor).active
  · obtain ⟨hactive, hsubmissions, hends⟩ := h.counts executor
    have hidle : w.items.tally (Item.runsOn executor) = 0 := by
      rw [Dict.tally_eq_zero_iff]
      intro id item hget
      by_cases he : item.executor = executor
      · refine Item.runsOn_eq_false fun hrunning => ?_
        have hsettled := hall id item hget he
        rw [Item.settled, hrunning] at hsettled
        cases hsettled
      · simp [Item.runsOn, he]
    have hclosed : w.items.tally (Item.closedOf executor)
        = w.items.tally (Item.isOf executor) := by
      refine Dict.tally_congr _ fun id item hget => ?_
      by_cases he : item.executor = executor
      · have hcourse := Item.history_mem_courses (h.sound id item hget) (hall id item hget he)
        rw [Item.closedOf, Item.closed_of_mem_courses hcourse, Bool.and_true]
      · simp [Item.closedOf, Item.isOf, he]
    refine ⟨hactive.trans hidle, ?_⟩
    rw [ThroughputCounters.backlog, hsubmissions, ← hclosed]
    omega

/-! ### Steps -/

theorem move_eq_some {f : Item → Option (Item × WorkItemRegistry × Option Kind)}
    (h : w.move id f = some w') : ∃ item item' registry published,
      w.items.get? id = some item ∧ f item = some (item', registry, published) ∧
      w' = w.advance id item' registry published := by
  simp only [move, bind, Option.bind_eq_some_iff] at h
  obtain ⟨item, hget, ⟨item', registry, published⟩, hf, hw⟩ := h
  exact ⟨item, item', registry, published, hget, hf, (Option.some.inj hw).symm⟩

/-- The entry of an item whose callback has not run. -/
theorem Kept.exists_entry (h : Kept w) (hget : w.items.get? id = some item)
    (hran : item.callbackRan = false) : ∃ entry, w.registry.entries.get? id = some entry ∧
      entry.started = item.hasStarted := by
  have htracks := h.tracks id item hget
  rw [Tracks, hran] at htracks
  obtain ⟨entry, hentry, hstarted⟩ := Option.map_eq_some_iff.mp htracks
  exact ⟨entry, hentry, hstarted⟩

theorem Kept.known_of_uncalled (h : Kept w) (hget : w.items.get? id = some item)
    (hran : item.callbackRan = false) (kind : Kind) : w.known id kind = some kind := by
  obtain ⟨entry, hentry, -⟩ := h.exists_entry hget hran
  exact if_pos (Dict.mem_of_get?_eq_some hentry)

theorem Kept.known_of_called (h : Kept w) (hget : w.items.get? id = some item)
    (hran : item.callbackRan = true) (kind : Kind) : w.known id kind = none := by
  have htracks := h.tracks id item hget
  rw [Tracks, hran] at htracks
  exact if_neg (Dict.get?_eq_none_iff.mp htracks)

/-- A step that publishes nothing and leaves the registry alone. -/
theorem Kept.quiet (h : Kept w) (hget : w.items.get? id = some item)
    (hexecutor : item'.executor = item.executor) (hsound : item'.Sound)
    (hran : item'.callbackRan = item.callbackRan) (hhistory : item'.history = item.history)
    (hstarted : item'.hasStarted = item.hasStarted)
    (hrunning : item'.worker = .running ↔ item.worker = .running) :
    Kept (w.advance id item' w.registry none) := by
  refine h.advance hget hexecutor hsound ?_ ⟨hrunning, ?_⟩ ?_ (fun _ _ => rfl) rfl
  · rw [hhistory]
    exact (List.append_nil _).symm
  · rw [Item.closed, Item.closed, hhistory]
  · have htracks := h.tracks id item hget
    rw [Tracks] at htracks ⊢
    rw [hran, hstarted]
    exact htracks

/-- An item that waits for its function to start is picked, dropped or rejected. -/
theorem Kept.passed (h : Kept w) (hget : w.items.get? id = some item) {worker : Worker}
    (hwaiting : item.worker = .queued ∨ item.worker = .picked)
    (hworker : worker = .picked ∨ worker = .dropped ∨ worker = .rejected) :
    Kept (w.advance id { item with worker := worker } w.registry none) := by
  have hsound := h.sound id item hget
  have hmoved : { item with worker := worker }.Sound := by
    refine hsound.moved (hwaiting.imp_right .inl) ?_
    obtain rfl | rfl | rfl := hworker <;> decide
  refine h.quiet hget rfl hmoved rfl (hsound.history_moved hwaiting hworker) ?_ ?_
  · obtain hqueued | hpicked := hwaiting <;> obtain rfl | rfl | rfl := hworker <;>
      simp [Item.hasStarted, *]
  · obtain hqueued | hpicked := hwaiting <;> obtain rfl | rfl | rfl := hworker <;> simp [*]

/-- A future is resolved or cancelled before the callback runs. -/
theorem Kept.refutured (h : Kept w) (hget : w.items.get? id = some item) {future : FutureState}
    (hsound : { item with future := future }.Sound) (hran : item.callbackRan = false) :
    Kept (w.advance id { item with future := future } w.registry none) :=
  h.quiet hget rfl hsound rfl (by simp [Item.history, hran]) rfl Iff.rfl

/-- A step of the wrapper, which marks the entry. -/
theorem Kept.marked (h : Kept w) (hget : w.items.get? id = some item)
    {f : WorkItemEntry → WorkItemEntry} (hexecutor : item'.executor = item.executor)
    (hsound : item'.Sound) (hran : item.callbackRan = false) (hran' : item'.callbackRan = false)
    (hhistory : item'.history = item.history ++ published.toList)
    (hshifts : Shifts item item' (w.running item.executor) published)
    (hmarked : ∀ entry, entry.started = item.hasStarted → (f entry).started = item'.hasStarted) :
    Kept (w.advance id item' (w.registry.mark id f) published) := by
  refine h.advance hget hexecutor hsound hhistory hshifts ?_ (fun id' hne => ?_)
    WorkItemRegistry.counter_mark
  · obtain ⟨entry, hentry, hstarted⟩ := h.exists_entry hget hran
    rw [Tracks, hran', WorkItemRegistry.get?_mark, if_pos rfl, hentry]
    exact congrArg some (hmarked entry hstarted)
  · rw [WorkItemRegistry.get?_mark, if_neg hne]

/-- The callback forgets the entry. -/
theorem Kept.forgotten (h : Kept w) (hget : w.items.get? id = some item)
    (hexecutor : item'.executor = item.executor) (hsound : item'.Sound)
    (hran' : item'.callbackRan = true)
    (hhistory : item'.history = item.history ++ published.toList)
    (hshifts : Shifts item item' (w.running item.executor) published)
    (hregistry : ∀ id', registry.entries.get? id'
      = if id' = id then none else w.registry.entries.get? id')
    (hcounter : registry.counter = w.registry.counter) :
    Kept (w.advance id item' registry published) := by
  refine h.advance hget hexecutor hsound hhistory hshifts ?_ (fun id' hne => ?_) hcounter
  · rw [Tracks, hran', hregistry, if_pos rfl, if_pos rfl]
  · rw [hregistry, if_neg hne]

theorem get?_onDone (w : World) (id : Nat) (future : FutureState) (id' : Nat) :
    (w.onDone id future).1.entries.get? id'
      = if id' = id then none else w.registry.entries.get? id' := by
  have hmarked : ∀ (f : WorkItemEntry → WorkItemEntry),
      ((w.registry.mark id f).forget id).entries.get? id'
        = if id' = id then none else w.registry.entries.get? id' := by
    intro f
    rw [WorkItemRegistry.get?_forget, WorkItemRegistry.get?_mark]
    split <;> rfl
  unfold onDone
  split
  · exact WorkItemRegistry.get?_forget
  · cases future with
    | failed => exact hmarked _
    | cancelled => exact hmarked _
    | pending => exact WorkItemRegistry.get?_forget
    | done => exact WorkItemRegistry.get?_forget

theorem counter_onDone (w : World) (id : Nat) (future : FutureState) :
    (w.onDone id future).1.counter = w.registry.counter := by
  unfold onDone
  split
  · exact WorkItemRegistry.counter_forget
  · cases future <;>
      simp [WorkItemRegistry.markFailed, WorkItemRegistry.markCancelled]

/-- The callback publishes its report. -/
theorem Kept.onDone_snd (h : Kept w) (hget : w.items.get? id = some item)
    (hran : item.callbackRan = false) : (w.onDone id item.future).2 = item.report := by
  obtain ⟨entry, hentry, hstarted⟩ := h.exists_entry hget hran
  have hhas : w.registry.hasStarted id = item.hasStarted := by
    rw [WorkItemRegistry.hasStarted, hentry]
    exact hstarted
  have hknown := h.known_of_uncalled hget hran
  unfold onDone Item.report
  rw [hhas]
  generalize item.hasStarted = started
  generalize item.future = future
  cases started with
  | true => rfl
  | false =>
    cases future with
    | failed => exact hknown .failed
    | cancelled => exact hknown .cancelled
    | pending => rfl
    | done => rfl

/-- The callback keeps an orderly state if an item that was rejected without a run fails while
    its executor is idle. -/
theorem Kept.callback (h : Kept w) (hget : w.items.get? id = some item)
    (hfuture : item.future ≠ .pending) (hran : item.callbackRan = false)
    (hidle : item.worker = .rejected → item.future = .failed → w.running item.executor = 0) :
    Kept (w.advance id item.called (w.onDone id item.future).1 (w.onDone id item.future).2) := by
  have hsound := h.sound id item hget
  rw [h.onDone_snd hget hran]
  refine h.forgotten hget rfl (hsound.called hfuture) rfl (hsound.history_called hfuture hran) ?_
    (get?_onDone w id item.future) (counter_onDone w id item.future)
  obtain ⟨executor, worker, future, ran⟩ := item
  obtain rfl : ran = false := hran
  obtain ⟨haccepted, -, -, hopen, hrejected⟩ := hsound
  cases worker with
  | refused => exact absurd rfl haccepted
  | queued =>
    obtain rfl : future = .cancelled := (hopen (.inl rfl)).resolve_left hfuture
    exact ⟨by simp [Item.called], rfl, rfl⟩
  | picked =>
    obtain rfl : future = .cancelled := (hopen (.inr (.inl rfl))).resolve_left hfuture
    exact ⟨by simp [Item.called], rfl, rfl⟩
  | running =>
    obtain rfl : future = .cancelled := (hopen (.inr (.inr (.inl rfl)))).resolve_left hfuture
    exact ⟨by simp [Item.called], rfl⟩
  | dropped =>
    obtain rfl : future = .cancelled := (hopen (.inr (.inr (.inr rfl)))).resolve_left hfuture
    exact ⟨by simp [Item.called], rfl, rfl⟩
  | ended raised => cases future <;> exact ⟨by simp [Item.called], rfl⟩
  | rejected =>
    cases future with
    | pending => exact absurd rfl hfuture
    | done => exact absurd rfl (hrejected rfl)
    | cancelled => exact ⟨by simp [Item.called], rfl, rfl⟩
    | failed => exact ⟨.inr (hidle rfl rfl), by simp [Item.called], rfl, rfl⟩

/-- A worker that picks a queued item leaves nothing new to account for. -/
theorem Kept.step_pick (h : Kept w) (hstep : step w (.pick id) = some w') : Kept w' := by
  obtain ⟨item, item', registry, published, hget, hf, rfl⟩ := move_eq_some hstep
  split at hf
  · rename_i hqueued
    cases hf
    exact h.passed hget (.inl hqueued) (.inl rfl)
  · cases hf

/-- The wrapped function marks its item started. -/
theorem Kept.step_run (h : Kept w) (ha : Orderly w (.run id))
    (hstep : step w (.run id) = some w') : Kept w' := by
  obtain ⟨item, item', registry, published, hget, hf, rfl⟩ := move_eq_some hstep
  split at hf
  · rename_i hpicked
    cases hf
    have hran := ha item hget
    have hsound := h.sound id item hget
    refine h.marked hget rfl (hsound.moved (.inr (.inl hpicked)) (by decide)) hran hran
      (by simp [Item.history, hpicked, hran]) ⟨by simp [hpicked], rfl, ?_⟩ (fun _ _ => rfl)
    simp [Item.closed, Item.history, hpicked, hran, Kind.isTerminal]
  · cases hf

/-- A function that ended marks its item completed or failed. -/
theorem Kept.step_finish {raised : Bool} (h : Kept w) (ha : Orderly w (.finish id raised))
    (hstep : step w (.finish id raised) = some w') : Kept w' := by
  obtain ⟨item, item', registry, published, hget, hf, rfl⟩ := move_eq_some hstep
  split at hf
  · rename_i hrunning
    have hran := ha item hget
    have hsound : { item with worker := .ended raised }.Sound :=
      (h.sound id item hget).moved (.inr (.inr hrunning)) (by simp)
    have hstarted : ∀ started, started = item.hasStarted → started = true := by
      simp [Item.hasStarted, hrunning]
    have hopen : item.closed = false := by
      simp [Item.closed, Item.history, hrunning, Kind.isTerminal]
    rw [h.known_of_uncalled hget hran] at hf
    cases raised with
    | false =>
      cases hf
      exact h.marked hget rfl hsound hran hran (by simp [Item.history, hrunning])
        ⟨.inl hrunning, by simp, hopen, rfl⟩ (fun entry => hstarted entry.started)
    | true =>
      cases hf
      exact h.marked hget rfl hsound hran hran (by simp [Item.history, hrunning])
        ⟨.inl hrunning, by simp, hopen, rfl⟩ (fun entry => hstarted entry.started)
  · cases hf

/-- An item that a shutdown drops was still queued. -/
theorem Kept.step_drop (h : Kept w) (hstep : step w (.drop id) = some w') : Kept w' := by
  obtain ⟨item, item', registry, published, hget, hf, rfl⟩ := move_eq_some hstep
  split at hf
  · rename_i hqueued
    cases hf
    exact h.passed hget (.inl hqueued) (.inr (.inl rfl))
  · cases hf

/-- An item that a broken pool rejects never started. -/
theorem Kept.step_reject (h : Kept w) (hstep : step w (.reject id) = some w') : Kept w' := by
  obtain ⟨item, item', registry, published, hget, hf, rfl⟩ := move_eq_some hstep
  split at hf
  · rename_i hwaiting
    cases hf
    exact h.passed hget hwaiting (.inr (.inr rfl))
  · cases hf

/-- The future of an item settles with what became of the item. -/
theorem Kept.step_resolve (h : Kept w) (hstep : step w (.resolve id) = some w') : Kept w' := by
  obtain ⟨item, item', registry, published, hget, hf, rfl⟩ := move_eq_some hstep
  have hsound := h.sound id item hget
  split at hf
  · rename_i hpending
    have hran := hsound.callbackRan_eq_false hpending
    split at hf
    · rename_i hended
      cases hf
      exact h.refutured hget (hsound.withFuture FutureState.noConfusion (.inr (.inl ⟨_, hended⟩)))
        hran
    · rename_i hended
      cases hf
      exact h.refutured hget (hsound.withFuture FutureState.noConfusion (.inr (.inl ⟨_, hended⟩)))
        hran
    · rename_i hrejected
      cases hf
      exact h.refutured hget
        (hsound.withFuture FutureState.noConfusion (.inr (.inr ⟨hrejected, rfl⟩))) hran
    · cases hf
      exact h.refutured hget (hsound.withFuture FutureState.noConfusion (.inl rfl)) hran
    · cases hf
  · cases hf

/-- A pending future is cancelled where the item has not started. -/
theorem Kept.step_cancel (h : Kept w) (hstep : step w (.cancel id) = some w') : Kept w' := by
  obtain ⟨item, item', registry, published, hget, hf, rfl⟩ := move_eq_some hstep
  have hsound := h.sound id item hget
  split at hf
  · rename_i hpending
    cases hf
    exact h.refutured hget (hsound.withFuture FutureState.noConfusion (.inl rfl))
      (hsound.callbackRan_eq_false hpending.1)
  · cases hf

/-- The done callback closes the account of its item. -/
theorem Kept.step_callback (h : Kept w) (ha : Orderly w (.callback id))
    (hstep : step w (.callback id) = some w') : Kept w' := by
  obtain ⟨item, item', registry, published, hget, hf, rfl⟩ := move_eq_some hstep
  split at hf
  · cases hf
  · rename_i hnot
    rw [not_or] at hnot
    obtain ⟨rfl, hdone⟩ := Prod.mk.inj (Option.some.inj hf)
    obtain rfl : (w.onDone id item.future).1 = registry := by rw [hdone]
    obtain rfl : (w.onDone id item.future).2 = published := by rw [hdone]
    exact h.callback hget hnot.1 (Bool.eq_false_iff.mpr hnot.2) (ha item hget)

/-- An orderly step keeps an orderly state: one lemma for each action of the pool. -/
theorem Kept.step (h : Kept w) {a : Action} (ha : Orderly w a) (hstep : step w a = some w') :
    Kept w' := by
  cases a with
  | submit executor =>
    obtain rfl := Option.some.inj hstep
    exact h.submit executor
  | refuse executor => exact ha.elim
  | pick id => exact h.step_pick hstep
  | run id => exact h.step_run ha hstep
  | finish id raised => exact h.step_finish ha hstep
  | drop id => exact h.step_drop hstep
  | reject id => exact h.step_reject hstep
  | resolve id => exact h.step_resolve hstep
  | cancel id => exact h.step_cancel hstep
  | callback id => exact h.step_callback ha hstep

/-! ## Every other step -/

theorem called_of_not_orderly (hget : w.items.get? id = some item)
    (hnot : ¬ ∀ item, w.items.get? id = some item → item.callbackRan = false) :
    item.callbackRan = true := by
  by_contra hran
  refine hnot fun item₀ hget₀ => ?_
  rw [hget] at hget₀
  obtain rfl := Option.some.inj hget₀
  exact Bool.eq_false_iff.mpr hran

/-- A refused submission stays a submission. -/
theorem Kept.not_accounted_refuse (h : Kept w) (executor : Nat) :
    ¬ Accounted (w.dispatch executor .refused) := by
  intro hbad
  have hnew : w.registry.counter ∉ w.items := fun hmem => Nat.lt_irrefl _ (h.fresh _ hmem)
  have hended := hbad.ended w.registry.counter _ (Dict.get?_set_self _ _ _) rfl
  rw [dispatch, WorkItemRegistry.register, history_advance, if_pos rfl, h.silent _ hnew] at hended
  exact absurd hended (by decide)

/-- What a step makes of the history of its item. -/
theorem Kept.history_advance_self (h : Kept w) (hget : w.items.get? id = some item) :
    (w.advance id item' registry published).history id = item.history ++ published.toList := by
  rw [history_advance, if_pos rfl, h.history id item hget]

/-- A function that starts after its cancellation was published. -/
theorem Kept.not_accounted_run (h : Kept w) (hget : w.items.get? id = some item)
    (hpicked : item.worker = .picked) (hran : item.callbackRan = true) :
    ¬ Accounted (w.advance id { item with worker := .running } registry (some .started)) := by
  intro hbad
  obtain ⟨course, hcourse, hprefix⟩ := hbad.onCourse id _ (Dict.get?_set_self _ _ _)
  rw [h.history_advance_self hget] at hprefix
  have hhistory : item.history = [.submitted, .cancelled] := by simp [Item.history, hpicked, hran]
  have hnone : ∀ course ∈ courses, ¬ [Kind.submitted, .cancelled, .started] <+: course := by decide
  rw [hhistory] at hprefix
  exact hnone course hcourse hprefix

/-- A function that ends after its entry was forgotten. -/
theorem Kept.not_accounted_finish (h : Kept w) (hget : w.items.get? id = some item)
    (hrunning : item.worker = .running) (hran : item.callbackRan = true) (raised : Bool) :
    ¬ Accounted (w.advance id { item with worker := .ended raised } registry none) := by
  intro hbad
  have hended := hbad.ended id _ (Dict.get?_set_self _ _ _) hran
  rw [h.history_advance_self hget] at hended
  have hhistory : item.history = [.submitted, .started] := by simp [Item.history, hrunning]
  rw [hhistory] at hended
  exact absurd hended (by decide)

/-- A failure without a start counts a function off that runs. -/
theorem Kept.not_accounted_failed (h : Kept w) (hget : w.items.get? id = some item)
    (hexecutor : item'.executor = item.executor) (hnot : item.worker ≠ .running)
    (hnot' : item'.worker ≠ .running) (hbusy : w.running item.executor ≠ 0) :
    ¬ Accounted (w.advance id item' registry (some .failed)) := by
  intro hbad
  have hactive := hbad.active item.executor
  have hset := Dict.tally_set_of_get? (Item.runsOn item.executor) item' hget
  rw [Item.runsOn_eq_false hnot, Item.runsOn_eq_false hnot'] at hset
  rw [aggregate_advance, if_pos hexecutor] at hactive
  change (w.aggregate item.executor).activeWorkers - 1
    = (w.items.set id item').tally (Item.runsOn item.executor) at hactive
  rw [(h.counts item.executor).active, Nat.add_right_cancel hset] at hactive
  rw [running_eq] at hbusy
  omega

theorem Kept.not_accounted (h : Kept w) {a : Action} (ha : ¬ Orderly w a)
    (hstep : World.step w a = some w') : ¬ Accounted w' := by
  cases a with
  | submit executor => exact absurd trivial ha
  | refuse executor =>
    obtain rfl := Option.some.inj hstep
    exact h.not_accounted_refuse executor
  | pick id => exact absurd trivial ha
  | run id =>
    obtain ⟨item, item', registry, published, hget, hf, rfl⟩ := move_eq_some hstep
    have hran := called_of_not_orderly hget ha
    split at hf
    · rename_i hpicked
      cases hf
      exact h.not_accounted_run hget hpicked hran
    · cases hf
  | finish id raised =>
    obtain ⟨item, item', registry, published, hget, hf, rfl⟩ := move_eq_some hstep
    have hran := called_of_not_orderly hget ha
    split at hf
    · rename_i hrunning
      rw [h.known_of_called hget hran] at hf
      cases hf
      exact h.not_accounted_finish hget hrunning hran raised
    · cases hf
  | drop id => exact absurd trivial ha
  | reject id => exact absurd trivial ha
  | resolve id => exact absurd trivial ha
  | cancel id => exact absurd trivial ha
  | callback id =>
    obtain ⟨item, item', registry, published, hget, hf, rfl⟩ := move_eq_some hstep
    have hbusy : item.worker = .rejected ∧ item.future = .failed ∧
        w.running item.executor ≠ 0 := by
      by_contra hnot
      refine ha fun item₀ hget₀ hrejected hfailed => ?_
      rw [hget] at hget₀
      obtain rfl := Option.some.inj hget₀
      by_contra hrunning
      exact hnot ⟨hrejected, hfailed, hrunning⟩
    split at hf
    · cases hf
    · rename_i hnot
      rw [not_or] at hnot
      obtain ⟨hrejected, hfailed, hrunning⟩ := hbusy
      have hreport : (w.onDone id item.future).2 = some .failed := by
        rw [h.onDone_snd hget (Bool.eq_false_iff.mpr hnot.2)]
        simp [Item.report, Item.hasStarted, hrejected, hfailed]
      obtain ⟨rfl, hdone⟩ := Prod.mk.inj (Option.some.inj hf)
      obtain rfl : some .failed = published := by rw [← hreport, hdone]
      refine h.not_accounted_failed hget rfl (by simp [hrejected]) ?_ hrunning
      simp [hrejected]

/-! ## Runs -/

theorem kept_start : Kept start := by
  refine ⟨fun id hid => ?_, fun id _ => rfl, fun id item hget => ?_, fun id item hget => ?_,
    fun id item hget => ?_, fun executor => ⟨rfl, rfl, rfl⟩⟩
  · exact absurd hid (Dict.not_mem_empty id)
  all_goals cases hget

/-- A run accounts for every item in every state exactly if it is orderly. -/
theorem accounted_iff_orderly (acts : List Action) (hrun : exec step start acts = some w') :
    AllStates step Accounted start acts ↔ AllSteps step Orderly start acts :=
  allStates_iff_allSteps_of_keep (fun _ h => h.accounted) (fun _ _ _ h ha hstep => h.step ha hstep)
    (fun _ _ _ h ha hstep => h.not_accounted ha hstep) kept_start hrun

/-- The future of a function that runs is cancelled; the function returns after the callback. -/
def cancelledRun : List Action :=
  [.submit 0, .pick 0, .run 0, .cancel 0, .callback 0, .finish 0 false]

/-- Its end is never published, and its worker stays active. -/
theorem not_accounted_cancelledRun :
    ∃ w, exec step start cancelledRun = some w ∧ w.history 0 = [.submitted, .started] ∧
      (w.aggregate 0).activeWorkers = 1 ∧ w.running 0 = 0 ∧
      (w.aggregate 0).throughput.backlog = 1 ∧ ¬ Accounted w := by
  refine ⟨_, rfl, rfl, rfl, rfl, rfl, fun hbad => ?_⟩
  exact absurd (hbad.active 0) (by decide)

/-- One function returns and one raises, the future of the second after it was cancelled; a third
    item is cancelled in the queue, and a fourth rejected when nothing runs. -/
def orderlyRun : List Action :=
  [.submit 0, .submit 0, .submit 0, .pick 0, .run 0, .pick 1, .run 1, .cancel 1, .cancel 2,
    .callback 2, .finish 0 false, .finish 1 true, .resolve 0, .callback 0, .callback 1, .submit 1,
    .reject 3, .resolve 3, .callback 3]

theorem accounted_orderlyRun : AllStates step Accounted start orderlyRun := by
  refine (accounted_iff_orderly orderlyRun rfl).mpr ?_
  have huncalled : ∀ (w : World) id item, w.items.get? id = some item → item.callbackRan = false →
      ∀ item', w.items.get? id = some item' → item'.callbackRan = false := by
    intro w id item hget hran item' hget'
    rw [hget] at hget'
    rw [← Option.some.inj hget']
    exact hran
  have hnot : ∀ (w : World) id item, w.items.get? id = some item → item.worker ≠ .rejected →
      Orderly w (.callback id) := by
    intro w id item hget hworker item' hget' hrejected
    rw [hget] at hget'
    rw [← Option.some.inj hget'] at hrejected
    exact absurd hrejected hworker
  exact .cons rfl trivial (.cons rfl trivial (.cons rfl trivial (.cons rfl trivial
    (.cons rfl (huncalled _ _ _ rfl rfl) (.cons rfl trivial (.cons rfl (huncalled _ _ _ rfl rfl)
    (.cons rfl trivial (.cons rfl trivial (.cons rfl (hnot _ _ _ rfl Worker.noConfusion)
    (.cons rfl (huncalled _ _ _ rfl rfl) (.cons rfl (huncalled _ _ _ rfl rfl)
    (.cons rfl trivial (.cons rfl (hnot _ _ _ rfl Worker.noConfusion)
    (.cons rfl (hnot _ _ _ rfl Worker.noConfusion) (.cons rfl trivial (.cons rfl trivial
    (.cons rfl trivial (.cons rfl (fun item h _ _ => by cases h; rfl) trivial))))))))))))))))))

end World

end AsyncViz.Instrumentation.Executor
