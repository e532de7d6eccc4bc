/-
  AsyncViz.Runtime.Metrics.Agreement

  A `RuntimeMetricsAggregator` bound to an empty `RuntimeStateStore`, over every run
  of `apply`: its lifecycle counters, the tasks of the registry, the registry's own
  counters and the announced deltas agree after every call.

  The aggregator filters events a second time, with its own window of ids, its own
  mark and rate meters that can raise.  `Bound` is the invariant that makes this
  harmless: the mark stays at or below the store's, the meters keep a bucket, and an
  id that the aggregator remembers belongs to an event the lifecycle admits at most
  once (`Settled`).
-/

import AsyncViz.Runtime.Metrics.Aggregator
import AsyncViz.Runtime.State.Lifecycle
import AsyncViz.Runtime.Tasks.Representation

namespace AsyncViz.Runtime.Metrics

open AsyncViz.Lib AsyncViz.Lib.Transition AsyncViz.Runtime.State AsyncViz.Runtime.Tasks

/-! ## Counting tasks by state -/

/-- Every `TaskState`, in the order of the class. -/
def taskStates : List TaskState := [.created, .running, .waiting, .completed, .cancelled, .failed]

theorem mem_taskStates (state : TaskState) : state ∈ taskStates := by
  cases state <;> decide

/-- The lifecycle counters that count tasks. -/
inductive LifecycleKey where
  | total
  | active
  | completed
  | cancelled
  | failed
  | terminal
deriving DecidableEq, Repr

namespace LifecycleKey

/-- The name of the counter. -/
def name : LifecycleKey → String
  | .total => "total"
  | .active => "active"
  | .completed => "completed"
  | .cancelled => "cancelled"
  | .failed => "failed"
  | .terminal => "terminal"

/-- The states of the tasks it counts. -/
def counts : LifecycleKey → TaskState → Bool
  | .total, _ => true
  | .active, state => !isTerminal state
  | .completed, state => state = .completed
  | .cancelled, state => state = .cancelled
  | .failed, state => state = .failed
  | .terminal, state => isTerminal state

/-- What a task in `state` adds to the counter. -/
def weight (key : LifecycleKey) (state : TaskState) : Int := if key.counts state then 1 else 0

end LifecycleKey

/-- The tasks of the registry that a counter is about. -/
def tasksIn (r : TaskRegistry) (key : LifecycleKey) : List String :=
  r.ids.filter fun id => (r.stateOf id).any key.counts

/-- The registry's own counters of those tasks, added up. -/
def countedIn (m : RegistryMetrics) (key : LifecycleKey) : Int :=
  ((taskStates.filter key.counts).map m.byStateCounts).sum

theorem sum_map_update {l : List TaskState} (hnodup : l.Nodup) (f : TaskState → Int)
    (state : TaskState) (d : Int) :
    (l.map (Function.update f state (f state + d))).sum =
      (l.map f).sum + if state ∈ l then d else 0 := by
  induction l with
  | nil => rfl
  | cons a l ih =>
    obtain ⟨hnot, hrest⟩ := List.nodup_cons.mp hnodup
    rw [List.map_cons, List.sum_cons, ih hrest, List.map_cons, List.sum_cons]
    by_cases ha : a = state
    · rw [← ha, Function.update_self, if_neg hnot, if_pos List.mem_cons_self]
      omega
    · have hmem : state ∈ a :: l ↔ state ∈ l := by
        rw [List.mem_cons, or_iff_right (Ne.symm ha)]
      simp only [Function.update_of_ne ha, hmem]
      omega

/-- Moving one counter by `d` moves the sums it takes part in by `d`. -/
theorem countedIn_update {m m' : RegistryMetrics} {state : TaskState} {d : Int}
    (h : m'.byStateCounts = Function.update m.byStateCounts state (m.byStateCounts state + d))
    (key : LifecycleKey) : countedIn m' key = countedIn m key + d * key.weight state := by
  have hnodup : (taskStates.filter key.counts).Nodup := List.Nodup.filter _ (by decide)
  have hmem : state ∈ taskStates.filter key.counts ↔ key.counts state = true := by
    rw [List.mem_filter, and_iff_right (mem_taskStates state)]
  unfold countedIn LifecycleKey.weight
  rw [h, sum_map_update hnodup]
  simp only [hmem]
  split <;> omega

/-- Each task is in exactly one state. -/
theorem length_filter_eq_sum (ids : List String) (σ : String → Option TaskState)
    (p : TaskState → Bool) :
    ((ids.filter fun id => (σ id).any p).length : Int) =
      ((taskStates.filter p).map fun state =>
        ((ids.filter fun id => σ id = some state).length : Int)).sum := by
  induction ids with
  | nil => simp
  | cons id ids ih =>
    -- the new task adds one to the summand of its own state and nothing to the others
    have hone : ∀ f : TaskState → Int,
        ((taskStates.filter p).map fun state => f state + if σ id = some state then 1 else 0).sum =
          ((taskStates.filter p).map f).sum + if (σ id).any p then 1 else 0 := by
      intro f
      cases hstate : σ id with
      | none => simp
      | some state =>
        have hnodup : (taskStates.filter p).Nodup := List.Nodup.filter _ (by decide)
        have hupdate : (fun s => f s + if some state = some s then (1 : Int) else 0) =
            Function.update f state (f state + 1) := by
          funext s
          by_cases hs : s = state
          · rw [hs, Function.update_self, if_pos rfl]
          · rw [Function.update_of_ne hs, if_neg (fun h => hs (Option.some.inj h).symm)]
            omega
        rw [hupdate, sum_map_update hnodup]
        simp [mem_taskStates]
    have hfilter : ∀ q : String → Bool, (((id :: ids).filter q).length : Int) =
        ((ids.filter q).length : Int) + if q id then 1 else 0 := by
      intro q
      rw [List.filter_cons]
      split <;> simp
    simp only [hfilter, ih, decide_eq_true_eq]
    exact (hone _).symm

/-- The registry's counters count its tasks. -/
theorem length_tasksIn {r : TaskRegistry} (h : r.Indexed) (key : LifecycleKey) :
    ((tasksIn r key).length : Int) = countedIn r.metrics key := by
  rw [tasksIn, countedIn]
  rw [length_filter_eq_sum]
  congr 1
  refine List.map_congr_left fun state _ => ?_
  rw [h.counts_eq]
  -- the bucket of a state and the filter by that state hold the same ids
  have hbucket : TaskIndex.bucket r.index.byState state =
      (r.ids.filter fun id => r.stateOf id = some state).toFinset := by
    ext id
    rw [h.byState, List.mem_toFinset, List.mem_filter, decide_eq_true_eq, TaskRegistry.mem_ids]
    refine ⟨fun hstate => ⟨?_, hstate⟩, And.right⟩
    rw [TaskRegistry.mem_iff_stateOf, hstate]
    rfl
  rw [hbucket, List.toFinset_card_of_nodup (r.nodup_ids.filter _)]

/-! ## What an admitted event adds -/

/-- What a counter gains when a task moves from `current` to `target`. -/
def LifecycleKey.shift (key : LifecycleKey) (current : Option TaskState) (target : TaskState) :
    Int :=
  key.weight target - current.elim 0 key.weight

/-- The registry's counters on an event that the lifecycle admits. -/
theorem countedIn_handleEvent {r : TaskRegistry} (h : r.Kept) (now : ℚ) {event : RuntimeEvent}
    {task : TaskEventBase} {target : TaskState}
    (hallowed : (evaluateTransition (r.stateOf task.taskId) target).allowed = true)
    (hmoved : ∀ id, (r.handleEvent now event).stateOf id =
      if id = task.taskId then some target else r.stateOf id) (key : LifecycleKey) :
    countedIn (r.handleEvent now event).metrics key =
      countedIn r.metrics key + key.shift (r.stateOf task.taskId) target := by
  -- no task is already where an allowed transition takes it
  have hfresh : r.stateOf task.taskId ≠ some target := by
    intro hsame
    rw [hsame] at hallowed
    by_cases hcreated : target = .created
    · rw [hcreated] at hallowed
      cases evaluateTransition_created_allowed_iff.mp hallowed
    · obtain ⟨state, hstate, hcan⟩ := (evaluateTransition_allowed_iff hcreated).mp hallowed
      exact (canTransition_ne hcan).2 (Option.some.inj hstate)
  have hself : (r.handleEvent now event).stateOf task.taskId = some target := by
    rw [hmoved, if_pos rfl]
  have hstep : TaskRegistry.step r (.handleEvent now event) = some (r.handleEvent now event) := rfl
  have hchanges := TaskRegistry.step_changes h.mirrored.tracked hstep
  generalize r.handleEvent now event = r' at hmoved hself hchanges ⊢
  unfold LifecycleKey.shift
  cases hchanges with
  | unchanged _ _ hsame =>
    have hstate : r'.stateOf task.taskId = r.stateOf task.taskId := by
      unfold TaskRegistry.stateOf TaskRegistry.get
      rw [hsame.index_eq]
    rw [hstate] at hself
    exact absurd hself hfresh
  | @enters _ record asked _ _ henters =>
    -- the only task that changes its state is the one of the event
    have hid : record.taskId = task.taskId := by
      by_contra hne
      have hrecord := henters.stateOf_eq record.taskId
      rw [if_pos rfl, hmoved, if_neg hne] at hrecord
      have hmem : record.taskId ∈ r := by
        rw [TaskRegistry.mem_iff_stateOf, hrecord]
        rfl
      exact henters.fresh hmem
    have hnone : r.stateOf task.taskId = none := by
      rw [← hid]
      exact TaskRegistry.stateOf_eq_none_iff.mpr henters.fresh
    have hstate : record.state = target := by
      have hrecord := henters.stateOf_eq record.taskId
      rw [if_pos rfl, hid, hself] at hrecord
      exact (Option.some.inj hrecord).symm
    rw [countedIn_update henters.counts_eq, hstate, hnone, Option.elim_none]
    omega
  | @moves _ record target' _ _ _ hmoves =>
    have hrecord := hmoves.stateOf_eq record.taskId
    have hfound := TaskRegistry.stateOf_of_get hmoves.found
    -- a task that moves changes its state, so it is the one of the event
    have hid : record.taskId = task.taskId := by
      by_contra hne
      rw [if_pos rfl, hmoved, if_neg hne, hfound] at hrecord
      exact (canTransition_ne hmoves.allowed).2 (Option.some.inj hrecord).symm
    have hto : target' = target := by
      rw [if_pos rfl, hid, hself] at hrecord
      exact (Option.some.inj hrecord).symm
    have hcounts : r'.metrics.byStateCounts =
        ((r.metrics.bump record.state (-1)).bump target' 1).byStateCounts := hmoves.counts_eq
    -- `update_state` takes one from the old state and gives one to the new one
    have hold : countedIn (r.metrics.bump record.state (-1)) key =
        countedIn r.metrics key + (-1) * key.weight record.state := countedIn_update rfl key
    rw [countedIn_update hcounts, hold, ← hid, hfound, hto, Option.elim_some]
    omega

theorem get_inc (counters : CounterSet) (key key' : String) (d : Int) :
    (counters.inc key d).get key' = counters.get key' + if key' = key then d else 0 := by
  unfold CounterSet.inc CounterSet.get
  rw [Dict.get?_set]
  split
  · next hkey =>
    rw [hkey]
    rfl
  · omega

/-- The amount a change map has for a key. -/
def amount (changes : List (String × Int)) (key : String) : Int := (changes.lookup key).getD 0

/-- The counters move by exactly the announced changes. -/
theorem applyLifecycle_counts (c : LifecycleCounters) (norm : NormalizedMetricsEvent)
    (key : String) :
    (applyLifecycle c norm).2.counts.get key =
      c.counts.get key + amount (applyLifecycle c norm).1.changes key := by
  -- the three terminal intents share a reducer, and its key is none of the other two
  have hterminal : ∀ (c' : LifecycleCounters) state seconds durations,
      c'.counts = c.counts → state.wire ≠ "active" → state.wire ≠ "terminal" →
      (applyTerminal c' state seconds durations).2.counts.get key =
        c.counts.get key + amount (applyTerminal c' state seconds durations).1.changes key := by
    intro c' state seconds durations hsame hactive hterminal
    rw [applyTerminal, amount]
    simp only [get_inc, hsame, List.lookup_cons, List.lookup_nil, beq_eq_decide]
    by_cases h₁ : key = "active"
    · have h₂ : key ≠ state.wire := by
        rw [h₁]
        exact hactive.symm
      simp [h₁, h₁ ▸ h₂]
    · by_cases h₂ : key = state.wire
      · simp [h₂, hactive, hterminal]
      · by_cases h₃ : key = "terminal"
        · have h₄ : "terminal" ≠ state.wire := hterminal.symm
          simp [h₃, h₄]
        · simp [h₁, h₂, h₃]
  rw [applyLifecycle]
  cases norm.intent with
  | create =>
    simp only [get_inc, amount, List.lookup_cons, List.lookup_nil, beq_eq_decide]
    by_cases h₁ : key = "total"
    · simp [h₁]
    · by_cases h₂ : key = "active" <;> simp [h₁, h₂]
  | wait =>
    simp only [get_inc, amount, List.lookup_cons, List.lookup_nil, beq_eq_decide]
    by_cases h₁ : key = "waiting" <;> simp [h₁]
  | start | resume | ignore => simp [amount]
  | complete | cancel | fail => exact hterminal _ _ _ _ rfl (by decide) (by decide)

/-- The changes announced for each intent. -/
def changesOf : MetricsIntent → List (String × Int)
  | .create => [("total", 1), ("active", 1)]
  | .wait => [("waiting", 1)]
  | .start | .resume | .ignore => []
  | .complete => [("active", -1), ("completed", 1), ("terminal", 1)]
  | .cancel => [("active", -1), ("cancelled", 1), ("terminal", 1)]
  | .fail => [("active", -1), ("failed", 1), ("terminal", 1)]

theorem applyLifecycle_changes (c : LifecycleCounters) (norm : NormalizedMetricsEvent) :
    (applyLifecycle c norm).1.changes = changesOf norm.intent := by
  rw [applyLifecycle]
  cases norm.intent <;> rfl

/-- The announced changes of a lifecycle counter are what the transition adds. -/
theorem amount_changesOf {body : EventBody} {current : Option TaskState} {target : TaskState}
    (htarget : body.targetState? = some target)
    (hallowed : (evaluateTransition current target).allowed = true) (key : LifecycleKey) :
    amount (changesOf (intentByType body)) key.name = key.shift current target := by
  -- a task that moves on is not terminal yet
  have hactive : target ≠ .created → ∃ state, current = some state ∧ isTerminal state = false := by
    intro hcreated
    obtain ⟨state, hstate, hcan⟩ := (evaluateTransition_allowed_iff hcreated).mp hallowed
    refine ⟨state, hstate, Bool.eq_false_iff.mpr fun hterminal => ?_⟩
    rw [canTransition_of_isTerminal hterminal] at hcan
    cases hcan
  cases body with
  | taskCreated task =>
    obtain rfl := Option.some.inj htarget
    rw [evaluateTransition_created_allowed_iff.mp hallowed]
    dsimp only [intentByType]
    cases key <;> decide
  | other eventType fields => cases htarget
  | taskStarted | taskWaiting | taskResumed | taskCompleted | taskCancelled | taskFailed =>
    obtain rfl := Option.some.inj htarget
    obtain ⟨state, rfl, hterminal⟩ := hactive (by decide)
    dsimp only [intentByType]
    revert hterminal
    cases key <;> cases state <;> decide

/-! ## The aggregator's own filters -/

/-- A meter that no snapshot has emptied. -/
def RateMeter.Live (m : RateMeter) : Prop := m.currentBucketStart = none ∨ m.buckets.items ≠ []

theorem RateMeter.Live.observe {m : RateMeter} (h : m.Live) (seconds : ℚ) (count : Int) :
    ∃ m', m.observe seconds count = some m' ∧ m'.Live := by
  -- an empty ring has not started, and then a bucket is pushed first
  have hsome : m.observe seconds count ≠ none := by
    rw [Ne, RateMeter.observe_eq_none_iff]
    rintro ⟨hempty, start, hstart, -⟩
    rcases h with h | h
    · rw [h] at hstart
      cases hstart
    · exact h hempty
  obtain ⟨m', hm'⟩ := Option.ne_none_iff_exists'.mp hsome
  refine ⟨m', hm', .inr ?_⟩
  rw [RateMeter.observe] at hm'
  split at hm'
  · cases hm'
  · next hne =>
    rw [← Option.some.inj hm']
    obtain ⟨init, last, hitems⟩ := (List.eq_nil_or_concat _).resolve_left hne
    have hlast : (addToNewest (m.advance (truncate seconds)).buckets count).items =
        init ++ [last + count] := by
      rw [addToNewest]
      simp [hitems]
    dsimp only
    rw [hlast]
    exact List.append_ne_nil_of_right_ne_nil _ (List.cons_ne_nil _ _)

/-- All four meters are live. -/
structure RateMeters.Live (m : RateMeters) : Prop where
  tasks : m.tasks.Live
  completions : m.completions.Live
  cancellations : m.cancellations.Live
  failures : m.failures.Live

theorem RateMeters.Live.observe {m : RateMeters} (h : m.Live) (intent : MetricsIntent)
    (seconds : ℚ) : ∃ m', m.observe intent seconds = some m' ∧ m'.Live := by
  unfold RateMeters.observe
  cases intent with
  | create =>
    obtain ⟨tasks, htasks, hlive⟩ := h.tasks.observe seconds 1
    exact ⟨{ m with tasks := tasks }, by rw [htasks]; rfl,
      hlive, h.completions, h.cancellations, h.failures⟩
  | complete =>
    obtain ⟨completions, hcompletions, hlive⟩ := h.completions.observe seconds 1
    exact ⟨{ m with completions := completions }, by rw [hcompletions]; rfl,
      h.tasks, hlive, h.cancellations, h.failures⟩
  | cancel =>
    obtain ⟨cancellations, hcancellations, hlive⟩ := h.cancellations.observe seconds 1
    exact ⟨{ m with cancellations := cancellations }, by rw [hcancellations]; rfl,
      h.tasks, h.completions, hlive, h.failures⟩
  | fail =>
    obtain ⟨failures, hfailures, hlive⟩ := h.failures.observe seconds 1
    exact ⟨{ m with failures := failures }, by rw [hfailures]; rfl,
      h.tasks, h.completions, h.cancellations, hlive⟩
  | start | wait | resume | ignore => exact ⟨m, rfl, h⟩

/-- An event whose create or terminal transition has happened: the lifecycle never
    admits it again. -/
def Settled (σ : TaskStates) (body : EventBody) : Prop :=
  ∀ task target, body.task? = some task → body.targetState? = some target →
    (target = .created → σ task.taskId ≠ none) ∧
      (isTerminal target = true → ∃ state, σ task.taskId = some state ∧ isTerminal state = true)

theorem Settled.after {σ : TaskStates} {body : EventBody} (h : Settled σ body)
    (body' : EventBody) : Settled (σ.after body') body := by
  intro task target htask htarget
  obtain ⟨hcreated, hterminal⟩ := h task target htask htarget
  refine ⟨fun hc => TaskStates.after_ne_none (hcreated hc) body', fun ht => ?_⟩
  obtain ⟨state, hstate, hend⟩ := hterminal ht
  exact ⟨state, TaskStates.after_of_isTerminal hstate hend body', hend⟩

/-- The event just admitted is settled. -/
theorem settled_move (σ : TaskStates) (body : EventBody) : Settled (σ.move body) body := by
  intro task target htask htarget
  have hself : σ.move body task.taskId = some target := by
    rw [TaskStates.move]
    rw [htask, htarget]
    exact Function.update_self _ _ _
  rw [hself]
  exact ⟨fun _ => Option.some_ne_none target, fun ht => ⟨target, rfl, ht⟩⟩

/-- A settled event that the lifecycle admits once more moves no lifecycle counter. -/
theorem Settled.amount_eq_zero {σ : TaskStates} {body : EventBody} {task : TaskEventBase}
    {target : TaskState} (h : Settled σ body) (htask : body.task? = some task)
    (htarget : body.targetState? = some target)
    (hallowed : (evaluateTransition (σ task.taskId) target).allowed = true) (key : LifecycleKey) :
    key.shift (σ task.taskId) target = 0 := by
  obtain ⟨hcreated, hterminal⟩ := h task target htask htarget
  by_cases hc : target = .created
  · rw [hc] at hallowed
    exact absurd (evaluateTransition_created_allowed_iff.mp hallowed) (hcreated hc)
  · obtain ⟨state, hstate, hcan⟩ := (evaluateTransition_allowed_iff hc).mp hallowed
    have hend : isTerminal target ≠ true := by
      intro ht
      obtain ⟨state', hstate', hend'⟩ := hterminal ht
      rw [hstate] at hstate'
      rw [Option.some.inj hstate', canTransition_of_isTerminal hend'] at hcan
      cases hcan
    rw [hstate]
    -- between two states that are not terminal only `waiting` could move
    revert hcan hend
    cases key <;> cases state <;> cases target <;> decide

/-! ## Runs -/

/-- A store with an aggregator bound to it, and the deltas announced so far. -/
structure MeteredStore where
  store : RuntimeStateStore
  aggregator : RuntimeMetricsAggregator
  deltas : List MetricsDelta

namespace MeteredStore

/-- An empty store with a new aggregator bound to it. -/
def start (maxDepth : Nat) (window limit rateWindow : ℕ+) : MeteredStore :=
  { store := .sized maxDepth window limit
    aggregator := .new rateWindow rateWindow.pos
    deltas := [] }

/-- One `apply`, with the listener it calls.  What the listener raises is swallowed. -/
def step (m : MeteredStore) (call : ApplyCall) : Option MeteredStore :=
  let (_, store, change) := m.store.apply call.now call.event call.sequence
  match change with
  | none => some { m with store := store }
  | some change =>
    let (_, aggregator, delta) := m.aggregator.applyStateChange change
    some ⟨store, aggregator, m.deltas ++ delta.toList⟩

/-- The sum of the announced changes of a counter. -/
def announced (deltas : List MetricsDelta) (key : String) : Int :=
  (deltas.map fun delta => amount delta.changes key).sum

/-- The aggregator's counters, the registry's tasks, the registry's counters and the
    announced changes agree. -/
structure CountsAgree (m : MeteredStore) : Prop where
  tasks : ∀ key : LifecycleKey,
    m.aggregator.counters.counts.get key.name = (tasksIn m.store.registry key).length
  counted : ∀ key : LifecycleKey,
    m.aggregator.counters.counts.get key.name = countedIn m.store.registry.metrics key
  total : m.aggregator.counters.counts.get "total" = m.store.registry.metrics.total
  deltas : ∀ key : LifecycleKey,
    m.aggregator.counters.counts.get key.name = announced m.deltas key.name

/-- The invariant, over the events `U` of a run. -/
structure Bound (U : RuntimeEvent → Prop) (m : MeteredStore) : Prop where
  kept : m.store.registry.Kept
  behind : m.aggregator.lastSequence ≤ m.store.lastSequence
  live : m.aggregator.rateMeters.Live
  settled : ∀ id ∈ m.aggregator.selfMetrics.seenOrder,
    ∃ event, U event ∧ event.eventId = id ∧ Settled m.store.states event.body
  counted : ∀ key : LifecycleKey,
    m.aggregator.counters.counts.get key.name = countedIn m.store.registry.metrics key
  announced_eq : ∀ key, m.aggregator.counters.counts.get key = announced m.deltas key

theorem Bound.countsAgree {U : RuntimeEvent → Prop} {m : MeteredStore} (h : Bound U m) :
    CountsAgree m := by
  have htasks : ∀ key : LifecycleKey,
      m.aggregator.counters.counts.get key.name = (tasksIn m.store.registry key).length := by
    intro key
    rw [h.counted, length_tasksIn h.kept.indexed]
  refine ⟨htasks, h.counted, ?_, fun key => h.announced_eq key.name⟩
  -- every task of the registry is in some state
  have hall : tasksIn m.store.registry .total = m.store.registry.ids := by
    refine List.filter_eq_self.mpr fun id hid => ?_
    obtain ⟨state, hstate⟩ := Option.isSome_iff_exists.mp (TaskRegistry.mem_iff_stateOf.mp hid)
    rw [hstate]
    rfl
  rw [h.kept.indexed.total_eq, ← hall]
  exact htasks .total

theorem bound_start (U : RuntimeEvent → Prop) (maxDepth : Nat) (window limit rateWindow : ℕ+) :
    Bound U (start maxDepth window limit rateWindow) :=
  { kept := TaskRegistry.kept_initial maxDepth
    behind := le_refl _
    live := ⟨.inl rfl, .inl rfl, .inl rfl, .inl rfl⟩
    settled := fun _ h => by cases h
    counted := fun key => by cases key <;> rfl
    announced_eq := fun _ => rfl }

/-- What the aggregator does with a task event above its mark: it skips one it
    remembers, and counts, remembers and announces any other. -/
theorem applyEvent_cases {a : RuntimeMetricsAggregator} (hlive : a.rateMeters.Live)
    {event : RuntimeEvent} {sequence : Option Int} (htask : event.body.isTaskEvent = true)
    (habove : ∀ n, sequence = some n → a.lastSequence < n) :
    (event.eventId ∈ a.selfMetrics.seenOrder ∧
      (a.applyEvent event sequence).2 =
        ({ a with selfMetrics := a.selfMetrics.recordDuplicate }, none)) ∨
    ∃ rateMeters delta, RateMeters.Live rateMeters ∧
      delta.changes = changesOf (intentByType event.body) ∧
      (a.applyEvent event sequence).2 =
        ({ lastSequence := sequence.getD a.lastSequence
           counters := (applyLifecycle a.counters (normalize event sequence)).2
           rateMeters := rateMeters
           selfMetrics := a.selfMetrics.recordObserved sequence event.eventId }, some delta) := by
  -- neither the ignore branch nor the stale one is taken
  have hintent : intentByType event.body ≠ .ignore := by
    intro hignore
    rw [(intentByType_eq_ignore_iff event.body).mp hignore] at htask
    cases htask
  have hstale : ¬ ∃ n, sequence = some n ∧ n ≤ a.lastSequence := by
    rintro ⟨n, hn, hle⟩
    have hlt := habove n hn
    omega
  unfold RuntimeMetricsAggregator.applyEvent
  have hnorm : (normalize event sequence).intent = intentByType event.body ∧
      (normalize event sequence).eventId = event.eventId ∧
      (normalize event sequence).sequence = sequence := ⟨rfl, rfl, rfl⟩
  obtain ⟨hi, he, hs⟩ := hnorm
  simp only [hi, he, hs, if_neg hintent, if_neg hstale]
  by_cases hseen : event.eventId ∈ a.selfMetrics.seenOrder
  · refine .inl ⟨hseen, ?_⟩
    have hdup : a.selfMetrics.isDuplicate event.eventId = true := decide_eq_true hseen
    rw [if_pos hdup]
  · have hdup : a.selfMetrics.isDuplicate event.eventId = false := decide_eq_false hseen
    obtain ⟨rateMeters, hmeters, hlive'⟩ := hlive.observe (intentByType event.body)
      (RuntimeMetricsAggregator.monotonicSeconds event)
    let outcome := (applyLifecycle a.counters (normalize event sequence)).1
    let delta : MetricsDelta :=
      { event := event
        sequence := sequence
        lastSequence := sequence.getD a.lastSequence
        changes := outcome.changes
        durationAddedSeconds := outcome.durationAddedSeconds
        coroutineName := (normalize event sequence).coroutineName
        terminalState := outcome.terminalState }
    refine .inr ⟨rateMeters, delta, hlive', applyLifecycle_changes _ _, ?_⟩
    rw [hdup, hmeters]
    cases sequence with
    | none => rfl
    | some n =>
      -- a sequence above the mark becomes the mark
      have hmark : n > a.lastSequence := habove n rfl
      simp only [Bool.false_eq_true, if_false, if_pos hmark]
      rfl

theorem announced_append (deltas : List MetricsDelta) (delta : MetricsDelta) (key : String) :
    announced (deltas ++ [delta]) key = announced deltas key + amount delta.changes key := by
  unfold announced
  rw [List.map_append, List.sum_append, List.map_singleton, List.sum_singleton]

theorem mem_recordObserved {m : AggregatorSelfMetrics} {sequence : Option Int} {id eventId : String}
    (h : id ∈ (m.recordObserved sequence eventId).seenOrder) : id ∈ m.seenOrder ∨ id = eventId := by
  have hmem : id ∈ m.seenOrder ++ [eventId] := by
    unfold AggregatorSelfMetrics.recordObserved at h
    dsimp only at h
    split at h
    · exact List.mem_of_mem_tail h
    · exact h
  exact Or.imp_right List.mem_singleton.mp (List.mem_append.mp hmem)

/-- An admitted task event: what the registry's counters gain, the aggregator's
    counters gain as well, or the aggregator skips the event and neither gains. -/
theorem Bound.observe {U : RuntimeEvent → Prop}
    (hunique : ∀ e e', U e → U e' → e.eventId = e'.eventId → e = e')
    {m : MeteredStore} (h : Bound U m) {event : RuntimeEvent} (hevent : U event)
    {sequence : Option Int} {now : ℚ} {store : RuntimeStateStore} {task : TaskEventBase}
    {target : TaskState} (htask : event.body.task? = some task)
    (htarget : event.body.targetState? = some target)
    (htransits : m.store.Transits now event sequence task target store) :
    Bound U ⟨store, (m.aggregator.applyEvent event sequence).2.1,
      m.deltas ++ (m.aggregator.applyEvent event sequence).2.2.toList⟩ := by
  have hmove := htransits.states_eq htask htarget
  obtain ⟨hallowed, hup, hnew, hregistry, -, hafter, hstates⟩ := htransits
  have hkept : store.registry.Kept := by
    rw [hregistry]
    exact h.kept.handleEvent now event
  have hmoved : ∀ id, (m.store.registry.handleEvent now event).stateOf id =
      if id = task.taskId then some target else m.store.registry.stateOf id := by
    intro id
    rw [← hregistry]
    show store.states id = _
    rw [hmove]
    exact Function.update_apply _ _ _ _
  have hcounted : ∀ key : LifecycleKey, countedIn store.registry.metrics key =
      countedIn m.store.registry.metrics key + key.shift (m.store.states task.taskId) target := by
    intro key
    rw [hregistry]
    exact countedIn_handleEvent h.kept now hallowed hmoved key
  have hsettled : ∀ id ∈ m.aggregator.selfMetrics.seenOrder,
      ∃ event', U event' ∧ event'.eventId = id ∧ Settled store.states event'.body := by
    intro id hid
    obtain ⟨event', hU, hid', hsettled⟩ := h.settled id hid
    rw [hafter]
    exact ⟨event', hU, hid', hsettled.after event.body⟩
  have hisTask : event.body.isTaskEvent = true := by
    rw [EventBody.isTaskEvent, htask]
    rfl
  have habove : ∀ n, sequence = some n → m.aggregator.lastSequence < n :=
    fun n hn => lt_of_le_of_lt h.behind (hnew n hn).1
  rcases applyEvent_cases h.live hisTask habove with
    ⟨hseen, hskip⟩ | ⟨meters, delta, hlive, hchanges, htake⟩
  · -- the same event was counted before, and the lifecycle admits it a second time
    obtain ⟨event', hU, hid, hold⟩ := h.settled event.eventId hseen
    obtain rfl := hunique event' event hU hevent hid
    rw [hskip]
    refine ⟨hkept, le_trans h.behind hup, h.live, hsettled, fun key => ?_, fun key => ?_⟩
    · rw [hcounted, hold.amount_eq_zero htask htarget hallowed key, add_zero]
      exact h.counted key
    · rw [Option.toList_none, List.append_nil]
      exact h.announced_eq key
  · rw [htake]
    refine ⟨hkept, ?_, hlive, fun id hid => ?_, fun key => ?_, fun key => ?_⟩
    · show sequence.getD m.aggregator.lastSequence ≤ store.lastSequence
      cases sequence with
      | none => exact le_trans h.behind hup
      | some n => exact (hnew n rfl).2
    · rcases mem_recordObserved hid with hid | rfl
      · exact hsettled id hid
      · refine ⟨event, hevent, rfl, ?_⟩
        rw [hstates]
        exact settled_move m.store.states event.body
    -- both sides gain what the transition adds
    · have hamount := amount_changesOf htarget hallowed key
      dsimp only
      rw [applyLifecycle_counts, applyLifecycle_changes, hcounted, h.counted]
      exact congrArg _ hamount
    · dsimp only
      rw [applyLifecycle_counts, applyLifecycle_changes, Option.toList_some, announced_append,
        h.announced_eq, hchanges]
      rfl

/-- A store that left its tasks alone may take the place of the old one. -/
theorem Bound.idle {U : RuntimeEvent → Prop} {m : MeteredStore} (h : Bound U m)
    {store : RuntimeStateStore} (hidle : m.store.Idle store) :
    Bound U ⟨store, m.aggregator, m.deltas⟩ := by
  refine ⟨?_, h.behind.trans hidle.mark_le, h.live, fun id hid => ?_, fun key => ?_,
    h.announced_eq⟩
  · show store.registry.Kept
    rw [hidle.registry_eq]
    exact h.kept
  · obtain ⟨event, hU, hid', hsettled⟩ := h.settled id hid
    exact ⟨event, hU, hid', hidle.states_eq.symm ▸ hsettled⟩
  · show _ = countedIn store.registry.metrics key
    rw [hidle.registry_eq]
    exact h.counted key

/-- The aggregator ignores what is no task event. -/
theorem applyEvent_of_not_task (a : RuntimeMetricsAggregator) {event : RuntimeEvent}
    (sequence : Option Int) (h : event.body.isTaskEvent = false) :
    (a.applyEvent event sequence).2 = (a, none) := by
  have hignore : (normalize event sequence).intent = .ignore :=
    (intentByType_eq_ignore_iff event.body).mpr h
  exact congrArg Prod.snd (if_pos hignore)

/-- One call keeps the invariant. -/
theorem Bound.step {U : RuntimeEvent → Prop}
    (hunique : ∀ e e', U e → U e' → e.eventId = e'.eventId → e = e')
    {m m' : MeteredStore} {call : ApplyCall} (h : Bound U m) (hcall : U call.event)
    (hstep : step m call = some m') : Bound U m' := by
  have hadvances := RuntimeStateStore.apply_advances m.store call.now call.event call.sequence
  rw [MeteredStore.step] at hstep
  generalize m.store.apply call.now call.event call.sequence = r at hadvances hstep
  cases hadvances with
  | refused decision_ne idle =>
    obtain rfl := Option.some.inj hstep
    exact h.idle idle
  | @other store task_eq idle =>
    obtain rfl := Option.some.inj hstep
    have hother := EventBody.isTaskEvent_eq_false_iff.mpr task_eq
    show Bound U ⟨store, (m.aggregator.applyEvent call.event call.sequence).2.1,
      m.deltas ++ (m.aggregator.applyEvent call.event call.sequence).2.2.toList⟩
    rw [applyEvent_of_not_task _ _ hother, Option.toList_none, List.append_nil]
    exact h.idle idle
  | moved task_eq target_eq transits =>
    obtain rfl := Option.some.inj hstep
    exact h.observe hunique hcall task_eq target_eq transits

/-- Over every run of `apply` on events with unique ids, the aggregator's lifecycle
    counters count the tasks of the registry, as the registry's own counters do, and
    are the sums of the announced changes, after every call. -/
theorem counts_agree (maxDepth : Nat) (window limit rateWindow : ℕ+) (calls : List ApplyCall)
    (hunique : ∀ a ∈ calls, ∀ b ∈ calls, a.event.eventId = b.event.eventId → a.event = b.event) :
    AllStates MeteredStore.step CountsAgree (start maxDepth window limit rateWindow) calls := by
  -- the events of the run, among which an id names one event
  let U : RuntimeEvent → Prop := fun event => ∃ call ∈ calls, call.event = event
  have hU : ∀ e e', U e → U e' → e.eventId = e'.eventId → e = e' := by
    rintro e e' ⟨a, ha, rfl⟩ ⟨b, hb, rfl⟩ hid
    exact hunique a ha b hb hid
  have hcalls : AllSteps MeteredStore.step (fun _ call => U call.event)
      (start maxDepth window limit rateWindow) calls :=
    allSteps_of_forall_mem fun call hcall => ⟨call, hcall, rfl⟩
  have hbound := allStates_of_allSteps (I := Bound U) (fun m call m' h hcall hstep =>
    h.step hU hcall hstep) (bound_start U maxDepth window limit rateWindow) hcalls
  exact hbound.mono fun m h => h.countsAgree

/-- A task is created and completed, and its creation is redelivered without a sequence. -/
private def meteredRun : List ApplyCall :=
  let birth : RuntimeEvent := { eventId := "e1", body := .taskCreated { taskId := "t" } }
  let finish : RuntimeEvent := { eventId := "e2", body := .taskCompleted { taskId := "t" } {} }
  [⟨birth, some 1, 0⟩, ⟨finish, some 2, 0⟩, ⟨birth, none, 0⟩]

theorem counts_agree_redelivered :
    AllStates MeteredStore.step CountsAgree (start 64 4096 1024 30) meteredRun := by
  refine counts_agree 64 4096 1024 30 meteredRun ?_
  intro a ha b hb hid
  simp only [meteredRun, List.mem_cons, List.not_mem_nil, or_false] at ha hb
  rcases ha with rfl | rfl | rfl <;> rcases hb with rfl | rfl | rfl <;>
    first | rfl | exact absurd hid (by decide)

end MeteredStore

end AsyncViz.Runtime.Metrics
