/-
  AsyncViz.Runtime.Events.Delivery

  What the subscribers of a bus get, and what becomes of the events.

  `Plain` is the bus as its users see it: the list of subscriptions, which `subscribe` and
  `unsubscribe` change and every taken event is for.  In every run the registry is that list, and
  what `matching` gives for an event are the subscriptions that accept it (`Agrees`).

  `Sound` is the invariant of the runs in which `start` is not called while a `stop` waits: where
  the dispatcher can be (`Phases`), what is called for a taken event (`Delivering`), and how the
  counters and the queue hang together with the events (`Accounts`).  Each action has its lemma.

  `Settled` is what has become of the events when nothing happens but that the loop and the
  callbacks go on; `work` goes down with each of these steps, whichever comes next.
-/

import AsyncViz.Runtime.Events.Bus
import Mathlib.Algebra.GroupWithZero.Nat
import Mathlib.Data.Finset.Card

namespace AsyncViz.Runtime.Events

open AsyncViz.Lib AsyncViz.Lib.Transition

/-! ## The bus of its users -/

/-- The subscriptions, the number of those ever made, and for each taken event those that there
    were then. -/
structure Plain where
  made : Nat := 0
  subs : List Subscription := []
  taken : List (List Subscription) := []

/-- What an action does to it. -/
def Plain.next (p : Plain) : EventBus.Action → Plain
  | .subscribe eventTypes =>
    if SubscriptionRegistry.validTypes eventTypes then
      { p with
        made := p.made + 1
        subs := p.subs ++ [⟨p.made + 1, eventTypes.map List.dedup⟩] }
    else p
  | .unsubscribe subId => { p with subs := p.subs.filter (·.id ≠ subId) }
  | .take _ _ => { p with taken := p.taken ++ [p.subs] }
  | _ => p

/-- The users' view after these actions. -/
def plain (acts : List EventBus.Action) : Plain := acts.foldl Plain.next {}

theorem plain_concat (acts : List EventBus.Action) (a : EventBus.Action) :
    plain (acts ++ [a]) = (plain acts).next a := by
  rw [plain, List.foldl_append]
  rfl

/-- The order of a fan-out has each subscription once that was there and accepts the event. -/
structure Taking.Lists (taking : Taking) : Prop where
  nodup : taking.order.Nodup
  mem : ∀ i, i ∈ taking.order ↔ ∃ sub ∈ taking.live, sub.id = i ∧
    sub.Accepts taking.event.eventType

namespace EventBus

variable {b b' : EventBus}

/-- The registry has the subscriptions of the users' view, and had them for each taken event. -/
structure Agrees (p : Plain) (b : EventBus) : Prop where
  indexed : b.registry.Indexed
  made : b.registry.nextId = p.made
  subs : b.registry.subscriptions = p.subs
  taken : b.taken.map (·.live) = p.taken
  lists : ∀ taking ∈ b.taken, taking.Lists

theorem agrees_new (maxsize : Nat) : Agrees {} (new maxsize) where
  indexed := SubscriptionRegistry.indexed_new
  made := rfl
  subs := rfl
  taken := rfl
  lists _ h := absurd h List.not_mem_nil

/-- Nobody subscribes or unsubscribes, and no event is taken. -/
def Aside (b b' : EventBus) : Prop := b'.registry = b.registry ∧ b'.taken = b.taken

theorem Agrees.aside {p : Plain} (h : Agrees p b) (haside : Aside b b') : Agrees p b' where
  indexed := haside.1 ▸ h.indexed
  made := haside.1 ▸ h.made
  subs := haside.1 ▸ h.subs
  taken := haside.2 ▸ h.taken
  lists := haside.2 ▸ h.lists

theorem aside_enqueueLocal (b : EventBus) (event : RuntimeEvent) :
    Aside b (b.enqueueLocal event).2 := by
  rcases enqueueLocal_cases b event with heq | ⟨queue, -, -, heq⟩ <;> rw [heq] <;> exact ⟨rfl, rfl⟩

theorem aside_publish (b : EventBus) (onLoop : Bool) (event : RuntimeEvent) :
    Aside b (b.publish onLoop event).2 := by
  unfold publish
  dsimp only
  split
  · exact ⟨rfl, rfl⟩
  · split
    · exact aside_enqueueLocal { b with publishCalls := b.publishCalls + 1 } event
    · exact ⟨rfl, rfl⟩

theorem aside_forget (b : EventBus) : Aside b b.forget := by
  rw [forget]
  split <;> exact ⟨rfl, rfl⟩

theorem aside_stop (b : EventBus) : Aside b b.stop := by
  rw [stop]
  split
  · split
    · exact ⟨rfl, rfl⟩
    · exact ⟨rfl, rfl⟩
    · exact aside_forget { b with running := false }
    · exact aside_forget { b with running := false }
  · exact ⟨rfl, rfl⟩

theorem aside_ended (b : EventBus) (call : Call) (ending : Ending) :
    Aside b (b.ended call ending) := by
  cases ending <;> exact ⟨rfl, rfl⟩

/-- A forgotten dispatcher looks its subscriptions up where the other does. -/
theorem byDispatcher_cases {orphan : Option Nat} {act : EventBus → Option EventBus}
    (h : b.byDispatcher orphan act = some b') :
    ∃ c c', Aside b c ∧ act c = some c' ∧ Aside c' b' := by
  cases orphan with
  | none => exact ⟨b, b', ⟨rfl, rfl⟩, h, ⟨rfl, rfl⟩⟩
  | some index =>
    obtain ⟨orphan, -, hstep⟩ := Option.bind_eq_some_iff.mp h
    obtain ⟨c', hact, rfl⟩ := Option.map_eq_some_iff.mp hstep
    exact ⟨{ b with queue := some orphan.queue, dispatcher := orphan.dispatcher }, c',
      ⟨rfl, rfl⟩, hact, ⟨rfl, rfl⟩⟩

theorem agrees_subscribe {p : Plain} (h : Agrees p b) (eventTypes : Option (List String)) :
    Agrees (p.next (.subscribe eventTypes))
      { b with registry := (b.registry.add eventTypes).2 } := by
  have hadded := SubscriptionRegistry.subscriptions_add h.indexed eventTypes
  have hindexed := SubscriptionRegistry.indexed_add h.indexed eventTypes
  rw [Plain.next]
  rcases SubscriptionRegistry.add_cases b.registry eventTypes with ⟨e, heq, hvalid⟩ |
    ⟨sub, r', heq, hvalid, -, hnext, -⟩
  · rw [hvalid, if_neg Bool.false_ne_true]
    exact h.aside ⟨congrArg Prod.snd heq, rfl⟩
  · rw [hvalid, if_pos rfl] at hadded
    rw [hvalid, if_pos rfl]
    refine ⟨hindexed, ?_, ?_, h.taken, h.lists⟩
    · dsimp only
      rw [heq, hnext, h.made]
    · dsimp only
      rw [hadded, h.subs, h.made]

theorem agrees_unsubscribe {p : Plain} (h : Agrees p b) (subId : Nat) :
    Agrees (p.next (.unsubscribe subId))
      { b with registry := (b.registry.remove subId).2 } := by
  have hnextId : (b.registry.remove subId).2.nextId = b.registry.nextId := by
    rcases SubscriptionRegistry.remove_cases b.registry subId with ⟨-, heq⟩ |
      ⟨sub, r', -, heq, hnext, -⟩
    · rw [heq]
    · rw [heq, hnext]
  exact ⟨SubscriptionRegistry.indexed_remove h.indexed subId, hnextId.trans h.made,
    (SubscriptionRegistry.subscriptions_remove h.indexed subId).trans
      (congrArg (List.filter (·.id ≠ subId)) h.subs), h.taken, h.lists⟩

/-- The order of a fan-out is one of the ids that the index gives. -/
theorem agrees_take {p : Plain} (h : Agrees p b) {order : List Nat}
    (htake : b.take order = some b') : Agrees (p.next (.take none order)) b' := by
  obtain ⟨event, rest, -, -, hnodup, hmem, rfl⟩ := take_cases htake
  -- the index finds what a look at every subscription finds
  have hlists : Taking.Lists ⟨event, b.registry.subscriptions, order⟩ := by
    refine ⟨hnodup, fun i => ?_⟩
    dsimp only
    rw [hmem, h.indexed.mem_matching]
    constructor
    · rintro ⟨sub, hget, haccepts⟩
      exact ⟨sub, SubscriptionRegistry.mem_subscriptions.mpr ⟨i, hget⟩,
        h.indexed.keyed i sub hget, haccepts⟩
    · rintro ⟨sub, hsub, rfl, haccepts⟩
      obtain ⟨i, hget⟩ := SubscriptionRegistry.mem_subscriptions.mp hsub
      exact ⟨sub, (h.indexed.keyed i sub hget) ▸ hget, haccepts⟩
  have htaken : (b.taken ++ [Taking.mk event b.registry.subscriptions order]).map (·.live)
      = p.taken ++ [p.subs] := by
    rw [List.map_append, h.taken, List.map_singleton, h.subs]
  have hall : ∀ taking ∈ b.taken ++ [Taking.mk event b.registry.subscriptions order],
      taking.Lists := by
    intro taking htaking
    rcases List.mem_append.mp htaking with htaking | htaking
    · exact h.lists taking htaking
    · rw [List.mem_singleton.mp htaking]
      exact hlists
  split
  · exact ⟨h.indexed, h.made, h.subs, htaken, hall⟩
  · exact ⟨h.indexed, h.made, h.subs, htaken, hall⟩

theorem aside_runCallback (hstep : b.step .runCallback = some b') : Aside b b' := by
  unfold step at hstep
  dsimp only at hstep
  split at hstep
  · cases hstep
  · next event rest _ =>
    cases hstep
    exact aside_enqueueLocal { b with callbacks := rest } event

theorem aside_beginCall {ending : Option Ending} (hbegin : b.beginCall ending = some b') :
    Aside b b' := by
  unfold beginCall at hbegin
  split at hbegin
  · cases hbegin
  · next call waiting _ =>
    cases ending with
    | none =>
      cases hbegin
      exact ⟨rfl, rfl⟩
    | some ending =>
      cases hbegin
      exact aside_ended { b with waiting := waiting, invoked := b.invoked ++ [call] } call ending

theorem aside_finishCall {index : Nat} {ending : Ending}
    (hfinish : b.finishCall index ending = some b') : Aside b b' := by
  unfold finishCall at hfinish
  split at hfinish
  · cases hfinish
  · next call _ =>
    cases hfinish
    exact aside_ended { b with active := b.active.eraseIdx index } call ending

theorem aside_complete (hcomplete : b.complete = some b') : Aside b b' := by
  obtain ⟨batch, -, -, rfl⟩ := complete_cases hcomplete
  exact ⟨rfl, rfl⟩

/-- Each action changes the registry as it changes the list; all but four change neither. -/
theorem agrees_step {p : Plain} {a : Action} (h : Agrees p b) (hstep : b.step a = some b') :
    Agrees (p.next a) b' := by
  cases a with
  | subscribe eventTypes =>
    cases hstep
    exact agrees_subscribe h eventTypes
  | unsubscribe subId =>
    cases hstep
    exact agrees_unsubscribe h subId
  -- a dispatcher that was left behind works on a bus of its own
  | take orphan order =>
    have htaken : b.byDispatcher orphan (take · order) = some b' := hstep
    obtain ⟨c, c', hc, htake, hc'⟩ := byDispatcher_cases htaken
    exact (agrees_take (h.aside hc) htake).aside hc'
  | complete orphan =>
    have hover : b.byDispatcher orphan complete = some b' := hstep
    obtain ⟨c, c', hc, hcomplete, hc'⟩ := byDispatcher_cases hover
    exact ((h.aside hc).aside (aside_complete hcomplete)).aside hc'
  | start =>
    cases hstep
    rw [start]
    split
    · exact h
    · exact h.aside ⟨rfl, rfl⟩
  | stop =>
    cases hstep
    exact h.aside (aside_stop b)
  | stopped =>
    obtain ⟨-, heq⟩ := Option.ite_none_left_eq_some.mp hstep
    cases heq
    exact h.aside (aside_forget { b with stopping := b.stopping - 1 })
  | publish onLoop event =>
    cases hstep
    exact h.aside (aside_publish b onLoop event)
  | runCallback => exact h.aside (aside_runCallback hstep)
  | beginCall ending => exact h.aside (aside_beginCall hstep)
  | finishCall index ending => exact h.aside (aside_finishCall hstep)

/-! ## The phases -/

/-- No dispatcher is forgotten: one that lives is that of a running bus, and only a bus that has
    stopped is without a queue. -/
structure Phases (b : EventBus) : Prop where
  alone : b.orphans = []
  off : b.running = false → b.dispatcher.alive = false ∧ (b.stopping = 0 → b.queue = none)
  on : b.running = true → b.stopping = 0 ∧ b.queue.isSome = true

theorem phases_new (maxsize : Nat) : Phases (new maxsize) where
  alone := rfl
  off _ := ⟨rfl, fun _ => rfl⟩
  on h := by cases h

theorem Phases.running_of_alive (h : Phases b) (halive : b.dispatcher.alive = true) :
    b.running = true := by
  by_contra hoff
  rw [(h.off (by simpa using hoff)).1] at halive
  cases halive

/-- There is no one for a step of a forgotten dispatcher. -/
theorem Phases.own {orphan : Option Nat} {act : EventBus → Option EventBus} (h : Phases b)
    (hstep : b.byDispatcher orphan act = some b') : orphan = none ∧ act b = some b' := by
  cases orphan with
  | none => exact ⟨rfl, hstep⟩
  | some index =>
    obtain ⟨orphan, hget, -⟩ := Option.bind_eq_some_iff.mp hstep
    rw [h.alone] at hget
    cases hget

/-- What the end of a callback does when there is one dispatcher. -/
theorem Phases.ended_cancelled (h : Phases b) (call : Call) : b.ended call .cancelled =
    if b.dispatcher = .fanning call.batch then { b with dispatcher := .dead, cut := b.cut + 1 }
    else b := by
  have horphans : b.orphans.map (fun o => { o with
      dispatcher := o.dispatcher.cancelled call.batch }) = b.orphans := by
    rw [h.alone]
    rfl
  have hany : b.orphans.any (fun o => decide (o.dispatcher = .fanning call.batch)) = false := by
    rw [h.alone]
    rfl
  rw [ended]
  dsimp only
  rw [horphans, hany, Dispatcher.cancelled, Bool.or_false]
  split
  · next hfanning => rw [if_pos (decide_eq_true hfanning)]
  · next hfanning => rw [if_neg (by simpa using hfanning), Nat.add_zero]

/-! ## The calls -/

/-- The calls for one event. -/
def callsOf (batch : Nat) (calls : List Call) : List Call := calls.filter (·.batch = batch)

theorem callsOf_append (batch : Nat) (calls calls' : List Call) :
    callsOf batch (calls ++ calls') = callsOf batch calls ++ callsOf batch calls' :=
  List.filter_append ..

theorem callsOf_calls (taking : Taking) (batch : Nat) :
    callsOf batch (taking.calls batch) = taking.calls batch := by
  refine List.filter_eq_self.mpr fun call hcall => ?_
  obtain ⟨sub, -, rfl⟩ := List.mem_map.mp hcall
  exact decide_eq_true rfl

theorem callsOf_eq_nil {batch : Nat} {calls : List Call} (h : ∀ call ∈ calls, call.batch ≠ batch) :
    callsOf batch calls = [] :=
  List.filter_eq_nil_iff.mpr fun call hcall => by simpa using h call hcall

theorem batch_of_mem_calls {taking : Taking} {batch : Nat} {call : Call}
    (h : call ∈ taking.calls batch) : call.batch = batch := by
  obtain ⟨sub, -, rfl⟩ := List.mem_map.mp h
  rfl

/-- The calls of the taken events, begun or not. -/
def calls (b : EventBus) : List Call := b.invoked ++ b.waiting

/-- The invariant of the calls: those for an event are the first of its order, all of them as
    long as its fan-out goes on, and all are begun once it has gone through. -/
structure Delivering (b : EventBus) : Prop where
  inOrder : b.calls.Pairwise fun c d => c.batch ≤ d.batch
  taken : ∀ call ∈ b.calls, call.batch < b.taken.length
  begun : ∀ (n : Nat) taking, b.taken[n]? = some taking → callsOf n b.calls <+: taking.calls n
  current : ∀ n, b.dispatcher = .fanning n →
    ∃ taking, b.taken[n]? = some taking ∧ callsOf n b.calls = taking.calls n
  finished : ∀ n ∈ b.finished,
    ∃ taking, b.taken[n]? = some taking ∧ callsOf n b.invoked = taking.calls n

theorem delivering_new (maxsize : Nat) : Delivering (new maxsize) where
  inOrder := List.Pairwise.nil
  taken _ h := absurd h List.not_mem_nil
  begun _ _ h := by cases h
  current _ h := by cases h
  finished _ h := absurd h List.not_mem_nil

/-- A step that takes no event and ends no fan-out: calls are begun, or those that wait for one
    event go. -/
theorem Delivering.moved (h : Delivering b) (htaken : b'.taken = b.taken)
    (hcalls : b'.calls.Sublist b.calls) (hbegun : ∀ n, callsOf n b'.calls <+: callsOf n b.calls)
    (hinvoked : b.invoked <+: b'.invoked)
    (hcurrent : ∀ n, b'.dispatcher = .fanning n →
      b.dispatcher = .fanning n ∧ callsOf n b'.calls = callsOf n b.calls)
    (hfinished : b'.finished = b.finished) : Delivering b' where
  inOrder := h.inOrder.sublist hcalls
  taken call hcall := htaken ▸ h.taken call (hcalls.subset hcall)
  begun n taking hget := (hbegun n).trans (h.begun n taking (htaken ▸ hget))
  current n hn := by
    obtain ⟨hwas, hsame⟩ := hcurrent n hn
    rw [htaken, hsame]
    exact h.current n hwas
  finished n hn := by
    obtain ⟨taking, hget, hall⟩ := h.finished n (hfinished ▸ hn)
    -- there is no call for the event beyond those that were begun
    have hfirst : taking.calls n <+: callsOf n b'.invoked := hall ▸ hinvoked.filter _
    have hlast : callsOf n b'.invoked <+: taking.calls n := by
      refine List.IsPrefix.trans ?_ ((hbegun n).trans (h.begun n taking hget))
      exact (List.prefix_append b'.invoked b'.waiting).filter _
    exact ⟨taking, htaken ▸ hget, hlast.eq_of_length (Nat.le_antisymm hlast.length_le
      hfirst.length_le)⟩

/-- The head of the calls that wait is begun. -/
theorem Delivering.begin (h : Delivering b) {call : Call} {waiting : List Call}
    (hwaiting : b.waiting = call :: waiting) (active : List Call) :
    Delivering { b with
      waiting := waiting, invoked := b.invoked ++ [call], active := active } := by
  have hsame : (b.invoked ++ [call]) ++ waiting = b.calls := by
    rw [calls, hwaiting, List.append_assoc]
    rfl
  refine h.moved rfl ?_ (fun n => ?_) (List.prefix_append _ _) (fun n hn => ⟨hn, ?_⟩) rfl
  · exact hsame ▸ List.Sublist.refl _
  · exact hsame ▸ List.prefix_rfl
  · exact congrArg (callsOf n) hsame

/-- An event is taken: its calls come behind all others, and nobody has to be called for one that
    is done at once. -/
theorem Delivering.took (h : Delivering b) {taking : Taking}
    (htaken : b'.taken = b.taken ++ [taking]) (hinvoked : b'.invoked = b.invoked)
    (hcalls : b'.calls = b.calls ++ taking.calls b.taken.length)
    (hfanning : ∀ n, b'.dispatcher = .fanning n → n = b.taken.length)
    (hfinished : ∀ n ∈ b'.finished,
      n ∈ b.finished ∨ n = b.taken.length ∧ taking.order = []) : Delivering b' := by
  have hlength : b'.taken.length = b.taken.length + 1 := by rw [htaken, List.length_append]; rfl
  have hlast : b'.taken[b.taken.length]? = some taking := htaken ▸ List.getElem?_concat_length
  have hold : ∀ n < b.taken.length, b'.taken[n]? = b.taken[n]? := fun n hn =>
    htaken ▸ List.getElem?_append_left hn
  -- so far no call is for the new event
  have hnone : callsOf b.taken.length b.calls = [] :=
    callsOf_eq_nil fun call hcall => Nat.ne_of_lt (h.taken call hcall)
  have hnew : callsOf b.taken.length b'.calls = taking.calls b.taken.length := by
    rw [hcalls, callsOf_append, hnone, callsOf_calls, List.nil_append]
  have hsame : ∀ n < b.taken.length, callsOf n b'.calls = callsOf n b.calls := by
    intro n hn
    have hothers : callsOf n (taking.calls b.taken.length) = [] := callsOf_eq_nil fun call hcall =>
      batch_of_mem_calls hcall ▸ Nat.ne_of_gt hn
    rw [hcalls, callsOf_append, hothers, List.append_nil]
  refine ⟨?_, fun call hcall => ?_, fun n found hget => ?_, fun n hn => ?_, fun n hn => ?_⟩
  · rw [hcalls]
    refine List.pairwise_append.mpr ⟨h.inOrder, ?_, fun c hc d hd => ?_⟩
    · exact List.pairwise_map.mpr (List.pairwise_of_forall fun _ _ => Nat.le_refl _)
    · rw [batch_of_mem_calls hd]
      exact Nat.le_of_lt (h.taken c hc)
  · rw [hlength]
    rw [hcalls] at hcall
    rcases List.mem_append.mp hcall with hcall | hcall
    · exact Nat.lt_succ_of_lt (h.taken call hcall)
    · exact Nat.lt_succ_of_le (Nat.le_of_eq (batch_of_mem_calls hcall))
  · have hle := (List.getElem?_eq_some_iff.mp hget).1
    rw [hlength] at hle
    rcases Nat.lt_or_eq_of_le (Nat.le_of_lt_succ hle) with hn | rfl
    · rw [hsame n hn]
      exact h.begun n found (hold n hn ▸ hget)
    · rw [hnew, Option.some.inj (hget.symm.trans hlast)]
  · obtain rfl := hfanning n hn
    exact ⟨taking, hlast, hnew⟩
  · rcases hfinished n hn with hn | ⟨rfl, hnil⟩
    · obtain ⟨found, hget, hall⟩ := h.finished n hn
      exact ⟨found, (hold n (List.getElem?_eq_some_iff.mp hget).1).trans hget, hinvoked ▸ hall⟩
    · rw [calls, callsOf_append] at hnone
      refine ⟨taking, hlast, ?_⟩
      rw [hinvoked, (List.append_eq_nil_iff.mp hnone).1, Taking.calls, hnil]
      rfl

theorem Delivering.take (h : Delivering b) {order : List Nat} (htake : b.take order = some b') :
    Delivering b' := by
  obtain ⟨event, rest, hidle, -, -, -, rfl⟩ := take_cases htake
  split
  · next hnil =>
    refine h.took rfl rfl ?_ (fun n hn => ?_) (fun n hn => ?_)
    · rw [Taking.calls, hnil]
      exact (List.append_nil _).symm
    · rw [hidle] at hn
      cases hn
    · exact (List.mem_append.mp hn).imp_right fun hn => ⟨List.mem_singleton.mp hn, hnil⟩
  · refine h.took rfl rfl (List.append_assoc ..).symm (fun n hn => ?_) (fun n hn => .inl hn)
    cases hn
    rfl

/-- A fan-out goes through with its last call. -/
theorem Delivering.complete (h : Delivering b) (hcomplete : b.complete = some b') :
    Delivering b' := by
  obtain ⟨batch, hfanning, hover, rfl⟩ := complete_cases hcomplete
  refine ⟨h.inOrder, h.taken, h.begun, fun n hn => (by cases hn), fun n hn => ?_⟩
  rcases List.mem_append.mp hn with hn | hn
  · exact h.finished n hn
  · rw [List.mem_singleton.mp hn]
    obtain ⟨taking, hget, hall⟩ := h.current batch hfanning
    have hwaiting : callsOf batch b.waiting = [] :=
      callsOf_eq_nil fun call hcall => hover call (List.mem_append_left _ hcall)
    rw [calls, callsOf_append, hwaiting, List.append_nil] at hall
    exact ⟨taking, hget, hall⟩

/-! ## The counters -/

/-- The invariant of the counters and of the queue. -/
structure Accounts (b : EventBus) : Prop where
  calls : b.publishCalls = b.metrics.published + b.metrics.dropped + b.callbacks.length
  accepted : b.accepted.length = b.metrics.published
  fifo : (b.taken.map (·.event) ++ b.queued).Sublist b.accepted
  events : b.accepted.length = b.taken.length + b.queued.length + b.discarded
  fanOuts : b.taken.length = b.metrics.dispatched + b.cut + b.dispatcher.fanOuts
  finished : b.finished.length = b.metrics.dispatched
  bound : b.maxsize = 0 ∨ b.queued.length ≤ b.maxsize

theorem accounts_new (maxsize : Nat) : Accounts (new maxsize) where
  calls := rfl
  accepted := rfl
  fifo := List.Sublist.refl _
  events := rfl
  fanOuts := rfl
  finished := rfl
  bound := .inr (Nat.zero_le _)

theorem fanOuts_of_not_alive (halive : b.dispatcher.alive = false) : b.dispatcher.fanOuts = 0 := by
  cases hdispatcher : b.dispatcher with
  | idle => rfl
  | absent => rfl
  | dead => rfl
  | fanning batch =>
    rw [hdispatcher] at halive
    cases halive

/-- A queue that goes, with what is on it. -/
theorem Accounts.emptied (h : Accounts b) :
    (b.taken.map Taking.event ++ []).Sublist b.accepted ∧
      b.accepted.length = b.taken.length + 0 + (b.discarded + b.queued.length) := by
  have hevents := h.events
  refine ⟨List.Sublist.trans ?_ h.fifo, by omega⟩
  exact (List.append_nil _).symm ▸ List.sublist_append_left _ _

/-- A taken event leaves the queue for the fan-out, or is dispatched at once. -/
theorem Accounts.take (h : Accounts b) {order : List Nat} (htake : b.take order = some b') :
    Accounts b' := by
  obtain ⟨event, rest, hidle, hqueue, -, -, rfl⟩ := take_cases htake
  have hqueued : b.queued = event :: rest := by rw [queued, hqueue]; rfl
  have hfifo := h.fifo
  have hevents := h.events
  have hfanOuts := h.fanOuts
  have hbound := h.bound
  rw [hqueued] at hfifo hevents hbound
  rw [hidle] at hfanOuts
  have hmoved : ((b.taken ++ [Taking.mk event b.registry.subscriptions order]).map (·.event)
      ++ rest).Sublist b.accepted := by
    rw [List.map_append, List.append_assoc]
    exact hfifo
  have hlength : (b.taken ++ [Taking.mk event b.registry.subscriptions order]).length
      = b.taken.length + 1 := List.length_append
  have hcounted : b.accepted.length
      = (b.taken ++ [Taking.mk event b.registry.subscriptions order]).length + rest.length
        + b.discarded := by
    rw [hevents, hlength, List.length_cons]
    omega
  have hless : b.maxsize = 0 ∨ rest.length ≤ b.maxsize :=
    hbound.imp_right fun hle => Nat.le_of_succ_le hle
  split
  · -- nobody subscribed: the fan-out is over at once
    refine ⟨h.calls, h.accepted, hmoved, hcounted, ?_, ?_, hless⟩
    · show (b.taken ++ [Taking.mk event b.registry.subscriptions order]).length
        = b.metrics.dispatched + 1 + b.cut + b.dispatcher.fanOuts
      rw [hlength, hfanOuts, hidle]
      simp only [Dispatcher.fanOuts]
      omega
    · show (b.finished ++ [b.taken.length]).length = b.metrics.dispatched + 1
      rw [List.length_append, h.finished]
      rfl
  · -- it begins
    refine ⟨h.calls, h.accepted, hmoved, hcounted, ?_, h.finished, hless⟩
    show (b.taken ++ [Taking.mk event b.registry.subscriptions order]).length
      = b.metrics.dispatched + b.cut + 1
    rw [hlength, hfanOuts]
    rfl

theorem Accounts.complete (h : Accounts b) (hcomplete : b.complete = some b') : Accounts b' := by
  obtain ⟨batch, hfanning, -, rfl⟩ := complete_cases hcomplete
  have hfanOuts := h.fanOuts
  rw [hfanning] at hfanOuts
  refine ⟨h.calls, h.accepted, h.fifo, h.events, ?_, ?_, h.bound⟩
  · show b.taken.length = b.metrics.dispatched + 1 + b.cut + 0
    rw [hfanOuts]
    simp only [Dispatcher.fanOuts]
    omega
  · show (b.finished ++ [batch]).length = b.metrics.dispatched + 1
    rw [List.length_append, h.finished]
    rfl

/-! ## One step -/

/-- The invariant of a bus whose `start` is not called while a `stop` waits. -/
structure Sound (b : EventBus) : Prop where
  phases : Phases b
  delivering : Delivering b
  accounts : Accounts b

theorem sound_new (maxsize : Nat) : Sound (new maxsize) :=
  ⟨phases_new maxsize, delivering_new maxsize, accounts_new maxsize⟩

theorem Sound.withRegistry (h : Sound b) (registry : SubscriptionRegistry) :
    Sound { b with registry := registry } :=
  ⟨{ h.phases with }, { h.delivering with }, { h.accounts with }⟩

/-- An event that another step has counted as on its way is enqueued or dropped. -/
theorem Sound.enqueueLocal (h : Sound b) {publishCalls : Nat} {callbacks : List RuntimeEvent}
    (hcalls : publishCalls = b.metrics.published + b.metrics.dropped + callbacks.length + 1)
    (event : RuntimeEvent) :
    Sound ({ b with publishCalls := publishCalls, callbacks := callbacks }.enqueueLocal
      event).2 := by
  rcases enqueueLocal_cases { b with publishCalls := publishCalls, callbacks := callbacks } event
    with heq | ⟨queue, hqueue, hroom, heq⟩
  · -- no queue, or no room in it
    have hdropped : publishCalls
        = b.metrics.published + (b.metrics.dropped + 1) + callbacks.length := by omega
    rw [heq]
    exact ⟨{ h.phases with }, { h.delivering with }, { h.accounts with calls := hdropped }⟩
  · have hqueued : b.queued = queue := by
      rw [queued, show b.queue = some queue from hqueue]
      rfl
    have hpublished : publishCalls
        = b.metrics.published + 1 + b.metrics.dropped + callbacks.length := by omega
    have hlength : (b.accepted ++ [event]).length = b.metrics.published + 1 := by
      rw [List.length_append, h.accounts.accepted]
      rfl
    have hfifo : (b.taken.map (·.event) ++ (queue ++ [event])).Sublist (b.accepted ++ [event]) := by
      rw [← List.append_assoc, ← hqueued]
      exact h.accounts.fifo.append_right [event]
    have hevents : (b.accepted ++ [event]).length
        = b.taken.length + (queue ++ [event]).length + b.discarded := by
      rw [List.length_append, List.length_append, h.accounts.events, hqueued]
      simp only [List.length_singleton]
      omega
    have hbound : b.maxsize = 0 ∨ (queue ++ [event]).length ≤ b.maxsize := by
      rw [List.length_append]
      exact hroom
    rw [heq]
    refine ⟨⟨h.phases.alone, fun hoff => ⟨(h.phases.off hoff).1, fun hstopping => ?_⟩,
      fun hon => ⟨(h.phases.on hon).1, rfl⟩⟩, { h.delivering with },
      ⟨hpublished, hlength, hfifo, hevents, h.accounts.fanOuts, h.accounts.finished, hbound⟩⟩
    -- a bus that is off and not stopping has no queue to put into
    rw [(h.phases.off hoff).2 hstopping] at hqueue
    cases hqueue

theorem Sound.publish (h : Sound b) (onLoop : Bool) (event : RuntimeEvent) :
    Sound (b.publish onLoop event).2 := by
  have hcalls := h.accounts.calls
  have hcalled : b.publishCalls + 1
      = b.metrics.published + b.metrics.dropped + b.callbacks.length + 1 := by omega
  unfold EventBus.publish
  dsimp only
  split
  · have hdropped : b.publishCalls + 1
        = b.metrics.published + (b.metrics.dropped + 1) + b.callbacks.length := by omega
    exact ⟨{ h.phases with }, { h.delivering with }, { h.accounts with calls := hdropped }⟩
  · split
    · exact h.enqueueLocal hcalled event
    · have hscheduled : b.publishCalls + 1
          = b.metrics.published + b.metrics.dropped + (b.callbacks ++ [event]).length := by
        rw [List.length_append, hcalled]
        rfl
      exact ⟨{ h.phases with }, { h.delivering with }, { h.accounts with calls := hscheduled }⟩

theorem Sound.runCallback (h : Sound b) (hstep : b.step .runCallback = some b') : Sound b' := by
  unfold step at hstep
  dsimp only at hstep
  split at hstep
  · cases hstep
  · next event rest hcallbacks =>
    cases hstep
    refine h.enqueueLocal ?_ event
    rw [h.accounts.calls, hcallbacks]
    rfl

/-- A bus that starts has neither a queue nor a dispatcher. -/
theorem Sound.start (h : Sound b) (hstopping : b.stopping = 0) : Sound b.start := by
  rw [EventBus.start]
  split
  · exact h
  · next hrunning =>
    obtain ⟨hgone, hqueue⟩ := h.phases.off (by simpa using hrunning)
    obtain ⟨hfifo, hevents⟩ := h.accounts.emptied
    have hfanOuts := h.accounts.fanOuts
    rw [fanOuts_of_not_alive hgone] at hfanOuts
    refine ⟨⟨h.phases.alone, nofun, fun _ => ⟨hstopping, rfl⟩⟩, { h.delivering with
      current := nofun }, { h.accounts with
        fifo := hfifo
        events := hevents
        fanOuts := hfanOuts
        bound := .inr (Nat.zero_le _) }⟩

/-- The end of a `stop` whose dispatcher is done. -/
theorem Sound.forget (h : Sound b) (halive : b.dispatcher.alive = false) {running : Bool}
    (hrunning : running = false) (stopping : Nat) :
    Sound { b with running := running, stopping := stopping }.forget := by
  obtain ⟨hfifo, hevents⟩ := h.accounts.emptied
  have hfanOuts := h.accounts.fanOuts
  rw [fanOuts_of_not_alive halive] at hfanOuts
  rw [EventBus.forget, if_neg (by simpa using halive)]
  refine ⟨⟨h.phases.alone, fun _ => ⟨rfl, fun _ => rfl⟩, fun hon => ?_⟩, { h.delivering with
    current := nofun }, { h.accounts with
      fifo := hfifo
      events := hevents
      fanOuts := hfanOuts
      bound := .inr (Nat.zero_le _) }⟩
  rw [show running = true from hon] at hrunning
  cases hrunning

theorem Sound.stopped (h : Sound b) (hstep : b.stopped = some b') : Sound b' := by
  obtain ⟨hstopping, heq⟩ := Option.ite_none_left_eq_some.mp hstep
  cases heq
  have hrunning : b.running = false := by
    by_contra hon
    exact hstopping (h.phases.on (by simpa using hon)).1
  exact h.forget (h.phases.off hrunning).1 hrunning (b.stopping - 1)

/-- A dispatcher that a `stop` cancels takes the calls of its event along that have not begun. -/
theorem Sound.cut (h : Sound b) {batch : Nat} (hfanning : b.dispatcher = .fanning batch) :
    Sound { b with
      running := false, stopping := b.stopping + 1, dispatcher := .dead
      waiting := b.waiting.filter (·.batch ≠ batch), cut := b.cut + 1 } := by
  have hfanOuts := h.accounts.fanOuts
  rw [hfanning] at hfanOuts
  refine ⟨⟨h.phases.alone, fun _ => ⟨rfl, nofun⟩, nofun⟩, ?_, { h.accounts with
    fanOuts := hfanOuts }⟩
  refine h.delivering.moved rfl ?_ (fun n => ?_) List.prefix_rfl nofun rfl
  · exact (List.Sublist.refl b.invoked).append List.filter_sublist
  · rw [calls, calls, callsOf_append, callsOf_append]
    refine List.prefix_append_right_inj _ |>.mpr ?_
    by_cases hn : n = batch
    · subst hn
      rw [callsOf_eq_nil fun call hcall => of_decide_eq_true (List.mem_filter.mp hcall).2]
      exact List.nil_prefix
    · rw [callsOf, List.filter_filter, callsOf]
      refine List.filter_congr (fun call _ => ?_) ▸ List.prefix_rfl
      by_cases hcall : call.batch = n
      · simp [hcall, hn]
      · simp [hcall]

theorem Sound.stop (h : Sound b) : Sound b.stop := by
  rw [EventBus.stop]
  split
  · next hrunning =>
    split
    · next hidle =>
      have hfanOuts := h.accounts.fanOuts
      rw [hidle] at hfanOuts
      exact ⟨⟨h.phases.alone, fun _ => ⟨rfl, nofun⟩, nofun⟩, { h.delivering with
        current := nofun }, { h.accounts with fanOuts := hfanOuts }⟩
    · next batch hfanning => exact h.cut hfanning
    · next habsent => exact h.forget (habsent ▸ rfl) rfl b.stopping
    · next hdead => exact h.forget (hdead ▸ rfl) rfl b.stopping
  · exact h

theorem Sound.ended (h : Sound b) (call : Call) (ending : Ending) :
    Sound (b.ended call ending) := by
  cases ending with
  | returned => exact h
  | failed => exact ⟨{ h.phases with }, { h.delivering with }, { h.accounts with }⟩
  | cancelled =>
    rw [h.phases.ended_cancelled]
    split
    · next hfanning =>
      have hfanOuts := h.accounts.fanOuts
      rw [hfanning] at hfanOuts
      exact ⟨⟨h.phases.alone, fun hoff => ⟨rfl, (h.phases.off hoff).2⟩, h.phases.on⟩,
        { h.delivering with current := nofun }, { h.accounts with fanOuts := hfanOuts }⟩
    · exact h

theorem Sound.take (h : Sound b) {order : List Nat} (htake : b.take order = some b') :
    Sound b' := by
  refine ⟨?_, h.delivering.take htake, h.accounts.take htake⟩
  obtain ⟨event, rest, hidle, -, -, -, rfl⟩ := take_cases htake
  have hrunning := h.phases.running_of_alive (hidle ▸ rfl)
  have hoff : ∀ P : Prop, b.running = false → P := fun P hoff => by
    rw [hrunning] at hoff
    cases hoff
  split
  · exact ⟨h.phases.alone, hoff _, fun hon => ⟨(h.phases.on hon).1, rfl⟩⟩
  · exact ⟨h.phases.alone, hoff _, fun hon => ⟨(h.phases.on hon).1, rfl⟩⟩

theorem Sound.beginCall (h : Sound b) {ending : Option Ending}
    (hbegin : b.beginCall ending = some b') : Sound b' := by
  unfold EventBus.beginCall at hbegin
  split at hbegin
  · cases hbegin
  · next call waiting hwaiting =>
    have hbegun : ∀ active, Sound { b with
        waiting := waiting, invoked := b.invoked ++ [call], active := active } := fun active =>
      ⟨{ h.phases with }, h.delivering.begin hwaiting active, { h.accounts with }⟩
    cases ending with
    | none =>
      cases hbegin
      exact hbegun (b.active ++ [call])
    | some ending =>
      cases hbegin
      exact (hbegun b.active).ended call ending

theorem Sound.finishCall (h : Sound b) {index : Nat} {ending : Ending}
    (hfinish : b.finishCall index ending = some b') : Sound b' := by
  unfold EventBus.finishCall at hfinish
  split at hfinish
  · cases hfinish
  · next call _ =>
    cases hfinish
    have hgone : Sound { b with active := b.active.eraseIdx index } :=
      ⟨{ h.phases with }, { h.delivering with }, { h.accounts with }⟩
    exact hgone.ended call ending

theorem Sound.complete (h : Sound b) (hcomplete : b.complete = some b') : Sound b' := by
  refine ⟨?_, h.delivering.complete hcomplete, h.accounts.complete hcomplete⟩
  obtain ⟨batch, hfanning, -, rfl⟩ := complete_cases hcomplete
  have hrunning := h.phases.running_of_alive (hfanning ▸ rfl)
  refine ⟨h.phases.alone, fun hoff => ?_, h.phases.on⟩
  rw [show b.running = false from hoff] at hrunning
  cases hrunning

/-- One lemma for each action; only `start` has a condition. -/
theorem sound_step {a : Action} (h : Sound b) (ha : b.Orderly a) (hstep : b.step a = some b') :
    Sound b' := by
  cases a with
  | start =>
    cases hstep
    exact h.start ha
  | stop =>
    cases hstep
    exact h.stop
  | stopped => exact h.stopped hstep
  | subscribe eventTypes =>
    cases hstep
    exact h.withRegistry _
  | unsubscribe subId =>
    cases hstep
    exact h.withRegistry _
  | publish onLoop event =>
    cases hstep
    exact h.publish onLoop event
  | runCallback => exact h.runCallback hstep
  | take orphan order =>
    have htake : b.byDispatcher orphan (EventBus.take · order) = some b' := hstep
    exact h.take (h.phases.own htake).2
  | beginCall ending => exact h.beginCall hstep
  | finishCall index ending => exact h.finishCall hstep
  | complete orphan => exact h.complete (h.phases.own hstep).2

theorem sound_run {maxsize : Nat} {acts : List Action}
    (hrun : exec step (new maxsize) acts = some b)
    (horderly : AllSteps step Orderly (new maxsize) acts) : Sound b :=
  exec_invariant_of_allSteps (fun _ _ _ => sound_step) (sound_new maxsize) horderly hrun

theorem agrees_run {maxsize : Nat} {acts : List Action}
    (hrun : exec step (new maxsize) acts = some b) : Agrees (plain acts) b :=
  exec_history (I := fun before b => Agrees (plain before) b)
    (fun before _ a _ hb hstep => plain_concat before a ▸ agrees_step hb hstep) []
    (agrees_new maxsize) hrun

/-! ## What the subscribers get -/

/-- In every run in which `start` is not called while a `stop` waits: the subscriptions are those
    that were made and not removed, and those that were there and accept a taken event are on the
    list that `matching` gives for it, each once.  The callbacks are called event by event in the
    order of taking, for each event the first ones of its list in the order of the list, and all
    of them when its fan-out goes through. -/
theorem deliveries_exact (maxsize : Nat) (acts : List Action) (b : EventBus)
    (hrun : exec step (new maxsize) acts = some b)
    (horderly : AllSteps step Orderly (new maxsize) acts) :
    b.registry.subscriptions = (plain acts).subs ∧ b.taken.map (·.live) = (plain acts).taken ∧
    (∀ taking ∈ b.taken, taking.Lists) ∧
    b.invoked.Pairwise (fun c d => c.batch ≤ d.batch) ∧
    (∀ call ∈ b.invoked, call.batch < b.taken.length) ∧
    (∀ (n : Nat) taking, b.taken[n]? = some taking →
      callsOf n b.invoked <+: taking.calls n) ∧
    ∀ n ∈ b.finished, ∃ taking, b.taken[n]? = some taking ∧
      callsOf n b.invoked = taking.calls n := by
  have hagrees := agrees_run hrun
  have hdelivering := (sound_run hrun horderly).delivering
  have hinvoked : b.invoked <+: b.calls := List.prefix_append b.invoked b.waiting
  exact ⟨hagrees.subs, hagrees.taken, hagrees.lists, hdelivering.inOrder.sublist hinvoked.sublist,
    fun call hcall => hdelivering.taken call (hinvoked.subset hcall),
    fun n taking hget => (hinvoked.filter _).trans (hdelivering.begun n taking hget),
    hdelivering.finished⟩

/-- An event for two subscriptions; the second goes before its call begins, and is called. -/
def sampleActs : List Action :=
  [.start, .subscribe none, .subscribe (some ["a"]), .publish true ⟨"1", 0, 0, 0, "", "", 1,
    .other "a" []⟩, .take none [2, 1], .unsubscribe 2, .beginCall none,
    .beginCall (some .failed), .finishCall 0 .returned, .complete none]

theorem sample_calls : (exec step (new 2) sampleActs).map
    (fun b => (b.finished, b.invoked.map fun call => (call.sub, call.batch)))
    = some ([0], [(2, 0), (1, 0)]) := by decide +kernel

theorem sample_orderly : AllSteps step Orderly (new 2) sampleActs := by decide +kernel

theorem deliveries_exact_sample : ∃ b, exec step (new 2) sampleActs = some b ∧
    b.registry.subscriptions = [⟨1, none⟩] ∧
    b.taken.map (·.live) = [[⟨1, none⟩, ⟨2, some ["a"]⟩]] ∧
    ∃ taking, b.taken[0]? = some taking ∧ callsOf 0 b.invoked = taking.calls 0 := by
  obtain ⟨b, hrun, hcalls⟩ := Option.map_eq_some_iff.mp sample_calls
  obtain ⟨hsubs, htaken, -, -, -, -, hfinished⟩ := deliveries_exact 2 sampleActs b hrun
    sample_orderly
  have hzero : 0 ∈ b.finished := by
    rw [(Prod.mk.inj hcalls).1]
    exact List.mem_singleton_self 0
  exact ⟨b, hrun, hsubs.trans (by decide), htaken.trans (by decide), hfinished 0 hzero⟩

-- a `start` while a `stop` waits leaves a bus that runs and drops every event
example : (exec step (new 2) [.start, .stop, .start, .stopped, .publish true ⟨"1", 0, 0, 0, "", "",
    1, .other "a" []⟩]).map (fun b => (b.running, b.metrics.dropped, b.orphans.length))
    = some (true, 1, 1) := by decide +kernel

/-! ## What becomes of the events -/

/-- In every run in which `start` is not called while a `stop` waits: a `publish` is counted as
    published or dropped, or its callback has not run; a published event was taken, waits, or was
    on the queue of a bus that stopped, and the events are taken in the order in which they got
    onto the queue, none of them left out as long as no bus was stopped with events on its queue;
    a taken event is dispatched, being fanned out, or one of the fan-outs that were cut off; and
    the queue keeps to its limit. -/
theorem bus_accounts (maxsize : Nat) (acts : List Action) (b : EventBus)
    (hrun : exec step (new maxsize) acts = some b)
    (horderly : AllSteps step Orderly (new maxsize) acts) :
    b.publishCalls = b.metrics.published + b.metrics.dropped + b.callbacks.length ∧
    b.metrics.published = b.taken.length + b.queued.length + b.discarded ∧
    (b.taken.map (·.event) ++ b.queued).Sublist b.accepted ∧
    (b.discarded = 0 → b.taken.map (·.event) ++ b.queued = b.accepted) ∧
    b.taken.length = b.metrics.dispatched + b.cut + b.dispatcher.fanOuts ∧
    b.finished.length = b.metrics.dispatched ∧
    (b.maxsize = 0 ∨ b.queued.length ≤ b.maxsize) := by
  have h := (sound_run hrun horderly).accounts
  refine ⟨h.calls, h.accepted ▸ h.events, h.fifo, fun hnone => ?_, h.fanOuts, h.finished, h.bound⟩
  refine h.fifo.eq_of_length ?_
  rw [List.length_append, List.length_map, h.events, hnone]
  rfl

theorem bus_accounts_sample : ∃ b, exec step (new 2) sampleActs = some b ∧
    b.taken.length = b.metrics.dispatched + b.cut + b.dispatcher.fanOuts ∧
    b.metrics.dispatched = 1 := by
  obtain ⟨b, hrun, hcalls⟩ := Option.map_eq_some_iff.mp sample_calls
  obtain ⟨-, -, -, -, hfanOuts, hfinished, -⟩ := bus_accounts 2 sampleActs b hrun sample_orderly
  refine ⟨b, hrun, hfanOuts, ?_⟩
  rw [← hfinished, (Prod.mk.inj hcalls).1]
  rfl

/-! ## The queue gets empty -/

/-- What the loop and the subscribers do when every callback returns, at once or later. -/
def Action.Settles : Action → Prop
  | .take none _ | .beginCall none | .beginCall (some .returned) | .finishCall _ .returned
  | .complete none => True
  | _ => False

/-- What is left to do: a call has a beginning and an end, an event a fan-out besides. -/
def work (b : EventBus) : Nat :=
  (b.queued.map fun event => 2 * (b.registry.matching event.eventType).card + 2).sum
    + 2 * b.waiting.length + b.active.length + b.dispatcher.fanOuts

/-- What has become of the events since `b`: some of those on the queue were taken, for the
    subscriptions that there are, and of these and of the one before all but the last have gone
    through. -/
structure Settled (b b' : EventBus) : Prop where
  alive : b'.dispatcher.alive = true
  registry : b'.registry = b.registry
  cut : b'.cut = b.cut
  taken : ∃ done, b.queued = done ++ b'.queued ∧
    b'.taken.map (fun taking => (taking.event, taking.live))
      = b.taken.map (fun taking => (taking.event, taking.live))
        ++ done.map (fun event => (event, b.registry.subscriptions))
  finished : ∀ n, b.dispatcher = .fanning n ∨ b.taken.length ≤ n ∧ n < b'.taken.length →
    n ∈ b'.finished ∨ b'.dispatcher = .fanning n

theorem Settled.refl (halive : b.dispatcher.alive = true) : Settled b b where
  alive := halive
  registry := rfl
  cut := rfl
  taken := ⟨[], rfl, (List.append_nil _).symm⟩
  finished _ hn := .inr (hn.resolve_right fun hn => Nat.not_lt_of_le hn.1 hn.2)

variable {b'' : EventBus}

/-- A step of a callback. -/
theorem Settled.aside (h : Settled b b') (halive : b''.dispatcher = b'.dispatcher)
    (hregistry : b''.registry = b'.registry) (hcut : b''.cut = b'.cut)
    (hqueued : b''.queued = b'.queued) (htaken : b''.taken = b'.taken)
    (hfinished : b''.finished = b'.finished) : Settled b b'' where
  alive := halive ▸ h.alive
  registry := hregistry.trans h.registry
  cut := hcut.trans h.cut
  taken := by rw [hqueued, htaken]; exact h.taken
  finished := by rw [halive, htaken, hfinished]; exact h.finished

/-- A taken event is one more of those taken, and its calls are less work than it was. -/
theorem Settled.take (h : Settled b b') {order : List Nat} (htake : b'.take order = some b'') :
    Settled b b'' ∧ b''.work < b'.work := by
  obtain ⟨event, rest, hidle, hqueue, hnodup, hmem, rfl⟩ := take_cases htake
  have hqueued : b'.queued = event :: rest := by rw [queued, hqueue]; rfl
  have hcard : (b'.registry.matching event.eventType).card = order.length := by
    rw [← List.toFinset_card_of_nodup hnodup]
    refine congrArg Finset.card (Finset.ext fun i => ?_)
    rw [List.mem_toFinset, hmem]
  have htaken : ∃ done, b.queued = done ++ rest ∧
      (b'.taken ++ [Taking.mk event b'.registry.subscriptions order]).map
          (fun taking => (taking.event, taking.live))
        = b.taken.map (fun taking => (taking.event, taking.live))
          ++ done.map (fun event => (event, b.registry.subscriptions)) := by
    obtain ⟨done, hdone, hall⟩ := h.taken
    refine ⟨done ++ [event], ?_, ?_⟩
    · rw [hdone, hqueued, List.append_assoc]
      rfl
    · rw [List.map_append, hall, List.map_append, List.append_assoc, h.registry]
      rfl
  have hlength : (b'.taken ++ [Taking.mk event b'.registry.subscriptions order]).length
      = b'.taken.length + 1 := List.length_append
  -- the event before has gone through
  have hbefore : ∀ n, b.dispatcher = .fanning n ∨ b.taken.length ≤ n ∧
      n < (b'.taken ++ [Taking.mk event b'.registry.subscriptions order]).length →
      n ∈ b'.finished ∨ n = b'.taken.length := by
    intro n hn
    rw [hlength] at hn
    by_cases hlast : n = b'.taken.length
    · exact .inr hlast
    · refine .inl ((h.finished n (hn.imp_right fun hn => ⟨hn.1, by omega⟩)).resolve_right ?_)
      rw [hidle]
      intro hfanning
      cases hfanning
  have hwork : b'.work = (rest.map fun event =>
      2 * (b'.registry.matching event.eventType).card + 2).sum
        + 2 * order.length + 2 + 2 * b'.waiting.length + b'.active.length := by
    rw [work, hqueued, List.map_cons, List.sum_cons, hcard, hidle]
    simp only [Dispatcher.fanOuts]
    omega
  split
  · refine ⟨⟨hidle ▸ rfl, h.registry, h.cut, htaken, fun n hn => .inl ?_⟩, ?_⟩
    · exact List.mem_append.mpr ((hbefore n hn).imp_right List.mem_singleton.mpr)
    · rw [hwork, work]
      simp only [queued, Option.getD_some, hidle, Dispatcher.fanOuts]
      omega
  · refine ⟨⟨rfl, h.registry, h.cut, htaken, fun n hn => ?_⟩, ?_⟩
    · exact (hbefore n hn).imp_right fun hn => congrArg Dispatcher.fanning hn.symm
    · rw [hwork, work]
      simp only [queued, Option.getD_some, Dispatcher.fanOuts, List.length_append, List.length_map]
      omega

theorem Settled.complete (h : Settled b b') (hcomplete : b'.complete = some b'') :
    Settled b b'' ∧ b''.work < b'.work := by
  obtain ⟨batch, hfanning, -, rfl⟩ := complete_cases hcomplete
  refine ⟨⟨rfl, h.registry, h.cut, h.taken, fun n hn => .inl ?_⟩, ?_⟩
  · rcases h.finished n hn with hn | hn
    · exact List.mem_append_left _ hn
    · rw [hfanning] at hn
      cases hn
      exact List.mem_append_right _ (List.mem_singleton_self _)
  · rw [work, work, hfanning]
    exact Nat.lt_succ_self _

/-- Each step of the loop and of the callbacks leaves less to do. -/
theorem Settled.step (h : Settled b b') {a : Action} (ha : a.Settles)
    (hstep : b'.step a = some b'') : Settled b b'' ∧ b''.work < b'.work := by
  cases a with
  | take orphan order =>
    cases orphan with
    | none => exact h.take hstep
    | some index => exact ha.elim
  | beginCall ending =>
    unfold EventBus.step beginCall at hstep
    dsimp only at hstep
    split at hstep
    · cases hstep
    · next call waiting hwaiting =>
      have hwork : b'.work = (b'.queued.map fun event =>
          2 * (b'.registry.matching event.eventType).card + 2).sum
            + 2 * (waiting.length + 1) + b'.active.length + b'.dispatcher.fanOuts := by
        rw [work, hwaiting]
        rfl
      -- the call goes on beyond its first step, or returns in it
      rcases ending with - | (- | - | -)
      · cases hstep
        refine ⟨h.aside rfl rfl rfl rfl rfl rfl, ?_⟩
        rw [hwork, work]
        simp only [queued, List.length_append, List.length_singleton]
        omega
      · cases hstep
        refine ⟨h.aside rfl rfl rfl rfl rfl rfl, ?_⟩
        rw [hwork, work]
        simp only [ended, queued]
        omega
      · exact ha.elim
      · exact ha.elim
  | finishCall index ending =>
    unfold EventBus.step finishCall at hstep
    dsimp only at hstep
    split at hstep
    · cases hstep
    · next call hcall =>
      obtain ⟨hlt, -⟩ := List.getElem?_eq_some_iff.mp hcall
      cases ending with
      | returned =>
        cases hstep
        refine ⟨h.aside rfl rfl rfl rfl rfl rfl, ?_⟩
        rw [work, work]
        simp only [ended, queued, List.length_eraseIdx_of_lt hlt]
        omega
      | failed => exact ha.elim
      | cancelled => exact ha.elim
  | complete orphan =>
    cases orphan with
    | none => exact h.complete hstep
    | some index => exact ha.elim
  | _ => exact ha.elim

end EventBus

end AsyncViz.Runtime.Events
