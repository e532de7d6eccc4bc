/-
  AsyncViz.Runtime.Queue.Ordering

  The order in which items reach the dispatcher.

  `path` lists what was dispatched, what is queued and what is on its way from the
  threads.  It is increasing as long as every step is `InOrder`: an item enters the
  channel locally only when no older one is still on its way, and the threads hand
  their items over in allocation order (`exec_increasing`).

  `Extends` relates the two ends of any run, in order or not: what is dispatched
  later was queued at its start or offered since, and what has no sequence yet will
  get one above the clock.
-/

import AsyncViz.Runtime.Queue.Conservation

namespace AsyncViz.Runtime.Queue

open AsyncViz.Lib AsyncViz.Lib.Transition

namespace Transport

open InternalEventQueue (EnqueueResult)

/-- The dispatched, the queued, and the pending items, in the order in which they
    reach the dispatcher. -/
def path (s : Transport) : List QueuedEvent :=
  s.dispatched ++ s.queue.items ++ s.callbacks ++ s.allocated

/-- The item with the smaller sequence comes first. -/
def Before (x y : QueuedEvent) : Prop := x.sequence < y.sequence

/-- An enqueue on the loop would be discarded by the overflow strategy. -/
def Discards (s : Transport) : Prop :=
  s.queue.items.length = s.queue.channel.capacity ∧ s.queue.overflow ≠ .dropOldest

/-- The step does not let an item overtake an older one. -/
def InOrder (s : Transport) : Action → Prop
  | .publish _ => s.callbacks ++ s.allocated = [] ∨ s.Discards
  | .schedule index => index = 0
  | _ => True

instance (s : Transport) : Decidable (Discards s) := inferInstanceAs (Decidable (_ ∧ _))

instance (s : Transport) : ∀ a, Decidable (InOrder s a)
  | .publish _ => inferInstanceAs (Decidable (_ ∨ _))
  | .schedule _ => inferInstanceAs (Decidable (_ = _))
  | .allocate _ | .runCallback | .take | .subscriberFailed | .finish | .tick | .join =>
    .isTrue trivial

/-- Everything on the path has its sequence. -/
theorem mem_stamped_of_mem_path {s : Transport} (hinv : Inv s) {item : QueuedEvent}
    (h : item ∈ s.path) : item ∈ s.stamped := by
  have hoffered := hinv.order.fifo.subset
  simp only [path, stamped, List.append_assoc, List.mem_append] at h hoffered ⊢
  rcases h with hd | hq | hrest
  · exact .inl (hoffered (List.mem_append_left _ hd))
  · exact .inl (hoffered (List.mem_append_right _ hq))
  · exact .inr hrest

/-- No two items of the path share a sequence. -/
theorem path_nodup {s : Transport} (hinv : Inv s) :
    (s.path.map QueuedEvent.sequence).Nodup := by
  apply List.Nodup.sublist _ hinv.order.nodup
  apply List.Sublist.map
  rw [path, stamped]
  exact (hinv.order.fifo.append_right _).append_right _

/-! ## The two ends of a run -/

/-- How a later state of a transport extends an earlier one. -/
structure Extends (s s' : Transport) : Prop where
  clock_le : s.clock.currentSequence ≤ s'.clock.currentSequence
  taken : ∃ offered dispatched, s'.offered = s.offered ++ offered ∧
    s'.dispatched = s.dispatched ++ dispatched ∧
    (dispatched ++ s'.queue.items).Sublist (s.queue.items ++ offered)
  fresh : ∀ item ∈ s'.stamped, item ∈ s.stamped ∨ s.clock.currentSequence < item.sequence

theorem extends_refl (s : Transport) : Extends s s :=
  ⟨le_refl _, ⟨[], [], by simp, by simp, by simp⟩, fun _ hitem => .inl hitem⟩

theorem Extends.trans {s t u : Transport} (h : Extends s t) (h' : Extends t u) : Extends s u := by
  obtain ⟨offered, dispatched, hoffered, hdispatched, hsub⟩ := h.taken
  obtain ⟨offered', dispatched', hoffered', hdispatched', hsub'⟩ := h'.taken
  have hclock := h.clock_le
  refine ⟨le_trans hclock h'.clock_le,
    ⟨offered ++ offered', dispatched ++ dispatched', ?_, ?_, ?_⟩, ?_⟩
  · rw [hoffered', hoffered, List.append_assoc]
  · rw [hdispatched', hdispatched, List.append_assoc]
  -- what is taken in the second run was queued in between, or offered since
  · have hlater := (List.Sublist.refl dispatched).append hsub'
    have hearlier := hsub.append_right offered'
    rw [List.append_assoc] at hearlier
    rw [List.append_assoc, ← List.append_assoc s.queue.items]
    exact hlater.trans hearlier
  · intro item hitem
    rcases h'.fresh item hitem with hold | hnew
    · exact h.fresh item hold
    · exact .inr (lt_of_le_of_lt hclock hnew)

/-- A step that leaves the channel and the dispatched items alone. -/
theorem extends_of_frame {s s' : Transport}
    (hclock : s.clock.currentSequence ≤ s'.clock.currentSequence)
    (hoffered : s'.offered = s.offered) (hdispatched : s'.dispatched = s.dispatched)
    (hitems : s'.queue.items = s.queue.items)
    (hfresh : ∀ item ∈ s'.stamped, item ∈ s.stamped ∨ s.clock.currentSequence < item.sequence) :
    Extends s s' :=
  ⟨hclock, ⟨[], [], by simp [hoffered], by simp [hdispatched], by simp [hitems]⟩, hfresh⟩

theorem stepped_extends {s s' : Transport} {a : Action} (hinv : Inv s) (h : Stepped s a s') :
    Extends s s' := by
  cases h with
  | @publish event sequence clock allocation =>
    obtain ⟨hseq, hcur, -, -⟩ := RuntimeClock.nextSequence_eq_ok allocation
    have hresult := (InternalEventQueue.enqueue_result ⟨sequence, event⟩
      hinv.channel.count_le).1
    refine ⟨?_, ⟨[⟨sequence, event⟩], [], rfl, by simp, hresult.items_sublist⟩, ?_⟩
    · show s.clock.currentSequence ≤ clock.currentSequence
      omega
    · intro item hitem
      have hitem' : item ∈ s.offered ++ [⟨sequence, event⟩] ++ s.callbacks ++ s.allocated := hitem
      simp only [List.append_assoc, List.mem_append, List.mem_singleton] at hitem'
      rcases hitem' with ho | rfl | hrest
      · exact .inl (by simp [stamped, ho])
      · right
        show s.clock.currentSequence < sequence
        omega
      · exact .inl (by simp only [stamped, List.append_assoc, List.mem_append, hrest, or_true])
  | publishRefused exhausted | allocateRefused exhausted | subscriberFailed | tickRefused =>
    exact extends_of_frame (le_refl _) rfl rfl rfl fun _ hitem => .inl hitem
  | @allocate event sequence clock allocation =>
    obtain ⟨hseq, hcur, -, -⟩ := RuntimeClock.nextSequence_eq_ok allocation
    refine extends_of_frame ?_ rfl rfl rfl ?_
    · show s.clock.currentSequence ≤ clock.currentSequence
      omega
    · intro item hitem
      have hitem' : item ∈ s.offered ++ s.callbacks ++ (s.allocated ++ [⟨sequence, event⟩]) := hitem
      rw [← List.append_assoc] at hitem'
      rcases List.mem_append.mp hitem' with hold | hlast
      · exact .inl hold
      · right
        rw [List.mem_singleton.mp hlast]
        show s.clock.currentSequence < sequence
        omega
  | @schedule index item pending =>
    refine extends_of_frame (le_refl _) rfl rfl rfl fun x hx => .inl ?_
    have hx' : x ∈ s.offered ++ (s.callbacks ++ [item]) ++ s.allocated.eraseIdx index := hx
    simp only [List.append_assoc, List.mem_append, List.mem_singleton] at hx'
    simp only [stamped, List.append_assoc, List.mem_append]
    rcases hx' with ho | hc | rfl | ha
    · exact .inl ho
    · exact .inr (.inl hc)
    · exact .inr (.inr (List.mem_of_getElem? pending))
    · exact .inr (.inr (List.mem_of_mem_eraseIdx ha))
  | @runCallback item rest pending =>
    have hresult := (InternalEventQueue.enqueueCrossThread_result item hinv.channel.count_le).1
    refine ⟨le_refl _, ⟨[item], [], rfl, by simp, hresult.items_sublist⟩, fun x hx => .inl ?_⟩
    have hx' : x ∈ s.offered ++ [item] ++ rest ++ s.allocated := hx
    simpa only [stamped, pending, List.append_assoc, List.cons_append, List.nil_append] using hx'
  | @take item channel alive idle head =>
    obtain ⟨hitems, -⟩ := EventChannel.takeNowait_eq_some head
    refine ⟨le_refl _, ⟨[], [item], by simp, rfl, ?_⟩, fun _ hy => .inl hy⟩
    show ([item] ++ channel.items).Sublist (s.queue.channel.items ++ [])
    rw [hitems, List.append_nil]
    exact List.Sublist.refl _
  | @finish item channel busy done =>
    obtain ⟨-, hitems, -⟩ := EventChannel.taskDone_eq_some done
    exact extends_of_frame (le_refl _) rfl rfl hitems fun _ hy => .inl hy
  | finishUnderflow busy underflow =>
    exact extends_of_frame (le_refl _) rfl rfl rfl fun _ hy => .inl hy
  | @tick sequence clock allocation =>
    obtain ⟨hseq, hcur, -, -⟩ := RuntimeClock.nextSequence_eq_ok allocation
    refine extends_of_frame ?_ rfl rfl rfl fun _ hy => .inl hy
    show s.clock.currentSequence ≤ clock.currentSequence
    omega
  | join =>
    obtain ⟨-, hitems, -⟩ := waitDrained_spec hinv.channel
    exact extends_of_frame (le_refl _) rfl rfl hitems fun _ hy => .inl hy

/-- Run lemma: every run extends its start. -/
theorem exec_extends {s s' : Transport} {acts : List Action} (hinv : Inv s)
    (h : exec step s acts = some s') : Inv s' ∧ Extends s s' := by
  have hboth := exec_relates (R := fun s s' => Inv s → Inv s' ∧ Extends s s')
    (fun s hs => ⟨hs, extends_refl s⟩)
    (fun hst htu hs => ⟨(htu (hst hs).1).1, (hst hs).2.trans (htu (hst hs).1).2⟩)
    (fun s a s' hstep hs => ⟨step_inv hs hstep, stepped_extends hs (stepped_of_step hstep)⟩) h
  exact hboth hinv

/-! ## Progress -/

/-- Nothing comes onto the path but items that get their sequence in the step. -/
theorem path_step {s s' : Transport} {a : Action} (hinv : Inv s) (h : step s a = some s')
    {item : QueuedEvent} (hitem : item ∈ s'.path) :
    item ∈ s.path ∨ s.clock.currentSequence < item.sequence ∧
      (a = .publish item.event ∨ a = .allocate item.event) := by
  cases stepped_of_step h with
  | @publish event sequence clock allocation =>
    obtain ⟨hseq, -, -, -⟩ := RuntimeClock.nextSequence_eq_ok allocation
    have hitems := (InternalEventQueue.enqueue_result ⟨sequence, event⟩
      hinv.channel.count_le).1.items_sublist.subset
    have hmem : item ∈ s.dispatched ++ (s.queue.enqueue ⟨sequence, event⟩).2.items ++
      s.callbacks ++ s.allocated := hitem
    simp only [path, List.mem_append] at hmem ⊢
    rcases hmem with ((hd | hq) | hc) | ha
    · exact .inl (.inl (.inl (.inl hd)))
    · rcases List.mem_append.mp (hitems hq) with hold | hnew
      · exact .inl (.inl (.inl (.inr hold)))
      · rw [List.mem_singleton.mp hnew]
        refine .inr ⟨?_, .inl rfl⟩
        show s.clock.currentSequence < sequence
        omega
    · exact .inl (.inl (.inr hc))
    · exact .inl (.inr ha)
  | @allocate event sequence clock allocation =>
    obtain ⟨hseq, -, -, -⟩ := RuntimeClock.nextSequence_eq_ok allocation
    have hmem : item ∈ s.path ++ [⟨sequence, event⟩] := by
      rw [path]
      rw [List.append_assoc]
      exact hitem
    rcases List.mem_append.mp hmem with hold | hnew
    · exact .inl hold
    · rw [List.mem_singleton.mp hnew]
      refine .inr ⟨?_, .inr rfl⟩
      show s.clock.currentSequence < sequence
      omega
  -- from here on items only move along the path, or leave it
  | @schedule index next pending =>
    refine .inl ?_
    have hmem : item ∈ s.dispatched ++ s.queue.items ++ (s.callbacks ++ [next]) ++
      s.allocated.eraseIdx index := hitem
    have hnext : next ∈ s.allocated := List.mem_of_getElem? pending
    simp only [path, List.mem_append, List.mem_singleton] at hmem ⊢
    rcases hmem with ((hd | hq) | hc | rfl) | ha
    · exact .inl (.inl (.inl hd))
    · exact .inl (.inl (.inr hq))
    · exact .inl (.inr hc)
    · exact .inr hnext
    · exact .inr (List.mem_of_mem_eraseIdx ha)
  | @runCallback next rest pending =>
    refine .inl ?_
    have hitems := (InternalEventQueue.enqueueCrossThread_result next
      hinv.channel.count_le).1.items_sublist.subset
    have hmem : item ∈ s.dispatched ++ (s.queue.enqueueCrossThread next).2.items ++ rest ++
      s.allocated := hitem
    simp only [path, pending, List.mem_append, List.mem_cons] at hmem ⊢
    rcases hmem with ((hd | hq) | hc) | ha
    · exact .inl (.inl (.inl hd))
    · rcases List.mem_append.mp (hitems hq) with hold | hnew
      · exact .inl (.inl (.inr hold))
      · exact .inl (.inr (.inl (List.mem_singleton.mp hnew)))
    · exact .inl (.inr (.inr hc))
    · exact .inr ha
  | @take next channel alive idle head =>
    refine .inl ?_
    have hsplit : s.queue.items = next :: channel.items := (EventChannel.takeNowait_eq_some head).1
    have hmem : item ∈ s.dispatched ++ [next] ++ channel.items ++ s.callbacks ++ s.allocated :=
      hitem
    simpa only [path, hsplit, List.append_assoc, List.singleton_append] using hmem
  | @finish next channel busy done =>
    refine .inl ?_
    have hsame : channel.items = s.queue.items := (EventChannel.taskDone_eq_some done).2.1
    have hmem : item ∈ s.dispatched ++ channel.items ++ s.callbacks ++ s.allocated := hitem
    rw [hsame] at hmem
    exact hmem
  | publishRefused | allocateRefused | subscriberFailed | finishUnderflow | tick | tickRefused =>
    exact .inl hitem
  | join =>
    refine .inl ?_
    have hsame : s.queue.channel.waitDrained.2.items = s.queue.items :=
      (waitDrained_spec hinv.channel).2.1
    have hmem : item ∈ s.dispatched ++ s.queue.channel.waitDrained.2.items ++ s.callbacks ++
      s.allocated := hitem
    rw [hsame] at hmem
    exact hmem

/-! ## Runs in order -/

/-- The path is increasing. -/
def Increasing (s : Transport) : Prop := s.path.Pairwise Before

/-- An enqueue of an item above the path, with nothing on its way. -/
theorem pairwise_enqueue {q q' : InternalEventQueue} {item : QueuedEvent}
    {dispatched rest : List QueuedEvent} (h : EnqueueResult q item q')
    (hpath : (dispatched ++ q.items ++ (item :: rest)).Pairwise Before) :
    (dispatched ++ q'.items ++ rest).Pairwise Before := by
  apply List.Pairwise.sublist _ hpath
  have hsub := ((List.Sublist.refl dispatched).append h.items_sublist).append_right rest
  simpa only [List.append_assoc, List.singleton_append] using hsub

/-- A new item goes behind the path: its sequence is above all others. -/
theorem pairwise_concat {s : Transport} (hinv : Inv s) (hpath : Increasing s)
    (item : QueuedEvent) (hseq : item.sequence = s.clock.currentSequence + 1) :
    (s.path ++ [item]).Pairwise Before := by
  refine List.pairwise_append.mpr ⟨hpath, List.pairwise_singleton _ _, fun x hx y hy => ?_⟩
  have hle := hinv.order.sequence_le x (mem_stamped_of_mem_path hinv hx)
  rw [List.mem_singleton.mp hy]
  show x.sequence < item.sequence
  omega

/-- The path stays in order where a new item is put behind all of it. -/
theorem step_increasing {s s' : Transport} {a : Action} (hinv : Inv s) (hpath : Increasing s)
    (horder : InOrder s a) (h : step s a = some s') : Increasing s' := by
  cases stepped_of_step h with
  | @publish event sequence clock allocation =>
    obtain ⟨hseq, -, -, -⟩ := RuntimeClock.nextSequence_eq_ok allocation
    have hresult := (InternalEventQueue.enqueue_result ⟨sequence, event⟩
      hinv.channel.count_le).1
    show (s.dispatched ++ (s.queue.enqueue ⟨sequence, event⟩).2.items ++ s.callbacks ++
      s.allocated).Pairwise Before
    rcases horder with hnone | ⟨hfull, hstrategy⟩
    · -- nothing is on its way, so the new item is the last of the path
      obtain ⟨hcallbacks, hallocated⟩ := List.append_eq_nil_iff.mp hnone
      have hnew := pairwise_concat hinv hpath ⟨sequence, event⟩ hseq
      rw [path] at hnew
      rw [hcallbacks, hallocated, List.append_nil, List.append_nil] at hnew
      rw [hcallbacks, hallocated, List.append_nil]
      exact pairwise_enqueue hresult hnew
    · -- the strategy discards the new item
      cases hresult with
      | appended room => omega
      | discarded full strategy channel_eq =>
        have hitems : (s.queue.enqueue ⟨sequence, event⟩).2.items = s.queue.items :=
          congrArg EventChannel.items channel_eq
        rw [hitems]
        exact hpath
      | evicted full strategy => exact absurd strategy hstrategy
  | publishRefused | allocateRefused | subscriberFailed | tick | tickRefused => exact hpath
  | @allocate event sequence clock allocation =>
    obtain ⟨hseq, -, -, -⟩ := RuntimeClock.nextSequence_eq_ok allocation
    have hnew := pairwise_concat hinv hpath ⟨sequence, event⟩ hseq
    rw [path] at hnew
    rw [List.append_assoc] at hnew
    exact hnew
  | @schedule index item pending =>
    -- the oldest allocated item goes first, so the path stays as it is
    obtain rfl : index = 0 := horder
    cases hallocated : s.allocated with
    | nil =>
      rw [hallocated] at pending
      cases pending
    | cons first rest =>
      rw [hallocated] at pending
      obtain rfl : first = item := Option.some.inj pending
      show (s.dispatched ++ s.queue.items ++ (s.callbacks ++ [first]) ++ rest).Pairwise Before
      rw [Increasing, path] at hpath
      rw [hallocated] at hpath
      simpa only [List.append_assoc, List.singleton_append] using hpath
  | @runCallback item rest pending =>
    have hresult := (InternalEventQueue.enqueueCrossThread_result item hinv.channel.count_le).1
    show (s.dispatched ++ (s.queue.enqueueCrossThread item).2.items ++ rest ++
      s.allocated).Pairwise Before
    rw [Increasing, path] at hpath
    rw [pending, List.append_assoc, List.cons_append] at hpath
    rw [List.append_assoc]
    exact pairwise_enqueue hresult hpath
  | @take item channel alive idle head =>
    obtain ⟨hitems, -⟩ := EventChannel.takeNowait_eq_some head
    show (s.dispatched ++ [item] ++ channel.items ++ s.callbacks ++ s.allocated).Pairwise Before
    rw [Increasing, path, InternalEventQueue.items] at hpath
    rw [hitems] at hpath
    simpa only [List.append_assoc, List.singleton_append] using hpath
  | @finish item channel busy done =>
    obtain ⟨-, hitems, -⟩ := EventChannel.taskDone_eq_some done
    show (s.dispatched ++ channel.items ++ s.callbacks ++ s.allocated).Pairwise Before
    rw [hitems]
    exact hpath
  | finishUnderflow busy underflow => exact hpath
  | join =>
    obtain ⟨-, hitems, -⟩ := waitDrained_spec hinv.channel
    show (s.dispatched ++ s.queue.channel.waitDrained.2.items ++ s.callbacks ++
      s.allocated).Pairwise Before
    rw [hitems]
    exact hpath

/-! ## The retention buffer -/

/-- What the retention buffer holds was dispatched, in that order. -/
theorem reachable_retention_sublist {clock : RuntimeClock} {capacity : Nat} {hcap : 0 < capacity}
    {retention : Nat} {overflow : OverflowStrategy} {s : Transport}
    (h : Reachable step (start clock (.started capacity hcap retention overflow)) s) :
    s.queue.retention.items.Sublist s.dispatched := by
  have hboth := h.invariant
    (I := fun s => Inv s ∧ s.queue.retention.items.Sublist s.dispatched)
    (fun s a s' hs hstep => ⟨step_inv hs.1 hstep, ?_⟩)
    ⟨inv_start clock hcap retention overflow, List.Sublist.refl _⟩
  · exact hboth.2
  · cases stepped_of_step hstep with
    | @publish event sequence clock allocation =>
      have hframe := (InternalEventQueue.enqueue_result ⟨sequence, event⟩ hs.1.channel.count_le).2
      show (s.queue.enqueue _).2.retention.items.Sublist s.dispatched
      rw [hframe.retention_eq]
      exact hs.2
    | @runCallback item rest pending =>
      have hframe := (InternalEventQueue.enqueueCrossThread_result item hs.1.channel.count_le).2
      show (s.queue.enqueueCrossThread _).2.retention.items.Sublist s.dispatched
      rw [hframe.retention_eq]
      exact hs.2
    | take alive idle head =>
      exact (RetentionBuffer.append_items_sublist _ _).trans (hs.2.append_right _)
    | publishRefused | allocate | allocateRefused | schedule | subscriberFailed | finish
    | finishUnderflow | tick | tickRefused | join => exact hs.2

end Transport

end AsyncViz.Runtime.Queue
