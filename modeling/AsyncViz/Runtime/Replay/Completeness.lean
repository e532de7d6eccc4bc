/-
  AsyncViz.Runtime.Replay.Completeness

  What the replay log promises to its readers.

  `LogInv` ties the ring, its index and the store's high-water mark to the frames
  of everything the store applied.  Every `apply` keeps it.  An event that does not
  serialize is applied all the same and leaves no frame: `Keeps` is the exact
  condition under which a hit of `replay_since` stays complete, and
  `complete_iff_keeps` lifts it to whole runs of `apply` calls.

  `rebuild` goes down a second path: it resets the mark and announces the replayed
  events again.  `Fresh` is the exact condition under which a call keeps the log in
  order (`sound_next_iff`), and `sound_iff_fresh` lifts it to whole runs.
-/

import AsyncViz.Runtime.Replay.Buffer

namespace AsyncViz.Runtime.Replay

open AsyncViz.Lib AsyncViz.Lib.Transition AsyncViz.Runtime.State

namespace BoundStore

/-- The state after a list of calls. -/
def run (b : BoundStore) (acts : List Action) : BoundStore := acts.foldl next b

/-- The frames of the events that a run of `apply` calls applied under a sequence. -/
def appliedFrames (store : RuntimeStateStore) (calls : List ApplyCall) : List ReplayFrame :=
  (store.appliedCalls calls).filterMap callFrame

/-! ## Runs of `apply` -/

/-- The log invariant: the buffer retains the last frames of `applied`, which are in
    order up to the store's mark. -/
structure LogInv (b : BoundStore) (applied : List ReplayFrame) : Prop where
  ordered : Ordered applied
  frames_eq : b.buffer.frames = applied.rtake b.buffer.capacity
  le_mark : ∀ f ∈ applied, f.sequence ≤ b.store.lastSequence
  indexed : b.buffer.retention.Indexed

theorem LogInv.frames_ordered {b : BoundStore} {applied : List ReplayFrame}
    (h : LogInv b applied) : Ordered b.buffer.frames := by
  rw [h.frames_eq]
  exact List.Pairwise.sublist (BoundedRing.rtake_suffix _ _).sublist h.ordered

/-- What an `apply` applies lies above the mark before it and at most at the mark it
    leaves. -/
theorem applied_sequence (b : BoundStore) (call : ApplyCall) :
    ∀ c ∈ b.store.appliedCalls [call], ∀ n, c.sequence = some n →
      b.store.lastSequence < n ∧ n ≤ (b.next (.apply call)).store.lastSequence := by
  have happlies := RuntimeStateStore.apply_applies b.store call.now call.event call.sequence
  rw [(RuntimeStateStore.applyAll_admitted b.store [call]).1, RuntimeStateStore.admitted]
  intro c hc n hn
  show _ ∧ n ≤ (b.store.apply call.now call.event call.sequence).2.1.policy.lastSequence
  generalize b.store.apply call.now call.event call.sequence = r at happlies ⊢
  cases happlies with
  | refused refusal decision_ne policy_eq states_eq =>
    rw [if_neg (RuntimeStateStore.not_admitted_of_refusal refusal)] at hc
    cases hc
  | admitted evaluated legal policy_eq states_eq =>
    rw [if_pos ⟨evaluated, legal⟩] at hc
    obtain rfl : c = call := List.mem_singleton.mp hc
    have hmark := (ReconciliationPolicy.evaluate_eq_apply_iff.mp evaluated).2 n hn
    rw [policy_eq, hn, ReconciliationPolicy.recordApplied_lastSequence_some hmark]
    exact ⟨hmark, Int.le_refl n⟩

/-- An `apply` appends the frames of the calls it applies. -/
theorem appends_apply (b : BoundStore) (call : ApplyCall) :
    b.appends (.apply call) = (b.store.appliedCalls [call]).filterMap callFrame := by
  rw [(RuntimeStateStore.applyAll_admitted b.store [call]).1]
  rfl

/-- The appended frame of an `apply` is at most the mark it leaves. -/
theorem appends_apply_le (b : BoundStore) (call : ApplyCall) :
    ∀ f ∈ b.appends (.apply call), f.sequence ≤ (b.next (.apply call)).store.lastSequence := by
  intro f hf
  rw [appends_apply] at hf
  obtain ⟨c, hc, hframe⟩ := List.mem_filterMap.mp hf
  exact (applied_sequence b call c hc _ (callFrame_eq_some hframe).1).2

theorem logInv_next {b : BoundStore} {applied : List ReplayFrame} (h : LogInv b applied)
    (call : ApplyCall) : LogInv (b.next (.apply call)) (applied ++ b.appends (.apply call)) := by
  obtain ⟨hnew, habove⟩ := appends_ordered b (.apply call)
  obtain ⟨hcapacity, hframes⟩ := next_frames b (.apply call)
  have hcross : ∀ f ∈ applied, ∀ g ∈ b.appends (.apply call), f.sequence < g.sequence := by
    intro f hf g hg
    have hf' := h.le_mark f hf
    have hg' : b.store.lastSequence < g.sequence := habove g hg
    omega
  have hord : Ordered (applied ++ b.appends (.apply call)) :=
    List.pairwise_append.mpr ⟨h.ordered, hnew, hcross⟩
  refine ⟨hord, ?_, ?_, ?_⟩
  · rw [hframes, hcapacity, h.frames_eq, BoundedRing.rtake_rtake_append]
  · intro f hf
    rcases List.mem_append.mp hf with hold | hlast
    · have hold' := h.le_mark f hold
      have hmono : b.store.lastSequence ≤ (b.next (.apply call)).store.lastSequence :=
        RuntimeStateStore.lastSequence_le_apply
      omega
    · exact appends_apply_le b call f hlast
  · rw [next_retention]
    apply FrameRetention.indexed_appendAll h.indexed
    have hsub : (b.buffer.frames ++ b.appends (.apply call)).Sublist
        (applied ++ b.appends (.apply call)) := by
      rw [h.frames_eq]
      exact (BoundedRing.rtake_suffix _ _).sublist.append_right _
    exact List.Pairwise.sublist hsub hord

/-- The first call of a run appends its frames first. -/
theorem appliedFrames_cons (b : BoundStore) (call : ApplyCall) (calls : List ApplyCall) :
    appliedFrames b.store (call :: calls) =
      b.appends (.apply call) ++ appliedFrames (b.next (.apply call)).store calls := by
  have hone : b.appends (.apply call) = appliedFrames b.store [call] := appends_apply b call
  rw [hone]
  rw [appliedFrames]
  rw [RuntimeStateStore.appliedCalls_cons, List.filterMap_append]
  rfl

theorem logInv_bound (store : RuntimeStateStore) {capacity checkpointCapacity : Nat}
    (h : 0 < capacity) (h' : 0 < checkpointCapacity) :
    LogInv ⟨store, .new capacity h checkpointCapacity h'⟩ [] :=
  { ordered := List.Pairwise.nil
    frames_eq := by simp [EventReplayBuffer.frames, EventReplayBuffer.new, FrameRetention.new,
      FrameRetention.items, List.rtake]
    le_mark := fun f hf => by cases hf
    indexed := FrameRetention.indexed_new capacity h }

/-- A covered cursor has lost nothing: whatever was evicted lies at or below it. -/
theorem LogInv.filter_of_covers {b : BoundStore} {applied : List ReplayFrame}
    (h : LogInv b applied) {since : Int} (hpos : 1 ≤ since)
    (hcovers : b.buffer.covers since = true) :
    (b.buffer.frames.filter fun f => since < f.sequence) =
      applied.filter fun f => since < f.sequence := by
  obtain ⟨⟨oldest, holdest, hle⟩, -⟩ :=
    (FrameRetention.covers_iff h.frames_ordered hpos).mp hcovers
  have hmem : oldest ∈ applied.rtake b.buffer.capacity := by
    rw [← h.frames_eq]
    exact holdest
  obtain ⟨evicted, hsplit⟩ := BoundedRing.rtake_suffix b.buffer.capacity applied
  have hord := h.ordered
  rw [← hsplit] at hord
  -- everything evicted lies below the oldest retained frame, which is at most one above the cursor
  have hevicted : (evicted.filter fun f => since < f.sequence) = [] := by
    apply List.filter_eq_nil_iff.mpr
    intro f hf hlt
    have hbelow := (List.pairwise_append.mp hord).2.2 f hf oldest hmem
    have hlt' := of_decide_eq_true hlt
    omega
  rw [h.frames_eq]
  conv_rhs => rw [← hsplit, List.filter_append, hevicted, List.nil_append]

/-! ## Completeness -/

/-- The calls under sequences above `since`. -/
def above (calls : List ApplyCall) (since : Int) : List ApplyCall :=
  calls.filter fun call => call.sequence.any fun n => since < n

/-- Replay completeness in a state, after the store applied the calls `applied`: the
    retained frames are strictly increasing, `get_frame` finds exactly the retained
    frames, and a hit of `replay_since` returns the frame of every event applied above
    the cursor, and nothing else, in order. -/
structure Complete (b : BoundStore) (applied : List ApplyCall) : Prop where
  ordered : Ordered b.buffer.frames
  getFrame_iff : ∀ n f, b.buffer.getFrame n = some f ↔ f ∈ b.buffer.frames ∧ f.sequence = n
  frames_eq : ∀ since withCheckpoint, 1 ≤ since →
    (b.buffer.replaySince since withCheckpoint).1.window.hit = true →
    (b.buffer.replaySince since withCheckpoint).1.window.frames.map some =
      (above applied since).map callFrame

/-- The call loses no event behind the log: if it carries a sequence and the store is
    going to apply it while the log holds a frame, its event serializes. -/
def Keeps (b : BoundStore) (call : ApplyCall) : Prop :=
  call.sequence.isSome = true →
  b.store.policy.evaluate call.sequence call.event.eventId = .apply →
  b.store.states.legal call.event.body = true →
  b.buffer.frames ≠ [] → call.event.serializes = true

instance (b : BoundStore) (call : ApplyCall) : Decidable (Keeps b call) :=
  inferInstanceAs (Decidable (_ → _))

/-- The `apply` calls as a transition system; every call is enabled everywhere. -/
def applyStep (b : BoundStore) (call : ApplyCall) : Option BoundStore :=
  some (b.next (.apply call))

/-- What completeness rests on: the log holds the frames of the sequenced calls that
    were applied, except for some that were applied before the first frame. -/
structure KeptInv (b : BoundStore) (applied : List ApplyCall) : Prop where
  mark_nonneg : 0 ≤ b.store.lastSequence
  kept : ∃ lost logged frames, LogInv b frames ∧
    (applied.filter fun call => call.sequence.isSome) = lost ++ logged ∧
    logged.map callFrame = frames.map some ∧
    (∀ f ∈ frames, 0 < f.sequence) ∧
    ∀ call ∈ lost, ∀ n, call.sequence = some n →
      n ≤ b.store.lastSequence ∧ ∀ f ∈ frames, n < f.sequence

/-- Only sequenced calls lie above a cursor. -/
theorem above_eq (calls : List ApplyCall) (since : Int) :
    above calls since = above (calls.filter fun call => call.sequence.isSome) since := by
  rw [above, above, List.filter_filter]
  congr 1
  funext call
  cases call.sequence <;> simp

/-- Frames of calls are told apart by the cursor as the calls are. -/
theorem map_above {logged : List ApplyCall} {frames : List ReplayFrame}
    (h : logged.map callFrame = frames.map some) (since : Int) :
    (above logged since).map callFrame =
      (frames.filter fun f => since < f.sequence).map some := by
  induction logged generalizing frames with
  | nil =>
    obtain rfl : frames = [] := List.map_eq_nil_iff.mp h.symm
    rfl
  | cons call logged ih =>
    cases frames with
    | nil => cases h
    | cons f frames =>
      rw [List.map_cons, List.map_cons, List.cons.injEq] at h
      obtain ⟨hcall, hrest⟩ := h
      have hseq := (callFrame_eq_some hcall).1
      have hhead : (call.sequence.any fun n => since < n) = decide (since < f.sequence) := by
        rw [hseq]
        rfl
      rw [above, List.filter_cons, List.filter_cons, hhead]
      by_cases hlt : since < f.sequence
      · rw [if_pos (decide_eq_true hlt), if_pos (decide_eq_true hlt), List.map_cons,
          List.map_cons, hcall]
        exact congrArg _ (ih hrest)
      · rw [decide_eq_false hlt]
        exact ih hrest

/-- A covered cursor lies at or above whatever the log never held. -/
theorem KeptInv.complete {b : BoundStore} {applied : List ApplyCall} (h : KeptInv b applied) :
    Complete b applied := by
  obtain ⟨lost, logged, frames, hlog, hsplit, hframes, -, hlost⟩ := h.kept
  refine ⟨hlog.frames_ordered, hlog.indexed, fun since withCheckpoint hpos hhit => ?_⟩
  rw [EventReplayBuffer.replaySince_hit] at hhit
  rw [EventReplayBuffer.replaySince_frames hhit, hlog.filter_of_covers hpos hhit]
  obtain ⟨⟨oldest, holdest, hle⟩, -⟩ :=
    (FrameRetention.covers_iff hlog.frames_ordered hpos).mp hhit
  -- the oldest frame retained is above everything that was lost
  have hmem : oldest ∈ frames := by
    have hretained : oldest ∈ b.buffer.frames := holdest
    rw [hlog.frames_eq] at hretained
    exact (BoundedRing.rtake_suffix _ _).subset hretained
  have hnone : above lost since = [] := by
    apply List.filter_eq_nil_iff.mpr
    intro call hcall habove
    cases hseq : call.sequence with
    | none =>
      rw [hseq] at habove
      cases habove
    | some n =>
      rw [hseq] at habove
      have hbelow := (hlost call hcall n hseq).2 oldest hmem
      have hlt : since < n := of_decide_eq_true habove
      omega
  rw [above_eq, hsplit, above, List.filter_append]
  change _ = (above lost since ++ above logged since).map callFrame
  rw [hnone, List.nil_append, map_above hframes]

/-- The one call that an `apply` of an admitted call applies. -/
theorem appliedCalls_of_admitted {b : BoundStore} {call : ApplyCall}
    (happly : b.store.policy.evaluate call.sequence call.event.eventId = .apply)
    (hlegal : b.store.states.legal call.event.body = true) :
    b.store.appliedCalls [call] = [call] := by
  rw [(RuntimeStateStore.applyAll_admitted b.store [call]).1]
  exact if_pos ⟨happly, hlegal⟩

/-- An `apply` either applies nothing, or its call is admitted. -/
theorem appliedCalls_cases (b : BoundStore) (call : ApplyCall) :
    b.store.appliedCalls [call] = [] ∨
      b.store.policy.evaluate call.sequence call.event.eventId = .apply ∧
        b.store.states.legal call.event.body = true := by
  rw [(RuntimeStateStore.applyAll_admitted b.store [call]).1, RuntimeStateStore.admitted]
  by_cases hboth : b.store.policy.evaluate call.sequence call.event.eventId = .apply ∧
      b.store.states.legal call.event.body = true
  · exact .inr hboth
  · exact .inl (if_neg hboth)

/-- Step lemma: a call that loses nothing behind the log keeps the invariant. -/
theorem KeptInv.step {b : BoundStore} {applied : List ApplyCall} (h : KeptInv b applied)
    {call : ApplyCall} (hkeeps : Keeps b call) :
    KeptInv (b.next (.apply call)) (applied ++ b.store.appliedCalls [call]) := by
  obtain ⟨lost, logged, frames, hlog, hsplit, hframes, hpositive, hlost⟩ := h.kept
  have hnext := logInv_next hlog call
  have hmono : b.store.lastSequence ≤ (b.next (.apply call)).store.lastSequence :=
    RuntimeStateStore.lastSequence_le_apply
  have hmark := h.mark_nonneg
  refine ⟨hmark.trans hmono, ?_⟩
  rw [List.filter_append, hsplit]
  have hstay : ∀ c ∈ lost, ∀ n, c.sequence = some n →
      n ≤ (b.next (.apply call)).store.lastSequence ∧ ∀ f ∈ frames, n < f.sequence :=
    fun c hc n hn => ⟨(hlost c hc n hn).1.trans hmono, (hlost c hc n hn).2⟩
  rw [appends_apply] at hnext
  rcases appliedCalls_cases b call with hnone | ⟨happly, hlegal⟩
  · rw [hnone, List.filterMap_nil, List.append_nil] at hnext
    rw [hnone, List.filter_nil, List.append_nil]
    exact ⟨lost, logged, frames, hnext, rfl, hframes, hpositive, hstay⟩
  have hbounds := applied_sequence b call
  rw [appliedCalls_of_admitted happly hlegal] at hnext hbounds ⊢
  cases hseq : call.sequence with
  | none =>
    have hframe : callFrame call = none := by rw [callFrame, hseq]; rfl
    rw [List.filterMap_cons_none hframe, List.filterMap_nil, List.append_nil] at hnext
    rw [List.filter_cons_of_neg (by rw [hseq]; decide), List.filter_nil, List.append_nil]
    exact ⟨lost, logged, frames, hnext, rfl, hframes, hpositive, hstay⟩
  | some n =>
    obtain ⟨habove, hbelow⟩ := hbounds call (List.mem_singleton_self call) n hseq
    rw [List.filter_cons_of_pos (by rw [hseq]; rfl), List.filter_nil]
    by_cases hserializes : call.event.serializes = true
    -- the frame joins the log above everything lost
    · obtain ⟨frame, hframe⟩ : ∃ frame, callFrame call = some frame := by
        rw [callFrame, hseq, Option.bind_some]
        apply Option.isSome_iff_exists.mp
        rw [frameFromEvent_isSome, hserializes]
      have hsequence : frame.sequence = n := by
        rw [(callFrame_eq_some hframe).1] at hseq
        exact Option.some.inj hseq
      rw [List.filterMap_cons_some hframe, List.filterMap_nil] at hnext
      refine ⟨lost, logged ++ [call], frames ++ [frame], hnext, List.append_assoc _ _ _, ?_,
        fun f hf => ?_, fun c hc m hm => ⟨(hstay c hc m hm).1, fun f hf => ?_⟩⟩
      · rw [List.map_append, List.map_append, hframes, List.map_singleton, hframe]
        rfl
      · rcases List.mem_append.mp hf with hold | hlast
        · exact hpositive f hold
        · rw [List.mem_singleton.mp hlast, hsequence]
          omega
      · rcases List.mem_append.mp hf with hold | hlast
        · exact (hstay c hc m hm).2 f hold
        · rw [List.mem_singleton.mp hlast, hsequence]
          have hm' := (hlost c hc m hm).1
          omega
    -- the event leaves no frame, which only an empty log can bear
    · have hempty : b.buffer.frames = [] := by
        by_contra hsome
        exact hserializes (hkeeps (by rw [hseq]; rfl) happly hlegal hsome)
      have hnil : frames = [] := by
        rw [hlog.frames_eq] at hempty
        have hlength := BoundedRing.length_rtake b.buffer.capacity frames
        have hpos : 0 < b.buffer.capacity := b.buffer.retention.capacity_pos
        rw [hempty, List.length_nil] at hlength
        exact List.length_eq_zero_iff.mp (by omega)
      subst hnil
      obtain rfl : logged = [] := List.map_eq_nil_iff.mp hframes
      have hframe : callFrame call = none := by
        rw [callFrame, hseq, Option.bind_some]
        exact frameFromEvent_eq_none (Bool.eq_false_iff.mpr hserializes) n
      rw [List.filterMap_cons_none hframe, List.filterMap_nil, List.append_nil] at hnext
      rw [List.append_nil]
      refine ⟨lost ++ [call], [], [], hnext, (List.append_nil _).symm, rfl, hpositive,
        fun c hc m hm => ⟨?_, fun f hf => by cases hf⟩⟩
      rcases List.mem_append.mp hc with hold | hlast
      · exact (hstay c hold m hm).1
      · rw [List.mem_singleton.mp hlast, hseq] at hm
        obtain rfl := Option.some.inj hm
        exact hbelow

/-- A call that loses an event behind the log leaves the newest retained sequence as a
    cursor whose hit lacks it. -/
theorem KeptInv.keeps_of_complete {b : BoundStore} {applied : List ApplyCall}
    (h : KeptInv b applied) {call : ApplyCall}
    (hcomplete : Complete (b.next (.apply call)) (applied ++ b.store.appliedCalls [call])) :
    Keeps b call := by
  intro hsome happly hlegal hretained
  by_contra hlost
  obtain ⟨n, hseq⟩ := Option.isSome_iff_exists.mp hsome
  obtain ⟨-, -, frames, hlog, -, -, hpositive, -⟩ := h.kept
  have hbounds := applied_sequence b call
  rw [appliedCalls_of_admitted happly hlegal] at hbounds hcomplete
  obtain ⟨habove, -⟩ := hbounds call (List.mem_singleton_self call) n hseq
  -- the buffer is as it was
  have hsame : (b.next (.apply call)).buffer.retention = b.buffer.retention := by
    rw [next_retention, appends_apply, appliedCalls_of_admitted happly hlegal]
    have hframe : callFrame call = none := by
      rw [callFrame, hseq, Option.bind_some]
      exact frameFromEvent_eq_none (Bool.eq_false_iff.mpr hlost) n
    rw [List.filterMap_cons_none hframe]
    rfl
  have hframes : (b.next (.apply call)).buffer.frames = b.buffer.frames :=
    congrArg FrameRetention.items hsame
  obtain ⟨newest, hnewest⟩ : ∃ f, b.buffer.frames.getLast? = some f :=
    ⟨_, List.getLast?_eq_some_getLast hretained⟩
  have hmem := List.mem_of_getLast? hnewest
  have hmem' : newest ∈ frames := by
    rw [hlog.frames_eq] at hmem
    exact (BoundedRing.rtake_suffix _ _).subset hmem
  have hpos := hpositive newest hmem'
  have hmark := hlog.le_mark newest hmem'
  have hcovers : (b.next (.apply call)).buffer.covers newest.sequence = true := by
    rw [EventReplayBuffer.covers, hsame]
    exact (FrameRetention.covers_iff hlog.frames_ordered hpos).mpr
      ⟨⟨newest, hmem, by omega⟩, ⟨newest, hmem, Int.le_refl _⟩⟩
  have hreturned := hcomplete.frames_eq newest.sequence false hpos
    ((EventReplayBuffer.replaySince_hit _ _ _).trans hcovers)
  rw [EventReplayBuffer.replaySince_frames hcovers, hframes] at hreturned
  have hnone : (b.buffer.frames.filter fun f => newest.sequence < f.sequence) = [] := by
    apply List.filter_eq_nil_iff.mpr
    intro f hf hlt
    have hle := hlog.frames_ordered.le_last hnewest hf
    have hlt' := of_decide_eq_true hlt
    omega
  rw [hnone] at hreturned
  have hlate : call ∈ above (applied ++ [call]) newest.sequence := by
    refine List.mem_filter.mpr ⟨List.mem_append_right _ (List.mem_singleton_self call), ?_⟩
    rw [hseq]
    exact decide_eq_true (show newest.sequence < n by omega)
  rw [List.map_eq_nil_iff.mp hreturned.symm] at hlate
  cases hlate

theorem keptInv_bound {store : RuntimeStateStore} (hmark : 0 ≤ store.lastSequence)
    {capacity checkpointCapacity : Nat} (h : 0 < capacity) (h' : 0 < checkpointCapacity) :
    KeptInv ⟨store, .new capacity h checkpointCapacity h'⟩ [] :=
  { mark_nonneg := hmark
    kept := ⟨[], [], [], logInv_bound store h h', rfl, rfl, fun f hf => (by cases hf),
      fun call hcall => (by cases hcall)⟩ }

/-- Run lemma: from a complete log, the log is complete in every state that a run
    reaches exactly when every call keeps it. -/
theorem KeptInv.run_iff {b : BoundStore} {applied : List ApplyCall} (h : KeptInv b applied)
    (calls : List ApplyCall) :
    (∀ done, done <+: calls →
      Complete (b.run (done.map .apply)) (applied ++ b.store.appliedCalls done)) ↔
      AllSteps applyStep Keeps b calls := by
  induction calls generalizing b applied with
  | nil =>
    refine iff_of_true (fun done hdone => ?_) trivial
    rw [List.prefix_nil.mp hdone, show b.store.appliedCalls [] = [] from rfl, List.append_nil]
    exact h.complete
  | cons call calls ih =>
    have hcons : ∀ done, applied ++ b.store.appliedCalls (call :: done) =
        applied ++ b.store.appliedCalls [call] ++
          (b.next (.apply call)).store.appliedCalls done := by
      intro done
      rw [RuntimeStateStore.appliedCalls_cons, List.append_assoc]
      rfl
    constructor
    · intro hall
      -- completeness behind the first call alone makes it a keeping one
      have hkeeps : Keeps b call :=
        h.keeps_of_complete (hall [call] (List.prefix_append [call] calls))
      refine ⟨hkeeps, fun b' hb' => ?_⟩
      rw [← Option.some.inj hb']
      refine (ih (h.step hkeeps)).mp fun done hdone => ?_
      rw [← hcons]
      exact hall (call :: done) (List.cons_prefix_cons.mpr ⟨rfl, hdone⟩)
    · rintro ⟨hkeeps, hrest⟩ done hdone
      cases done with
      | nil =>
        rw [show b.store.appliedCalls [] = [] from rfl, List.append_nil]
        exact h.complete
      | cons call' done =>
        obtain ⟨rfl, hdone'⟩ := List.cons_prefix_cons.mp hdone
        rw [hcons]
        exact (ih (h.step hkeeps)).mpr (hrest _ rfl) done hdone'

/-- **Replay completeness.**  Bind an empty buffer to a store, whose mark is never
    below zero, and make any `apply` calls.  The log is complete in every state reached,
    whatever was evicted, exactly when no call applies a sequenced event that does not
    serialize while the log holds a frame. -/
theorem complete_iff_keeps (store : RuntimeStateStore) (hmark : 0 ≤ store.lastSequence)
    (capacity checkpointCapacity : Nat) (h : 0 < capacity) (h' : 0 < checkpointCapacity)
    (calls : List ApplyCall) :
    let b : BoundStore := ⟨store, .new capacity h checkpointCapacity h'⟩
    (∀ done, done <+: calls →
      Complete (b.run (done.map .apply)) (store.appliedCalls done)) ↔
      AllSteps applyStep Keeps b calls :=
  (keptInv_bound hmark h h').run_iff calls

/-- A creation of a task, told apart by its id. -/
private def sampleCreation (id : String) : RuntimeEvent :=
  { eventId := id, body := .taskCreated { taskId := id } }

/-- A generic event whose payload holds a lock. -/
private def sampleForeign : RuntimeEvent :=
  { eventId := "lock", body := .other "app.lock" [("payload", .obj [("lock", .foreign "lock")])] }

/-- A generic event that does not serialize comes first; then tasks are created under
    the sequences 1, 4 and 9 through a ring of two frames, with a repeated and a stale
    event in between. -/
theorem complete_iff_keeps_evicted :
    let calls : List ApplyCall := [⟨sampleForeign, some 1, 0⟩, ⟨sampleCreation "a", some 2, 0⟩,
      ⟨sampleCreation "b", some 4, 0⟩, ⟨sampleCreation "b", some 5, 0⟩,
      ⟨sampleCreation "c", some 2, 0⟩, ⟨sampleCreation "d", some 9, 0⟩]
    let b : BoundStore := ⟨.new, .new 2 (by decide) 16 (by decide)⟩
    ∀ done, done <+: calls →
      Complete (b.run (done.map .apply)) (RuntimeStateStore.new.appliedCalls done) := by
  intro calls b
  refine (complete_iff_keeps .new (by decide) 2 16 (by decide) (by decide) calls).mpr ?_
  refine ⟨by decide, ?_⟩
  rintro _ ⟨⟩
  refine ⟨by decide, ?_⟩
  rintro _ ⟨⟩
  refine ⟨by decide, ?_⟩
  rintro _ ⟨⟩
  refine ⟨by decide, ?_⟩
  rintro _ ⟨⟩
  refine ⟨by decide, ?_⟩
  rintro _ ⟨⟩
  exact ⟨by decide, fun _ _ => trivial⟩

/-- A task is created under sequence 1, then an event that does not serialize is
    applied under sequence 2: the cursor 1 is answered with a hit and no frames. -/
theorem replay_lacks_applied :
    let calls : List ApplyCall := [⟨sampleCreation "a", some 1, 0⟩, ⟨sampleForeign, some 2, 0⟩]
    let b := run ⟨.new, .new defaultFrameLimit (by decide) 16 (by decide)⟩ (calls.map .apply)
    RuntimeStateStore.new.appliedCalls calls = calls ∧
      (b.buffer.replaySince 1 false).1.window.hit = true ∧
      (b.buffer.replaySince 1 false).1.window.frames = [] ∧
      ¬ Complete b (RuntimeStateStore.new.appliedCalls calls) := by
  intro calls b
  have happlied : RuntimeStateStore.new.appliedCalls calls = calls := rfl
  have hhit : (b.buffer.replaySince 1 false).1.window.hit = true := by decide
  have hframes : (b.buffer.replaySince 1 false).1.window.frames = [] := rfl
  refine ⟨happlied, hhit, hframes, fun hcomplete => ?_⟩
  have hreturned := hcomplete.frames_eq 1 false (by decide) hhit
  rw [hframes, happlied] at hreturned
  have hlength := congrArg List.length hreturned
  have hone : ((above calls 1).map callFrame).length = 1 := by decide
  rw [hone] at hlength
  cases hlength

/-! ## Runs of `apply` and `rebuild` -/

/-- The log is sound: in order, no event twice, and its ends are the least and the
    greatest retained sequence. -/
structure Sound (b : BoundStore) : Prop where
  ordered : Ordered b.buffer.frames
  once : (b.buffer.frames.map ReplayFrame.eventId).Nodup
  oldest_eq : b.buffer.oldestRetainedSequence =
    (b.buffer.frames.map ReplayFrame.sequence).min?
  newest_eq : b.buffer.newestRetainedSequence =
    (b.buffer.frames.map ReplayFrame.sequence).max?

theorem sound_iff (b : BoundStore) :
    Sound b ↔ Ordered b.buffer.frames ∧ (b.buffer.frames.map ReplayFrame.eventId).Nodup := by
  constructor
  · intro h
    exact ⟨h.ordered, h.once⟩
  · rintro ⟨hord, honce⟩
    obtain ⟨holdest, hnewest⟩ := FrameRetention.ends_of_ordered hord
    exact ⟨hord, honce, holdest, hnewest⟩

/-- The call brings nothing back: the frames it appends lie above, and belong to
    other events than, the frames that stay retained next to them, and those of
    them that fit belong to different events. -/
def Fresh (b : BoundStore) (a : Action) : Prop :=
  (∀ f ∈ b.buffer.frames.rtake (b.buffer.capacity - (b.appends a).length), ∀ g ∈ b.appends a,
    f.sequence < g.sequence ∧ f.eventId ≠ g.eventId) ∧
  (((b.appends a).rtake b.buffer.capacity).map ReplayFrame.eventId).Nodup

instance (b : BoundStore) (a : Action) : Decidable (Fresh b a) :=
  inferInstanceAs (Decidable (_ ∧ _))

/-- From a sound log, a call leads to a sound log exactly when it is fresh. -/
theorem sound_next_iff {b : BoundStore} (hsound : Sound b) (a : Action) :
    Sound (b.next a) ↔ Fresh b a := by
  obtain ⟨hnew, -⟩ := appends_ordered b a
  have hsuffix := BoundedRing.rtake_suffix b.buffer.capacity (b.appends a)
  have hkeptSuffix := BoundedRing.rtake_suffix (b.buffer.capacity - (b.appends a).length)
    b.buffer.frames
  rw [sound_iff, (next_frames b a).2, BoundedRing.rtake_append]
  rw [Fresh]
  generalize hkept : b.buffer.frames.rtake (b.buffer.capacity - (b.appends a).length) = kept
    at hkeptSuffix ⊢
  have hordKept : Ordered kept := List.Pairwise.sublist hkeptSuffix.sublist hsound.ordered
  have honceKept : (kept.map ReplayFrame.eventId).Nodup :=
    List.Nodup.sublist (hkeptSuffix.sublist.map _) hsound.once
  have hordNew : Ordered ((b.appends a).rtake b.buffer.capacity) :=
    List.Pairwise.sublist hsuffix.sublist hnew
  -- where an old frame stays, all the new ones fit
  have hfit : ∀ f ∈ kept, (b.appends a).rtake b.buffer.capacity = b.appends a := by
    intro f hf
    apply BoundedRing.rtake_of_length_le
    by_contra hlong
    have hzero : b.buffer.capacity - (b.appends a).length = 0 := by omega
    rw [hzero] at hkept
    rw [← hkept] at hf
    simp [List.rtake] at hf
  rw [List.map_append]
  constructor
  · rintro ⟨hord, honce⟩
    obtain ⟨-, -, hcross⟩ := List.pairwise_append.mp hord
    obtain ⟨-, honceNew, hdisjoint⟩ := List.nodup_append.mp honce
    refine ⟨fun f hf g hg => ?_, honceNew⟩
    rw [← hfit f hf] at hg
    exact ⟨hcross f hf g hg,
      hdisjoint _ (List.mem_map_of_mem hf) _ (List.mem_map_of_mem hg)⟩
  · rintro ⟨hcross, honceNew⟩
    refine ⟨List.pairwise_append.mpr ⟨hordKept, hordNew, ?_⟩,
      List.nodup_append.mpr ⟨honceKept, honceNew, ?_⟩⟩
    · intro f hf g hg
      exact (hcross f hf g (hsuffix.subset hg)).1
    · intro id hid id' hid'
      obtain ⟨f, hf, rfl⟩ := List.mem_map.mp hid
      obtain ⟨g, hg, rfl⟩ := List.mem_map.mp hid'
      exact (hcross f hf g (hsuffix.subset hg)).2

/-- Over any run of `apply` and `rebuild` calls on a store with a newly bound
    buffer, the log is sound in every state reached exactly when every call is
    fresh. -/
theorem sound_iff_fresh (store : RuntimeStateStore) (capacity checkpointCapacity : Nat)
    (h : 0 < capacity) (h' : 0 < checkpointCapacity) (acts : List Action) :
    let b : BoundStore := ⟨store, .new capacity h checkpointCapacity h'⟩
    (∀ done, done <+: acts → Sound (b.run done)) ↔ AllSteps step Fresh b acts := by
  intro b
  have hsound : Sound b := (sound_iff b).mpr ⟨List.Pairwise.nil, List.nodup_nil⟩
  clear_value b
  induction acts generalizing b with
  | nil =>
    refine iff_of_true (fun done hdone => ?_) trivial
    rw [List.prefix_nil.mp hdone]
    exact hsound
  | cons a acts ih =>
    constructor
    · intro hall
      have hnext : Sound (b.next a) := hall [a] (List.prefix_append [a] acts)
      refine ⟨(sound_next_iff hsound a).mp hnext, fun b' hb' => ?_⟩
      rw [← Option.some.inj hb']
      exact (ih (b.next a) hnext).mp fun done hdone =>
        hall (a :: done) (List.cons_prefix_cons.mpr ⟨rfl, hdone⟩)
    · rintro ⟨hfresh, hrest⟩ done hdone
      have hnext : Sound (b.next a) := (sound_next_iff hsound a).mpr hfresh
      cases done with
      | nil => exact hsound
      | cons a' done =>
        obtain ⟨rfl, hdone'⟩ := List.cons_prefix_cons.mp hdone
        exact (ih (b.next a') hnext).mpr (hrest _ rfl) done hdone'

/-- Apply an event under sequence 1, then rebuild from a later one. -/
theorem sound_iff_fresh_later : Sound (run ⟨.new, .new 4 (by decide) 16 (by decide)⟩
    [.apply ⟨sampleCreation "a", some 1, 0⟩, .rebuild [⟨sampleCreation "b", some 2, 0⟩]]) := by
  apply (sound_iff_fresh .new 4 16 (by decide) (by decide) _).mpr _ _ (List.prefix_refl _)
  refine ⟨by decide, fun b hb => ?_⟩
  obtain rfl := Option.some.inj hb
  exact ⟨by decide, fun _ _ => trivial⟩

/-- Apply an event under sequence 1, then rebuild the store from that event: it is
    announced again, and the log retains it twice under the same sequence. -/
theorem rebuild_retains_twice : ¬ Sound
    (run ⟨.new, .new defaultFrameLimit (by decide) 16 (by decide)⟩
    [.apply ⟨sampleCreation "a", some 1, 0⟩, .rebuild [⟨sampleCreation "a", some 1, 0⟩]]) := by
  intro hsound
  have htwice : ¬ ((run ⟨.new, .new defaultFrameLimit (by decide) 16 (by decide)⟩
      [.apply ⟨sampleCreation "a", some 1, 0⟩,
        .rebuild [⟨sampleCreation "a", some 1, 0⟩]]).buffer.frames.map
          ReplayFrame.eventId).Nodup := by decide
  exact htwice hsound.once

end BoundStore

end AsyncViz.Runtime.Replay
