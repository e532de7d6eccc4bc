/-
  AsyncViz.Runtime.Events.Subscriptions

  The subscriptions of a bus and their index by event type (`runtime/events/subscriber.py`).

  `Indexed` ties the two indices to the table: `mem_matching` reads a lookup off it, and
  `subscriptions` is the plain list of what was added and not removed, which the table is at any
  time (`values_add`, `values_remove`).
-/

import AsyncViz.Lib.Buckets
import AsyncViz.Runtime.Events

namespace AsyncViz.Runtime.Events

open AsyncViz.Lib

/-- `Subscription`.  The event types are a frozenset, without repetitions. -/
structure Subscription where
  id : Nat
  eventTypes : Option (List String)
deriving DecidableEq, Repr

namespace Subscription

/-- The subscription is for events of this type. -/
def Accepts (sub : Subscription) (eventType : String) : Prop :=
  ∀ types, sub.eventTypes = some types → eventType ∈ types

end Subscription

/-- `InvalidSubscriptionError` of `add`; that a callback is callable is left to its type. -/
inductive SubscriptionError where
  | invalidEventTypes
deriving DecidableEq, Repr

def SubscriptionError.message : SubscriptionError → String
  | .invalidEventTypes => "event_types must be non-empty strings"

/-- `SubscriptionRegistry`. -/
structure SubscriptionRegistry where
  nextId : Nat
  byId : Dict Nat Subscription
  byType : Buckets String Nat
  wildcards : Finset Nat

namespace SubscriptionRegistry

/-- `SubscriptionRegistry()`. -/
def new : SubscriptionRegistry := ⟨0, .empty, .empty, ∅⟩

/-- The event types are non-empty strings. -/
def validTypes (eventTypes : Option (List String)) : Bool :=
  match eventTypes with
  | none => true
  | some types => types.all (· ≠ "")

/-- `add`. -/
def add (r : SubscriptionRegistry) (eventTypes : Option (List String)) :
    Except SubscriptionError Subscription × SubscriptionRegistry :=
  if validTypes eventTypes then
    let sub : Subscription := ⟨r.nextId + 1, eventTypes.map List.dedup⟩
    let stored := { r with nextId := r.nextId + 1, byId := r.byId.set sub.id sub }
    match sub.eventTypes with
    | none => (.ok sub, { stored with wildcards := insert sub.id r.wildcards })
    | some types => (.ok sub, { stored with byType := Buckets.addAll r.byType types sub.id })
  else (.error .invalidEventTypes, r)

/-- `remove`. -/
def remove (r : SubscriptionRegistry) (subId : Nat) : Bool × SubscriptionRegistry :=
  match r.byId.get? subId with
  | none => (false, r)
  | some sub =>
    let removed := { r with byId := r.byId.pop subId }
    match sub.eventTypes with
    | none => (true, { removed with wildcards := r.wildcards.erase sub.id })
    | some types => (true, { removed with byType := Buckets.discardAll r.byType types sub.id })

/-- `matching`: the ids of the subscriptions that it gives, in no order. -/
def matching (r : SubscriptionRegistry) (eventType : String) : Finset Nat :=
  (r.wildcards ∪ Buckets.bucket r.byType eventType).filter (· ∈ r.byId)

/-! ## The index -/

/-- The indices say what the table says, and ids are only given forward. -/
structure Indexed (r : SubscriptionRegistry) : Prop where
  keyed : ∀ i sub, r.byId.get? i = some sub → sub.id = i
  given : ∀ i, i ∈ r.byId → i ≤ r.nextId
  wildcards : ∀ i, i ∈ r.wildcards ↔ ∃ sub, r.byId.get? i = some sub ∧ sub.eventTypes = none
  byType : ∀ t i, i ∈ Buckets.bucket r.byType t ↔
    ∃ sub types, r.byId.get? i = some sub ∧ sub.eventTypes = some types ∧ t ∈ types
  trim : Buckets.Trim r.byType

theorem indexed_new : Indexed new where
  keyed i sub h := by cases h
  given i h := absurd h (Dict.not_mem_empty i)
  wildcards i := by simp [new]
  byType t i := by simp [new, Buckets.bucket]
  trim k s h := by cases h

variable {r : SubscriptionRegistry}

/-- What `matching` finds is what the table has for the event. -/
theorem Indexed.mem_matching (h : Indexed r) (eventType : String) (i : Nat) :
    i ∈ r.matching eventType ↔ ∃ sub, r.byId.get? i = some sub ∧ sub.Accepts eventType := by
  rw [matching, Finset.mem_filter, Finset.mem_union, h.wildcards, h.byType]
  constructor
  · rintro ⟨⟨sub, hget, hnone⟩ | ⟨sub, types, hget, htypes, hmem⟩, -⟩
    · refine ⟨sub, hget, fun types htypes => ?_⟩
      rw [hnone] at htypes
      cases htypes
    · refine ⟨sub, hget, fun other hother => ?_⟩
      rw [htypes] at hother
      rwa [← Option.some.inj hother]
  · rintro ⟨sub, hget, haccepts⟩
    refine ⟨?_, Dict.mem_of_get?_eq_some hget⟩
    cases htypes : sub.eventTypes with
    | none => exact .inl ⟨sub, hget, htypes⟩
    | some types => exact .inr ⟨sub, types, hget, htypes, haccepts types htypes⟩

/-! ## The operations keep it -/

/-- `add` gives a new id, or raises and changes nothing. -/
theorem add_cases (r : SubscriptionRegistry) (eventTypes : Option (List String)) :
    (∃ e, r.add eventTypes = (.error e, r) ∧ validTypes eventTypes = false) ∨
    ∃ sub r', r.add eventTypes = (.ok sub, r') ∧ validTypes eventTypes = true ∧
      sub = ⟨r.nextId + 1, eventTypes.map List.dedup⟩ ∧ r'.nextId = r.nextId + 1 ∧
      r'.byId = r.byId.set sub.id sub ∧
      r'.wildcards = (if sub.eventTypes = none then insert sub.id r.wildcards else r.wildcards) ∧
      r'.byType = Buckets.addAll r.byType (sub.eventTypes.getD []) sub.id := by
  unfold add
  dsimp only
  cases hvalid : validTypes eventTypes with
  | false => exact .inl ⟨_, if_neg Bool.false_ne_true, rfl⟩
  | true =>
    rw [if_pos rfl]
    refine .inr ?_
    cases eventTypes with
    | none => exact ⟨_, _, rfl, rfl, rfl, rfl, rfl, rfl, rfl⟩
    | some types => exact ⟨_, _, rfl, rfl, rfl, rfl, rfl, rfl, rfl⟩

theorem indexed_add (h : Indexed r) (eventTypes : Option (List String)) :
    Indexed (r.add eventTypes).2 := by
  rcases add_cases r eventTypes with ⟨e, heq, -⟩ |
    ⟨sub, r', heq, -, hsub, hnext, hbyId, hwildcards, hbyType⟩
  · rw [heq]
    exact h
  rw [heq]
  dsimp only
  have hid : sub.id = r.nextId + 1 := congrArg Subscription.id hsub
  -- the new id is not in the table
  have hfresh : ∀ i, i ∈ r.byId → i ≠ sub.id := by
    intro i hi
    have hle := h.given i hi
    omega
  have hget : ∀ i, r'.byId.get? i = if i = sub.id then some sub else r.byId.get? i := by
    intro i
    rw [hbyId, Dict.get?_set]
  have hold : ∀ i s, r.byId.get? i = some s → i ≠ sub.id :=
    fun i s hs => hfresh i (Dict.mem_of_get?_eq_some hs)
  refine ⟨fun i s hs => ?_, fun i hi => ?_, fun i => ?_, fun t i => ?_, ?_⟩
  · rw [hget] at hs
    split at hs
    · next hnew =>
      rw [hnew, ← Option.some.inj hs]
    · exact h.keyed i s hs
  · rw [hnext]
    rw [hbyId, Dict.mem_set_iff] at hi
    rcases hi with rfl | hi
    · omega
    · have hle := h.given i hi
      omega
  · rw [hwildcards]
    by_cases hnew : i = sub.id
    · subst hnew
      have hnot : sub.id ∉ r.wildcards := by
        intro hmem
        obtain ⟨s, hs, -⟩ := (h.wildcards _).mp hmem
        exact hold _ s hs rfl
      by_cases hnone : sub.eventTypes = none
      · rw [if_pos hnone]
        exact iff_of_true (Finset.mem_insert_self _ _)
          ⟨sub, (hget _).trans (if_pos rfl), hnone⟩
      · rw [if_neg hnone]
        refine iff_of_false hnot ?_
        rintro ⟨s, hs, hs'⟩
        rw [hget, if_pos rfl] at hs
        exact hnone (Option.some.inj hs ▸ hs')
    · rw [hget, if_neg hnew, ← h.wildcards]
      split
      · rw [Finset.mem_insert, or_iff_right hnew]
      · exact Iff.rfl
  · rw [hbyType, Buckets.mem_bucket_addAll, h.byType]
    by_cases hnew : i = sub.id
    · subst hnew
      rw [hget, if_pos rfl]
      constructor
      · rintro (⟨s, types, hs, -⟩ | ⟨hmem, -⟩)
        · exact absurd rfl (hold _ s hs)
        · cases htypes : sub.eventTypes with
          | none =>
            rw [htypes] at hmem
            cases hmem
          | some types =>
            rw [htypes] at hmem
            exact ⟨sub, types, rfl, htypes, hmem⟩
      · rintro ⟨s, types, hs, htypes, hmem⟩
        cases hs
        refine .inr ⟨?_, rfl⟩
        rw [htypes]
        exact hmem
    · rw [hget, if_neg hnew]
      exact or_iff_left fun hboth => hnew hboth.2
  · rw [hbyType]
    exact Buckets.trim_addAll h.trim

/-- `remove` takes the subscription out of the table, or finds none. -/
theorem remove_cases (r : SubscriptionRegistry) (subId : Nat) :
    (r.byId.get? subId = none ∧ r.remove subId = (false, r)) ∨
    ∃ sub r', r.byId.get? subId = some sub ∧ r.remove subId = (true, r') ∧
      r'.nextId = r.nextId ∧ r'.byId = r.byId.pop subId ∧
      r'.wildcards = (if sub.eventTypes = none then r.wildcards.erase sub.id else r.wildcards) ∧
      r'.byType = Buckets.discardAll r.byType (sub.eventTypes.getD []) sub.id := by
  unfold remove
  cases hget : r.byId.get? subId with
  | none => exact .inl ⟨rfl, rfl⟩
  | some sub =>
    refine .inr ?_
    dsimp only
    cases htypes : sub.eventTypes with
    | none => exact ⟨sub, _, rfl, rfl, rfl, rfl, by rw [htypes]; rfl, by rw [htypes]; rfl⟩
    | some types => exact ⟨sub, _, rfl, rfl, rfl, rfl, by rw [htypes]; rfl, by rw [htypes]; rfl⟩

theorem indexed_remove (h : Indexed r) (subId : Nat) : Indexed (r.remove subId).2 := by
  rcases remove_cases r subId with ⟨-, heq⟩ |
    ⟨sub, r', hsub, heq, hnext, hbyId, hwildcards, hbyType⟩
  · rw [heq]
    exact h
  rw [heq]
  dsimp only
  have hid : sub.id = subId := h.keyed subId sub hsub
  have hget : ∀ i, r'.byId.get? i = if i = subId then none else r.byId.get? i := by
    intro i
    rw [hbyId, Dict.get?_pop]
  refine ⟨fun i s hs => ?_, fun i hi => ?_, fun i => ?_, fun t i => ?_, ?_⟩
  · rw [hget] at hs
    split at hs
    · cases hs
    · exact h.keyed i s hs
  · rw [hbyId, Dict.mem_pop_iff] at hi
    rw [hnext]
    exact h.given i hi.2
  · rw [hwildcards, hget]
    by_cases hsame : i = subId
    · subst hsame
      rw [if_pos rfl, hid]
      refine iff_of_false ?_ (by rintro ⟨s, hs, -⟩; cases hs)
      split
      · exact Finset.notMem_erase _ _
      · next hnone =>
        intro hmem
        obtain ⟨s, hs, hs'⟩ := (h.wildcards _).mp hmem
        rw [hsub] at hs
        exact hnone (Option.some.inj hs ▸ hs')
    · rw [if_neg hsame, ← h.wildcards]
      split
      · rw [Finset.mem_erase, hid, and_iff_right hsame]
      · exact Iff.rfl
  · rw [hbyType, Buckets.mem_bucket_discardAll, h.byType, hget, hid]
    by_cases hsame : i = subId
    · subst hsame
      rw [if_pos rfl]
      refine iff_of_false ?_ (by rintro ⟨s, types, hs, -⟩; cases hs)
      rintro ⟨⟨s, types, hs, htypes, hmem⟩, hnot⟩
      rw [hsub] at hs
      cases hs
      refine hnot ⟨?_, rfl⟩
      rw [htypes]
      exact hmem
    · rw [if_neg hsame]
      exact and_iff_left fun hboth => hsame hboth.2
  · rw [hbyType]
    exact Buckets.trim_discardAll h.trim

/-! ## The plain list -/

/-- The subscriptions of the table, oldest first. -/
def subscriptions (r : SubscriptionRegistry) : List Subscription := r.byId.values

theorem mem_subscriptions {sub : Subscription} :
    sub ∈ r.subscriptions ↔ ∃ i, r.byId.get? i = some sub := Dict.mem_values_iff

/-- What is added is the last. -/
theorem subscriptions_add (h : Indexed r) (eventTypes : Option (List String)) :
    (r.add eventTypes).2.subscriptions = r.subscriptions ++
      if validTypes eventTypes then [⟨r.nextId + 1, eventTypes.map List.dedup⟩] else [] := by
  rcases add_cases r eventTypes with ⟨e, heq, hvalid⟩ |
    ⟨sub, r', heq, hvalid, hsub, -, hbyId, -⟩
  · rw [heq, hvalid]
    exact (List.append_nil _).symm
  · have hfresh : sub.id ∉ r.byId := by
      intro hmem
      have hle := h.given _ hmem
      rw [hsub] at hle
      exact Nat.not_succ_le_self _ hle
    rw [heq, hvalid, if_pos rfl, ← hsub, subscriptions]
    dsimp only
    rw [hbyId]
    exact Dict.values_set_of_not_mem sub hfresh

/-- What is removed goes, and the others stay in order. -/
theorem subscriptions_remove (h : Indexed r) (subId : Nat) :
    (r.remove subId).2.subscriptions = r.subscriptions.filter (·.id ≠ subId) := by
  have hkeyed : ∀ p ∈ r.byId.entries, p.2.id = p.1 :=
    fun p hp => h.keyed p.1 p.2 (Dict.mem_entries_iff.mp hp)
  have hpop : (r.byId.pop subId).values = r.byId.values.filter (·.id ≠ subId) := by
    rw [Dict.values, Dict.values, List.filter_map]
    refine congrArg (List.map Prod.snd) (List.filter_congr fun p hp => ?_)
    rw [Function.comp_apply, hkeyed p hp]
  rcases remove_cases r subId with ⟨hnone, heq⟩ | ⟨sub, r', hsub, heq, -, hbyId, -⟩
  · rw [heq]
    refine (List.filter_eq_self.mpr fun sub hmem => ?_).symm
    obtain ⟨i, hi⟩ := mem_subscriptions.mp hmem
    have hid := h.keyed i sub hi
    refine decide_eq_true fun hsame => ?_
    rw [hid.symm.trans hsame, hnone] at hi
    cases hi
  · rw [heq, subscriptions]
    dsimp only
    rw [hbyId]
    exact hpop

end SubscriptionRegistry

end AsyncViz.Runtime.Events
