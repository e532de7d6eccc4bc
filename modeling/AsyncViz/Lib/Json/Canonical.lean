/-
  AsyncViz.Lib.Json.Canonical

  The canonical form of a value: at every level one entry under each key, in the order of the
  keys.  Values with one canonical form are the same up to the order of their entries
  (`same_object_iff`), and the text of a canonical form says which of them can be written.

  * `sorted_sorted`: the canonical form of a canonical form is itself
  * `encodable_print`: a text has a UTF-8 form if the strings of its value do
-/

import Mathlib.Data.List.Lex
import AsyncViz.Lib.Json.Value
import AsyncViz.Lib.SortedDict

namespace AsyncViz.Lib.Json

variable {F : Type} {fmt : FloatFormat F}

/-! ## Sorting -/

namespace JsonValue

mutual

/-- The canonical form of a value. -/
def sorted : JsonValue F → JsonValue F
  | array items => array (sortedItems items)
  | object entries => object (Dict.ofPairs (sortedValues entries)).sortedEntries
  | null => null
  | bool b => bool b
  | int n => int n
  | float x => float x
  | nonFinite x => nonFinite x
  | string s => string s

def sortedItems : List (JsonValue F) → List (JsonValue F)
  | [] => []
  | v :: items => v.sorted :: sortedItems items

def sortedValues : List (Text × JsonValue F) → List (Text × JsonValue F)
  | [] => []
  | (k, v) :: entries => (k, v.sorted) :: sortedValues entries

end

theorem sortedItems_eq (items : List (JsonValue F)) : sortedItems items = items.map sorted := by
  induction items with
  | nil => rfl
  | cons v items ih => rw [sortedItems, ih, List.map_cons]

theorem sortedValues_eq (entries : List (Text × JsonValue F)) :
    sortedValues entries = entries.map fun p => (p.1, p.2.sorted) := by
  induction entries with
  | nil => rfl
  | cons p entries ih => rw [sortedValues, ih, List.map_cons]

/-- The canonical form of an object, by its dict. -/
theorem sorted_object (entries : List (Text × JsonValue F)) :
    (object entries).sorted
      = object ((Dict.ofPairs entries).mapValues sorted).sortedEntries := by
  rw [sorted, sortedValues_eq, Dict.mapValues_ofPairs]

mutual

/-- The canonical form of a canonical form is itself. -/
theorem sorted_sorted : ∀ v : JsonValue F, v.sorted.sorted = v.sorted
  | null => rfl
  | bool _ => rfl
  | int _ => rfl
  | float _ => rfl
  | nonFinite _ => rfl
  | string _ => rfl
  | array items => by
    rw [sorted, sorted, sortedItems_sortedItems items]
  | object entries => by
    have hvalues := sorted_sorted_values entries
    rw [sorted_object, sorted_object]
    congr 1
    refine Dict.sortedEntries_eq_iff.mpr fun k => ?_
    rw [Dict.get?_mapValues, Dict.get?_ofPairs_sortedEntries, Dict.get?_mapValues, Option.map_map]
    cases hget : (Dict.ofPairs entries).get? k with
    | none => rfl
    | some v => exact congrArg some (hvalues _ (Dict.mem_of_get?_ofPairs hget))

theorem sortedItems_sortedItems : ∀ items : List (JsonValue F),
    sortedItems (sortedItems items) = sortedItems items
  | [] => rfl
  | v :: items => by
    rw [sortedItems, sortedItems, sorted_sorted v, sortedItems_sortedItems items]

theorem sorted_sorted_values : ∀ (entries : List (Text × JsonValue F)),
    ∀ p ∈ entries, p.2.sorted.sorted = p.2.sorted
  | [], _, hp => by cases hp
  | (k, v) :: entries, p, hp => by
    rcases List.mem_cons.mp hp with rfl | hp
    · exact sorted_sorted v
    · exact sorted_sorted_values entries p hp

end

/-! ## Sameness -/

/-- The same value, up to the order of entries. -/
def Same (v w : JsonValue F) : Prop := v.sorted = w.sorted

theorem Same.refl (v : JsonValue F) : Same v v := rfl

theorem same_sorted (v : JsonValue F) : Same v.sorted v := sorted_sorted v

/-- Two dicts with the same under every key. -/
def SameEntries (d d' : Dict Text (JsonValue F)) : Prop :=
  ∀ k, (d.get? k).map sorted = (d'.get? k).map sorted

theorem SameEntries.refl (d : Dict Text (JsonValue F)) : SameEntries d d := fun _ => rfl

/-- Objects are the same if the same values stand under their keys. -/
theorem same_object_iff {entries entries' : List (Text × JsonValue F)} :
    Same (object entries) (object entries')
      ↔ SameEntries (Dict.ofPairs entries) (Dict.ofPairs entries') := by
  rw [Same, sorted_object, sorted_object, object.injEq, Dict.sortedEntries_eq_iff]
  simp only [Dict.get?_mapValues]
  rfl

/-! ## What can be written -/

mutual

/-- The strings and the keys in a value. -/
def strings : JsonValue F → List Text
  | string s => [s]
  | array items => itemStrings items
  | object entries => entryStrings entries
  | null => []
  | bool _ => []
  | int _ => []
  | float _ => []
  | nonFinite _ => []

def itemStrings : List (JsonValue F) → List Text
  | [] => []
  | v :: items => v.strings ++ itemStrings items

def entryStrings : List (Text × JsonValue F) → List Text
  | [] => []
  | (k, v) :: entries => k :: (v.strings ++ entryStrings entries)

end

mutual

/-- The non-finite floats in a value. -/
def nonFinites : JsonValue F → List NonFinite
  | nonFinite x => [x]
  | array items => itemNonFinites items
  | object entries => entryNonFinites entries
  | null => []
  | bool _ => []
  | int _ => []
  | float _ => []
  | string _ => []

def itemNonFinites : List (JsonValue F) → List NonFinite
  | [] => []
  | v :: items => v.nonFinites ++ itemNonFinites items

def entryNonFinites : List (Text × JsonValue F) → List NonFinite
  | [] => []
  | (_, v) :: entries => v.nonFinites ++ entryNonFinites entries

end

theorem entryStrings_eq (entries : List (Text × JsonValue F)) :
    entryStrings entries = entries.flatMap fun p => p.1 :: p.2.strings := by
  induction entries with
  | nil => rfl
  | cons p entries ih =>
    rw [entryStrings, ih, List.flatMap_cons]
    rfl

theorem entryNonFinites_eq (entries : List (Text × JsonValue F)) :
    entryNonFinites entries = entries.flatMap fun p => p.2.nonFinites := by
  induction entries with
  | nil => rfl
  | cons p entries ih => rw [entryNonFinites, ih, List.flatMap_cons]

/-- All numbers of the value are finite: of two entries under one key only the last one is in
    it. -/
def IsFinite (v : JsonValue F) : Prop := v.sorted.nonFinites = []

/-- No string or key of the value holds a lone surrogate. -/
def IsEncodable (v : JsonValue F) : Prop := ∀ s ∈ v.sorted.strings, Encodable s

theorem isFinite_object (d : Dict Text (JsonValue F)) :
    IsFinite (object d.entries) ↔ ∀ k v, d.get? k = some v → IsFinite v := by
  rw [IsFinite, sorted_object, nonFinites, entryNonFinites_eq, List.flatMap_eq_nil_iff,
    Dict.ofPairs_entries]
  constructor
  · intro h k v hget
    exact h (k, v.sorted) (Dict.mem_sortedEntries.mpr (by rw [Dict.get?_mapValues, hget]; rfl))
  · rintro h ⟨k, w⟩ hp
    have hget := Dict.mem_sortedEntries.mp hp
    rw [Dict.get?_mapValues] at hget
    obtain ⟨v, hvalue, rfl⟩ := Option.map_eq_some_iff.mp hget
    exact h k v hvalue

theorem isEncodable_object (d : Dict Text (JsonValue F)) :
    IsEncodable (object d.entries) ↔
      ∀ k v, d.get? k = some v → Encodable k ∧ IsEncodable v := by
  rw [IsEncodable, sorted_object, strings, entryStrings_eq, Dict.ofPairs_entries]
  simp only [List.mem_flatMap, forall_exists_index, and_imp]
  constructor
  · intro h k v hget
    have hmem : (k, v.sorted) ∈ (d.mapValues sorted).sortedEntries :=
      Dict.mem_sortedEntries.mpr (by rw [Dict.get?_mapValues, hget]; rfl)
    exact ⟨h k _ hmem (List.mem_cons_self ..),
      fun s hs => h s _ hmem (List.mem_cons_of_mem _ hs)⟩
  · rintro h s ⟨k, w⟩ hp hs
    have hget := Dict.mem_sortedEntries.mp hp
    rw [Dict.get?_mapValues] at hget
    obtain ⟨v, hvalue, rfl⟩ := Option.map_eq_some_iff.mp hget
    rcases List.mem_cons.mp hs with rfl | hs
    · exact (h _ v hvalue).1
    · exact (h k v hvalue).2 s hs

end JsonValue

/-! ## The code points of a text -/

/-- Numbers are written without surrogates. -/
theorem Decimal.Written.encodable_print {d : Decimal} (h : d.Written) : Encodable d.print := by
  have hsmall : ∀ {c : Nat}, c < 128 → ¬ IsSurrogate c := fun h hc => by
    have hle := hc.1
    omega
  have hdigits : ∀ digits : List Nat, (∀ c ∈ digits, c < 10) → Encodable (printDigits digits) := by
    intro digits hlt c hc
    obtain ⟨d, hd, rfl⟩ := List.mem_map.mp hc
    have hd' := hlt d hd
    exact hsmall (by omega)
  have hfraction : Encodable (printFraction d.fraction) := by
    unfold printFraction
    split
    · exact encodable_nil
    · exact encodable_cons.mpr ⟨by decide, hdigits _ h.fraction⟩
  have hexponent : Encodable (printExponent d.exponent) := by
    cases hexp : d.exponent with
    | none => exact encodable_nil
    | some e =>
      have hminus : ∀ minus, Encodable (printMinus minus) := by decide
      exact encodable_cons.mpr ⟨by decide, encodable_append.mpr
        ⟨hminus _, hdigits _ (h.exponent e hexp).2⟩⟩
  rw [print, encodable_append, encodable_append, encodable_append]
  refine ⟨?_, hdigits _ h.whole, hfraction, hexponent⟩
  split
  · decide
  · exact encodable_nil

namespace JsonValue

theorem encodable_iff_of_nil {t : Text} (h : Encodable t) :
    Encodable t ↔ ∀ s ∈ ([] : List Text), Encodable s :=
  iff_of_true h fun _ hs => by cases hs

mutual

/-- The text of a value has a UTF-8 form if its strings do. -/
theorem encodable_print (fmt : FloatFormat F) :
    ∀ v : JsonValue F, Encodable (v.print fmt) ↔ ∀ s ∈ v.strings, Encodable s
  | null => encodable_iff_of_nil (t := text "null") (by decide)
  | bool true => encodable_iff_of_nil (t := text "true") (by decide)
  | bool false => encodable_iff_of_nil (t := text "false") (by decide)
  | int n => encodable_iff_of_nil (Decimal.written_ofInt n).encodable_print
  | float x => encodable_iff_of_nil (fmt.written x).encodable_print
  | nonFinite .nan => encodable_iff_of_nil (t := text "NaN") (by decide)
  | nonFinite .infinity => encodable_iff_of_nil (t := text "Infinity") (by decide)
  | nonFinite .negInfinity => encodable_iff_of_nil (t := text "-Infinity") (by decide)
  | string s => by simp [print, strings]
  | array [] => encodable_iff_of_nil (t := [code '[', code ']']) (by decide)
  | array (v :: items) => by
    have hopen : ¬ IsSurrogate (code '[') := by decide
    rw [print, encodable_cons, encodable_append, encodable_print fmt v,
      encodable_printItems fmt items, and_iff_right hopen, strings, itemStrings,
      List.forall_mem_append]
  | object [] => encodable_iff_of_nil (t := [code '{', code '}']) (by decide)
  | object ((k, v) :: entries) => by
    have hopen : ¬ IsSurrogate (code '{') := by decide
    have hcolon : ¬ IsSurrogate (code ':') := by decide
    rw [print, encodable_cons, encodable_append, encodable_cons, encodable_append,
      encodable_printString, encodable_print fmt v, encodable_printEntries fmt entries,
      and_iff_right hopen, and_iff_right hcolon, strings, entryStrings, List.forall_mem_cons,
      List.forall_mem_append]

theorem encodable_printItems (fmt : FloatFormat F) : ∀ items : List (JsonValue F),
    Encodable (printItems fmt items) ↔ ∀ s ∈ itemStrings items, Encodable s
  | [] => encodable_iff_of_nil (t := [code ']']) (by decide)
  | v :: items => by
    have hcomma : ¬ IsSurrogate (code ',') := by decide
    rw [printItems, encodable_cons, encodable_append, encodable_print fmt v,
      encodable_printItems fmt items, and_iff_right hcomma, itemStrings, List.forall_mem_append]

theorem encodable_printEntries (fmt : FloatFormat F) : ∀ entries : List (Text × JsonValue F),
    Encodable (printEntries fmt entries) ↔ ∀ s ∈ entryStrings entries, Encodable s
  | [] => encodable_iff_of_nil (t := [code '}']) (by decide)
  | (k, v) :: entries => by
    have hcomma : ¬ IsSurrogate (code ',') := by decide
    have hcolon : ¬ IsSurrogate (code ':') := by decide
    rw [printEntries, encodable_cons, encodable_append, encodable_cons, encodable_append,
      encodable_printString, encodable_print fmt v, encodable_printEntries fmt entries,
      and_iff_right hcomma, and_iff_right hcolon, entryStrings, List.forall_mem_cons,
      List.forall_mem_append]

end

end JsonValue

end AsyncViz.Lib.Json
