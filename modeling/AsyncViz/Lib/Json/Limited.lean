/-
  AsyncViz.Lib.Json.Limited

  The reader with the limits of an interpreter: an integer with too many digits is not converted,
  and nesting that is too deep is not followed.

  Where a limit is met the reader ends there, in front of whatever else is wrong with the text.
  `Agrees.loads`: elsewhere it comes to what the reader without limits comes to.
-/

import AsyncViz.Lib.Json.Value

namespace AsyncViz.Lib.Json

/-- What ends the reading of a text without a value. -/
inductive ReadError where
  | malformed
  | tooManyDigits
  | tooDeep
deriving DecidableEq, Repr

/-- How many digits an integer may have, where that is limited, and how deep values may nest. -/
structure Limits where
  digits : Option Nat := some 4300
  depth : Nat

namespace Limits

/-- The integer has more digits than are converted. -/
def Exceeds (limits : Limits) (d : Decimal) : Prop :=
  d.IsInt ∧ ∃ most ∈ limits.digits, most < d.whole.length

instance (limits : Limits) (d : Decimal) : Decidable (limits.Exceeds d) :=
  inferInstanceAs (Decidable (_ ∧ _))

end Limits

variable {F : Type}

/-- `none` is a text that does not go on as it has to. -/
def orMalformed {α : Type} : Option α → Except ReadError α
  | none => .error .malformed
  | some x => .ok x

/-- A word or a number. -/
def readAtomWithin (limits : Limits) (fmt : FloatFormat F) (input : Text) :
    Except ReadError (JsonValue F × Text) :=
  match readKeyword input with
  | some read => .ok read
  | none =>
    match readDecimal input with
    | none => .error .malformed
    | some (d, rest) =>
      if limits.Exceeds d then .error .tooManyDigits else .ok (ofDecimal fmt d, rest)

mutual

/-- A value at the start of a text, and what is behind it; it may nest `depth` deep. -/
def readValueWithin (limits : Limits) (fmt : FloatFormat F) :
    Nat → Nat → Text → Except ReadError (JsonValue F × Text)
  | 0, _, _ => .error .malformed
  | _ + 1, _, [] => .error .malformed
  | fuel + 1, depth, c :: rest =>
    if c = code '"' then
      orMalformed ((readString rest).map fun read => (.string read.1, read.2))
    -- each bracket takes one of the depth, before anything is read behind it
    else if c = code '[' then
      match depth with
      | 0 => .error .tooDeep
      | depth + 1 =>
        match skip rest with
        | [] => .error .malformed
        | c :: rest =>
          if c = code ']' then .ok (.array [], rest)
          else
            (readItemsWithin limits fmt fuel depth (c :: rest)).map fun read =>
              (.array read.1, read.2)
    else if c = code '{' then
      match depth with
      | 0 => .error .tooDeep
      | depth + 1 =>
        match skip rest with
        | [] => .error .malformed
        | c :: rest =>
          if c = code '}' then .ok (.object [], rest)
          else
            (readEntriesWithin limits fmt fuel depth (c :: rest)).map fun read =>
              (.object read.1, read.2)
    else readAtomWithin limits fmt (c :: rest)

/-- The items of an array up to the closing bracket, at least one. -/
def readItemsWithin (limits : Limits) (fmt : FloatFormat F) :
    Nat → Nat → Text → Except ReadError (List (JsonValue F) × Text)
  | 0, _, _ => .error .malformed
  | fuel + 1, depth, input =>
    match readValueWithin limits fmt fuel depth input with
    | .error e => .error e
    | .ok (v, rest) =>
      match skip rest with
      | [] => .error .malformed
      | c :: rest =>
        if c = code ']' then .ok ([v], rest)
        else if c = code ',' then
          (readItemsWithin limits fmt fuel depth (skip rest)).map fun read =>
            (v :: read.1, read.2)
        else .error .malformed

/-- The entries of an object up to the closing brace, at least one. -/
def readEntriesWithin (limits : Limits) (fmt : FloatFormat F) :
    Nat → Nat → Text → Except ReadError (List (Text × JsonValue F) × Text)
  | 0, _, _ => .error .malformed
  | fuel + 1, depth, input =>
    match readKey input with
    | none => .error .malformed
    | some (key, rest) =>
      match readValueWithin limits fmt fuel depth rest with
      | .error e => .error e
      | .ok (v, rest) =>
        match skip rest with
        | [] => .error .malformed
        | c :: rest =>
          if c = code '}' then .ok ([(key, v)], rest)
          else if c = code ',' then
            (readEntriesWithin limits fmt fuel depth (skip rest)).map fun read =>
              ((key, v) :: read.1, read.2)
          else .error .malformed

end

/-- The value that a text is, with whitespace around it. -/
def loadsWithin (limits : Limits) (fmt : FloatFormat F) (input : Text) :
    Except ReadError (JsonValue F) :=
  match readValueWithin limits fmt (2 * input.length + 1) limits.depth (skip input) with
  | .error e => .error e
  | .ok (v, rest) => if skip rest = [] then .ok v else .error .malformed

/-! ## Agreement -/

/-- What the reader with limits comes to is what the one without comes to, unless a limit has
    been met. -/
inductive Agrees {α : Type} : Except ReadError α → Option α → Prop
  | value (x : α) : Agrees (.ok x) (some x)
  | malformed : Agrees (.error .malformed) none
  | limited {e : ReadError} (o : Option α) : e ≠ .malformed → Agrees (.error e) o

namespace Agrees

variable {α β : Type}

theorem orMalformed (o : Option α) : Agrees (orMalformed o) o := by
  cases o with
  | none => exact .malformed
  | some x => exact .value x

theorem map (f : α → β) {r : Except ReadError α} {o : Option α} (h : Agrees r o) :
    Agrees (r.map f) (o.map f) := by
  cases h with
  | value x => exact .value (f x)
  | malformed => exact .malformed
  | limited o hlimit => exact .limited _ hlimit

theorem readAtom (limits : Limits) (fmt : FloatFormat F) (input : Text) :
    Agrees (readAtomWithin limits fmt input) (Json.readAtom fmt input) := by
  unfold readAtomWithin Json.readAtom
  cases readKeyword (F := F) input with
  | some read => exact .value read
  | none =>
    cases readDecimal input with
    | none => exact .malformed
    | some read =>
      dsimp only [Option.map_some]
      split
      · exact .limited _ (by decide)
      · exact .value _

section Succ

variable {limits : Limits} {fmt : FloatFormat F} {fuel : Nat}

theorem readItems
    (hvalue : ∀ depth input,
      Agrees (readValueWithin limits fmt fuel depth input) (readValue fmt fuel input))
    (hitems : ∀ depth input,
      Agrees (readItemsWithin limits fmt fuel depth input) (readItems fmt fuel input))
    (depth : Nat) (input : Text) :
    Agrees (readItemsWithin limits fmt (fuel + 1) depth input)
      (Json.readItems fmt (fuel + 1) input) := by
  rw [readItemsWithin, Json.readItems]
  have hfirst := hvalue depth input
  generalize readValueWithin limits fmt fuel depth input = r at hfirst ⊢
  generalize readValue fmt fuel input = o at hfirst ⊢
  -- what the first value comes to on both sides, and then the separator behind it
  cases hfirst with
  | malformed => exact .malformed
  | limited o hlimit => exact .limited _ hlimit
  | value read =>
    dsimp only
    cases skip read.2 with
    | nil => exact .malformed
    | cons c rest =>
      dsimp only
      split
      · exact .value _
      split
      · exact (hitems depth (skip rest)).map _
      · exact .malformed

theorem readEntries
    (hvalue : ∀ depth input,
      Agrees (readValueWithin limits fmt fuel depth input) (readValue fmt fuel input))
    (hentries : ∀ depth input,
      Agrees (readEntriesWithin limits fmt fuel depth input) (readEntries fmt fuel input))
    (depth : Nat) (input : Text) :
    Agrees (readEntriesWithin limits fmt (fuel + 1) depth input)
      (Json.readEntries fmt (fuel + 1) input) := by
  rw [readEntriesWithin, Json.readEntries]
  cases readKey input with
  | none => exact .malformed
  | some key =>
    dsimp only
    have hfirst := hvalue depth key.2
    generalize readValueWithin limits fmt fuel depth key.2 = r at hfirst ⊢
    generalize readValue fmt fuel key.2 = o at hfirst ⊢
    cases hfirst with
    | malformed => exact .malformed
    | limited o hlimit => exact .limited _ hlimit
    | value read =>
      dsimp only
      cases skip read.2 with
      | nil => exact .malformed
      | cons c rest =>
        dsimp only
        split
        · exact .value _
        split
        · exact (hentries depth (skip rest)).map _
        · exact .malformed

theorem readValue
    (hitems : ∀ depth input,
      Agrees (readItemsWithin limits fmt fuel depth input) (Json.readItems fmt fuel input))
    (hentries : ∀ depth input,
      Agrees (readEntriesWithin limits fmt fuel depth input) (Json.readEntries fmt fuel input))
    (depth : Nat) (input : Text) :
    Agrees (readValueWithin limits fmt (fuel + 1) depth input)
      (Json.readValue fmt (fuel + 1) input) := by
  cases input with
  | nil =>
    rw [readValueWithin, Json.readValue]
    exact .malformed
  | cons c rest =>
    rw [readValueWithin.eq_def, Json.readValue]
    dsimp only
    split
    · exact .orMalformed _
    split
    · -- the reader without limits has no depth to run out of
      cases depth with
      | zero => exact .limited _ (by decide)
      | succ depth =>
        dsimp only
        cases skip rest with
        | nil => exact .malformed
        | cons c rest =>
          dsimp only
          split
          · exact .value _
          · exact (hitems depth (c :: rest)).map _
    split
    · cases depth with
      | zero => exact .limited _ (by decide)
      | succ depth =>
        dsimp only
        cases skip rest with
        | nil => exact .malformed
        | cons c rest =>
          dsimp only
          split
          · exact .value _
          · exact (hentries depth (c :: rest)).map _
    · exact .readAtom limits fmt _

end Succ

/-- A value, items and entries, each with one fuel on both sides. -/
theorem read (limits : Limits) (fmt : FloatFormat F) (fuel : Nat) :
    (∀ depth input,
      Agrees (readValueWithin limits fmt fuel depth input) (Json.readValue fmt fuel input)) ∧
    (∀ depth input,
      Agrees (readItemsWithin limits fmt fuel depth input) (Json.readItems fmt fuel input)) ∧
    ∀ depth input,
      Agrees (readEntriesWithin limits fmt fuel depth input) (Json.readEntries fmt fuel input) := by
  -- by induction on the fuel; the depth and the text are any, as a value within takes less depth
  induction fuel with
  | zero =>
    refine ⟨fun depth input => ?_, fun depth input => ?_, fun depth input => ?_⟩
    · rw [readValueWithin, Json.readValue]
      exact .malformed
    · rw [readItemsWithin, Json.readItems]
      exact .malformed
    · rw [readEntriesWithin, Json.readEntries]
      exact .malformed
  | succ fuel ih =>
    obtain ⟨ihvalue, ihitems, ihentries⟩ := ih
    exact ⟨readValue ihitems ihentries, readItems ihvalue ihitems, readEntries ihvalue ihentries⟩

/-- The value of a text is the one without limits, and so is that it has none. -/
theorem loads (limits : Limits) (fmt : FloatFormat F) (input : Text) :
    Agrees (loadsWithin limits fmt input) (Json.loads fmt input) := by
  unfold loadsWithin Json.loads
  have hvalue := (read limits fmt (2 * input.length + 1)).1 limits.depth (skip input)
  generalize readValueWithin limits fmt _ limits.depth (skip input) = r at hvalue ⊢
  generalize Json.readValue fmt _ (skip input) = o at hvalue ⊢
  -- behind the value nothing but whitespace may stand, on both sides
  cases hvalue with
  | malformed => exact .malformed
  | limited o hlimit => exact .limited _ hlimit
  | value read =>
    dsimp only
    split
    · exact .value _
    · exact .malformed

end Agrees

end AsyncViz.Lib.Json
