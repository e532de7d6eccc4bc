/-
  AsyncViz.Lib.Json.Value

  JSON values, the writer without whitespace, and the reader.

  The reader goes down with the nesting, on fuel that twice the length of the text always covers
  (`readValue_fuel`).  Beyond JSON it takes the three names of the non-finite floats, as the
  writer writes them.
-/

import AsyncViz.Lib.Json.Text

namespace AsyncViz.Lib.Json

/-! ## Values -/

/-- The floats that are no numbers. -/
inductive NonFinite where
  | nan
  | infinity
  | negInfinity
deriving DecidableEq, Repr

/-- JSON values over the finite floats `F`.  Of two entries of an object under one key the last
    one counts. -/
inductive JsonValue (F : Type) where
  | null
  | bool (b : Bool)
  | int (n : Int)
  | float (x : F)
  | nonFinite (x : NonFinite)
  | string (s : Text)
  | array (items : List (JsonValue F))
  | object (entries : List (Text × JsonValue F))

/-- How floats are written and read; what is written is read back. -/
structure FloatFormat (F : Type) where
  repr : F → Decimal
  read : Decimal → F ⊕ NonFinite
  written : ∀ x, (repr x).Written
  not_isInt : ∀ x, ¬ (repr x).IsInt
  read_repr : ∀ x, read (repr x) = .inl x

/-- Floats as they are written. -/
def FloatFormat.asWritten : FloatFormat { d : Decimal // d.Written ∧ ¬ d.IsInt } where
  repr := Subtype.val
  read := fun d => if h : d.Written ∧ ¬ d.IsInt then .inl ⟨d, h⟩ else .inr .nan
  written := fun d => d.2.1
  not_isInt := fun d => d.2.2
  read_repr := fun d => dif_pos d.2

variable {F : Type}

/-! ## Writing -/

namespace NonFinite

def print : NonFinite → Text
  | nan => text "NaN"
  | infinity => text "Infinity"
  | negInfinity => text "-Infinity"

end NonFinite

namespace JsonValue

mutual

/-- The text of a value. -/
def print (fmt : FloatFormat F) : JsonValue F → Text
  | null => text "null"
  | bool true => text "true"
  | bool false => text "false"
  | int n => (Decimal.ofInt n).print
  | float x => (fmt.repr x).print
  | nonFinite x => x.print
  | string s => printString s
  | array [] => [code '[', code ']']
  | array (v :: items) => code '[' :: (v.print fmt ++ printItems fmt items)
  | object [] => [code '{', code '}']
  | object ((k, v) :: entries) =>
    code '{' :: (printString k ++ code ':' :: (v.print fmt ++ printEntries fmt entries))

/-- The items behind the first one, up to the closing bracket. -/
def printItems (fmt : FloatFormat F) : List (JsonValue F) → Text
  | [] => [code ']']
  | v :: items => code ',' :: (v.print fmt ++ printItems fmt items)

/-- The entries behind the first one, up to the closing brace. -/
def printEntries (fmt : FloatFormat F) : List (Text × JsonValue F) → Text
  | [] => [code '}']
  | (k, v) :: entries =>
    code ',' :: (printString k ++ code ':' :: (v.print fmt ++ printEntries fmt entries))

end

end JsonValue

/-! ## Reading -/

/-- The value of a number. -/
def ofDecimal (fmt : FloatFormat F) (d : Decimal) : JsonValue F :=
  if d.IsInt then .int d.toInt
  else
    match fmt.read d with
    | .inl x => .float x
    | .inr x => .nonFinite x

/-- The words of the values that have one. -/
def keywords : List (Text × JsonValue F) :=
  [(text "null", .null), (text "true", .bool true), (text "false", .bool false),
    (text "NaN", .nonFinite .nan), (text "Infinity", .nonFinite .infinity),
    (text "-Infinity", .nonFinite .negInfinity)]

/-- The value whose word stands at the start of a text. -/
def readKeyword (input : Text) : Option (JsonValue F × Text) :=
  (keywords.find? fun entry => entry.1.isPrefixOf input).map fun entry =>
    (entry.2, input.drop entry.1.length)

/-- A word or a number. -/
def readAtom (fmt : FloatFormat F) (input : Text) : Option (JsonValue F × Text) :=
  match readKeyword input with
  | some read => some read
  | none => (readDecimal input).map fun read => (ofDecimal fmt read.1, read.2)

/-- A key and the colon behind it. -/
def readKey : Text → Option (Text × Text)
  | [] => none
  | c :: rest =>
    if c = code '"' then
      match readString rest with
      | none => none
      | some (key, rest) =>
        match skip rest with
        | [] => none
        | c :: rest => if c = code ':' then some (key, skip rest) else none
    else none

mutual

/-- A value at the start of a text, and what is behind it. -/
def readValue (fmt : FloatFormat F) : Nat → Text → Option (JsonValue F × Text)
  | 0, _ => none
  | _ + 1, [] => none
  | fuel + 1, c :: rest =>
    if c = code '"' then (readString rest).map fun read => (.string read.1, read.2)
    else if c = code '[' then
      match skip rest with
      | [] => none
      | c :: rest =>
        if c = code ']' then some (.array [], rest)
        else (readItems fmt fuel (c :: rest)).map fun read => (.array read.1, read.2)
    else if c = code '{' then
      match skip rest with
      | [] => none
      | c :: rest =>
        if c = code '}' then some (.object [], rest)
        else (readEntries fmt fuel (c :: rest)).map fun read => (.object read.1, read.2)
    else readAtom fmt (c :: rest)

/-- The items of an array up to the closing bracket, at least one. -/
def readItems (fmt : FloatFormat F) : Nat → Text → Option (List (JsonValue F) × Text)
  | 0, _ => none
  | fuel + 1, input =>
    match readValue fmt fuel input with
    | none => none
    | some (v, rest) =>
      match skip rest with
      | [] => none
      | c :: rest =>
        if c = code ']' then some ([v], rest)
        else if c = code ',' then push v (readItems fmt fuel (skip rest))
        else none

/-- The entries of an object up to the closing brace, at least one. -/
def readEntries (fmt : FloatFormat F) : Nat → Text → Option (List (Text × JsonValue F) × Text)
  | 0, _ => none
  | fuel + 1, input =>
    match readKey input with
    | none => none
    | some (key, rest) =>
      match readValue fmt fuel rest with
      | none => none
      | some (v, rest) =>
        match skip rest with
        | [] => none
        | c :: rest =>
          if c = code '}' then some ([(key, v)], rest)
          else if c = code ',' then push (key, v) (readEntries fmt fuel (skip rest))
          else none

end

/-- The value that a text is, with whitespace around it. -/
def loads (fmt : FloatFormat F) (input : Text) : Option (JsonValue F) :=
  match readValue fmt (2 * input.length + 1) (skip input) with
  | none => none
  | some (v, rest) => if skip rest = [] then some v else none

end AsyncViz.Lib.Json
