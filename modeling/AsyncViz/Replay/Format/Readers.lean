/-
  AsyncViz.Replay.Format.Readers

  The readers of lines: `decode_frame` in an interpreter with limits, `iter_decode_lines`
  (`ndjson_deserialization.py`), `iter_lines` and `StreamingFrameReader`
  (`ndjson_streaming.py`, `ndjson_backpressure.py`), and the adapter of the recorder's older
  format (`replay/loading/models/frame_adapter.py`).

  A generator that is read to its end comes to what it has yielded and to what it raises at last,
  if it does.
-/

import AsyncViz.Lib.Json.Limited
import AsyncViz.Lib.Lines
import AsyncViz.Replay.Format.Frame

namespace AsyncViz.Replay.Format

open AsyncViz.Lib AsyncViz.Lib.Json AsyncViz.Lib.Lines

variable {F : Type}

/-- What leaves a call. -/
inductive Raised where
  | frameDecodingError (e : DecodeError)
  | frameAdapterError (message : String)
  | frameTooLargeError
  | valueError
  | typeError
  | overflowError
  | recursionError
  | unicodeDecodeError
  | unicodeEncodeError
deriving DecidableEq, Repr

/-! ## Decoding -/

/-- The dict that a line holds, as `decode_frame` comes to it. -/
def frameDataWithin (limits : Limits) (b : Builtins F) (line : Line) :
    Except Raised (Dict Text (JsonValue F)) :=
  match line.decode? with
  | none => .error (.frameDecodingError .notUtf8)
  | some line =>
    if strip line = [] then .error (.frameDecodingError .blankLine)
    else
      match loadsWithin limits b.toFloatFormat (strip line) with
      | .error .malformed => .error (.frameDecodingError .malformedJson)
      -- What `json.loads` raises beside `JSONDecodeError` is not caught.
      | .error .tooManyDigits => .error .valueError
      | .error .tooDeep => .error .recursionError
      | .ok (.object entries) => .ok (Dict.ofPairs entries)
      | .ok v => .error (.frameDecodingError (.notAnObject (typeName v)))

/-- `decode_frame(line)`. -/
def decodeFrameWithin (limits : Limits) (b : Builtins F) (line : Line) :
    Except Raised (ReplayFrame F) := do
  let data ← frameDataWithin limits b line
  match envelopeVersion data with
  | none => .error (.frameDecodingError .missingSchemaVersion)
  | some version =>
    let verdict := checkEnvelopeCompatibility version
    if verdict.compatible then
      match ReplayFrame.fromDict b data with
      | .ok f => .ok f
      | .error (.missingKeys keys) => .error (.frameDecodingError (.missingKeys keys))
      | .error (.valueError message) => .error (.frameDecodingError (.invalidFrame message))
      | .error .typeError => .error .typeError
      | .error .overflowError => .error .overflowError
    else .error (.frameDecodingError (.incompatible verdict.reason))

/-- `iter_decode_lines(lines, strict=strict)`. -/
def iterDecodeLines (limits : Limits) (b : Builtins F) (strict : Bool) :
    List Line → List (ReplayFrame F) × Option Raised
  | [] => ([], none)
  | raw :: lines =>
    match decodeFrameWithin limits b raw with
    | .ok f =>
      let rest := iterDecodeLines limits b strict lines
      (f :: rest.1, rest.2)
    | .error (.frameDecodingError e) =>
      if strict then ([], some (.frameDecodingError e)) else iterDecodeLines limits b strict lines
    | .error e => ([], some e)

/-! ## The adapter of the older format -/

/-- What `int(...)` raises, where nothing catches it. -/
def PyError.raised : PyError → Raised
  | .missingKeys _ => .valueError
  | .valueError _ => .valueError
  | .typeError => .typeError
  | .overflowError => .overflowError

open ReplayFrame in
/-- `LegacyRecordingFrameAdapter.decode_line(line)`. -/
def legacyDecodeLine (limits : Limits) (b : Builtins F) (line : Text) :
    Except Raised (ReplayFrame F) :=
  if strip line = [] then .error (.frameAdapterError "blank line")
  else
    match loadsWithin limits b.toFloatFormat (strip line) with
    | .error .malformed => .error (.frameAdapterError "malformed JSON")
    | .error .tooManyDigits => .error .valueError
    | .error .tooDeep => .error .recursionError
    | .ok (.object entries) =>
      let data := Dict.ofPairs entries
      if text "sequence" ∉ data ∨ text "event_type" ∉ data then
        .error (.frameAdapterError "legacy frame missing 'sequence' or 'event_type'")
      else do
        let sequence ← (toInt b (field data "sequence")).mapError PyError.raised
        let monotonicNs ←
          (toInt b ((data.get? (text "monotonic_ns")).getD (.int 0))).mapError PyError.raised
        .ok
          { schemaVersion := schemaVersion
            frameType := .string (text "runtime_event")
            sequence := sequence
            monotonicNs := monotonicNs
            payloadType := toStr b (field data "event_type")
            payload := dictOf (field data "payload") }
    | .ok _ => .error (.frameAdapterError "frame must be a JSON object")

/-! ## Files -/

/-- `MAX_FRAME_LINE_BYTES`. -/
def maxFrameLineBytes : Nat := 8 * 1024 * 1024

/-- The bytes of a code point in UTF-8. -/
def utf8Width (c : Nat) : Nat :=
  if c < 0x80 then 1 else if c < 0x800 then 2 else if c < 0x10000 then 3 else 4

/-- `guard_line_length(line)`. -/
def guardLineLength (line : Line) : Except Raised Unit :=
  match line with
  | .bytes line => if line.size > maxFrameLineBytes then .error .frameTooLargeError else .ok ()
  | .str line =>
    if ¬ Encodable line then .error .unicodeEncodeError
    else if (line.map utf8Width).sum > maxFrameLineBytes then .error .frameTooLargeError
    else .ok ()

/-- What a file in text mode makes of the ends of lines. -/
def translateNewlines : Text → Text
  | [] => []
  | [c] => [if c = 13 then 10 else c]
  | c :: d :: rest =>
    if c = 13 then
      if d = 10 then 10 :: translateNewlines rest else 10 :: translateNewlines (d :: rest)
    else c :: translateNewlines (d :: rest)

/-- `iter_lines(path)`: the complete lines of a file that exists.  Of a file that is no UTF-8
    come those that were decoded `ahead`. -/
def iterLines (ahead : ByteArray → List Text) : Option ByteArray → List Text × Option Raised
  | none => ([], none)
  | some bytes =>
    match String.fromUTF8? bytes with
    | none => (ahead bytes, some .unicodeDecodeError)
    | some s => (completeLines 10 (translateNewlines (text s)), none)

/-- `StreamingReadStats`. -/
structure StreamingReadStats where
  linesRead : Nat := 0
  framesYielded : Nat := 0
  linesDropped : Nat := 0
deriving DecidableEq, Repr

namespace StreamingFrameReader

/-- The body of the loop of `__iter__`: the frame that is yielded, if there is one. -/
def readLine (limits : Limits) (b : Builtins F) (strict : Bool) (stats : StreamingReadStats)
    (line : Text) : StreamingReadStats × Except Raised (Option (ReplayFrame F)) :=
  let stats := { stats with linesRead := stats.linesRead + 1 }
  match guardLineLength (.str line) with
  | .error .frameTooLargeError =>
    ({ stats with linesDropped := stats.linesDropped + 1 },
      if strict then .error .frameTooLargeError else .ok none)
  | .error e => (stats, .error e)
  | .ok () =>
    match decodeFrameWithin limits b (.str line) with
    | .error (.frameDecodingError e) =>
      ({ stats with linesDropped := stats.linesDropped + 1 },
        if strict then .error (.frameDecodingError e) else .ok none)
    | .error e => (stats, .error e)
    | .ok f => ({ stats with framesYielded := stats.framesYielded + 1 }, .ok (some f))

/-- The loop of `__iter__` over the lines of one file. -/
def readLines (limits : Limits) (b : Builtins F) (strict : Bool) :
    StreamingReadStats → List Text →
      StreamingReadStats × List (ReplayFrame F) × Option Raised
  | stats, [] => (stats, [], none)
  | stats, line :: lines =>
    match readLine limits b strict stats line with
    | (stats, .error e) => (stats, [], some e)
    | (stats, .ok frame) =>
      let rest := readLines limits b strict stats lines
      (rest.1, frame.toList ++ rest.2.1, rest.2.2)

/-- `__iter__` over the files, `iter_lines_multi` below it. -/
def iter (limits : Limits) (b : Builtins F) (strict : Bool) (ahead : ByteArray → List Text) :
    StreamingReadStats → List (Option ByteArray) →
      StreamingReadStats × List (ReplayFrame F) × Option Raised
  | stats, [] => (stats, [], none)
  | stats, path :: paths =>
    let lines := iterLines ahead path
    match readLines limits b strict stats lines.1 with
    | (stats, frames, some e) => (stats, frames, some e)
    | (stats, frames, none) =>
      match lines.2 with
      | some e => (stats, frames, some e)
      | none =>
        let rest := iter limits b strict ahead stats paths
        (rest.1, frames ++ rest.2.1, rest.2.2)

end StreamingFrameReader

end AsyncViz.Replay.Format
