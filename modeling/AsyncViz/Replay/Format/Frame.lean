/-
  AsyncViz.Replay.Format.Frame

  The replay frame and its codec: `ReplayFrame.to_dict` and `from_dict` (`ndjson_frame.py`), the
  canonical JSON encoder (`utils/canonical_json.py`), `encode_frame` (`ndjson_serialization.py`)
  and `decode_frame` (`ndjson_deserialization.py`).

  What Python does with a number, a string or any other value in `int(...)` and `str(...)` is a
  parameter (`Builtins`).
-/

import AsyncViz.Lib.Json.Canonical
import AsyncViz.Lib.Json.RoundTrip

namespace AsyncViz.Replay.Format

open AsyncViz.Lib AsyncViz.Lib.Json

variable {F : Type}

/-- The built-in conversions, beside how floats are written and read. -/
structure Builtins (F : Type) extends FloatFormat F where
  /-- `int(x)` of a finite float. -/
  truncate : F → Int
  /-- `int(s)` of a string. -/
  intOf : Text → Option Int
  /-- `str(v)` of a value that is no string. -/
  strOf : JsonValue F → Text
  /-- `repr` escapes lone surrogates. -/
  encodable_strOf : ∀ v, Encodable (strOf v)

/-! ## Schema -/

/-- `SCHEMA_VERSION`. -/
def schemaVersion : Int := 1

/-- `MIN_READABLE_SCHEMA_VERSION`. -/
def minReadableSchemaVersion : Int := 1

/-- `ENVELOPE_KEYS`. -/
def envelopeKeys : List Text :=
  [text "schema_version", text "frame_type", text "sequence", text "monotonic_ns",
    text "wall_time_ns", text "payload_type", text "payload", text "runtime_id",
    text "recording_id", text "extensions"]

/-- `REQUIRED_ENVELOPE_KEYS`. -/
def requiredEnvelopeKeys : List Text :=
  [text "schema_version", text "frame_type", text "sequence", text "monotonic_ns",
    text "payload_type", text "payload"]

/-- `CompatibilityVerdict`. -/
structure CompatibilityVerdict where
  compatible : Bool
  envelopeVersion : Int
  readerVersion : Int
  reason : String := ""

/-- `check_envelope_compatibility(envelope_version)`. -/
def checkEnvelopeCompatibility (envelopeVersion : Int) : CompatibilityVerdict :=
  if envelopeVersion < minReadableSchemaVersion then
    ⟨false, envelopeVersion, schemaVersion, "too old; reader requires >= 1"⟩
  else if envelopeVersion > schemaVersion then
    ⟨true, envelopeVersion, schemaVersion, "newer envelope tolerated via additive forward-compat"⟩
  else ⟨true, envelopeVersion, schemaVersion, ""⟩

/-! ## Frames -/

/-- `ReplayFrame`; `null` is `None`, and the decoder takes any value for a frame type or an id. -/
structure ReplayFrame (F : Type) where
  schemaVersion : Int
  frameType : JsonValue F
  sequence : Int
  monotonicNs : Int
  payloadType : Text
  payload : Dict Text (JsonValue F)
  runtimeId : JsonValue F := .null
  recordingId : JsonValue F := .null
  wallTimeNs : Option Int := none
  extensions : Dict Text (JsonValue F) := .empty

/-- What `from_dict` raises; the first two are a `ValueError`. -/
inductive PyError where
  | missingKeys (keys : List Text)
  | valueError (message : String)
  | typeError
  | overflowError
deriving DecidableEq, Repr

/-- Why a line is refused; the last two leave `decode_frame` as they are. -/
inductive DecodeError where
  | notUtf8
  | blankLine
  | malformedJson
  | notAnObject (typeName : String)
  | missingSchemaVersion
  | incompatible (reason : String)
  | missingKeys (keys : List Text)
  | invalidFrame (message : String)
  | typeError
  | overflowError
deriving DecidableEq, Repr

/-- Why a frame is not written: `FrameEncodingError`, and the `UnicodeEncodeError` of
    `line.encode("utf-8")`. -/
inductive EncodeError where
  | notEncodable
  | unicodeEncode
deriving DecidableEq, Repr

/-- `value is None`. -/
def isNone : JsonValue F → Bool
  | .null => true
  | _ => false

namespace ReplayFrame

/-- `frame.to_dict()`. -/
def toDict (f : ReplayFrame F) : Dict Text (JsonValue F) :=
  let out : Dict Text (JsonValue F) := Dict.ofPairs
    [(text "schema_version", .int f.schemaVersion), (text "frame_type", f.frameType),
      (text "sequence", .int f.sequence), (text "monotonic_ns", .int f.monotonicNs),
      (text "payload_type", .string f.payloadType), (text "payload", .object f.payload.entries)]
  let out := if isNone f.runtimeId then out else out.set (text "runtime_id") f.runtimeId
  let out := if isNone f.recordingId then out else out.set (text "recording_id") f.recordingId
  let out := match f.wallTimeNs with
    | none => out
    | some wallTimeNs => out.set (text "wall_time_ns") (.int wallTimeNs)
  if f.extensions.entries.isEmpty then out
  else out.set (text "extensions") (.object f.extensions.entries)

/-- `int(value)`. -/
def toInt (b : Builtins F) : JsonValue F → Except PyError Int
  | .int n => .ok n
  | .bool true => .ok 1
  | .bool false => .ok 0
  | .float x => .ok (b.truncate x)
  | .nonFinite .nan => .error (.valueError "cannot convert float NaN to integer")
  | .nonFinite _ => .error .overflowError
  | .string s =>
    match b.intOf s with
    | some n => .ok n
    | none => .error (.valueError "invalid literal for int() with base 10")
  | .null => .error .typeError
  | .array _ => .error .typeError
  | .object _ => .error .typeError

/-- `int(value) if value is not None else None`. -/
def toOptionalInt (b : Builtins F) (v : JsonValue F) : Except PyError (Option Int) :=
  if isNone v then .ok none else (toInt b v).map some

/-- `str(value)`. -/
def toStr (b : Builtins F) : JsonValue F → Text
  | .string s => s
  | v => b.strOf v

/-- The dict that a value is, and the empty one where it is none. -/
def dictOf : JsonValue F → Dict Text (JsonValue F)
  | .object entries => Dict.ofPairs entries
  | _ => .empty

/-- `data[key]`, and `None` where the key is missing. -/
def field (data : Dict Text (JsonValue F)) (key : String) : JsonValue F :=
  (data.get? (text key)).getD .null

/-- The extensions of a frame: what stands under unknown keys, and below it the explicit ones. -/
def extensionsOf (data : Dict Text (JsonValue F)) : Dict Text (JsonValue F) :=
  (data.filterKeys fun k => decide (k ∉ envelopeKeys)).fillFrom (dictOf (field data "extensions"))

/-- `ReplayFrame.from_dict(data)`. -/
def fromDict (b : Builtins F) (data : Dict Text (JsonValue F)) : Except PyError (ReplayFrame F) :=
  let missing := requiredEnvelopeKeys.filter fun k => decide (k ∉ data)
  if missing ≠ [] then .error (.missingKeys (missing.insertionSort (· ≤ ·)))
  else do
    let schemaVersion ← toInt b (field data "schema_version")
    let sequence ← toInt b (field data "sequence")
    let monotonicNs ← toInt b (field data "monotonic_ns")
    let wallTimeNs ← toOptionalInt b (field data "wall_time_ns")
    .ok
      { schemaVersion := schemaVersion
        frameType := field data "frame_type"
        sequence := sequence
        monotonicNs := monotonicNs
        payloadType := toStr b (field data "payload_type")
        payload := dictOf (field data "payload")
        runtimeId := field data "runtime_id"
        recordingId := field data "recording_id"
        wallTimeNs := wallTimeNs
        extensions := extensionsOf data }

end ReplayFrame

/-! ## Encoding -/

/-- `sort_mapping(value)`, which raises on a float that is not finite. -/
def sortMapping (v : JsonValue F) : Except EncodeError (JsonValue F) :=
  if v.sorted.nonFinites = [] then .ok v.sorted else .error .notEncodable

/-- `canonical_dumps(value)`, which sorts again and allows no float that is not finite. -/
def canonicalDumps (b : Builtins F) (v : JsonValue F) : Except EncodeError Text :=
  if v.sorted.nonFinites = [] then .ok (v.sorted.print b.toFloatFormat) else .error .notEncodable

/-- `encode_frame(frame)`: the line with its terminator, which has to have a UTF-8 form. -/
def encodeFrame (b : Builtins F) (f : ReplayFrame F) : Except EncodeError Text := do
  let data ← sortMapping (.object f.toDict.entries)
  let line ← canonicalDumps b data
  let line := line ++ text "\n"
  if Encodable line then .ok line else .error .unicodeEncode

/-! ## Decoding -/

/-- What `str.strip()` takes for whitespace. -/
def isWhitespace (c : Nat) : Bool :=
  (9 ≤ c && c ≤ 13) || (28 ≤ c && c ≤ 32) || c = 0x85 || c = 0xA0 || c = 0x1680
    || (0x2000 ≤ c && c ≤ 0x200A) || c = 0x2028 || c = 0x2029 || c = 0x202F || c = 0x205F
    || c = 0x3000

/-- `line.strip()`. -/
def strip (line : Text) : Text :=
  ((line.dropWhile isWhitespace).reverse.dropWhile isWhitespace).reverse

/-- A line as the decoder takes it. -/
inductive Line where
  | str (line : Text)
  | bytes (line : ByteArray)

/-- The code points of a line. -/
def Line.decode? : Line → Option Text
  | .str line => some line
  | .bytes line => (String.fromUTF8? line).map text

/-- `type(value).__name__`. -/
def typeName : JsonValue F → String
  | .null => "NoneType"
  | .bool _ => "bool"
  | .int _ => "int"
  | .float _ => "float"
  | .nonFinite _ => "float"
  | .string _ => "str"
  | .array _ => "list"
  | .object _ => "dict"

/-- The dict that a line holds, as `decode_frame` comes to it. -/
def frameData (b : Builtins F) (line : Line) : Except DecodeError (Dict Text (JsonValue F)) :=
  match line.decode? with
  | none => .error .notUtf8
  | some line =>
    if strip line = [] then .error .blankLine
    else
      match loads b.toFloatFormat (strip line) with
      | none => .error .malformedJson
      | some (.object entries) => .ok (Dict.ofPairs entries)
      | some v => .error (.notAnObject (typeName v))

/-- `envelope_version` where it is an `int`, as a `bool` is too. -/
def envelopeVersion (data : Dict Text (JsonValue F)) : Option Int :=
  match data.get? (text "schema_version") with
  | some (.int n) => some n
  | some (.bool true) => some 1
  | some (.bool false) => some 0
  | _ => none

/-- `decode_frame(line)`. -/
def decodeFrame (b : Builtins F) (line : Line) : Except DecodeError (ReplayFrame F) := do
  let data ← frameData b line
  match envelopeVersion data with
  | none => .error .missingSchemaVersion
  | some version =>
    let verdict := checkEnvelopeCompatibility version
    if verdict.compatible then
      match ReplayFrame.fromDict b data with
      | .ok f => .ok f
      | .error (.missingKeys keys) => .error (.missingKeys keys)
      | .error (.valueError message) => .error (.invalidFrame message)
      | .error .typeError => .error .typeError
      | .error .overflowError => .error .overflowError
    else .error (.incompatible verdict.reason)

end AsyncViz.Replay.Format
