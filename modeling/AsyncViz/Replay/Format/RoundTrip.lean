/-
  AsyncViz.Replay.Format.RoundTrip

  When the codec keeps what it is given: a frame comes back exactly if it can be written, and a
  line that is accepted is encoded again exactly if all that the decoder keeps of it can be
  written.

  `json.loads` takes `NaN`, `Infinity`, numbers beyond the floats and `\u` escapes of lone
  surrogates; the encoder refuses them.
-/

import AsyncViz.Replay.Format.Codec

namespace AsyncViz.Replay.Format

open AsyncViz.Lib AsyncViz.Lib.Json

variable {F : Type} {b : Builtins F}

/-! ## Frames -/

/-- Encoding and decoding give the frame back. -/
def RoundTrips (b : Builtins F) (f : ReplayFrame F) : Prop :=
  ∃ line f', encodeFrame b f = .ok line ∧ decodeFrame b (.str line) = .ok f' ∧ f'.Same f

theorem roundTrips_of_writable {f : ReplayFrame F}
    (hversion : minReadableSchemaVersion ≤ f.schemaVersion) (hfinite : f.Finite)
    (hencodable : f.Encodable) : RoundTrips b f := by
  obtain ⟨f', hdecode, hsame⟩ := decodeFrame_frameText b hversion
  refine ⟨frameText b f ++ text "\n", f', ?_, hdecode, hsame⟩
  exact encodeFrame_eq_ok_iff.mpr
    ⟨⟨(isFinite_toDict f).mpr hfinite, (isEncodable_toDict f).mpr hencodable⟩, rfl⟩

theorem writable_of_encodeFrame {f : ReplayFrame F} {line : Text}
    (h : encodeFrame b f = .ok line) : f.Finite ∧ f.Encodable := by
  obtain ⟨⟨hfinite, hencodable⟩, -⟩ := encodeFrame_eq_ok_iff.mp h
  exact ⟨(isFinite_toDict f).mp hfinite, (isEncodable_toDict f).mp hencodable⟩

/-- Same frames have the same line. -/
theorem encodeFrame_eq_of_same {f f' : ReplayFrame F} (h : f.Same f') :
    encodeFrame b f = encodeFrame b f' := by
  have hsorted := ReplayFrame.sorted_object_eq h.toDict
  rw [encodeFrame, encodeFrame, sortMapping, sortMapping, hsorted]

/-! ## Lines -/

/-- Decoding a line and encoding its frame. -/
def recode (b : Builtins F) (line : Line) : Option Text :=
  match decodeFrame b line with
  | .ok f => (encodeFrame b f).toOption
  | .error _ => none

/-- The frame of an accepted line is written as a line that decoding and encoding leaves as it is,
    with what stood under unknown keys among its extensions. -/
def Survives (b : Builtins F) (line : Line) : Prop :=
  ∀ f data, decodeFrame b line = .ok f → frameData b line = .ok data →
    ∃ line' f', encodeFrame b f = .ok line' ∧ recode b (.str line') = some line' ∧
      decodeFrame b (.str line') = .ok f' ∧
      ∀ k v, k ∉ envelopeKeys → data.get? k = some v →
        ∃ v', f'.extensions.get? k = some v' ∧ v'.Same v

/-- The value has a text: its numbers are finite, and no string in it holds a lone surrogate. -/
def Writable (v : JsonValue F) : Prop := v.IsFinite ∧ v.IsEncodable

open ReplayFrame in
/-- What the decoder keeps of a dict can be written: the frame type, the ids and the payload, if
    it is a dict, what stands under unknown keys, and the explicit extensions under no such key. -/
structure KeepsWritable (data : Dict Text (JsonValue F)) : Prop where
  frameType : Writable (field data "frame_type")
  payloadType : ∀ s, field data "payload_type" = .string s → Encodable s
  payload : ∀ k v, (dictOf (field data "payload")).get? k = some v → Encodable k ∧ Writable v
  runtimeId : Writable (field data "runtime_id")
  recordingId : Writable (field data "recording_id")
  unknown : ∀ k v, k ∉ envelopeKeys → data.get? k = some v → Encodable k ∧ Writable v
  extensions : ∀ k v, k ∈ envelopeKeys ∨ k ∉ data →
    (dictOf (field data "extensions")).get? k = some v → Encodable k ∧ Writable v

namespace ReplayFrame

theorem get?_extensionsOf (data : Dict Text (JsonValue F)) (k : Text) :
    (extensionsOf data).get? k =
      (if k ∉ envelopeKeys then data.get? k else none).or
        ((dictOf (field data "extensions")).get? k) := by
  rw [extensionsOf, Dict.get?_fillFrom, Dict.get?_filterKeys]
  simp only [decide_eq_true_eq]

/-- What holds of the extensions of a frame. -/
theorem forall_extensionsOf_iff {data : Dict Text (JsonValue F)} {p : Text → JsonValue F → Prop} :
    (∀ k v, (extensionsOf data).get? k = some v → p k v) ↔
      (∀ k v, k ∉ envelopeKeys → data.get? k = some v → p k v) ∧
        ∀ k v, k ∈ envelopeKeys ∨ k ∉ data →
          (dictOf (field data "extensions")).get? k = some v → p k v := by
  constructor
  · intro h
    refine ⟨fun k v hk hv => h k v ?_, fun k v hk hv => h k v ?_⟩
    · rw [get?_extensionsOf, if_pos hk, hv]
      rfl
    · rw [get?_extensionsOf, hv]
      rcases hk with hk | hk
      · rw [if_neg (not_not.mpr hk)]
        rfl
      · rw [Dict.get?_eq_none_iff.mpr hk, ite_self]
        rfl
  · rintro ⟨hunknown, hexplicit⟩ k v hv
    rw [get?_extensionsOf] at hv
    by_cases hk : k ∈ envelopeKeys
    · rw [if_neg (not_not.mpr hk), Option.none_or] at hv
      exact hexplicit k v (.inl hk) hv
    · rw [if_pos hk] at hv
      cases hget : data.get? k with
      | none =>
        rw [hget, Option.none_or] at hv
        exact hexplicit k v (.inr (Dict.get?_eq_none_iff.mp hget)) hv
      | some w =>
        rw [hget, Option.some_or] at hv
        cases hv
        exact hunknown k v hk hget

theorem encodable_toStr_iff {v : JsonValue F} :
    Json.Encodable (toStr b v) ↔ ∀ s, v = .string s → Json.Encodable s := by
  cases v with
  | string s =>
    constructor
    · rintro h s' heq
      cases heq
      exact h
    · exact fun h => h s rfl
  | _ => exact iff_of_true (b.encodable_strOf _) fun s h => by cases h

/-- The frame of a dict can be written exactly if what is kept of the dict can. -/
theorem writable_ofFields_iff (data : Dict Text (JsonValue F)) (s q m : Int) (w : Option Int) :
    ((ofFields b data s q m w).Finite ∧ (ofFields b data s q m w).Encodable)
      ↔ KeepsWritable data := by
  constructor
  · rintro ⟨hfinite, hencodable⟩
    have hextensions := forall_extensionsOf_iff.mp fun k v hv =>
      (⟨(hencodable.extensions k v hv).1, hfinite.extensions k v hv,
        (hencodable.extensions k v hv).2⟩ : Json.Encodable k ∧ Writable v)
    exact
      { frameType := ⟨hfinite.frameType, hencodable.frameType⟩
        payloadType := encodable_toStr_iff.mp hencodable.payloadType
        payload := fun k v hv => ⟨(hencodable.payload k v hv).1, hfinite.payload k v hv,
          (hencodable.payload k v hv).2⟩
        runtimeId := ⟨hfinite.runtimeId, hencodable.runtimeId⟩
        recordingId := ⟨hfinite.recordingId, hencodable.recordingId⟩
        unknown := hextensions.1
        extensions := hextensions.2 }
  · intro h
    have hextensions := forall_extensionsOf_iff.mpr ⟨h.unknown, h.extensions⟩
    exact
      ⟨{ frameType := h.frameType.1
         payload := fun k v hv => (h.payload k v hv).2.1
         runtimeId := h.runtimeId.1
         recordingId := h.recordingId.1
         extensions := fun k v hv => (hextensions k v hv).2.1 },
        { frameType := h.frameType.2
          payloadType := encodable_toStr_iff.mpr h.payloadType
          payload := fun k v hv => ⟨(h.payload k v hv).1, (h.payload k v hv).2.2⟩
          runtimeId := h.runtimeId.2
          recordingId := h.recordingId.2
          extensions := fun k v hv => ⟨(hextensions k v hv).1, (hextensions k v hv).2.2⟩ }⟩

/-- A frame that is read is the frame of its dict's fields. -/
theorem fromDict_eq_ok {data : Dict Text (JsonValue F)} {f : ReplayFrame F}
    (h : fromDict b data = .ok f) :
    ∃ s q m w, f = ofFields b data s q m w ∧ toInt b (field data "schema_version") = .ok s := by
  unfold fromDict at h
  dsimp only at h
  split at h
  · cases h
  · cases hschema : toInt b (field data "schema_version") with
    | error e => rw [hschema] at h; cases h
    | ok s =>
      cases hsequence : toInt b (field data "sequence") with
      | error e => rw [hschema, hsequence] at h; cases h
      | ok q =>
        cases hmonotonic : toInt b (field data "monotonic_ns") with
        | error e => rw [hschema, hsequence, hmonotonic] at h; cases h
        | ok m =>
          cases hwall : toOptionalInt b (field data "wall_time_ns") with
          | error e => rw [hschema, hsequence, hmonotonic, hwall] at h; cases h
          | ok w =>
            rw [hschema, hsequence, hmonotonic, hwall] at h
            cases h
            exact ⟨s, q, m, w, rfl, rfl⟩

end ReplayFrame

/-- An accepted line has a dict, whose fields its frame has, in a version that can be read. -/
theorem exists_of_decodeFrame {line : Line} {f : ReplayFrame F} (h : decodeFrame b line = .ok f) :
    ∃ data s q m w, frameData b line = .ok data ∧ f = ReplayFrame.ofFields b data s q m w ∧
      minReadableSchemaVersion ≤ s := by
  unfold decodeFrame at h
  cases hdata : frameData b line with
  | error e => rw [hdata] at h; cases h
  | ok data =>
    rw [hdata] at h
    simp only [bind, Except.bind] at h
    cases hversion : envelopeVersion data with
    | none => rw [hversion] at h; cases h
    | some version =>
      rw [hversion] at h
      dsimp only at h
      split at h
      · rename_i hcompatible
        cases hfrom : ReplayFrame.fromDict b data with
        | error e => rw [hfrom] at h; cases e <;> cases h
        | ok f' =>
          rw [hfrom] at h
          cases h
          obtain ⟨s, q, m, w, rfl, hschema⟩ := ReplayFrame.fromDict_eq_ok hfrom
          refine ⟨data, s, q, m, w, rfl, rfl, ?_⟩
          -- The version that was checked is the one that is read.
          have hsame : version = s := by
            rw [ReplayFrame.field] at hschema
            unfold envelopeVersion at hversion
            split at hversion
            · rename_i n hn
              rw [hn] at hschema
              cases hversion
              cases hschema
              rfl
            · rename_i hn
              rw [hn] at hschema
              cases hversion
              cases hschema
              rfl
            · rename_i hn
              rw [hn] at hschema
              cases hversion
              cases hschema
              rfl
            · cases hversion
          rw [← hsame]
          by_contra hlt
          rw [checkEnvelopeCompatibility, if_pos (not_le.mp hlt)] at hcompatible
          cases hcompatible
      · cases h

/-- A line whose frame can be written survives. -/
theorem survives_of_writable {line : Line}
    (h : ∀ f, decodeFrame b line = .ok f → f.Finite ∧ f.Encodable) : Survives b line := by
  intro f data hdecode hdata
  obtain ⟨data', s, q, m, w, hdata', rfl, hversion⟩ := exists_of_decodeFrame hdecode
  rw [hdata] at hdata'
  cases hdata'
  obtain ⟨hfinite, hencodable⟩ := h _ hdecode
  obtain ⟨line', f', hencode, hdecode', hsame⟩ :=
    roundTrips_of_writable (b := b) (f := ReplayFrame.ofFields b data s q m w) hversion hfinite
      hencodable
  refine ⟨line', f', hencode, ?_, hdecode', fun k v hk hv => ?_⟩
  · unfold recode
    rw [hdecode']
    dsimp only
    rw [encodeFrame_eq_of_same hsame, hencode]
    rfl
  · have hextension : (ReplayFrame.extensionsOf data).get? k = some v := by
      rw [ReplayFrame.get?_extensionsOf, if_pos hk, hv]
      rfl
    have hk' := hsame.extensions k
    rw [ReplayFrame.ofFields, hextension] at hk'
    obtain ⟨v', hv', heq⟩ := Option.map_eq_some_iff.mp hk'
    exact ⟨v', hv', heq⟩

/-- A frame with finite numbers in a version that can be read comes back exactly if no string in
    it holds a lone surrogate; and an accepted line survives exactly if all that the decoder keeps
    of it can be written. -/
theorem roundTrips_and_survives_iff (b : Builtins F) :
    (∀ f, minReadableSchemaVersion ≤ f.schemaVersion → f.Finite →
      (RoundTrips b f ↔ f.Encodable)) ∧
    ∀ line, Survives b line ↔
      ∀ f data, decodeFrame b line = .ok f → frameData b line = .ok data → KeepsWritable data := by
  refine ⟨fun f hversion hfinite => ⟨?_, roundTrips_of_writable hversion hfinite⟩, fun line => ?_⟩
  · rintro ⟨line, f', hencode, -, -⟩
    exact (writable_of_encodeFrame hencode).2
  constructor
  · intro h f data hdecode hdata
    obtain ⟨line', f', hencode, -, -, -⟩ := h f data hdecode hdata
    obtain ⟨data', s, q, m, w, hdata', rfl, -⟩ := exists_of_decodeFrame hdecode
    rw [hdata] at hdata'
    cases hdata'
    exact (ReplayFrame.writable_ofFields_iff data s q m w).mp (writable_of_encodeFrame hencode)
  · intro h
    refine survives_of_writable fun f hdecode => ?_
    obtain ⟨data, s, q, m, w, hdata, rfl, -⟩ := exists_of_decodeFrame hdecode
    exact (ReplayFrame.writable_ofFields_iff data s q m w).mpr (h _ data hdecode hdata)

/-! ## A line that does not survive -/

/-- Floats as they are written; `int` and `str` of other values than numbers are not looked at. -/
def asWritten : Builtins { d : Decimal // d.Written ∧ ¬ d.IsInt } where
  toFloatFormat := .asWritten
  truncate := fun d => d.1.toInt
  intOf := fun _ => none
  strOf := fun _ => []
  encodable_strOf := fun _ => encodable_nil

/-- A marker whose payload holds a float that is no number. -/
def nanLine : Line :=
  .str
    (text "\x7b\"frame_type\":\"marker\",\"monotonic_ns\":0,\"payload\":\x7b\"x\":NaN\x7d,"
      ++ text "\"payload_type\":\"marker.a\",\"schema_version\":1,\"sequence\":1\x7d")

/-- A marker whose payload holds a lone surrogate. -/
def surrogateFrame : ReplayFrame { d : Decimal // d.Written ∧ ¬ d.IsInt } where
  schemaVersion := 1
  frameType := .string (text "marker")
  sequence := 1
  monotonicNs := 0
  payloadType := text "marker.a"
  payload := Dict.ofPairs [(text "x", .string [0xD800])]

/-- The line is accepted, and its frame is not encoded again; nor is the frame encoded. -/
theorem not_survives_nanLine :
    (decodeFrame asWritten nanLine).toBool = true ∧ ¬ Survives asWritten nanLine ∧
      minReadableSchemaVersion ≤ surrogateFrame.schemaVersion ∧
      ¬ RoundTrips asWritten surrogateFrame := by
  have haccepted : (decodeFrame asWritten nanLine).toBool = true := by decide +kernel
  have hrecode : recode asWritten nanLine = none := by decide +kernel
  have hencode : (encodeFrame asWritten surrogateFrame).toBool = false := by decide +kernel
  refine ⟨haccepted, fun h => ?_, by decide, ?_⟩
  · cases hdecode : decodeFrame asWritten nanLine with
    | error e =>
      rw [hdecode] at haccepted
      cases haccepted
    | ok f =>
      obtain ⟨data, -, -, -, -, hdata, -, -⟩ := exists_of_decodeFrame hdecode
      obtain ⟨line', -, hline, -⟩ := h f data hdecode hdata
      rw [recode, hdecode] at hrecode
      dsimp only at hrecode
      rw [hline] at hrecode
      cases hrecode
  · rintro ⟨line, f', hline, -, -⟩
    rw [hline] at hencode
    cases hencode

end AsyncViz.Replay.Format
