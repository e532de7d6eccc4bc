/-
  AsyncViz.Replay.Format.Codec

  Encoding a frame and decoding it again: it works on every frame that can be written, and what
  comes back is the frame up to the order of entries in its objects.
-/

import AsyncViz.Replay.Format.Frame

namespace AsyncViz.Replay.Format

open AsyncViz.Lib AsyncViz.Lib.Json

variable {F : Type} {b : Builtins F}

/-! ## What a frame writes -/

theorem get?_optional_set (c : Bool) (d : Dict Text (JsonValue F)) (k k' : Text)
    (v : JsonValue F) : (if c then d else d.set k' v).get? k
      = if k = k' ∧ c = false then some v else d.get? k := by
  cases c with
  | true => simp
  | false =>
    rw [if_neg Bool.false_ne_true, Dict.get?_set]
    simp only [and_true]

namespace ReplayFrame

/-- The entries that every frame has. -/
def required (f : ReplayFrame F) : Dict Text (JsonValue F) :=
  Dict.ofPairs
    [(text "schema_version", .int f.schemaVersion), (text "frame_type", f.frameType),
      (text "sequence", .int f.sequence), (text "monotonic_ns", .int f.monotonicNs),
      (text "payload_type", .string f.payloadType), (text "payload", .object f.payload.entries)]

theorem get?_required (f : ReplayFrame F) (k : Text) :
    f.required.get? k =
      if k = text "payload" then some (.object f.payload.entries)
      else if k = text "payload_type" then some (.string f.payloadType)
      else if k = text "monotonic_ns" then some (.int f.monotonicNs)
      else if k = text "sequence" then some (.int f.sequence)
      else if k = text "frame_type" then some f.frameType
      else if k = text "schema_version" then some (.int f.schemaVersion)
      else none := by
  simp only [required, Dict.ofPairs, List.foldl_cons, List.foldl_nil, Dict.get?_set,
    Dict.get?_empty]

/-- The entry of a frame's dict under each key. -/
theorem get?_toDict (f : ReplayFrame F) (k : Text) :
    f.toDict.get? k =
      if k = text "extensions" ∧ f.extensions.entries.isEmpty = false then
        some (.object f.extensions.entries)
      else if k = text "wall_time_ns" ∧ f.wallTimeNs.isSome then f.wallTimeNs.map .int
      else if k = text "recording_id" ∧ isNone f.recordingId = false then some f.recordingId
      else if k = text "runtime_id" ∧ isNone f.runtimeId = false then some f.runtimeId
      else f.required.get? k := by
  unfold toDict
  cases f.wallTimeNs with
  | none =>
    simp only [get?_optional_set, Option.isSome_none, Bool.false_eq_true, and_false, if_false]
    rfl
  | some wallTimeNs =>
    simp only [get?_optional_set, Dict.get?_set, Option.isSome_some, and_true, Option.map_some]
    rfl

/-! ## Sameness -/

/-- The same frame, up to the order of entries in its objects. -/
structure Same (f f' : ReplayFrame F) : Prop where
  schemaVersion : f.schemaVersion = f'.schemaVersion
  frameType : f.frameType.Same f'.frameType
  sequence : f.sequence = f'.sequence
  monotonicNs : f.monotonicNs = f'.monotonicNs
  payloadType : f.payloadType = f'.payloadType
  payload : JsonValue.SameEntries f.payload f'.payload
  runtimeId : f.runtimeId.Same f'.runtimeId
  recordingId : f.recordingId.Same f'.recordingId
  wallTimeNs : f.wallTimeNs = f'.wallTimeNs
  extensions : JsonValue.SameEntries f.extensions f'.extensions

theorem isNone_sorted (v : JsonValue F) : isNone v.sorted = isNone v := by
  cases v <;> rfl

theorem isNone_eq_of_same {v w : JsonValue F} (h : v.Same w) : isNone v = isNone w := by
  rw [← isNone_sorted v, h, isNone_sorted w]

theorem isEmpty_entries_iff {d : Dict Text (JsonValue F)} :
    d.entries.isEmpty = true ↔ ∀ k, d.get? k = none := by
  rw [List.isEmpty_iff]
  constructor
  · intro h k
    rw [Dict.get?, h]
    rfl
  · intro h
    refine List.eq_nil_iff_forall_not_mem.mpr fun p hp => ?_
    have hget : d.get? p.1 = some p.2 := Dict.mem_entries_iff.mp hp
    rw [h] at hget
    cases hget

theorem isEmpty_eq_of_same {d d' : Dict Text (JsonValue F)} (h : JsonValue.SameEntries d d') :
    d.entries.isEmpty = d'.entries.isEmpty := by
  have hnone : ∀ k, d.get? k = none ↔ d'.get? k = none := by
    intro k
    have hk := h k
    rw [← Option.map_eq_none_iff (f := JsonValue.sorted), hk, Option.map_eq_none_iff]
  rw [Bool.eq_iff_iff, isEmpty_entries_iff, isEmpty_entries_iff]
  exact forall_congr' hnone

theorem sorted_object_eq {d d' : Dict Text (JsonValue F)} (h : JsonValue.SameEntries d d') :
    (JsonValue.object d.entries).sorted = (JsonValue.object d'.entries).sorted := by
  refine JsonValue.same_object_iff.mpr ?_
  rw [Dict.ofPairs_entries, Dict.ofPairs_entries]
  exact h

/-- Same frames are written in the same way. -/
theorem Same.toDict {f f' : ReplayFrame F} (h : Same f f') :
    JsonValue.SameEntries f.toDict f'.toDict := by
  intro k
  rw [get?_toDict, get?_toDict, get?_required, get?_required, isEmpty_eq_of_same h.extensions,
    h.wallTimeNs, isNone_eq_of_same h.recordingId, isNone_eq_of_same h.runtimeId,
    h.schemaVersion, h.sequence, h.monotonicNs, h.payloadType]
  have hframeType : f.frameType.sorted = f'.frameType.sorted := h.frameType
  have hrecording : f.recordingId.sorted = f'.recordingId.sorted := h.recordingId
  have hruntime : f.runtimeId.sorted = f'.runtimeId.sorted := h.runtimeId
  simp only [apply_ite (Option.map JsonValue.sorted), Option.map_some, hframeType, hrecording,
    hruntime, sorted_object_eq h.payload, sorted_object_eq h.extensions]

end ReplayFrame

/-! ## Encoding -/

namespace ReplayFrame

/-- All numbers of the frame are finite. -/
structure Finite (f : ReplayFrame F) : Prop where
  frameType : f.frameType.IsFinite
  payload : ∀ k v, f.payload.get? k = some v → v.IsFinite
  runtimeId : f.runtimeId.IsFinite
  recordingId : f.recordingId.IsFinite
  extensions : ∀ k v, f.extensions.get? k = some v → v.IsFinite

/-- No string or key of the frame holds a lone surrogate. -/
structure Encodable (f : ReplayFrame F) : Prop where
  frameType : f.frameType.IsEncodable
  payloadType : Json.Encodable f.payloadType
  payload : ∀ k v, f.payload.get? k = some v → Json.Encodable k ∧ v.IsEncodable
  runtimeId : f.runtimeId.IsEncodable
  recordingId : f.recordingId.IsEncodable
  extensions : ∀ k v, f.extensions.get? k = some v → Json.Encodable k ∧ v.IsEncodable

/-- `None` where a value is missing. -/
def present (v : JsonValue F) : Option (JsonValue F) := if isNone v then none else some v

/-- What a frame's dict holds under each envelope key. -/
def envelope (f : ReplayFrame F) : List (String × Option (JsonValue F)) :=
  [("schema_version", some (.int f.schemaVersion)), ("frame_type", some f.frameType),
    ("sequence", some (.int f.sequence)), ("monotonic_ns", some (.int f.monotonicNs)),
    ("wall_time_ns", f.wallTimeNs.map .int), ("payload_type", some (.string f.payloadType)),
    ("payload", some (.object f.payload.entries)), ("runtime_id", present f.runtimeId),
    ("recording_id", present f.recordingId),
    ("extensions", if f.extensions.entries.isEmpty then none
      else some (.object f.extensions.entries))]

theorem get?_envelope (f : ReplayFrame F) :
    ∀ entry ∈ f.envelope, f.toDict.get? (text entry.1) = entry.2 := by
  intro entry hentry
  simp only [envelope, List.mem_cons, List.not_mem_nil, or_false] at hentry
  rw [get?_toDict, get?_required]
  rcases hentry with rfl | rfl | rfl | rfl | rfl | rfl | rfl | rfl | rfl | rfl
  · simp +decide
  · simp +decide
  · simp +decide
  · simp +decide
  · cases f.wallTimeNs <;> simp +decide
  · simp +decide
  · simp +decide
  · cases hnone : isNone f.runtimeId <;> simp +decide [present, hnone]
  · cases hnone : isNone f.recordingId <;> simp +decide [present, hnone]
  · cases f.extensions.entries.isEmpty <;> simp +decide

/-- Whatever stands in a frame's dict stands under an envelope key. -/
theorem mem_envelope_of_get? {f : ReplayFrame F} {k : Text} {v : JsonValue F}
    (h : f.toDict.get? k = some v) :
    ∃ entry ∈ f.envelope, text entry.1 = k ∧ entry.2 = some v := by
  have hk : ∃ entry ∈ f.envelope, text entry.1 = k := by
    by_contra hno
    have hne : ∀ entry ∈ f.envelope, k ≠ text entry.1 := fun entry he heq => hno ⟨entry, he, heq.symm⟩
    simp only [envelope, List.forall_mem_cons] at hne
    obtain ⟨h1, h2, h3, h4, h5, h6, h7, h8, h9, h10, -⟩ := hne
    rw [get?_toDict, get?_required, if_neg fun h => h10 h.1, if_neg fun h => h5 h.1,
      if_neg fun h => h9 h.1, if_neg fun h => h8 h.1, if_neg h7, if_neg h6, if_neg h4, if_neg h3,
      if_neg h2, if_neg h1] at h
    cases h
  obtain ⟨entry, hentry, rfl⟩ := hk
  exact ⟨entry, hentry, rfl, by rw [← f.get?_envelope entry hentry, h]⟩

/-- What holds of every value in a frame's dict, where it holds of integers and of nothing. -/
theorem forall_toDict_iff (f : ReplayFrame F) {p : JsonValue F → Prop} (hint : ∀ n, p (.int n))
    (hnull : p .null) (hempty : p (.object [])) :
    (∀ k v, f.toDict.get? k = some v → p v) ↔
      p f.frameType ∧ p (.string f.payloadType) ∧ p (.object f.payload.entries) ∧
        p f.runtimeId ∧ p f.recordingId ∧ p (.object f.extensions.entries) := by
  have hpresent : ∀ {v : JsonValue F}, (∀ w, present v = some w → p w) ↔ p v := by
    intro v
    unfold present
    cases v <;> simp [isNone, hnull]
  constructor
  · intro h
    have hget := f.get?_envelope
    simp only [envelope, List.forall_mem_cons] at hget
    obtain ⟨-, hframeType, -, -, -, hpayloadType, hpayload, hruntime, hrecording, hextensions,
      -⟩ := hget
    refine ⟨h _ _ hframeType, h _ _ hpayloadType, h _ _ hpayload,
      hpresent.mp fun w hw => h _ w (hruntime.trans hw),
      hpresent.mp fun w hw => h _ w (hrecording.trans hw), ?_⟩
    split at hextensions
    · rename_i hnil
      rw [List.isEmpty_iff.mp hnil]
      exact hempty
    · exact h _ _ hextensions
  · rintro ⟨hframeType, hpayloadType, hpayload, hruntime, hrecording, hextensions⟩ k v hk
    obtain ⟨entry, hentry, -, hv⟩ := mem_envelope_of_get? hk
    simp only [envelope, List.mem_cons, List.not_mem_nil, or_false] at hentry
    rcases hentry with rfl | rfl | rfl | rfl | rfl | rfl | rfl | rfl | rfl | rfl
    · cases hv
      exact hint _
    · cases hv
      exact hframeType
    · cases hv
      exact hint _
    · cases hv
      exact hint _
    · obtain ⟨n, -, rfl⟩ := Option.map_eq_some_iff.mp hv
      exact hint n
    · cases hv
      exact hpayloadType
    · cases hv
      exact hpayload
    · exact hpresent.mpr hruntime v hv
    · exact hpresent.mpr hrecording v hv
    · dsimp only at hv
      split at hv
      · cases hv
      · cases hv
        exact hextensions

end ReplayFrame

/-- The text of a frame, without the terminator. -/
def frameText (b : Builtins F) (f : ReplayFrame F) : Text :=
  (JsonValue.object f.toDict.entries).sorted.print b.toFloatFormat

/-- A frame is written exactly if its dict can be. -/
theorem encodeFrame_eq_ok_iff {f : ReplayFrame F} {line : Text} :
    encodeFrame b f = .ok line ↔
      ((JsonValue.object f.toDict.entries).IsFinite
        ∧ (JsonValue.object f.toDict.entries).IsEncodable)
      ∧ line = frameText b f ++ text "\n" := by
  have hencodable : Json.Encodable (frameText b f ++ text "\n")
      ↔ (JsonValue.object f.toDict.entries).IsEncodable := by
    rw [encodable_append, frameText, JsonValue.encodable_print, and_iff_left (by decide)]
    rfl
  have hsorted : (JsonValue.object f.toDict.entries).sorted.sorted
      = (JsonValue.object f.toDict.entries).sorted := JsonValue.sorted_sorted _
  unfold encodeFrame sortMapping
  by_cases hfinite : (JsonValue.object f.toDict.entries).sorted.nonFinites = []
  · rw [if_pos hfinite]
    have hdumps : canonicalDumps b (JsonValue.object f.toDict.entries).sorted
        = .ok (frameText b f) := by
      rw [canonicalDumps, hsorted, if_pos hfinite, frameText]
    simp only [hdumps, bind, Except.bind]
    by_cases hline : Json.Encodable (frameText b f ++ text "\n")
    · rw [if_pos hline]
      constructor
      · intro h
        cases h
        exact ⟨⟨hfinite, hencodable.mp hline⟩, rfl⟩
      · rintro ⟨-, rfl⟩
        rfl
    · rw [if_neg hline]
      refine iff_of_false (fun h => by cases h) ?_
      rintro ⟨⟨-, hno⟩, -⟩
      exact hline (hencodable.mpr hno)
  · rw [if_neg hfinite]
    refine iff_of_false (fun h => by cases h) ?_
    rintro ⟨⟨hno, -⟩, -⟩
    exact hfinite hno

/-- Every value of a frame's dict is finite exactly if the frame is. -/
theorem isFinite_toDict (f : ReplayFrame F) :
    (JsonValue.object f.toDict.entries).IsFinite ↔ f.Finite := by
  rw [JsonValue.isFinite_object, f.forall_toDict_iff (p := JsonValue.IsFinite) (fun _ => rfl) rfl rfl,
    JsonValue.isFinite_object, JsonValue.isFinite_object]
  constructor
  · rintro ⟨hframeType, -, hpayload, hruntime, hrecording, hextensions⟩
    exact ⟨hframeType, hpayload, hruntime, hrecording, hextensions⟩
  · rintro ⟨hframeType, hpayload, hruntime, hrecording, hextensions⟩
    exact ⟨hframeType, rfl, hpayload, hruntime, hrecording, hextensions⟩

/-- Every string of a frame's dict is encodable exactly if those of the frame are. -/
theorem isEncodable_toDict (f : ReplayFrame F) :
    (JsonValue.object f.toDict.entries).IsEncodable ↔ f.Encodable := by
  have hkeys : ∀ k v, f.toDict.get? k = some v → Json.Encodable k := by
    intro k v hk
    obtain ⟨entry, hentry, rfl, -⟩ := ReplayFrame.mem_envelope_of_get? hk
    have hall : ∀ key ∈ ["schema_version", "frame_type", "sequence", "monotonic_ns",
        "wall_time_ns", "payload_type", "payload", "runtime_id", "recording_id", "extensions"],
        Json.Encodable (text key) := by decide
    exact hall entry.1 (List.mem_map_of_mem (f := Prod.fst) hentry)
  have hstring : (JsonValue.string f.payloadType : JsonValue F).IsEncodable
      ↔ Json.Encodable f.payloadType := List.forall_mem_singleton
  have hnone : ∀ {v : JsonValue F}, v.sorted.strings = [] → v.IsEncodable := by
    intro v h s hs
    rw [h] at hs
    cases hs
  rw [JsonValue.isEncodable_object]
  have hvalues : (∀ k v, f.toDict.get? k = some v → Json.Encodable k ∧ v.IsEncodable)
      ↔ ∀ k v, f.toDict.get? k = some v → v.IsEncodable :=
    ⟨fun h k v hk => (h k v hk).2, fun h k v hk => ⟨hkeys k v hk, h k v hk⟩⟩
  rw [hvalues, f.forall_toDict_iff (fun _ => hnone rfl) (hnone rfl) (hnone rfl), hstring,
    JsonValue.isEncodable_object, JsonValue.isEncodable_object]
  constructor
  · rintro ⟨hframeType, hpayloadType, hpayload, hruntime, hrecording, hextensions⟩
    exact ⟨hframeType, hpayloadType, hpayload, hruntime, hrecording, hextensions⟩
  · rintro ⟨hframeType, hpayloadType, hpayload, hruntime, hrecording, hextensions⟩
    exact ⟨hframeType, hpayloadType, hpayload, hruntime, hrecording, hextensions⟩

/-! ## Decoding -/

/-- A frame's line, stripped, is its text. -/
theorem strip_frameText (b : Builtins F) (f : ReplayFrame F) :
    strip (frameText b f ++ text "\n") = frameText b f := by
  have hopen : isWhitespace (code '{') = false := rfl
  have hclose : isWhitespace (code '}') = false := rfl
  have hnewline : (text "\n").reverse = [10] := rfl
  have hspace : isWhitespace 10 = true := rfl
  obtain ⟨mid, hprint⟩ : ∃ mid, frameText b f = code '{' :: (mid ++ [code '}']) := by
    rw [frameText, JsonValue.sorted_object]
    exact print_object _ _
  rw [strip, hprint, List.cons_append, List.dropWhile_cons_of_neg (by simp [hopen]),
    ← List.cons_append, List.reverse_append, hnewline, List.singleton_append,
    List.dropWhile_cons_of_pos hspace, ← List.cons_append, List.reverse_append,
    List.reverse_singleton, List.singleton_append, List.dropWhile_cons_of_neg (by simp [hclose]),
    List.reverse_cons, List.reverse_reverse]

/-- The dict of a frame's line is the frame's, in canonical form. -/
theorem frameData_frameText (b : Builtins F) (f : ReplayFrame F) :
    ∃ data, frameData b (.str (frameText b f ++ text "\n")) = .ok data ∧
      ∀ k, data.get? k = (f.toDict.get? k).map JsonValue.sorted := by
  have hload : loads b.toFloatFormat (frameText b f)
      = some (.object (f.toDict.mapValues JsonValue.sorted).sortedEntries) := by
    rw [frameText, loads_print, JsonValue.sorted_object, Dict.ofPairs_entries]
  have hne : frameText b f ≠ [] := by
    intro hnil
    rw [frameText, JsonValue.sorted_object] at hnil
    obtain ⟨mid, hprint⟩ := print_object b.toFloatFormat
      ((Dict.ofPairs f.toDict.entries).mapValues JsonValue.sorted).sortedEntries
    rw [hprint] at hnil
    cases hnil
  refine ⟨Dict.ofPairs (f.toDict.mapValues JsonValue.sorted).sortedEntries, ?_, fun k => ?_⟩
  · unfold frameData
    simp only [Line.decode?, strip_frameText, if_neg hne, hload]
  · rw [Dict.get?_ofPairs_sortedEntries, Dict.get?_mapValues]

namespace ReplayFrame

/-- The values of a canonical object. -/
theorem get?_dictOf_sorted (d : Dict Text (JsonValue F)) (k : Text) :
    (dictOf (JsonValue.object d.entries).sorted).get? k = (d.get? k).map JsonValue.sorted := by
  rw [JsonValue.sorted_object, dictOf, Dict.get?_ofPairs_sortedEntries, Dict.get?_mapValues,
    Dict.ofPairs_entries]

theorem sameEntries_of_get? {d d' : Dict Text (JsonValue F)}
    (h : ∀ k, d'.get? k = (d.get? k).map JsonValue.sorted) : JsonValue.SameEntries d' d := by
  intro k
  rw [h, Option.map_map]
  cases d.get? k with
  | none => rfl
  | some v => exact congrArg some (JsonValue.sorted_sorted v)

theorem present_sorted (v : JsonValue F) :
    ((present v).map JsonValue.sorted).getD .null = v.sorted := by
  unfold present
  cases v <;> rfl

/-- Nothing unknown stands in a frame's dict. -/
theorem get?_toDict_of_unknown {f : ReplayFrame F} {k : Text} (hk : k ∉ envelopeKeys) :
    f.toDict.get? k = none := by
  rw [Option.eq_none_iff_forall_ne_some]
  intro v hv
  obtain ⟨entry, hentry, rfl, -⟩ := mem_envelope_of_get? hv
  have hall : ∀ key ∈ ["schema_version", "frame_type", "sequence", "monotonic_ns",
      "wall_time_ns", "payload_type", "payload", "runtime_id", "recording_id", "extensions"],
      text key ∈ envelopeKeys := by decide
  exact hk (hall entry.1 (List.mem_map_of_mem (f := Prod.fst) hentry))

/-- The frame that is read from a dict, apart from its numbers. -/
def ofFields (b : Builtins F) (data : Dict Text (JsonValue F))
    (schemaVersion sequence monotonicNs : Int) (wallTimeNs : Option Int) : ReplayFrame F where
  schemaVersion := schemaVersion
  frameType := field data "frame_type"
  sequence := sequence
  monotonicNs := monotonicNs
  payloadType := toStr b (field data "payload_type")
  payload := dictOf (field data "payload")
  runtimeId := field data "runtime_id"
  recordingId := field data "recording_id"
  wallTimeNs := wallTimeNs
  extensions := extensionsOf data

/-- A dict that holds what a frame writes is read as the frame. -/
theorem fromDict_of_get? (b : Builtins F) {f : ReplayFrame F} {data : Dict Text (JsonValue F)}
    (hget : ∀ k, data.get? k = (f.toDict.get? k).map JsonValue.sorted) :
    ∃ f', fromDict b data = .ok f' ∧ f'.Same f := by
  have henvelope := f.get?_envelope
  simp only [envelope, List.forall_mem_cons] at henvelope
  obtain ⟨hschema, hframeType, hsequence, hmonotonic, hwall, hpayloadType, hpayload, hruntime,
    hrecording, hextensions, -⟩ := henvelope
  have hfield : ∀ {key : String} {v : Option (JsonValue F)}, f.toDict.get? (text key) = v →
      field data key = (v.map JsonValue.sorted).getD .null := by
    intro key v h
    rw [field, hget, h]
  have hpresent : ∀ {key : String} {v : JsonValue F}, f.toDict.get? (text key) = some v →
      text key ∈ data := by
    intro key v h
    rw [Dict.mem_iff_exists_get?]
    exact ⟨v.sorted, by rw [hget, h]; rfl⟩
  have hmissing : (requiredEnvelopeKeys.filter fun k => decide (k ∉ data)) = [] := by
    rw [List.filter_eq_nil_iff]
    have hall : ∀ k ∈ requiredEnvelopeKeys, k ∈ data := by
      simp only [requiredEnvelopeKeys, List.forall_mem_cons]
      exact ⟨hpresent hschema, hpresent hframeType, hpresent hsequence, hpresent hmonotonic,
        hpresent hpayloadType, hpresent hpayload, fun _ h => by cases h⟩
    intro k hk
    simp [hall k hk]
  have hwallTime : toOptionalInt b (field data "wall_time_ns") = .ok f.wallTimeNs := by
    rw [hfield hwall]
    cases f.wallTimeNs <;> rfl
  have hextension : ∀ k, (extensionsOf data).get? k
      = (f.extensions.get? k).map JsonValue.sorted := by
    intro k
    have hinline : (data.filterKeys fun k => decide (k ∉ envelopeKeys)).get? k = none := by
      rw [Dict.get?_filterKeys]
      split
      · rename_i hk
        rw [hget, get?_toDict_of_unknown (of_decide_eq_true hk)]
        rfl
      · rfl
    rw [extensionsOf, Dict.get?_fillFrom, hinline, Option.none_or, hfield hextensions]
    split
    · rename_i hnil
      rw [isEmpty_entries_iff.mp hnil]
      rfl
    · exact get?_dictOf_sorted f.extensions k
  refine ⟨ofFields b data f.schemaVersion f.sequence f.monotonicNs f.wallTimeNs, ?_, ?_⟩
  · unfold fromDict
    dsimp only
    rw [hmissing, hwallTime]
    simp only [ne_eq, not_true_eq_false, if_false, hfield hschema, hfield hsequence,
      hfield hmonotonic, Option.map_some, Option.getD_some, JsonValue.sorted, toInt, bind,
      Except.bind]
    rfl
  · exact
      { schemaVersion := rfl
        frameType := by
          rw [ofFields, hfield hframeType]
          exact JsonValue.same_sorted _
        sequence := rfl
        monotonicNs := rfl
        payloadType := by
          rw [ofFields, hfield hpayloadType]
          rfl
        payload := by
          rw [ofFields, hfield hpayload]
          exact sameEntries_of_get? (get?_dictOf_sorted f.payload)
        runtimeId := by
          rw [ofFields, hfield hruntime, present_sorted]
          exact JsonValue.same_sorted _
        recordingId := by
          rw [ofFields, hfield hrecording, present_sorted]
          exact JsonValue.same_sorted _
        wallTimeNs := rfl
        extensions := sameEntries_of_get? hextension }

end ReplayFrame

/-- What comes back of a frame is the frame. -/
theorem decodeFrame_frameText (b : Builtins F) {f : ReplayFrame F}
    (hversion : minReadableSchemaVersion ≤ f.schemaVersion) :
    ∃ f', decodeFrame b (.str (frameText b f ++ text "\n")) = .ok f' ∧ f'.Same f := by
  obtain ⟨data, hdata, hget⟩ := frameData_frameText b f
  obtain ⟨f', hfrom, hsame⟩ := ReplayFrame.fromDict_of_get? b hget
  have hschema : data.get? (text "schema_version") = some (.int f.schemaVersion) := by
    rw [hget, f.get?_envelope ("schema_version", _) (List.mem_cons_self ..)]
    rfl
  have henvelope : envelopeVersion data = some f.schemaVersion := by
    rw [envelopeVersion, hschema]
  have hcompatible : (checkEnvelopeCompatibility f.schemaVersion).compatible = true := by
    unfold checkEnvelopeCompatibility
    rw [if_neg (not_lt.mpr hversion)]
    split <;> rfl
  refine ⟨f', ?_, hsame⟩
  unfold decodeFrame
  simp only [hdata, henvelope, bind, Except.bind, hcompatible, if_true, hfrom]

end AsyncViz.Replay.Format
