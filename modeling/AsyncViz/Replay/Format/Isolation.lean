/-
  AsyncViz.Replay.Format.Isolation

  Whether one bad line can end a stream.

  `decode_frame` catches `JSONDecodeError` and the `ValueError` of a field; what `int(...)` raises
  on `null`, an array, an object or an infinity, and what `json.loads` raises at a limit of the
  interpreter, leaves it, and leaves the readers that catch `FrameDecodingError`.  The adapter of
  the older format catches nothing that `int(...)` raises.  `isolates_iff` says on which lines
  that happens.
-/

import AsyncViz.Replay.Format.Readers
import AsyncViz.Replay.Format.RoundTrip

namespace AsyncViz.Replay.Format

open AsyncViz.Lib AsyncViz.Lib.Json AsyncViz.Lib.Lines ReplayFrame

variable {F : Type} {limits : Limits} {b : Builtins F}

/-! ## Conversions -/

/-- `int(value)` raises a `TypeError` or an `OverflowError`. -/
def Breaks : JsonValue F → Prop
  | .null => True
  | .array _ => True
  | .object _ => True
  | .nonFinite x => x ≠ .nan
  | _ => False

/-- `int(value)` raises a `ValueError`. -/
def Refused (b : Builtins F) : JsonValue F → Prop
  | .nonFinite x => x = .nan
  | .string s => b.intOf s = none
  | _ => False

/-- The error is no `ValueError`. -/
def PyError.Escapes (e : PyError) : Prop := e = .typeError ∨ e = .overflowError

/-- What `int(value)` comes to. -/
inductive Converted (b : Builtins F) (v : JsonValue F) : Except PyError Int → Prop
  | accepted (n : Int) : ¬ Breaks v → ¬ Refused b v → Converted b v (.ok n)
  | refused (message : String) : ¬ Breaks v → Refused b v →
      Converted b v (.error (.valueError message))
  | broke (e : PyError) : Breaks v → ¬ Refused b v → e.Escapes → Converted b v (.error e)

theorem converted_toInt (b : Builtins F) (v : JsonValue F) : Converted b v (toInt b v) := by
  cases v with
  | null => exact .broke _ trivial id (.inl rfl)
  | bool x => cases x <;> exact .accepted _ id id
  | int n => exact .accepted _ id id
  | float x => exact .accepted _ id id
  | nonFinite x =>
    cases x with
    -- `int(nan)` is a `ValueError`, and `int(inf)` an `OverflowError`
    | nan => exact .refused _ (fun h => h rfl) rfl
    | infinity => exact .broke _ (by simp [Breaks]) (by simp [Refused]) (.inr rfl)
    | negInfinity => exact .broke _ (by simp [Breaks]) (by simp [Refused]) (.inr rfl)
  | string s =>
    rw [toInt]
    cases hint : b.intOf s with
    | none => exact .refused _ id hint
    | some n => exact .accepted _ id (by simp [Refused, hint])
  | array items => exact .broke _ trivial id (.inl rfl)
  | object entries => exact .broke _ trivial id (.inl rfl)

/-! ## Limits -/

/-- `json.loads` meets a limit of the interpreter on the line. -/
def LimitMet (limits : Limits) (b : Builtins F) (line : Line) : Prop :=
  ∃ t e, line.decode? = some t ∧ strip t ≠ [] ∧
    loadsWithin limits b.toFloatFormat (strip t) = .error e ∧ e ≠ .malformed

/-- What leaves `decode_frame` for each reason to refuse a line. -/
def DecodeError.raised : DecodeError → Raised
  | .typeError => .typeError
  | .overflowError => .overflowError
  | e => .frameDecodingError e

theorem frameDataWithin_eq {line : Line} (h : ¬ LimitMet limits b line) :
    frameDataWithin limits b line = (frameData b line).mapError DecodeError.raised := by
  -- the two readers of a line differ only in what `json.loads` does at a limit
  unfold frameDataWithin frameData
  cases hdecode : line.decode? with
  | none => rfl
  | some t =>
    dsimp only
    by_cases hblank : strip t = []
    · rw [if_pos hblank, if_pos hblank]
      rfl
    · rw [if_neg hblank, if_neg hblank]
      -- no limit is met, so an error of `json.loads` is `JSONDecodeError`
      have hfree : ∀ e, loadsWithin limits b.toFloatFormat (strip t) = .error e →
          e = .malformed := fun e he => by
        by_contra hne
        exact h ⟨t, e, hdecode, hblank, he, hne⟩
      have hagrees := Agrees.loads limits b.toFloatFormat (strip t)
      generalize loadsWithin limits b.toFloatFormat (strip t) = r at hagrees hfree ⊢
      generalize loads b.toFloatFormat (strip t) = o at hagrees ⊢
      cases hagrees with
      | value v => cases v <;> rfl
      | malformed => rfl
      | limited o hne => exact absurd (hfree _ rfl) hne

/-- Where no limit is met, `decode_frame` is what it is without limits. -/
theorem decodeFrameWithin_eq {line : Line} (h : ¬ LimitMet limits b line) :
    decodeFrameWithin limits b line = (decodeFrame b line).mapError DecodeError.raised := by
  unfold decodeFrameWithin decodeFrame
  rw [frameDataWithin_eq h]
  cases frameData b line with
  | error e => rfl
  | ok data =>
    simp only [Except.mapError, bind, Except.bind]
    cases envelopeVersion data with
    | none => rfl
    | some version =>
      dsimp only
      split
      · cases fromDict b data with
        | ok f => rfl
        | error e => cases e <;> rfl
      · rfl

theorem decodeFrameWithin_of_limitMet {line : Line} (h : LimitMet limits b line) :
    decodeFrameWithin limits b line = .error .valueError ∨
      decodeFrameWithin limits b line = .error .recursionError := by
  obtain ⟨t, e, hdecode, hblank, hloads, hne⟩ := h
  unfold decodeFrameWithin frameDataWithin
  rw [hdecode]
  simp only [if_neg hblank, hloads]
  cases e with
  | malformed => exact absurd rfl hne
  | tooManyDigits => exact .inl rfl
  | tooDeep => exact .inr rfl

theorem decodeFrameWithin_eq_ok_iff {line : Line} {f : ReplayFrame F} :
    decodeFrameWithin limits b line = .ok f
      ↔ ¬ LimitMet limits b line ∧ decodeFrame b line = .ok f := by
  by_cases hlimit : LimitMet limits b line
  · refine iff_of_false (fun h => ?_) fun h => h.1 hlimit
    rcases decodeFrameWithin_of_limitMet hlimit with hraised | hraised <;>
    · rw [hraised] at h
      cases h
  · rw [decodeFrameWithin_eq hlimit, and_iff_right hlimit]
    cases decodeFrame b line with
    | ok f' => simp only [Except.mapError, Except.ok.injEq]
    | error e => exact iff_of_false nofun nofun

/-- What `roundTrips_and_survives_iff` says of the codec stays true in an interpreter with limits,
    as far as none of them is met on the line of a frame. -/
theorem codec_within (limits : Limits) (b : Builtins F) :
    (∀ f, RoundTrips b f → ¬ LimitMet limits b (.str (frameText b f ++ text "\n")) →
      ∃ line f', encodeFrame b f = .ok line ∧ decodeFrameWithin limits b (.str line) = .ok f' ∧
        f'.Same f) ∧
    ∀ line, Survives b line → ∀ f, decodeFrameWithin limits b line = .ok f →
      ∃ line', encodeFrame b f = .ok line' ∧ (¬ LimitMet limits b (.str line') →
        ∃ f', decodeFrameWithin limits b (.str line') = .ok f' ∧ encodeFrame b f' = .ok line') := by
  constructor
  · rintro f ⟨line, f', hencode, hdecode, hsame⟩ hlimit
    have hline := (encodeFrame_eq_ok_iff.mp hencode).2
    exact ⟨line, f', hencode, decodeFrameWithin_eq_ok_iff.mpr ⟨hline ▸ hlimit, hdecode⟩, hsame⟩
  · intro line hsurvives f hwithin
    obtain ⟨-, hdecode⟩ := decodeFrameWithin_eq_ok_iff.mp hwithin
    obtain ⟨data, -, -, -, -, hdata, -, -⟩ := exists_of_decodeFrame hdecode
    obtain ⟨line', f', hencode, hrecode, hdecode', -⟩ := hsurvives f data hdecode hdata
    -- the limit is asked of the line that was written, not of the one read
    refine ⟨line', hencode, fun hlimit =>
      ⟨f', decodeFrameWithin_eq_ok_iff.mpr ⟨hlimit, hdecode'⟩, ?_⟩⟩
    rw [recode, hdecode'] at hrecode
    dsimp only at hrecode
    cases hagain : encodeFrame b f' with
    | error e =>
      rw [hagain] at hrecode
      cases hrecode
    | ok line'' =>
      rw [hagain] at hrecode
      rw [Option.some.inj hrecode]

/-! ## `decode_frame` -/

/-- A frame is returned, or `FrameDecodingError` raised. -/
def Isolated (r : Except Raised (ReplayFrame F)) : Prop :=
  (∃ f, r = .ok f) ∨ ∃ e, r = .error (.frameDecodingError e)

/-- A dict in a version that can be read and with all keys, in which the first of the sequence,
    the monotonic and the wall time that `int(...)` does not take is none that it refuses with a
    `ValueError`. -/
structure BreaksDecoder (b : Builtins F) (data : Dict Text (JsonValue F)) : Prop where
  version : ∃ v ∈ envelopeVersion data, (checkEnvelopeCompatibility v).compatible = true
  keys : ∀ k ∈ requiredEnvelopeKeys, k ∈ data
  converts : Breaks (field data "sequence") ∨
    ¬ Refused b (field data "sequence") ∧
      (Breaks (field data "monotonic_ns") ∨
        ¬ Refused b (field data "monotonic_ns") ∧
          isNone (field data "wall_time_ns") = false ∧ Breaks (field data "wall_time_ns"))

/-- No limit is met on the line, and it holds no dict that breaks the decoder. -/
def Harmless (limits : Limits) (b : Builtins F) (line : Line) : Prop :=
  ¬ LimitMet limits b line ∧ ∀ data, frameData b line = .ok data → ¬ BreaksDecoder b data

theorem toInt_schemaVersion {data : Dict Text (JsonValue F)} {v : Int}
    (h : envelopeVersion data = some v) : toInt b (field data "schema_version") = .ok v := by
  unfold envelopeVersion at h
  rw [field]
  split at h
  · rename_i n hget
    rw [hget, ← Option.some.inj h]
    rfl
  · rename_i hget
    rw [hget, ← Option.some.inj h]
    rfl
  · rename_i hget
    rw [hget, ← Option.some.inj h]
    rfl
  · cases h

/-- The three conversions one after the other. -/
theorem escapes_fromDict_iff {data : Dict Text (JsonValue F)} {v : Int}
    (hversion : envelopeVersion data = some v) :
    (∃ e, fromDict b data = .error e ∧ e.Escapes) ↔
      (∀ k ∈ requiredEnvelopeKeys, k ∈ data) ∧
        (Breaks (field data "sequence") ∨
          ¬ Refused b (field data "sequence") ∧
            (Breaks (field data "monotonic_ns") ∨
              ¬ Refused b (field data "monotonic_ns") ∧
                isNone (field data "wall_time_ns") = false ∧
                  Breaks (field data "wall_time_ns"))) := by
  have hrefusal : ∀ m, ¬ (PyError.valueError m).Escapes := fun m h => by
    rcases h with h | h <;> cases h
  have hmissing : requiredEnvelopeKeys.filter (fun k => decide (k ∉ data)) = []
      ↔ ∀ k ∈ requiredEnvelopeKeys, k ∈ data := by
    simp [List.filter_eq_nil_iff]
  unfold fromDict
  -- the required keys are looked for before any conversion, and a missing one is caught
  by_cases hkeys : requiredEnvelopeKeys.filter (fun k => decide (k ∉ data)) = []
  · rw [if_neg (not_not.mpr hkeys), and_iff_right (hmissing.mp hkeys), toInt_schemaVersion hversion]
    simp only [bind, Except.bind]
    -- each conversion is made only if those before it have been; one that refuses ends the rest
    have hsequence := converted_toInt b (field data "sequence")
    generalize toInt b (field data "sequence") = r at hsequence ⊢
    cases hsequence with
    | refused m hbreaks hrefused => simp [hbreaks, hrefused, hrefusal]
    | broke e hbreaks hrefused he => simp [hbreaks, he]
    | accepted n hbreaks hrefused =>
      simp only [hbreaks, hrefused, false_or, not_false_eq_true, true_and]
      have hmonotonic := converted_toInt b (field data "monotonic_ns")
      generalize toInt b (field data "monotonic_ns") = r at hmonotonic ⊢
      cases hmonotonic with
      | refused m hbreaks hrefused => simp [hbreaks, hrefused, hrefusal]
      | broke e hbreaks hrefused he => simp [hbreaks, he]
      | accepted n hbreaks hrefused =>
        simp only [hbreaks, hrefused, false_or, not_false_eq_true, true_and]
        unfold toOptionalInt
        cases hnone : isNone (field data "wall_time_ns") with
        | true => simp
        | false =>
          simp only [Bool.false_eq_true, if_false, true_and]
          have hwall := converted_toInt b (field data "wall_time_ns")
          generalize toInt b (field data "wall_time_ns") = r at hwall ⊢
          cases hwall with
          | refused m hbreaks hrefused => simp [hbreaks, hrefusal, Except.map]
          | broke e hbreaks hrefused he => simp [hbreaks, he, Except.map]
          | accepted n hbreaks hrefused => simp [hbreaks, Except.map]
  · rw [if_pos hkeys]
    refine iff_of_false ?_ fun h => hkeys (hmissing.mpr h.1)
    rintro ⟨e, heq, he⟩
    cases heq
    rcases he with he | he <;> cases he

theorem frameData_ne {line : Line} {e : DecodeError} (h : frameData b line = .error e) :
    e ≠ .typeError ∧ e ≠ .overflowError := by
  -- the steps in front of `from_dict` raise nothing but what is caught
  unfold frameData at h
  split at h
  · cases h
    exact ⟨by decide, by decide⟩
  · split at h
    · cases h
      exact ⟨by decide, by decide⟩
    · split at h
      · cases h
        exact ⟨by decide, by decide⟩
      · cases h
      · cases h
        exact ⟨by simp, by simp⟩

theorem isolated_mapError_iff {r : Except DecodeError (ReplayFrame F)} :
    Isolated (r.mapError DecodeError.raised) ↔
      ¬ ∃ e, r = .error e ∧ (e = .typeError ∨ e = .overflowError) := by
  cases r with
  | ok f => exact iff_of_true (.inl ⟨f, rfl⟩) (by simp)
  | error e => cases e <;> simp [Isolated, Except.mapError, DecodeError.raised]

/-- What `decode_frame` lets through is what breaks it. -/
theorem breaks_iff {line : Line} :
    (∃ e, decodeFrame b line = .error e ∧ (e = .typeError ∨ e = .overflowError)) ↔
      ∃ data, frameData b line = .ok data ∧ BreaksDecoder b data := by
  unfold decodeFrame
  cases hdata : frameData b line with
  | error e =>
    obtain ⟨htype, hoverflow⟩ := frameData_ne hdata
    simp [bind, Except.bind, htype, hoverflow]
  | ok data =>
    simp only [bind, Except.bind, Except.ok.injEq, exists_eq_left']
    cases hversion : envelopeVersion data with
    | none =>
      refine iff_of_false (by simp) fun h => ?_
      obtain ⟨v, hv, -⟩ := h.version
      rw [hversion] at hv
      cases hv
    | some v =>
      dsimp only
      have hescapes := escapes_fromDict_iff (b := b) hversion
      -- the version is checked before the fields are read
      by_cases hcompatible : (checkEnvelopeCompatibility v).compatible = true
      · rw [if_pos hcompatible]
        have hbreaks : BreaksDecoder b data ↔ ∃ e, fromDict b data = .error e ∧ e.Escapes := by
          rw [hescapes]
          exact ⟨fun h => ⟨h.keys, h.converts⟩, fun h => ⟨⟨v, hversion, hcompatible⟩, h.1, h.2⟩⟩
        rw [hbreaks]
        cases fromDict b data with
        | ok f => simp
        | error e => cases e <;> simp [PyError.Escapes]
      · rw [if_neg hcompatible]
        refine iff_of_false (by simp) fun h => ?_
        obtain ⟨v', hv', hcompatible'⟩ := h.version
        rw [hversion] at hv'
        exact hcompatible (Option.some.inj hv' ▸ hcompatible')

/-- One line is isolated exactly if it is harmless. -/
theorem isolated_iff_harmless (line : Line) :
    Isolated (decodeFrameWithin limits b line) ↔ Harmless limits b line := by
  by_cases hlimit : LimitMet limits b line
  · refine iff_of_false ?_ fun h => h.1 hlimit
    -- a limit raises `ValueError` or `RecursionError`, and `decode_frame` catches neither there
    rcases decodeFrameWithin_of_limitMet hlimit with h | h <;> simp [h, Isolated]
  · rw [decodeFrameWithin_eq hlimit, isolated_mapError_iff, breaks_iff, Harmless,
      and_iff_right hlimit]
    simp only [not_exists, not_and]

/-! ## The adapter of the older format -/

/-- A frame is returned, or `FrameAdapterError` raised. -/
def AdapterIsolated (r : Except Raised (ReplayFrame F)) : Prop :=
  (∃ f, r = .ok f) ∨ ∃ message, r = .error (.frameAdapterError message)

/-- `int(value)` returns. -/
def Accepted (b : Builtins F) (v : JsonValue F) : Prop := ¬ Breaks v ∧ ¬ Refused b v

/-- No limit is met on the line, and where it holds a dict with a sequence and an event type,
    `int(...)` takes the sequence and the monotonic time, if there is one. -/
def LegacyHarmless (limits : Limits) (b : Builtins F) (line : Text) : Prop :=
  ¬ LimitMet limits b (.str line) ∧ ∀ data, frameData b (.str line) = .ok data →
    text "sequence" ∈ data → text "event_type" ∈ data →
      Accepted b (field data "sequence") ∧
        Accepted b ((data.get? (text "monotonic_ns")).getD (.int 0))

theorem raised_ne_frameAdapterError (e : PyError) (message : String) :
    e.raised ≠ .frameAdapterError message := by
  cases e <;> simp [PyError.raised]

/-- A conversion, and what comes after it, are isolated exactly if `int(...)` returns and what
    comes after it is isolated. -/
theorem adapterIsolated_bind_iff {v : JsonValue F} {f : Int → Except Raised (ReplayFrame F)}
    {P : Prop} (h : ∀ n, AdapterIsolated (f n) ↔ P) :
    AdapterIsolated ((toInt b v).mapError PyError.raised >>= f) ↔ Accepted b v ∧ P := by
  have hconverted := converted_toInt b v
  generalize toInt b v = r at hconverted ⊢
  cases hconverted with
  | accepted n hbreaks hrefused => exact (h n).trans (and_iff_right ⟨hbreaks, hrefused⟩).symm
  | refused message hbreaks hrefused =>
    refine iff_of_false ?_ fun h => h.1.2 hrefused
    rintro (⟨f, hf⟩ | ⟨message, hmessage⟩)
    · cases hf
    · exact raised_ne_frameAdapterError _ _ (Except.error.inj hmessage)
  | broke e hbreaks hrefused he =>
    refine iff_of_false ?_ fun h => h.1.1 hbreaks
    rintro (⟨f, hf⟩ | ⟨message, hmessage⟩)
    · cases hf
    · exact raised_ne_frameAdapterError _ _ (Except.error.inj hmessage)

theorem adapterIsolated_iff_legacyHarmless (line : Text) :
    AdapterIsolated (legacyDecodeLine limits b line) ↔ LegacyHarmless limits b line := by
  unfold legacyDecodeLine LegacyHarmless LimitMet frameData
  simp only [Line.decode?, Option.some.injEq, exists_and_left, exists_eq_left']
  by_cases hblank : strip line = []
  · simp [hblank, AdapterIsolated]
  · rw [if_neg hblank, if_neg hblank]
    have hagrees := Agrees.loads limits b.toFloatFormat (strip line)
    generalize loadsWithin limits b.toFloatFormat (strip line) = r at hagrees ⊢
    generalize loads b.toFloatFormat (strip line) = o at hagrees ⊢
    cases hagrees with
    | malformed => simp [AdapterIsolated]
    | limited o hne =>
      rename_i e
      refine iff_of_false ?_ fun h => h.1 ⟨hblank, e, rfl, hne⟩
      cases e with
      | malformed => exact absurd rfl hne
      | tooManyDigits => simp [AdapterIsolated]
      | tooDeep => simp [AdapterIsolated]
    | value v =>
      cases v with
      | object entries =>
        have hfree : ¬ (strip line ≠ [] ∧ ∃ e : ReadError,
            (Except.ok (.object entries) : Except ReadError (JsonValue F)) = .error e ∧
              e ≠ .malformed) := by
          simp
        simp only [hfree, not_false_eq_true, true_and, Except.ok.injEq, forall_eq']
        by_cases hkeys : text "sequence" ∉ Dict.ofPairs entries ∨
            text "event_type" ∉ Dict.ofPairs entries
        · rw [if_pos hkeys]
          refine iff_of_true (.inr ⟨_, rfl⟩) fun hsequence htype => ?_
          exact (hkeys.elim (fun h => h hsequence) fun h => h htype).elim
        · obtain ⟨hsequence, htype⟩ := not_or.mp hkeys
          rw [if_neg hkeys, adapterIsolated_bind_iff fun n =>
            (adapterIsolated_bind_iff fun m => iff_of_true (.inl ⟨_, rfl⟩) trivial).trans
              (and_iff_left trivial)]
          exact ⟨fun h _ _ => h, fun h => h (not_not.mp hsequence) (not_not.mp htype)⟩
      | _ => simp [AdapterIsolated]

/-! ## The readers -/

/-- Every frame of a line that decodes, in order, and nothing raised at the end. -/
theorem iterDecodeLines_iff (lines : List Line) :
    iterDecodeLines limits b false lines
        = (lines.filterMap fun line => (decodeFrameWithin limits b line).toOption, none) ↔
      ∀ line ∈ lines, Harmless limits b line := by
  induction lines with
  | nil => simp [iterDecodeLines]
  | cons line lines ih =>
    rw [List.forall_mem_cons, ← isolated_iff_harmless, ← ih, iterDecodeLines]
    cases hdecode : decodeFrameWithin limits b line with
    | ok f =>
      have hisolated : Isolated (.ok f : Except Raised (ReplayFrame F)) := .inl ⟨f, rfl⟩
      simp only [List.filterMap_cons, hdecode, Except.toOption, hisolated, true_and, Prod.ext_iff,
        List.cons.injEq]
    | error e =>
      cases e with
      | frameDecodingError e =>
        have hisolated :
            Isolated (.error (.frameDecodingError e) : Except Raised (ReplayFrame F)) :=
          .inr ⟨e, rfl⟩
        simp [hdecode, Except.toOption, hisolated]
      | _ => simp [Isolated]

/-- The line is too long for the reader of files. -/
def TooLarge (line : Text) : Prop := maxFrameLineBytes < (line.map utf8Width).sum

/-- The frame that the reader of files yields for a line, if it does: none for one that is too
    long. -/
def lineFrame (limits : Limits) (b : Builtins F) (line : Text) : Option (ReplayFrame F) :=
  match guardLineLength (.str line) with
  | .error _ => none
  | .ok () => (decodeFrameWithin limits b (.str line)).toOption

/-- The line does not end the reader. -/
def Passes (limits : Limits) (b : Builtins F) (line : Text) : Prop :=
  TooLarge line ∨ Harmless limits b (.str line)

namespace StreamingFrameReader

/-- What the body of the loop comes to on a line: it counts the line as read, and unless it
    raises as yielded or as dropped. -/
inductive LineRead (limits : Limits) (b : Builtins F) (stats : StreamingReadStats) (line : Text) :
    StreamingReadStats × Except Raised (Option (ReplayFrame F)) → Prop
  | passed (stats' : StreamingReadStats) : Passes limits b line →
      stats'.linesRead = stats.linesRead + 1 →
      stats'.framesYielded + stats'.linesDropped = stats.framesYielded + stats.linesDropped + 1 →
      LineRead limits b stats line (stats', .ok (lineFrame limits b line))
  | raised (stats' : StreamingReadStats) (e : Raised) : ¬ Passes limits b line →
      LineRead limits b stats line (stats', .error e)

variable (limits b) in
theorem lineRead_readLine {line : Text} (h : Encodable line) (stats : StreamingReadStats) :
    LineRead limits b stats line (readLine limits b false stats line) := by
  by_cases hlarge : TooLarge line
  · have hguard : guardLineLength (.str line) = .error .frameTooLargeError := by
      rw [guardLineLength, if_neg (not_not.mpr h)]
      exact if_pos hlarge
    have hframe : lineFrame limits b line = none := by rw [lineFrame, hguard]
    simp only [readLine, hguard, Bool.false_eq_true, if_false]
    rw [← hframe]
    exact .passed _ (.inl hlarge) rfl rfl
  · have hguard : guardLineLength (.str line) = .ok () := by
      rw [guardLineLength, if_neg (not_not.mpr h)]
      exact if_neg hlarge
    have hframe : lineFrame limits b line = (decodeFrameWithin limits b (.str line)).toOption := by
      rw [lineFrame, hguard]
    have hpasses : Passes limits b line ↔ Isolated (decodeFrameWithin limits b (.str line)) := by
      rw [Passes, isolated_iff_harmless, or_iff_right hlarge]
    simp only [readLine, hguard, Bool.false_eq_true, if_false]
    cases hdecode : decodeFrameWithin limits b (.str line) with
    | ok f =>
      rw [hdecode] at hframe hpasses
      change LineRead limits b stats line (_, .ok (Except.ok f : Except Raised _).toOption)
      rw [← hframe]
      exact .passed _ (hpasses.mpr (.inl ⟨f, rfl⟩)) rfl (Nat.add_right_comm _ _ _)
    | error e =>
      rw [hdecode] at hframe hpasses
      cases e with
      | frameDecodingError e =>
        change LineRead limits b stats line
          (_, .ok (Except.error (Raised.frameDecodingError e)).toOption)
        rw [← hframe]
        exact .passed _ (hpasses.mpr (.inr ⟨e, rfl⟩)) rfl rfl
      | _ => exact .raised _ _ (hpasses.not.mpr (by simp [Isolated]))

/-- What a loop comes to that is to yield `frames` for `count` lines: it does exactly if `P`
    holds, and raises elsewhere. -/
inductive Read (P : Prop) (frames : List (ReplayFrame F)) (count : Nat)
    (stats : StreamingReadStats) :
    StreamingReadStats × List (ReplayFrame F) × Option Raised → Prop
  | finished (stats' : StreamingReadStats) : P →
      stats'.linesRead = stats.linesRead + count →
      stats'.framesYielded + stats'.linesDropped
        = stats.framesYielded + stats.linesDropped + count →
      Read P frames count stats (stats', frames, none)
  | raised (stats' : StreamingReadStats) (frames' : List (ReplayFrame F)) (e : Raised) : ¬ P →
      Read P frames count stats (stats', frames', some e)

theorem Read.iff {P : Prop} {frames : List (ReplayFrame F)} {count : Nat}
    {stats : StreamingReadStats} {r : StreamingReadStats × List (ReplayFrame F) × Option Raised}
    (h : Read P frames count stats r) : r.2 = (frames, none) ↔ P := by
  cases h with
  | finished stats' hP _ _ => exact iff_of_true rfl hP
  | raised stats' frames' e hno => exact iff_of_false (by simp) hno

variable (limits b) in
/-- The loop over the lines of a file. -/
theorem read_readLines {lines : List Text} (hlines : ∀ line ∈ lines, Encodable line)
    (stats : StreamingReadStats) :
    Read (∀ line ∈ lines, Passes limits b line) (lines.filterMap (lineFrame limits b))
      lines.length stats (readLines limits b false stats lines) := by
  induction lines generalizing stats with
  | nil => exact .finished stats (fun _ h => absurd h List.not_mem_nil) rfl rfl
  | cons line lines ih =>
    have hline := lineRead_readLine limits b (hlines line List.mem_cons_self) stats
    have hrest := ih fun other hother => hlines other (List.mem_cons_of_mem _ hother)
    have hframes : (line :: lines).filterMap (lineFrame limits b)
        = (lineFrame limits b line).toList ++ lines.filterMap (lineFrame limits b) := by
      rw [List.filterMap_cons]
      cases lineFrame limits b line <;> rfl
    rw [readLines, List.forall_mem_cons, hframes]
    generalize readLine limits b false stats line = r at hline ⊢
    cases hline with
    | raised stats' e hno => exact .raised _ _ _ fun h => hno h.1
    | passed stats' hpasses hread hcounts =>
      have hmore := hrest stats'
      dsimp only
      generalize readLines limits b false stats' lines = r at hmore ⊢
      cases hmore with
      | raised stats'' frames' e hno => exact .raised _ _ _ fun h => hno h.2
      | finished stats'' hall hread' hcounts' =>
        refine .finished _ ⟨hpasses, hall⟩ ?_ ?_
        · rw [hread', hread, List.length_cons]
          omega
        · rw [hcounts', hcounts, List.length_cons]
          omega

end StreamingFrameReader

/-! ## Files -/

/-- The complete lines of a file that is UTF-8. -/
def linesOf (path : Option ByteArray) : List Text :=
  match path.bind fun bytes => String.fromUTF8? bytes with
  | none => []
  | some s => completeLines 10 (translateNewlines (text s))

/-- The file is UTF-8, if it exists, and no line of it ends the reader. -/
structure Readable (limits : Limits) (b : Builtins F) (path : Option ByteArray) : Prop where
  utf8 : ∀ bytes ∈ path, (String.fromUTF8? bytes).isSome
  passes : ∀ line ∈ linesOf path, Passes limits b line

theorem encodable_text (s : String) : Encodable (text s) := by
  intro n hn
  obtain ⟨c, -, rfl⟩ := List.mem_map.mp hn
  rintro ⟨hlow, hhigh⟩
  rcases c.valid with h | ⟨h, -⟩
  · have hlt : code c < 0xD800 := h
    omega
  · have hlt : 0xDFFF < code c := h
    omega

theorem encodable_translateNewlines {t : Text} (h : Encodable t) :
    Encodable (translateNewlines t) := by
  have hnewline : ¬ IsSurrogate 10 := by decide
  fun_induction translateNewlines t with
  | case1 => exact h
  | case2 c =>
    rw [encodable_cons] at h ⊢
    split
    · exact ⟨hnewline, encodable_nil⟩
    · exact h
  | case3 rest ih =>
    rw [encodable_cons, encodable_cons] at h
    exact encodable_cons.mpr ⟨hnewline, ih h.2.2⟩
  | case4 d rest hne ih =>
    rw [encodable_cons] at h
    exact encodable_cons.mpr ⟨hnewline, ih h.2⟩
  | case5 c d rest hne ih =>
    rw [encodable_cons] at h
    exact encodable_cons.mpr ⟨h.1, ih h.2⟩

theorem encodable_of_mem_linesOf {path : Option ByteArray} {line : Text} (h : line ∈ linesOf path) :
    Encodable line := by
  unfold linesOf at h
  split at h
  · exact absurd h List.not_mem_nil
  · rename_i s hs
    exact fun c hc => encodable_translateNewlines (encodable_text s) c
      (mem_of_mem_completeLines h hc)

/-- A file that is no UTF-8 raises in the end. -/
theorem iterLines_cases (limits : Limits) (b : Builtins F) (ahead : ByteArray → List Text)
    (path : Option ByteArray) :
    (iterLines ahead path = (linesOf path, none) ∧
      (Readable limits b path ↔ ∀ line ∈ linesOf path, Passes limits b line)) ∨
    ∃ lines, iterLines ahead path = (lines, some .unicodeDecodeError) ∧
      ¬ Readable limits b path := by
  cases path with
  | none => exact .inl ⟨rfl, fun h => h.passes, fun h => ⟨by simp, h⟩⟩
  | some bytes =>
    unfold iterLines linesOf
    cases hdecode : String.fromUTF8? bytes with
    | none =>
      refine .inr ⟨ahead bytes, by simp [hdecode], fun h => ?_⟩
      have hsome := h.utf8 bytes rfl
      rw [hdecode] at hsome
      cases hsome
    | some s =>
      refine .inl ⟨by simp [hdecode], fun h => ?_, fun h => ⟨?_, ?_⟩⟩
      · have hpasses := h.passes
        unfold linesOf at hpasses
        exact hpasses
      · intro other hother
        rw [← Option.some.inj hother, hdecode]
        rfl
      · unfold linesOf
        exact h

namespace StreamingFrameReader

variable (limits b) in
/-- The reader over files. -/
theorem read_iter (ahead : ByteArray → List Text) (stats : StreamingReadStats)
    (paths : List (Option ByteArray)) :
    Read (∀ path ∈ paths, Readable limits b path)
      ((paths.flatMap linesOf).filterMap (lineFrame limits b)) (paths.flatMap linesOf).length stats
      (iter limits b false ahead stats paths) := by
  induction paths generalizing stats with
  | nil => exact .finished stats (fun _ h => absurd h List.not_mem_nil) rfl rfl
  | cons path paths ih =>
    rw [iter, List.forall_mem_cons, List.flatMap_cons, List.filterMap_append, List.length_append]
    rcases iterLines_cases limits b ahead path with ⟨hlines, hreadable⟩ | ⟨lines, hlines, hno⟩
    · have hencodable : ∀ line ∈ linesOf path, Encodable line := fun _ hline =>
        encodable_of_mem_linesOf hline
      have hfirst := read_readLines limits b hencodable stats
      rw [← hreadable] at hfirst
      rw [hlines]
      dsimp only
      generalize readLines limits b false stats (linesOf path) = r at hfirst ⊢
      cases hfirst with
      | raised stats' frames' e hno => exact .raised _ _ _ fun h => hno h.1
      | finished stats' hall hread hcounts =>
        have hmore := ih stats'
        dsimp only
        generalize iter limits b false ahead stats' paths = r at hmore ⊢
        cases hmore with
        | raised stats'' frames' e hno => exact .raised _ _ _ fun h => hno h.2
        | finished stats'' hrest hread' hcounts' =>
          refine .finished _ ⟨hall, hrest⟩ ?_ ?_
          · rw [hread', hread, Nat.add_assoc]
          · rw [hcounts', hcounts, Nat.add_assoc]
    · rw [hlines]
      dsimp only
      obtain ⟨stats', frames, e⟩ := readLines limits b false stats lines
      cases e with
      | some e => exact .raised _ _ _ fun h => hno h.1
      | none => exact .raised _ _ _ fun h => hno h.1

end StreamingFrameReader

/-! ## Isolation -/

/-- `decode_frame` is isolated exactly on harmless lines, and the adapter of the older format
    exactly on those whose sequence and monotonic time `int(...)` takes.  `iter_decode_lines`
    yields the frames of the lines that decode and reaches the end exactly if all lines are
    harmless; and so does the reader of files exactly if all files are UTF-8 and all of their
    lines that are not too long are harmless. -/
theorem isolates_iff (limits : Limits) (b : Builtins F) (ahead : ByteArray → List Text) :
    (∀ line, Isolated (decodeFrameWithin limits b line) ↔ Harmless limits b line) ∧
    (∀ line, AdapterIsolated (legacyDecodeLine limits b line) ↔ LegacyHarmless limits b line) ∧
    (∀ lines, iterDecodeLines limits b false lines
        = (lines.filterMap fun line => (decodeFrameWithin limits b line).toOption, none) ↔
      ∀ line ∈ lines, Harmless limits b line) ∧
    ∀ paths stats, (StreamingFrameReader.iter limits b false ahead stats paths).2
        = ((paths.flatMap linesOf).filterMap (lineFrame limits b), none) ↔
      ∀ path ∈ paths, Readable limits b path :=
  ⟨isolated_iff_harmless, adapterIsolated_iff_legacyHarmless, iterDecodeLines_iff,
    fun paths stats => (StreamingFrameReader.read_iter limits b ahead stats paths).iff⟩

/-- A frame whose sequence is `null`. -/
def nullLine : Text :=
  text "\x7b\"frame_type\":\"marker\",\"monotonic_ns\":0,\"payload\":\x7b\x7d,"
    ++ text "\"payload_type\":\"marker.a\",\"schema_version\":1,\"sequence\":null\x7d"

/-- A line of the older format whose sequence is a word. -/
def wordLine : Text := text "\x7b\"event_type\":\"a\",\"sequence\":\"x\"\x7d"

/-- A `TypeError` leaves `decode_frame` and ends the reader of lines, and a `ValueError` leaves
    the adapter. -/
theorem not_isolated_nullLine :
    ¬ Isolated (decodeFrameWithin { depth := 1000 } asWritten (.str nullLine)) ∧
      (iterDecodeLines { depth := 1000 } asWritten false [.str nullLine]).2 = some .typeError ∧
      ¬ AdapterIsolated (legacyDecodeLine { depth := 1000 } asWritten wordLine) := by
  have hnull : (decodeFrameWithin { depth := 1000 } asWritten (.str nullLine)).map (fun _ => ())
      = .error .typeError := by
    decide +kernel
  have hword : (legacyDecodeLine { depth := 1000 } asWritten wordLine).map (fun _ => ())
      = .error .valueError := by
    decide +kernel
  refine ⟨?_, by decide +kernel, ?_⟩
  · rintro (⟨f, hf⟩ | ⟨e, he⟩)
    · rw [hf] at hnull
      cases hnull
    · rw [he] at hnull
      cases hnull
  · rintro (⟨f, hf⟩ | ⟨message, hmessage⟩)
    · rw [hf] at hword
      cases hword
    · rw [hmessage] at hword
      cases hword

end AsyncViz.Replay.Format
