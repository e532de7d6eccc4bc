/-
  AsyncViz.Runtime.Warnings.GroupDetector

  The events of the blocking warning emitter (`blocking_warning_events.py`,
  `blocking_warning_payloads.py`) and `BlockingWarningGroupDetector` (`detectors.py`), which
  makes one trigger of each.

  The detector reads a free-form payload through `str`, `int`, `upper`, `lower` and the
  formatting of a float; what these make of every value is a parameter (`PythonText`), and
  `PythonText.Plain` says what they make of the values that the emitter writes.
-/

import AsyncViz.Runtime.Warnings.Blocking.Emitter
import AsyncViz.Runtime.Warnings.Escalation

namespace AsyncViz.Runtime.Warnings

open AsyncViz.Lib AsyncViz.Lib.Transition

namespace Blocking

/-! ## Events of the emitter -/

/-- `severity.name`. -/
def BlockingSeverity.name : BlockingSeverity → String
  | .none => "NONE"
  | .warning => "WARNING"
  | .critical => "CRITICAL"
  | .freeze => "FREEZE"

/-- `state.value`. -/
def BlockingWarningGroupState.value : BlockingWarningGroupState → String
  | .opened => "opened"
  | .escalating => "escalating"
  | .active => "active"
  | .recovered => "recovered"
  | .expired => "expired"

/-- The label of a transition. -/
def Transition.label : Transition → String
  | .opened => "opened"
  | .escalated => "escalated"
  | .active => "active"
  | .recovered => "recovered"
  | .expired => "expired"

/-- `event_type_for_transition`. -/
def eventTypeForTransition : Transition → String
  | .opened => "runtime.warnings.blocking.opened"
  | .escalated => "runtime.warnings.blocking.escalated"
  | .active => "runtime.warnings.blocking.active"
  | .recovered => "runtime.warnings.blocking.recovered"
  | .expired => "runtime.warnings.blocking.expired"

/-- `BLOCKING_WARNING_EVENT_TYPES`. -/
def blockingWarningEventTypes : List String :=
  [eventTypeForTransition .opened, eventTypeForTransition .escalated,
    eventTypeForTransition .active, eventTypeForTransition .recovered,
    eventTypeForTransition .expired]

/-- `is_blocking_warning_event`. -/
def isBlockingWarningEvent (eventType : String) : Bool := eventType ∈ blockingWarningEventTypes

/-- `entry.to_dict()`. -/
def EscalationEntry.toDict (entry : EscalationEntry) : Json :=
  .obj [("from_severity", .str entry.fromSeverity.name),
    ("to_severity", .str entry.toSeverity.name), ("monotonic_ns", .int entry.monotonicNs),
    ("sample_index", .int entry.sampleIndex)]

/-- `payload.to_dict()`. -/
def BlockingWarningPayload.toDict (p : BlockingWarningPayload) : List (String × Json) :=
  [("warning_id", .str p.warningId), ("group_id", .str p.groupId),
    ("runtime_id", .str p.runtimeId), ("window_id", .ofOption .str p.windowId),
    ("state", .str p.state.value), ("severity", .str p.severity.name),
    ("peak_severity", .str p.peakSeverity.name), ("first_seen_ns", .int p.firstSeenNs),
    ("last_seen_ns", .int p.lastSeenNs), ("recovered_ns", .ofOption .int p.recoveredNs),
    ("expired_ns", .ofOption .int p.expiredNs), ("freeze_duration_ns", .int p.freezeDurationNs),
    ("freeze_duration_ms", .num (p.freezeDurationNs / 1000000)), ("peak_lag_ns", .int p.peakLagNs),
    ("last_lag_ns", .int p.lastLagNs), ("violation_count", .int p.violationCount),
    ("escalation_count", .int p.escalationCount), ("capture_ids", .arr (p.captureIds.map .int)),
    ("escalation_history", .arr (p.escalationHistory.items.map EscalationEntry.toDict)),
    ("task_id", .ofOption .str p.taskId), ("task_name", .ofOption .str p.taskName),
    ("coroutine_name", .ofOption .str p.coroutineName), ("transition", .str p.transition.label),
    ("sequence", .int p.sequence)]

/-- `build_blocking_warning_event`, in an envelope with its id and times. -/
def buildBlockingWarningEvent (envelope : RuntimeEvent) (p : BlockingWarningPayload) :
    RuntimeEvent :=
  { envelope with
    source := "runtime"
    body := .other (eventTypeForTransition p.transition) [("payload", .obj p.toDict)] }

end Blocking

/-! ## The detector -/

/-- What Python makes of values: `str(x)`, `int(x)` (`none` where it raises), `s.upper()`,
    `s.lower()` and a float in the format `.1f`. -/
structure PythonText where
  str : Json → String
  int : Json → Option Int
  upper : String → String
  lower : String → String
  oneDigit : ℚ → String

/-- What they make of the values that the emitter writes. -/
structure PythonText.Plain (py : PythonText) : Prop where
  str_str : ∀ s, py.str (.str s) = s
  int_int : ∀ n, py.int (.int n) = some n
  upper_name : ∀ s : Blocking.BlockingSeverity, py.upper s.name = s.name

/-- `bool(x)`; an object whose class defines no truth value is true. -/
def truthy : Json → Bool
  | .null => false
  | .bool b => b
  | .int n => n ≠ 0
  | .num q => q ≠ 0
  | .str s => s ≠ ""
  | .arr items => !items.isEmpty
  | .obj fields => !fields.isEmpty
  | .foreign _ => true

namespace BlockingWarningGroupDetector

/-- `payload.get(key, default)`. -/
def get (payload : List (String × Json)) (key : String) (default : Json) : Json :=
  (payload.lookup key).getD default

/-- `_BLOCKING_WARNING_SEVERITY_MAP.get(name, WarningSeverity.WARNING)`. -/
def severityOf (name : String) : WarningSeverity :=
  if name = "WARNING" then .warning
  else if name = "CRITICAL" then .error
  else if name = "FREEZE" then .critical
  else .warning

/-- `_related_task_ids`. -/
def relatedTaskIds (payload : List (String × Json)) : List String :=
  match get payload "task_id" .null with
  | .str s => if s = "" then [] else [s]
  | _ => []

/-- `_build_metadata`. -/
def buildMetadata (py : PythonText) (payload : List (String × Json)) (transition : String) :
    Option (Dict String Json) :=
  (py.int (get payload "peak_lag_ns" (.int 0))).bind fun peakLagNs =>
    (py.int (get payload "freeze_duration_ns" (.int 0))).map fun durationNs =>
      let captureIds := get payload "capture_ids" .null
      let entries : List (String × Json) :=
        [("kind", .str "blocking_warning_group"), ("transition", .str transition),
          ("window_id", get payload "window_id" .null),
          ("warning_id", get payload "warning_id" .null),
          ("group_id", get payload "group_id" .null), ("severity", get payload "severity" .null),
          ("peak_severity", get payload "peak_severity" .null), ("peak_lag_ns", .int peakLagNs),
          ("peak_lag_ms", .num (peakLagNs / 1000000)), ("freeze_duration_ns", .int durationNs),
          ("freeze_duration_ms", .num (durationNs / 1000000)),
          ("violation_count", get payload "violation_count" .null),
          ("escalation_count", get payload "escalation_count" .null),
          ("capture_ids", if truthy captureIds then captureIds else .arr []),
          ("task_name", get payload "task_name" .null),
          ("coroutine_name", get payload "coroutine_name" .null),
          ("state", get payload "state" .null),
          ("first_seen_ns", get payload "first_seen_ns" .null),
          ("last_seen_ns", get payload "last_seen_ns" .null)]
      entries.foldl (fun d entry => d.set entry.1 entry.2) .empty

/-- `_compose_message`. -/
def composeMessage (py : PythonText) (payload : List (String × Json)) (transition : String) :
    Option String :=
  (py.int (get payload "peak_lag_ns" (.int 0))).bind fun peakLagNs =>
    (py.int (get payload "freeze_duration_ns" (.int 0))).map fun durationNs =>
      let lowered := py.lower (py.str (get payload "severity" (.str "")))
      let sev := if lowered = "" then "unknown" else lowered
      let peakLagMs : ℚ := peakLagNs / 1000000
      let duration := py.oneDigit (durationNs / 1000000)
      let windowId := get payload "window_id" .null
      let base :=
        if transition = "opened" then s!"event loop blocking ({sev}) opened"
        else if transition = "escalated" then s!"event loop blocking escalated to {sev}"
        else if transition = "recovered" then
          s!"event loop blocking ({sev}) recovered after {duration}ms"
        else if transition = "expired" then
          s!"event loop blocking ({sev}) expired after {duration}ms"
        else s!"event loop blocking ({sev}) refresh"
      let base := if truthy windowId then base ++ s!" [window={py.str windowId}]" else base
      if peakLagMs ≠ 0 then base ++ s!" peak={py.oneDigit peakLagMs}ms" else base

/-- `detector.evaluate_event(...)`; `none` where it raises. -/
def evaluateEvent (py : PythonText) (event : RuntimeEvent) (sequence : Option Int) :
    Option (List WarningTrigger) :=
  match event.body with
  | .other eventType fields =>
    if !Blocking.isBlockingWarningEvent eventType then some []
    else
      let payload := match fields.lookup "payload" with
        | some (.obj payload) => payload
        | _ => []
      let groupId := py.str (get payload "group_id" (.str ""))
      if groupId = "" then some []
      else
        let severity := severityOf (py.upper (py.str (get payload "severity" (.str ""))))
        let lowered := py.lower (py.str (get payload "transition" (.str "")))
        let transition := if lowered = "" then eventType else lowered
        (composeMessage py payload transition).bind fun message =>
          (buildMetadata py payload transition).map fun metadata =>
            [{ warningType := "blocking_warning_group"
               warningKey := s!"blocking_warning_group:{groupId}"
               severity := severity
               message := message
               detector := "blocking_warning_group"
               sequence := sequence
               monotonicNs := event.monotonicNs
               wallSeconds := event.timestamp
               relatedTaskIds := relatedTaskIds payload
               lineageRootId := none
               metadata := metadata }]
  | _ => some []

end BlockingWarningGroupDetector

/-- `BlockingWarningGroupDetector`. -/
def blockingWarningGroupDetector (py : PythonText) : WarningDetector where
  name := "blocking_warning_group"
  snapshotDriven := false
  evaluateEvent ctx event sequence :=
    ⟨BlockingWarningGroupDetector.evaluateEvent py event sequence, ctx.aggregator⟩
  evaluateSnapshot ctx _ _ _ := ⟨some [], ctx.aggregator⟩

/-! ## Groups in the manager -/

section Group

open Blocking

variable {py : PythonText} (hpy : py.Plain) (envelope : RuntimeEvent)
  {p : BlockingWarningPayload} (hgroup : p.groupId ≠ "") (sequence : Option Int)
include hpy hgroup

/-- The detector makes one trigger of an event of the emitter: for its group, with the severity
    that the group has come to. -/
theorem evaluateEvent_build : ∃ t,
    BlockingWarningGroupDetector.evaluateEvent py (buildBlockingWarningEvent envelope p) sequence
        = some [t] ∧
      t.warningKey = s!"blocking_warning_group:{p.groupId}" ∧ t.sequence = sequence ∧
      t.severity = BlockingWarningGroupDetector.severityOf p.severity.name := by
  have htype : isBlockingWarningEvent (eventTypeForTransition p.transition) = true := by
    cases p.transition <;> decide
  have hid : py.str (BlockingWarningGroupDetector.get p.toDict "group_id" (.str "")) = p.groupId :=
    hpy.str_str p.groupId
  have hseverity : py.upper (py.str (BlockingWarningGroupDetector.get p.toDict "severity"
      (.str ""))) = p.severity.name := by
    have hstr : py.str (BlockingWarningGroupDetector.get p.toDict "severity" (.str ""))
        = p.severity.name := hpy.str_str _
    rw [hstr, hpy.upper_name]
  have hlag : py.int (BlockingWarningGroupDetector.get p.toDict "peak_lag_ns" (.int 0))
      = some p.peakLagNs := hpy.int_int _
  have hduration : py.int (BlockingWarningGroupDetector.get p.toDict "freeze_duration_ns" (.int 0))
      = some p.freezeDurationNs := hpy.int_int _
  unfold BlockingWarningGroupDetector.evaluateEvent buildBlockingWarningEvent
  dsimp only
  rw [htype]
  simp only [Bool.not_true, Bool.false_eq_true, if_false, List.lookup_cons_self]
  rw [hid, if_neg hgroup, hseverity]
  unfold BlockingWarningGroupDetector.composeMessage BlockingWarningGroupDetector.buildMetadata
  rw [hlag, hduration]
  exact ⟨_, rfl, rfl, rfl, rfl⟩

/-- A group that is open in the manager is shown with a further transition exactly if it has not
    become more severe than the manager has it. -/
theorem reflected_group_iff {m : RuntimeWarningManager} {ids : Finset String}
    (h : RuntimeWarningManager.Kept m ids) {v : WarningLifecycle} {t : WarningTrigger}
    (hopen : m.lifecycles.get? s!"blocking_warning_group:{p.groupId}" = some v)
    (hrefresh : evaluateDedup (some v) sequence = .refresh)
    (ht : BlockingWarningGroupDetector.evaluateEvent py (buildBlockingWarningEvent envelope p)
      sequence = some [t]) :
    RuntimeWarningManager.Reflected m t ↔
      severityRank (BlockingWarningGroupDetector.severityOf p.severity.name)
        ≤ severityRank v.severity := by
  obtain ⟨t', ht', hkey, hsequence, hseverity⟩ :=
    evaluateEvent_build hpy envelope hgroup sequence
  obtain rfl : t' = t := List.singleton_inj.mp (Option.some.inj (ht'.symm.trans ht))
  rw [RuntimeWarningManager.reflected_iff h, RuntimeWarningManager.NoBump, hkey, hsequence,
    hseverity]
  constructor
  · exact fun hbump => hbump v hopen hrefresh
  · intro hle v' hv' _
    rw [Option.some.inj (hv'.symm.trans hopen)]
    exact hle

end Group

namespace RuntimeWarningManager.Run

open Blocking

/-- The values that the events below need. -/
def shortText : PythonText where
  str
    | .str s => s
    | _ => ""
  int
    | .int n => some n
    | _ => none
  upper s := s
  lower s := if s = "CRITICAL" then "critical" else if s = "FREEZE" then "freeze" else s
  oneDigit q := if q = 600 then "600.0" else if q = 2500 then "2500.0" else "0.0"

/-- A window blocks the loop for 600 ms, critically. -/
def criticalGroup : WarningGroup :=
  BlockingWarningEmitter.newGroup "rt" "bw:rt:1" "rt:w:1"
    ⟨600000000, 1, 600000000, .critical, true, ⟨some "rt:w:1", none, none, some "rt:w:1"⟩⟩
    600000000

/-- It goes on, and freezes the loop. -/
def frozenGroup : WarningGroup :=
  criticalGroup.recordObservation .freeze 2500000000 2500000000 2

/-- The manager hears that the group is opened and that it has escalated. -/
def escalatingCalls : List Call :=
  [.call (.applyEvent ⟨.new, none⟩
      (buildBlockingWarningEvent ⟨"e-1", 0, 0, 600000000, "rt", "runtime", 1, .other "" []⟩
        (buildPayload criticalGroup .opened 2)) (some 1)),
    .call (.applyEvent ⟨.new, none⟩
      (buildBlockingWarningEvent ⟨"e-2", 2, 2, 2500000000, "rt", "runtime", 1, .other "" []⟩
        (buildPayload frozenGroup .escalated 3)) (some 2))]

theorem not_escalates_group :
    ¬ AllSteps callStep Escalates
      (start "rt" [blockingWarningGroupDetector shortText] {}
        fun n => String.ofList (List.replicate n 'f')) escalatingCalls := by
  intro h
  have hsecond := (h.2 _ rfl).1.1
  have hreflected := (hsecond.1 _ rfl).1
  obtain ⟨w, hw⟩ := hreflected (by decide)
  -- The manager has the severity of the first event, the second trigger is more severe.
  have hfiled : some WarningSeverity.error = some w.severity :=
    congrArg (Option.map WarningLifecycle.severity) hw.filed
  have hsevere : severityRank .critical ≤ severityRank w.severity := hw.severe
  rw [← Option.some.inj hfiled] at hsevere
  exact absurd hsevere (by decide)

end RuntimeWarningManager.Run

end AsyncViz.Runtime.Warnings
