import EdgeMonitor.Base.Table
import EdgeMonitor.Base.Session
import EdgeMonitor.Base.Json
import EdgeMonitor.Backend.AlertDomain

/-!
# The database

Library `Backend`. The tables of `backend/database/schema.sql` with their keys, checks and
unique indexes. A column that holds JSON text is the value it was dumped from.
-/

namespace EdgeMonitor.Backend
open EdgeMonitor.Base

/-! ### Rows -/

/-- A row of `telemetry`, `schema.sql:1–9`. -/
structure TelemetryRow where
  id : Nat
  deviceId : Text
  timestamp : Text
  temperature : ℚ
  humidity : ℚ
  machineStatus : Text

/-- A row of `devices`, `schema.sql:11–18`. -/
structure DeviceRow where
  deviceId : Text
  reportedAvailability : Text
  lastSeen : Option Instant
  availabilityUpdatedAt : Option Instant

/-- A row of `device_health_current`, `schema.sql:20–32`. -/
structure DeviceHealthRow where
  deviceId : Text
  payload : Json
  deviceTimestamp : Option Text
  status : Text
  availability : Text
  components : Json
  counters : Json
  metrics : Json
  receivedAt : Instant

/-- A row of `alert_rules`, `schema.sql:39–55`. -/
structure AlertRule where
  id : Nat
  name : Text
  deviceId : Text
  metric : AlertMetric
  operator : AlertOperator
  threshold : ℚ
  durationSeconds : Int
  hysteresis : ℚ
  severity : AlertSeverity
  enabled : Bool
  createdAt : Instant
  updatedAt : Instant
  archivedAt : Option Instant

/-- A row of `alert_rule_states`, `schema.sql:57–67`. -/
structure AlertRuleState where
  ruleId : Nat
  state : RuleRuntimeState
  pendingSince : Option Instant
  pendingExtremeValue : Option ℚ
  lastEvaluatedAt : Option Instant
  lastValue : Option ℚ
  lastTelemetryId : Option Int

/-- A row of `alert_events`, `schema.sql:69–95`. -/
structure AlertEvent where
  id : Nat
  ruleId : Nat
  deviceId : Text
  ruleName : Text
  metric : AlertMetric
  operator : AlertOperator
  threshold : ℚ
  hysteresis : ℚ
  durationSeconds : Int
  severity : AlertSeverity
  status : AlertEventStatus
  startedAt : Instant
  activatedAt : Instant
  resolvedAt : Option Instant
  resolutionReason : Option ResolutionReason
  activationValue : ℚ
  lastValue : ℚ
  extremeValue : ℚ

/-- The `CHECK` constraints of `alert_rules` that its column types do not express. SQL's
`trim` removes spaces only, and its `length` stops at a NUL. -/
def AlertRule.checks (rule : AlertRule) : Bool :=
  let length := ((rule.name.stripWith (· == 0x20)).takeWhile (· != 0)).length
  1 ≤ length && length ≤ 100 && 0 ≤ rule.durationSeconds && 0 ≤ rule.hysteresis
    && (rule.archivedAt.isNone || !rule.enabled)

/-- Two rows that `idx_alert_rules_active_name` does not allow together. -/
def AlertRule.sameActiveName (a b : AlertRule) : Bool :=
  a.id != b.id && a.archivedAt.isNone && b.archivedAt.isNone && a.deviceId == b.deviceId
    && a.name == b.name

/-! ### Events -/

/-- An event of the rule that is not resolved. -/
def AlertEvent.activeFor (ruleId : Nat) (event : AlertEvent) : Bool :=
  event.ruleId == ruleId && event.status == .active

@[simp] theorem AlertEvent.activeFor_iff (ruleId : Nat) (event : AlertEvent) :
    event.activeFor ruleId = true ↔ event.ruleId = ruleId ∧ event.status = .active := by
  simp [AlertEvent.activeFor]

/-- The table `alert_events`, with `idx_alert_events_one_active_per_rule`. -/
structure AlertEvents extends Table.Sequenced AlertEvent.id where
  one_active : ∀ a ∈ rows, ∀ b ∈ rows, a.status = .active → b.status = .active →
    a.ruleId = b.ruleId → a = b

namespace AlertEvents

/-- The table without rows. -/
def empty : AlertEvents where
  toSequenced := .empty
  one_active := by
    intro a ha
    cases ha

/-- The active event of a rule. -/
def active (t : AlertEvents) (ruleId : Nat) : Option AlertEvent :=
  t.rows.find? (·.activeFor ruleId)

theorem active_eq_some_iff (t : AlertEvents) (ruleId : Nat) (e : AlertEvent) :
    t.active ruleId = some e ↔ e ∈ t.rows ∧ e.ruleId = ruleId ∧ e.status = .active := by
  constructor
  · intro h
    exact ⟨List.mem_of_find?_eq_some h, (e.activeFor_iff ruleId).mp (List.find?_some h)⟩
  · rintro ⟨he, hr, hs⟩
    cases hf : t.active ruleId with
    | none =>
      have hn := List.find?_eq_none.mp hf e he
      exact absurd ((e.activeFor_iff ruleId).mpr ⟨hr, hs⟩) hn
    | some e' =>
      obtain ⟨hr', hs'⟩ := (e'.activeFor_iff ruleId).mp (List.find?_some hf)
      rw [t.one_active e' (List.mem_of_find?_eq_some hf) e he hs' hs (hr'.trans hr.symm)]

theorem active_eq_none_iff (t : AlertEvents) (ruleId : Nat) :
    t.active ruleId = none ↔ ∀ e ∈ t.rows, e.ruleId = ruleId → e.status ≠ .active := by
  simp [active, AlertEvent.activeFor]

/-- Exactly one row is active for a rule if and only if there is an active one. -/
theorem active_isSome_iff (t : AlertEvents) (ruleId : Nat) :
    (t.active ruleId).isSome ↔ (t.rows.filter (·.activeFor ruleId)).length = 1 := by
  have hnodup : (t.rows.filter (·.activeFor ruleId)).Nodup :=
    (List.Nodup.of_map _ t.keys_nodup).filter _
  cases h : t.active ruleId with
  | none =>
    have hnil : t.rows.filter (·.activeFor ruleId) = [] :=
      List.filter_eq_nil_iff.mpr (List.find?_eq_none.mp h)
    simp [hnil]
  | some e =>
    obtain ⟨he, hr, hs⟩ := (t.active_eq_some_iff ruleId e).mp h
    have hall : ∀ e' ∈ t.rows.filter (·.activeFor ruleId), e' = e := by
      intro e' he'
      obtain ⟨hm, ha⟩ := List.mem_filter.mp he'
      obtain ⟨hr', hs'⟩ := (e'.activeFor_iff ruleId).mp ha
      exact t.one_active e' hm e he hs' hs (hr'.trans hr.symm)
    have hmem : e ∈ t.rows.filter (·.activeFor ruleId) :=
      List.mem_filter.mpr ⟨he, (e.activeFor_iff ruleId).mpr ⟨hr, hs⟩⟩
    have hlen : (t.rows.filter (·.activeFor ruleId)).length = 1 := by
      refine le_antisymm ?_ (List.length_pos_of_mem hmem)
      rw [List.eq_replicate_of_mem hall] at hnodup
      exact List.nodup_replicate.mp hnodup
    simp [hlen]

/-- Add an active event for a rule that has none. -/
def insert (t : AlertEvents) (row : Nat → AlertEvent) (hid : ∀ n, (row n).id = n)
    (ruleId : Nat) (hrule : ∀ n, (row n).ruleId = ruleId) (h : t.active ruleId = none) :
    AlertEvents where
  toSequenced := t.toSequenced.insert row hid
  one_active := by
    have hnew : ∀ a ∈ t.rows, ∀ n, a.status = .active → a.ruleId ≠ (row n).ruleId := by
      intro a ha n hs hr
      exact (t.active_eq_none_iff ruleId).mp h a ha (hr.trans (hrule n)) hs
    intro a ha b hb has hbs hab
    rcases List.mem_append.mp ha with ha | ha <;> rcases List.mem_append.mp hb with hb | hb
    · exact t.one_active a ha b hb has hbs hab
    · cases List.mem_singleton.mp hb
      exact absurd hab (hnew a ha _ has)
    · cases List.mem_singleton.mp ha
      exact absurd hab.symm (hnew b hb _ hbs)
    · rw [List.mem_singleton.mp ha, List.mem_singleton.mp hb]

/-- Change the events that meet a condition; no event becomes active. -/
def update (t : AlertEvents) (p : AlertEvent → Bool) (f : AlertEvent → AlertEvent)
    (hid : ∀ e, (f e).id = e.id) (hrule : ∀ e, (f e).ruleId = e.ruleId)
    (hstatus : ∀ e, (f e).status = .active → e.status = .active) : AlertEvents where
  toSequenced := t.toSequenced.update p f hid
  one_active := by
    have hkept (e : AlertEvent) : (if p e then f e else e).ruleId = e.ruleId ∧
        ((if p e then f e else e).status = .active → e.status = .active) := by
      split
      · exact ⟨hrule e, hstatus e⟩
      · exact ⟨rfl, id⟩
    intro a ha b hb has hbs hab
    obtain ⟨a', ha', rfl⟩ := List.mem_map.mp ha
    obtain ⟨b', hb', rfl⟩ := List.mem_map.mp hb
    rw [(hkept a').1, (hkept b').1] at hab
    rw [t.one_active a' ha' b' hb' ((hkept a').2 has) ((hkept b').2 hbs) hab]

section Update

variable {t : AlertEvents} {p : AlertEvent → Bool} {f : AlertEvent → AlertEvent}
  {hid : ∀ e, (f e).id = e.id} {hrule : ∀ e, (f e).ruleId = e.ruleId}
  {hstatus : ∀ e, (f e).status = .active → e.status = .active}

@[simp] theorem rows_update :
    (t.update p f hid hrule hstatus).rows = t.rows.map fun e ↦ if p e then f e else e := rfl

/-- The active event of a rule after an update is what the update makes of the one before,
if that stays active. -/
theorem active_update (ruleId : Nat) :
    (t.update p f hid hrule hstatus).active ruleId =
      ((t.active ruleId).map fun e ↦ if p e then f e else e).filter (·.status == .active) := by
  have hkept (e : AlertEvent) : (if p e then f e else e).ruleId = e.ruleId ∧
      ((if p e then f e else e).status = .active → e.status = .active) := by
    split
    · exact ⟨hrule e, hstatus e⟩
    · exact ⟨rfl, id⟩
  cases h : t.active ruleId with
  | none =>
    refine (active_eq_none_iff _ _).mpr fun e he hr hs ↦ ?_
    obtain ⟨e', he', rfl⟩ := List.mem_map.mp he
    exact (t.active_eq_none_iff ruleId).mp h e' he' ((hkept e').1.symm.trans hr) ((hkept e').2 hs)
  | some e =>
    obtain ⟨he, hr, hs⟩ := (t.active_eq_some_iff ruleId e).mp h
    have hmem : (if p e then f e else e) ∈ (t.update p f hid hrule hstatus).rows :=
      List.mem_map.mpr ⟨e, he, rfl⟩
    by_cases hact : (if p e then f e else e).status = .active
    · simp only [Option.map_some, Option.filter_some, hact, beq_self_eq_true, if_true]
      exact (active_eq_some_iff _ _ _).mpr ⟨hmem, (hkept e).1.trans hr, hact⟩
    · simp only [Option.map_some, Option.filter_some, beq_eq_false_iff_ne.mpr hact,
        Bool.false_eq_true, if_false]
      refine (active_eq_none_iff _ _).mpr fun e₂ he₂ hr₂ hs₂ ↦ ?_
      obtain ⟨e', he', rfl⟩ := List.mem_map.mp he₂
      obtain rfl := t.one_active e' he' e he ((hkept e').2 hs₂) hs
        ((hkept e').1.symm.trans (hr₂.trans hr.symm))
      exact hact hs₂

end Update

/-- After an insertion the new event is the active one of its rule, and the others are as
before. -/
theorem active_insert (t : AlertEvents) (row : Nat → AlertEvent) (hid : ∀ n, (row n).id = n)
    (ruleId : Nat) (hrule : ∀ n, (row n).ruleId = ruleId) (h : t.active ruleId = none)
    (hs : (row (t.sequence + 1)).status = .active) (id : Nat) :
    (t.insert row hid ruleId hrule h).active id =
      if id = ruleId then some (row (t.sequence + 1)) else t.active id := by
  have hrows : (t.insert row hid ruleId hrule h).rows = t.rows ++ [row (t.sequence + 1)] := rfl
  split
  · next hi =>
    refine (active_eq_some_iff _ _ _).mpr ⟨?_, (hrule _).trans hi.symm, hs⟩
    rw [hrows]
    exact List.mem_append_right _ List.mem_cons_self
  · next hi =>
    have hne : (row (t.sequence + 1)).activeFor id = false := by
      simp [AlertEvent.activeFor, hrule, Ne.symm hi]
    rw [active, hrows, List.find?_append, List.find?_singleton, hne]
    simp [active]

end AlertEvents

/-! ### The database -/

/-- The tables of `schema.sql`. -/
structure Database where
  telemetry : Table.Sequenced TelemetryRow.id
  devices : Table DeviceRow.deviceId
  deviceHealthCurrent : Table DeviceHealthRow.deviceId
  alertRules : Table.Sequenced AlertRule.id
  alertRuleStates : Table AlertRuleState.ruleId
  alertEvents : AlertEvents

/-- A freshly initialised database. -/
def Database.empty : Database := ⟨.empty, .empty, .empty, .empty, .empty, .empty⟩

/-- The Python exceptions of the modelled functions. -/
inductive PyError where
  | runtimeError (ruleId : Nat)
  | integrityError
  | typeError
  | valueError
  | validationError
  | attributeError
  | overflowError
  | httpException (statusCode : Nat) (detail : String)
  deriving DecidableEq

end EdgeMonitor.Backend
