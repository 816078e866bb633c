import EdgeMonitor.Backend.Database

/-!
# The alert repository

Library `Backend`. The queries and statements of `backend/repositories/alert_repository.py`.
A statement that breaks a constraint raises `IntegrityError`.
-/

namespace EdgeMonitor.Backend
open EdgeMonitor.Base

/-- A row of `RULE_SELECT`, `alert_repository.py:6–11`: a rule with its runtime state. -/
structure RuleRow extends AlertRule where
  runtimeState : RuleRuntimeState
  pendingSince : Option Instant
  lastEvaluatedAt : Option Instant
  pendingExtremeValue : Option ℚ
  lastValue : Option ℚ
  lastTelemetryId : Option Int

/-- The fields of `AlertRuleDefinition`, `alert_schemas.py:29–40`. -/
structure AlertRuleDefinition where
  name : Text
  deviceId : Text
  metric : AlertMetric
  operator : AlertOperator
  threshold : ℚ
  durationSeconds : Int
  hysteresis : ℚ
  severity : AlertSeverity
  enabled : Bool

/-- The fields of `AlertRulePatch` that are set and not null, `alert_schemas.py:73–83`. -/
structure AlertRulePatch where
  name : Option Text
  metric : Option AlertMetric
  operator : Option AlertOperator
  threshold : Option ℚ
  durationSeconds : Option Int
  hysteresis : Option ℚ
  severity : Option AlertSeverity
  enabled : Option Bool
  deriving DecidableEq

/-- The patch that sets nothing. -/
def AlertRulePatch.empty : AlertRulePatch := ⟨none, none, none, none, none, none, none, none⟩

namespace AlertRepository

/-! ### Queries -/

/-- A row of the join of a rule with its state. -/
def ruleRow (rule : AlertRule) (state : AlertRuleState) : RuleRow where
  toAlertRule := rule
  runtimeState := state.state
  pendingSince := state.pendingSince
  lastEvaluatedAt := state.lastEvaluatedAt
  pendingExtremeValue := state.pendingExtremeValue
  lastValue := state.lastValue
  lastTelemetryId := state.lastTelemetryId

/-- `RULE_SELECT`. -/
def ruleSelect (db : Database) : List RuleRow :=
  db.alertRules.rows.filterMap fun rule ↦ (db.alertRuleStates.find rule.id).map (ruleRow rule)

/-- `device_exists`, `alert_repository.py:14–19`. -/
def deviceExists (deviceId : Text) (db : Database) : Bool := (db.devices.find deviceId).isSome

/-- `fetch_rule`, `alert_repository.py:53–59`. -/
def fetchRule (ruleId : Nat) (db : Database) : Option RuleRow :=
  (ruleSelect db).find? (·.id == ruleId)

/-- `fetch_enabled_rules_for_device`, `alert_repository.py:196–207`. -/
def fetchEnabledRulesForDevice (deviceId : Text) (db : Database) : List RuleRow :=
  ((ruleSelect db).filter fun r ↦
      r.deviceId == deviceId && r.enabled && r.archivedAt.isNone).insertionSort (·.id ≤ ·.id)

/-- `fetch_active_event`, `alert_repository.py:277–286`. -/
def fetchActiveEvent (ruleId : Nat) (db : Database) : Option AlertEvent :=
  db.alertEvents.active ruleId

/-! ### Statements on rules -/

/-- Insert or change a row of `alert_rules` within its constraints. -/
def checkRule (db : Database) (rule : AlertRule) : Except PyError Unit :=
  if rule.checks && (db.alertRules.rows.all fun other ↦ !rule.sameActiveName other) then .ok ()
  else .error .integrityError

/-- The row that `create_rule` inserts, under its id. -/
def newRule (payload : AlertRuleDefinition) (timestamp : Instant) (id : Nat) : AlertRule where
  id
  name := payload.name
  deviceId := payload.deviceId
  metric := payload.metric
  operator := payload.operator
  threshold := payload.threshold
  durationSeconds := payload.durationSeconds
  hysteresis := payload.hysteresis
  severity := payload.severity
  enabled := payload.enabled
  createdAt := timestamp
  updatedAt := timestamp
  archivedAt := none

/-- The first statement of `create_rule`, `alert_repository.py:24–46`; it returns the id. -/
def insertRule (payload : AlertRuleDefinition) (timestamp : Instant) (db : Database) :
    Except PyError (Database × Nat) := do
  let id := db.alertRules.sequence + 1
  checkRule db (newRule payload timestamp id)
  if deviceExists payload.deviceId db then
    return ({ db with alertRules := db.alertRules.insert (newRule payload timestamp) fun _ ↦ rfl },
      id)
  else throw .integrityError

/-- The state of a rule that has not been evaluated. -/
def freshState (ruleId : Nat) : AlertRuleState := ⟨ruleId, .normal, none, none, none, none, none⟩

/-- The second statement of `create_rule`, `alert_repository.py:46–49`. -/
def insertRuleState (ruleId : Nat) (db : Database) : Except PyError Database :=
  match db.alertRuleStates.insert (freshState ruleId) with
  | some alertRuleStates => .ok { db with alertRuleStates }
  | none => .error .integrityError

/-- The columns that `update_rule_and_runtime` sets. -/
def patchRule (payload : AlertRulePatch) (timestamp : Instant) (rule : AlertRule) : AlertRule where
  id := rule.id
  name := payload.name.getD rule.name
  deviceId := rule.deviceId
  metric := payload.metric.getD rule.metric
  operator := payload.operator.getD rule.operator
  threshold := payload.threshold.getD rule.threshold
  durationSeconds := payload.durationSeconds.getD rule.durationSeconds
  hysteresis := payload.hysteresis.getD rule.hysteresis
  severity := payload.severity.getD rule.severity
  enabled := payload.enabled.getD rule.enabled
  createdAt := rule.createdAt
  updatedAt := timestamp
  archivedAt := rule.archivedAt

/-- The first statement of `update_rule_and_runtime`, `alert_repository.py:89–98`. -/
def updateRule (ruleId : Nat) (payload : AlertRulePatch) (timestamp : Instant) (db : Database) :
    Except PyError Database := do
  match db.alertRules.find ruleId with
  | none => return db
  | some rule =>
    checkRule db (patchRule payload timestamp rule)
    return { db with
      alertRules := db.alertRules.update (·.id == ruleId) (patchRule payload timestamp) fun _ ↦ rfl }

/-- A rule that is archived at an instant. -/
def archived (timestamp : Instant) (rule : AlertRule) : AlertRule :=
  { rule with enabled := false, archivedAt := some timestamp, updatedAt := timestamp }

/-- The first statement of `archive_rule`, `alert_repository.py:126–133`; it returns the row
count. -/
def archiveRuleRow (ruleId : Nat) (timestamp : Instant) (db : Database) :
    Except PyError (Database × Nat) :=
  let meets (rule : AlertRule) := rule.id == ruleId && rule.archivedAt.isNone
  .ok ({ db with
      alertRules := db.alertRules.update meets (archived timestamp) fun _ ↦ rfl },
    (db.alertRules.rows.filter meets).length)

/-! ### Statements on states and events -/

/-- `update_runtime_state`, `alert_repository.py:210–238`, with the row that it sets. -/
def updateRuntimeState (state : AlertRuleState) (db : Database) : Except PyError Database :=
  .ok { db with
    alertRuleStates := db.alertRuleStates.update (·.ruleId == state.ruleId)
      (fun s ↦ { state with ruleId := s.ruleId }) fun _ ↦ rfl }

/-- The statement of `update_rule_and_runtime` and `archive_rule` that resets the state,
`alert_repository.py:109–119, 143–154`. -/
def resetRuntimeState (ruleId : Nat) : Database → Except PyError Database :=
  updateRuntimeState (freshState ruleId)

/-- The row that `create_event` inserts, under its id. -/
def newEvent (rule : RuleRow) (startedAt activatedAt : Instant) (value extremeValue : ℚ)
    (id : Nat) : AlertEvent where
  id
  ruleId := rule.id
  deviceId := rule.deviceId
  ruleName := rule.name
  metric := rule.metric
  operator := rule.operator
  threshold := rule.threshold
  hysteresis := rule.hysteresis
  durationSeconds := rule.durationSeconds
  severity := rule.severity
  status := .active
  startedAt
  activatedAt
  resolvedAt := none
  resolutionReason := none
  activationValue := value
  lastValue := value
  extremeValue

/-- `create_event`, `alert_repository.py:241–274`. -/
def createEvent (rule : RuleRow) (startedAt activatedAt : Instant) (value extremeValue : ℚ)
    (db : Database) : Except PyError Database :=
  if h : (db.alertRules.find rule.id).isSome ∧ db.alertEvents.active rule.id = none then
    .ok { db with
      alertEvents := db.alertEvents.insert (newEvent rule startedAt activatedAt value extremeValue)
        (fun _ ↦ rfl) rule.id (fun _ ↦ rfl) h.2 }
  else .error .integrityError

/-- `update_active_event`, `alert_repository.py:289–299`. -/
def updateActiveEvent (eventId : Nat) (lastValue extremeValue : ℚ) (db : Database) :
    Except PyError Database :=
  .ok { db with
    alertEvents := db.alertEvents.update (·.id == eventId)
      (fun e ↦ { e with lastValue, extremeValue }) (fun _ ↦ rfl) (fun _ ↦ rfl) fun _ ↦ id }

/-- `resolve_active_event`, `alert_repository.py:302–318`. -/
def resolveActiveEvent (eventId : Nat) (resolvedAt : Instant) (lastValue : ℚ)
    (reason : ResolutionReason) (db : Database) : Except PyError Database :=
  .ok { db with
    alertEvents := db.alertEvents.update (fun e ↦ e.id == eventId && e.status == .active)
      (fun e ↦ { e with
        status := .resolved, resolvedAt := some resolvedAt, resolutionReason := some reason
        lastValue })
      (fun _ ↦ rfl) (fun _ ↦ rfl) (by simp) }

/-- The statement of `update_rule_and_runtime` and `archive_rule` that resolves the events of
a rule, `alert_repository.py:99–108, 134–142`. -/
def resolveEvents (ruleId : Nat) (timestamp : Instant) (reason : ResolutionReason)
    (db : Database) : Except PyError Database :=
  .ok { db with
    alertEvents := db.alertEvents.update (·.activeFor ruleId)
      (fun e ↦ { e with
        status := .resolved, resolvedAt := some timestamp, resolutionReason := some reason })
      (fun _ ↦ rfl) (fun _ ↦ rfl) (by simp) }

/-! ### Transactions -/

/-- `create_rule`, `alert_repository.py:22–50`. -/
def createRule (payload : AlertRuleDefinition) (timestamp : Instant) :
    Session Database PyError (Option RuleRow) := do
  let ruleId ← Session.withConnection do
    let ruleId ← Block.statement (insertRule payload timestamp) .done
    Block.execute (insertRuleState ruleId)
    return ruleId
  Session.withConnection (Block.select (fetchRule ruleId))

/-- `update_rule_and_runtime`, `alert_repository.py:82–121`. -/
def updateRuleAndRuntime (ruleId : Nat) (payload : AlertRulePatch) (timestamp : Instant)
    (resetRuntime : Bool) (resolutionReason : Option ResolutionReason) :
    Session Database PyError (Option RuleRow) := do
  Session.withConnection do
    Block.execute (updateRule ruleId payload timestamp)
    match resolutionReason with
    | some reason => Block.execute (resolveEvents ruleId timestamp reason)
    | none => pure ()
    if resetRuntime then Block.execute (resetRuntimeState ruleId) else pure ()
  Session.withConnection (Block.select (fetchRule ruleId))

/-- `archive_rule`, `alert_repository.py:124–154`. -/
def archiveRule (ruleId : Nat) (timestamp : Instant) : Session Database PyError Unit :=
  Session.withConnection do
    let rowcount ← Block.statement (archiveRuleRow ruleId timestamp) .done
    if rowcount = 0 then return ()
    else
      Block.execute (resolveEvents ruleId timestamp .ruleArchived)
      Block.execute (resetRuntimeState ruleId)

end AlertRepository

end EdgeMonitor.Backend
