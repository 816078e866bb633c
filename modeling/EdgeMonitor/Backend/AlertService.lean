import EdgeMonitor.Backend.AlertRepository
import EdgeMonitor.Backend.Validation

/-!
# The alert service

Library `Backend`. The rule commands of `backend/services/alert_service.py`, with the
validation of `backend/api/alert_schemas.py`. Every command is a session on the database;
its timestamp is what `_now` returned.
-/

namespace EdgeMonitor.Backend
open EdgeMonitor.Base

/-! ### Validation -/

/-- The limits of `validate_threshold_range`, `alert_schemas.py:55–66`. -/
def thresholdInRange (metric : AlertMetric) (threshold : ℚ) : Bool :=
  match metric with
  | .temperature => -40 ≤ threshold && threshold ≤ 85
  | .humidity => 0 ≤ threshold && threshold ≤ 100

/-- The name checks of `AlertRuleDefinition` and `AlertRulePatch`, `alert_schemas.py:32, 42–48`. -/
def validName (name : Text) : Bool :=
  1 ≤ name.length && name.length ≤ 100 && name.strip ≠ []

/-- `AlertRuleDefinition.model_validate`, `alert_schemas.py:29–66`. -/
def AlertRuleDefinition.modelValidate (d : AlertRuleDefinition) : Bool :=
  validName d.name && validateDeviceId d.deviceId && 0 ≤ d.durationSeconds && 0 ≤ d.hysteresis
    && thresholdInRange d.metric d.threshold

/-- The definition that `AlertRuleCreate` makes of accepted fields: its name is stripped. -/
def AlertRuleDefinition.normalize (d : AlertRuleDefinition) : AlertRuleDefinition :=
  { d with name := d.name.strip }

/-- The checks of `AlertRulePatch`, `alert_schemas.py:73–93`. -/
def AlertRulePatch.modelValidate (p : AlertRulePatch) : Bool :=
  p.name.all validName && p.durationSeconds.all (0 ≤ ·) && p.hysteresis.all (0 ≤ ·)

/-- The patch that `AlertRulePatch` makes of accepted fields: its name is stripped. -/
def AlertRulePatch.normalize (p : AlertRulePatch) : AlertRulePatch :=
  { p with name := p.name.map Text.strip }

/-- The definition of a stored rule. -/
def AlertRule.definition (rule : AlertRule) : AlertRuleDefinition where
  name := rule.name
  deviceId := rule.deviceId
  metric := rule.metric
  operator := rule.operator
  threshold := rule.threshold
  durationSeconds := rule.durationSeconds
  hysteresis := rule.hysteresis
  severity := rule.severity
  enabled := rule.enabled

namespace AlertService
open AlertRepository

/-- Handle an `IntegrityError`. -/
def onIntegrityError {α : Type} (s : Session Database PyError α) (statusCode : Nat)
    (detail : String) : Session Database PyError α :=
  s.tryCatch fun e ↦
    if e = .integrityError then .raise (.httpException statusCode detail) else .raise e

/-- `create_rule`, `alert_service.py:15–24`, of a request that `AlertRuleCreate` accepted. -/
def createRule (request : AlertRuleDefinition) (now : Instant) :
    Session Database PyError (Option RuleRow) := do
  let known ← Session.withConnection (Block.select (deviceExists request.deviceId))
  if !known then Session.raise (.httpException 404 "Device not found")
  else
    onIntegrityError (AlertRepository.createRule request now) 409
      "A rule with this name already exists for the device"

/-- `get_rule`, `alert_service.py:26–30`. -/
def getRule (ruleId : Nat) : Session Database PyError RuleRow := do
  match ← Session.withConnection (Block.select (fetchRule ruleId)) with
  | none => Session.raise (.httpException 404 "Alert rule not found")
  | some rule => return rule

/-- `merged`, `alert_service.py:64–67`. -/
def merged (request : AlertRulePatch) (current : RuleRow) : AlertRuleDefinition :=
  (patchRule request current.updatedAt current.toAlertRule).definition

/-- `substantial_change`, `alert_service.py:70–80`. -/
def substantialChange (request : AlertRulePatch) (current : RuleRow) : Bool :=
  request.metric.any (· ≠ current.metric) || request.operator.any (· ≠ current.operator)
    || request.threshold.any (· ≠ current.threshold)
    || request.durationSeconds.any (· ≠ current.durationSeconds)
    || request.hysteresis.any (· ≠ current.hysteresis)

/-- `disabling`, `alert_service.py:81–84`. -/
def disabling (request : AlertRulePatch) (current : RuleRow) : Bool :=
  request.enabled == some false && current.enabled

/-- `reset_runtime`, `alert_service.py:85`. -/
def resetRuntime (request : AlertRulePatch) (current : RuleRow) : Bool :=
  substantialChange request current || disabling request current

/-- `resolution_reason`, `alert_service.py:86–90`. -/
def resolutionReason (request : AlertRulePatch) (current : RuleRow) : Option ResolutionReason :=
  if disabling request current then some .ruleDisabled
  else if substantialChange request current then some .ruleUpdated
  else none

/-- `update_rule`, `alert_service.py:44–103`, of a request that `AlertRulePatch` accepted. -/
def updateRule (ruleId : Nat) (request : AlertRulePatch) (now : Instant) :
    Session Database PyError (Option RuleRow) := do
  let current ← getRule ruleId
  if current.archivedAt.isSome then
    Session.raise (.httpException 404 "Alert rule not found")
  else if request = .empty then return some current
  else if !(merged request current).modelValidate then Session.raise .validationError
  else
    onIntegrityError
      (updateRuleAndRuntime ruleId request now (resetRuntime request current)
        (resolutionReason request current)) 409 "Rule update conflicts with an existing rule"

/-- `archive_rule`, `alert_service.py:105–109`. -/
def archiveRule (ruleId : Nat) (now : Instant) : Session Database PyError Unit := do
  let current ← getRule ruleId
  if current.archivedAt.isSome then
    Session.raise (.httpException 404 "Alert rule not found")
  else AlertRepository.archiveRule ruleId now

end AlertService

/-! ### The two processes -/

/-- The requests of the API process that change rules. -/
inductive RuleRequest where
  | create (request : AlertRuleDefinition) (now : Instant)
  | update (ruleId : Nat) (request : AlertRulePatch) (now : Instant)
  | archive (ruleId : Nat) (now : Instant)

/-- The session of a request. -/
def RuleRequest.session : RuleRequest → Session Database PyError Unit
  | create request now => do let _ ← AlertService.createRule request now
  | update ruleId request now => do let _ ← AlertService.updateRule ruleId request now
  | archive ruleId now => AlertService.archiveRule ruleId now

end EdgeMonitor.Backend
