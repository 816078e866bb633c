import EdgeMonitor.Base.Text

/-!
# The alert domain

Library `Backend`. The types and the predicates of `backend/domain/alerts.py`. Numbers are
exact rationals. A UTC timestamp is the instant that its ISO text stands for, in
microseconds since the epoch.
-/

namespace EdgeMonitor.Backend
open EdgeMonitor.Base

/-- A UTC instant in microseconds. -/
abbrev Instant := Int

inductive AlertMetric where
  | temperature
  | humidity
  deriving DecidableEq, Repr

inductive AlertOperator where
  | greaterThan
  | lessThan
  deriving DecidableEq, Repr

inductive AlertSeverity where
  | info
  | warning
  | critical
  deriving DecidableEq, Repr

inductive RuleRuntimeState where
  | normal
  | pending
  | active
  deriving DecidableEq, Repr

inductive AlertEventStatus where
  | active
  | resolved
  deriving DecidableEq, Repr

inductive ResolutionReason where
  | conditionRecovered
  | ruleDisabled
  | ruleUpdated
  | ruleArchived
  deriving DecidableEq, Repr

/-- `RuleCondition`, `alerts.py:19–24`. -/
structure RuleCondition where
  metric : AlertMetric
  operator : AlertOperator
  threshold : ℚ
  hysteresis : ℚ

/-- `is_violation`, `alerts.py:27–30`. -/
def isViolation (condition : RuleCondition) (value : ℚ) : Bool :=
  match condition.operator with
  | .greaterThan => value > condition.threshold
  | .lessThan => value < condition.threshold

/-- `is_recovery`, `alerts.py:33–36`. -/
def isRecovery (condition : RuleCondition) (value : ℚ) : Bool :=
  match condition.operator with
  | .greaterThan => value ≤ condition.threshold - condition.hysteresis
  | .lessThan => value ≥ condition.threshold + condition.hysteresis

/-- `update_extreme`, `alerts.py:39–40`. -/
def updateExtreme (operator : AlertOperator) (current value : ℚ) : ℚ :=
  match operator with
  | .greaterThan => max current value
  | .lessThan => min current value

/-- The part of a stored telemetry sample that alert evaluation reads. -/
structure Sample where
  id : Int
  deviceId : Text
  timestamp : Instant
  temperature : ℚ
  humidity : ℚ

/-- `telemetry_metric_value`, `alerts.py:43–48`. -/
def telemetryMetricValue (sample : Sample) : AlertMetric → ℚ
  | .temperature => sample.temperature
  | .humidity => sample.humidity

/-- With a hysteresis that is not negative, a value that recovers does not violate. -/
theorem not_violation_of_recovery {condition : RuleCondition} {value : ℚ}
    (hh : 0 ≤ condition.hysteresis) (h : isRecovery condition value = true) :
    isViolation condition value = false := by
  unfold isRecovery at h
  unfold isViolation
  cases ho : condition.operator with
  | greaterThan =>
    simp only [ho, decide_eq_true_eq, decide_eq_false_iff_not, not_lt, gt_iff_lt] at h ⊢
    linarith
  | lessThan =>
    simp only [ho, decide_eq_true_eq, decide_eq_false_iff_not, not_lt, ge_iff_le] at h ⊢
    linarith

end EdgeMonitor.Backend
