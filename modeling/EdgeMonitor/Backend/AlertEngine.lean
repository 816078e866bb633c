import EdgeMonitor.Backend.AlertRepository

/-!
# The alert engine

Library `Backend`. `AlertEngine.evaluate` of `backend/services/alert_engine.py` as a session
on the database. Its rules are read before its first statement.
-/

namespace EdgeMonitor.Backend
open EdgeMonitor.Base

namespace AlertEngine
open AlertRepository

/-- The condition of a rule, `alert_engine.py:82–87`. -/
def ruleCondition (rule : RuleRow) : RuleCondition :=
  ⟨rule.metric, rule.operator, rule.threshold, rule.hysteresis⟩

/-- The call of `update_runtime_state` that ends every evaluation,
`alert_engine.py:171–180`. -/
def updateState (sample : Sample) (rule : RuleRow) (nextState : RuleRuntimeState)
    (pendingSince : Option Instant) (pendingExtreme : Option ℚ) : Block Database PyError Unit :=
  Block.execute (updateRuntimeState
    { ruleId := rule.id
      state := nextState
      pendingSince
      pendingExtremeValue := pendingExtreme
      lastEvaluatedAt := some sample.timestamp
      lastValue := some (telemetryMetricValue sample rule.metric)
      lastTelemetryId := some sample.id })

/-- The evaluation of a rule that is active, with what `fetch_active_event` returned,
`alert_engine.py:136–169`. -/
def evaluateActive (sample : Sample) (rule : RuleRow) :
    Option AlertEvent → Block Database PyError Unit
  | none => .raise (.runtimeError rule.id)
  | some event =>
    let value := telemetryMetricValue sample rule.metric
    let extreme := updateExtreme rule.operator event.extremeValue value
    if isRecovery (ruleCondition rule) value then do
      Block.execute (resolveActiveEvent event.id sample.timestamp value .conditionRecovered)
      updateState sample rule .normal none none
    else do
      Block.execute (updateActiveEvent event.id value extreme)
      updateState sample rule .active none none

/-- `AlertEngine._evaluate_rule`, `alert_engine.py:36–200`. -/
def evaluateRule (sample : Sample) (rule : RuleRow) : Block Database PyError Unit :=
  let value := telemetryMetricValue sample rule.metric
  if rule.lastTelemetryId = some sample.id then pure ()
  else if rule.lastEvaluatedAt.any (sample.timestamp ≤ ·) then pure ()
  else
    let violation := isViolation (ruleCondition rule) value
    match rule.runtimeState with
    | .normal =>
      if violation ∧ rule.durationSeconds = 0 then do
        Block.execute (createEvent rule sample.timestamp sample.timestamp value value)
        updateState sample rule .active none none
      else if violation then
        updateState sample rule .pending (some sample.timestamp) (some value)
      else updateState sample rule .normal none none
    | .pending =>
      if !violation then updateState sample rule .normal none none
      else
        match rule.pendingExtremeValue <|> rule.lastValue, rule.pendingSince with
        | some current, some since =>
          let extreme := updateExtreme rule.operator current value
          -- `total_seconds` against whole seconds, in microseconds.
          if sample.timestamp - since ≥ rule.durationSeconds * 1000000 then do
            Block.execute (createEvent rule since sample.timestamp value extreme)
            updateState sample rule .active none none
          else updateState sample rule .pending (some since) (some extreme)
        | _, _ => .raise .typeError
    | .active => Block.select (fetchActiveEvent rule.id) >>= evaluateActive sample rule

/-- The loop of `evaluate` over the rules that it has read. -/
def evaluateRules (sample : Sample) (rules : List RuleRow) : Block Database PyError Unit :=
  rules.forM (evaluateRule sample)

/-- `AlertEngine.evaluate`, `alert_engine.py:18–34`. -/
def evaluate (sample : Sample) : Session Database PyError Unit :=
  Session.withConnection
    (Block.select (fetchEnabledRulesForDevice sample.deviceId) >>= evaluateRules sample)

/-! ### What it leaves as it is -/

/-- The tables that alert evaluation only reads. -/
def measured (db : Database) : Table.Sequenced TelemetryRow.id × Table DeviceRow.deviceId ×
    Table DeviceHealthRow.deviceId × Table.Sequenced AlertRule.id :=
  (db.telemetry, db.devices, db.deviceHealthCurrent, db.alertRules)

theorem keeps_updateState (sample : Sample) (rule : RuleRow) (nextState : RuleRuntimeState)
    (pendingSince : Option Instant) (pendingExtreme : Option ℚ) :
    (updateState sample rule nextState pendingSince pendingExtreme).Keeps measured := by
  apply Block.keeps_execute
  intro db db' h
  cases h
  rfl

theorem keeps_createEvent (rule : RuleRow) (startedAt activatedAt : Instant)
    (value extremeValue : ℚ) :
    (Block.execute (createEvent rule startedAt activatedAt value extremeValue)).Keeps measured := by
  apply Block.keeps_execute
  intro db db' h
  rw [createEvent] at h
  split at h
  · cases h
    rfl
  · cases h

theorem keeps_evaluateActive (sample : Sample) (rule : RuleRow) (event : Option AlertEvent) :
    (evaluateActive sample rule event).Keeps measured := by
  cases event with
  | none => trivial
  | some event =>
    rw [evaluateActive]
    split
    · apply Block.Keeps.bind
      · apply Block.keeps_execute
        intro db db' h
        cases h
        rfl
      · exact fun _ ↦ keeps_updateState ..
    · apply Block.Keeps.bind
      · apply Block.keeps_execute
        intro db db' h
        cases h
        rfl
      · exact fun _ ↦ keeps_updateState ..

theorem keeps_evaluateRule (sample : Sample) (rule : RuleRow) :
    (evaluateRule sample rule).Keeps measured := by
  unfold evaluateRule
  dsimp only
  split
  · trivial
  · split
    · trivial
    · cases rule.runtimeState with
      | normal =>
        dsimp only
        split
        · exact (keeps_createEvent ..).bind fun _ ↦ keeps_updateState ..
        · split
          · exact keeps_updateState ..
          · exact keeps_updateState ..
      | pending =>
        dsimp only
        split
        · exact keeps_updateState ..
        · split
          · split
            · exact (keeps_createEvent ..).bind fun _ ↦ keeps_updateState ..
            · exact keeps_updateState ..
          · trivial
      | active => exact (Block.keeps_select _).bind fun event ↦ keeps_evaluateActive ..

theorem keeps_evaluate (sample : Sample) :
    (Block.select (fetchEnabledRulesForDevice sample.deviceId) >>=
      evaluateRules sample).Keeps measured :=
  (Block.keeps_select _).bind fun rules ↦ Block.keeps_forM (keeps_evaluateRule sample) rules

/-- Alert evaluation changes the states and the events of rules only. -/
theorem measured_evaluate (sample : Sample) (db : Database) :
    measured ((evaluate sample).run db).2 = measured db := by
  rw [evaluate, Session.run_withConnection]
  split
  next h => exact (keeps_evaluate sample).eval h
  next => rfl

end AlertEngine

end EdgeMonitor.Backend
