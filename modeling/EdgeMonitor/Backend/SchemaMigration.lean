import EdgeMonitor.Backend.LegacySource
import EdgeMonitor.Base.Stages

/-!
# The schema migration

Library `Backend`. `_initialize_database` of `backend/database/init_db.py` statement by statement
on a database file of any of the shapes that it looks for, with the statements that commit at once
and the transactions that an interruption rolls back. A column that a table does not have is null
in all of its rows.
-/

namespace EdgeMonitor.Backend
open EdgeMonitor.Base

/-! ### Database files -/

/-- The columns that `init_db.py:159–166` adds to `device_health_current`. -/
inductive HealthColumn where
  | deviceTimestamp
  | status
  | availability
  | components
  | counters
  | metrics
  deriving DecidableEq

/-- The indexes of `schema.sql`. -/
inductive SchemaIndex where
  | telemetryDeviceTimestamp
  | devicesLastSeen
  | alertRulesDevice
  | alertRulesActiveName
  | alertRuleStatesState
  | alertEventsDeviceTime
  | alertEventsRuleTime
  | alertEventsStatus
  | alertEventsOneActivePerRule
  deriving DecidableEq

/-- The table `telemetry`. -/
structure TelemetryTable where
  hasDeviceId : Bool
  rows : Table.Sequenced OlderTelemetryRow.id

/-- A row of an older `device_health_current` table. -/
structure OlderHealthRow where
  deviceId : Text
  payload : Json
  receivedAt : Instant
  value : HealthColumn → Option Json

/-- The table `device_health_current`. -/
structure HealthTable where
  columns : HealthColumn → Bool
  rows : Table OlderHealthRow.deviceId
  absent : ∀ column, columns column = false → ∀ row ∈ rows.rows, row.value column = none

/-- The table `alert_rules`. Its table-level `UNIQUE(device_id, name)`, or the unique index in its
place, has kept the names of the active rules apart. -/
structure RulesTable where
  hasArchivedAt : Bool
  nameUnique : Bool
  rows : Table.Sequenced AlertRule.id
  absent : hasArchivedAt = false → ∀ rule ∈ rows.rows, rule.archivedAt = none
  names_apart : ∀ a ∈ rows.rows, ∀ b ∈ rows.rows, a.sameActiveName b = false

/-- The table `alert_rule_states`. -/
structure StatesTable where
  hasPendingExtremeValue : Bool
  rows : Table AlertRuleState.ruleId
  absent : hasPendingExtremeValue = false → ∀ row ∈ rows.rows, row.pendingExtremeValue = none

/-- The table `alert_events`, whose `CHECK` may not know the reason `rule_archived`. -/
structure EventsTable where
  knowsRuleArchived : Bool
  events : AlertEvents

/-- What a database file holds. -/
structure StoredDatabase where
  telemetry : Option TelemetryTable
  devices : Option (Table DeviceRow.deviceId)
  deviceHealthCurrent : Option HealthTable
  alertRules : Option RulesTable
  alertRulesNew : Option RulesTable
  alertRuleStates : Option StatesTable
  alertEvents : Option EventsTable
  alertEventsNew : Option EventsTable
  indexes : SchemaIndex → Bool

/-- Why a statement fails. -/
inductive SqlError where
  | operationalError
  | integrityError
  deriving DecidableEq

/-! ### Rebuilding the alert tables -/

/-- The sequence of a table that the rows were copied to with their keys. -/
def copySequence {α : Type} {key : α → Nat} (t : Table key) : Table.Sequenced key where
  toTable := t
  sequence := (t.rows.map key).foldr max ⊥
  key_le := fun _ ha ↦ List.le_max_of_le (List.mem_map_of_mem ha) le_rfl

/-- The table of `init_db.py:47–64` without rows. -/
def RulesTable.new : RulesTable := ⟨true, false, .empty, nofun, nofun⟩

/-- The table of `init_db.py:89–116` without rows. -/
def EventsTable.new : EventsTable := ⟨true, .empty⟩

/-- The rows in a new table, `init_db.py:72–82`. -/
def RulesTable.copy (t : RulesTable) : RulesTable where
  hasArchivedAt := true
  nameUnique := false
  rows := copySequence t.rows.toTable
  absent := nofun
  names_apart := t.names_apart

/-- The rows in a new table, `init_db.py:120–121`. -/
def EventsTable.copy (t : EventsTable) : EventsTable where
  knowsRuleArchived := true
  events := { copySequence t.events.toTable with one_active := t.events.one_active }

/-- The indexes that go with `alert_rules`. -/
def SchemaIndex.ofAlertRules : SchemaIndex → Bool
  | .alertRulesDevice | .alertRulesActiveName => true
  | _ => false

/-- The indexes that go with `alert_events`. -/
def SchemaIndex.ofAlertEvents : SchemaIndex → Bool
  | .alertEventsDeviceTime | .alertEventsRuleTime | .alertEventsStatus
  | .alertEventsOneActivePerRule => true
  | _ => false

namespace StoredDatabase

/-- `rebuild_rules`, `init_db.py:32–35`. -/
def rebuildsRules (d : StoredDatabase) : Bool :=
  d.alertRules.any fun t ↦ !t.hasArchivedAt || t.nameUnique

/-- `rebuild_events`, `init_db.py:36–38`. -/
def rebuildsEvents (d : StoredDatabase) : Bool := d.alertEvents.any fun t ↦ !t.knowsRuleArchived

/-- `CREATE TABLE alert_rules_new`. -/
def createRulesNew (d : StoredDatabase) : Except SqlError StoredDatabase :=
  if d.alertRulesNew.isSome then .error .operationalError
  else .ok { d with alertRulesNew := some .new }

/-- `INSERT INTO alert_rules_new … SELECT … FROM alert_rules`, into the table that was just
created. -/
def copyRules (d : StoredDatabase) : Except SqlError StoredDatabase :=
  match d.alertRules with
  | none => .error .operationalError
  | some t =>
    if t.rows.rows.all AlertRule.checks then .ok { d with alertRulesNew := some t.copy }
    else .error .integrityError

/-- `DROP TABLE alert_rules`. -/
def dropRules (d : StoredDatabase) : StoredDatabase :=
  { d with alertRules := none, indexes := fun index ↦ d.indexes index && !index.ofAlertRules }

/-- `ALTER TABLE alert_rules_new RENAME TO alert_rules`. -/
def renameRules (d : StoredDatabase) : StoredDatabase :=
  { d with alertRules := d.alertRulesNew, alertRulesNew := none }

/-- `CREATE TABLE alert_events_new`. -/
def createEventsNew (d : StoredDatabase) : Except SqlError StoredDatabase :=
  if d.alertEventsNew.isSome then .error .operationalError
  else .ok { d with alertEventsNew := some .new }

/-- `INSERT INTO alert_events_new SELECT * FROM alert_events`, into the table that was just
created, whose `CHECK` allows what the older one does. -/
def copyEvents (d : StoredDatabase) : Except SqlError StoredDatabase :=
  match d.alertEvents with
  | none => .error .operationalError
  | some t => .ok { d with alertEventsNew := some t.copy }

/-- `DROP TABLE alert_events`. -/
def dropEvents (d : StoredDatabase) : StoredDatabase :=
  { d with alertEvents := none, indexes := fun index ↦ d.indexes index && !index.ofAlertEvents }

/-- `ALTER TABLE alert_events_new RENAME TO alert_events`. -/
def renameEvents (d : StoredDatabase) : StoredDatabase :=
  { d with alertEvents := d.alertEventsNew, alertEventsNew := none }

end StoredDatabase

open StoredDatabase

/-- `init_db.py:44–84`. -/
def rebuildRules : Sql StoredDatabase SqlError Unit := do
  Sql.ddl createRulesNew
  Sql.dml copyRules
  Sql.ddl fun d ↦ .ok d.dropRules
  Sql.ddl fun d ↦ .ok d.renameRules

/-- `init_db.py:86–125`. -/
def rebuildEvents : Sql StoredDatabase SqlError Unit := do
  Sql.ddl createEventsNew
  Sql.dml copyEvents
  Sql.ddl fun d ↦ .ok d.dropEvents
  Sql.ddl fun d ↦ .ok d.renameEvents

/-- `_rebuild_alert_tables_if_needed`, `init_db.py:11–127`. Foreign keys are off meanwhile, so that
a dropped table takes no other rows with it. -/
def rebuildAlertTablesIfNeeded : Sql StoredDatabase SqlError Unit := do
  let rules ← Sql.query rebuildsRules
  let events ← Sql.query rebuildsEvents
  if !rules && !events then
    pure ()
  else
    Sql.commit
    Sql.onlyIf rules rebuildRules
    Sql.onlyIf events rebuildEvents
    Sql.commit

/-! ### The schema -/

/-- The tables of `schema.sql`. -/
inductive SchemaTable where
  | telemetry
  | devices
  | deviceHealthCurrent
  | alertRules
  | alertRuleStates
  | alertEvents

/-- What a database file may lack. -/
inductive SchemaItem where
  | telemetryDeviceId
  | table (table : SchemaTable)
  | index (index : SchemaIndex)
  | healthColumn (column : HealthColumn)
  | pendingExtremeValue

/-- The table with the column `device_id`. -/
def TelemetryTable.addDeviceId (t : TelemetryTable) : TelemetryTable :=
  ⟨true, t.rows.update (fun _ ↦ true) (fun row ↦ { row with deviceId := legacyDeviceIdentity })
    fun _ ↦ rfl⟩

/-- The table with a column that is null in its rows. -/
def HealthTable.addColumn (t : HealthTable) (column : HealthColumn) : HealthTable where
  columns c := c == column || t.columns c
  rows := t.rows
  absent := fun c hc ↦ t.absent c (Bool.or_eq_false_iff.mp hc).2

/-- The table with the column `pending_extreme_value`. -/
def StatesTable.addPendingExtremeValue (t : StatesTable) : StatesTable := ⟨true, t.rows, nofun⟩

namespace SchemaItem

/-- Whether the test of `init_db.py` or the `IF NOT EXISTS` of `schema.sql` finds it missing. The
tables that columns are added to by then exist. -/
def needed (d : StoredDatabase) : SchemaItem → Bool
  | telemetryDeviceId => d.telemetry.any fun t ↦ !t.hasDeviceId
  | table .telemetry => d.telemetry.isNone
  | table .devices => d.devices.isNone
  | table .deviceHealthCurrent => d.deviceHealthCurrent.isNone
  | table .alertRules => d.alertRules.isNone
  | table .alertRuleStates => d.alertRuleStates.isNone
  | table .alertEvents => d.alertEvents.isNone
  | index i => !d.indexes i
  | healthColumn column => d.deviceHealthCurrent.any fun t ↦ !t.columns column
  | pendingExtremeValue => d.alertRuleStates.any fun t ↦ !t.hasPendingExtremeValue

/-- The statement that adds it. -/
def add (d : StoredDatabase) : SchemaItem → StoredDatabase
  | telemetryDeviceId => { d with telemetry := d.telemetry.map .addDeviceId }
  | table .telemetry => { d with telemetry := d.telemetry.or (some ⟨true, .empty⟩) }
  | table .devices => { d with devices := d.devices.or (some .empty) }
  | table .deviceHealthCurrent =>
    { d with deviceHealthCurrent := d.deviceHealthCurrent.or (some ⟨fun _ ↦ true, .empty, nofun⟩) }
  | table .alertRules => { d with alertRules := d.alertRules.or (some .new) }
  | table .alertRuleStates =>
    { d with alertRuleStates := d.alertRuleStates.or (some ⟨true, .empty, nofun⟩) }
  | table .alertEvents => { d with alertEvents := d.alertEvents.or (some .new) }
  | index i => { d with indexes := fun j ↦ j == i || d.indexes j }
  | healthColumn column =>
    { d with deviceHealthCurrent := d.deviceHealthCurrent.map (·.addColumn column) }
  | pendingExtremeValue =>
    { d with alertRuleStates := d.alertRuleStates.map .addPendingExtremeValue }

/-- The statement with its test. -/
def stage (item : SchemaItem) : Stage StoredDatabase := ⟨fun d ↦ item.needed d, fun d ↦ item.add d⟩

end SchemaItem

/-- The statements of `schema.sql`. -/
def schemaSql : List SchemaItem :=
  [.table .telemetry, .table .devices, .table .deviceHealthCurrent,
    .index .telemetryDeviceTimestamp, .index .devicesLastSeen, .table .alertRules,
    .table .alertRuleStates, .table .alertEvents, .index .alertRulesDevice,
    .index .alertRulesActiveName, .index .alertRuleStatesState, .index .alertEventsDeviceTime,
    .index .alertEventsRuleTime, .index .alertEventsStatus, .index .alertEventsOneActivePerRule]

/-- `health_migration_columns`, `init_db.py:163–170`. -/
def healthMigrationColumns : List SchemaItem :=
  [.healthColumn .deviceTimestamp, .healthColumn .status, .healthColumn .availability,
    .healthColumn .components, .healthColumn .counters, .healthColumn .metrics]

/-- The statements of `init_db.py:145–186`, each of which is committed by itself. -/
def schemaStages : List (Stage StoredDatabase) :=
  (SchemaItem.telemetryDeviceId :: schemaSql ++ healthMigrationColumns ++
    [SchemaItem.pendingExtremeValue]).map SchemaItem.stage

/-! ### Devices -/

/-- Rows without an identity get that of the legacy topic. -/
def TelemetryTable.fillDeviceIds (t : TelemetryTable) : TelemetryTable where
  hasDeviceId := t.hasDeviceId
  rows := t.rows.update (fun row ↦ row.deviceId.all isBlank)
    (fun row ↦ { row with deviceId := legacyDeviceIdentity }) fun _ ↦ rfl

/-- The rows whose identity is not null. -/
def TelemetryTable.identified (t : TelemetryTable) : List TelemetryRow :=
  t.rows.rows.filterMap fun row ↦ row.deviceId.map fun deviceId ↦
    ⟨row.id, deviceId, row.timestamp, row.temperature, row.humidity, row.machineStatus⟩

namespace StoredDatabase

/-- `UPDATE telemetry SET device_id = …`, `init_db.py:188–192`. -/
def fillDeviceIds (d : StoredDatabase) : StoredDatabase :=
  { d with telemetry := d.telemetry.map .fillDeviceIds }

/-- `INSERT INTO devices … ON CONFLICT(device_id) DO NOTHING`, `init_db.py:193–202`. -/
def registerDevices (d : StoredDatabase) : StoredDatabase :=
  { d with devices := d.devices.map (backfill (d.telemetry.elim [] TelemetryTable.identified)) }

end StoredDatabase

/-- `_initialize_database`, `init_db.py:138–207`. -/
def migrateDatabase : Sql StoredDatabase SqlError Unit := do
  rebuildAlertTablesIfNeeded
  Stage.script schemaStages
  Sql.dml fun d ↦ .ok d.fillDeviceIds
  Sql.dml fun d ↦ .ok d.registerDevices
  Sql.commit

/-! ### The stages -/

private theorem any_map_of_forall {α : Type} {f : α → α} {p : α → Bool} (h : ∀ a, p (f a) = false)
    (o : Option α) : (o.map f).any p = false := by
  cases o with
  | none => rfl
  | some a => exact h a

private theorem any_map_of_any {α : Type} {f : α → α} {p : α → Bool}
    (h : ∀ a, p a = false → p (f a) = false) {o : Option α} (ho : o.any p = false) :
    (o.map f).any p = false := by
  cases o with
  | none => rfl
  | some a => exact h a ho

private theorem any_or_of_any {α : Type} {p : α → Bool} {a : α} (h : p a = false) {o : Option α}
    (ho : o.any p = false) : (o.or (some a)).any p = false := by
  cases o with
  | none => exact h
  | some b => exact ho

namespace SchemaItem

theorem needed_add (d : StoredDatabase) (item : SchemaItem) : item.needed (item.add d) = false := by
  cases item with
  | telemetryDeviceId => exact any_map_of_forall (fun _ ↦ rfl) d.telemetry
  | table t => cases t <;> simp [needed, add]
  | index i => simp [needed, add]
  | healthColumn c =>
    apply any_map_of_forall
    intro t
    simp [HealthTable.addColumn]
  | pendingExtremeValue => exact any_map_of_forall (fun _ ↦ rfl) d.alertRuleStates

/-- No statement removes anything. -/
theorem needed_add_of_not_needed {d : StoredDatabase} {item : SchemaItem}
    (h : item.needed d = false) (other : SchemaItem) : item.needed (other.add d) = false := by
  cases item with
  | telemetryDeviceId =>
    cases other with
    | telemetryDeviceId => exact any_map_of_any (fun _ _ ↦ rfl) h
    | table t => cases t with
      | telemetry => exact any_or_of_any rfl h
      | _ => exact h
    | _ => exact h
  | table t =>
    cases other with
    | table t' => cases t <;> cases t' <;> simp_all [needed, add]
    | _ => cases t <;> simpa [needed, add] using h
  | index i =>
    cases other with
    | table t => cases t <;> exact h
    | index j =>
      simp only [needed, Bool.not_eq_false'] at h
      simp [needed, add, h]
    | _ => exact h
  | healthColumn c =>
    cases other with
    | table t => cases t with
      | deviceHealthCurrent => exact any_or_of_any rfl h
      | _ => exact h
    | healthColumn c' =>
      refine any_map_of_any (fun t ht ↦ ?_) h
      simp only [Bool.not_eq_false'] at ht
      simp [HealthTable.addColumn, ht]
    | _ => exact h
  | pendingExtremeValue =>
    cases other with
    | table t => cases t with
      | alertRuleStates => exact any_or_of_any rfl h
      | _ => exact h
    | pendingExtremeValue => exact any_map_of_any (fun _ _ ↦ rfl) h
    | _ => exact h

end SchemaItem

theorem mem_schemaStages {s : Stage StoredDatabase} (h : s ∈ schemaStages) :
    ∃ item : SchemaItem, s = item.stage := by
  obtain ⟨item, -, rfl⟩ := List.mem_map.mp h
  exact ⟨item, rfl⟩

theorem settle_schemaStages : Stage.Settle schemaStages where
  done s hs d := by
    obtain ⟨item, rfl⟩ := mem_schemaStages hs
    exact item.needed_add d
  kept s hs t ht d h := by
    obtain ⟨item, rfl⟩ := mem_schemaStages hs
    obtain ⟨other, rfl⟩ := mem_schemaStages ht
    exact SchemaItem.needed_add_of_not_needed h other

/-! ### The transaction at the end -/

private theorem update_of_not {α κ : Type} {key : α → κ} (t : Table key) {p : α → Bool}
    {f : α → α} (hf : ∀ a, key (f a) = key a) (h : ∀ a ∈ t.rows, p a = true → f a = a) :
    t.update p f hf = t := by
  have hrows : (t.rows.map fun a ↦ if p a then f a else a) = t.rows := by
    rw [← List.map_id t.rows, List.map_map]
    apply List.map_congr_left
    intro a ha
    by_cases hp : p a = true
    · exact (if_pos hp).trans (h a ha hp)
    · exact if_neg hp
  cases t
  simp only [Table.update, Table.mk.injEq]
  exact hrows

private theorem sequenced_update_of_not {α : Type} {key : α → Nat} (t : Table.Sequenced key)
    {p : α → Bool} {f : α → α} (hf : ∀ a, key (f a) = key a)
    (h : ∀ a ∈ t.rows, p a = true → f a = a) : t.update p f hf = t := by
  have htable := update_of_not t.toTable hf h
  cases t
  simp only [Table.Sequenced.update, Table.Sequenced.mk.injEq]
  exact ⟨htable, trivial⟩

theorem insertNew_of_find {devices : Table DeviceRow.deviceId} {row found : DeviceRow}
    (h : devices.find row.deviceId = some found) : insertNew devices row = devices := by
  rw [insertNew, Table.upsert, Table.insert_eq_none_iff.mpr ⟨found, h⟩]
  exact update_of_not devices _ fun _ _ _ ↦ rfl

theorem foldl_insertNew_of_find {rows : List DeviceRow} {devices : Table DeviceRow.deviceId}
    (h : ∀ row ∈ rows, (devices.find row.deviceId).isSome) :
    rows.foldl insertNew devices = devices := by
  induction rows with
  | nil => rfl
  | cons row rows ih =>
    obtain ⟨found, hfound⟩ := Option.isSome_iff_exists.mp (h row List.mem_cons_self)
    rw [List.foldl_cons, insertNew_of_find hfound]
    exact ih fun r hr ↦ h r (List.mem_cons_of_mem row hr)

/-- A second backfill finds every device registered. -/
theorem backfill_backfill (telemetry : List TelemetryRow) (devices : Table DeviceRow.deviceId) :
    backfill telemetry (backfill telemetry devices) = backfill telemetry devices := by
  rw [backfill, backfill]
  apply foldl_insertNew_of_find
  intro row hrow
  rw [find_foldl_insertNew, Option.isSome_or, Bool.or_eq_true, List.find?_isSome]
  exact .inr ⟨row, hrow, by simp⟩

theorem fillDeviceIds_fillDeviceIds (t : TelemetryTable) :
    t.fillDeviceIds.fillDeviceIds = t.fillDeviceIds := by
  have hnone : ∀ row ∈ t.fillDeviceIds.rows.rows, row.deviceId.all isBlank = false := by
    intro row hrow
    obtain ⟨r, -, rfl⟩ := List.mem_map.mp hrow
    by_cases hr : r.deviceId.all isBlank = true
    · rw [if_pos hr]
      exact isBlank_legacyDeviceIdentity
    · rw [if_neg hr]
      exact Bool.eq_false_iff.mpr hr
  apply congrArg (TelemetryTable.mk t.hasDeviceId)
  apply sequenced_update_of_not
  intro row hrow hblank
  rw [hnone row hrow] at hblank
  cases hblank

/-- The transaction, `init_db.py:188–204`. -/
def StoredDatabase.finish (d : StoredDatabase) : StoredDatabase := d.fillDeviceIds.registerDevices

theorem finish_finish (d : StoredDatabase) : d.finish.finish = d.finish := by
  have htelemetry : d.finish.finish.telemetry = d.finish.telemetry := by
    change ((d.telemetry.map _).map _) = d.telemetry.map _
    rw [Option.map_map]
    exact congrArg (fun f ↦ d.telemetry.map f) (funext fillDeviceIds_fillDeviceIds)
  have hdevices : d.finish.finish.devices = d.finish.devices := by
    change ((d.devices.map _).map (backfill (d.finish.finish.telemetry.elim [] _))) =
      d.devices.map (backfill (d.finish.telemetry.elim [] _))
    rw [htelemetry, Option.map_map]
    exact congrArg (fun f ↦ d.devices.map f) (funext (backfill_backfill _))
  have heq : d.finish.finish =
      { d.finish with
        telemetry := d.finish.finish.telemetry
        devices := d.finish.finish.devices } := rfl
  rw [heq, htelemetry, hdevices]

theorem finishes_schemaStages : Stage.Finishes schemaStages StoredDatabase.finish where
  toSettle := settle_schemaStages
  finish_kept s hs d h := by
    obtain ⟨item, rfl⟩ := mem_schemaStages hs
    cases item with
    | telemetryDeviceId =>
      exact any_map_of_any (p := fun t : TelemetryTable ↦ !t.hasDeviceId) (f := .fillDeviceIds)
        (fun _ h ↦ h) h
    | table t => cases t <;> simpa [SchemaItem.stage, SchemaItem.needed, finish, fillDeviceIds,
        registerDevices] using h
    | _ => exact h
  finish_finish := finish_finish

/-! ### The plan -/

section Rebuild
variable {d d₁ : StoredDatabase} {k : Unit → Sql StoredDatabase SqlError Unit}
  {states : List StoredDatabase} {result : Except SqlError Unit}

namespace StoredDatabase

/-- With the table that takes the rules, `init_db.py:45–64`. -/
def withRulesNew (d : StoredDatabase) : StoredDatabase := { d with alertRulesNew := some .new }

/-- With the table that takes the events, `init_db.py:87–117`. -/
def withEventsNew (d : StoredDatabase) : StoredDatabase := { d with alertEventsNew := some .new }

/-- With the rules in their new table, `init_db.py:72–84`. -/
def rulesRebuilt (d : StoredDatabase) : StoredDatabase :=
  { d with
    alertRules := d.alertRules.map .copy
    alertRulesNew := none
    indexes := fun index ↦ d.indexes index && !index.ofAlertRules }

/-- With the events in their new table, `init_db.py:118–125`. -/
def eventsRebuilt (d : StoredDatabase) : StoredDatabase :=
  { d with
    alertEvents := d.alertEvents.map .copy
    alertEventsNew := none
    indexes := fun index ↦ d.indexes index && !index.ofAlertEvents }

/-- The rules meet the checks of the new table. -/
def RulesFit (d : StoredDatabase) : Prop :=
  ∀ t ∈ d.alertRules, ∀ rule ∈ t.rows.rows, rule.checks = true

/-- No table is left of an interrupted rebuild. -/
def NoneLeft (d : StoredDatabase) : Prop := d.alertRulesNew = none ∧ d.alertEventsNew = none

end StoredDatabase

/-- The rows are copied inside of a transaction. -/
theorem plans_rebuildRules {t : RulesTable} (hnew : d.alertRulesNew = none)
    (ht : d.alertRules = some t) (hfit : d.RulesFit)
    (h : Sql.Plans (k ()) d.withRulesNew (some d.rulesRebuilt) states result) :
    Sql.Plans (rebuildRules >>= k) d none (d.withRulesNew :: states) result := by
  have hchecks : t.rows.rows.all AlertRule.checks = true := List.all_eq_true.mpr (hfit t ht)
  have hcreate : createRulesNew d = .ok d.withRulesNew := by
    rw [createRulesNew, hnew]
    rfl
  have hcopy : copyRules d.withRulesNew = .ok { d with alertRulesNew := some t.copy } := by
    rw [copyRules, withRulesNew, ht]
    exact if_pos hchecks
  have hrebuilt : renameRules (dropRules { d with alertRulesNew := some t.copy }) =
      d.rulesRebuilt := by
    rw [rulesRebuilt, ht]
    rfl
  rw [← hrebuilt] at h
  simp only [rebuildRules, bind_assoc]
  apply Sql.plans_ddl_bind hcreate
  apply Sql.plans_dml_bind hcopy
  apply Sql.plans_ddl_bind_open rfl
  apply Sql.plans_ddl_bind_open rfl
  exact h

/-- A rule that does not meet the checks ends the run. -/
theorem plans_rebuildRules_unfit {t : RulesTable} (hnew : d.alertRulesNew = none)
    (ht : d.alertRules = some t) (hfit : ¬ d.RulesFit) :
    Sql.Plans (rebuildRules >>= k) d none [d.withRulesNew] (.error .integrityError) := by
  have hcreate : createRulesNew d = .ok d.withRulesNew := by
    rw [createRulesNew, hnew]
    rfl
  have hcopy : copyRules d.withRulesNew = .error .integrityError := by
    rw [copyRules, withRulesNew, ht]
    apply if_neg
    intro hall
    apply hfit
    intro t' ht' rule hrule
    rw [ht, Option.mem_some_iff] at ht'
    subst ht'
    exact List.all_eq_true.mp hall rule hrule
  simp only [rebuildRules, bind_assoc]
  apply Sql.plans_ddl_bind hcreate
  exact Sql.plans_dml_bind_raise hcopy

/-- A table that is left ends the run. -/
theorem plans_rebuildRules_left (hnew : d.alertRulesNew ≠ none) :
    Sql.Plans (rebuildRules >>= k) d none [] (.error .operationalError) := by
  simp only [rebuildRules, bind_assoc]
  apply Sql.plans_ddl_bind_raise
  exact if_pos (Option.isSome_iff_ne_none.mpr hnew)

/-- The statements of a rebuilding of the events one by one. -/
theorem rebuildEvents_steps {t : EventsTable} (hnew : d.alertEventsNew = none)
    (ht : d.alertEvents = some t) :
    createEventsNew d = .ok d.withEventsNew ∧
    copyEvents d.withEventsNew = .ok { d with alertEventsNew := some t.copy } ∧
    renameEvents (dropEvents { d with alertEventsNew := some t.copy }) = d.eventsRebuilt := by
  refine ⟨?_, ?_, ?_⟩
  · rw [createEventsNew, hnew]
    rfl
  · rw [copyEvents, withEventsNew, ht]
  · rw [eventsRebuilt, ht]
    rfl

/-- In an open transaction the events stay in it. -/
theorem plans_rebuildEvents_open {t : EventsTable} (hnew : d₁.alertEventsNew = none)
    (ht : d₁.alertEvents = some t)
    (h : Sql.Plans (k ()) d (some d₁.eventsRebuilt) states result) :
    Sql.Plans (rebuildEvents >>= k) d (some d₁) states result := by
  obtain ⟨hcreate, hcopy, hrebuilt⟩ := rebuildEvents_steps hnew ht
  rw [← hrebuilt] at h
  simp only [rebuildEvents, bind_assoc]
  apply Sql.plans_ddl_bind_open hcreate
  apply Sql.plans_dml_bind hcopy
  apply Sql.plans_ddl_bind_open rfl
  apply Sql.plans_ddl_bind_open rfl
  exact h

theorem plans_rebuildEvents {t : EventsTable} (hnew : d.alertEventsNew = none)
    (ht : d.alertEvents = some t)
    (h : Sql.Plans (k ()) d.withEventsNew (some d.eventsRebuilt) states result) :
    Sql.Plans (rebuildEvents >>= k) d none (d.withEventsNew :: states) result := by
  obtain ⟨hcreate, hcopy, hrebuilt⟩ := rebuildEvents_steps hnew ht
  rw [← hrebuilt] at h
  simp only [rebuildEvents, bind_assoc]
  apply Sql.plans_ddl_bind hcreate
  apply Sql.plans_dml_bind hcopy
  apply Sql.plans_ddl_bind_open rfl
  apply Sql.plans_ddl_bind_open rfl
  exact h

theorem plans_rebuildEvents_left (hnew : d.alertEventsNew ≠ none) :
    Sql.Plans (rebuildEvents >>= k) d none [] (.error .operationalError) := by
  simp only [rebuildEvents, bind_assoc]
  apply Sql.plans_ddl_bind_raise
  exact if_pos (Option.isSome_iff_ne_none.mpr hnew)

end Rebuild

/-- The statements after the alter tables are rebuilt. -/
theorem plans_schema (d : StoredDatabase) : Sql.Plans (do
      Stage.script schemaStages
      Sql.dml fun d ↦ .ok d.fillDeviceIds
      Sql.dml fun d ↦ .ok d.registerDevices
      Sql.commit) d none
    (Stage.states schemaStages d ++ [(Stage.complete schemaStages d).finish])
    (.ok () : Except SqlError Unit) := by
  apply Stage.plans_script
  apply Sql.plans_dml_bind
  · rfl
  apply Sql.plans_dml_bind
  · rfl
  exact Sql.plans_commit

namespace StoredDatabase

/-- No alert table has to be rebuilt. -/
def Ready (d : StoredDatabase) : Prop := d.rebuildsRules = false ∧ d.rebuildsEvents = false

instance (d : StoredDatabase) : Decidable d.Ready := instDecidableAnd

theorem ready_add {d : StoredDatabase} (h : d.Ready) (item : SchemaItem) : (item.add d).Ready := by
  cases item with
  | table t => cases t with
    | alertRules => exact ⟨any_or_of_any rfl h.1, h.2⟩
    | alertEvents => exact ⟨h.1, any_or_of_any rfl h.2⟩
    | _ => exact h
  | _ => exact h

end StoredDatabase

/-- The migration of databases whose alert tables are as they should be. -/
def schemaMigration : Migration StoredDatabase SqlError where
  script := migrateDatabase
  stages := schemaStages
  finish := StoredDatabase.finish
  Ready := StoredDatabase.Ready
  finishes := finishes_schemaStages
  ready_apply s hs d _ h := by
    obtain ⟨item, rfl⟩ := mem_schemaStages hs
    exact ready_add h item
  ready_finish _ h := h
  plans d h := by
    rw [migrateDatabase, rebuildAlertTablesIfNeeded, bind_assoc]
    apply Sql.plans_query_bind
    rw [bind_assoc]
    apply Sql.plans_query_bind
    rw [Option.getD_none, h.1, h.2]
    exact plans_schema d

namespace StoredDatabase

/-- What the first statement of a rebuild leaves. -/
def started (d : StoredDatabase) : StoredDatabase :=
  if d.rebuildsRules then d.withRulesNew else d.withEventsNew

/-- With the rules in their new table if they need it. -/
def rulesDone (d : StoredDatabase) : StoredDatabase :=
  if d.rebuildsRules then d.rulesRebuilt else d

/-- With the events in their new table if they need it. -/
def eventsDone (d : StoredDatabase) : StoredDatabase :=
  if d.rebuildsEvents then d.eventsRebuilt else d

/-- With all alert tables that need it rebuilt. -/
def rebuilt (d : StoredDatabase) : StoredDatabase := d.rulesDone.eventsDone

theorem rebuildsRules_rulesDone (d : StoredDatabase) : d.rulesDone.rebuildsRules = false := by
  rw [rulesDone]
  by_cases h : d.rebuildsRules = true
  · rw [if_pos h]
    exact any_map_of_forall (f := RulesTable.copy)
      (p := fun t ↦ !t.hasArchivedAt || t.nameUnique) (fun _ ↦ rfl) d.alertRules
  · rw [if_neg h]
    exact Bool.eq_false_iff.mpr h

theorem rebuildsEvents_rulesDone (d : StoredDatabase) :
    d.rulesDone.rebuildsEvents = d.rebuildsEvents := by
  rw [rulesDone]
  split <;> rfl

theorem alertEventsNew_rulesDone (d : StoredDatabase) :
    d.rulesDone.alertEventsNew = d.alertEventsNew := by
  rw [rulesDone]
  split <;> rfl

theorem rebuildsRules_eventsDone (d : StoredDatabase) :
    d.eventsDone.rebuildsRules = d.rebuildsRules := by
  rw [eventsDone]
  split <;> rfl

theorem rebuildsEvents_eventsDone (d : StoredDatabase) : d.eventsDone.rebuildsEvents = false := by
  rw [eventsDone]
  by_cases h : d.rebuildsEvents = true
  · rw [if_pos h]
    exact any_map_of_forall (f := EventsTable.copy) (p := fun t ↦ !t.knowsRuleArchived)
      (fun _ ↦ rfl) d.alertEvents
  · rw [if_neg h]
    exact Bool.eq_false_iff.mpr h

theorem ready_rebuilt (d : StoredDatabase) : d.rebuilt.Ready :=
  ⟨(rebuildsRules_eventsDone _).trans (rebuildsRules_rulesDone d), rebuildsEvents_eventsDone _⟩

/-- A table that has to be rebuilt is there. -/
theorem exists_alertRules {d : StoredDatabase} (h : d.rebuildsRules = true) :
    ∃ t, d.alertRules = some t := by
  cases ht : d.alertRules with
  | none =>
    rw [rebuildsRules, ht] at h
    cases h
  | some t => exact ⟨t, rfl⟩

theorem exists_alertEvents {d : StoredDatabase} (h : d.rebuildsEvents = true) :
    ∃ t, d.alertEvents = some t := by
  cases ht : d.alertEvents with
  | none =>
    rw [rebuildsEvents, ht] at h
    cases h
  | some t => exact ⟨t, rfl⟩

end StoredDatabase

section Plan
variable {d : StoredDatabase} {states : List StoredDatabase} {result : Except SqlError Unit}

theorem rebuildsEvents_of_not_ready (hready : ¬ d.Ready) (hrules : d.rebuildsRules = false) :
    d.rebuildsEvents = true := by
  by_contra hevents
  exact hready ⟨hrules, Bool.eq_false_iff.mpr hevents⟩

/-- A run starts with the rebuilding if a table needs it. -/
theorem plans_migrateDatabase_of_not_ready (hready : ¬ d.Ready)
    (h : Sql.Plans (do
      Sql.onlyIf d.rebuildsRules rebuildRules
      Sql.onlyIf d.rebuildsEvents rebuildEvents
      Sql.commit
      Stage.script schemaStages
      Sql.dml fun d ↦ .ok d.fillDeviceIds
      Sql.dml fun d ↦ .ok d.registerDevices
      Sql.commit) d none states result) :
    Sql.Plans migrateDatabase d none states result := by
  have hneeds : ¬ (!d.rebuildsRules && !d.rebuildsEvents) = true := by
    simpa [StoredDatabase.Ready] using hready
  rw [migrateDatabase, rebuildAlertTablesIfNeeded, bind_assoc]
  apply Sql.plans_query_bind
  rw [bind_assoc]
  apply Sql.plans_query_bind
  rw [Option.getD_none, if_neg hneeds, bind_assoc, bind_assoc, bind_assoc]
  exact Sql.plans_commit_bind_none h

theorem plans_migrateDatabase (hready : ¬ d.Ready) (hnone : d.NoneLeft)
    (hfit : d.rebuildsRules = true → d.RulesFit) :
    Sql.Plans migrateDatabase d none
      (d.started :: d.rebuilt :: (Stage.states schemaStages d.rebuilt ++
        [(Stage.complete schemaStages d.rebuilt).finish])) (.ok ()) := by
  apply plans_migrateDatabase_of_not_ready hready
  apply Sql.plans_onlyIf_bind
  · intro hrules
    obtain ⟨t, ht⟩ := exists_alertRules hrules
    have hdone : d.rulesDone = d.rulesRebuilt := if_pos hrules
    rw [started, if_pos hrules, rebuilt, hdone]
    apply plans_rebuildRules hnone.1 ht (hfit hrules)
    apply Sql.plans_onlyIf_bind
    · intro hevents
      obtain ⟨t', ht'⟩ := exists_alertEvents hevents
      have hdone' : d.rulesRebuilt.eventsDone = d.rulesRebuilt.eventsRebuilt := if_pos hevents
      have hnew : d.rulesRebuilt.alertEventsNew = none := hnone.2
      rw [hdone']
      apply plans_rebuildEvents_open hnew ht'
      exact Sql.plans_commit_bind (plans_schema _)
    · intro hevents
      have hdone' : d.rulesRebuilt.eventsDone = d.rulesRebuilt :=
        if_neg (Bool.eq_false_iff.mp hevents)
      rw [hdone']
      exact Sql.plans_commit_bind (plans_schema _)
  · intro hrules
    have hrules' := Bool.eq_false_iff.mp hrules
    have hevents := rebuildsEvents_of_not_ready hready hrules
    obtain ⟨t, ht⟩ := exists_alertEvents hevents
    have hdone : d.rulesDone = d := if_neg hrules'
    have hdone' : d.eventsDone = d.eventsRebuilt := if_pos hevents
    rw [hevents, started, if_neg hrules', rebuilt, hdone, hdone']
    apply plans_rebuildEvents hnone.2 ht
    exact Sql.plans_commit_bind (plans_schema _)

/-- The rules that do not meet the checks stop the run after its first statement. -/
theorem plans_migrateDatabase_unfit (hrules : d.rebuildsRules = true) (hnone : d.NoneLeft)
    (hfit : ¬ d.RulesFit) :
    Sql.Plans migrateDatabase d none [d.started] (.error .integrityError) := by
  obtain ⟨t, ht⟩ := exists_alertRules hrules
  apply plans_migrateDatabase_of_not_ready fun h ↦ Bool.false_ne_true (h.1.symm.trans hrules)
  rw [hrules, started, if_pos hrules]
  exact plans_rebuildRules_unfit hnone.1 ht hfit

/-- The table of an interrupted rebuild stops every later run. -/
theorem plans_migrateDatabase_started (hready : ¬ d.Ready) :
    Sql.Plans migrateDatabase d.started none [] (.error .operationalError) := by
  by_cases hrules : d.rebuildsRules = true
  · have hready' : ¬ d.withRulesNew.Ready := hready
    rw [started, if_pos hrules]
    apply plans_migrateDatabase_of_not_ready hready'
    have hrules' : d.withRulesNew.rebuildsRules = true := hrules
    rw [hrules']
    exact plans_rebuildRules_left (Option.some_ne_none _)
  · have hevents := rebuildsEvents_of_not_ready hready (Bool.eq_false_iff.mpr hrules)
    have hready' : ¬ d.withEventsNew.Ready := hready
    rw [started, if_neg hrules]
    apply plans_migrateDatabase_of_not_ready hready'
    have hrules' : d.withEventsNew.rebuildsRules = false := Bool.eq_false_iff.mpr hrules
    have hevents' : d.withEventsNew.rebuildsEvents = true := hevents
    rw [hrules', hevents']
    exact plans_rebuildEvents_left (Option.some_ne_none _)

end Plan

end EdgeMonitor.Backend
