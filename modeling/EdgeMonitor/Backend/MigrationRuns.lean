import EdgeMonitor.Backend.SchemaMigration

/-!
# Runs of the schema migration

Library `Backend`. What `_initialize_database` keeps and adds, and what is left when its process is
killed, any number of times, before it is run again. The first statement of a rebuild is committed
by itself; a run that ends between it and the commit of the rebuild leaves a table that stops every
later run.
-/

namespace EdgeMonitor.Backend
open EdgeMonitor.Base StoredDatabase

/-! ### Rows -/

/-- The identity that a row gets. -/
def TelemetryTable.identity (t : TelemetryTable) (row : OlderTelemetryRow) : Text :=
  if t.hasDeviceId then (row.deviceId.filter fun deviceId ↦ !isBlank deviceId).getD
    legacyDeviceIdentity
  else legacyDeviceIdentity

/-- The rows with the identities that they get. -/
def TelemetryTable.identifiedRows (t : TelemetryTable) : List OlderTelemetryRow :=
  t.rows.rows.map fun row ↦ { row with deviceId := t.identity row }

namespace StoredDatabase

def telemetryRows (d : StoredDatabase) : List OlderTelemetryRow :=
  d.telemetry.elim [] (·.rows.rows)

def identifiedRows (d : StoredDatabase) : List OlderTelemetryRow :=
  d.telemetry.elim [] TelemetryTable.identifiedRows

def registry (d : StoredDatabase) : Table DeviceRow.deviceId := d.devices.getD .empty

def healthRows (d : StoredDatabase) : List OlderHealthRow :=
  d.deviceHealthCurrent.elim [] (·.rows.rows)

def ruleRows (d : StoredDatabase) : List AlertRule := d.alertRules.elim [] (·.rows.rows)

def stateRows (d : StoredDatabase) : List AlertRuleState := d.alertRuleStates.elim [] (·.rows.rows)

def eventRows (d : StoredDatabase) : List AlertEvent := d.alertEvents.elim [] (·.events.rows)

/-- Two files with the same rows, up to the identities of telemetry. -/
structure SameRows (d d' : StoredDatabase) : Prop where
  telemetry : d'.identifiedRows = d.identifiedRows
  health : d'.healthRows = d.healthRows
  rules : d'.ruleRows = d.ruleRows
  states : d'.stateRows = d.stateRows
  events : d'.eventRows = d.eventRows

theorem SameRows.refl (d : StoredDatabase) : SameRows d d := ⟨rfl, rfl, rfl, rfl, rfl⟩

theorem SameRows.trans {d d' d'' : StoredDatabase} (h : SameRows d d') (h' : SameRows d' d'') :
    SameRows d d'' :=
  ⟨h'.telemetry.trans h.telemetry, h'.health.trans h.health, h'.rules.trans h.rules,
    h'.states.trans h.states, h'.events.trans h.events⟩

end StoredDatabase

private theorem elim_map {α β : Type} {f : α → α} {g : α → List β} (h : ∀ a, g (f a) = g a)
    (o : Option α) : (o.map f).elim [] g = o.elim [] g := by
  cases o with
  | none => rfl
  | some a => exact h a

private theorem elim_or {α β : Type} {a : α} {g : α → List β} (h : g a = []) (o : Option α) :
    (o.or (some a)).elim [] g = o.elim [] g := by
  cases o with
  | none => exact h
  | some b => rfl

namespace TelemetryTable

/-- A row of the legacy topic is one. -/
theorem identity_legacy (t : TelemetryTable) (row : OlderTelemetryRow) :
    t.identity { row with deviceId := legacyDeviceIdentity } = legacyDeviceIdentity := by
  rw [identity]
  by_cases h : t.hasDeviceId = true
  · rw [if_pos h]
    simp [Option.filter_some, isBlank_legacyDeviceIdentity]
  · rw [if_neg h]

theorem identity_of_blank {t : TelemetryTable} {row : OlderTelemetryRow}
    (h : row.deviceId.all isBlank = true) : t.identity row = legacyDeviceIdentity := by
  rw [identity]
  cases hid : row.deviceId with
  | none => simp
  | some deviceId =>
    rw [hid] at h
    have hblank : isBlank deviceId = true := h
    simp [Option.filter_some, hblank]

theorem identifiedRows_addDeviceId {t : TelemetryTable} (h : t.hasDeviceId = false) :
    t.addDeviceId.identifiedRows = t.identifiedRows := by
  change (t.rows.rows.map _).map _ = t.rows.rows.map _
  rw [List.map_map]
  apply List.map_congr_left
  intro row _
  have hidentity : t.identity row = legacyDeviceIdentity := by
    rw [identity, h]
    rfl
  rw [hidentity, ← t.addDeviceId.identity_legacy row]
  rfl

theorem identifiedRows_fillDeviceIds (t : TelemetryTable) :
    t.fillDeviceIds.identifiedRows = t.identifiedRows := by
  change (t.rows.rows.map _).map _ = t.rows.rows.map _
  rw [List.map_map]
  apply List.map_congr_left
  intro row _
  by_cases hblank : row.deviceId.all isBlank = true
  · rw [Function.comp_apply, if_pos hblank, identity_of_blank hblank]
    exact congrArg (fun deviceId : Text ↦ { row with deviceId := some deviceId })
      (t.fillDeviceIds.identity_legacy row)
  · rw [Function.comp_apply, if_neg hblank]
    rfl

/-- With the column filled the identities are the ones of the rows. -/
theorem identifiedRows_eq_rows {t : TelemetryTable} (h : t.hasDeviceId = true) :
    t.fillDeviceIds.rows.rows = t.identifiedRows := by
  apply List.map_congr_left
  intro row _
  by_cases hblank : row.deviceId.all isBlank = true
  · rw [if_pos hblank, identity_of_blank hblank]
  · rw [if_neg hblank]
    cases hid : row.deviceId with
    | none =>
      rw [hid] at hblank
      exact absurd rfl hblank
    | some deviceId =>
      have hnot : isBlank deviceId = false := by simpa [hid] using hblank
      have hidentity : t.identity row = deviceId := by
        rw [identity, if_pos h, hid]
        simp [Option.filter_some, hnot]
      rw [hidentity, ← hid]

end TelemetryTable

/-- Each statement keeps the rows. -/
theorem sameRows_add {d : StoredDatabase} {item : SchemaItem} (h : item.needed d = true) :
    SameRows d (item.add d) := by
  cases item with
  | table t => cases t with
    | telemetry => exact ⟨elim_or rfl _, rfl, rfl, rfl, rfl⟩
    | devices => exact ⟨rfl, rfl, rfl, rfl, rfl⟩
    | deviceHealthCurrent => exact ⟨rfl, elim_or rfl _, rfl, rfl, rfl⟩
    | alertRules => exact ⟨rfl, rfl, elim_or rfl _, rfl, rfl⟩
    | alertRuleStates => exact ⟨rfl, rfl, rfl, elim_or rfl _, rfl⟩
    | alertEvents => exact ⟨rfl, rfl, rfl, rfl, elim_or rfl _⟩
  | telemetryDeviceId =>
    refine ⟨?_, rfl, rfl, rfl, rfl⟩
    rw [identifiedRows, identifiedRows]
    cases ht : d.telemetry with
    | none => simp [SchemaItem.add, ht]
    | some t =>
      simp only [SchemaItem.needed, ht, Option.any_some, Bool.not_eq_true'] at h
      simp [SchemaItem.add, ht, TelemetryTable.identifiedRows_addDeviceId h]
  | index i => exact ⟨rfl, rfl, rfl, rfl, rfl⟩
  | healthColumn c =>
    have hrows := elim_map (f := fun t ↦ HealthTable.addColumn t c) (g := (·.rows.rows))
      (fun _ ↦ rfl) d.deviceHealthCurrent
    exact ⟨rfl, hrows, rfl, rfl, rfl⟩
  | pendingExtremeValue =>
    have hrows := elim_map (f := StatesTable.addPendingExtremeValue) (g := (·.rows.rows))
      (fun _ ↦ rfl) d.alertRuleStates
    exact ⟨rfl, rfl, rfl, hrows, rfl⟩

theorem sameRows_rulesDone (d : StoredDatabase) : SameRows d d.rulesDone := by
  rw [rulesDone]
  split
  · have hrows := elim_map (f := RulesTable.copy) (g := (·.rows.rows)) (fun _ ↦ rfl) d.alertRules
    exact ⟨rfl, rfl, hrows, rfl, rfl⟩
  · exact .refl d

theorem sameRows_eventsDone (d : StoredDatabase) : SameRows d d.eventsDone := by
  rw [eventsDone]
  split
  · have hrows := elim_map (f := EventsTable.copy) (g := (·.events.rows)) (fun _ ↦ rfl)
      d.alertEvents
    exact ⟨rfl, rfl, rfl, rfl, hrows⟩
  · exact .refl d

theorem sameRows_rebuilt (d : StoredDatabase) : SameRows d d.rebuilt :=
  (sameRows_rulesDone d).trans (sameRows_eventsDone d.rulesDone)

theorem sameRows_complete (d : StoredDatabase) : SameRows d (Stage.complete schemaStages d) := by
  apply Stage.of_complete (P := SameRows d)
  · intro s hs d' hneeded h
    obtain ⟨item, rfl⟩ := mem_schemaStages hs
    exact h.trans (sameRows_add hneeded)
  · exact .refl d

theorem sameRows_finish (d : StoredDatabase) : SameRows d d.finish :=
  ⟨elim_map TelemetryTable.identifiedRows_fillDeviceIds _, rfl, rfl, rfl, rfl⟩

/-! ### The registry -/

/-- A row as the collector reads it. -/
def TelemetryTable.readRow (t : TelemetryTable) (row : OlderTelemetryRow) : TelemetryRow :=
  ⟨row.id, t.identity row, row.timestamp, row.temperature, row.humidity, row.machineStatus⟩

/-- The rows of `telemetry` as the collector reads them. -/
def StoredDatabase.telemetryRead (d : StoredDatabase) : List TelemetryRow :=
  d.telemetry.elim [] TelemetryTable.identified

private theorem find?_key (ids : List Text) (k : Text) :
    ids.find? (fun id ↦ decide (id = k)) = if k ∈ ids then some k else none := by
  induction ids with
  | nil => rfl
  | cons id ids ih =>
    by_cases h : id = k
    · subst h
      simp
    · have hne : k ≠ id := Ne.symm h
      simp [h, hne, ih]

theorem find_backfill_eq (telemetry : List TelemetryRow) (devices : Table DeviceRow.deviceId)
    (k : Text) :
    let known := telemetry.filter fun row ↦ !isBlank row.deviceId
    (backfill telemetry devices).find k = (devices.find k).or
      (if k ∈ known.map (·.deviceId) then some (backfilledRow known k) else none) := by
  intro known
  rw [backfill, find_foldl_insertNew]
  apply congrArg ((devices.find k).or ·)
  rw [List.find?_map]
  have hcomp : ((known.map (·.deviceId)).dedup.find?
      ((fun row : DeviceRow ↦ decide (row.deviceId = k)) ∘ backfilledRow known)) = _ :=
    find?_key _ k
  rw [hcomp]
  simp only [List.mem_dedup]
  split <;> rfl

theorem registry_add (d : StoredDatabase) (item : SchemaItem) :
    (item.add d).registry = d.registry := by
  cases item with
  | table t => cases t with
    | devices =>
      simp only [registry, SchemaItem.add]
      cases d.devices <;> rfl
    | _ => rfl
  | _ => rfl

theorem registry_rebuilt (d : StoredDatabase) : d.rebuilt.registry = d.registry := by
  rw [rebuilt, eventsDone, rulesDone]
  split <;> split <;> rfl

theorem registry_complete (d : StoredDatabase) :
    (Stage.complete schemaStages d).registry = d.registry := by
  apply Stage.of_complete (P := fun d' : StoredDatabase ↦ d'.registry = d.registry)
  · intro s hs d' _ h
    obtain ⟨item, rfl⟩ := mem_schemaStages hs
    exact (registry_add d' item).trans h
  · rfl

/-! ### A run without interruption -/

/-- What the migration makes of a database file. -/
def StoredDatabase.migrated (d : StoredDatabase) : StoredDatabase := schemaMigration.final d.rebuilt

theorem rebuilt_of_ready {d : StoredDatabase} (h : d.Ready) : d.rebuilt = d := by
  have hrules : d.rulesDone = d := if_neg (Bool.eq_false_iff.mp h.1)
  rw [rebuilt, hrules]
  exact if_neg (Bool.eq_false_iff.mp h.2)

theorem runOn_migrateDatabase {d : StoredDatabase} (hnone : d.NoneLeft)
    (hfit : d.rebuildsRules = true → d.RulesFit) :
    migrateDatabase.runOn d [] = ⟨d.migrated, some (.ok ())⟩ := by
  by_cases hready : d.Ready
  · rw [migrated, rebuilt_of_ready hready]
    exact schemaMigration.runOn_nil hready
  · rw [(plans_migrateDatabase hready hnone hfit).runOn_eq, Sql.follow, ← List.cons_append,
      ← List.cons_append, List.getLastD_concat]
    rfl

/-- An older database as `initializeDatabase` takes it. -/
structure OlderDatabase.Describes (old : OlderDatabase) (d : StoredDatabase) : Prop where
  telemetry : old.telemetry.rows = d.telemetryRows
  hasDeviceId : ∀ t ∈ d.telemetry, old.hasDeviceId = t.hasDeviceId
  devices : old.devices = d.registry

/-- What a run without interruption makes of a database file: all rows are kept, telemetry gets its
identities, each device with telemetry is registered beside the ones that were, and nothing of the
schema is missing. -/
structure StoredDatabase.Migrated (d d' : StoredDatabase) : Prop where
  rows : SameRows d d'
  telemetry : d'.telemetryRows = d.identifiedRows
  registry : ∀ k, d'.registry.find k = (d.registry.find k).or
    (if ∃ row ∈ d.identifiedRows, row.deviceId = some k
      then some (backfilledRow d'.telemetryRead k) else none)
  schema : d'.Ready ∧ ∀ item : SchemaItem, item.needed d' = false
  refines : ∀ old : OlderDatabase, old.Describes d →
    d'.telemetryRead = (initializeDatabase old).telemetry.rows ∧
      d'.registry = (initializeDatabase old).devices

theorem OlderDatabase.migratedRow_eq {old : OlderDatabase} {t : TelemetryTable}
    (h : old.hasDeviceId = t.hasDeviceId) (row : OlderTelemetryRow) :
    old.migratedRow row = t.readRow row := by
  have hidentity : old.identity row = t.identity row := by
    rw [OlderDatabase.identity, TelemetryTable.identity, h]
    split
    · cases row.deviceId with
      | none => rfl
      | some deviceId => by_cases hblank : isBlank deviceId <;> simp [Option.filter_some, hblank]
    · rfl
  rw [OlderDatabase.migratedRow, hidentity]
  rfl

theorem rows_initializeDatabase {old : OlderDatabase} {d : StoredDatabase}
    (h : old.Describes d) : (initializeDatabase old).telemetry.rows =
      d.telemetry.elim [] fun t ↦ t.rows.rows.map t.readRow := by
  change old.telemetry.rows.map old.migratedRow = _
  rw [h.telemetry, telemetryRows]
  cases ht : d.telemetry with
  | none => rfl
  | some t => exact List.map_congr_left fun row _ ↦ old.migratedRow_eq (h.hasDeviceId t ht) row

theorem stage_mem_schemaStages (item : SchemaItem) : item.stage ∈ schemaStages := by
  apply List.mem_map_of_mem
  cases item with
  | table t => cases t <;> simp [schemaSql]
  | index i => cases i <;> simp [schemaSql]
  | healthColumn c => cases c <;> simp [healthMigrationColumns]
  | telemetryDeviceId => simp
  | pendingExtremeValue => simp

theorem not_needed_complete (d : StoredDatabase) (item : SchemaItem) :
    item.needed (Stage.complete schemaStages d) = false :=
  Stage.needed_complete settle_schemaStages d item.stage (stage_mem_schemaStages item)

theorem TelemetryTable.isBlank_identity (t : TelemetryTable) (row : OlderTelemetryRow) :
    isBlank (t.identity row) = false := by
  by_cases h : row.deviceId.all isBlank = true
  · rw [identity_of_blank h]
    exact isBlank_legacyDeviceIdentity
  · rw [identity]
    split
    · cases hid : row.deviceId with
      | none =>
        rw [hid] at h
        exact absurd rfl h
      | some deviceId =>
        have hnot : isBlank deviceId = false := by simpa [hid] using h
        simp [Option.filter_some, hnot]
    · exact isBlank_legacyDeviceIdentity

section Migrated
variable {d : StoredDatabase}

theorem telemetryRows_finish (h : SchemaItem.telemetryDeviceId.needed d = false) :
    d.finish.telemetryRows = d.identifiedRows := by
  change (d.telemetry.map TelemetryTable.fillDeviceIds).elim [] _ = d.telemetry.elim [] _
  cases ht : d.telemetry with
  | none => rfl
  | some t =>
    have hcolumn : t.hasDeviceId = true := by simpa [SchemaItem.needed, ht] using h
    exact TelemetryTable.identifiedRows_eq_rows hcolumn

/-- The rows that are read are the older ones with their identities. -/
theorem telemetryRead_of_rows {d' : StoredDatabase} (h : d'.telemetryRows = d.identifiedRows) :
    d'.telemetryRead = d.telemetry.elim [] fun t ↦ t.rows.rows.map t.readRow := by
  have hread : d'.telemetryRead = d'.telemetryRows.filterMap fun row ↦
      row.deviceId.map fun deviceId ↦ ⟨row.id, deviceId, row.timestamp, row.temperature,
        row.humidity, row.machineStatus⟩ := by
    rw [telemetryRead, telemetryRows]
    cases d'.telemetry <;> rfl
  rw [hread, h, identifiedRows]
  cases d.telemetry with
  | none => rfl
  | some t =>
    change (t.rows.rows.map _).filterMap _ = _
    rw [List.filterMap_map]
    exact congrFun (List.filterMap_eq_map (f := t.readRow)) t.rows.rows

/-- No row that is read has a blank identity. -/
theorem filter_telemetryRead {d' : StoredDatabase}
    (h : d'.telemetryRead = d.telemetry.elim [] fun t ↦ t.rows.rows.map t.readRow) :
    d'.telemetryRead.filter (fun row ↦ !isBlank row.deviceId) = d'.telemetryRead := by
  rw [List.filter_eq_self, h]
  intro row hrow
  cases ht : d.telemetry with
  | none =>
    rw [ht] at hrow
    cases hrow
  | some t =>
    rw [ht] at hrow
    obtain ⟨older, -, rfl⟩ := List.mem_map.mp hrow
    rw [TelemetryTable.readRow, t.isBlank_identity]
    rfl

theorem registry_finish (h : (SchemaItem.table .devices).needed d = false) :
    d.finish.registry = backfill d.finish.telemetryRead d.registry := by
  cases hdevices : d.devices with
  | none => simp [SchemaItem.needed, hdevices] at h
  | some devices =>
    change (d.devices.map (backfill d.finish.telemetryRead)).getD .empty =
      backfill d.finish.telemetryRead (d.devices.getD .empty)
    rw [hdevices]
    rfl

end Migrated

theorem migrated_migrated (d : StoredDatabase) : Migrated d d.migrated := by
  have hrows : SameRows d (Stage.complete schemaStages d.rebuilt) :=
    (sameRows_rebuilt d).trans (sameRows_complete d.rebuilt)
  have htelemetry : d.migrated.telemetryRows = d.identifiedRows :=
    (telemetryRows_finish (not_needed_complete d.rebuilt _)).trans hrows.telemetry
  have hread := telemetryRead_of_rows htelemetry
  have hregistry : d.migrated.registry = backfill d.migrated.telemetryRead d.registry := by
    have hfinish := registry_finish (not_needed_complete d.rebuilt (.table .devices))
    rw [registry_complete, registry_rebuilt] at hfinish
    exact hfinish
  constructor
  · exact hrows.trans (sameRows_finish _)
  · exact htelemetry
  · intro k
    rw [hregistry, find_backfill_eq, filter_telemetryRead hread]
    apply congrArg ((d.registry.find k).or ·)
    apply if_congr _ rfl rfl
    rw [hread, identifiedRows]
    cases d.telemetry with
    | none => simp
    | some t => simp [TelemetryTable.identifiedRows, TelemetryTable.readRow]
  · constructor
    · exact schemaMigration.ready_final (ready_rebuilt d)
    · intro item
      exact finishes_schemaStages.finish_kept item.stage (stage_mem_schemaStages item) _
        (not_needed_complete d.rebuilt item)
  · intro old hold
    have hrows' : d.migrated.telemetryRead = (initializeDatabase old).telemetry.rows :=
      hread.trans (rows_initializeDatabase hold).symm
    refine ⟨hrows', ?_⟩
    rw [hregistry, hrows', ← hold.devices]
    rfl

/-- A run without interruption keeps what the database held, brings it to the schema, and leaves
nothing to another run. -/
theorem migrateDatabase_migrates {d : StoredDatabase} (hnone : d.NoneLeft)
    (hfit : d.rebuildsRules = true → d.RulesFit) :
    ∃ d', migrateDatabase.runOn d [] = ⟨d', some (.ok ())⟩ ∧ Migrated d d' ∧
      migrateDatabase.runOn d' [] = ⟨d', some (.ok ())⟩ := by
  refine ⟨d.migrated, runOn_migrateDatabase hnone hfit, migrated_migrated d, ?_⟩
  have hready : d.migrated.Ready := schemaMigration.ready_final (ready_rebuilt d)
  have hagain := schemaMigration.runOn_nil hready
  rw [migrated, schemaMigration.final_final (ready_rebuilt d)] at hagain
  exact hagain

/-- A rule of an older database. -/
def sampleOlderRule : AlertRule where
  id := 1
  name := Text.ofString "hot"
  deviceId := legacyDeviceIdentity
  metric := .temperature
  operator := .greaterThan
  threshold := 30
  durationSeconds := 0
  hysteresis := 0
  severity := .warning
  enabled := true
  createdAt := 0
  updatedAt := 0
  archivedAt := none

/-- A database file of before devices and archived rules. -/
def sampleStored : StoredDatabase where
  telemetry := some ⟨false, .empty⟩
  devices := none
  deviceHealthCurrent := none
  alertRules := some {
    hasArchivedAt := false
    nameUnique := true
    rows := ⟨⟨[sampleOlderRule], List.nodup_singleton _⟩, 1, by simp [sampleOlderRule]⟩
    absent := by simp [sampleOlderRule]
    names_apart := by simp [AlertRule.sameActiveName] }
  alertRulesNew := none
  alertRuleStates := none
  alertEvents := some ⟨false, .empty⟩
  alertEventsNew := none
  indexes := fun _ ↦ false

theorem rulesFit_sampleStored : sampleStored.RulesFit := by
  intro t ht rule hrule
  cases ht
  rw [List.mem_singleton.mp hrule]
  simp [AlertRule.checks, sampleOlderRule, Text.ofString, Text.stripWith]

theorem migrateDatabase_migrates_sample :
    ∃ d', migrateDatabase.runOn sampleStored [] = ⟨d', some (.ok ())⟩ ∧ Migrated sampleStored d' ∧
      migrateDatabase.runOn d' [] = ⟨d', some (.ok ())⟩ :=
  migrateDatabase_migrates ⟨rfl, rfl⟩ fun _ ↦ rulesFit_sampleStored

/-! ### Interrupted runs -/

/-- What becomes of the rebuilding of the alert tables in a run. -/
inductive RebuildEnd where
  /-- Its first statement has no effect. -/
  | untouched
  /-- Its first statement is committed, and its transaction is not. -/
  | left
  /-- Both are committed. -/
  | done
  deriving DecidableEq

/-- The end that the fate of a run's commits gives a rebuilding. -/
def rebuildEnd : List (Fault SqlError) → RebuildEnd
  | .failed _ :: _ | .lostBefore :: _ => .untouched
  | .lostAfter :: _ | .applied :: .failed _ :: _ | .applied :: .lostBefore :: _ => .left
  | _ => .done

/-- The first run that gets as far as the first statement of a rebuilding ends between that and
the commit. -/
def FirstLeft (runs : List (List (Fault SqlError))) : Prop :=
  (runs.map rebuildEnd).find? (· ≠ .untouched) = some .left

instance (runs : List (List (Fault SqlError))) : Decidable (FirstLeft runs) :=
  inferInstanceAs (Decidable (_ = _))

section Interrupted
variable {d : StoredDatabase}

theorem firstLeft_cons (faults : List (Fault SqlError)) (runs : List (List (Fault SqlError))) :
    FirstLeft (faults :: runs) ↔
      match rebuildEnd faults with
      | .untouched => FirstLeft runs
      | .left => True
      | .done => False := by
  rw [FirstLeft, List.map_cons, List.find?_cons]
  cases rebuildEnd faults <;> simp [FirstLeft]

/-- What an interrupted run leaves of a database that needs a rebuilding. -/
theorem runOn_not_ready (hready : ¬ d.Ready) (hnone : d.NoneLeft)
    (hfit : d.rebuildsRules = true → d.RulesFit) (faults : List (Fault SqlError)) :
    match rebuildEnd faults with
    | .untouched => (migrateDatabase.runOn d faults).database = d
    | .left => (migrateDatabase.runOn d faults).database = d.started
    | .done => (migrateDatabase.runOn d faults).database.Ready ∧
        schemaMigration.final (migrateDatabase.runOn d faults).database = d.migrated := by
  have hplan := (plans_migrateDatabase hready hnone hfit).runOn_eq
  have hschema (faults : List (Fault SqlError)) := schemaMigration.ready_runOn (ready_rebuilt d)
    faults
  simp only [(schemaMigration.plans d.rebuilt (ready_rebuilt d)).runOn_eq] at hschema
  match faults with
  | .failed _ :: _ | .lostBefore :: _ | .lostAfter :: _ | .applied :: .failed _ :: _
  | .applied :: .lostBefore :: _ =>
    rw [hplan]
    rfl
  | .applied :: .applied :: faults =>
    rw [hplan]
    exact hschema faults
  | .applied :: .lostAfter :: faults =>
    rw [hplan]
    exact ⟨ready_rebuilt d, rfl⟩
  | [.applied] =>
    rw [hplan, Sql.follow, Sql.follow_cons_nil]
    exact hschema []
  | [] =>
    rw [hplan, Sql.follow_cons_nil, Sql.follow_cons_nil]
    exact hschema []

/-- A table that is left stops every later run. -/
theorem run_started (hready : ¬ d.Ready) (runs : List (List (Fault SqlError))) :
    (Sql.runs migrateDatabase).run d.started runs = d.started := by
  let Inv (d' : StoredDatabase) : Prop := d' = d.started
  have hstep : ∀ d' faults, Inv d' → Inv ((Sql.runs migrateDatabase).step d' faults).1 := by
    rintro d' faults rfl
    change (migrateDatabase.runOn d.started faults).database = _
    rw [(plans_migrateDatabase_started hready).runOn_eq]
    cases faults <;> rfl
  have hstart : Inv d.started := rfl
  exact Machine.invariant _ hstep hstart runs

/-- What runs leave of a database that needs a rebuilding. -/
theorem run_not_ready (hready : ¬ d.Ready) (hnone : d.NoneLeft)
    (hfit : d.rebuildsRules = true → d.RulesFit) (runs : List (List (Fault SqlError))) :
    let left := (Sql.runs migrateDatabase).run d runs
    (FirstLeft runs → left = d.started) ∧
      (¬ FirstLeft runs → left = d ∨ left.Ready ∧ schemaMigration.final left = d.migrated) := by
  induction runs with
  | nil => exact ⟨nofun, fun _ ↦ .inl rfl⟩
  | cons faults runs ih =>
    have hrun := runOn_not_ready hready hnone hfit faults
    rw [firstLeft_cons]
    intro left
    have hleft : left = (Sql.runs migrateDatabase).run (migrateDatabase.runOn d faults).database
      runs := rfl
    cases hend : rebuildEnd faults with
    | untouched =>
      rw [hend] at hrun
      rw [hleft, hrun]
      exact ih
    | left =>
      rw [hend] at hrun
      rw [hleft, hrun]
      exact ⟨fun _ ↦ run_started hready runs, fun h ↦ absurd trivial h⟩
    | done =>
      rw [hend] at hrun
      obtain ⟨hready', hfinal⟩ := schemaMigration.ready_run hrun.1 runs
      rw [hleft]
      exact ⟨False.elim, fun _ ↦ .inr ⟨hready', hfinal.trans hrun.2⟩⟩

/-- What runs leave of a database whose rules do not meet the checks of the new table. -/
theorem run_unfit (hrules : d.rebuildsRules = true) (hnone : d.NoneLeft) (hfit : ¬ d.RulesFit)
    (runs : List (List (Fault SqlError))) :
    (Sql.runs migrateDatabase).run d runs = d ∨
      (Sql.runs migrateDatabase).run d runs = d.started := by
  have hready : ¬ d.Ready := fun h ↦ Bool.false_ne_true (h.1.symm.trans hrules)
  let Inv (d' : StoredDatabase) : Prop := d' = d ∨ d' = d.started
  have hstep : ∀ d' faults, Inv d' → Inv ((Sql.runs migrateDatabase).step d' faults).1 := by
    intro d' faults h
    rcases h with h | h
    · rw [h]
      change (migrateDatabase.runOn d faults).database = _ ∨
        (migrateDatabase.runOn d faults).database = _
      have hmem := Sql.database_follow_mem d [d.started] (.error .integrityError) faults
      rw [(plans_migrateDatabase_unfit hrules hnone hfit).runOn_eq]
      simpa using hmem
    · rw [h]
      exact .inr (run_started hready [faults])
  have hstart : Inv d := .inl rfl
  exact Machine.invariant _ hstep hstart runs

theorem runOn_started (hready : ¬ d.Ready) :
    migrateDatabase.runOn d.started [] = ⟨d.started, some (.error .operationalError)⟩ := by
  rw [(plans_migrateDatabase_started hready).runOn_eq, Sql.follow]
  rfl

end Interrupted

/-- What keeps every later run from completing: a run that ended between the first statement of the
rebuilding of the alert tables and its commit, or a rule that does not meet the checks of the new
table. -/
def Stopped (d : StoredDatabase) (runs : List (List (Fault SqlError))) : Prop :=
  ¬ d.Ready ∧ (FirstLeft runs ∨ d.rebuildsRules = true ∧ ¬ d.RulesFit)

/-- However often it is interrupted, the migration ends as without interruption at the next run that
is not, unless it is stopped; then no run completes, and the file holds what it held. -/
theorem migrateDatabase_recovers_iff {d : StoredDatabase} (hnone : d.NoneLeft)
    (runs : List (List (Fault SqlError))) :
    let next := migrateDatabase.runOn ((Sql.runs migrateDatabase).run d runs) []
    (Stopped d runs → (∃ e, next.result = some (.error e)) ∧ next.database = d.started) ∧
      (¬ Stopped d runs → next = migrateDatabase.runOn d [] ∧ next.result = some (.ok ())) := by
  intro next
  by_cases hready : d.Ready
  · obtain ⟨hready', hfinal⟩ := schemaMigration.ready_run hready runs
    have hnext : next = ⟨schemaMigration.final d, some (.ok ())⟩ :=
      hfinal ▸ schemaMigration.runOn_nil hready'
    rw [hnext]
    exact ⟨fun h ↦ absurd hready h.1, fun _ ↦ ⟨(schemaMigration.runOn_nil hready).symm, rfl⟩⟩
  have hstarted := runOn_started hready
  by_cases hunfit : d.rebuildsRules = true ∧ ¬ d.RulesFit
  · obtain ⟨hrules, hfit⟩ := hunfit
    refine ⟨fun _ ↦ ?_, fun h ↦ absurd ⟨hready, .inr ⟨hrules, hfit⟩⟩ h⟩
    rcases run_unfit hrules hnone hfit runs with hleft | hleft
    · have hnext : next = ⟨d.started, some (.error .integrityError)⟩ := by
        change migrateDatabase.runOn _ [] = _
        rw [hleft, (plans_migrateDatabase_unfit hrules hnone hfit).runOn_eq, Sql.follow]
        rfl
      rw [hnext]
      exact ⟨⟨_, rfl⟩, rfl⟩
    · have hnext : next = ⟨d.started, some (.error .operationalError)⟩ := by
        rw [← hstarted, ← hleft]
      rw [hnext]
      exact ⟨⟨_, rfl⟩, rfl⟩
  have hfit : d.rebuildsRules = true → d.RulesFit := fun h ↦ by_contra fun hnot ↦ hunfit ⟨h, hnot⟩
  have hiff : Stopped d runs ↔ FirstLeft runs := by
    rw [Stopped, or_iff_left hunfit]
    exact and_iff_right hready
  have hrun := runOn_migrateDatabase hnone hfit
  obtain ⟨hleft, hnot⟩ := run_not_ready hready hnone hfit runs
  rw [hiff]
  constructor
  · intro h
    have hnext : next = ⟨d.started, some (.error .operationalError)⟩ := by
      rw [← hstarted, ← hleft h]
    rw [hnext]
    exact ⟨⟨_, rfl⟩, rfl⟩
  · intro h
    have hnext : next = ⟨d.migrated, some (.ok ())⟩ := by
      rcases hnot h with hsame | ⟨hready', hfinal⟩
      · rw [← hrun]
        exact congrArg (migrateDatabase.runOn · []) hsame
      · rw [← hfinal]
        exact schemaMigration.runOn_nil hready'
    rw [hnext, hrun]
    exact ⟨rfl, rfl⟩

/-- A run that is cut after its first commit stops the later ones, and one that is cut after its
second commit does not. -/
theorem migrateDatabase_recovers_iff_sample :
    (migrateDatabase.runOn ((Sql.runs migrateDatabase).run sampleStored [[.lostAfter]]) []).result ≠
        some (.ok ()) ∧
      (migrateDatabase.runOn ((Sql.runs migrateDatabase).run sampleStored
        [[.lostBefore], [.applied, .lostAfter]]) []).result = some (.ok ()) := by
  have hready : ¬ sampleStored.Ready := by decide
  constructor
  · obtain ⟨⟨e, he⟩, -⟩ := (migrateDatabase_recovers_iff (d := sampleStored) ⟨rfl, rfl⟩
      [[.lostAfter]]).1 ⟨hready, .inl (by decide)⟩
    rw [he]
    simp
  · have hnot : ¬ Stopped sampleStored [[.lostBefore], [.applied, .lostAfter]] := by
      rintro ⟨-, h | ⟨-, h⟩⟩
      · revert h
        decide
      · exact h rulesFit_sampleStored
    exact ((migrateDatabase_recovers_iff ⟨rfl, rfl⟩ _).2 hnot).2

end EdgeMonitor.Backend
