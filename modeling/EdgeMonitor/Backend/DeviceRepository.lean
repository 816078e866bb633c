import EdgeMonitor.Backend.MessageSchemas

/-!
# The device repository

Library `Backend`. The statements of `backend/repositories/device_repository.py`, with the
insertion of `backend/repositories/telemetry_repository.py`. Each function works on a connection
of its own.
-/

namespace EdgeMonitor.Backend
open EdgeMonitor.Base

/-! ### Stored messages -/

/-- The two values of `reported_availability`. -/
def onlineText : Text := Text.ofString "online"
def offlineText : Text := Text.ofString "offline"

/-- The row that `insert_telemetry` inserts, under its id. -/
def TelemetryMessage.row (message : TelemetryMessage) (id : Nat) : TelemetryRow where
  id
  deviceId := message.deviceId
  timestamp := message.timestamp.stored
  temperature := message.temperature
  humidity := message.humidity
  machineStatus := message.machineStatus

/-- A time of `model_dump(mode="json")`. -/
def timeJson : Option DateTime → Json
  | none => .null
  | some time => .string time.stored

/-- The dump of a component. -/
def ComponentHealthMessage.dump (component : ComponentHealthMessage) : Json :=
  .object [(Text.ofString "status", .string component.status),
    (Text.ofString "error_code", .string component.errorCode),
    (Text.ofString "updated_at", timeJson component.updatedAt)]

/-- What `upsert_health` reads of `model_dump(mode="json")` of a health message. -/
structure HealthDump where
  deviceId : Text
  timestamp : Option Text
  status : Text
  availability : Text
  components : Json
  counters : Json
  metrics : Json

/-- The whole dump. -/
def HealthDump.payload (dump : HealthDump) : Json :=
  .object [(Text.ofString "schema_version", .integer 1),
    (Text.ofString "device_id", .string dump.deviceId),
    (Text.ofString "timestamp", dump.timestamp.elim .null .string),
    (Text.ofString "status", .string dump.status),
    (Text.ofString "availability", .string dump.availability),
    (Text.ofString "components", dump.components), (Text.ofString "counters", dump.counters),
    (Text.ofString "metrics", dump.metrics)]

/-- The row of a dump. -/
def HealthDump.row (dump : HealthDump) (deviceId : Text) (receivedAt : Instant) :
    DeviceHealthRow where
  deviceId
  payload := dump.payload
  deviceTimestamp := dump.timestamp
  status := dump.status
  availability := dump.availability
  components := dump.components
  counters := dump.counters
  metrics := dump.metrics
  receivedAt

/-- The `CHECK` constraints of `device_health_current`. -/
def DeviceHealthRow.checks (row : DeviceHealthRow) : Bool :=
  (["healthy", "degraded"].map Text.ofString).contains row.status &&
    (["online", "offline"].map Text.ofString).contains row.availability

/-! ### Statements -/

/-- Insert a row of `devices`, or change the one that is there. The change keeps
`reported_availability` or sets it to that of the row, so the `CHECK` is one of the row. -/
def upsertDevice (row : DeviceRow) (change : DeviceRow → DeviceRow)
    (h : ∀ r, (change r).deviceId = r.deviceId) (db : Database) : Except PyError Database :=
  if row.reportedAvailability = onlineText ∨ row.reportedAvailability = offlineText then
    .ok { db with devices := db.devices.upsert row change h }
  else .error .integrityError

/-- `SET last_seen = excluded.last_seen`. -/
def seenAt (receivedAt : Instant) (row : DeviceRow) : DeviceRow :=
  { row with lastSeen := some receivedAt }

/-- The statement that `mark_seen` and `upsert_health` have in common but for the availability
of a new row. -/
def upsertSeen (deviceId availability : Text) (receivedAt : Instant) :
    Database → Except PyError Database :=
  upsertDevice ⟨deviceId, availability, some receivedAt, none⟩ (seenAt receivedAt) fun _ ↦ rfl

/-- The conflict clause of `set_availability`. -/
def reportedAt (availability : Text) (receivedAt : Instant) (row : DeviceRow) : DeviceRow where
  deviceId := row.deviceId
  reportedAvailability := availability
  lastSeen := if availability = onlineText then some receivedAt else row.lastSeen
  availabilityUpdatedAt := some receivedAt

/-- The second statement of `upsert_health`, with the foreign key. -/
def upsertHealthRow (row : DeviceHealthRow) (db : Database) : Except PyError Database :=
  if row.checks ∧ (db.devices.find row.deviceId).isSome then
    .ok { db with
      deviceHealthCurrent := db.deviceHealthCurrent.upsert row
        (fun r ↦ { row with deviceId := r.deviceId }) fun _ ↦ rfl }
  else .error .integrityError

namespace DeviceRepository

/-- `mark_seen`, `device_repository.py:6–15`. -/
def markSeen (deviceId : Text) (receivedAt : Instant) (assumeOnline : Bool) :
    Session Database PyError Unit :=
  Session.withConnection
    (Block.execute
      (upsertSeen deviceId (if assumeOnline then onlineText else offlineText) receivedAt))

/-- `set_availability`, `device_repository.py:18–32`. -/
def setAvailability (deviceId availability : Text) (receivedAt : Instant) :
    Session Database PyError Unit :=
  Session.withConnection
    (Block.execute (upsertDevice ⟨deviceId, availability, some receivedAt, some receivedAt⟩
      (reportedAt availability receivedAt) fun _ ↦ rfl))

/-- `upsert_health`, `device_repository.py:35–72`. -/
def upsertHealth (deviceId : Text) (dump : HealthDump) (receivedAt : Instant) :
    Session Database PyError Unit :=
  Session.withConnection do
    Block.execute (upsertSeen deviceId onlineText receivedAt)
    Block.execute (upsertHealthRow (dump.row deviceId receivedAt))

end DeviceRepository

namespace TelemetryRepository

/-- `insert_telemetry`, `telemetry_repository.py:50–76`; it returns the id. -/
def insertTelemetry (message : TelemetryMessage) : Session Database PyError Nat :=
  Session.withConnection
    (.statement (fun db ↦ .ok ({ db with telemetry := db.telemetry.insert message.row fun _ ↦ rfl },
      db.telemetry.sequence + 1)) .done)

end TelemetryRepository

/-! ### What they change -/

theorem eval_execute {f : Database → Except PyError Database} {db db' : Database}
    (h : f db = .ok db') : (Block.execute f).eval db = .ok (⟨⟩, db') := by
  rw [Block.execute, Block.eval, h]
  rfl

/-- A statement that is the whole work of its connection. -/
theorem run_execute {f : Database → Except PyError Database} {db db' : Database}
    (h : f db = .ok db') : (Session.withConnection (Block.execute f)).run db = (.ok ⟨⟩, db') := by
  rw [Session.run_withConnection, eval_execute h]

theorem upsertDevice_eq_ok {row : DeviceRow} {change : DeviceRow → DeviceRow}
    {h : ∀ r, (change r).deviceId = r.deviceId}
    (hrow : row.reportedAvailability = onlineText ∨ row.reportedAvailability = offlineText)
    (db : Database) : upsertDevice row change h db =
      .ok { db with devices := db.devices.upsert row change h } := if_pos hrow

/-- The devices after one has been seen. -/
def seenDevices (deviceId availability : Text) (receivedAt : Instant)
    (devices : Table DeviceRow.deviceId) : Table DeviceRow.deviceId :=
  devices.upsert ⟨deviceId, availability, some receivedAt, none⟩ (seenAt receivedAt) fun _ ↦ rfl

/-- The devices after one has reported its availability. -/
def reportedDevices (deviceId availability : Text) (receivedAt : Instant)
    (devices : Table DeviceRow.deviceId) : Table DeviceRow.deviceId :=
  devices.upsert ⟨deviceId, availability, some receivedAt, some receivedAt⟩
    (reportedAt availability receivedAt) fun _ ↦ rfl

/-- The snapshots after one has been replaced. -/
def replacedHealth (row : DeviceHealthRow) (snapshots : Table DeviceHealthRow.deviceId) :
    Table DeviceHealthRow.deviceId :=
  snapshots.upsert row (fun r ↦ { row with deviceId := r.deviceId }) fun _ ↦ rfl

theorem find_seenDevices (deviceId availability : Text) (receivedAt : Instant)
    (devices : Table DeviceRow.deviceId) (k : Text) :
    (seenDevices deviceId availability receivedAt devices).find k =
      if k = deviceId then
        some ((devices.find k).elim ⟨deviceId, availability, some receivedAt, none⟩
          (seenAt receivedAt))
      else devices.find k := Table.find_upsert ..

theorem find_reportedDevices (deviceId availability : Text) (receivedAt : Instant)
    (devices : Table DeviceRow.deviceId) (k : Text) :
    (reportedDevices deviceId availability receivedAt devices).find k =
      if k = deviceId then
        some ((devices.find k).elim ⟨deviceId, availability, some receivedAt, some receivedAt⟩
          (reportedAt availability receivedAt))
      else devices.find k := Table.find_upsert ..

/-- The row is the new one, whatever was there. -/
theorem find_replacedHealth (row : DeviceHealthRow)
    (snapshots : Table DeviceHealthRow.deviceId) (k : Text) :
    (replacedHealth row snapshots).find k =
      if k = row.deviceId then some row else snapshots.find k := by
  rw [replacedHealth, Table.find_upsert]
  by_cases hk : k = row.deviceId
  · rw [if_pos hk, if_pos hk, hk]
    cases h : snapshots.find row.deviceId with
    | none => rfl
    | some r =>
      have hkey : r.deviceId = row.deviceId := ((Table.find_eq_some_iff _ _ _).mp h).2
      rw [Option.elim_some, hkey]
  · rw [if_neg hk, if_neg hk]

theorem run_markSeen (deviceId : Text) (receivedAt : Instant) (assumeOnline : Bool)
    (db : Database) : (DeviceRepository.markSeen deviceId receivedAt assumeOnline).run db =
      (.ok (), { db with
        devices := seenDevices deviceId (if assumeOnline then onlineText else offlineText)
          receivedAt db.devices }) := by
  apply run_execute
  apply upsertDevice_eq_ok
  cases assumeOnline with
  | true => exact .inl rfl
  | false => exact .inr rfl

theorem run_setAvailability {availability : Text}
    (h : availability = onlineText ∨ availability = offlineText) (deviceId : Text)
    (receivedAt : Instant) (db : Database) :
    (DeviceRepository.setAvailability deviceId availability receivedAt).run db =
      (.ok (), { db with
        devices := reportedDevices deviceId availability receivedAt db.devices }) :=
  run_execute (upsertDevice_eq_ok h db)

/-- The device that has been seen meets the foreign key of its snapshot. -/
theorem run_upsertHealth {dump : HealthDump} {deviceId : Text} {receivedAt : Instant}
    (h : (dump.row deviceId receivedAt).checks = true) (db : Database) :
    (DeviceRepository.upsertHealth deviceId dump receivedAt).run db =
      (.ok (), { db with
        devices := seenDevices deviceId onlineText receivedAt db.devices
        deviceHealthCurrent :=
          replacedHealth (dump.row deviceId receivedAt) db.deviceHealthCurrent }) := by
  have hseen : ((seenDevices deviceId onlineText receivedAt db.devices).find
      deviceId).isSome = true := by
    rw [find_seenDevices, if_pos rfl]
    rfl
  have hfirst : upsertSeen deviceId onlineText receivedAt db =
      .ok { db with devices := seenDevices deviceId onlineText receivedAt db.devices } :=
    upsertDevice_eq_ok (.inl rfl) db
  have hrow : upsertHealthRow (dump.row deviceId receivedAt)
      { db with devices := seenDevices deviceId onlineText receivedAt db.devices } =
      .ok { db with
        devices := seenDevices deviceId onlineText receivedAt db.devices
        deviceHealthCurrent :=
          replacedHealth (dump.row deviceId receivedAt) db.deviceHealthCurrent } :=
    if_pos ⟨h, hseen⟩
  rw [DeviceRepository.upsertHealth, Session.run_withConnection, Block.eval_execute_bind, hfirst]
  dsimp only [Except.bind]
  rw [eval_execute hrow]

theorem run_insertTelemetry (message : TelemetryMessage) (db : Database) :
    (TelemetryRepository.insertTelemetry message).run db =
      (.ok (db.telemetry.sequence + 1),
        { db with telemetry := db.telemetry.insert message.row fun _ ↦ rfl }) := by
  rw [TelemetryRepository.insertTelemetry, Session.run_withConnection]
  rfl

end EdgeMonitor.Backend
