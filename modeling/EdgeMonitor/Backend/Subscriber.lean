import EdgeMonitor.Backend.AlertEngine
import EdgeMonitor.Backend.DeviceRepository

/-!
# The subscriber

Library `Backend`. `process_message` of `backend/collector/subscriber.py`. Decoding and parsing
the payload and the writing of a dictionary key by pydantic are parameters; so is the time of
reception.
-/

namespace EdgeMonitor.Backend
open EdgeMonitor.Base

/-! ### Topics -/

/-- The settings that the subscriber reads. -/
structure CollectorSettings where
  mqttTopic : Text
  mqttTopicPrefix : Text

/-- The last level of a per-device topic. -/
inductive MessageKind where
  | telemetry
  | health
  | availability
  deriving DecidableEq

def MessageKind.text : MessageKind → Text
  | telemetry => Text.ofString "telemetry"
  | health => Text.ofString "health"
  | availability => Text.ofString "availability"

/-- The kind that a text names. -/
def MessageKind.ofText (text : Text) : Option MessageKind :=
  [telemetry, health, availability].find? (·.text == text)

/-- What per-device topics start with. -/
def CollectorSettings.topicStart (settings : CollectorSettings) : Text :=
  settings.mqttTopicPrefix.stripWith (· == 0x2F) ++ [0x2F]

/-- `_route_topic`, `subscriber.py:36–45`. -/
def routeTopic (settings : CollectorSettings) (topic : Text) : Option (Text × MessageKind) :=
  if topic = settings.mqttTopic then some (legacyDeviceIdentity, .telemetry)
  else if settings.topicStart.isPrefixOf topic then
    match (topic.drop settings.topicStart.length).splitOn 0x2F with
    | [deviceId, kind] => (MessageKind.ofText kind).map (deviceId, ·)
    | _ => none
  else none

/-! ### Identities -/

/-- `payload["device_id"] = settings.LEGACY_DEVICE_ID`. -/
def setDeviceId (deviceId : Text) : Json → Except PyError Json
  | .object members => .ok (.object (Json.setMember members (Text.ofString "device_id")
      (.string deviceId)))
  | _ => .error .typeError

/-- `payload.get("device_id")`. -/
def getDeviceId : Json → Except PyError (Option Json)
  | .object members => .ok (Json.member members (Text.ofString "device_id"))
  | _ => .error .attributeError

/-- The identity checks of `process_message`, `subscriber.py:56–68`, with the payload that goes
on. -/
def identify (settings : CollectorSettings) (topic topicDeviceId : Text) (payload : Json) :
    Except PyError Json := do
  let payload ←
    if topic = settings.mqttTopic then setDeviceId legacyDeviceIdentity payload
    else if validateProvisionableDeviceId topicDeviceId then .ok payload
    else .error .valueError
  match ← getDeviceId payload with
  | some (.string deviceId) => if deviceId = topicDeviceId then .ok payload else .error .valueError
  | _ => .error .valueError

/-! ### Processing -/

/-- The instant of a UTC time. -/
def DateTime.instant (time : DateTime) : Instant :=
  (clockSeconds time.date time.hour time.minute time.second - 62135683200) * 1000000 +
    time.microsecond

/-- `alert_engine.evaluate(stored)`, which reads the stored text of the timestamp. -/
def evaluateStored (message : TelemetryMessage) (telemetryId : Nat) :
    Session Database PyError Unit :=
  match parseUtcTimestamp message.timestamp.stored with
  | .error (.valueError _) => .raise .valueError
  | .error .overflowError => .raise .overflowError
  | .ok eventTime =>
    AlertEngine.evaluate
      ⟨telemetryId, message.deviceId, eventTime.instant, message.temperature, message.humidity⟩

/-- The items of a dictionary in `model_dump(mode="json")`. -/
def dumpItems {α : Type} (dumpKey : Text → Except PyError Text) (dump : α → Json)
    (items : List (Text × α)) : Except PyError Json := do
  let dumped ← items.mapM fun item ↦ (dumpKey item.1).map (·, dump item.2)
  return .object (Json.items dumped)

/-- `model_dump(mode="json")` of a health message. -/
def HealthMessage.modelDump (dumpKey : Text → Except PyError Text) (message : HealthMessage) :
    Except PyError HealthDump := do
  let components ← dumpItems dumpKey ComponentHealthMessage.dump message.components
  let counters ← dumpItems dumpKey .integer message.counters
  let metrics ← dumpItems dumpKey id message.metrics
  return ⟨message.deviceId, message.timestamp.map DateTime.stored, message.status,
    message.availability, components, counters, metrics⟩

section

variable (settings : CollectorSettings) (loads : List UInt8 → Except PyError Json)
  (dumpKey : Text → Except PyError Text) (receivedAt : Instant)

/-- The last part of `process_message`, `subscriber.py:70–106`. -/
def storeMessage (topicDeviceId : Text) (assumeOnline : Bool) (messageType : MessageKind)
    (payload : Json) : Session Database PyError Unit :=
  match messageType with
  | .telemetry => do
    let message ← Session.ofExcept (modelValidate TelemetryMessage.check payload)
    let telemetryId ← TelemetryRepository.insertTelemetry message
    DeviceRepository.markSeen topicDeviceId receivedAt assumeOnline
    (evaluateStored message telemetryId).tryCatch fun _ ↦ pure ()
  | .health => do
    let message ← Session.ofExcept (modelValidate HealthMessage.check payload)
    let dump ← Session.ofExcept (message.modelDump dumpKey)
    DeviceRepository.upsertHealth topicDeviceId dump receivedAt
  | .availability => do
    let message ← Session.ofExcept (modelValidate AvailabilityMessage.check payload)
    DeviceRepository.setAvailability topicDeviceId message.status receivedAt

/-- `process_message`, `subscriber.py:48–106`. -/
def processMessage (topic : Text) (rawPayload : List UInt8) : Session Database PyError Unit :=
  match routeTopic settings topic with
  | none => .raise .valueError
  | some (topicDeviceId, messageType) => do
    let payload ← Session.ofExcept (loads rawPayload)
    let payload ← Session.ofExcept (identify settings topic topicDeviceId payload)
    storeMessage dumpKey receivedAt topicDeviceId (topic == settings.mqttTopic) messageType payload

end

/-! ### What is accepted -/

/-- The topic, the device and the kind of a message that can be accepted. -/
inductive Addressed (settings : CollectorSettings) (topic : Text) : Text → MessageKind → Prop
  | legacy (h : topic = settings.mqttTopic) :
      Addressed settings topic legacyDeviceIdentity .telemetry
  | device (deviceId : Text) (kind : MessageKind) (h : topic ≠ settings.mqttTopic)
      (htopic : topic = settings.topicStart ++ deviceId ++ 0x2F :: kind.text)
      (hid : validateProvisionableDeviceId deviceId = true) : Addressed settings topic deviceId kind

theorem ofText_eq_some {text : Text} {kind : MessageKind}
    (h : MessageKind.ofText text = some kind) : text = kind.text := by
  have hfound := List.find?_some h
  exact (eq_of_beq hfound).symm

theorem routeTopic_eq_some {settings : CollectorSettings} {topic deviceId : Text}
    {kind : MessageKind} (h : routeTopic settings topic = some (deviceId, kind)) :
    topic = settings.mqttTopic ∧ deviceId = legacyDeviceIdentity ∧ kind = .telemetry ∨
      topic ≠ settings.mqttTopic ∧
        topic = settings.topicStart ++ deviceId ++ 0x2F :: kind.text := by
  rw [routeTopic] at h
  by_cases hlegacy : topic = settings.mqttTopic
  · rw [if_pos hlegacy] at h
    cases h
    exact .inl ⟨hlegacy, rfl, rfl⟩
  · rw [if_neg hlegacy] at h
    by_cases hstart : settings.topicStart.isPrefixOf topic = true
    · rw [if_pos hstart] at h
      obtain ⟨rest, rfl⟩ := List.isPrefixOf_iff_prefix.mp hstart
      rw [List.drop_left] at h
      split at h
      next id level hsplit =>
        obtain ⟨kind', hkind, heq⟩ := Option.map_eq_some_iff.mp h
        cases heq
        have hrest : [0x2F].intercalate (rest.splitOn 0x2F) = rest := List.intercalate_splitOn 0x2F
        rw [hsplit, ofText_eq_some hkind] at hrest
        refine .inr ⟨hlegacy, ?_⟩
        rw [← hrest]
        simp
      next => cases h
    · rw [if_neg hstart] at h
      cases h

/-- The payload of a message that passes the identity checks. -/
theorem identify_eq_ok {settings : CollectorSettings} {topic deviceId : Text}
    {payload payload' : Json} (h : identify settings topic deviceId payload = .ok payload') :
    ∃ loaded, payload = .object loaded ∧
      let members :=
        if topic = settings.mqttTopic then
          Json.setMember loaded (Text.ofString "device_id") (.string legacyDeviceIdentity)
        else loaded
      payload' = .object members ∧
        Json.member members (Text.ofString "device_id") = some (.string deviceId) ∧
        (topic ≠ settings.mqttTopic → validateProvisionableDeviceId deviceId = true) := by
  have hlast (members : List (Text × Json)) (h : (do
      match ← getDeviceId (.object members) with
      | some (.string id) =>
        if id = deviceId then Except.ok (Json.object members) else .error PyError.valueError
      | _ => .error .valueError) = Except.ok payload') :
      payload' = .object members ∧
        Json.member members (Text.ofString "device_id") = some (.string deviceId) := by
    dsimp only [getDeviceId, bind, Except.bind] at h
    split at h
    next id hmember =>
      split at h
      next hid =>
        cases h
        exact ⟨rfl, hid ▸ hmember⟩
      next => cases h
    next => cases h
  rw [identify] at h
  by_cases hlegacy : topic = settings.mqttTopic
  · rw [if_pos hlegacy] at h
    cases payload with
    | object loaded =>
      refine ⟨loaded, rfl, ?_⟩
      dsimp only
      rw [if_pos hlegacy]
      obtain ⟨hpayload, hmember⟩ := hlast _ h
      exact ⟨hpayload, hmember, fun hne ↦ absurd hlegacy hne⟩
    | _ => cases h
  · rw [if_neg hlegacy] at h
    by_cases hid : validateProvisionableDeviceId deviceId = true
    · rw [if_pos hid] at h
      cases payload with
      | object loaded =>
        refine ⟨loaded, rfl, ?_⟩
        dsimp only
        rw [if_neg hlegacy]
        obtain ⟨hpayload, hmember⟩ := hlast loaded h
        exact ⟨hpayload, hmember, fun _ ↦ hid⟩
      | _ => cases h
    · rw [if_neg hid] at h
      cases h

/-- What is stored of a message. -/
inductive Message where
  | telemetry (message : TelemetryMessage)
  | health (dump : HealthDump)
  | availability (message : AvailabilityMessage)

/-- A payload conforms to the schema of its kind. -/
inductive Conforms (dumpKey : Text → Except PyError Text) (payload : Json) :
    MessageKind → Message → Prop
  | telemetry (message : TelemetryMessage)
      (h : modelValidate TelemetryMessage.check payload = .ok message) :
      Conforms dumpKey payload .telemetry (.telemetry message)
  | health (message : HealthMessage) (dump : HealthDump)
      (h : modelValidate HealthMessage.check payload = .ok message)
      (hdump : message.modelDump dumpKey = .ok dump) :
      Conforms dumpKey payload .health (.health dump)
  | availability (message : AvailabilityMessage)
      (h : modelValidate AvailabilityMessage.check payload = .ok message) :
      Conforms dumpKey payload .availability (.availability message)

theorem modelDump_eq_ok {dumpKey : Text → Except PyError Text} {message : HealthMessage}
    {dump : HealthDump} (h : message.modelDump dumpKey = .ok dump) :
    dump.status = message.status ∧ dump.availability = message.availability := by
  dsimp only [HealthMessage.modelDump, bind, Except.bind] at h
  cases hcomponents : dumpItems dumpKey ComponentHealthMessage.dump message.components with
  | error e =>
    rw [hcomponents] at h
    cases h
  | ok components =>
    rw [hcomponents] at h
    cases hcounters : dumpItems dumpKey Json.integer message.counters with
    | error e =>
      simp only [hcounters] at h
      cases h
    | ok counters =>
      simp only [hcounters] at h
      cases hmetrics : dumpItems dumpKey id message.metrics with
      | error e =>
        simp only [hmetrics] at h
        cases h
      | ok metrics =>
        simp only [hmetrics] at h
        cases h
        exact ⟨rfl, rfl⟩

/-! ### What is stored -/

/-- One row of a table is set, and the others are as before. -/
def SetsRow {α : Type} {key : α → Text} (t t' : Table key) (k : Text) (row : α) : Prop :=
  t'.find k = some row ∧ ∀ k', k' ≠ k → t'.find k' = t.find k'

/-- One row of telemetry is added and its device is seen, before alerts are evaluated. -/
structure TelemetryStored (message : TelemetryMessage) (receivedAt : Instant)
    (assumeOnline : Bool) (db db' : Database) : Prop where
  telemetry : db'.telemetry.rows =
    db.telemetry.rows ++ [message.row (db.telemetry.sequence + 1)]
  devices : SetsRow db.devices db'.devices message.deviceId
    ((db.devices.find message.deviceId).elim
      ⟨message.deviceId, if assumeOnline then onlineText else offlineText, some receivedAt, none⟩
      (seenAt receivedAt))
  health : db'.deviceHealthCurrent = db.deviceHealthCurrent
  rules : db'.alertRules = db.alertRules
  alerts : ∃ stored : Database, stored.alertRuleStates = db.alertRuleStates ∧
    stored.alertEvents = db.alertEvents ∧
    db' = ((evaluateStored message (db.telemetry.sequence + 1)).run stored).2

/-- The snapshot of a device is replaced, and it is seen. -/
structure HealthStored (deviceId : Text) (dump : HealthDump) (receivedAt : Instant)
    (db db' : Database) : Prop where
  telemetry : db'.telemetry = db.telemetry
  devices : SetsRow db.devices db'.devices deviceId
    ((db.devices.find deviceId).elim ⟨deviceId, onlineText, some receivedAt, none⟩
      (seenAt receivedAt))
  health : SetsRow db.deviceHealthCurrent db'.deviceHealthCurrent deviceId
    (dump.row deviceId receivedAt)
  rules : db'.alertRules = db.alertRules
  states : db'.alertRuleStates = db.alertRuleStates
  events : db'.alertEvents = db.alertEvents

/-- A device reports its availability. -/
structure AvailabilityStored (deviceId availability : Text) (receivedAt : Instant)
    (db db' : Database) : Prop where
  telemetry : db'.telemetry = db.telemetry
  devices : SetsRow db.devices db'.devices deviceId
    ((db.devices.find deviceId).elim ⟨deviceId, availability, some receivedAt, some receivedAt⟩
      (reportedAt availability receivedAt))
  health : db'.deviceHealthCurrent = db.deviceHealthCurrent
  rules : db'.alertRules = db.alertRules
  states : db'.alertRuleStates = db.alertRuleStates
  events : db'.alertEvents = db.alertEvents

/-- The effects of a message of a device. -/
def Message.Stored (deviceId : Text) (receivedAt : Instant) (assumeOnline : Bool)
    (db db' : Database) : Message → Prop
  | telemetry message =>
    message.deviceId = deviceId ∧ TelemetryStored message receivedAt assumeOnline db db'
  | health dump => HealthStored deviceId dump receivedAt db db'
  | availability message => AvailabilityStored deviceId message.status receivedAt db db'

theorem setsRow_seenDevices (deviceId availability : Text) (receivedAt : Instant)
    (devices : Table DeviceRow.deviceId) :
    SetsRow devices (seenDevices deviceId availability receivedAt devices) deviceId
      ((devices.find deviceId).elim ⟨deviceId, availability, some receivedAt, none⟩
        (seenAt receivedAt)) := by
  constructor
  · rw [find_seenDevices, if_pos rfl]
  · intro k hk
    rw [find_seenDevices, if_neg hk]

theorem setsRow_reportedDevices (deviceId availability : Text) (receivedAt : Instant)
    (devices : Table DeviceRow.deviceId) :
    SetsRow devices (reportedDevices deviceId availability receivedAt devices) deviceId
      ((devices.find deviceId).elim ⟨deviceId, availability, some receivedAt, some receivedAt⟩
        (reportedAt availability receivedAt)) := by
  constructor
  · rw [find_reportedDevices, if_pos rfl]
  · intro k hk
    rw [find_reportedDevices, if_neg hk]

theorem setsRow_replacedHealth (row : DeviceHealthRow)
    (snapshots : Table DeviceHealthRow.deviceId) :
    SetsRow snapshots (replacedHealth row snapshots) row.deviceId row := by
  constructor
  · rw [find_replacedHealth, if_pos rfl]
  · intro k hk
    rw [find_replacedHealth, if_neg hk]

/-- Alert evaluation leaves telemetry, devices, snapshots and rules as they are, also when it
fails. -/
theorem measured_evaluateStored (message : TelemetryMessage) (telemetryId : Nat) (db : Database) :
    AlertEngine.measured ((evaluateStored message telemetryId).run db).2 =
      AlertEngine.measured db := by
  rw [evaluateStored]
  split
  · rfl
  · rfl
  · exact AlertEngine.measured_evaluate _ _

/-- The texts of `literal ["online", "offline"]`. -/
theorem eq_of_availability {text : Text}
    (h : (["online", "offline"].map Text.ofString).contains text = true) :
    text = onlineText ∨ text = offlineText := by
  have hmem := List.contains_iff_mem.mp h
  simpa [onlineText, offlineText] using hmem

section

variable {dumpKey : Text → Except PyError Text} {receivedAt : Instant} {deviceId : Text}
  {assumeOnline : Bool}

/-- What happens once a telemetry message is valid. -/
theorem run_storeTelemetry {members : List (Text × Json)} {message : TelemetryMessage}
    (hmember : Json.member members (Text.ofString "device_id") = some (.string deviceId))
    (h : modelValidate TelemetryMessage.check (.object members) = .ok message) (db : Database) :
    ∃ db', (storeMessage dumpKey receivedAt deviceId assumeOnline .telemetry
        (.object members)).run db = (.ok (), db') ∧
      (Message.telemetry message).Stored deviceId receivedAt assumeOnline db db' := by
  have hid : message.deviceId = deviceId := by
    have hsame := TelemetryMessage.member_of_valid (modelValidate_eq_ok h)
    rw [hmember] at hsame
    cases hsame
    rfl
  subst hid
  let stored : Database := { db with
    telemetry := db.telemetry.insert message.row fun _ ↦ rfl
    devices := seenDevices message.deviceId (if assumeOnline then onlineText else offlineText)
      receivedAt db.devices }
  have hrun : (storeMessage dumpKey receivedAt message.deviceId assumeOnline .telemetry
      (.object members)).run db =
      (.ok (), ((evaluateStored message (db.telemetry.sequence + 1)).run stored).2) := by
    rw [storeMessage, h]
    change (TelemetryRepository.insertTelemetry message >>= fun telemetryId ↦
      DeviceRepository.markSeen message.deviceId receivedAt assumeOnline >>= fun _ ↦
        (evaluateStored message telemetryId).tryCatch fun _ ↦ pure ()).run db = _
    rw [Session.run_bind, run_insertTelemetry]
    dsimp only
    rw [Session.run_bind, run_markSeen]
    dsimp only
    rw [Session.run_tryCatch]
    split
    next a d heval =>
      rw [heval]
    next e d heval =>
      rw [heval]
      rfl
  have hframe := measured_evaluateStored message (db.telemetry.sequence + 1) stored
  rw [AlertEngine.measured, AlertEngine.measured, Prod.mk.injEq, Prod.mk.injEq,
    Prod.mk.injEq] at hframe
  obtain ⟨htelemetry, hdevices, hhealth, hrules⟩ := hframe
  refine ⟨_, hrun, rfl, ?_⟩
  constructor
  · rw [htelemetry]
    rfl
  · rw [hdevices]
    exact setsRow_seenDevices ..
  · exact hhealth
  · exact hrules
  · exact ⟨stored, rfl, rfl, rfl⟩

theorem run_storeHealth {payload : Json} {message : HealthMessage} {dump : HealthDump}
    (h : modelValidate HealthMessage.check payload = .ok message)
    (hdump : message.modelDump dumpKey = .ok dump) (db : Database) :
    ∃ db', (storeMessage dumpKey receivedAt deviceId assumeOnline .health payload).run db =
        (.ok (), db') ∧
      (Message.health dump).Stored deviceId receivedAt assumeOnline db db' := by
  have hchecks : (dump.row deviceId receivedAt).checks = true := by
    obtain ⟨hstatus, havailability⟩ := HealthMessage.literals_of_valid (modelValidate_eq_ok h)
    obtain ⟨hs, ha⟩ := modelDump_eq_ok hdump
    rw [← hs] at hstatus
    rw [← ha] at havailability
    rw [DeviceHealthRow.checks, Bool.and_eq_true]
    exact ⟨hstatus, havailability⟩
  have hstore : (storeMessage dumpKey receivedAt deviceId assumeOnline .health payload).run db =
      (DeviceRepository.upsertHealth deviceId dump receivedAt).run db := by
    rw [storeMessage, h]
    change (Session.ofExcept (message.modelDump dumpKey) >>= fun dump ↦
      DeviceRepository.upsertHealth deviceId dump receivedAt).run db = _
    rw [hdump]
    rfl
  rw [run_upsertHealth hchecks] at hstore
  refine ⟨_, hstore, ?_⟩
  constructor
  · rfl
  · exact setsRow_seenDevices ..
  · exact setsRow_replacedHealth (dump.row deviceId receivedAt) _
  · rfl
  · rfl
  · rfl

theorem run_storeAvailability {payload : Json} {message : AvailabilityMessage}
    (h : modelValidate AvailabilityMessage.check payload = .ok message) (db : Database) :
    ∃ db', (storeMessage dumpKey receivedAt deviceId assumeOnline .availability payload).run db =
        (.ok (), db') ∧
      (Message.availability message).Stored deviceId receivedAt assumeOnline db db' := by
  have htext := eq_of_availability
    (AvailabilityMessage.literal_of_valid (modelValidate_eq_ok h))
  have hstore : (storeMessage dumpKey receivedAt deviceId assumeOnline .availability
      payload).run db =
      (DeviceRepository.setAvailability deviceId message.status receivedAt).run db := by
    rw [storeMessage, h]
    rfl
  rw [run_setAvailability htext] at hstore
  refine ⟨_, hstore, ?_⟩
  constructor
  · rfl
  · exact setsRow_reportedDevices ..
  · rfl
  · rfl
  · rfl
  · rfl

/-- Past the identity checks a message is rejected by its schema, before the first connection, or
is stored. -/
theorem storeMessage_cases {members : List (Text × Json)} (kind : MessageKind)
    (hmember : Json.member members (Text.ofString "device_id") = some (.string deviceId)) :
    (∃ e, ∀ db, (storeMessage dumpKey receivedAt deviceId assumeOnline kind
      (.object members)).run db = (.error e, db)) ∨
    ∃ message, Conforms dumpKey (.object members) kind message ∧
      ∀ db, ∃ db', (storeMessage dumpKey receivedAt deviceId assumeOnline kind
          (.object members)).run db = (.ok (), db') ∧
        message.Stored deviceId receivedAt assumeOnline db db' := by
  cases kind with
  | telemetry =>
    cases h : modelValidate TelemetryMessage.check (.object members) with
    | error e =>
      refine .inl ⟨e, fun db ↦ ?_⟩
      rw [storeMessage, h]
      rfl
    | ok message =>
      exact .inr ⟨_, .telemetry message h, fun db ↦ run_storeTelemetry hmember h db⟩
  | health =>
    cases h : modelValidate HealthMessage.check (.object members) with
    | error e =>
      refine .inl ⟨e, fun db ↦ ?_⟩
      rw [storeMessage, h]
      rfl
    | ok message =>
      cases hdump : message.modelDump dumpKey with
      | error e =>
        refine .inl ⟨e, fun db ↦ ?_⟩
        rw [storeMessage, h]
        change (Session.ofExcept (message.modelDump dumpKey) >>= _).run db = _
        rw [hdump]
        rfl
      | ok dump => exact .inr ⟨_, .health message dump h hdump, fun db ↦ run_storeHealth h hdump db⟩
  | availability =>
    cases h : modelValidate AvailabilityMessage.check (.object members) with
    | error e =>
      refine .inl ⟨e, fun db ↦ ?_⟩
      rw [storeMessage, h]
      rfl
    | ok message => exact .inr ⟨_, .availability message h, fun db ↦ run_storeAvailability h db⟩

end

theorem not_reserved_of_provisionable {deviceId : Text}
    (h : validateProvisionableDeviceId deviceId = true) :
    deviceId ≠ legacyDeviceIdentity ∧ deviceId ∉ reservedDeviceIdentities := by
  rw [validateProvisionableDeviceId, validateDeviceId] at h
  simp only [Bool.and_eq_true, decide_eq_true_eq] at h
  exact ⟨h.2, h.1.2⟩

/-- A message of a known topic is read, its identities are checked, and it is stored. -/
theorem processMessage_eq (settings : CollectorSettings) (loads : List UInt8 → Except PyError Json)
    (dumpKey : Text → Except PyError Text) (receivedAt : Instant) {topic deviceId : Text}
    {kind : MessageKind} (rawPayload : List UInt8)
    (hroute : routeTopic settings topic = some (deviceId, kind)) :
    processMessage settings loads dumpKey receivedAt topic rawPayload =
      Session.ofExcept ((loads rawPayload).bind (identify settings topic deviceId)) >>=
        storeMessage dumpKey receivedAt deviceId (topic == settings.mqttTopic) kind := by
  rw [processMessage, hroute]
  cases loads rawPayload with
  | error e => rfl
  | ok payload => rfl

/-- A message of a known topic is rejected, or it is stored for the device of its topic. -/
theorem processMessage_of_route {settings : CollectorSettings}
    {loads : List UInt8 → Except PyError Json} {dumpKey : Text → Except PyError Text}
    {receivedAt : Instant} {topic deviceId : Text} {kind : MessageKind} {rawPayload : List UInt8}
    (hroute : routeTopic settings topic = some (deviceId, kind)) :
    (∃ e, ∀ db, (processMessage settings loads dumpKey receivedAt topic rawPayload).run db =
      (.error e, db)) ∨
    ∃ loaded members message, loads rawPayload = .ok (.object loaded) ∧
      (members = if topic = settings.mqttTopic then
          Json.setMember loaded (Text.ofString "device_id") (.string legacyDeviceIdentity)
        else loaded) ∧
      Json.member members (Text.ofString "device_id") = some (.string deviceId) ∧
      Conforms dumpKey (.object members) kind message ∧
      (topic ≠ settings.mqttTopic → validateProvisionableDeviceId deviceId = true) ∧
      ∀ db, ∃ db',
        (processMessage settings loads dumpKey receivedAt topic rawPayload).run db =
          (.ok (), db') ∧
        message.Stored deviceId receivedAt (topic == settings.mqttTopic) db db' := by
  rw [processMessage_eq settings loads dumpKey receivedAt rawPayload hroute]
  cases hread : (loads rawPayload).bind (identify settings topic deviceId) with
  | error e => exact .inl ⟨e, fun _ ↦ rfl⟩
  | ok payload =>
    cases hloads : loads rawPayload with
    | error e =>
      rw [hloads] at hread
      cases hread
    | ok value =>
      rw [hloads] at hread
      obtain ⟨loaded, rfl, rfl, hmember, hid⟩ := identify_eq_ok hread
      obtain hrejected | ⟨message, hconforms, hstored⟩ := storeMessage_cases kind hmember
      · exact .inl hrejected
      · exact .inr ⟨loaded, _, message, rfl, rfl, hmember, hconforms, hid, hstored⟩

/-- A rejected message leaves no trace. `process_message` raises and leaves the database as it
was, or the topic is the legacy one or that of a provisionable device and a known kind, the
payload is an object with this device's identity that conforms to the schema of its kind, and its
effects happen once. A message of a per-device topic is stored for no reserved identity. -/
theorem rejected_leaves_no_trace (settings : CollectorSettings)
    (loads : List UInt8 → Except PyError Json) (dumpKey : Text → Except PyError Text)
    (receivedAt : Instant) (topic : Text) (rawPayload : List UInt8) :
    (∃ e, ∀ db, (processMessage settings loads dumpKey receivedAt topic rawPayload).run db =
      (.error e, db)) ∨
    ∃ deviceId kind loaded members message,
      Addressed settings topic deviceId kind ∧ loads rawPayload = .ok (.object loaded) ∧
      (members = if topic = settings.mqttTopic then
          Json.setMember loaded (Text.ofString "device_id") (.string legacyDeviceIdentity)
        else loaded) ∧
      Json.member members (Text.ofString "device_id") = some (.string deviceId) ∧
      Conforms dumpKey (.object members) kind message ∧
      (topic ≠ settings.mqttTopic →
        deviceId ≠ legacyDeviceIdentity ∧ deviceId ∉ reservedDeviceIdentities) ∧
      ∀ db, ∃ db',
        (processMessage settings loads dumpKey receivedAt topic rawPayload).run db =
          (.ok (), db') ∧
        message.Stored deviceId receivedAt (topic == settings.mqttTopic) db db' := by
  cases hroute : routeTopic settings topic with
  | none =>
    refine .inl ⟨.valueError, fun db ↦ ?_⟩
    rw [processMessage, hroute]
    rfl
  | some route =>
    obtain ⟨deviceId, kind⟩ := route
    obtain hrejected | ⟨loaded, members, message, hloads, hmembers, hmember, hconforms, hid,
      hstored⟩ := @processMessage_of_route settings loads dumpKey receivedAt topic
        deviceId kind rawPayload hroute
    · exact .inl hrejected
    · have haddressed : Addressed settings topic deviceId kind := by
        obtain ⟨htopic, rfl, rfl⟩ | ⟨htopic, hlevels⟩ := routeTopic_eq_some hroute
        · exact .legacy htopic
        · exact .device deviceId kind htopic hlevels (hid htopic)
      exact .inr ⟨deviceId, kind, loaded, members, message, haddressed, hloads, hmembers, hmember,
        hconforms, fun htopic ↦ not_reserved_of_provisionable (hid htopic), hstored⟩

end EdgeMonitor.Backend
