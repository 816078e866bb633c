import EdgeMonitor.Backend.Availability

/-!
# The legacy source

Library `Backend`. How `initialize_database` of `backend/database/init_db.py` registers the
devices of older telemetry, and what becomes of the device of the legacy topic, which has no
topic for its availability. The rebuilding of the alert tables and the added columns of the health
table keep their rows and touch neither telemetry nor devices, so these tables are taken as they
are afterwards.
-/

namespace EdgeMonitor.Backend
open EdgeMonitor.Base

/-! ### Older databases -/

/-- A row of an older `telemetry` table. The identity is null, or anything where the table has no
such column. -/
structure OlderTelemetryRow where
  id : Nat
  deviceId : Option Text
  timestamp : Text
  temperature : ℚ
  humidity : ℚ
  machineStatus : Text

/-- A database before `initialize_database`; a missing table has no rows. -/
structure OlderDatabase where
  telemetry : Table.Sequenced OlderTelemetryRow.id
  hasDeviceId : Bool
  devices : Table DeviceRow.deviceId
  deviceHealthCurrent : Table DeviceHealthRow.deviceId
  alertRules : Table.Sequenced AlertRule.id
  alertRuleStates : Table AlertRuleState.ruleId
  alertEvents : AlertEvents

/-- `trim(device_id) = ''`; SQL's `trim` removes spaces only. -/
def isBlank (deviceId : Text) : Bool := deviceId.all (· == 0x20)

namespace OlderDatabase

/-- The identity of a row after the column is added and filled, `init_db.py:146–150, 188–192`. -/
def identity (old : OlderDatabase) (row : OlderTelemetryRow) : Text :=
  if old.hasDeviceId then
    match row.deviceId with
    | none => legacyDeviceIdentity
    | some deviceId => if isBlank deviceId then legacyDeviceIdentity else deviceId
  else legacyDeviceIdentity

/-- A row with its identity. -/
def migratedRow (old : OlderDatabase) (row : OlderTelemetryRow) : TelemetryRow :=
  ⟨row.id, old.identity row, row.timestamp, row.temperature, row.humidity, row.machineStatus⟩

/-- The telemetry table with its identities. -/
def migratedTelemetry (old : OlderDatabase) : Table.Sequenced TelemetryRow.id where
  rows := old.telemetry.rows.map old.migratedRow
  keys_nodup := by
    rw [List.map_map]
    exact old.telemetry.keys_nodup
  sequence := old.telemetry.sequence
  key_le := by
    intro a ha
    obtain ⟨row, hrow, rfl⟩ := List.mem_map.mp ha
    exact old.telemetry.key_le row hrow

end OlderDatabase

/-- The instant of a stored timestamp. One that is no time is none here. -/
def storedInstant (timestamp : Text) : Option Instant :=
  (parseUtcTimestamp timestamp).toOption.map DateTime.instant

/-- The registry row of a group of telemetry. -/
def backfilledRow (telemetry : List TelemetryRow) (deviceId : Text) : DeviceRow where
  deviceId
  reportedAvailability := offlineText
  lastSeen :=
    ((telemetry.filter (·.deviceId == deviceId)).map (·.timestamp)).max?.bind storedInstant
  availabilityUpdatedAt := none

/-- `INSERT … ON CONFLICT DO NOTHING`. -/
def insertNew (devices : Table DeviceRow.deviceId) (row : DeviceRow) : Table DeviceRow.deviceId :=
  devices.upsert row id (Table.key_id DeviceRow.deviceId)

/-- The device backfill, `init_db.py:193–202`. -/
def backfill (telemetry : List TelemetryRow) (devices : Table DeviceRow.deviceId) :
    Table DeviceRow.deviceId :=
  let identified := telemetry.filter fun row ↦ !isBlank row.deviceId
  ((identified.map (·.deviceId)).dedup.map (backfilledRow identified)).foldl insertNew devices

/-- `initialize_database`, `init_db.py:130–207`. -/
def initializeDatabase (old : OlderDatabase) : Database where
  telemetry := old.migratedTelemetry
  devices := backfill old.migratedTelemetry.rows old.devices
  deviceHealthCurrent := old.deviceHealthCurrent
  alertRules := old.alertRules
  alertRuleStates := old.alertRuleStates
  alertEvents := old.alertEvents

/-! ### The registry after the backfill -/

theorem find_insertNew (devices : Table DeviceRow.deviceId) (row : DeviceRow) (k : Text) :
    (insertNew devices row).find k =
      if k = row.deviceId then some ((devices.find k).getD row) else devices.find k := by
  rw [insertNew, Table.find_upsert]
  cases devices.find k <;> rfl

/-- Registered devices stay as they are, and others get the first row that is inserted for them. -/
theorem find_foldl_insertNew (rows : List DeviceRow) (devices : Table DeviceRow.deviceId)
    (k : Text) : (rows.foldl insertNew devices).find k =
      (devices.find k).or (rows.find? fun row ↦ row.deviceId = k) := by
  induction rows generalizing devices with
  | nil => simp
  | cons row rows ih =>
    rw [List.foldl_cons, ih, find_insertNew, List.find?_cons]
    by_cases hk : k = row.deviceId
    · subst hk
      cases devices.find row.deviceId <;> simp
    · have hrow : ¬ row.deviceId = k := fun h ↦ hk h.symm
      simp [hk, hrow]

theorem isBlank_legacyDeviceIdentity : isBlank legacyDeviceIdentity = false := by decide +kernel

/-- The backfill registers a device as offline if it has telemetry. -/
theorem find_backfill {deviceId : Text} (hid : isBlank deviceId = false)
    (telemetry : List TelemetryRow) (devices : Table DeviceRow.deviceId) :
    ((backfill telemetry devices).find deviceId).map DeviceRow.reportedAvailability =
      ((devices.find deviceId).map DeviceRow.reportedAvailability).or
        (if ∃ row ∈ telemetry, row.deviceId = deviceId then some offlineText else none) := by
  have hmem (rows : List TelemetryRow) (row : DeviceRow) :
      row ∈ ((telemetry.filter fun row ↦ !isBlank row.deviceId).map (·.deviceId)).dedup.map
          (backfilledRow rows) ↔
        ∃ r ∈ telemetry, isBlank r.deviceId = false ∧ backfilledRow rows r.deviceId = row := by
    simp [and_assoc]
  rw [backfill, find_foldl_insertNew]
  cases devices.find deviceId with
  | some row => rfl
  | none =>
    simp only [Option.none_or, Option.map_none]
    cases hfind : List.find? (fun row : DeviceRow ↦ decide (row.deviceId = deviceId)) _ with
    | none =>
      rw [if_neg]
      · rfl
      · rintro ⟨r, hr, rfl⟩
        have hnot := List.find?_eq_none.mp hfind _ ((hmem _ _).mpr ⟨r, hr, hid, rfl⟩)
        simp [backfilledRow] at hnot
    | some row =>
      obtain ⟨r, hr, -, rfl⟩ := (hmem _ _).mp (List.mem_of_find?_eq_some hfind)
      have hkey := List.find?_some hfind
      rw [if_pos ⟨r, hr, of_decide_eq_true hkey⟩]
      rfl

/-! ### The device of the legacy topic -/

/-- `_effective_availability`, `device_service.py:9–16`, with the time that it reads. -/
def effectiveAvailability (timeoutSeconds : Nat) (now : Instant) (reported : Text)
    (lastSeen : Option Instant) : Text :=
  if reported ≠ onlineText then offlineText
  else
    match lastSeen with
    | none => offlineText
    | some seen => if seen ≥ now - timeoutSeconds * 1000000 then onlineText else offlineText

/-- The availability that `get_devices` gives a device, `device_service.py:20–27`. -/
def availabilityOf (timeoutSeconds : Nat) (now : Instant) (deviceId : Text) (db : Database) :
    Option Text :=
  (db.devices.find deviceId).map fun row ↦
    effectiveAvailability timeoutSeconds now row.reportedAvailability row.lastSeen

/-- What an older database says of the device of the legacy topic is not that it is offline: it is
registered as online, or it is not registered and has no telemetry. -/
def OlderDatabase.LegacyNotOffline (old : OlderDatabase) : Prop :=
  match old.devices.find legacyDeviceIdentity with
  | some row => row.reportedAvailability = onlineText
  | none => ∀ row ∈ old.telemetry.rows, old.identity row ≠ legacyDeviceIdentity

/-- What the registry reports of a device. -/
def reported (deviceId : Text) (db : Database) : Option Text :=
  (db.devices.find deviceId).map DeviceRow.reportedAvailability

/-- Nothing is reported but that the device of the legacy topic is online. -/
def LegacyOnline (db : Database) : Prop :=
  ∀ text ∈ reported legacyDeviceIdentity db, text = onlineText

theorem legacyOnline_initializeDatabase (old : OlderDatabase) :
    LegacyOnline (initializeDatabase old) ↔ old.LegacyNotOffline := by
  have hne : offlineText ≠ onlineText := by decide +kernel
  have hrows : (∃ row ∈ (initializeDatabase old).telemetry.rows,
      row.deviceId = legacyDeviceIdentity) ↔
      ∃ row ∈ old.telemetry.rows, old.identity row = legacyDeviceIdentity := by
    simp [initializeDatabase, OlderDatabase.migratedTelemetry, OlderDatabase.migratedRow]
  have hreported : reported legacyDeviceIdentity (initializeDatabase old) = _ :=
    find_backfill isBlank_legacyDeviceIdentity (initializeDatabase old).telemetry.rows old.devices
  rw [LegacyOnline, hreported, OlderDatabase.LegacyNotOffline]
  cases old.devices.find legacyDeviceIdentity with
  | some row => simp
  | none =>
    simp only [Option.map_none, Option.none_or, hrows]
    by_cases h : ∃ row ∈ old.telemetry.rows, old.identity row = legacyDeviceIdentity
    · rw [if_pos h]
      obtain ⟨row, hrow, hid⟩ := h
      constructor
      · exact fun hall ↦ absurd (hall _ rfl) hne
      · exact fun hall ↦ absurd hid (hall row hrow)
    · rw [if_neg h]
      constructor
      · exact fun _ row hrow hid ↦ h ⟨row, hrow, hid⟩
      · exact fun _ text htext ↦ by cases htext

section

variable {settings : CollectorSettings} {loads : List UInt8 → Except PyError Json}
  {dumpKey : Text → Except PyError Text}

/-- A message sets the registry row of its own device only. -/
theorem Message.Stored.reported_of_ne {message : Message} {deviceId k : Text}
    {receivedAt : Instant} {assumeOnline : Bool} {db db' : Database}
    (h : message.Stored deviceId receivedAt assumeOnline db db') (hk : k ≠ deviceId) :
    reported k db' = reported k db := by
  rw [reported, reported]
  cases message with
  | telemetry message =>
    obtain ⟨rfl, hstored⟩ := h
    rw [hstored.devices.2 k hk]
  | health dump => rw [h.devices.2 k hk]
  | availability message => rw [h.devices.2 k hk]

/-- The only messages of the legacy device are those of the legacy topic, which register it as
online. -/
theorem Contact.legacy {kind : MessageKind} {arrival : Arrival}
    (h : Contact settings loads dumpKey legacyDeviceIdentity kind arrival) :
    arrival.topic = settings.mqttTopic ∧ kind = .telemetry := by
  obtain ⟨htopic, -, hkind⟩ | ⟨htopic, -⟩ := routeTopic_eq_some h.routed
  · exact ⟨htopic, hkind⟩
  · obtain ⟨e, herror⟩ | ⟨_, _, _, _, _, _, _, hid, -⟩ :=
      @processMessage_of_route settings loads dumpKey arrival.receivedAt arrival.topic
        legacyDeviceIdentity kind arrival.rawPayload h.routed
    · cases (h.accepted .empty).symm.trans (congrArg Prod.fst (herror .empty))
    · have hne := (not_reserved_of_provisionable (hid htopic)).1
      exact absurd rfl hne

/-- The registry row that accepted telemetry of the legacy topic leaves. -/
theorem Contact.find_legacy {kind : MessageKind} {arrival : Arrival}
    (h : Contact settings loads dumpKey legacyDeviceIdentity kind arrival) (db : Database) :
    ((collector settings loads dumpKey).step db arrival).1.devices.find legacyDeviceIdentity =
      some ((db.devices.find legacyDeviceIdentity).elim
        ⟨legacyDeviceIdentity, onlineText, some arrival.receivedAt, none⟩
        (seenAt arrival.receivedAt)) := by
  obtain ⟨htopic, rfl⟩ := h.legacy
  obtain ⟨message, ⟨payload, hconforms⟩, hstored⟩ := h.stored db
  cases hconforms with
  | telemetry message hmessage =>
    obtain ⟨hid, heffect⟩ := hstored
    have hrow := heffect.devices.1
    rw [hid, if_pos (by simpa using htopic)] at hrow
    exact hrow

/-- No message changes what is reported of a registered legacy device. -/
theorem legacyOnline_step (db : Database) (arrival : Arrival) :
    LegacyOnline ((collector settings loads dumpKey).step db arrival).1 ↔ LegacyOnline db := by
  have hkept (h : reported legacyDeviceIdentity
      ((collector settings loads dumpKey).step db arrival).1 = reported legacyDeviceIdentity db) :
      LegacyOnline ((collector settings loads dumpKey).step db arrival).1 ↔ LegacyOnline db := by
    rw [LegacyOnline, h, LegacyOnline]
  cases hroute : routeTopic settings arrival.topic with
  | none =>
    apply hkept
    have hprocess : processMessage settings loads dumpKey arrival.receivedAt arrival.topic
        arrival.rawPayload = .raise .valueError := by
      rw [processMessage, hroute]
    change reported _ ((processMessage _ _ _ _ _ _).run db).2 = _
    rw [hprocess]
    rfl
  | some route =>
    obtain ⟨deviceId, kind⟩ := route
    obtain ⟨e, herror⟩ | ⟨_, _, message, _, _, _, _, _, hstored⟩ :=
      @processMessage_of_route settings loads dumpKey arrival.receivedAt arrival.topic deviceId kind
        arrival.rawPayload hroute
    · apply hkept
      change reported _ ((processMessage _ _ _ _ _ _).run db).2 = _
      rw [herror db]
    · obtain ⟨db', hrun, heffect⟩ := hstored db
      have hstep : ((collector settings loads dumpKey).step db arrival).1 = db' :=
        congrArg Prod.snd hrun
      by_cases hlegacy : deviceId = legacyDeviceIdentity
      · subst hlegacy
        have haccepted : ((collector settings loads dumpKey).step db arrival).2 = .ok () :=
          congrArg Prod.fst hrun
        have hrow := (accepted_of_accepted hroute haccepted).find_legacy db
        rw [LegacyOnline, reported, hrow, LegacyOnline, reported]
        cases db.devices.find legacyDeviceIdentity with
        | none => simp
        | some row => simp [seenAt]
      · apply hkept
        rw [hstep]
        exact heffect.reported_of_ne (Ne.symm hlegacy)

theorem legacyOnline_run (db : Database) (arrivals : List Arrival) :
    LegacyOnline ((collector settings loads dumpKey).run db arrivals) ↔ LegacyOnline db := by
  induction arrivals generalizing db with
  | nil => rfl
  | cons arrival arrivals ih => rw [Machine.run_cons, ih, legacyOnline_step]

/-- What the availability of the legacy device comes down to while its last message is fresh. -/
theorem availabilityOf_legacy {last : Arrival} {timeoutSeconds : Nat} {now : Instant}
    (h : Contact settings loads dumpKey legacyDeviceIdentity .telemetry last)
    (hnow : now ≤ last.receivedAt + timeoutSeconds * 1000000) (db : Database) :
    availabilityOf timeoutSeconds now legacyDeviceIdentity
        ((collector settings loads dumpKey).step db last).1 = some onlineText ↔
      LegacyOnline db := by
  have hfresh : ¬ last.receivedAt + timeoutSeconds * 1000000 < now := not_lt.mpr hnow
  have hne : offlineText ≠ onlineText := by decide +kernel
  rw [availabilityOf, h.find_legacy db, LegacyOnline, reported]
  cases db.devices.find legacyDeviceIdentity with
  | none => simp [effectiveAvailability, hfresh]
  | some row =>
    by_cases hrow : row.reportedAvailability = onlineText
    · simp [effectiveAvailability, seenAt, hrow, hfresh]
    · simp [effectiveAvailability, seenAt, hrow, hne]

/-- After accepted telemetry of the legacy topic its device is shown online, exactly when the
database before `initialize_database` does not make it offline. -/
theorem legacy_shown_online_iff (old : OlderDatabase) (arrivals : List Arrival) {last : Arrival}
    {timeoutSeconds : Nat} {now : Instant} (htopic : last.topic = settings.mqttTopic)
    (haccepted : ((collector settings loads dumpKey).step
      ((collector settings loads dumpKey).run (initializeDatabase old) arrivals) last).2 = .ok ())
    (hnow : now ≤ last.receivedAt + timeoutSeconds * 1000000) :
    availabilityOf timeoutSeconds now legacyDeviceIdentity
        ((collector settings loads dumpKey).run (initializeDatabase old) (arrivals ++ [last])) =
        some onlineText ↔
      old.LegacyNotOffline := by
  have hroute : routeTopic settings last.topic = some (legacyDeviceIdentity, .telemetry) := by
    rw [routeTopic, if_pos htopic]
  have hcontact := accepted_of_accepted hroute haccepted
  rw [Machine.run_append, Machine.run_cons, Machine.run_nil, availabilityOf_legacy hcontact hnow,
    legacyOnline_run, legacyOnline_initializeDatabase]

end

/-! ### Telemetry without an identity -/

/-- A database of one sample, from before there were identities. -/
def sampleOlderDatabase : OlderDatabase where
  telemetry := Table.Sequenced.empty.insert
    (fun id ↦ ⟨id, none, Text.ofString "2026-06-01T08:00:00Z", 21, 40, Text.ofString "running"⟩)
    fun _ ↦ rfl
  hasDeviceId := false
  devices := .empty
  deviceHealthCurrent := .empty
  alertRules := .empty
  alertRuleStates := .empty
  alertEvents := .empty

/-- Telemetry of the legacy topic. -/
def sampleLegacyTelemetry : Arrival := ⟨Text.ofString "industrial/telemetry", [0], 5⟩

theorem accepted_sampleLegacyTelemetry : ((collector sampleSettings sampleLoads .ok).step
    ((collector sampleSettings sampleLoads .ok).run (initializeDatabase sampleOlderDatabase) [])
    sampleLegacyTelemetry).2 = .ok () := by
  apply eq_ok_of_toBool
  decide +kernel

theorem not_legacyNotOffline_sample : ¬ sampleOlderDatabase.LegacyNotOffline := by
  intro h
  exact h _ (List.mem_singleton_self _) rfl

/-- The backfill registers the device as offline, and telemetry leaves it so. -/
theorem legacy_shown_online_fails :
    ¬ ∀ (settings : CollectorSettings) (loads : List UInt8 → Except PyError Json)
      (dumpKey : Text → Except PyError Text) (old : OlderDatabase) (arrivals : List Arrival)
      (last : Arrival) (timeoutSeconds : Nat) (now : Instant),
      last.topic = settings.mqttTopic →
      ((collector settings loads dumpKey).step
        ((collector settings loads dumpKey).run (initializeDatabase old) arrivals) last).2 =
          .ok () →
      now ≤ last.receivedAt + timeoutSeconds * 1000000 →
      availabilityOf timeoutSeconds now legacyDeviceIdentity
        ((collector settings loads dumpKey).run (initializeDatabase old) (arrivals ++ [last])) =
        some onlineText := by
  intro h
  have honline := h sampleSettings sampleLoads .ok sampleOlderDatabase [] sampleLegacyTelemetry 150
    5 rfl accepted_sampleLegacyTelemetry (by decide)
  have hcontact : Contact sampleSettings sampleLoads .ok legacyDeviceIdentity .telemetry
      sampleLegacyTelemetry := by
    apply accepted_of_accepted _ accepted_sampleLegacyTelemetry
    exact if_pos rfl
  rw [List.nil_append, Machine.run_cons, Machine.run_nil,
    availabilityOf_legacy hcontact (by decide), legacyOnline_initializeDatabase] at honline
  exact not_legacyNotOffline_sample honline

theorem legacy_shown_online_iff_sample :
    availabilityOf 150 5 legacyDeviceIdentity ((collector sampleSettings sampleLoads .ok).run
      (initializeDatabase sampleOlderDatabase) [sampleLegacyTelemetry]) ≠ some onlineText := by
  have hiff := legacy_shown_online_iff sampleOlderDatabase [] rfl
    accepted_sampleLegacyTelemetry (show (5 : Instant) ≤ _ + (150 : Nat) * 1000000 by decide)
  rw [List.nil_append] at hiff
  rw [Ne, hiff]
  exact not_legacyNotOffline_sample

end EdgeMonitor.Backend
