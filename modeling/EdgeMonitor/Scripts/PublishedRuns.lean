import EdgeMonitor.Scripts.PublishedMessages

/-!
# Published messages in runs of the collector

Library `Scripts`. What the database says of a device after a run of the collector in which other
messages arrive before and after one that the firmware published, in any order.
-/

namespace EdgeMonitor.Scripts
open EdgeMonitor.Base EdgeMonitor.Firmware EdgeMonitor.Firmware.DeviceConfig JsonText
open EdgeMonitor.Backend (CollectorSettings MessageKind routeTopic PyError Instant Database
  modelValidate Arrival collector Message Conforms standing sampleSettings samplePump)

section

variable {settings : CollectorSettings} {topicStart deviceId : List UInt8}
  {loads : List UInt8 → Except PyError Json} {dumpKey : Text → Except PyError Text}
  {nearest : ℚ → ℚ}

/-! ### Other messages -/

/-- A message changes nothing, or is stored for the device of its topic. -/
theorem step_cases (settings : CollectorSettings) (loads : List UInt8 → Except PyError Json)
    (dumpKey : Text → Except PyError Text) (arrival : Arrival) (db : Database) :
    ((collector settings loads dumpKey).step db arrival).1 = db ∨
    ∃ deviceId kind message payload, routeTopic settings arrival.topic = some (deviceId, kind) ∧
      Conforms dumpKey payload kind message ∧
      message.Stored deviceId arrival.receivedAt (arrival.topic == settings.mqttTopic) db
        ((collector settings loads dumpKey).step db arrival).1 := by
  cases hroute : routeTopic settings arrival.topic with
  | none =>
    left
    change ((Backend.processMessage settings loads dumpKey arrival.receivedAt arrival.topic
      arrival.rawPayload).run db).2 = db
    rw [Backend.processMessage, hroute]
    rfl
  | some route =>
    obtain ⟨deviceId, kind⟩ := route
    obtain ⟨e, herror⟩ | ⟨_, _, message, _, _, _, hconforms, _, hstored⟩ :=
      @Backend.processMessage_of_route settings loads dumpKey arrival.receivedAt arrival.topic
        deviceId kind arrival.rawPayload hroute
    · exact .inl (congrArg Prod.snd (herror db))
    · obtain ⟨db', hrun, heffect⟩ := hstored db
      have hstep : ((collector settings loads dumpKey).step db arrival).1 = db' :=
        congrArg Prod.snd hrun
      rw [hstep]
      exact .inr ⟨deviceId, kind, message, _, rfl, hconforms, heffect⟩

/-- Telemetry is added, and never changed or removed. -/
theorem telemetry_step (arrival : Arrival) (db : Database) :
    db.telemetry.rows <+:
      ((collector settings loads dumpKey).step db arrival).1.telemetry.rows := by
  obtain hsame | ⟨_, _, _, _, -, hconforms, hstored⟩ :=
    step_cases settings loads dumpKey arrival db
  · rw [hsame]
  · cases hconforms with
    | telemetry message _ =>
      rw [hstored.2.telemetry]
      exact List.prefix_append _ _
    | health _ dump _ _ => rw [hstored.telemetry]
    | availability message _ => rw [hstored.telemetry]

/-- The snapshot of a device changes with its own messages of health only. -/
theorem health_step {device : Text} {arrival : Arrival}
    (h : routeTopic settings arrival.topic ≠ some (device, .health)) (db : Database) :
    ((collector settings loads dumpKey).step db arrival).1.deviceHealthCurrent.find device =
      db.deviceHealthCurrent.find device := by
  obtain hsame | ⟨other, kind, _, _, hroute, hconforms, hstored⟩ :=
    step_cases settings loads dumpKey arrival db
  · rw [hsame]
  · cases hconforms with
    | telemetry message _ => rw [hstored.2.health]
    | health _ dump _ _ =>
      have hne : device ≠ other := by
        rintro rfl
        exact h hroute
      exact hstored.health.2 device hne
    | availability message _ => rw [hstored.health]

/-- What the registry says of a registered device changes with its own messages of availability
only. -/
theorem standing_step {device : Text} {arrival : Arrival} {row : Backend.DeviceRow}
    (h : routeTopic settings arrival.topic ≠ some (device, .availability)) {db : Database}
    (hrow : standing device db = some row) :
    standing device ((collector settings loads dumpKey).step db arrival).1 = some row := by
  have hother {db' : Database} {other : Text} {set : Backend.DeviceRow} (hne : device ≠ other)
      (hset : Backend.SetsRow db.devices db'.devices other set) :
      standing device db' = some row := by
    rw [← hrow, standing, standing, hset.2 device hne]
  have hseen {db' : Database} {other availability : Text} {receivedAt : Instant}
      (hset : Backend.SetsRow db.devices db'.devices other
        ((db.devices.find other).elim ⟨other, availability, some receivedAt, none⟩
          (Backend.seenAt receivedAt))) : standing device db' = some row := by
    by_cases hne : device = other
    · subst hne
      rw [Backend.standing_of_seen hset, hrow, Option.getD_some]
    · exact hother hne hset
  obtain hsame | ⟨other, kind, _, _, hroute, hconforms, hstored⟩ :=
    step_cases settings loads dumpKey arrival db
  · rw [hsame, hrow]
  · cases hconforms with
    | telemetry message _ => exact hseen hstored.2.devices
    | health _ dump _ _ => exact hseen hstored.devices
    | availability message _ =>
      have hne : device ≠ other := by
        rintro rfl
        exact h hroute
      exact hother hne hstored.devices

/-- What a message of availability says is set. -/
theorem standing_of_reported {db db' : Database} {device availability : Text}
    {receivedAt : Instant} (h : Backend.SetsRow db.devices db'.devices device
      ((db.devices.find device).elim ⟨device, availability, some receivedAt, some receivedAt⟩
        (Backend.reportedAt availability receivedAt))) :
    standing device db' = some ⟨device, availability, none, some receivedAt⟩ := by
  rw [standing, h.1]
  cases hfind : db.devices.find device with
  | none => rfl
  | some row =>
    have hkey : row.deviceId = device := ((Table.find_eq_some_iff _ _ _).mp hfind).2
    rw [Option.elim_some, Backend.reportedAt, hkey]
    rfl

/-- What one message establishes and the later ones keep holds at the end of the run. -/
theorem run_of_step {P : Arrival → Prop} {Q : Database → Prop} {before after : List Arrival}
    {arrival : Arrival} {db : Database} (hafter : ∀ later ∈ after, P later)
    (hkeep : ∀ db arrival, Q db → P arrival →
      Q ((collector settings loads dumpKey).step db arrival).1)
    (hstep : Q ((collector settings loads dumpKey).step
      ((collector settings loads dumpKey).run db before) arrival).1) :
    Q ((collector settings loads dumpKey).run db (before ++ arrival :: after)) := by
  rw [Machine.run_append, Machine.run_cons]
  exact Machine.invariant_along _ hkeep hstep (Machine.along_of_forall _ hafter)

/-- A document of the device is stored. -/
theorem Paired.step_eq (h : Paired settings topicStart deviceId)
    (dumpKey : Text → Except PyError Text) (kind : MessageKind) (receivedAt : Instant)
    {members : List (String × JsonText)} (hdistinct : Distinct members)
    (hmember : ("device_id", JsonText.string deviceId) ∈ members)
    (hplain : (JsonText.object members).Plain) (hloads : ReadBy loads nearest (.object members))
    {db db' : Database} (hrun : (Backend.storeMessage dumpKey receivedAt (deviceId.map UInt8.toNat)
      false kind (.object (valueMembers nearest members))).run db = (.ok (), db')) :
    (collector settings loads dumpKey).step db
      ⟨publishedTopic topicStart deviceId kind, (JsonText.object members).render, receivedAt⟩ =
        (db', .ok ()) := by
  rw [← h.processMessage_eq dumpKey kind receivedAt hdistinct hmember hplain hloads] at hrun
  exact congrArg Prod.swap hrun

/-! ### Messages of the firmware -/

/-- A reader that knows one document. -/
def readOnly (document : JsonText) : List UInt8 → Except PyError Json :=
  fun _ ↦ .ok (document.value id)

/-- A message of the sample device. -/
def sampleArrival (kind : MessageKind) (payload : List UInt8) : Arrival :=
  ⟨publishedTopic (ascii "industrial/devices") (ascii "pump-1") kind, payload, 0⟩

theorem routeTopic_sampleArrival (kind : MessageKind) (payload : List UInt8) :
    routeTopic sampleSettings (sampleArrival kind payload).topic = some (samplePump, kind) :=
  (paired_sample.routeTopic_eq kind).2

/-- The clock on a day in 2027. -/
def sampleClock : Option (List UInt8) := systemTimeGetTimestamp true 1800000000

/-- A cycle in which the sensor measures 21 degrees and 40 percent. -/
def sampleOutcomes : CycleOutcomes where
  timestamp := sampleClock
  timeValid := true
  sensor := .ok ⟨some 21, some 40⟩
  sampleTimestamp := sampleClock
  machine := ⟨true, true, true, true⟩
  written := 0
  connected := true
  messageId := 0

def samplePublished : Telemetry :=
  ⟨ascii "pump-1", ascii "2027-01-15T08:00:00Z", 21, 40, "running", .ok⟩

/-- The sensor fails, a sample is counted and the signal is measured. -/
def sampleHealthUpdates : List HealthOperation :=
  [.updateComponent .sensor .fault .readFailed sampleClock, .increment .samplesOk,
    .setMetrics ⟨3600, 180000, 150000, true, -61⟩]

/-- Every sample that a cycle accepts while the clock is right fits its buffer, and the collector
stores it for the device, with the instant of the clock, the status of the machine and the measured
values up to half a hundredth and the rounding of the reader. Whatever arrives before and after it,
its row is there at the end. -/
theorem accepted_sample_stored (h : Paired settings topicStart deviceId)
    {outcomes : CycleOutcomes} {telemetry : Telemetry} {timeValid : Bool} {now : Nat}
    (hsample : telemetryModelCreate deviceId outcomes = .ok telemetry)
    (hclock : outcomes.sampleTimestamp = systemTimeGetTimestamp timeValid now)
    (hrounds : Rounds nearest) (hloads : ReadBy loads nearest (telemetryDocument telemetry)) :
    |printed telemetry.temperature - telemetry.temperature| ≤ 1 / 200 ∧
    |printed telemetry.humidity - telemetry.humidity| ≤ 1 / 200 ∧
    (clockTime now).instant = now * 1000000 ∧
    ∃ payload, telemetryPayload telemetry = some payload ∧
      telemetryToJson payload.length = payload.length ∧
      ∀ receivedAt before after db,
        let arrival : Arrival :=
          ⟨publishedTopic topicStart deviceId .telemetry, payload, receivedAt⟩
        let found := (collector settings loads dumpKey).run db before
        let stored := (collector settings loads dumpKey).step found arrival
        let message := storedSample nearest now telemetry
        stored.2 = .ok () ∧ Backend.TelemetryStored message receivedAt false found stored.1 ∧
        message.row (found.telemetry.sequence + 1) ∈ ((collector settings loads dumpKey).run db
          (before ++ arrival :: after)).telemetry.rows := by
  obtain ⟨timestamp, htimestamp, hsample⟩ := isSample_of_telemetryModelCreate hsample
  rw [hclock] at htimestamp
  have htime : IsTimestamp timestamp := by
    refine ⟨now, ?_⟩
    rw [← (systemTimeGetTimestamp_eq_some htimestamp).1]
    exact htimestamp
  have hpayload := hsample.payload_eq h.deviceId htime
  refine ⟨abs_printed_sub_le _, abs_printed_sub_le _, (clockTime_spec htimestamp).1, _, hpayload,
    ?_, ?_⟩
  · have hfits := (snprintfFits_eq_some.mp hpayload).2
    rw [telemetryToJson, if_neg (by omega)]
  · intro receivedAt before after db arrival found stored message
    have hdistinct := distinct_telemetryMembers telemetry
    have hidentity : ("device_id", JsonText.string deviceId) ∈ telemetryMembers telemetry := by
      rw [telemetryMembers, hsample.deviceId]
      exact .head _
    have hmember : Json.member (valueMembers nearest (telemetryMembers telemetry))
        (Text.ofString "device_id") = some (.string (deviceId.map UInt8.toNat)) := by
      rw [member_valueMembers hdistinct hidentity, value]
    have hvalid : modelValidate Backend.TelemetryMessage.check
        (.object (valueMembers nearest (telemetryMembers telemetry))) = .ok message := by
      rw [modelValidate, check_sample h hrounds htimestamp hsample]
      rfl
    obtain ⟨db', hrun, -, heffect⟩ := Backend.run_storeTelemetry hmember hvalid found
    have hresult : stored = (db', .ok ()) := h.step_eq dumpKey .telemetry receivedAt hdistinct
      hidentity (hsample.plain h.deviceId htime) hloads hrun
    rw [hresult]
    refine ⟨rfl, heffect, ?_⟩
    apply run_of_step (P := fun _ ↦ True)
      (Q := fun db ↦ message.row (found.telemetry.sequence + 1) ∈ db.telemetry.rows)
    · exact fun _ _ ↦ trivial
    · intro db later hmem _
      exact (telemetry_step later db).subset hmem
    · change _ ∈ stored.1.telemetry.rows
      rw [hresult, heffect.telemetry]
      exact List.mem_append_right _ (List.mem_singleton_self _)

theorem accepted_sample_stored_sample :
    telemetryModelCreate (ascii "pump-1") sampleOutcomes = .ok samplePublished ∧
    ∃ payload, telemetryPayload samplePublished = some payload ∧
      (storedSample id 1800000000 samplePublished).row 1 ∈
        ((collector sampleSettings (readOnly (telemetryDocument samplePublished)) .ok).run
          Database.empty [sampleArrival .telemetry payload,
            sampleArrival .telemetry payload]).telemetry.rows := by
  have hsample : telemetryModelCreate (ascii "pump-1") sampleOutcomes = .ok samplePublished := rfl
  obtain ⟨-, -, -, payload, hpayload, -, hstored⟩ :=
    @accepted_sample_stored _ _ _ (readOnly (telemetryDocument samplePublished)) .ok id
      paired_sample _ _ true 1800000000 hsample rfl ⟨monotone_id, fun _ _ ↦ rfl⟩ fun _ ↦ rfl
  exact ⟨hsample, payload, hpayload, (hstored 0 [] [sampleArrival .telemetry payload] _).2.2⟩

/-- Every snapshot of the shared health fits its buffer, in every run of the module whose updates
have the time of the clock or none, and the collector accepts it. Whatever arrives before it and
whatever but messages of the device's health arrives after it, at the end the snapshot is the one
of the device, and its payload is the document that was published. -/
theorem published_snapshot_stored (h : Paired settings topicStart deviceId)
    {operations : List HealthOperation} (hstamped : ∀ o ∈ operations, o.Stamped)
    (timeValid : Bool) (now : Nat) (hkeys : DumpsAscii dumpKey)
    (hloads : ReadBy loads nearest (healthDocument deviceId (systemTimeGetTimestamp timeValid now)
      (HealthSnapshot.machine.run .init operations))) :
    let snapshot := HealthSnapshot.machine.run .init operations
    let timestamp := systemTimeGetTimestamp timeValid now
    let device := deviceId.map UInt8.toNat
    let dump := storedSnapshot nearest deviceId timestamp snapshot
    dump.payload = (healthDocument deviceId timestamp snapshot).value nearest ∧
    ∃ payload, healthPayload deviceId timestamp snapshot = some payload ∧
      ∀ receivedAt before after db,
        (∀ later ∈ after, routeTopic settings later.topic ≠ some (device, .health)) →
        let arrival : Arrival := ⟨publishedTopic topicStart deviceId .health, payload, receivedAt⟩
        let found := (collector settings loads dumpKey).run db before
        let stored := (collector settings loads dumpKey).step found arrival
        stored.2 = .ok () ∧ Backend.HealthStored device dump receivedAt found stored.1 ∧
        ((collector settings loads dumpKey).run db
          (before ++ arrival :: after)).deviceHealthCurrent.find device =
            some (dump.row device receivedAt) := by
  intro snapshot timestamp device dump
  have hsnapshot : snapshot.Stamped := HealthSnapshot.stamped_init.run hstamped
  have htime : ∀ t ∈ timestamp, IsTimestamp t := by
    intro t ht
    refine ⟨now, ?_⟩
    rw [← (systemTimeGetTimestamp_eq_some ht).1]
    exact ht
  refine ⟨payload_storedSnapshot nearest deviceId timestamp snapshot, _,
    healthPayload_eq h.deviceId htime hsnapshot, ?_⟩
  intro receivedAt before after db hafter arrival found stored
  obtain ⟨message, hcheck, hdump⟩ := check_snapshot nearest h hkeys htime hsnapshot
  have hvalid : modelValidate Backend.HealthMessage.check
      (.object (valueMembers nearest (healthMembers deviceId timestamp snapshot))) =
        .ok message := by
    rw [modelValidate, hcheck]
    rfl
  obtain ⟨db', hrun, heffect⟩ := Backend.run_storeHealth hvalid hdump found
  have hresult : stored = (db', .ok ()) := h.step_eq dumpKey .health receivedAt
    (distinct_healthMembers _ _ _) (.tail _ (.head _))
    (plain_healthDocument h.deviceId htime hsnapshot) hloads hrun
  rw [hresult]
  refine ⟨rfl, heffect, ?_⟩
  apply run_of_step (Q := fun db ↦ db.deviceHealthCurrent.find device =
    some (dump.row device receivedAt)) hafter
  · intro db later hrow hother
    rw [health_step hother, hrow]
  · change stored.1.deviceHealthCurrent.find device = _
    rw [hresult]
    exact heffect.health.1

theorem published_snapshot_stored_sample :
    let snapshot := HealthSnapshot.machine.run .init sampleHealthUpdates
    let document := healthDocument (ascii "pump-1") sampleClock snapshot
    let dump := storedSnapshot id (ascii "pump-1") sampleClock snapshot
    ∃ payload, healthPayload (ascii "pump-1") sampleClock snapshot = some payload ∧
      ((collector sampleSettings (readOnly document) .ok).run Database.empty
        [sampleArrival .health payload, sampleArrival .telemetry payload]).deviceHealthCurrent.find
          samplePump = some (dump.row samplePump 0) := by
  intro snapshot document dump
  have hstamped : ∀ o ∈ sampleHealthUpdates, o.Stamped := by
    rintro o (_ | ⟨_, _ | ⟨_, _ | ⟨_, _ | _⟩⟩⟩)
    · exact fun t ht ↦ ⟨1800000000, ht⟩
    · trivial
    · trivial
  obtain ⟨-, payload, hpayload, hstored⟩ := @published_snapshot_stored _ _ _ (readOnly document) .ok
    id paired_sample _ hstamped true 1800000000 (fun _ _ ↦ rfl) fun _ ↦ rfl
  have hother : ∀ later ∈ [sampleArrival .telemetry payload],
      routeTopic sampleSettings later.topic ≠ some (samplePump, .health) := by
    intro later hlater
    rw [List.mem_singleton.mp hlater, routeTopic_sampleArrival]
    simp
  exact ⟨payload, hpayload, (hstored 0 [] _ _ hother).2.2⟩

/-- The message that a device publishes when it is connected and the one that the broker publishes
for it when the connection is lost fit their buffers, and the collector accepts both. Whatever
arrives before it and whatever but messages of the device's availability arrives after it, at the
end the registry says what the message said. -/
theorem published_availability_stored (h : Paired settings topicStart deviceId)
    (availability : Availability)
    (hloads : ReadBy loads nearest (availabilityDocument deviceId availability)) :
    ∃ payload, availabilityPayload deviceId availability = some payload ∧
      ∀ receivedAt before after db,
        let device := deviceId.map UInt8.toNat
        (∀ later ∈ after, routeTopic settings later.topic ≠ some (device, .availability)) →
        let arrival : Arrival :=
          ⟨publishedTopic topicStart deviceId .availability, payload, receivedAt⟩
        let found := (collector settings loads dumpKey).run db before
        let stored := (collector settings loads dumpKey).step found arrival
        let text := Text.ofString availability.toText
        stored.2 = .ok () ∧ Backend.AvailabilityStored device text receivedAt found stored.1 ∧
        standing device ((collector settings loads dumpKey).run db (before ++ arrival :: after)) =
          some ⟨device, text, none, some receivedAt⟩ := by
  refine ⟨_, availabilityPayload_eq h.deviceId availability, ?_⟩
  intro receivedAt before after db device hafter arrival found stored text
  have hvalid : modelValidate Backend.AvailabilityMessage.check
      (.object (valueMembers nearest (availabilityMembers deviceId availability))) =
        .ok ⟨device, text⟩ := by
    rw [modelValidate, check_availability h]
    rfl
  obtain ⟨db', hrun, heffect⟩ := Backend.run_storeAvailability hvalid found
  have hresult : stored = (db', .ok ()) := h.step_eq dumpKey .availability receivedAt
    (distinct_availabilityMembers _ _) (.tail _ (.head _))
    (plain_availabilityDocument h.deviceId availability) hloads hrun
  rw [hresult]
  refine ⟨rfl, heffect, ?_⟩
  apply run_of_step (Q := fun db ↦ standing device db = some ⟨device, text, none, some receivedAt⟩)
    hafter
  · intro db later hrow hother
    exact standing_step hother hrow
  · change standing device stored.1 = _
    rw [hresult]
    exact standing_of_reported heffect.devices

theorem published_availability_stored_sample :
    ∃ payload, availabilityPayload (ascii "pump-1") .offline = some payload ∧
      standing samplePump ((collector sampleSettings
        (readOnly (availabilityDocument (ascii "pump-1") .offline)) .ok).run Database.empty
          [sampleArrival .availability payload, sampleArrival .telemetry payload]) =
        some ⟨samplePump, Text.ofString "offline", none, some 0⟩ := by
  obtain ⟨payload, hpayload, hstored⟩ := @published_availability_stored _ _ _
    (readOnly (availabilityDocument (ascii "pump-1") .offline)) .ok id paired_sample .offline
      fun _ ↦ rfl
  have hother : ∀ later ∈ [sampleArrival .telemetry payload],
      routeTopic sampleSettings later.topic ≠ some (samplePump, .availability) := by
    intro later hlater
    rw [List.mem_singleton.mp hlater, routeTopic_sampleArrival]
    simp
  exact ⟨payload, hpayload, (hstored 0 [] _ _ hother).2.2⟩

end

end EdgeMonitor.Scripts
