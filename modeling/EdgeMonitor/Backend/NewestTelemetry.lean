import EdgeMonitor.Backend.Availability

/-!
# The newest telemetry

Library `Backend`. The three queries of `backend/repositories/telemetry_repository.py` that say
what is newest, on the telemetry that the collector stored.
-/

namespace EdgeMonitor.Backend
open EdgeMonitor.Base

/-! ### Queries -/

/-- `WHERE device_id = ?`, if there is one. -/
def ofDevice (deviceId : Option Text) (db : Database) : List TelemetryRow :=
  db.telemetry.rows.filter fun row ↦ deviceId.all (· == row.deviceId)

/-- What `fetch_telemetry_statistics` returns. -/
structure TelemetryStatistics where
  samples : Nat
  minTemperature : Option ℚ
  maxTemperature : Option ℚ
  avgTemperature : Option ℚ
  minHumidity : Option ℚ
  maxHumidity : Option ℚ
  avgHumidity : Option ℚ
  lastUpdate : Option Text

/-- SQL's `AVG`, null when there is nothing. -/
def average (values : List ℚ) : Option ℚ :=
  if values = [] then none else some (values.sum / values.length)

namespace TelemetryRepository

/-- `fetch_telemetry_history`, `telemetry_repository.py:4–25`. -/
def fetchTelemetryHistory (limit : Nat) (deviceId : Option Text) (db : Database) :
    List TelemetryRow :=
  ((ofDevice deviceId db).insertionSort (·.timestamp ≥ ·.timestamp)).take limit

/-- `fetch_latest_telemetry`, `telemetry_repository.py:27–48`. -/
def fetchLatestTelemetry (deviceId : Option Text) (db : Database) : Option TelemetryRow :=
  ((ofDevice deviceId db).insertionSort (·.id ≥ ·.id)).head?

/-- `fetch_telemetry_statistics`, `telemetry_repository.py:78–108`. -/
def fetchTelemetryStatistics (deviceId : Option Text) (db : Database) : TelemetryStatistics :=
  let rows := ofDevice deviceId db
  { samples := rows.length
    minTemperature := (rows.map (·.temperature)).min?
    maxTemperature := (rows.map (·.temperature)).max?
    avgTemperature := average (rows.map (·.temperature))
    minHumidity := (rows.map (·.humidity)).min?
    maxHumidity := (rows.map (·.humidity)).max?
    avgHumidity := average (rows.map (·.humidity))
    lastUpdate := (rows.map (·.timestamp)).max? }

end TelemetryRepository

/-! ### The first of a sorted list -/

/-- The first of a list in descending order has the greatest key. -/
theorem head?_insertionSort {α β : Type} [LinearOrder β] (f : α → β) (l : List α) :
    (l.insertionSort (f · ≥ f ·)).head?.map f = (l.map f).max? := by
  have htotal : Std.Total fun a b ↦ f a ≥ f b := ⟨fun a b ↦ le_total (f b) (f a)⟩
  have htrans : IsTrans α fun a b ↦ f a ≥ f b := ⟨fun _ _ _ hab hbc ↦ hbc.trans hab⟩
  have hsorted := List.pairwise_insertionSort (f · ≥ f ·) l
  have hperm := List.perm_insertionSort (f · ≥ f ·) l
  cases h : l.insertionSort (f · ≥ f ·) with
  | nil =>
    rw [h] at hperm
    rw [hperm.symm.eq_nil]
    rfl
  | cons a rest =>
    rw [h] at hsorted hperm
    symm
    rw [List.head?_cons, Option.map_some, List.max?_eq_some_iff]
    constructor
    · exact List.mem_map_of_mem (hperm.mem_iff.mp List.mem_cons_self)
    · intro b hb
      obtain ⟨c, hc, rfl⟩ := List.mem_map.mp hb
      rcases List.mem_cons.mp (hperm.mem_iff.mpr hc) with rfl | hrest
      · exact le_rfl
      · exact List.rel_of_pairwise_cons hsorted hrest

/-- The first of the history carries the greatest timestamp. -/
theorem head?_fetchTelemetryHistory {limit : Nat} (h : 1 ≤ limit) (deviceId : Option Text)
    (db : Database) :
    (TelemetryRepository.fetchTelemetryHistory limit deviceId db).head?.map (·.timestamp) =
      (TelemetryRepository.fetchTelemetryStatistics deviceId db).lastUpdate := by
  rw [TelemetryRepository.fetchTelemetryHistory, List.head?_take, if_neg (by omega)]
  exact head?_insertionSort TelemetryRow.timestamp _

/-- The latest row is the last one, when ids grow. -/
theorem fetchLatestTelemetry_eq {deviceId : Option Text} {db : Database}
    (h : (db.telemetry.rows.map (·.id)).Pairwise (· < ·)) :
    TelemetryRepository.fetchLatestTelemetry deviceId db = (ofDevice deviceId db).getLast? := by
  have hsorted : (ofDevice deviceId db).Pairwise (·.id < ·.id) :=
    (List.pairwise_map.mp h).filter _
  have hhead : (TelemetryRepository.fetchLatestTelemetry deviceId db).map (·.id) =
      ((ofDevice deviceId db).map (·.id)).max? := head?_insertionSort TelemetryRow.id _
  have hmem : ∀ row ∈ TelemetryRepository.fetchLatestTelemetry deviceId db,
      row ∈ ofDevice deviceId db := by
    intro row hrow
    exact (List.mem_insertionSort _).mp (List.mem_of_mem_head? hrow)
  cases hlast : (ofDevice deviceId db).getLast? with
  | none =>
    rw [List.getLast?_eq_none_iff] at hlast
    rw [TelemetryRepository.fetchLatestTelemetry, hlast]
    rfl
  | some last =>
    obtain ⟨front, hrows⟩ := List.getLast?_eq_some_iff.mp hlast
    have hmax : ((ofDevice deviceId db).map (·.id)).max? = some last.id := by
      rw [List.max?_eq_some_iff]
      refine ⟨List.mem_map_of_mem (List.mem_of_getLast? hlast), ?_⟩
      intro id hid
      obtain ⟨row, hrow, rfl⟩ := List.mem_map.mp hid
      rw [hrows] at hrow hsorted
      rcases List.mem_append.mp hrow with hfront | hlast
      · exact le_of_lt ((List.pairwise_append.mp hsorted).2.2 row hfront last
          (List.mem_singleton_self last))
      · rw [List.mem_singleton.mp hlast]
    rw [hmax] at hhead
    obtain ⟨row, hrow, hid⟩ := Option.map_eq_some_iff.mp hhead
    have hin : row ∈ db.telemetry.rows := List.mem_of_mem_filter (hmem row hrow)
    have hlastIn : last ∈ db.telemetry.rows :=
      List.mem_of_mem_filter (List.mem_of_getLast? hlast)
    rw [hrow, Table.eq_of_key (t := db.telemetry.toTable) hin hlastIn hid]

/-! ### Accepted samples -/

section

variable (settings : CollectorSettings) (loads : List UInt8 → Except PyError Json)
  (dumpKey : Text → Except PyError Text) (deviceId : Text)

/-- The telemetry of a device that an accepted message holds. -/
def acceptedTelemetry (arrival : Arrival) : Option TelemetryMessage :=
  match routeTopic settings arrival.topic with
  | some (id, .telemetry) =>
    if id = deviceId then
      (((loads arrival.rawPayload).bind (identify settings arrival.topic id)).bind
        (modelValidate TelemetryMessage.check)).toOption
    else none
  | _ => none

/-- The accepted telemetry of a device in the order of arrival. -/
def acceptedSamples (arrivals : List Arrival) : List TelemetryMessage :=
  arrivals.filterMap (acceptedTelemetry settings loads deviceId)

end

section

variable {settings : CollectorSettings} {loads : List UInt8 → Except PyError Json}
  {dumpKey : Text → Except PyError Text} {deviceId : Text}

/-- Health and availability add no telemetry. -/
theorem telemetry_of_storeMessage {receivedAt : Instant} {id : Text} {assumeOnline : Bool}
    {kind : MessageKind} {members : List (Text × Json)} {db : Database}
    (hmember : Json.member members (Text.ofString "device_id") = some (.string id))
    (hkind : kind ≠ .telemetry) :
    ((storeMessage dumpKey receivedAt id assumeOnline kind (.object members)).run db).2.telemetry =
      db.telemetry := by
  obtain ⟨e, herror⟩ | ⟨message, hconforms, hstored⟩ :=
    @storeMessage_cases dumpKey receivedAt id assumeOnline members kind hmember
  · rw [herror]
  · obtain ⟨db', hrun, heffect⟩ := hstored db
    rw [hrun]
    cases hconforms with
    | telemetry message h => exact absurd rfl hkind
    | health message dump h hdump => exact heffect.telemetry
    | availability message h => exact heffect.telemetry

/-- What one message adds to the telemetry. -/
theorem telemetry_step (db : Database) (arrival : Arrival) :
    ∃ added : Option TelemetryMessage,
      ((collector settings loads dumpKey).step db arrival).1.telemetry.rows =
        db.telemetry.rows ++ added.toList.map (·.row (db.telemetry.sequence + 1)) ∧
      added.filter (·.deviceId == deviceId) = acceptedTelemetry settings loads deviceId arrival := by
  change ∃ _ : Option TelemetryMessage,
    ((processMessage settings loads dumpKey arrival.receivedAt arrival.topic
      arrival.rawPayload).run db).2.telemetry.rows = _ ∧ _
  rw [acceptedTelemetry]
  cases hroute : routeTopic settings arrival.topic with
  | none =>
    rw [processMessage, hroute]
    exact ⟨none, (List.append_nil _).symm, rfl⟩
  | some route =>
    obtain ⟨id, kind⟩ := route
    rw [processMessage_eq settings loads dumpKey arrival.receivedAt arrival.rawPayload hroute]
    cases hread : (loads arrival.rawPayload).bind (identify settings arrival.topic id) with
    | error e =>
      refine ⟨none, (List.append_nil _).symm, ?_⟩
      cases kind with
      | telemetry =>
        dsimp only
        rw [hread]
        split <;> rfl
      | health => rfl
      | availability => rfl
    | ok payload =>
      change ∃ _ : Option TelemetryMessage, ((storeMessage dumpKey arrival.receivedAt id
        (arrival.topic == settings.mqttTopic) kind payload).run db).2.telemetry.rows = _ ∧ _
      have hmembers : ∃ members, payload = .object members ∧
          Json.member members (Text.ofString "device_id") = some (.string id) := by
        cases hloads : loads arrival.rawPayload with
        | error e =>
          rw [hloads] at hread
          cases hread
        | ok value =>
          rw [hloads] at hread
          obtain ⟨loaded, -, hpayload, hmember, -⟩ := identify_eq_ok hread
          exact ⟨_, hpayload, hmember⟩
      obtain ⟨members, rfl, hmember⟩ := hmembers
      cases kind with
      | telemetry =>
        dsimp only
        rw [hread]
        cases hvalid : modelValidate TelemetryMessage.check (.object members) with
        | error e =>
          refine ⟨none, ?_, ?_⟩
          · rw [storeMessage, hvalid]
            exact (List.append_nil _).symm
          · change none = if id = deviceId then
              (modelValidate TelemetryMessage.check (.object members)).toOption else none
            rw [hvalid]
            split <;> rfl
        | ok message =>
          obtain ⟨db', hrun, hid, hstored⟩ := @run_storeTelemetry dumpKey arrival.receivedAt id
            (arrival.topic == settings.mqttTopic) members message hmember hvalid db
          refine ⟨some message, ?_, ?_⟩
          · rw [hrun]
            exact hstored.telemetry
          · change (some message).filter _ = if id = deviceId then
              (modelValidate TelemetryMessage.check (.object members)).toOption else none
            rw [hvalid, ← hid]
            by_cases h : message.deviceId = deviceId
            · simp [h, Except.toOption]
            · simp [h]
      | health =>
        refine ⟨none, ?_, rfl⟩
        rw [telemetry_of_storeMessage hmember (by simp)]
        exact (List.append_nil _).symm
      | availability =>
        refine ⟨none, ?_, rfl⟩
        rw [telemetry_of_storeMessage hmember (by simp)]
        exact (List.append_nil _).symm

/-- The telemetry of a device holds the given samples in the order of its ids. -/
structure Holds (deviceId : Text) (db : Database) (samples : List TelemetryMessage) : Prop where
  ids : (db.telemetry.rows.map (·.id)).Pairwise (· < ·)
  timestamps : (ofDevice (some deviceId) db).map (·.timestamp) =
    samples.map (·.timestamp.stored)

theorem Holds.step {db : Database} {samples : List TelemetryMessage} (h : Holds deviceId db samples)
    (arrival : Arrival) :
    Holds deviceId ((collector settings loads dumpKey).step db arrival).1
      (samples ++ (acceptedTelemetry settings loads deviceId arrival).toList) := by
  obtain ⟨added, hrows, hadded⟩ := @telemetry_step settings loads dumpKey deviceId db arrival
  constructor
  · rw [hrows, List.map_append, List.pairwise_append]
    refine ⟨h.ids, ?_, ?_⟩
    · cases added with
      | none => exact .nil
      | some message => exact List.pairwise_singleton _ _
    · intro a ha b hb
      obtain ⟨row, hrow, rfl⟩ := List.mem_map.mp ha
      have hle := db.telemetry.key_le row hrow
      cases added with
      | none => cases hb
      | some message =>
        rw [List.mem_singleton.mp hb]
        exact Nat.lt_succ_of_le hle
  · rw [ofDevice, hrows, List.filter_append, List.map_append, List.map_append, ← h.timestamps,
      ← hadded]
    congr 1
    cases added with
    | none => rfl
    | some message =>
      by_cases hid : message.deviceId = deviceId
      · simp [hid, TelemetryMessage.row, Option.filter_some]
      · have hid' : ¬ deviceId = message.deviceId := fun heq ↦ hid heq.symm
        simp [hid, hid', TelemetryMessage.row]

theorem Holds.run {db : Database} {samples : List TelemetryMessage} (h : Holds deviceId db samples)
    (arrivals : List Arrival) :
    Holds deviceId ((collector settings loads dumpKey).run db arrivals)
      (samples ++ acceptedSamples settings loads deviceId arrivals) := by
  induction arrivals generalizing db samples with
  | nil => simpa [acceptedSamples] using h
  | cons arrival arrivals ih =>
    have hstep : Holds deviceId ((collector settings loads dumpKey).step db arrival).1
        (samples ++ (acceptedTelemetry settings loads deviceId arrival).toList) := h.step arrival
    have hrest := ih hstep
    rw [List.append_assoc] at hrest
    rw [Machine.run_cons, acceptedSamples, List.filterMap_cons]
    cases hadded : acceptedTelemetry settings loads deviceId arrival with
    | none => simpa [hadded, acceptedSamples] using hrest
    | some message => simpa [hadded, acceptedSamples] using hrest

/-- The timestamp of a valid message is a time in whole seconds. -/
theorem timestamp_of_valid {payload : Json} {message : TelemetryMessage}
    (h : modelValidate TelemetryMessage.check payload = .ok message) :
    message.timestamp.Exists ∧ message.timestamp.microsecond = 0 := by
  have hvalid := modelValidate_eq_ok h
  cases payload with
  | object members =>
    simp only [TelemetryMessage.check, Check.seq_eq_valid, Check.map_eq_valid] at hvalid
    obtain ⟨_, _, ⟨_, _, ⟨_, _, ⟨_, _, ⟨_, time, ⟨_, _, rfl⟩, htime, rfl⟩, _, rfl⟩, _, rfl⟩, _,
      rfl⟩, _, rfl⟩ := hvalid
    obtain ⟨value, -, hvalue⟩ := field_eq_valid htime
    have hparsed : validateDeviceTimestamp value = .ok time := by
      rw [deviceTimestamp] at hvalue
      split at hvalue
      next d hd =>
        cases hvalue
        exact hd
      next => cases hvalue
      next => cases hvalue
    cases value with
    | string s =>
      obtain ⟨seconds, haccepted⟩ := exists_accepted hparsed
      exact ⟨haccepted.existing, haccepted.microsecond_eq⟩
    | _ => cases hparsed
  | _ => cases hvalid

theorem timestamp_of_accepted {arrivals : List Arrival} {message : TelemetryMessage}
    (h : message ∈ acceptedSamples settings loads deviceId arrivals) :
    message.timestamp.Exists ∧ message.timestamp.microsecond = 0 := by
  obtain ⟨arrival, -, hmessage⟩ := List.mem_filterMap.mp h
  rw [acceptedTelemetry] at hmessage
  split at hmessage
  next id hroute =>
    split at hmessage
    next hid =>
      cases hread : (loads arrival.rawPayload).bind (identify settings arrival.topic id) with
      | error e =>
        rw [hread] at hmessage
        cases hmessage
      | ok payload =>
        rw [hread] at hmessage
        cases hvalid : modelValidate TelemetryMessage.check payload with
        | error e =>
          change (modelValidate TelemetryMessage.check payload).toOption = _ at hmessage
          rw [hvalid] at hmessage
          cases hmessage
        | ok m =>
          change (modelValidate TelemetryMessage.check payload).toOption = _ at hmessage
          rw [hvalid] at hmessage
          cases hmessage
          exact timestamp_of_valid hvalid
    next => cases hmessage
  next => cases hmessage

/-- Stored timestamps are in the order of their instants. -/
theorem stored_le_iff {d e : DateTime} (hd : d.Exists ∧ d.microsecond = 0)
    (he : e.Exists ∧ e.microsecond = 0) : d.stored ≤ e.stored ↔ d.instant ≤ e.instant := by
  have harith (a b : Int) : ¬ b < a ↔
      (a - 62135683200) * 1000000 + (0 : Nat) ≤ (b - 62135683200) * 1000000 + (0 : Nat) := by
    omega
  rw [← not_lt, stored_lt_iff he.1 hd.1 he.2 hd.2, DateTime.instant, DateTime.instant, hd.2, he.2]
  exact harith _ _

/-- The three queries agree on the newest timestamp of a device that has telemetry, exactly when
none of its accepted samples is newer than the one that came last. -/
theorem newest_agree_iff (db : Database) (arrivals : List Arrival) {last : TelemetryMessage}
    (hlast : (acceptedSamples settings loads deviceId arrivals).getLast? = some last) :
    let stored := (collector settings loads dumpKey).run { db with telemetry := .empty } arrivals
    (∃ timestamp,
      (TelemetryRepository.fetchLatestTelemetry (some deviceId) stored).map (·.timestamp) =
        some timestamp ∧
      (∀ limit, 1 ≤ limit →
        (TelemetryRepository.fetchTelemetryHistory limit (some deviceId) stored).head?.map
          (·.timestamp) = some timestamp) ∧
      (TelemetryRepository.fetchTelemetryStatistics (some deviceId) stored).lastUpdate =
        some timestamp) ↔
      ∀ sample ∈ acceptedSamples settings loads deviceId arrivals,
        sample.timestamp.instant ≤ last.timestamp.instant := by
  intro stored
  have hholds : Holds deviceId stored (acceptedSamples settings loads deviceId arrivals) := by
    have hstart : Holds deviceId { db with telemetry := .empty } [] := ⟨.nil, rfl⟩
    exact hstart.run arrivals
  have hlatest : (TelemetryRepository.fetchLatestTelemetry (some deviceId) stored).map
      (·.timestamp) = some last.timestamp.stored := by
    rw [fetchLatestTelemetry_eq hholds.ids, ← List.getLast?_map, hholds.timestamps,
      List.getLast?_map, hlast]
    rfl
  have hstatistics : (TelemetryRepository.fetchTelemetryStatistics (some deviceId)
      stored).lastUpdate = ((acceptedSamples settings loads deviceId arrivals).map
        (·.timestamp.stored)).max? := by
    rw [← hholds.timestamps]
    rfl
  have hmem := List.mem_of_getLast? hlast
  have hmax : ((acceptedSamples settings loads deviceId arrivals).map
      (·.timestamp.stored)).max? = some last.timestamp.stored ↔
      ∀ sample ∈ acceptedSamples settings loads deviceId arrivals,
        sample.timestamp.instant ≤ last.timestamp.instant := by
    rw [List.max?_eq_some_iff, List.forall_mem_map]
    constructor
    · intro h sample hsample
      exact (stored_le_iff (timestamp_of_accepted hsample) (timestamp_of_accepted hmem)).mp
        (h.2 sample hsample)
    · intro h
      refine ⟨List.mem_map_of_mem hmem, fun sample hsample ↦ ?_⟩
      exact (stored_le_iff (timestamp_of_accepted hsample) (timestamp_of_accepted hmem)).mpr
        (h sample hsample)
  rw [← hmax, ← hstatistics]
  constructor
  · rintro ⟨timestamp, hfirst, -, hupdate⟩
    rw [hlatest] at hfirst
    rw [hupdate, hfirst]
  · intro hupdate
    refine ⟨_, hlatest, fun limit hlimit ↦ ?_, hupdate⟩
    rw [head?_fetchTelemetryHistory hlimit, hupdate]

end

/-! ### A late sample -/

/-- Telemetry of one second and of the second before. -/
def lateLoads : List UInt8 → Except PyError Json
  | [0] => .ok (sampleTelemetry "2026-08-22T10:30:45Z")
  | _ => .ok (sampleTelemetry "2026-08-22T10:30:44Z")

/-- The earlier sample arrives after the later one. -/
def lateArrivals : List Arrival :=
  [⟨Text.ofString "industrial/devices/pump-1/telemetry", [0], 1⟩,
    ⟨Text.ofString "industrial/devices/pump-1/telemetry", [1], 2⟩]

/-- The accepted sample of a second. -/
def lateSample (second : Nat) : TelemetryMessage :=
  ⟨samplePump, ⟨⟨2026, 8, 22⟩, 10, 30, second, 0, some 0⟩, 20, 50, Text.ofString "running"⟩

theorem acceptedSamples_late : acceptedSamples sampleSettings lateLoads samplePump lateArrivals =
    [lateSample 45, lateSample 44] := by
  decide +kernel

/-- The latest sample is then not the one that the history starts with. -/
theorem newest_agree_fails :
    (¬ ∀ (settings : CollectorSettings) (loads : List UInt8 → Except PyError Json)
      (dumpKey : Text → Except PyError Text) (deviceId : Text) (db : Database)
      (arrivals : List Arrival),
      acceptedSamples settings loads deviceId arrivals ≠ [] →
      let stored := (collector settings loads dumpKey).run { db with telemetry := .empty } arrivals
      ∃ timestamp,
        (TelemetryRepository.fetchLatestTelemetry (some deviceId) stored).map (·.timestamp) =
          some timestamp ∧
        (∀ limit, 1 ≤ limit →
          (TelemetryRepository.fetchTelemetryHistory limit (some deviceId) stored).head?.map
            (·.timestamp) = some timestamp) ∧
        (TelemetryRepository.fetchTelemetryStatistics (some deviceId) stored).lastUpdate =
          some timestamp) ∧
    (TelemetryRepository.fetchLatestTelemetry (some samplePump)
      ((collector sampleSettings lateLoads .ok).run .empty lateArrivals)).map (·.timestamp) =
        some (Text.ofString "2026-08-22T10:30:44Z") ∧
    (TelemetryRepository.fetchTelemetryStatistics (some samplePump)
      ((collector sampleSettings lateLoads .ok).run .empty lateArrivals)).lastUpdate =
        some (Text.ofString "2026-08-22T10:30:45Z") := by
  have hlatest : (TelemetryRepository.fetchLatestTelemetry (some samplePump)
      ((collector sampleSettings lateLoads .ok).run .empty lateArrivals)).map (·.timestamp) =
        some (Text.ofString "2026-08-22T10:30:44Z") := by decide +kernel
  have hupdate : (TelemetryRepository.fetchTelemetryStatistics (some samplePump)
      ((collector sampleSettings lateLoads .ok).run .empty lateArrivals)).lastUpdate =
        some (Text.ofString "2026-08-22T10:30:45Z") := by decide +kernel
  refine ⟨fun h ↦ ?_, hlatest, hupdate⟩
  obtain ⟨timestamp, hfirst, -, hlast⟩ := h sampleSettings lateLoads .ok samplePump .empty
    lateArrivals (by rw [acceptedSamples_late]; simp)
  have hne : Text.ofString "2026-08-22T10:30:44Z" ≠ Text.ofString "2026-08-22T10:30:45Z" := by
    decide +kernel
  exact hne (Option.some.inj ((hlatest.symm.trans hfirst).trans (hlast.symm.trans hupdate)))

theorem newest_agree_iff_sample :
    ¬ ∃ timestamp,
      (TelemetryRepository.fetchLatestTelemetry (some samplePump)
        ((collector sampleSettings lateLoads .ok).run .empty lateArrivals)).map (·.timestamp) =
        some timestamp ∧
      (∀ limit, 1 ≤ limit →
        (TelemetryRepository.fetchTelemetryHistory limit (some samplePump)
          ((collector sampleSettings lateLoads .ok).run .empty lateArrivals)).head?.map
          (·.timestamp) = some timestamp) ∧
      (TelemetryRepository.fetchTelemetryStatistics (some samplePump)
        ((collector sampleSettings lateLoads .ok).run .empty lateArrivals)).lastUpdate =
        some timestamp := by
  have hlast : (acceptedSamples sampleSettings lateLoads samplePump lateArrivals).getLast? =
      some (lateSample 44) := by
    rw [acceptedSamples_late]
    rfl
  have hiff := @newest_agree_iff sampleSettings lateLoads .ok samplePump .empty lateArrivals
    (lateSample 44) hlast
  have hlate : ¬ (lateSample 45).timestamp.instant ≤ (lateSample 44).timestamp.instant := by decide
  intro h
  have hall := hiff.mp h
  rw [acceptedSamples_late] at hall
  exact hlate (hall _ List.mem_cons_self)

end EdgeMonitor.Backend
