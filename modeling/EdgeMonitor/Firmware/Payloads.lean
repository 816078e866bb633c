import EdgeMonitor.Base.Calendar
import EdgeMonitor.Base.Decimal
import EdgeMonitor.Base.JsonText
import EdgeMonitor.Firmware.ConfigValidate
import EdgeMonitor.Firmware.TelemetryCycle

/-!
# Published payloads

Library `Firmware`. The texts that `firmware/components` publishes: timestamps of `system_time.c`,
samples of `telemetry_json.c`, snapshots and availability of `device_health_service.c`, the topics
and the last will of `mqtt_client_app.c`. Each text is the one of a JSON document and fits the
buffer that it is written to.
-/

namespace EdgeMonitor.Firmware
open EdgeMonitor.Base DeviceConfig

/-! ### Formats -/

/-- The text of a format. Each conversion is replaced by the text of its argument, and is written
`%s` here, whatever its type in the source. -/
def printf : List Char → List (List UInt8) → List UInt8
  | '%' :: 's' :: format, argument :: arguments => argument ++ printf format arguments
  | c :: format, arguments => UInt8.ofNat c.toNat :: printf format arguments
  | [], _ => []

/-- The characters of a format that is given line by line. -/
def formatOf (lines : List String) : List Char := lines.flatMap String.toList

/-- The string that `snprintf` leaves in a buffer of the given size. -/
def snprintf (size : Nat) (lines : List String) (arguments : List (List UInt8)) : List UInt8 :=
  (printf (formatOf lines) arguments).take (size - 1)

/-- The same, none when the text does not fit. -/
def snprintfFits (size : Nat) (lines : List String) (arguments : List (List UInt8)) :
    Option (List UInt8) :=
  let text := printf (formatOf lines) arguments
  if text.length < size then some text else none

/-! ### Timestamps -/

/-- Two digits of a number. -/
def twoDigits (n : Nat) : List UInt8 := Text.asciiBytes (Text.digits 2 n)

/-- `system_time_get_timestamp`, `system_time.c:66–107`, with a buffer of 21 bytes, none when it
fails. The clock shows seconds since 1970. -/
def systemTimeGetTimestamp (timeValid : Bool) (now : Nat) : Option (List UInt8) :=
  if !timeValid then none
  else
    let date := Calendar.ofOrdinal (now / 86400 + 719163)
    let rest := now % 86400
    snprintfFits 21 ["%s-%s-%sT%s:%s:%sZ"]
      [Numeral.decimal date.year, twoDigits date.month, twoDigits date.day,
        twoDigits (rest / 3600), twoDigits (rest % 3600 / 60), twoDigits (rest % 60)]

/-! ### Texts of enumerations -/

/-- `device_health_overall_status_to_string`. -/
def OverallStatus.toText : OverallStatus → String
  | .healthy => "healthy"
  | .degraded => "degraded"

/-- `device_availability_to_string`. -/
def Availability.toText : Availability → String
  | .online => "online"
  | .offline => "offline"

/-- `device_health_component_status_to_string`. -/
def ComponentStatus.toText : ComponentStatus → String
  | .healthy => "healthy"
  | .degraded => "degraded"
  | .fault => "fault"
  | .unknown => "unknown"

/-- `device_health_error_to_string`. -/
def HealthError.toText : HealthError → String
  | .none => "none"
  | .notInitialized => "not_initialized"
  | .communicationFailed => "communication_failed"
  | .readFailed => "read_failed"
  | .valueNotFinite => "value_not_finite"
  | .temperatureOutOfRange => "temperature_out_of_range"
  | .humidityOutOfRange => "humidity_out_of_range"
  | .timeNotSynchronized => "time_not_synchronized"
  | .mqttDisconnected => "mqtt_disconnected"
  | .publishFailed => "publish_failed"
  | .machineStatusUnavailable => "machine_status_unavailable"

/-! ### Payloads -/

/-- A number as `%.2f` prints it. -/
def twoDecimals (q : ℚ) : List UInt8 := (JsonText.ofRat q).render

/-- The format of `telemetry_to_json`, `telemetry_json.c:18–24`. -/
def telemetryFormat : List String :=
  ["\x7b",
    "\"device_id\":\"%s\",",
    "\"timestamp\":\"%s\",",
    "\"temperature\":%s,",
    "\"humidity\":%s,",
    "\"machine_status\":\"%s\"",
    "\x7d"]

/-- The payload of `telemetry_to_json`, `telemetry_json.c:5–37`, with the buffer of
`telemetry.c:76`, none when it does not fit. -/
def telemetryPayload (telemetry : Telemetry) : Option (List UInt8) :=
  snprintfFits 256 telemetryFormat
    [telemetry.deviceId, telemetry.timestamp, twoDecimals telemetry.temperature,
      twoDecimals telemetry.humidity, ascii telemetry.machineStatus]

/-- `timestamp_or_null`, `device_health_service.c:25–36`, and the time of a snapshot, lines
47–51. -/
def timestampOrNull (timestamp : Option (List UInt8)) : List UInt8 :=
  match timestamp with
  | some timestamp => snprintf 24 ["\"%s\""] [timestamp]
  | none => snprintf 24 ["null"] []

/-- `wifi_rssi`, `device_health_service.c:54–64`. -/
def rssiOrNull (metrics : HealthMetrics) : List UInt8 :=
  if metrics.hasWifiRssi then snprintf 16 ["%s"] [JsonText.integerBytes metrics.wifiRssiDbm.toInt]
  else snprintf 16 ["null"] []

/-- The format of `serialize_health`, `device_health_service.c:78–89`. -/
def healthFormat : List String :=
  ["\x7b\"schema_version\":1,\"device_id\":\"%s\",\"timestamp\":%s,",
    "\"status\":\"%s\",\"availability\":\"%s\",\"components\":\x7b",
    "\"sensor\":\x7b\"status\":\"%s\",\"error_code\":\"%s\",\"updated_at\":%s\x7d,",
    "\"machine_status\":\x7b\"status\":\"%s\",\"error_code\":\"%s\",\"updated_at\":%s\x7d,",
    "\"system_time\":\x7b\"status\":\"%s\",\"error_code\":\"%s\",\"updated_at\":%s\x7d,",
    "\"mqtt\":\x7b\"status\":\"%s\",\"error_code\":\"%s\",\"updated_at\":%s\x7d\x7d,",
    "\"counters\":\x7b\"samples_ok\":%s,\"samples_rejected\":%s",
    ",\"publish_ok\":%s,\"publish_failed\":%s",
    ",\"machine_status_errors\":%s\x7d,",
    "\"metrics\":\x7b\"uptime_seconds\":%s",
    ",\"free_heap_bytes\":%s,\"minimum_free_heap_bytes\":%s",
    ",\"wifi_rssi_dbm\":%s\x7d\x7d"]

/-- The arguments of a component in `serialize_health`. -/
def componentArguments (component : ComponentSnapshot) : List (List UInt8) :=
  [ascii component.status.toText, ascii component.error.toText,
    timestampOrNull component.updatedAt]

/-- The arguments of `serialize_health`, `device_health_service.c:90–114`. -/
def healthArguments (runtimeDeviceId : List UInt8) (timestamp : Option (List UInt8))
    (snapshot : HealthSnapshot) : List (List UInt8) :=
  runtimeDeviceId :: timestampOrNull timestamp :: ascii snapshot.status.toText ::
    ascii snapshot.availability.toText ::
    (componentArguments (snapshot.components .sensor) ++
      (componentArguments (snapshot.components .machineStatus) ++
        (componentArguments (snapshot.components .systemTime) ++
          (componentArguments (snapshot.components .mqtt) ++
            [Numeral.decimal snapshot.counters.samplesOk.toNat,
              Numeral.decimal snapshot.counters.samplesRejected.toNat,
              Numeral.decimal snapshot.counters.publishOk.toNat,
              Numeral.decimal snapshot.counters.publishFailed.toNat,
              Numeral.decimal snapshot.counters.machineStatusErrors.toNat,
              Numeral.decimal snapshot.metrics.uptimeSeconds.toNat,
              Numeral.decimal snapshot.metrics.freeHeapBytes.toNat,
              Numeral.decimal snapshot.metrics.minimumFreeHeapBytes.toNat,
              rssiOrNull snapshot.metrics]))))

/-- The payload of `serialize_health`, `device_health_service.c:38–116`, with the buffer of
`publish_health_snapshot`, none when it does not fit. -/
def healthPayload (runtimeDeviceId : List UInt8) (timestamp : Option (List UInt8))
    (snapshot : HealthSnapshot) : Option (List UInt8) :=
  snprintfFits 1536 healthFormat (healthArguments runtimeDeviceId timestamp snapshot)

/-- The format of `publish_online_availability`, `device_health_service.c:197`. -/
def onlineFormat : List String :=
  ["\x7b\"schema_version\":1,\"device_id\":\"%s\",\"status\":\"online\"\x7d"]

/-- The format of the last will, `mqtt_client_app.c:166`. -/
def offlineFormat : List String :=
  ["\x7b\"schema_version\":1,\"device_id\":\"%s\",\"status\":\"offline\"\x7d"]

/-- The message of `publish_online_availability`, `device_health_service.c:191–206`, none when it
does not fit, and `offline_payload`, which the broker publishes when the connection is lost. -/
def availabilityPayload (deviceId : List UInt8) : Availability → Option (List UInt8)
  | .online => snprintfFits 160 onlineFormat [deviceId]
  | .offline => some (snprintf 160 offlineFormat [deviceId])

/-! ### Topics -/

/-- The topics of a device with the prefix of the configuration, `mqtt_client_app.c:142–162`. -/
def telemetryTopic (topicStart deviceId : List UInt8) : List UInt8 :=
  snprintf 128 ["%s/%s/telemetry"] [topicStart, deviceId]

def healthTopic (topicStart deviceId : List UInt8) : List UInt8 :=
  snprintf 128 ["%s/%s/health"] [topicStart, deviceId]

def availabilityTopic (topicStart deviceId : List UInt8) : List UInt8 :=
  snprintf 128 ["%s/%s/availability"] [topicStart, deviceId]

/-! ### Documents -/

open JsonText

/-- The document of a sample. -/
def telemetryMembers (telemetry : Telemetry) : List (String × JsonText) :=
  [("device_id", .string telemetry.deviceId), ("timestamp", .string telemetry.timestamp),
    ("temperature", ofRat telemetry.temperature), ("humidity", ofRat telemetry.humidity),
    ("machine_status", .string (ascii telemetry.machineStatus))]

def telemetryDocument (telemetry : Telemetry) : JsonText := .object (telemetryMembers telemetry)

/-- The document of a time, or null. -/
def timestampDocument : Option (List UInt8) → JsonText
  | some timestamp => .string timestamp
  | none => .null

/-- The document of a component. -/
def componentMembers (component : ComponentSnapshot) : List (String × JsonText) :=
  [("status", .string (ascii component.status.toText)),
    ("error_code", .string (ascii component.error.toText)),
    ("updated_at", timestampDocument component.updatedAt)]

def componentDocument (component : ComponentSnapshot) : JsonText :=
  .object (componentMembers component)

def countersMembers (counters : HealthCounters) : List (String × JsonText) :=
  [("samples_ok", .integer counters.samplesOk.toNat),
    ("samples_rejected", .integer counters.samplesRejected.toNat),
    ("publish_ok", .integer counters.publishOk.toNat),
    ("publish_failed", .integer counters.publishFailed.toNat),
    ("machine_status_errors", .integer counters.machineStatusErrors.toNat)]

def rssiDocument (metrics : HealthMetrics) : JsonText :=
  if metrics.hasWifiRssi then .integer metrics.wifiRssiDbm.toInt else .null

def metricsMembers (metrics : HealthMetrics) : List (String × JsonText) :=
  [("uptime_seconds", .integer metrics.uptimeSeconds.toNat),
    ("free_heap_bytes", .integer metrics.freeHeapBytes.toNat),
    ("minimum_free_heap_bytes", .integer metrics.minimumFreeHeapBytes.toNat),
    ("wifi_rssi_dbm", rssiDocument metrics)]

def componentsMembers (components : HealthComponent → ComponentSnapshot) :
    List (String × JsonText) :=
  [("sensor", componentDocument (components .sensor)),
    ("machine_status", componentDocument (components .machineStatus)),
    ("system_time", componentDocument (components .systemTime)),
    ("mqtt", componentDocument (components .mqtt))]

/-- The document of a snapshot. -/
def healthMembers (runtimeDeviceId : List UInt8) (timestamp : Option (List UInt8))
    (snapshot : HealthSnapshot) : List (String × JsonText) :=
  [("schema_version", .integer 1), ("device_id", .string runtimeDeviceId),
    ("timestamp", timestampDocument timestamp),
    ("status", .string (ascii snapshot.status.toText)),
    ("availability", .string (ascii snapshot.availability.toText)),
    ("components", .object (componentsMembers snapshot.components)),
    ("counters", .object (countersMembers snapshot.counters)),
    ("metrics", .object (metricsMembers snapshot.metrics))]

def healthDocument (runtimeDeviceId : List UInt8) (timestamp : Option (List UInt8))
    (snapshot : HealthSnapshot) : JsonText :=
  .object (healthMembers runtimeDeviceId timestamp snapshot)

/-- The document of an availability. -/
def availabilityMembers (deviceId : List UInt8) (availability : Availability) :
    List (String × JsonText) :=
  [("schema_version", .integer 1), ("device_id", .string deviceId),
    ("status", .string (ascii availability.toText))]

def availabilityDocument (deviceId : List UInt8) (availability : Availability) : JsonText :=
  .object (availabilityMembers deviceId availability)

/-! ### Formats and their lines -/

variable {format : List Char} {arguments : List (List UInt8)}

/-- A text grows by its arguments only. -/
theorem length_printf_le (format : List Char) (arguments : List (List UInt8)) :
    (printf format arguments).length ≤ format.length + (arguments.map List.length).sum := by
  induction format, arguments using printf.induct with
  | case1 format argument arguments ih =>
    rw [printf, List.length_append, List.map_cons, List.sum_cons]
    simp only [List.length_cons]
    omega
  | case2 c format arguments hconversion ih =>
    rw [printf.eq_2 _ _ _ hconversion]
    simp only [List.length_cons]
    omega
  | case3 arguments =>
    rw [printf]
    exact Nat.zero_le _

/-- Text without a conversion stays. -/
theorem printf_append (text : List Char) (h : '%' ∉ text) :
    printf (text ++ format) arguments =
      text.map (fun c ↦ UInt8.ofNat c.toNat) ++ printf format arguments := by
  induction text with
  | nil => rfl
  | cons c text ih =>
    rw [List.mem_cons, not_or] at h
    rw [List.cons_append, printf.eq_2, ih h.2, List.map_cons, List.cons_append]
    intro _ _ _ _ hc
    exact absurd hc.symm h.1

theorem snprintf_eq {size : Nat} {lines : List String}
    (h : (printf (formatOf lines) arguments).length < size) :
    snprintf size lines arguments = printf (formatOf lines) arguments := by
  rw [snprintf, List.take_of_length_le (by omega)]

theorem snprintfFits_eq_some {size : Nat} {lines : List String} {text : List UInt8} :
    snprintfFits size lines arguments = some text ↔
      printf (formatOf lines) arguments = text ∧ text.length < size := by
  rw [snprintfFits]
  constructor
  · intro h
    split at h
    · next hlength =>
      cases h
      exact ⟨rfl, hlength⟩
    · cases h
  · rintro ⟨rfl, hlength⟩
    exact if_pos hlength

/-! ### Timestamps -/

/-- A text that the clock gives. -/
def IsTimestamp (timestamp : List UInt8) : Prop :=
  ∃ now, systemTimeGetTimestamp true now = some timestamp

/-- Digits as bytes and as characters. -/
theorem map_twoDigits (n : Nat) : (twoDigits n).map UInt8.toNat = Text.digits 2 n := by
  rw [twoDigits, Text.asciiBytes, List.map_map]
  calc (Text.digits 2 n).map (UInt8.toNat ∘ UInt8.ofNat) = (Text.digits 2 n).map id := by
        apply List.map_congr_left
        intro c hc
        have hdigit := Text.isDigit_of_mem_digits hc
        rw [Text.isDigit, Bool.and_eq_true, decide_eq_true_eq, decide_eq_true_eq] at hdigit
        rw [Function.comp_apply, UInt8.toNat_ofNat', id]
        omega
    _ = Text.digits 2 n := List.map_id _

theorem length_twoDigits (n : Nat) : (twoDigits n).length = 2 := by
  rw [← List.length_map UInt8.toNat, map_twoDigits, Text.length_digits]

theorem printf_timestamp (year month day hour minute second : List UInt8) :
    printf (formatOf ["%s-%s-%sT%s:%s:%sZ"]) [year, month, day, hour, minute, second] =
      year ++ 0x2D :: (month ++ 0x2D :: (day ++ 0x54 :: (hour ++ 0x3A :: (minute ++ 0x3A ::
        (second ++ [0x5A]))))) := rfl

/-- The years of a clock that counts from 1970 on. -/
theorem year_ofOrdinal {ordinal : Nat} (h : 719163 ≤ ordinal) :
    999 < (Calendar.ofOrdinal ordinal).year := by
  obtain ⟨hvalid, hordinal⟩ := Calendar.ofOrdinal_spec (show 1 ≤ ordinal by omega)
  have hdays : Calendar.daysBeforeYear (999 + 1) = 364877 := by decide
  rw [← Nat.not_le, ← Calendar.Date.toOrdinal_le_iff hvalid, hordinal, hdays]
  omega

/-- The day and the time of a text, as numbers of a fixed width. -/
theorem systemTimeGetTimestamp_eq_some {timeValid : Bool} {now : Nat} {timestamp : List UInt8}
    (h : systemTimeGetTimestamp timeValid now = some timestamp) :
    timeValid = true ∧ ∃ date, date = Calendar.ofOrdinal (now / 86400 + 719163) ∧
      date.year ≤ 9999 ∧ timestamp.map UInt8.toNat =
        Text.digits 4 date.year ++ 0x2D :: (Text.digits 2 date.month ++ 0x2D ::
          (Text.digits 2 date.day ++ 0x54 :: (Text.digits 2 (now % 86400 / 3600) ++ 0x3A ::
            (Text.digits 2 (now % 86400 % 3600 / 60) ++ 0x3A ::
              (Text.digits 2 (now % 86400 % 60) ++ [0x5A]))))) := by
  rw [systemTimeGetTimestamp] at h
  cases timeValid with
  | false => cases h
  | true =>
    have hlow := year_ofOrdinal (show 719163 ≤ now / 86400 + 719163 by omega)
    rw [Bool.not_true, if_neg Bool.false_ne_true] at h
    generalize Calendar.ofOrdinal (now / 86400 + 719163) = date at h hlow ⊢
    refine ⟨rfl, date, rfl, ?_⟩
    obtain ⟨htext, hlength⟩ := snprintfFits_eq_some.mp h
    rw [printf_timestamp] at htext
    subst htext
    simp only [List.length_append, List.length_cons, List.length_nil, length_twoDigits] at hlength
    have hhigh : date.year < 10 ^ 4 := lt_of_length_decimal (by decide) (by omega)
    refine ⟨by omega, ?_⟩
    simp only [List.map_append, List.map_cons, List.map_nil, map_twoDigits,
      map_decimal (show 10 ^ 3 ≤ date.year by omega) hhigh]
    rfl

/-! ### Characters -/

/-- Bytes in the order of their numbers need no escapes. -/
theorem isPlain_of_toNat {c : UInt8} (hlow : 0x20 ≤ c.toNat) (hhigh : c.toNat ≤ 0x7E)
    (hquote : c.toNat ≠ 0x22) (hbackslash : c.toNat ≠ 0x5C) : IsPlain c := by
  rw [IsPlain, UInt8.le_iff_toNat_le, UInt8.le_iff_toNat_le, ne_eq, ne_eq, ← UInt8.toNat_inj,
    ← UInt8.toNat_inj]
  exact ⟨hlow, hhigh, hquote, hbackslash⟩

/-- A timestamp fits its buffer and needs no escapes. -/
theorem IsTimestamp.plain {timestamp : List UInt8} (h : IsTimestamp timestamp) :
    timestamp.length = 20 ∧ ∀ c ∈ timestamp, IsPlain c := by
  obtain ⟨now, h⟩ := h
  obtain ⟨-, date, -, -, htext⟩ := systemTimeGetTimestamp_eq_some h
  constructor
  · rw [← List.length_map UInt8.toNat, htext]
    simp only [List.length_append, List.length_cons, List.length_nil, Text.length_digits]
  · intro c hc
    have hmem : c.toNat ∈ timestamp.map UInt8.toNat := List.mem_map_of_mem hc
    have hdigit (width n : Nat) (h : c.toNat ∈ Text.digits width n) :
        0x2D ≤ c.toNat ∧ c.toNat ≤ 0x5A := by
      have hdigit := Text.isDigit_of_mem_digits h
      rw [Text.isDigit, Bool.and_eq_true, decide_eq_true_eq, decide_eq_true_eq] at hdigit
      omega
    have hrange : 0x2D ≤ c.toNat ∧ c.toNat ≤ 0x5A := by
      rw [htext] at hmem
      simp only [List.mem_append, List.mem_cons, List.not_mem_nil, or_false] at hmem
      rcases hmem with h | h | h | h | h | h | h | h | h | h | h | h
      all_goals first
        | exact hdigit _ _ h
        | omega
    apply isPlain_of_toNat <;> omega

/-- An identity fits its buffers and needs no escapes. -/
theorem plain_of_validDeviceId {deviceId : List UInt8} (h : validDeviceId deviceId = true) :
    deviceId.length ≤ 63 ∧ ∀ c ∈ deviceId, IsPlain c := by
  rw [validDeviceId] at h
  split at h
  · cases h
  · next hlength =>
    refine ⟨by omega, ?_⟩
    split at h
    · cases h
    · split at h
      · cases h
      · next hall =>
        intro c hc
        rw [Bool.not_eq_true, List.any_eq_false] at hall
        by_cases halphanumeric : asciiAlphanumeric c = true
        · rw [asciiAlphanumeric] at halphanumeric
          simp only [Bool.or_eq_true, Bool.and_eq_true, decide_eq_true_eq, UInt8.le_iff_toNat_le]
            at halphanumeric
          change (0x41 ≤ c.toNat ∧ c.toNat ≤ 0x5A ∨ 0x61 ≤ c.toNat ∧ c.toNat ≤ 0x7A) ∨
            0x30 ≤ c.toNat ∧ c.toNat ≤ 0x39 at halphanumeric
          apply isPlain_of_toNat <;> omega
        · have hother : c = 0x2E ∨ c = 0x5F ∨ c = 0x2D := by
            have hrefused := hall c hc
            rw [Bool.not_eq_true] at halphanumeric
            simp only [halphanumeric, Bool.not_false, Bool.true_and, Bool.and_eq_true,
              bne_iff_ne] at hrefused
            tauto
          rcases hother with rfl | rfl | rfl <;> decide

/-! ### Samples -/

/-- Whether a text of the source needs no escapes can be evaluated. -/
theorem plain_of_all {s : List UInt8} (h : s.all (fun c ↦ decide (IsPlain c)) = true) :
    ∀ c ∈ s, IsPlain c := by
  intro c hc
  exact of_decide_eq_true (List.all_eq_true.mp h c hc)

theorem plain_toText :
    (∀ s : MachineStatus, ∀ c ∈ ascii s.toText, IsPlain c) ∧
    (∀ s : OverallStatus, ∀ c ∈ ascii s.toText, IsPlain c) ∧
    (∀ s : Availability, ∀ c ∈ ascii s.toText, IsPlain c) ∧
    (∀ s : ComponentStatus, ∀ c ∈ ascii s.toText, IsPlain c) ∧
    (∀ s : HealthError, ∀ c ∈ ascii s.toText, IsPlain c) := by
  refine ⟨?_, ?_, ?_, ?_, ?_⟩ <;> intro s <;> cases s <;> exact plain_of_all rfl

/-- What a cycle accepts of the sensor, with the text of the clock. -/
structure IsSample (runtimeDeviceId timestamp : List UInt8) (telemetry : Telemetry) : Prop where
  deviceId : telemetry.deviceId = runtimeDeviceId
  timestamp : telemetry.timestamp = timestamp
  temperature : -40 ≤ telemetry.temperature ∧ telemetry.temperature ≤ 85
  humidity : 0 ≤ telemetry.humidity ∧ telemetry.humidity ≤ 100
  machineStatus : ∃ status : MachineStatus, telemetry.machineStatus = status.toText

theorem isSample_of_telemetryModelCreate {runtimeDeviceId : List UInt8} {outcomes : CycleOutcomes}
    {telemetry : Telemetry} (h : telemetryModelCreate runtimeDeviceId outcomes = .ok telemetry) :
    ∃ timestamp, outcomes.sampleTimestamp = some timestamp ∧
      IsSample runtimeDeviceId timestamp telemetry := by
  rw [telemetryModelCreate] at h
  cases hsensor : outcomes.sensor with
  | error e =>
    rw [hsensor] at h
    cases h
  | ok data =>
    rw [hsensor] at h
    dsimp only at h
    cases hmeasurement : validateMeasurement data with
    | error e =>
      rw [hmeasurement] at h
      cases h
    | ok values =>
      rw [hmeasurement] at h
      dsimp only at h
      cases htimestamp : outcomes.sampleTimestamp with
      | none =>
        rw [htimestamp] at h
        cases h
      | some timestamp =>
        rw [htimestamp] at h
        dsimp only at h
        split at h
        · cases h
        · split at h
          · cases h
          · cases h
            have hranges : (-40 ≤ values.1 ∧ values.1 ≤ 85) ∧ 0 ≤ values.2 ∧ values.2 ≤ 100 := by
              rw [validateMeasurement] at hmeasurement
              split at hmeasurement
              · split at hmeasurement
                · cases hmeasurement
                · next htemperature =>
                  split at hmeasurement
                  · cases hmeasurement
                  · next hhumidity =>
                    cases hmeasurement
                    rw [not_or, not_lt, not_lt] at htemperature hhumidity
                    exact ⟨htemperature, hhumidity⟩
              · cases hmeasurement
            exact ⟨timestamp, rfl, rfl, rfl, hranges.1, hranges.2, _, rfl⟩

theorem IsSample.plain {runtimeDeviceId timestamp : List UInt8} {telemetry : Telemetry}
    (h : IsSample runtimeDeviceId timestamp telemetry) (hid : validDeviceId runtimeDeviceId = true)
    (htime : IsTimestamp timestamp) : (telemetryDocument telemetry).Plain := by
  obtain ⟨status, hstatus⟩ := h.machineStatus
  rw [telemetryDocument, telemetryMembers, Plain]
  refine ⟨plain_of_all rfl, ?_, plain_of_all rfl, ?_, plain_of_all rfl, ?_, plain_of_all rfl, ?_,
    plain_of_all rfl, ?_, ?_⟩
  · rw [h.deviceId]
    exact (plain_of_validDeviceId hid).2
  · rw [h.timestamp]
    exact htime.plain.2
  · trivial
  · trivial
  · rw [hstatus]
    exact plain_toText.1 status
  · trivial

/-- The number of digits in front of the point. -/
theorem length_twoDecimals_le {q : ℚ} {width high : Nat} (hwidth : 0 < width) (h : |q| ≤ high)
    (hhigh : high < 10 ^ width) : (twoDecimals q).length ≤ width + 4 := by
  apply length_hundredthsBytes_le hwidth
  have hround : roundEven (|q| * 100) ≤ high * 100 := by
    apply roundEven_le
    push_cast
    linarith
  omega

theorem printf_telemetry (telemetry : Telemetry) :
    printf (formatOf telemetryFormat)
      [telemetry.deviceId, telemetry.timestamp, twoDecimals telemetry.temperature,
        twoDecimals telemetry.humidity, ascii telemetry.machineStatus] =
      (telemetryDocument telemetry).render := by
  simp only [telemetryDocument, telemetryMembers, render, renderMembers, keyed, twoDecimals,
    List.cons_append, List.append_assoc, List.nil_append]
  rfl

/-- A sample fits the buffer. -/
theorem IsSample.payload_eq {runtimeDeviceId timestamp : List UInt8} {telemetry : Telemetry}
    (h : IsSample runtimeDeviceId timestamp telemetry) (hid : validDeviceId runtimeDeviceId = true)
    (htime : IsTimestamp timestamp) :
    telemetryPayload telemetry = some (telemetryDocument telemetry).render := by
  apply snprintfFits_eq_some.mpr
  refine ⟨printf_telemetry telemetry, ?_⟩
  rw [← printf_telemetry]
  have hlength := length_printf_le (formatOf telemetryFormat)
    [telemetry.deviceId, telemetry.timestamp, twoDecimals telemetry.temperature,
      twoDecimals telemetry.humidity, ascii telemetry.machineStatus]
  have hformat : (formatOf telemetryFormat).length ≤ 100 := Nat.le_of_ble_eq_true rfl
  have hdeviceId := (plain_of_validDeviceId hid).1
  have htimestamp := htime.plain.1
  obtain ⟨status, hstatus⟩ := h.machineStatus
  have hmachine : (ascii status.toText).length ≤ 7 := by
    cases status <;> exact Nat.le_of_ble_eq_true rfl
  have htemperature : |telemetry.temperature| ≤ (85 : Nat) := by
    rw [abs_le]
    push_cast
    constructor <;> linarith [h.temperature.1, h.temperature.2]
  have hhumidity : |telemetry.humidity| ≤ (100 : Nat) := by
    rw [abs_le]
    push_cast
    constructor <;> linarith [h.humidity.1, h.humidity.2]
  have hdegrees := length_twoDecimals_le (show 0 < 2 by decide) htemperature (by decide)
  have hpercent := length_twoDecimals_le (show 0 < 3 by decide) hhumidity (by decide)
  simp only [List.map_cons, List.map_nil, List.sum_cons, List.sum_nil] at hlength
  rw [h.deviceId, h.timestamp, hstatus] at hlength ⊢
  omega

/-! ### Snapshots -/

/-- The times of a snapshot come from the clock. -/
def HealthSnapshot.Stamped (snapshot : HealthSnapshot) : Prop :=
  ∀ c, ∀ timestamp ∈ (snapshot.components c).updatedAt, IsTimestamp timestamp

/-- An operation has a time of the clock, or none. -/
def HealthOperation.Stamped : HealthOperation → Prop
  | updateComponent _ _ _ updatedAt => ∀ timestamp ∈ updatedAt, IsTimestamp timestamp
  | _ => True

theorem HealthSnapshot.stamped_init : init.Stamped := by
  intro c timestamp htimestamp
  cases htimestamp

/-- `strlcpy` keeps a time as it is. -/
theorem HealthSnapshot.Stamped.apply {snapshot : HealthSnapshot} (h : snapshot.Stamped)
    {operation : HealthOperation} (hoperation : operation.Stamped) :
    (snapshot.apply operation).Stamped := by
  cases operation with
  | updateComponent component status error updatedAt =>
    intro c timestamp htimestamp
    by_cases hc : c = component
    · subst hc
      have hupdated : ((snapshot.apply (.updateComponent c status error updatedAt)).components
          c).updatedAt = updatedAt.map (·.take 20) := by
        simp [HealthSnapshot.apply, DeviceHealth.updateComponent]
      rw [hupdated] at htimestamp
      obtain ⟨given, hgiven, rfl⟩ := Option.mem_map.mp htimestamp
      have hclock := hoperation given hgiven
      rwa [List.take_of_length_le hclock.plain.1.le]
    · have hsame : (snapshot.apply (.updateComponent component status error updatedAt)).components
          c = snapshot.components c := by
        simp [HealthSnapshot.apply, DeviceHealth.updateComponent, hc]
      rw [hsame] at htimestamp
      exact h c timestamp htimestamp
  | _ => exact h

theorem HealthSnapshot.Stamped.run {snapshot : HealthSnapshot} (h : snapshot.Stamped)
    {operations : List HealthOperation} (hall : ∀ o ∈ operations, o.Stamped) :
    (machine.run snapshot operations).Stamped := by
  induction operations generalizing snapshot with
  | nil => exact h
  | cons operation operations ih =>
    exact ih (h.apply (hall operation List.mem_cons_self))
      fun o ho ↦ hall o (List.mem_cons_of_mem _ ho)

theorem timestampOrNull_eq {timestamp : Option (List UInt8)}
    (h : ∀ t ∈ timestamp, IsTimestamp t) :
    timestampOrNull timestamp = (timestampDocument timestamp).render := by
  cases timestamp with
  | none => rfl
  | some t =>
    have hlength := (h t rfl).plain.1
    have hline : printf (formatOf ["\"%s\""]) [t] = 0x22 :: (t ++ [0x22]) := rfl
    rw [timestampOrNull, snprintf_eq, hline, timestampDocument, render, List.cons_append]
    rw [hline]
    simp only [List.length_cons, List.length_append, List.length_nil]
    omega

theorem rssiOrNull_eq (metrics : HealthMetrics) :
    rssiOrNull metrics = (rssiDocument metrics).render := by
  rw [rssiOrNull, rssiDocument]
  split
  · have hlower := metrics.wifiRssiDbm.le_toInt
    have hupper := metrics.wifiRssiDbm.toInt_lt
    have hlength := length_integerBytes_le (show 0 < 10 by decide)
      (show metrics.wifiRssiDbm.toInt.natAbs < 10 ^ 10 by omega)
    have hline : printf (formatOf ["%s"]) [integerBytes metrics.wifiRssiDbm.toInt] =
        integerBytes metrics.wifiRssiDbm.toInt := List.append_nil _
    rw [snprintf_eq, hline, render]
    rw [hline]
    omega
  · rfl

/-! Lines of the format of a snapshot. -/

theorem printf_head (runtimeDeviceId timestamp status availability : List UInt8) :
    printf ("\x7b\"schema_version\":1,\"device_id\":\"%s\",\"timestamp\":%s,".toList ++
        ("\"status\":\"%s\",\"availability\":\"%s\",\"components\":\x7b".toList ++ format))
      (runtimeDeviceId :: timestamp :: status :: availability :: arguments) =
    0x7B :: (keyed "schema_version" (integerBytes 1) ++ 0x2C ::
      (keyed "device_id" (JsonText.string runtimeDeviceId).render ++ 0x2C ::
        (keyed "timestamp" timestamp ++ 0x2C ::
          (keyed "status" (JsonText.string status).render ++ 0x2C ::
            (keyed "availability" (JsonText.string availability).render ++ 0x2C ::
              keyed "components" (0x7B :: printf format arguments)))))) := by
  simp only [render, keyed, List.cons_append, List.append_assoc, List.nil_append]
  rfl

/-- The line of a component is its name, a part that is the same for each, and a comma, which
stands behind a bracket after the last one. -/
theorem printf_component (name : String) (rest : List Char) {line : String}
    {component : ComponentSnapshot}
    (hline : line.toList = '"' :: name.toList ++
      ("\":\x7b\"status\":\"%s\",\"error_code\":\"%s\",\"updated_at\":%s\x7d".toList ++ rest))
    (hname : '%' ∉ name.toList) (hrest : '%' ∉ rest)
    (h : ∀ t ∈ component.updatedAt, IsTimestamp t) :
    printf (line.toList ++ format) (componentArguments component ++ arguments) =
      keyed name (componentDocument component).render ++
        (rest.map (fun c ↦ UInt8.ofNat c.toNat) ++ printf format arguments) := by
  have hliteral : literal name = name.toList.map fun c ↦ UInt8.ofNat c.toNat := by
    rw [literal, Text.ofString, Text.asciiBytes, List.map_map]
    rfl
  have hstart : '%' ∉ '"' :: name.toList := by
    rw [List.mem_cons, not_or]
    exact ⟨by decide, hname⟩
  rw [hline, List.append_assoc, List.append_assoc, printf_append _ hstart, componentArguments,
    timestampOrNull_eq h, keyed, hliteral, ← printf_append rest hrest]
  simp only [componentDocument, componentMembers, render, renderMembers, keyed, List.map_cons,
    List.cons_append, List.append_assoc, List.nil_append]
  rfl

theorem printf_counters (counters : HealthCounters) :
    printf ("\"counters\":\x7b\"samples_ok\":%s,\"samples_rejected\":%s".toList ++
        (",\"publish_ok\":%s,\"publish_failed\":%s".toList ++
          (",\"machine_status_errors\":%s\x7d,".toList ++ format)))
      (Numeral.decimal counters.samplesOk.toNat :: Numeral.decimal counters.samplesRejected.toNat ::
        Numeral.decimal counters.publishOk.toNat :: Numeral.decimal counters.publishFailed.toNat ::
          Numeral.decimal counters.machineStatusErrors.toNat :: arguments) =
    keyed "counters" (JsonText.object (countersMembers counters)).render ++
      0x2C :: printf format arguments := by
  simp only [countersMembers, render, renderMembers, keyed, integerBytes_natCast,
    List.cons_append, List.append_assoc, List.nil_append]
  rfl

theorem printf_metrics (metrics : HealthMetrics) :
    printf ("\"metrics\":\x7b\"uptime_seconds\":%s".toList ++
        (",\"free_heap_bytes\":%s,\"minimum_free_heap_bytes\":%s".toList ++
          (",\"wifi_rssi_dbm\":%s\x7d\x7d".toList ++ [])))
      [Numeral.decimal metrics.uptimeSeconds.toNat, Numeral.decimal metrics.freeHeapBytes.toNat,
        Numeral.decimal metrics.minimumFreeHeapBytes.toNat, rssiOrNull metrics] =
    keyed "metrics" (JsonText.object (metricsMembers metrics)).render ++ [0x7D] := by
  simp only [metricsMembers, render, renderMembers, keyed, integerBytes_natCast, rssiOrNull_eq,
    List.cons_append, List.append_assoc, List.nil_append]
  rfl

/-- The text of a snapshot is the one of its document. -/
theorem printf_health {runtimeDeviceId : List UInt8} {timestamp : Option (List UInt8)}
    {snapshot : HealthSnapshot} (htime : ∀ t ∈ timestamp, IsTimestamp t) (h : snapshot.Stamped) :
    printf (formatOf healthFormat) (healthArguments runtimeDeviceId timestamp snapshot) =
      (healthDocument runtimeDeviceId timestamp snapshot).render := by
  rw [healthArguments, formatOf, healthFormat]
  simp only [List.flatMap_cons, List.flatMap_nil]
  rw [printf_head, printf_component "sensor" [','] rfl (by decide) (by decide) (h .sensor),
    printf_component "machine_status" [','] rfl (by decide) (by decide) (h .machineStatus),
    printf_component "system_time" [','] rfl (by decide) (by decide) (h .systemTime),
    printf_component "mqtt" ['}', ','] rfl (by decide) (by decide) (h .mqtt), printf_counters,
    printf_metrics, timestampOrNull_eq htime]
  simp only [healthDocument, healthMembers, componentsMembers, render, renderMembers, keyed,
    List.map_cons, List.map_nil, List.cons_append, List.append_assoc, List.nil_append]
  rfl

theorem length_timestampOrNull_le (timestamp : Option (List UInt8)) :
    (timestampOrNull timestamp).length ≤ 23 := by
  cases timestamp with
  | none => exact Nat.le_of_ble_eq_true rfl
  | some t => exact List.length_take_le _ _

theorem length_componentArguments_le (component : ComponentSnapshot) :
    ((componentArguments component).map List.length).sum ≤ 57 := by
  have hstatus : (ascii component.status.toText).length ≤ 8 := by
    cases component.status <;> exact Nat.le_of_ble_eq_true rfl
  have herror : (ascii component.error.toText).length ≤ 26 := by
    cases component.error <;> exact Nat.le_of_ble_eq_true rfl
  have hupdated := length_timestampOrNull_le component.updatedAt
  rw [componentArguments, List.map_cons, List.map_cons, List.map_singleton, List.sum_cons,
    List.sum_cons, List.sum_singleton]
  omega

/-- The longest texts that the numbers and names of a snapshot can have. -/
theorem length_healthArguments_le {runtimeDeviceId : List UInt8}
    (hid : validDeviceId runtimeDeviceId = true) (timestamp : Option (List UInt8))
    (snapshot : HealthSnapshot) :
    ((healthArguments runtimeDeviceId timestamp snapshot).map List.length).sum ≤ 484 := by
  have hdeviceId := (plain_of_validDeviceId hid).1
  have hstatus : (ascii snapshot.status.toText).length ≤ 8 := by
    cases snapshot.status <;> exact Nat.le_of_ble_eq_true rfl
  have havailability : (ascii snapshot.availability.toText).length ≤ 7 := by
    cases snapshot.availability <;> exact Nat.le_of_ble_eq_true rfl
  have hlong (n : UInt64) : (Numeral.decimal n.toNat).length ≤ 20 :=
    Numeral.length_decimal_le (by decide) (n.toNat_lt.trans (by decide))
  have hshort (n : UInt32) : (Numeral.decimal n.toNat).length ≤ 10 :=
    Numeral.length_decimal_le (by decide) (n.toNat_lt.trans (by decide))
  have hrssi : (rssiOrNull snapshot.metrics).length ≤ 15 := by
    rw [rssiOrNull]
    split <;> exact List.length_take_le _ _
  simp only [healthArguments, List.map_cons, List.map_nil, List.map_append, List.sum_append,
    List.sum_cons, List.sum_nil]
  have hmetrics := Nat.add_le_add (hlong snapshot.metrics.uptimeSeconds)
    (Nat.add_le_add (hshort snapshot.metrics.freeHeapBytes)
      (Nat.add_le_add (hshort snapshot.metrics.minimumFreeHeapBytes)
        (Nat.add_le_add hrssi (Nat.le_refl 0))))
  have hcounters := Nat.add_le_add (hlong snapshot.counters.samplesOk)
    (Nat.add_le_add (hlong snapshot.counters.samplesRejected)
      (Nat.add_le_add (hlong snapshot.counters.publishOk)
        (Nat.add_le_add (hlong snapshot.counters.publishFailed)
          (Nat.add_le_add (hlong snapshot.counters.machineStatusErrors) hmetrics))))
  have hcomponents := Nat.add_le_add (length_componentArguments_le (snapshot.components .sensor))
    (Nat.add_le_add (length_componentArguments_le (snapshot.components .machineStatus))
      (Nat.add_le_add (length_componentArguments_le (snapshot.components .systemTime))
        (Nat.add_le_add (length_componentArguments_le (snapshot.components .mqtt)) hcounters)))
  exact Nat.add_le_add hdeviceId (Nat.add_le_add (length_timestampOrNull_le timestamp)
    (Nat.add_le_add hstatus (Nat.add_le_add havailability hcomponents)))

/-- The text of a snapshot fits its buffer. -/
theorem healthPayload_eq {runtimeDeviceId : List UInt8} {timestamp : Option (List UInt8)}
    {snapshot : HealthSnapshot} (hid : validDeviceId runtimeDeviceId = true)
    (htime : ∀ t ∈ timestamp, IsTimestamp t) (h : snapshot.Stamped) :
    healthPayload runtimeDeviceId timestamp snapshot =
      some (healthDocument runtimeDeviceId timestamp snapshot).render := by
  apply snprintfFits_eq_some.mpr
  refine ⟨printf_health htime h, ?_⟩
  rw [← printf_health htime h]
  have hlength := length_printf_le (formatOf healthFormat)
    (healthArguments runtimeDeviceId timestamp snapshot)
  have harguments := length_healthArguments_le hid timestamp snapshot
  have hformat : (formatOf healthFormat).length ≤ 700 := by
    rw [formatOf, List.length_flatMap]
    exact Nat.le_of_ble_eq_true rfl
  omega

theorem plain_componentDocument {component : ComponentSnapshot}
    (h : ∀ t ∈ component.updatedAt, IsTimestamp t) : (componentDocument component).Plain := by
  rw [componentDocument, componentMembers, Plain]
  refine ⟨plain_of_all rfl, plain_toText.2.2.2.1 _, plain_of_all rfl, plain_toText.2.2.2.2 _,
    plain_of_all rfl, ?_, trivial⟩
  cases hupdated : component.updatedAt with
  | none => trivial
  | some t => exact (h t hupdated).plain.2

/-- The texts of a snapshot need no escapes. -/
theorem plain_healthDocument {runtimeDeviceId : List UInt8} {timestamp : Option (List UInt8)}
    {snapshot : HealthSnapshot} (hid : validDeviceId runtimeDeviceId = true)
    (htime : ∀ t ∈ timestamp, IsTimestamp t) (h : snapshot.Stamped) :
    (healthDocument runtimeDeviceId timestamp snapshot).Plain := by
  have htimestamp : (timestampDocument timestamp).Plain := by
    cases timestamp with
    | none => trivial
    | some t => exact (htime t rfl).plain.2
  have hcomponents : (JsonText.object (componentsMembers snapshot.components)).Plain :=
    ⟨plain_of_all rfl, plain_componentDocument (h .sensor), plain_of_all rfl,
      plain_componentDocument (h .machineStatus), plain_of_all rfl,
      plain_componentDocument (h .systemTime), plain_of_all rfl, plain_componentDocument (h .mqtt),
      trivial⟩
  have hcounters : (JsonText.object (countersMembers snapshot.counters)).Plain :=
    ⟨plain_of_all rfl, trivial, plain_of_all rfl, trivial, plain_of_all rfl, trivial,
      plain_of_all rfl, trivial, plain_of_all rfl, trivial, trivial⟩
  have hmetrics : (JsonText.object (metricsMembers snapshot.metrics)).Plain := by
    refine ⟨plain_of_all rfl, trivial, plain_of_all rfl, trivial, plain_of_all rfl, trivial,
      plain_of_all rfl, ?_, trivial⟩
    rw [rssiDocument]
    split <;> trivial
  exact ⟨plain_of_all rfl, trivial, plain_of_all rfl, (plain_of_validDeviceId hid).2,
    plain_of_all rfl, htimestamp, plain_of_all rfl, plain_toText.2.1 _, plain_of_all rfl,
    plain_toText.2.2.1 _, plain_of_all rfl, hcomponents, plain_of_all rfl, hcounters,
    plain_of_all rfl, hmetrics, trivial⟩

/-! ### Availability and topics -/

theorem availability_fits {lines : List String} {deviceId text : List UInt8}
    (hid : validDeviceId deviceId = true) (hline : printf (formatOf lines) [deviceId] = text)
    (hformat : (formatOf lines).length ≤ 90) :
    snprintfFits 160 lines [deviceId] = some text ∧ snprintf 160 lines [deviceId] = text := by
  have hdeviceId := (plain_of_validDeviceId hid).1
  have hlength := length_printf_le (formatOf lines) [deviceId]
  simp only [List.map_cons, List.map_nil, List.sum_cons, List.sum_nil] at hlength
  rw [snprintfFits_eq_some, snprintf_eq (by omega), ← hline]
  exact ⟨⟨rfl, by omega⟩, rfl⟩

/-- The messages about availability are documents. -/
theorem availabilityPayload_eq {deviceId : List UInt8} (hid : validDeviceId deviceId = true)
    (availability : Availability) : availabilityPayload deviceId availability =
      some (availabilityDocument deviceId availability).render := by
  cases availability with
  | online =>
    have hline : printf (formatOf onlineFormat) [deviceId] =
        (availabilityDocument deviceId .online).render := by
      simp only [availabilityDocument, availabilityMembers, render, renderMembers, keyed,
        List.cons_append, List.append_assoc, List.nil_append]
      rfl
    exact (availability_fits hid hline (Nat.le_of_ble_eq_true rfl)).1
  | offline =>
    have hline : printf (formatOf offlineFormat) [deviceId] =
        (availabilityDocument deviceId .offline).render := by
      simp only [availabilityDocument, availabilityMembers, render, renderMembers, keyed,
        List.cons_append, List.append_assoc, List.nil_append]
      rfl
    exact congrArg some (availability_fits hid hline (Nat.le_of_ble_eq_true rfl)).2

theorem plain_availabilityDocument {deviceId : List UInt8} (hid : validDeviceId deviceId = true)
    (availability : Availability) : (availabilityDocument deviceId availability).Plain :=
  ⟨plain_of_all rfl, trivial, plain_of_all rfl, (plain_of_validDeviceId hid).2, plain_of_all rfl,
    plain_toText.2.2.1 _, trivial⟩

/-- The topics of a device with a short prefix. -/
theorem topics_eq {topicStart deviceId : List UInt8} (hid : validDeviceId deviceId = true)
    (hstart : topicStart.length ≤ 50) :
    telemetryTopic topicStart deviceId = topicStart ++ 0x2F :: (deviceId ++ ascii "/telemetry") ∧
    healthTopic topicStart deviceId = topicStart ++ 0x2F :: (deviceId ++ ascii "/health") ∧
    availabilityTopic topicStart deviceId =
      topicStart ++ 0x2F :: (deviceId ++ ascii "/availability") := by
  have hdeviceId := (plain_of_validDeviceId hid).1
  have hfits (level : List UInt8) (hlevel : level.length ≤ 13) :
      (topicStart ++ 0x2F :: (deviceId ++ level)).length < 128 := by
    rw [List.length_append, List.length_cons, List.length_append]
    omega
  refine ⟨?_, ?_, ?_⟩
  · exact snprintf_eq (hfits (ascii "/telemetry") (Nat.le_of_ble_eq_true rfl))
  · exact snprintf_eq (hfits (ascii "/health") (Nat.le_of_ble_eq_true rfl))
  · exact snprintf_eq (hfits (ascii "/availability") (Nat.le_of_ble_eq_true rfl))

end EdgeMonitor.Firmware
