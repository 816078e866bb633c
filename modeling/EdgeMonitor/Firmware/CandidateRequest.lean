import EdgeMonitor.Firmware.ConfigStore

/-!
# Candidate requests

Library `Firmware`. `parse_configuration` of
`firmware/components/provisioning_service/provisioning_service.c:574–676`: a JSON object
sent by the operator is laid over a copy of the running configuration. The JSON parser is
not part of the repository; its values are those that the called cJSON functions can tell
apart.
-/

namespace EdgeMonitor.Firmware
open EdgeMonitor.Base
open DeviceConfig (ascii)

/-! ### JSON values -/

/-- A C string without its NUL. -/
abbrev CString := { s : List UInt8 // 0 ∉ s }

private theorem nul_not_mem_nil : (0 : UInt8) ∉ ([] : List UInt8) := List.not_mem_nil

/-- The empty string. -/
def CString.empty : CString := ⟨[], nul_not_mem_nil⟩

/-- A value of cJSON. `number` holds `valuedouble`; the infinities that overlong literals
give are beyond every bound that the code compares with, as large numbers are. -/
inductive CJson where
  | null
  | bool (value : Bool)
  | number (valuedouble : ℚ)
  | string (valuestring : CString)
  | array (items : List CJson)
  | object (items : List (CString × CJson))

namespace CJson

/-- `cJSON_GetObjectItemCaseSensitive`; a missing value is a null pointer. -/
def item (object : Option CJson) (name : String) : Option CJson :=
  match object with
  | some (.object items) => (items.find? fun entry ↦ entry.1.val == ascii name).map (·.2)
  | _ => none

/-- `cJSON_IsObject`. -/
def isObject : Option CJson → Bool
  | some (.object _) => true
  | _ => false

/-- The string of a string value. -/
def text? : Option CJson → Option (List UInt8)
  | some (.string s) => some s.val
  | _ => none

/-- The value of a Boolean. -/
def bool? : Option CJson → Option Bool
  | some (.bool b) => some b
  | _ => none

end CJson
open CJson

/-! ### Fields -/

/-- `copy_json_string`: the array afterwards, none when it returns false. -/
def copyJsonString {n : Nat} (object : Option CJson) (name : String) (target : CharArray n)
    (required : Bool) : Option (CharArray n) :=
  if (item object name).isNone && !required then some target
  else
    match text? (item object name) with
    | none => none
    | some text =>
      if text = [] then none
      else if text.length < n then some (target.snprintf text)
      else none

/-- `json_uint`: the number afterwards, none when it returns false. -/
def jsonUint (object : Option CJson) (name : String) (target : UInt32) (required : Bool) :
    Option UInt32 :=
  if (item object name).isNone && !required then some target
  else
    match item object name with
    | some (.number value) =>
      if value < 0 ∨ value > 4294967295 ∨ value ≠ value.floor then none
      else some (UInt32.ofNat value.floor.toNat)
    | _ => none

/-- The name of a field: short inside of its group, else with the group's name. -/
def fieldName (group : Option CJson) (short long : String) : String :=
  if isObject group then short else long

/-- Where the fields of a group are: in its object, or flat in the root. -/
def fieldSource (root group : Option CJson) : Option CJson :=
  if isObject group then group else root

/-! ### The request -/

/-- The strings and the interval of `parse_configuration`, `provisioning_service.c:614–624`;
`hasActive` makes the secrets and the certificate optional. -/
def parseStrings (hasActive : Bool) (root : Option CJson) (configuration : DeviceConfig) :
    Option DeviceConfig := do
  let mqtt := item root "mqtt"
  let source := fieldSource root mqtt
  let deviceId ← copyJsonString root "device_id" configuration.deviceId true
  let wifiSsid ← copyJsonString root "wifi_ssid" configuration.wifiSsid true
  let wifiPassword ← copyJsonString root "wifi_password" configuration.wifiPassword !hasActive
  let mqttBrokerUri ← copyJsonString source (fieldName mqtt "broker_uri" "mqtt_broker_uri")
    configuration.mqttBrokerUri true
  let mqttUsername ← copyJsonString source (fieldName mqtt "username" "mqtt_username")
    configuration.mqttUsername true
  let mqttPassword ← copyJsonString source (fieldName mqtt "password" "mqtt_password")
    configuration.mqttPassword !hasActive
  let mqttClientId ← copyJsonString source (fieldName mqtt "client_id" "mqtt_client_id")
    configuration.mqttClientId true
  let mqttCaCertificate ← copyJsonString source
    (fieldName mqtt "ca_certificate" "mqtt_ca_certificate") configuration.mqttCaCertificate
    !hasActive
  let telemetryIntervalSeconds ← jsonUint root "telemetry_interval_seconds"
    configuration.telemetryIntervalSeconds true
  return { configuration with
    deviceId, wifiSsid, wifiPassword, mqttBrokerUri, mqttUsername, mqttPassword, mqttClientId,
    mqttCaCertificate, telemetryIntervalSeconds }

/-- What a failed check of `parse_configuration` writes to its error buffer. -/
def require {α : Type} (message : String) : Option α → Except String α
  | some value => .ok value
  | none => .error message

/-- The maintenance fields, `provisioning_service.c:625–638`. -/
def parseMaintenance (root : Option CJson) (configuration : DeviceConfig) :
    Except String DeviceConfig := do
  let maintenance := item root "maintenance"
  let source := fieldSource root maintenance
  let maintenanceOnBoot ← require "maintenance_on_boot must be boolean"
    (bool? (item source (fieldName maintenance "on_boot" "maintenance_on_boot")))
  let maintenanceWindowSeconds ← require "maintenance timeouts must be integers"
    (jsonUint source (fieldName maintenance "window_seconds" "maintenance_window_seconds")
      configuration.maintenanceWindowSeconds true)
  let maintenanceMaxSessionSeconds ← require "maintenance timeouts must be integers"
    (jsonUint source
      (fieldName maintenance "max_session_seconds" "maintenance_max_session_seconds")
      configuration.maintenanceMaxSessionSeconds true)
  return { configuration with
    maintenanceOnBoot, maintenanceWindowSeconds, maintenanceMaxSessionSeconds }

/-- The machine status fields, `provisioning_service.c:639–674`. -/
def parseMachineStatus (root : Option CJson) (configuration : DeviceConfig) :
    Except String DeviceConfig := do
  let machine := item root "machine_status"
  let source := fieldSource root machine
  let provider := text? (item source (fieldName machine "provider" "machine_status_provider"))
  let machineStatusProvider ← require "machine_status_provider must be disabled or gpio"
    (if provider = some (ascii "disabled") then some MachineProvider.disabled
      else if provider = some (ascii "gpio") then some MachineProvider.gpio
      else none)
  let gpio ← require "machine_status_gpio must be an integer"
    (jsonUint source (fieldName machine "gpio" "machine_status_gpio")
      configuration.machineStatusGpio.toUInt32 (machineStatusProvider == MachineProvider.gpio))
  let active := item source (fieldName machine "active_level" "machine_status_active_level")
  let machineStatusActiveHigh ← require "machine_status_active_level must be high or low"
    (if active.isNone then some configuration.machineStatusActiveHigh
      else if text? active = some (ascii "high") then some true
      else if text? active = some (ascii "low") then some false
      else none)
  let pull := item source (fieldName machine "pull" "machine_status_pull")
  let machineStatusPull ← require "machine_status_pull is invalid"
    (if pull.isNone || text? pull == some (ascii "none") then some Pull.none
      else if text? pull = some (ascii "up") then some Pull.up
      else if text? pull = some (ascii "down") then some Pull.down
      else none)
  return { configuration with
    machineStatusProvider, machineStatusGpio := gpio.toInt32, machineStatusActiveHigh,
    machineStatusPull }

/-- The configuration that a request is laid over, `provisioning_service.c:595–604`. -/
def baseConfiguration : Option DeviceConfig → DeviceConfig
  | some current => { current with revision := current.revision + 1 }
  | none => { DeviceConfig.zero with
      revision := 1
      machineStatusGpio := 27
      machineStatusPull := Pull.none }

/-- `parse_configuration` up to its validation. -/
def readRequest (current : Option DeviceConfig) (root : Option CJson) :
    Except String DeviceConfig := do
  let schemaVersion ← require "schema_version is missing or unsupported"
    ((jsonUint root "schema_version" 0 true).filter (· == Firmware.schemaVersion))
  let configuration ← require "one or more required fields have invalid type, value or length"
    (parseStrings current.isSome root { baseConfiguration current with schemaVersion })
  let configuration ← parseMaintenance root configuration
  parseMachineStatus root configuration

/-- `parse_configuration`: the candidate, or the message in the error buffer. -/
def parseConfiguration (platform : Platform) (current : Option DeviceConfig)
    (root : Option CJson) : Except String DeviceConfig := do
  let configuration ← readRequest current root
  match configuration.validationMessage platform with
  | some message => .error message
  | none => .ok configuration

/-- An accepted candidate is valid. -/
theorem validate_of_parseConfiguration {platform : Platform} {current : Option DeviceConfig}
    {root : Option CJson} {candidate : DeviceConfig}
    (h : parseConfiguration platform current root = .ok candidate) :
    candidate.validate platform = .ok := by
  simp only [parseConfiguration, bind, Except.bind] at h
  split at h
  next => cases h
  next =>
    split at h
    next => cases h
    next hnone =>
      cases h
      rw [DeviceConfig.validate, hnone]
      rfl

end EdgeMonitor.Firmware
