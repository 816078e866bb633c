import EdgeMonitor.Firmware.DeviceConfig

/-!
# Configuration validation

Library `Firmware`. `device_config_validate` of
`firmware/components/device_config/device_config.c:38–240` with the string checks it
calls. Character arrays are read as C strings once they are known to be terminated.
The X.509 parser is not part of the repository and is a field of `Platform`.
-/

namespace EdgeMonitor.Firmware

/-- What the firmware takes from its build and from libraries outside the repository. -/
structure Platform where
  /-- `mbedtls_x509_crt_parse` returns zero on this C string. -/
  certificateParses : List UInt8 → Bool
  /-- `CONFIG_PROVISIONING_CANDIDATE_MAX_ATTEMPTS`. -/
  candidateMaxAttempts : UInt32
  /-- `range 1 3`, `firmware/components/config/Kconfig:95`. -/
  one_le_maxAttempts : 1 ≤ candidateMaxAttempts
  maxAttempts_le_three : candidateMaxAttempts ≤ 3

namespace DeviceConfig

/-! ### C strings -/

/-- The bytes of an ASCII string literal, without its NUL. -/
def ascii (s : String) : List UInt8 := s.toList.map fun c ↦ UInt8.ofNat c.toNat

/-- `strchr` as an offset. -/
def strchr (s : List UInt8) (c : UInt8) : Option Nat := s.findIdx? (· == c)

/-- `strrchr` as an offset. -/
def strrchr (s : List UInt8) (c : UInt8) : Option Nat :=
  (s.reverse.findIdx? (· == c)).map (s.length - 1 - ·)

/-- `strpbrk` finds one of the characters. -/
def strpbrk (s accept : List UInt8) : Bool := s.any (accept.contains ·)

/-- `strstr` finds the needle. -/
def strstr (needle : List UInt8) : List UInt8 → Bool
  | [] => needle.isEmpty
  | b :: s => needle.isPrefixOf (b :: s) || strstr needle s

/-- `terminated`, `device_config.c:82–85`. -/
def terminated {n : Nat} (value : CharArray n) : Bool := value.toList.contains 0

/-! ### Field checks -/

/-- The ASCII letters and digits. -/
def asciiAlphanumeric (b : UInt8) : Bool :=
  (0x41 ≤ b && b ≤ 0x5A) || (0x61 ≤ b && b ≤ 0x7A) || (0x30 ≤ b && b ≤ 0x39)

/-- The reserved device ids of `valid_device_id`, `device_config.c:63–65`. -/
def reservedDeviceIds : List (List UInt8) :=
  [ascii "collector", ascii "healthcheck", ascii "simulator", ascii "legacy-test",
    ascii "legacy-device"]

/-- `valid_device_id`, `device_config.c:38–72`. -/
def validDeviceId (value : List UInt8) : Bool :=
  if value.length = 0 ∨ value.length > 63 then false
  else if !asciiAlphanumeric (value.headD 0) then false
  else if value.any (fun c ↦ !asciiAlphanumeric c && c != 0x2E && c != 0x5F && c != 0x2D) then
    false
  else !reservedDeviceIds.contains value

/-- The GPIO numbers that `gpio_allowed` refuses, `device_config.c:93`. -/
def reservedGpios : List Int32 := [0, 1, 2, 3, 5, 6, 7, 8, 9, 10, 11, 12, 15, 21, 22]

/-- `gpio_allowed`, `device_config.c:87–100`. -/
def gpioAllowed (gpio : Int32) : Bool :=
  if gpio < 0 ∨ gpio > 39 then false else !reservedGpios.contains gpio

/-- The digit loop of `valid_mqtts_uri`, `device_config.c:129–140`; `none` is its
`return false`. -/
def portNumber : List UInt8 → UInt32 → Option UInt32
  | [], port => some port
  | c :: cs, port =>
    if c < 0x30 ∨ c > 0x39 then none
    else if port > 6553 then none
    else
      let port := port * 10 + (c - 0x30).toUInt32
      if port > 65535 then none else portNumber cs port

/-- The offset of the colon before the port, `device_config.c:110–124`. -/
def portSeparator (authority : List UInt8) : Option Nat :=
  if authority.headD 0 = 0x5B then
    match strchr authority 0x5D with
    | none => none
    | some closing =>
      if closing = 1 ∨ authority.getD (closing + 1) 0 ≠ 0x3A then none else some (closing + 1)
  else
    match strrchr authority 0x3A with
    | none => none
    | some separator => if separator = 0 then none else some separator

/-- `valid_mqtts_uri`, `device_config.c:102–142`. -/
def validMqttsUri (value : List UInt8) : Bool :=
  if value.take 8 ≠ ascii "mqtts://" ∨ value.length = 8
      ∨ (strchr (value.drop 8) 0x40).isSome ∨ strpbrk value [0x20, 0x09, 0x0D, 0x0A] then
    false
  else
    let authority := value.drop 8
    match portSeparator authority with
    | none => false
    | some separator =>
      let portText := authority.drop (separator + 1)
      if portText.isEmpty then false
      else
        match portNumber portText 0 with
        | none => false
        | some port => port > 0

/-! ### Validation -/

/-- `device_config_validate`, `device_config.c:144–240`: the message written for the first
check that fails, or none. -/
def validationMessage (platform : Platform) (c : DeviceConfig) : Option String :=
  if c.schemaVersion ≠ Firmware.schemaVersion then some "unsupported schema_version"
  else if c.revision = 0 then some "revision must be greater than zero"
  else if !terminated c.deviceId || !validDeviceId c.deviceId.toCString then
    some "device_id is invalid or reserved"
  else if !terminated c.wifiSsid || c.wifiSsid[0] == 0 then some "wifi_ssid is required"
  else if c.wifiPassword.toCString.length < 8 ∨ c.wifiPassword.toCString.length > 63 then
    some "wifi_password must be 8-63 characters"
  else if !terminated c.mqttBrokerUri || !validMqttsUri c.mqttBrokerUri.toCString then
    some "mqtt_broker_uri must be mqtts://host:port without credentials or path"
  else if !terminated c.mqttUsername || c.mqttUsername.toCString != c.deviceId.toCString then
    some "mqtt_username must equal device_id for broker ACL isolation"
  else if !terminated c.mqttPassword || c.mqttPassword[0] == 0 then
    some "mqtt_password is required"
  else if !terminated c.mqttClientId || c.mqttClientId[0] == 0
      || c.mqttClientId.toCString == c.mqttUsername.toCString
      || (strchr c.mqttClientId.toCString 0x2F).isSome
      || (strchr c.mqttClientId.toCString 0x2B).isSome
      || (strchr c.mqttClientId.toCString 0x23).isSome then
    some "mqtt_client_id is invalid or not distinct"
  else if !terminated c.mqttCaCertificate
      || !strstr (ascii "-----BEGIN CERTIFICATE-----") c.mqttCaCertificate.toCString then
    some "mqtt_ca_certificate must contain a PEM certificate"
  else if !platform.certificateParses c.mqttCaCertificate.toCString then
    some "mqtt_ca_certificate is not valid PEM"
  else if c.telemetryIntervalSeconds < 1 ∨ c.telemetryIntervalSeconds > 3600 then
    some "telemetry_interval_seconds must be 1-3600"
  else if c.machineStatusProvider ≠ MachineProvider.disabled
      ∧ c.machineStatusProvider ≠ MachineProvider.gpio then
    some "machine_status_provider is unsupported"
  else if c.machineStatusProvider = MachineProvider.gpio ∧ !gpioAllowed c.machineStatusGpio then
    some "machine_status_gpio is reserved or unsupported"
  else if c.machineStatusProvider = MachineProvider.gpio ∧ c.machineStatusGpio ≥ 34
      ∧ c.machineStatusPull ≠ Pull.none then
    some "GPIO 34-39 do not support internal pulls"
  else if c.machineStatusPull < Pull.none ∨ c.machineStatusPull > Pull.down then
    some "machine_status_pull is invalid"
  else if c.maintenanceWindowSeconds < 60 ∨ c.maintenanceWindowSeconds > 1800 then
    some "maintenance_window_seconds must be 60-1800"
  else if c.maintenanceMaxSessionSeconds < c.maintenanceWindowSeconds
      ∨ c.maintenanceMaxSessionSeconds > 3600 then
    some "maintenance_max_session_seconds must cover the window and be <=3600"
  else none

/-- The result code of `device_config_validate`. -/
def validate (platform : Platform) (c : DeviceConfig) : EspErr :=
  if (validationMessage platform c).isSome then .invalidArg else .ok

private theorem refuse_eq_none {p : Prop} [Decidable p] {message : String}
    {rest : Option String} :
    (if p then some message else rest) = none ↔ ¬ p ∧ rest = none := by
  by_cases h : p <;> simp [h]

/-- The checks an accepted configuration has passed that later readers rely on. -/
structure Valid (c : DeviceConfig) : Prop where
  deviceIdTerminated : terminated c.deviceId = true
  deviceId : validDeviceId c.deviceId.toCString = true
  provider : c.machineStatusProvider = MachineProvider.disabled ∨
    c.machineStatusProvider = MachineProvider.gpio
  pull : c.machineStatusPull ≤ Pull.down

/-- An accepted configuration has passed every check. -/
theorem valid_of_validate {platform : Platform} {c : DeviceConfig}
    (h : validate platform c = .ok) : Valid c := by
  have hn : validationMessage platform c = none := by
    unfold validate at h
    split at h
    · cases h
    · next hs => simpa using hs
  unfold validationMessage at hn
  simp only [refuse_eq_none] at hn
  obtain ⟨-, -, hd, -, -, -, -, -, -, -, -, -, hp, -, -, hu, -⟩ := hn
  rw [Bool.or_eq_true, not_or] at hd
  rw [not_or, UInt32.not_lt, UInt32.not_lt] at hu
  exact ⟨by simpa using hd.1, by simpa using hd.2,
    (Decidable.or_iff_not_not_and_not.mpr hp), hu.2⟩

/-- A character array holding a text shorter than it, padded with NUL bytes. -/
def textArray (n : Nat) (text : String) (h : (ascii text).length ≤ n) : CharArray n :=
  ⟨(ascii text ++ List.replicate (n - (ascii text).length) 0).toArray, by simp; omega⟩

/-- A device configuration as an operator would enter it, with the given revision. -/
def sample (revision : UInt32) : DeviceConfig where
  schemaVersion := Firmware.schemaVersion
  revision := revision
  deviceId := textArray 64 "press-07" (by decide)
  wifiSsid := textArray 33 "plant" (by decide)
  wifiPassword := textArray 64 "wifi-password" (by decide)
  mqttBrokerUri := textArray 256 "mqtts://broker.local:8883" (by decide)
  mqttCaCertificate := textArray 4096 "-----BEGIN CERTIFICATE-----" (by decide)
  mqttUsername := textArray 64 "press-07" (by decide)
  mqttPassword := textArray 128 "secret" (by decide)
  mqttClientId := textArray 128 "press-07-client" (by decide)
  telemetryIntervalSeconds := 5
  machineStatusProvider := MachineProvider.disabled
  machineStatusGpio := 27
  machineStatusActiveHigh := true
  machineStatusPull := Pull.none
  maintenanceOnBoot := false
  maintenanceWindowSeconds := 600
  maintenanceMaxSessionSeconds := 1800

/-- A platform whose certificate parser accepts PEM headers, with the default limit. -/
def samplePlatform : Platform where
  certificateParses := strstr (ascii "-----BEGIN CERTIFICATE-----")
  candidateMaxAttempts := 2
  one_le_maxAttempts := by decide
  maxAttempts_le_three := by decide

example : validate samplePlatform (sample 1) = .ok := by decide +kernel

example : validationMessage samplePlatform { sample 1 with telemetryIntervalSeconds := 0 } =
    some "telemetry_interval_seconds must be 1-3600" := by decide +kernel

end DeviceConfig
end EdgeMonitor.Firmware
