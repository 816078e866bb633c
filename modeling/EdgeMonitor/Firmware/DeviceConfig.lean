/-!
# Device configuration records

Library `Firmware`. The data model of
`firmware/components/device_config/include/device_config.h`: result codes, the
configuration and its metadata. Fixed-size character arrays keep every byte,
also those after the first NUL. Enumeration fields hold any value of their C
representation, since storage and casts can produce values outside the enumeration.
-/

namespace EdgeMonitor.Firmware

/-- The `esp_err_t` codes that the modelled functions return or compare with. -/
inductive EspErr where
  | ok
  | fail
  | noMem
  | invalidArg
  | invalidState
  | invalidSize
  | notSupported
  | nvsNotFound
  | nvsTypeMismatch
  deriving DecidableEq, Repr

/-- A `char[n]` array. -/
abbrev CharArray (n : Nat) := Vector UInt8 n

/-- The last byte of a non-empty array. -/
def CharArray.last {n : Nat} (a : CharArray (n + 1)) : UInt8 := a[n]

/-- The C string held by an array: its bytes before the first NUL. -/
def CharArray.toCString {n : Nat} (a : CharArray n) : List UInt8 :=
  a.toList.takeWhile (· ≠ 0)

/-- `DEVICE_CONFIG_SCHEMA_VERSION`, `device_config.h:9`. -/
def schemaVersion : UInt32 := 1

/-- `device_config_machine_provider_t`, `device_config.h:21–24`. -/
abbrev MachineProvider := UInt32

def MachineProvider.disabled : MachineProvider := 0
def MachineProvider.gpio : MachineProvider := 1

/-- `device_config_pull_t`, `device_config.h:26–30`. -/
abbrev Pull := UInt32

def Pull.none : Pull := 0
def Pull.up : Pull := 1
def Pull.down : Pull := 2

/-- `device_config_state_t`, `device_config.h:32–37`. -/
abbrev ConfigState := UInt32

def ConfigState.none : ConfigState := 0
def ConfigState.active : ConfigState := 1
def ConfigState.pending : ConfigState := 2
def ConfigState.rollback : ConfigState := 3

/-- `device_config_t`, `device_config.h:39–58`. -/
structure DeviceConfig where
  schemaVersion : UInt32
  revision : UInt32
  deviceId : CharArray 64
  wifiSsid : CharArray 33
  wifiPassword : CharArray 64
  mqttBrokerUri : CharArray 256
  mqttCaCertificate : CharArray 4096
  mqttUsername : CharArray 64
  mqttPassword : CharArray 128
  mqttClientId : CharArray 128
  telemetryIntervalSeconds : UInt32
  machineStatusProvider : MachineProvider
  machineStatusGpio : Int32
  machineStatusActiveHigh : Bool
  machineStatusPull : Pull
  maintenanceOnBoot : Bool
  maintenanceWindowSeconds : UInt32
  maintenanceMaxSessionSeconds : UInt32
  deriving DecidableEq

/-- A configuration after `memset(configuration, 0, sizeof(*configuration))`. -/
def DeviceConfig.zero : DeviceConfig where
  schemaVersion := 0
  revision := 0
  deviceId := .replicate _ 0
  wifiSsid := .replicate _ 0
  wifiPassword := .replicate _ 0
  mqttBrokerUri := .replicate _ 0
  mqttCaCertificate := .replicate _ 0
  mqttUsername := .replicate _ 0
  mqttPassword := .replicate _ 0
  mqttClientId := .replicate _ 0
  telemetryIntervalSeconds := 0
  machineStatusProvider := 0
  machineStatusGpio := 0
  machineStatusActiveHigh := false
  machineStatusPull := 0
  maintenanceOnBoot := false
  maintenanceWindowSeconds := 0
  maintenanceMaxSessionSeconds := 0

/-- `device_config_metadata_t`, `device_config.h:81–87`. -/
structure DeviceConfigMetadata where
  state : ConfigState
  candidateRevision : UInt32
  bootAttempts : UInt32
  bootCount : UInt32
  lastRollbackReason : CharArray 96
  deriving DecidableEq

/-- Metadata after `memset(metadata, 0, sizeof(*metadata))`. -/
def DeviceConfigMetadata.zero : DeviceConfigMetadata where
  state := 0
  candidateRevision := 0
  bootAttempts := 0
  bootCount := 0
  lastRollbackReason := .replicate _ 0

end EdgeMonitor.Firmware
