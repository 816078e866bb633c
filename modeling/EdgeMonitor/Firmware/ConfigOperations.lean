import EdgeMonitor.Base.Durable
import EdgeMonitor.Firmware.ConfigStorage
import EdgeMonitor.Firmware.ConfigValidate

/-!
# Configuration operations

Library `Firmware`. The operations of
`firmware/components/device_config/device_config.c` as programs over the NVS
namespace `iem_config` and the two validation variables in RAM. Each operation holds the
configuration mutex, so operations are atomic with respect to each other; a commit may
fail, or power may be lost at it. Reads of NVS and heap allocations succeed.
-/

namespace EdgeMonitor.Firmware
open EdgeMonitor.Base

/-! ### NVS and RAM -/

/-- The keys that hold encoded blobs, `device_config.c:21–23`. -/
inductive Key where
  | active
  | candidate
  | metadata
  deriving DecidableEq, Repr

/-- The blobs stored in the namespace. -/
structure Flash where
  active : Option (List UInt8)
  candidate : Option (List UInt8)
  metadata : Option (List UInt8)
  deriving DecidableEq

/-- The namespace after an erase. -/
def Flash.erased : Flash := ⟨none, none, none⟩

/-- `nvs_get_blob`: the blob under a key. -/
def Flash.get (flash : Flash) : Key → Option (List UInt8)
  | .active => flash.active
  | .candidate => flash.candidate
  | .metadata => flash.metadata

/-- `nvs_set_blob` or `nvs_erase_key`. -/
def Flash.set (flash : Flash) (blob : Option (List UInt8)) : Key → Flash
  | .active => { flash with active := blob }
  | .candidate => { flash with candidate := blob }
  | .metadata => { flash with metadata := blob }

/-- The writes that the operations commit. -/
inductive NvsWrite where
  | setBlob (key : Key) (blob : List UInt8)
  | eraseKey (key : Key)
  | eraseAll
  deriving DecidableEq

/-- The effect of a committed write. -/
def NvsWrite.apply : NvsWrite → Flash → Flash
  | setBlob key blob, flash => flash.set (some blob) key
  | eraseKey key, flash => flash.set none key
  | eraseAll, _ => .erased

/-- `candidate_validation_in_progress` and `candidate_validation_revision`,
`device_config.c:27–28`. -/
structure Ram where
  candidateValidationInProgress : Bool
  candidateValidationRevision : UInt32
  deriving DecidableEq

/-- The variables after a reset, and where an operation clears them. -/
def Ram.clear : Ram := ⟨false, 0⟩

/-- An error code reported by a commit. -/
abbrev Failure := { e : EspErr // e ≠ .ok }

/-- A program over NVS and RAM. -/
abbrev Op := Program NvsWrite Flash Ram Failure

/-- The result code of a commit. -/
def commitResult : Option Failure → EspErr
  | none => .ok
  | some e => e.val

namespace Op

/-- The current contents of NVS. -/
def flash : Op Flash := return (← Program.get).1

/-- The current validation variables. -/
def ram : Op Ram := return (← Program.get).2

end Op

/-! ### Blobs -/

/-- `read_encoded_blob`, `device_config.c:255–285`. -/
def readEncodedBlob (key : Key) (maximumSize : Nat) (flash : Flash) :
    Except EspErr (List UInt8) :=
  match flash.get key with
  | none => .error .nvsNotFound
  | some encoded =>
    if encoded.length < ConfigStorage.headerSize ∨ encoded.length > maximumSize then
      .error .invalidSize
    else .ok encoded

/-- `write_encoded_blob`, `device_config.c:287–300`. -/
def writeEncodedBlob (key : Key) (encoded : List UInt8) : Op EspErr := do
  return commitResult (← Program.write (.setBlob key encoded))

/-- `read_configuration`, `device_config.c:302–315`: the result code and the output. -/
def readConfiguration (platform : Platform) (key : Key) (configuration : DeviceConfig)
    (flash : Flash) : EspErr × DeviceConfig :=
  match readEncodedBlob key 8192 flash with
  | .error result => (result, configuration)
  | .ok encoded =>
    let (result, configuration) := ConfigStorage.decodeConfiguration encoded configuration
    (if result = .ok then configuration.validate platform else result, configuration)

/-- `write_configuration`, `device_config.c:317–327`. -/
def writeConfiguration (key : Key) (configuration : DeviceConfig) : Op EspErr := do
  let (result, encoded) := ConfigStorage.encodeConfiguration configuration
    (.replicate ConfigStorage.configurationSize 0)
  if result ≠ .ok then return result
  writeEncodedBlob key encoded

/-- `read_metadata`, `device_config.c:329–340`. -/
def readMetadata (metadata : DeviceConfigMetadata) (flash : Flash) :
    EspErr × DeviceConfigMetadata :=
  match readEncodedBlob .metadata 1024 flash with
  | .error result => (result, metadata)
  | .ok encoded => ConfigStorage.decodeMetadata encoded metadata

/-- `write_metadata`, `device_config.c:342–352`. -/
def writeMetadata (metadata : DeviceConfigMetadata) : Op EspErr := do
  let (result, encoded) := ConfigStorage.encodeMetadata metadata
    (.replicate ConfigStorage.metadataSize 0)
  if result ≠ .ok then return result
  writeEncodedBlob .metadata encoded

/-- `erase_key`, `device_config.c:354–370`; erasing an absent key also commits. -/
def eraseKey (key : Key) : Op EspErr := do
  return commitResult (← Program.write (.eraseKey key))

/-- `get_metadata_locked`, `device_config.c:403–411`. -/
def getMetadataLocked (metadata : DeviceConfigMetadata) (flash : Flash) :
    EspErr × DeviceConfigMetadata :=
  let (result, metadata) := readMetadata metadata flash
  if result = .nvsNotFound then (.ok, .zero) else (result, metadata)

/-- `snprintf(array, sizeof(array), "%s", text)`: the bytes behind the NUL stay. -/
def CharArray.snprintf {n : Nat} (array : CharArray n) (text : List UInt8) : CharArray n :=
  (Layout.array n).decode
    (text.take (n - 1) ++ [0] ++ array.toList.drop (min text.length (n - 1) + 1))

/-- A copied string, its NUL, and what the array held behind them. -/
theorem CharArray.toList_snprintf {n : Nat} {text : List UInt8} (array : CharArray n)
    (h : text.length < n) :
    (array.snprintf text).toList = text ++ [0] ++ array.toList.drop (text.length + 1) := by
  have hmin : min text.length (n - 1) = text.length := by omega
  have htake : text.take (n - 1) = text := List.take_of_length_le (by omega)
  rw [snprintf, hmin, htake]
  refine (Layout.array n).encode_decode _ ?_
  simp only [List.length_append, List.length_singleton, List.length_drop, Vector.length_toList,
    Layout.size_array]
  omega

/-! ### Operations -/

/-- `device_config_stage_candidate`, `device_config.c:421–447`. -/
def stageCandidate (platform : Platform) (configuration : DeviceConfig) : Op EspErr := do
  if configuration.validate platform ≠ .ok then return configuration.validate platform
  if (← Op.ram).candidateValidationInProgress then return .invalidState
  let result ← writeConfiguration .candidate configuration
  if result ≠ .ok then return result
  let (result, metadata) := getMetadataLocked .zero (← Op.flash)
  if result ≠ .ok then return result
  writeMetadata
    { metadata with
      state := ConfigState.pending
      candidateRevision := configuration.revision
      bootAttempts := 0 }

/-- `rollback_candidate_locked`, `device_config.c:449–465`. -/
def rollbackCandidateLocked (reason : Option (List UInt8)) : Op EspErr := do
  let (result, metadata) := getMetadataLocked .zero (← Op.flash)
  if result ≠ .ok then return result
  let result ← writeMetadata
    { metadata with
      state := ConfigState.rollback
      candidateRevision := 0
      bootAttempts := 0
      lastRollbackReason := metadata.lastRollbackReason.snprintf
        (reason.getD (DeviceConfig.ascii "unspecified")) }
  if result ≠ .ok then return result
  let result ← eraseKey .candidate
  if result ≠ .ok then return result
  Program.modify fun _ ↦ .clear
  return result

/-- The result and the output parameters of `device_config_load_for_boot`. -/
structure LoadForBoot where
  result : EspErr
  configuration : DeviceConfig
  usingCandidate : Bool
  metadata : DeviceConfigMetadata

/-- The reason for a rollback at the attempt limit, `device_config.c:486`. -/
def attemptLimitReason : List UInt8 :=
  DeviceConfig.ascii "candidate boot attempt limit reached"

/-- The reason for a rollback of an unusable candidate, `device_config.c:505`. -/
def unusableReason : List UInt8 :=
  DeviceConfig.ascii "candidate missing, corrupt, invalid or revision-mismatched"

/-- The end of `device_config_load_for_boot` without a candidate,
`device_config.c:510–511`. -/
def loadActiveForBoot (platform : Platform) (configuration : DeviceConfig)
    (metadata : DeviceConfigMetadata) : Op LoadForBoot := do
  let (result, configuration) := readConfiguration platform .active configuration (← Op.flash)
  return { result, configuration, usingCandidate := false, metadata }

/-- A rollback inside `device_config_load_for_boot` and what follows it,
`device_config.c:486–489, 505–508`. -/
def rollbackForBoot (platform : Platform) (reason : List UInt8) (configuration : DeviceConfig)
    (usingCandidate : Bool) (metadata : DeviceConfigMetadata) : Op LoadForBoot := do
  let result ← rollbackCandidateLocked (some reason)
  if result ≠ .ok then return { result, configuration, usingCandidate, metadata }
  let (result, metadata) := getMetadataLocked metadata (← Op.flash)
  if result ≠ .ok then return { result, configuration, usingCandidate, metadata }
  loadActiveForBoot platform configuration metadata

/-- `device_config_load_for_boot`, `device_config.c:467–515`. -/
def loadForBoot (platform : Platform) (configuration : DeviceConfig) (usingCandidate : Bool)
    (metadata : DeviceConfigMetadata) : Op LoadForBoot := do
  Program.modify fun _ ↦ .clear
  let (result, metadata) := getMetadataLocked metadata (← Op.flash)
  if result ≠ .ok then return { result, configuration, usingCandidate, metadata }
  let metadata := { metadata with bootCount := metadata.bootCount + 1 }
  let result ← writeMetadata metadata
  if result ≠ .ok then return { result, configuration, usingCandidate, metadata }
  if metadata.state = ConfigState.pending then
    if metadata.bootAttempts ≥ platform.candidateMaxAttempts then
      rollbackForBoot platform attemptLimitReason configuration usingCandidate metadata
    else
      let (candidateResult, configuration) :=
        readConfiguration platform .candidate configuration (← Op.flash)
      if candidateResult = .ok ∧ configuration.validate platform = .ok
          ∧ configuration.revision = metadata.candidateRevision then
        let metadata := { metadata with bootAttempts := metadata.bootAttempts + 1 }
        let result ← writeMetadata metadata
        if result ≠ .ok then return { result, configuration, usingCandidate, metadata }
        Program.modify fun _ ↦ ⟨true, configuration.revision⟩
        return { result, configuration, usingCandidate := true, metadata }
      else rollbackForBoot platform unusableReason configuration usingCandidate metadata
  else loadActiveForBoot platform configuration metadata

/-- `configurations_match`, `device_config.c:517–537`. -/
def configurationsMatch (left right : DeviceConfig) : Bool :=
  left.schemaVersion == right.schemaVersion
    && left.revision == right.revision
    && left.deviceId.toCString == right.deviceId.toCString
    && left.wifiSsid.toCString == right.wifiSsid.toCString
    && left.wifiPassword.toCString == right.wifiPassword.toCString
    && left.mqttBrokerUri.toCString == right.mqttBrokerUri.toCString
    && left.mqttUsername.toCString == right.mqttUsername.toCString
    && left.mqttPassword.toCString == right.mqttPassword.toCString
    && left.mqttClientId.toCString == right.mqttClientId.toCString
    && left.mqttCaCertificate.toCString == right.mqttCaCertificate.toCString
    && left.telemetryIntervalSeconds == right.telemetryIntervalSeconds
    && left.machineStatusProvider == right.machineStatusProvider
    && left.machineStatusGpio == right.machineStatusGpio
    && left.machineStatusActiveHigh == right.machineStatusActiveHigh
    && left.machineStatusPull == right.machineStatusPull
    && left.maintenanceOnBoot == right.maintenanceOnBoot
    && left.maintenanceWindowSeconds == right.maintenanceWindowSeconds
    && left.maintenanceMaxSessionSeconds == right.maintenanceMaxSessionSeconds

/-- `device_config_activate_candidate`, `device_config.c:539–578`. -/
def activateCandidate (platform : Platform) (verifiedCandidate : DeviceConfig) : Op EspErr := do
  let ram ← Op.ram
  if !ram.candidateValidationInProgress
      ∨ ram.candidateValidationRevision ≠ verifiedCandidate.revision then
    return .invalidState
  let (result, candidate) := readConfiguration platform .candidate .zero (← Op.flash)
  if result ≠ .ok then return result
  if candidate.validate platform ≠ .ok then return candidate.validate platform
  let (result, metadata) := getMetadataLocked .zero (← Op.flash)
  if result ≠ .ok then return result
  if metadata.state ≠ ConfigState.pending
      ∨ metadata.candidateRevision ≠ verifiedCandidate.revision
      ∨ !configurationsMatch candidate verifiedCandidate then
    return .invalidState
  let result ← writeConfiguration .active candidate
  if result ≠ .ok then return result
  let result ← writeMetadata
    { metadata with state := ConfigState.active, candidateRevision := 0, bootAttempts := 0 }
  if result ≠ .ok then return result
  let result ← eraseKey .candidate
  if result ≠ .ok then return result
  Program.modify fun _ ↦ .clear
  return result

/-- `device_config_rollback_candidate`, `device_config.c:580–586`. -/
def rollbackCandidate (reason : Option (List UInt8)) : Op EspErr :=
  rollbackCandidateLocked reason

/-- `device_config_cancel_candidate`, `device_config.c:588–608`. -/
def cancelCandidate : Op EspErr := do
  if (← Op.ram).candidateValidationInProgress then return .invalidState
  let (result, metadata) := getMetadataLocked .zero (← Op.flash)
  if result ≠ .ok then return result
  let result ← writeMetadata
    { metadata with state := ConfigState.active, candidateRevision := 0, bootAttempts := 0 }
  if result ≠ .ok then return result
  eraseKey .candidate

/-- `device_config_factory_reset`, `device_config.c:618–638`. -/
def factoryReset : Op EspErr := do
  let result := commitResult (← Program.write .eraseAll)
  if result ≠ .ok then return result
  Program.modify fun _ ↦ .clear
  return result

/-- `device_config_storage_recover`, `device_config.c:384–396`: the erase of the whole
partition, after which it is initialised again. -/
def storageRecover : Op EspErr := do
  let result := commitResult (← Program.write .eraseAll)
  if result ≠ .ok then return result
  Program.modify fun _ ↦ .clear
  return result

end EdgeMonitor.Firmware
