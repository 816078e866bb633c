import EdgeMonitor.Base.Layout
import EdgeMonitor.Firmware.DeviceConfig

/-!
# Configuration storage format

Library `Firmware`. The encoders and decoders of
`firmware/components/device_config/device_config_storage.c`: a twelve-byte header and
a payload of explicit fixed-width fields, written and read through bounded cursors.
Writer and reader follow their own field orders; both are related to one byte layout,
from which the storage format is a bijection on the strings the decoders accept.
-/

namespace EdgeMonitor.Firmware.ConfigStorage
open EdgeMonitor.Base

/-! ### Cursors -/

/-- `writer_t`, `device_config_storage.c:24–28`; the buffer's length is its `size`. -/
structure Writer where
  data : List UInt8
  offset : Nat

/-- `reader_t`, `device_config_storage.c:30–34`; the buffer's length is its `size`. -/
structure Reader where
  data : List UInt8
  offset : Nat

/-- `write_bytes`, `device_config_storage.c:36–43`. -/
def writeBytes (writer : Writer) (value : List UInt8) : Option Writer :=
  if writer.offset > writer.data.length ∨ value.length > writer.data.length - writer.offset then
    none
  else some
    { data := writer.data.take writer.offset ++ value ++
        writer.data.drop (writer.offset + value.length)
      offset := writer.offset + value.length }

/-- `write_u8`, `device_config_storage.c:45–48`. -/
def writeU8 (writer : Writer) (value : UInt8) : Option Writer := writeBytes writer [value]

/-- `write_u16`, `device_config_storage.c:50–54`. -/
def writeU16 (writer : Writer) (value : UInt16) : Option Writer :=
  writeBytes writer [value.toUInt8, (value >>> 8).toUInt8]

/-- `write_u32`, `device_config_storage.c:56–65`. -/
def writeU32 (writer : Writer) (value : UInt32) : Option Writer :=
  writeBytes writer
    [value.toUInt8, (value >>> 8).toUInt8, (value >>> 16).toUInt8, (value >>> 24).toUInt8]

/-- `write_bytes` of a whole character array. -/
def writeArray {n : Nat} (writer : Writer) (value : CharArray n) : Option Writer :=
  writeBytes writer value.toList

/-- `read_bytes`, `device_config_storage.c:67–74`. -/
def readBytes (reader : Reader) (size : Nat) : Option (List UInt8 × Reader) :=
  if reader.offset > reader.data.length ∨ size > reader.data.length - reader.offset then none
  else some ((reader.data.drop reader.offset).take size,
    { reader with offset := reader.offset + size })

/-- `decode_u16`, `device_config_storage.c:92–95`. -/
def decodeU16 : List UInt8 → UInt16
  | [b₀, b₁] => b₀.toUInt16 ||| (b₁.toUInt16 <<< 8)
  | _ => 0

/-- `decode_u32`, `device_config_storage.c:97–103`. -/
def decodeU32 : List UInt8 → UInt32
  | [b₀, b₁, b₂, b₃] =>
    b₀.toUInt32 ||| (b₁.toUInt32 <<< 8) ||| (b₂.toUInt32 <<< 16) ||| (b₃.toUInt32 <<< 24)
  | _ => 0

/-- `read_u8`, `device_config_storage.c:76–79`. -/
def readU8 (reader : Reader) : Option (UInt8 × Reader) := do
  let (encoded, reader) ← readBytes reader 1
  some (encoded.headD 0, reader)

/-- `read_u32`, `device_config_storage.c:81–90`. -/
def readU32 (reader : Reader) : Option (UInt32 × Reader) := do
  let (encoded, reader) ← readBytes reader 4
  some (decodeU32 encoded, reader)

/-- `read_bytes` into a whole character array. -/
def readArray (n : Nat) (reader : Reader) : Option (CharArray n × Reader) := do
  let (encoded, reader) ← readBytes reader n
  some ((Layout.array n).decode encoded, reader)

/-! ### Header -/

/-- `DEVICE_CONFIG_STORAGE_FORMAT_VERSION`, `device_config_storage.h:9`. -/
def formatVersion : UInt16 := 1

/-- `DEVICE_CONFIG_STORAGE_HEADER_SIZE`, `device_config_storage.h:10`. -/
def headerSize : Nat := 12

/-- `CONFIGURATION_PAYLOAD_SIZE`, `device_config_storage.c:6–17`. -/
def configurationPayloadSize : Nat :=
  4 + 4 + (63 + 1) + (32 + 1) + (63 + 1) + (255 + 1) + (4095 + 1) + (63 + 1) + (127 + 1) +
    (127 + 1) + 4 + 1 + 4 + 1 + 1 + 1 + 4 + 4

/-- `METADATA_PAYLOAD_SIZE`, `device_config_storage.c:19`. -/
def metadataPayloadSize : Nat := 1 + 4 + 4 + 4 + (95 + 1)

/-- `CONFIGURATION_MAGIC`, the characters `IEMC`, `device_config_storage.c:21`. -/
def configurationMagic : List UInt8 := [0x49, 0x45, 0x4D, 0x43]

/-- `METADATA_MAGIC`, the characters `IEMM`, `device_config_storage.c:22`. -/
def metadataMagic : List UInt8 := [0x49, 0x45, 0x4D, 0x4D]

/-- `device_config_storage_header_t`, `device_config_storage.h:12–16`. -/
structure Header where
  formatVersion : UInt16
  headerSize : UInt16
  payloadSize : UInt32

/-- `write_header`, `device_config_storage.c:105–111`. -/
def writeHeader (writer : Writer) (magic : List UInt8) (payloadSize : UInt32) :
    Option Writer := do
  let writer ← writeBytes writer magic
  let writer ← writeU16 writer formatVersion
  let writer ← writeU16 writer (UInt16.ofNat headerSize)
  writeU32 writer payloadSize

/-- `device_config_storage_configuration_size`, `device_config_storage.c:113–116`. -/
def configurationSize : Nat := headerSize + configurationPayloadSize

/-- `device_config_storage_metadata_size`, `device_config_storage.c:118–121`. -/
def metadataSize : Nat := headerSize + metadataPayloadSize

/-- `device_config_storage_peek_header`, `device_config_storage.c:123–141`. -/
def peekHeader (encoded expectedMagic : List UInt8) : Except EspErr Header :=
  if encoded.length < headerSize then .error .invalidSize
  else if encoded.take 4 ≠ expectedMagic then .error .invalidArg
  else
    let header : Header :=
      { formatVersion := decodeU16 ((encoded.drop 4).take 2)
        headerSize := decodeU16 ((encoded.drop 6).take 2)
        payloadSize := decodeU32 ((encoded.drop 8).take 4) }
    if header.formatVersion ≠ formatVersion then .error .notSupported
    else if header.headerSize.toNat ≠ headerSize
        ∨ header.payloadSize.toNat ≠ encoded.length - header.headerSize.toNat then
      .error .invalidSize
    else .ok header

/-! ### Configuration and metadata -/

/-- `device_config_storage_encode_configuration`, `device_config_storage.c:143–172`:
the result code and the buffer afterwards. Every field fits once the size check has
passed, so the partly written buffer of a failing chain does not occur. -/
def encodeConfiguration (configuration : DeviceConfig) (encoded : List UInt8) :
    EspErr × List UInt8 :=
  if encoded.length ≠ configurationSize then (.invalidSize, encoded)
  else
    let ok := do
      let writer ← writeHeader ⟨encoded, 0⟩ configurationMagic
        (UInt32.ofNat configurationPayloadSize)
      let writer ← writeU32 writer configuration.schemaVersion
      let writer ← writeU32 writer configuration.revision
      let writer ← writeArray writer configuration.deviceId
      let writer ← writeArray writer configuration.wifiSsid
      let writer ← writeArray writer configuration.wifiPassword
      let writer ← writeArray writer configuration.mqttBrokerUri
      let writer ← writeArray writer configuration.mqttCaCertificate
      let writer ← writeArray writer configuration.mqttUsername
      let writer ← writeArray writer configuration.mqttPassword
      let writer ← writeArray writer configuration.mqttClientId
      let writer ← writeU32 writer configuration.telemetryIntervalSeconds
      let writer ← writeU8 writer configuration.machineStatusProvider.toUInt8
      let writer ← writeU32 writer configuration.machineStatusGpio.toUInt32
      let writer ← writeU8 writer (if configuration.machineStatusActiveHigh then 1 else 0)
      let writer ← writeU8 writer configuration.machineStatusPull.toUInt8
      let writer ← writeU8 writer (if configuration.maintenanceOnBoot then 1 else 0)
      let writer ← writeU32 writer configuration.maintenanceWindowSeconds
      writeU32 writer configuration.maintenanceMaxSessionSeconds
    match ok with
    | some writer =>
      (if writer.offset = encoded.length then .ok else .invalidSize, writer.data)
    | none => (.invalidSize, encoded)

/-- `device_config_storage_decode_configuration`, `device_config_storage.c:174–224`:
the result code and the output configuration, which is cleared once the header is
accepted and again when the payload is refused. -/
def decodeConfiguration (encoded : List UInt8) (configuration : DeviceConfig) :
    EspErr × DeviceConfig :=
  match peekHeader encoded configurationMagic with
  | .error result => (result, configuration)
  | .ok header =>
    if header.payloadSize.toNat ≠ configurationPayloadSize then (.invalidSize, configuration)
    else
      let fields := do
        let (schemaVersion, reader) ← readU32 ⟨encoded, headerSize⟩
        let (revision, reader) ← readU32 reader
        let (deviceId, reader) ← readArray 64 reader
        let (wifiSsid, reader) ← readArray 33 reader
        let (wifiPassword, reader) ← readArray 64 reader
        let (mqttBrokerUri, reader) ← readArray 256 reader
        let (mqttCaCertificate, reader) ← readArray 4096 reader
        let (mqttUsername, reader) ← readArray 64 reader
        let (mqttPassword, reader) ← readArray 128 reader
        let (mqttClientId, reader) ← readArray 128 reader
        let (telemetryIntervalSeconds, reader) ← readU32 reader
        let (provider, reader) ← readU8 reader
        let (gpio, reader) ← readU32 reader
        let (activeHigh, reader) ← readU8 reader
        let (pull, reader) ← readU8 reader
        let (maintenance, reader) ← readU8 reader
        let (maintenanceWindowSeconds, reader) ← readU32 reader
        let (maintenanceMaxSessionSeconds, reader) ← readU32 reader
        if reader.offset ≠ encoded.length ∨ activeHigh > 1 ∨ maintenance > 1 then
          none
        else
          some
            { schemaVersion, revision, deviceId, wifiSsid, wifiPassword, mqttBrokerUri,
              mqttCaCertificate, mqttUsername, mqttPassword, mqttClientId,
              telemetryIntervalSeconds
              machineStatusProvider := provider.toUInt32
              machineStatusGpio := gpio.toInt32
              machineStatusActiveHigh := activeHigh == 1
              machineStatusPull := pull.toUInt32
              maintenanceOnBoot := maintenance == 1
              maintenanceWindowSeconds, maintenanceMaxSessionSeconds }
      match fields with
      | some decoded => (.ok, decoded)
      | none => (.invalidSize, .zero)

/-- `device_config_storage_encode_metadata`, `device_config_storage.c:226–241`. -/
def encodeMetadata (metadata : DeviceConfigMetadata) (encoded : List UInt8) :
    EspErr × List UInt8 :=
  if encoded.length ≠ metadataSize then (.invalidSize, encoded)
  else
    let ok := do
      let writer ← writeHeader ⟨encoded, 0⟩ metadataMagic (UInt32.ofNat metadataPayloadSize)
      let writer ← writeU8 writer metadata.state.toUInt8
      let writer ← writeU32 writer metadata.candidateRevision
      let writer ← writeU32 writer metadata.bootAttempts
      let writer ← writeU32 writer metadata.bootCount
      writeArray writer metadata.lastRollbackReason
    match ok with
    | some writer =>
      (if writer.offset = encoded.length then .ok else .invalidSize, writer.data)
    | none => (.invalidSize, encoded)

/-- `device_config_storage_decode_metadata`, `device_config_storage.c:243–274`. -/
def decodeMetadata (encoded : List UInt8) (metadata : DeviceConfigMetadata) :
    EspErr × DeviceConfigMetadata :=
  match peekHeader encoded metadataMagic with
  | .error result => (result, metadata)
  | .ok header =>
    if header.payloadSize.toNat ≠ metadataPayloadSize then (.invalidSize, metadata)
    else
      let fields := do
        let (state, reader) ← readU8 ⟨encoded, headerSize⟩
        let (candidateRevision, reader) ← readU32 reader
        let (bootAttempts, reader) ← readU32 reader
        let (bootCount, reader) ← readU32 reader
        let (lastRollbackReason, reader) ← readArray 96 reader
        if reader.offset ≠ encoded.length ∨ state.toUInt32 > ConfigState.rollback
            ∨ lastRollbackReason.last ≠ 0 then
          none
        else
          some
            { state := state.toUInt32, candidateRevision, bootAttempts, bootCount,
              lastRollbackReason }
      match fields with
      | some decoded => (.ok, decoded)
      | none => (.invalidSize, .zero)

end EdgeMonitor.Firmware.ConfigStorage
