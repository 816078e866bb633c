import EdgeMonitor.Firmware.ConfigStorage

/-!
# The storage format is a bijection on what it accepts

Library `Firmware`. The configuration and metadata payloads are each one `Layout`;
the chained writes of the encoder and the chained reads of the decoder in
`firmware/components/device_config/device_config_storage.c` are that layout's two
directions, behind a header that pins magic, format version and both lengths.
-/

namespace EdgeMonitor.Firmware.ConfigStorage
open EdgeMonitor.Base

/-! ### Cursor laws -/

/-- Consecutive writes are one write of the concatenation, also when they do not fit. -/
theorem writeBytes_append (writer : Writer) (x y : List UInt8) :
    (writeBytes writer x).bind (fun writer ↦ writeBytes writer y) =
      writeBytes writer (x ++ y) := by
  unfold writeBytes
  by_cases hx : writer.offset > writer.data.length ∨
      x.length > writer.data.length - writer.offset
  · rw [if_pos hx, if_pos (by rw [List.length_append]; omega)]
    rfl
  · rw [if_neg hx, Option.bind_some]
    have hl : (writer.data.take writer.offset ++ x ++
        writer.data.drop (writer.offset + x.length)).length = writer.data.length := by
      simp only [List.length_append, List.length_take, List.length_drop]
      omega
    have ht : (writer.data.take writer.offset ++ x).length = writer.offset + x.length := by
      simp only [List.length_append, List.length_take]
      omega
    simp only [hl, List.length_append]
    by_cases hy : writer.offset + x.length > writer.data.length ∨
        y.length > writer.data.length - (writer.offset + x.length)
    · rw [if_pos hy, if_pos (by omega)]
    · rw [if_neg hy, if_neg (by omega), List.take_left' ht,
        List.drop_append, List.drop_of_length_le (by rw [ht]; omega), ht,
        List.nil_append, List.drop_drop]
      simp only [Option.some.injEq, Writer.mk.injEq]
      constructor
      · simp only [List.append_assoc]
        congr 4
        omega
      · omega

/-- A write over the whole buffer leaves exactly the written bytes. -/
theorem writeBytes_whole (data value : List UInt8) (h : value.length = data.length) :
    writeBytes ⟨data, 0⟩ value = some ⟨value, data.length⟩ := by
  simp [writeBytes, h]

/-- A read within the buffer returns its window and advances the cursor. -/
theorem readBytes_of_le (data : List UInt8) (offset size : Nat)
    (h : offset + size ≤ data.length) :
    readBytes ⟨data, offset⟩ size =
      some ((data.drop offset).take size, ⟨data, offset + size⟩) := by
  rw [readBytes, if_neg (by simp only; omega)]

private theorem decodeU16_eq (bs : List UInt8) : decodeU16 bs = Layout.u16.decode bs := rfl

private theorem decodeU32_eq (bs : List UInt8) : decodeU32 bs = Layout.u32.decode bs := rfl

section Reads

variable {α : Type} (data : List UInt8) (offset : Nat)

private theorem readU8_bind (f : UInt8 × Reader → Option α) (h : offset + 1 ≤ data.length) :
    (readU8 ⟨data, offset⟩ >>= f) =
      f (Layout.byte.decode ((data.drop offset).take 1), ⟨data, offset + 1⟩) := by
  rw [readU8, readBytes_of_le _ _ _ h]
  rfl

private theorem readU32_bind (f : UInt32 × Reader → Option α) (h : offset + 4 ≤ data.length) :
    (readU32 ⟨data, offset⟩ >>= f) =
      f (Layout.u32.decode ((data.drop offset).take 4), ⟨data, offset + 4⟩) := by
  rw [readU32, readBytes_of_le _ _ _ h]
  rfl

private theorem readArray_bind (n : Nat) (f : CharArray n × Reader → Option α)
    (h : offset + n ≤ data.length) :
    (readArray n ⟨data, offset⟩ >>= f) =
      f ((Layout.array n).decode ((data.drop offset).take n), ⟨data, offset + n⟩) := by
  rw [readArray, readBytes_of_le _ _ _ h]
  rfl

end Reads

/-! ### Header -/

/-- The header bytes that `write_header` produces. -/
def headerBytes (magic : List UInt8) (payloadSize : UInt32) : List UInt8 :=
  magic ++ (Layout.u16.encode formatVersion ++
    (Layout.u16.encode (UInt16.ofNat headerSize) ++ Layout.u32.encode payloadSize))

/-- What a decoder asks of the first twelve bytes and the total length: the magic,
format version 1, header size 12 and the published payload length. -/
structure HeaderMatches (magic : List UInt8) (payloadSize : Nat) (bs : List UInt8) : Prop where
  length : bs.length = headerSize + payloadSize
  magic : bs.take 4 = magic
  version : decodeU16 ((bs.drop 4).take 2) = formatVersion
  header : (decodeU16 ((bs.drop 6).take 2)).toNat = headerSize
  payload : (decodeU32 ((bs.drop 8).take 4)).toNat = payloadSize

private theorem writeHeader_eq (writer : Writer) (magic : List UInt8) (payloadSize : UInt32) :
    writeHeader writer magic payloadSize = writeBytes writer (headerBytes magic payloadSize) := by
  change (writeBytes writer magic).bind (fun writer ↦
    (writeBytes writer (Layout.u16.encode formatVersion)).bind (fun writer ↦
      (writeBytes writer (Layout.u16.encode (UInt16.ofNat headerSize))).bind (fun writer ↦
        writeBytes writer (Layout.u32.encode payloadSize)))) = _
  simp only [writeBytes_append]
  rfl

private theorem length_headerBytes (magic : List UInt8) (payloadSize : UInt32)
    (h : magic.length = 4) : (headerBytes magic payloadSize).length = headerSize := by
  simp [headerBytes, h, headerSize]

/-- The header is accepted with the decoder's own payload length exactly on matching bytes. -/
theorem peekHeader_ok_iff (magic : List UInt8) (payloadSize : Nat) (bs : List UInt8) :
    (∃ header, peekHeader bs magic = .ok header ∧ header.payloadSize.toNat = payloadSize) ↔
      HeaderMatches magic payloadSize bs := by
  constructor
  · rintro ⟨header, hp, hn⟩
    unfold peekHeader at hp
    split at hp
    · cases hp
    · next hl =>
      split at hp
      · cases hp
      · next hm =>
        dsimp only at hp
        split at hp
        · cases hp
        · next hv =>
          split at hp
          · cases hp
          · next hs =>
            cases hp
            simp only [Classical.not_not, not_or] at hm hv hs
            dsimp only at hn
            refine ⟨?_, hm, hv, hs.1, hn⟩
            have := hs.2
            omega
  · rintro ⟨hl, hm, hv, hh, hn⟩
    refine ⟨⟨decodeU16 ((bs.drop 4).take 2), decodeU16 ((bs.drop 6).take 2),
      decodeU32 ((bs.drop 8).take 4)⟩, ?_, hn⟩
    unfold peekHeader
    rw [if_neg (by omega), if_neg (by simpa using hm)]
    dsimp only
    rw [if_neg (by simpa using hv), if_neg (by omega)]

/-- A refused header is reported with an error code. -/
theorem peekHeader_error_ne_ok (bs magic : List UInt8) (e : EspErr)
    (h : peekHeader bs magic = .error e) : e ≠ .ok := by
  unfold peekHeader at h
  dsimp only at h
  split at h
  · cases h; decide
  · split at h
    · cases h; decide
    · split at h
      · cases h; decide
      · split at h
        · cases h; decide
        · cases h

private theorem header_slices (m a b c p : List UInt8) (hm : m.length = 4)
    (ha : a.length = 2) (hb : b.length = 2) (hc : c.length = 4) :
    (m ++ (a ++ (b ++ (c ++ p)))).take 4 = m ∧
      ((m ++ (a ++ (b ++ (c ++ p)))).drop 4).take 2 = a ∧
      ((m ++ (a ++ (b ++ (c ++ p)))).drop 6).take 2 = b ∧
      ((m ++ (a ++ (b ++ (c ++ p)))).drop 8).take 4 = c := by
  have h4 : (m ++ (a ++ (b ++ (c ++ p)))).drop 4 = a ++ (b ++ (c ++ p)) :=
    List.drop_left' hm
  have h6 : (m ++ (a ++ (b ++ (c ++ p)))).drop 6 = b ++ (c ++ p) := by
    rw [show (6 : Nat) = 4 + 2 from rfl, ← List.drop_drop, h4]
    exact List.drop_left' ha
  have h8 : (m ++ (a ++ (b ++ (c ++ p)))).drop 8 = c ++ p := by
    rw [show (8 : Nat) = 6 + 2 from rfl, ← List.drop_drop, h6]
    exact List.drop_left' hb
  rw [h4, h6, h8]
  exact ⟨List.take_left' hm, List.take_left' ha, List.take_left' hb, List.take_left' hc⟩

private theorem headerMatches_headerBytes (magic : List UInt8) (payloadSize : Nat)
    (payload : List UInt8) (hm : magic.length = 4) (hs : payloadSize < 2 ^ 32)
    (hp : payload.length = payloadSize) :
    HeaderMatches magic payloadSize
      (headerBytes magic (UInt32.ofNat payloadSize) ++ payload) := by
  have he : headerBytes magic (UInt32.ofNat payloadSize) ++ payload =
      magic ++ (Layout.u16.encode formatVersion ++ (Layout.u16.encode (UInt16.ofNat headerSize) ++
        (Layout.u32.encode (UInt32.ofNat payloadSize) ++ payload))) := by
    simp only [headerBytes, List.append_assoc]
  obtain ⟨h0, h4, h6, h8⟩ := header_slices magic (Layout.u16.encode formatVersion)
    (Layout.u16.encode (UInt16.ofNat headerSize)) (Layout.u32.encode (UInt32.ofNat payloadSize))
    payload hm rfl rfl rfl
  rw [he]
  refine ⟨?_, h0, ?_, ?_, ?_⟩
  · simp [hm, hp, headerSize]
    omega
  · rw [h4, decodeU16_eq, Layout.decode_encode]
  · rw [h6, decodeU16_eq, Layout.decode_encode]
    rfl
  · rw [h8, decodeU32_eq, Layout.decode_encode]
    exact UInt32.toNat_ofNat_of_lt' hs

private theorem take_header (magic : List UInt8) (payloadSize : Nat) (bs : List UInt8)
    (h : HeaderMatches magic payloadSize bs) :
    bs.take headerSize = headerBytes magic (UInt32.ofNat payloadSize) := by
  have hl : 12 ≤ bs.length := by rw [h.length]; exact Nat.le_add_right _ _
  have split {α : Type} (k n : Nat) (hk : k + n ≤ bs.length) (l : Layout α)
      (hn : l.size = n) (a : α) (ha : l.decode ((bs.drop k).take n) = a) : (bs.drop k).take n = l.encode a := by
    rw [← ha, l.encode_decode]
    rw [List.length_take, List.length_drop]
    omega
  have h4 := split 4 2 (by omega) Layout.u16 rfl formatVersion h.version
  have h6 := split 6 2 (by omega) Layout.u16 rfl (UInt16.ofNat headerSize)
    (UInt16.toNat_inj.mp (by rw [← decodeU16_eq, h.header]; rfl))
  have h8 := split 8 4 (by omega) Layout.u32 rfl (UInt32.ofNat payloadSize) (by
    rw [← decodeU32_eq]
    apply UInt32.toNat_inj.mp
    have hlt := (decodeU32 ((bs.drop 8).take 4)).toNat_lt
    rw [h.payload] at hlt
    rw [h.payload, UInt32.toNat_ofNat_of_lt' hlt])
  rw [headerBytes, ← h.magic, ← h4, ← h6, ← h8]
  have e (k m n : Nat) : (bs.drop k).take (m + n) =
      (bs.drop k).take m ++ (bs.drop (k + m)).take n := by
    rw [List.take_add, List.drop_drop]
  have e0 := e 0 4 8
  have e4 := e 4 2 6
  have e6 := e 6 2 4
  simp only [List.drop_zero, Nat.zero_add] at e0
  rw [show headerSize = 4 + 8 from rfl, e0, show (8 : Nat) = 2 + 6 from rfl, e4,
    show (6 : Nat) = 2 + 4 from rfl, e6]

/-! ### Configuration payload -/

/-- The eighteen payload fields in storage order. -/
abbrev ConfigurationFields :=
  UInt32 × UInt32 × CharArray 64 × CharArray 33 × CharArray 64 × CharArray 256 ×
    CharArray 4096 × CharArray 64 × CharArray 128 × CharArray 128 × UInt32 × UInt8 × UInt32 ×
    UInt8 × UInt8 × UInt8 × UInt32 × UInt32

/-- The configuration payload as one layout. -/
def configurationLayout : Layout ConfigurationFields :=
  .seq .u32 <| .seq .u32 <| .seq (.array 64) <| .seq (.array 33) <| .seq (.array 64) <|
    .seq (.array 256) <| .seq (.array 4096) <| .seq (.array 64) <| .seq (.array 128) <|
    .seq (.array 128) <| .seq .u32 <| .seq .byte <| .seq .u32 <| .seq .byte <| .seq .byte <|
    .seq .byte <| .seq .u32 .u32

/-- The layout's width is the published payload size. -/
theorem size_configurationLayout : configurationLayout.size = configurationPayloadSize := rfl

/-- The stored fields of a configuration: enumerations narrowed to one byte. -/
def DeviceConfig.toFields (c : DeviceConfig) : ConfigurationFields :=
  (c.schemaVersion, c.revision, c.deviceId, c.wifiSsid, c.wifiPassword, c.mqttBrokerUri,
    c.mqttCaCertificate, c.mqttUsername, c.mqttPassword, c.mqttClientId,
    c.telemetryIntervalSeconds, c.machineStatusProvider.toUInt8, c.machineStatusGpio.toUInt32,
    if c.machineStatusActiveHigh then 1 else 0, c.machineStatusPull.toUInt8,
    if c.maintenanceOnBoot then 1 else 0, c.maintenanceWindowSeconds,
    c.maintenanceMaxSessionSeconds)

/-- The configuration held by stored fields, unless a boolean byte is neither 0 nor 1. -/
def ConfigurationFields.toConfig : ConfigurationFields → Option DeviceConfig
  | (schemaVersion, revision, deviceId, wifiSsid, wifiPassword, mqttBrokerUri,
      mqttCaCertificate, mqttUsername, mqttPassword, mqttClientId, telemetryIntervalSeconds,
      provider, gpio, activeHigh, pull, maintenance, maintenanceWindowSeconds,
      maintenanceMaxSessionSeconds) =>
    if activeHigh > 1 ∨ maintenance > 1 then none
    else some
      { schemaVersion, revision, deviceId, wifiSsid, wifiPassword, mqttBrokerUri,
        mqttCaCertificate, mqttUsername, mqttPassword, mqttClientId,
        telemetryIntervalSeconds
        machineStatusProvider := provider.toUInt32
        machineStatusGpio := gpio.toInt32
        machineStatusActiveHigh := activeHigh == 1
        machineStatusPull := pull.toUInt32
        maintenanceOnBoot := maintenance == 1
        maintenanceWindowSeconds, maintenanceMaxSessionSeconds }

/-- The enumeration fields fit in the one byte the format gives them. -/
def DeviceConfig.EnumsFit (c : DeviceConfig) : Prop :=
  c.machineStatusProvider < 256 ∧ c.machineStatusPull < 256

private theorem widen_narrow (w : UInt32) (h : w < 256) : w.toUInt8.toUInt32 = w := by
  have hn : w.toNat < 256 := h
  apply UInt32.toNat_inj.mp
  rw [UInt8.toNat_toUInt32, UInt32.toNat_toUInt8]
  omega

private theorem narrow_widen (b : UInt8) : b.toUInt32.toUInt8 = b := by
  have h := b.toNat_lt
  apply UInt8.toNat_inj.mp
  rw [UInt32.toNat_toUInt8, UInt8.toNat_toUInt32]
  omega

private theorem boolean_byte (b : UInt8) (h : ¬ b > 1) :
    (if (b == 1) = true then (1 : UInt8) else 0) = b := by
  have hn : b.toNat ≤ 1 := Nat.not_lt.mp h
  by_cases hb : b = 1
  · simp [hb]
  · have hz : b.toNat ≠ 1 := fun he ↦ hb (UInt8.toNat_inj.mp he)
    have h0 : b = 0 := UInt8.toNat_inj.mp (by change b.toNat = 0; omega)
    simp [h0]

/-- Reading back the stored fields of a configuration with fitting enumerations. -/
theorem toConfig_toFields (c : DeviceConfig) (h : DeviceConfig.EnumsFit c) :
    (DeviceConfig.toFields c).toConfig = some c := by
  have bit (b : Bool) : ¬ (if b then (1 : UInt8) else 0) > 1 := by cases b <;> decide
  have back (b : Bool) : ((if b then (1 : UInt8) else 0) == 1) = b := by cases b <;> rfl
  unfold DeviceConfig.toFields ConfigurationFields.toConfig
  dsimp only
  rw [if_neg (not_or.mpr ⟨bit _, bit _⟩), back, back, widen_narrow _ h.1, widen_narrow _ h.2]
  rfl

/-- Writing back the configuration held by stored fields. -/
theorem toFields_toConfig (f : ConfigurationFields) (c : DeviceConfig)
    (h : f.toConfig = some c) : DeviceConfig.toFields c = f := by
  obtain ⟨f1, f2, f3, f4, f5, f6, f7, f8, f9, f10, f11, f12, f13, f14, f15, f16, f17, f18⟩ := f
  unfold ConfigurationFields.toConfig at h
  dsimp only at h
  split at h
  · cases h
  · next hb =>
    rw [not_or] at hb
    obtain rfl := Option.some.inj h
    simp only [DeviceConfig.toFields, narrow_widen, boolean_byte _ hb.1, boolean_byte _ hb.2]
    rfl

/-- Every decoded configuration has fitting enumerations. -/
theorem enumsFit_of_toConfig (f : ConfigurationFields) (c : DeviceConfig)
    (h : f.toConfig = some c) : DeviceConfig.EnumsFit c := by
  obtain ⟨f1, f2, f3, f4, f5, f6, f7, f8, f9, f10, f11, f12, f13, f14, f15, f16, f17, f18⟩ := f
  unfold ConfigurationFields.toConfig at h
  dsimp only at h
  split at h
  · cases h
  · obtain rfl := Option.some.inj h
    have fit (b : UInt8) : b.toUInt32 < 256 := by
      change b.toUInt32.toNat < 256
      rw [UInt8.toNat_toUInt32]
      exact b.toNat_lt
    exact ⟨fit f12, fit f15⟩

/-- The stored form of a configuration: the header, then the payload layout. -/
def configurationBlob (c : DeviceConfig) : List UInt8 :=
  headerBytes configurationMagic (UInt32.ofNat configurationPayloadSize) ++
    configurationLayout.encode (DeviceConfig.toFields c)

/-- Every stored configuration has the published size. -/
theorem length_configurationBlob (c : DeviceConfig) :
    (configurationBlob c).length = configurationSize := by
  rw [configurationBlob, List.length_append, length_headerBytes _ _ rfl, Layout.length_encode]
  rfl

/-- The encoder's nineteen chained writes are the header and payload layout. -/
theorem encodeConfiguration_eq (c : DeviceConfig) (encoded : List UInt8)
    (h : encoded.length = configurationSize) :
    encodeConfiguration c encoded = (.ok, configurationBlob c) := by
  have hw : writeBytes ⟨encoded, 0⟩ (configurationBlob c) =
      some ⟨configurationBlob c, encoded.length⟩ :=
    writeBytes_whole _ _ ((length_configurationBlob c).trans h.symm)
  unfold encodeConfiguration
  rw [if_neg (by simpa using h)]
  simp only [writeHeader_eq, writeU32, writeU8, writeArray, bind, writeBytes_append]
  -- The bytes in the goal are the blob up to unfolding its layout.
  erw [hw]
  simp

/-- Past a matching header, the decoder's eighteen chained reads are the payload layout. -/
theorem decodeConfiguration_eq (bs : List UInt8) (out : DeviceConfig)
    (h : HeaderMatches configurationMagic configurationPayloadSize bs) :
    decodeConfiguration bs out =
      match (configurationLayout.decode (bs.drop headerSize)).toConfig with
      | some c => (.ok, c)
      | none => (.invalidSize, .zero) := by
  obtain ⟨header, hp, hn⟩ := (peekHeader_ok_iff _ _ _).mpr h
  have hl : bs.length = 4873 := h.length
  unfold decodeConfiguration
  rw [hp]
  dsimp only
  rw [if_neg (by simpa using hn)]
  -- The reads are taken from the outside in, each at a known offset.
  rw [headerSize]
  simp (disch := omega) only [↓readU32_bind, ↓readArray_bind, ↓readU8_bind, Nat.reduceAdd]
  rw [hl]
  simp only [ne_eq, not_true_eq_false, false_or]
  have last : (bs.drop 4869).take 4 = bs.drop 4869 :=
    List.take_of_length_le (by rw [List.length_drop]; omega)
  rw [last]
  simp only [configurationLayout, Layout.seq, List.drop_drop, ConfigurationFields.toConfig,
    Layout.size_u32, Layout.size_array, Layout.size_byte, Nat.reduceAdd]
  rfl

/-- A header the configuration decoder does not accept leaves the output untouched. -/
theorem decodeConfiguration_of_header_rejected (bs : List UInt8) (out : DeviceConfig)
    (h : ¬ HeaderMatches configurationMagic configurationPayloadSize bs) :
    (decodeConfiguration bs out).1 ≠ .ok ∧ (decodeConfiguration bs out).2 = out := by
  unfold decodeConfiguration
  cases hp : peekHeader bs configurationMagic with
  | error e => exact ⟨peekHeader_error_ne_ok _ _ _ hp, rfl⟩
  | ok header =>
    have hn : header.payloadSize.toNat ≠ configurationPayloadSize := fun hn ↦
      h ((peekHeader_ok_iff _ _ _).mp ⟨header, hp, hn⟩)
    dsimp only
    rw [if_pos hn]
    exact ⟨by simp, rfl⟩

/-! ### Metadata payload -/

/-- The five metadata fields in storage order. -/
abbrev MetadataFields := UInt8 × UInt32 × UInt32 × UInt32 × CharArray 96

/-- The metadata payload as one layout. -/
def metadataLayout : Layout MetadataFields :=
  .seq .byte <| .seq .u32 <| .seq .u32 <| .seq .u32 (.array 96)

/-- The layout's width is the published payload size. -/
theorem size_metadataLayout : metadataLayout.size = metadataPayloadSize := rfl

/-- The stored fields of metadata: the state narrowed to one byte. -/
def DeviceConfigMetadata.toFields (m : DeviceConfigMetadata) : MetadataFields :=
  (m.state.toUInt8, m.candidateRevision, m.bootAttempts, m.bootCount, m.lastRollbackReason)

/-- The metadata held by stored fields, unless the state is outside the enumeration or
the reason array does not end in a NUL. -/
def MetadataFields.toMetadata : MetadataFields → Option DeviceConfigMetadata
  | (state, candidateRevision, bootAttempts, bootCount, lastRollbackReason) =>
    if state.toUInt32 > ConfigState.rollback ∨ lastRollbackReason.last ≠ 0 then none
    else some
      { state := state.toUInt32, candidateRevision, bootAttempts, bootCount,
        lastRollbackReason }

/-- A state of the enumeration and a reason array that ends in a NUL. -/
def DeviceConfigMetadata.Storable (m : DeviceConfigMetadata) : Prop :=
  m.state ≤ ConfigState.rollback ∧ m.lastRollbackReason.last = 0

private theorem state_fits (m : DeviceConfigMetadata) (h : m.state ≤ ConfigState.rollback) :
    m.state < 256 := by
  have hn : m.state.toNat ≤ 3 := h
  change m.state.toNat < 256
  omega

/-- Reading back the stored fields of storable metadata. -/
theorem toMetadata_toFields (m : DeviceConfigMetadata) (h : DeviceConfigMetadata.Storable m) :
    (DeviceConfigMetadata.toFields m).toMetadata = some m := by
  unfold DeviceConfigMetadata.toFields MetadataFields.toMetadata
  dsimp only
  rw [widen_narrow _ (state_fits m h.1),
    if_neg (not_or.mpr ⟨UInt32.not_lt.mpr h.1, fun hn ↦ hn h.2⟩)]

/-- Writing back the metadata held by stored fields, which is storable. -/
theorem toFields_toMetadata (f : MetadataFields) (m : DeviceConfigMetadata)
    (h : f.toMetadata = some m) :
    DeviceConfigMetadata.toFields m = f ∧ DeviceConfigMetadata.Storable m := by
  obtain ⟨f1, f2, f3, f4, f5⟩ := f
  unfold MetadataFields.toMetadata at h
  dsimp only at h
  split at h
  · cases h
  · next hb =>
    rw [not_or, Classical.not_not] at hb
    obtain rfl := Option.some.inj h
    refine ⟨?_, UInt32.not_lt.mp hb.1, hb.2⟩
    simp only [DeviceConfigMetadata.toFields, narrow_widen]

/-- The stored form of metadata: the header, then the payload layout. -/
def metadataBlob (m : DeviceConfigMetadata) : List UInt8 :=
  headerBytes metadataMagic (UInt32.ofNat metadataPayloadSize) ++
    metadataLayout.encode (DeviceConfigMetadata.toFields m)

/-- Every stored metadata record has the published size. -/
theorem length_metadataBlob (m : DeviceConfigMetadata) :
    (metadataBlob m).length = metadataSize := by
  rw [metadataBlob, List.length_append, length_headerBytes _ _ rfl, Layout.length_encode]
  rfl

/-- The metadata encoder's chained writes are the header and payload layout. -/
theorem encodeMetadata_eq (m : DeviceConfigMetadata) (encoded : List UInt8)
    (h : encoded.length = metadataSize) : encodeMetadata m encoded = (.ok, metadataBlob m) := by
  have hw : writeBytes ⟨encoded, 0⟩ (metadataBlob m) =
      some ⟨metadataBlob m, encoded.length⟩ :=
    writeBytes_whole _ _ ((length_metadataBlob m).trans h.symm)
  unfold encodeMetadata
  rw [if_neg (by simpa using h)]
  simp only [writeHeader_eq, writeU32, writeU8, writeArray, bind, writeBytes_append]
  -- The bytes in the goal are the blob up to unfolding its layout.
  erw [hw]
  simp

/-- Past a matching header, the metadata decoder's chained reads are the payload layout. -/
theorem decodeMetadata_eq (bs : List UInt8) (out : DeviceConfigMetadata)
    (h : HeaderMatches metadataMagic metadataPayloadSize bs) :
    decodeMetadata bs out =
      match (metadataLayout.decode (bs.drop headerSize)).toMetadata with
      | some m => (.ok, m)
      | none => (.invalidSize, .zero) := by
  obtain ⟨header, hp, hn⟩ := (peekHeader_ok_iff _ _ _).mpr h
  have hl : bs.length = 121 := h.length
  unfold decodeMetadata
  rw [hp]
  dsimp only
  rw [if_neg (by simpa using hn)]
  -- The reads are taken from the outside in, each at a known offset.
  rw [headerSize]
  simp (disch := omega) only [↓readU32_bind, ↓readArray_bind, ↓readU8_bind, Nat.reduceAdd]
  rw [hl]
  simp only [ne_eq, not_true_eq_false, false_or]
  have last : (bs.drop 25).take 96 = bs.drop 25 :=
    List.take_of_length_le (by rw [List.length_drop]; omega)
  simp only [last, metadataLayout, Layout.seq, List.drop_drop, MetadataFields.toMetadata,
    Layout.size_u32, Layout.size_byte, Nat.reduceAdd]
  rfl

/-- A header the metadata decoder does not accept leaves the output untouched. -/
theorem decodeMetadata_of_header_rejected (bs : List UInt8) (out : DeviceConfigMetadata)
    (h : ¬ HeaderMatches metadataMagic metadataPayloadSize bs) :
    (decodeMetadata bs out).1 ≠ .ok ∧ (decodeMetadata bs out).2 = out := by
  unfold decodeMetadata
  cases hp : peekHeader bs metadataMagic with
  | error e => exact ⟨peekHeader_error_ne_ok _ _ _ hp, rfl⟩
  | ok header =>
    have hn : header.payloadSize.toNat ≠ metadataPayloadSize := fun hn ↦
      h ((peekHeader_ok_iff _ _ _).mp ⟨header, hp, hn⟩)
    dsimp only
    rw [if_pos hn]
    exact ⟨by simp, rfl⟩

/-! ### Round trips -/

private theorem headerMatches_configurationBlob (c : DeviceConfig) :
    HeaderMatches configurationMagic configurationPayloadSize (configurationBlob c) :=
  headerMatches_headerBytes _ _ _ rfl (by decide) (configurationLayout.length_encode _)

private theorem headerMatches_metadataBlob (m : DeviceConfigMetadata) :
    HeaderMatches metadataMagic metadataPayloadSize (metadataBlob m) :=
  headerMatches_headerBytes _ _ _ rfl (by decide) (metadataLayout.length_encode _)

/-- Decoding a stored configuration returns it, every byte of every string included. -/
theorem decodeConfiguration_configurationBlob (c out : DeviceConfig)
    (h : DeviceConfig.EnumsFit c) : decodeConfiguration (configurationBlob c) out = (.ok, c) := by
  rw [decodeConfiguration_eq _ _ (headerMatches_configurationBlob c), configurationBlob,
    List.drop_left' (length_headerBytes _ _ rfl), Layout.decode_encode, toConfig_toFields c h]

/-- Decoding stored metadata returns it. -/
theorem decodeMetadata_metadataBlob (m out : DeviceConfigMetadata)
    (h : DeviceConfigMetadata.Storable m) : decodeMetadata (metadataBlob m) out = (.ok, m) := by
  rw [decodeMetadata_eq _ _ (headerMatches_metadataBlob m), metadataBlob,
    List.drop_left' (length_headerBytes _ _ rfl), Layout.decode_encode, toMetadata_toFields m h]

/-- A string the configuration decoder accepts is the stored form of what it returns. -/
theorem configurationBlob_of_decode (bs : List UInt8) (out c : DeviceConfig)
    (h : decodeConfiguration bs out = (.ok, c)) :
    bs = configurationBlob c ∧ DeviceConfig.EnumsFit c := by
  by_cases hm : HeaderMatches configurationMagic configurationPayloadSize bs
  · rw [decodeConfiguration_eq _ _ hm] at h
    cases hf : (configurationLayout.decode (bs.drop headerSize)).toConfig with
    | none => rw [hf] at h; cases h
    | some c' =>
      rw [hf] at h
      obtain rfl : c' = c := congrArg Prod.snd h
      have hd : (bs.drop headerSize).length = configurationLayout.size := by
        rw [List.length_drop, hm.length, Nat.add_sub_cancel_left, size_configurationLayout]
      refine ⟨?_, enumsFit_of_toConfig _ _ hf⟩
      rw [configurationBlob, toFields_toConfig _ _ hf, configurationLayout.encode_decode _ hd,
        ← take_header _ _ _ hm, List.take_append_drop]
  · exact absurd (by rw [h]) (decodeConfiguration_of_header_rejected bs out hm).1

/-- A string the metadata decoder accepts is the stored form of what it returns. -/
theorem metadataBlob_of_decode (bs : List UInt8) (out m : DeviceConfigMetadata)
    (h : decodeMetadata bs out = (.ok, m)) :
    bs = metadataBlob m ∧ DeviceConfigMetadata.Storable m := by
  by_cases hm : HeaderMatches metadataMagic metadataPayloadSize bs
  · rw [decodeMetadata_eq _ _ hm] at h
    cases hf : (metadataLayout.decode (bs.drop headerSize)).toMetadata with
    | none => rw [hf] at h; cases h
    | some m' =>
      rw [hf] at h
      obtain rfl : m' = m := congrArg Prod.snd h
      obtain ⟨hw, hs⟩ := toFields_toMetadata _ _ hf
      have hd : (bs.drop headerSize).length = metadataLayout.size := by
        rw [List.length_drop, hm.length, Nat.add_sub_cancel_left, size_metadataLayout]
      refine ⟨?_, hs⟩
      rw [metadataBlob, hw, metadataLayout.encode_decode _ hd, ← take_header _ _ _ hm,
        List.take_append_drop]
  · exact absurd (by rw [h]) (decodeMetadata_of_header_rejected bs out hm).1

/-! ### Acceptance -/

/-- The byte strings of the configuration format: a matching header and the two boolean
bytes, active level and maintenance on boot, each 0 or 1. -/
def ConfigurationAccepted (bs : List UInt8) : Prop :=
  HeaderMatches configurationMagic configurationPayloadSize bs ∧
    bs.getD 4862 0 ≤ 1 ∧ bs.getD 4864 0 ≤ 1

/-- The byte strings of the metadata format: a matching header, a state byte at most
`ROLLBACK`, and a NUL as the last byte of the reason. -/
def MetadataAccepted (bs : List UInt8) : Prop :=
  HeaderMatches metadataMagic metadataPayloadSize bs ∧
    bs.getD 12 0 ≤ 3 ∧ bs.getD 120 0 = 0

private theorem byte_window (bs : List UInt8) (k : Nat) :
    Layout.byte.decode ((bs.drop k).take 1) = bs.getD k 0 := by
  change ((bs.drop k).take 1).headD 0 = bs.getD k 0
  rw [List.headD_eq_head?_getD, List.head?_take, List.head?_drop, List.getD_eq_getElem?_getD]
  rfl

/-- The configuration decoder accepts exactly the strings of its format. -/
theorem decodeConfiguration_ok_iff (bs : List UInt8) (out : DeviceConfig) :
    (decodeConfiguration bs out).1 = .ok ↔ ConfigurationAccepted bs := by
  by_cases hm : HeaderMatches configurationMagic configurationPayloadSize bs
  · have hf : (configurationLayout.decode (bs.drop headerSize)).toConfig = none ↔
        (bs.getD 4862 0 > 1 ∨ bs.getD 4864 0 > 1) := by
      rw [← byte_window bs 4862, ← byte_window bs 4864]
      simp only [configurationLayout, Layout.seq, List.drop_drop,
        ConfigurationFields.toConfig, Layout.size_u32, Layout.size_array, Layout.size_byte,
        headerSize, Nat.reduceAdd]
      split
      · next hc => exact ⟨fun _ ↦ hc, fun _ ↦ rfl⟩
      · next hc => exact ⟨fun h ↦ (nomatch h), fun h ↦ absurd h hc⟩
    rw [decodeConfiguration_eq _ _ hm, ConfigurationAccepted]
    cases hc : (configurationLayout.decode (bs.drop headerSize)).toConfig with
    | none =>
      simp only [hm, true_and, reduceCtorEq, false_iff, not_and, UInt8.not_le]
      intro h
      exact (hf.mp hc).resolve_left (UInt8.not_lt.mpr h)
    | some c =>
      have hn := mt hf.mpr (by rw [hc]; simp)
      rw [not_or] at hn
      simp only [hm, true_and, true_iff]
      exact ⟨UInt8.not_lt.mp hn.1, UInt8.not_lt.mp hn.2⟩
  · have hr := (decodeConfiguration_of_header_rejected bs out hm).1
    exact ⟨fun h ↦ absurd h hr, fun h ↦ absurd h.1 hm⟩

/-- The metadata decoder accepts exactly the strings of its format. -/
theorem decodeMetadata_ok_iff (bs : List UInt8) (out : DeviceConfigMetadata) :
    (decodeMetadata bs out).1 = .ok ↔ MetadataAccepted bs := by
  by_cases hm : HeaderMatches metadataMagic metadataPayloadSize bs
  · have hl : bs.length = 121 := hm.length
    have hr : CharArray.last ((Layout.array 96).decode (bs.drop 25)) = bs.getD 120 0 := by
      have hd : (bs.drop 25).length = 96 := by rw [List.length_drop]; omega
      simp only [CharArray.last, Layout.array, hd, ↓reduceDIte, Vector.getElem_mk, List.getElem_toArray,
        List.getElem_drop, Nat.reduceAdd]
      rw [List.getD_eq_getElem?_getD, List.getElem?_eq_getElem (by omega), Option.getD_some]
    have hs : (bs.getD 12 0).toUInt32 > ConfigState.rollback ↔ ¬ bs.getD 12 0 ≤ 3 := by
      rw [UInt8.not_le]
      change 3 < (bs.getD 12 0).toUInt32.toNat ↔ 3 < (bs.getD 12 0).toNat
      rw [UInt8.toNat_toUInt32]
    have hf : (metadataLayout.decode (bs.drop headerSize)).toMetadata = none ↔
        ¬ (bs.getD 12 0 ≤ 3 ∧ bs.getD 120 0 = 0) := by
      simp only [metadataLayout, Layout.seq, List.drop_drop, MetadataFields.toMetadata,
        Layout.size_u32, Layout.size_byte, headerSize, Nat.reduceAdd, byte_window, hr, hs]
      split
      · next hc => exact ⟨fun _ h ↦ hc.elim (· h.1) (· h.2), fun _ ↦ rfl⟩
      · next hc =>
        rw [not_or, Classical.not_not, Classical.not_not] at hc
        exact ⟨fun h ↦ (nomatch h), fun h ↦ absurd hc h⟩
    rw [decodeMetadata_eq _ _ hm, MetadataAccepted]
    cases hc : (metadataLayout.decode (bs.drop headerSize)).toMetadata with
    | none => simpa [hm] using hf.mp hc
    | some m =>
      have hn := mt hf.mpr (by rw [hc]; simp)
      simpa [hm] using hn
  · have hr := (decodeMetadata_of_header_rejected bs out hm).1
    exact ⟨fun h ↦ absurd h hr, fun h ↦ absurd h.1 hm⟩

/-- A refused configuration leaves the output as it was when the header is refused,
and all zero when the payload is. -/
theorem decodeConfiguration_rejected (bs : List UInt8) (out : DeviceConfig)
    (h : (decodeConfiguration bs out).1 ≠ .ok) :
    (¬ HeaderMatches configurationMagic configurationPayloadSize bs →
        (decodeConfiguration bs out).2 = out) ∧
      (HeaderMatches configurationMagic configurationPayloadSize bs →
        (decodeConfiguration bs out).2 = .zero) := by
  refine ⟨fun hm ↦ (decodeConfiguration_of_header_rejected bs out hm).2, fun hm ↦ ?_⟩
  rw [decodeConfiguration_eq _ _ hm] at h ⊢
  cases hc : (configurationLayout.decode (bs.drop headerSize)).toConfig with
  | none => rfl
  | some c => rw [hc] at h; exact absurd rfl h

/-- Refused metadata leaves the output as it was when the header is refused, and all
zero when the payload is. -/
theorem decodeMetadata_rejected (bs : List UInt8) (out : DeviceConfigMetadata)
    (h : (decodeMetadata bs out).1 ≠ .ok) :
    (¬ HeaderMatches metadataMagic metadataPayloadSize bs → (decodeMetadata bs out).2 = out) ∧
      (HeaderMatches metadataMagic metadataPayloadSize bs →
        (decodeMetadata bs out).2 = .zero) := by
  refine ⟨fun hm ↦ (decodeMetadata_of_header_rejected bs out hm).2, fun hm ↦ ?_⟩
  rw [decodeMetadata_eq _ _ hm] at h ⊢
  cases hc : (metadataLayout.decode (bs.drop headerSize)).toMetadata with
  | none => rfl
  | some m => rw [hc] at h; exact absurd rfl h

/-- The two formats have no string in common, by their magic. -/
theorem not_both_accepted (bs : List UInt8) :
    ¬ (ConfigurationAccepted bs ∧ MetadataAccepted bs) := by
  rintro ⟨hc, hm⟩
  have h := hc.1.magic.symm.trans hm.1.magic
  revert h
  decide

/-- Encoders and decoders are inverse on the accepted strings: both round trips for both
records, the exact accepted sets, their disjointness, and the output of a refusal. -/
theorem storage_format_bijection :
    (∀ (c out : DeviceConfig) (encoded : List UInt8), DeviceConfig.EnumsFit c →
      encoded.length = configurationSize →
        (encodeConfiguration c encoded).1 = .ok ∧
          decodeConfiguration (encodeConfiguration c encoded).2 out = (.ok, c)) ∧
    (∀ (m out : DeviceConfigMetadata) (encoded : List UInt8), DeviceConfigMetadata.Storable m →
      encoded.length = metadataSize →
        (encodeMetadata m encoded).1 = .ok ∧
          decodeMetadata (encodeMetadata m encoded).2 out = (.ok, m)) ∧
    (∀ (bs : List UInt8) (out : DeviceConfig),
      (decodeConfiguration bs out).1 = .ok ↔ ConfigurationAccepted bs) ∧
    (∀ (bs : List UInt8) (out : DeviceConfigMetadata),
      (decodeMetadata bs out).1 = .ok ↔ MetadataAccepted bs) ∧
    (∀ (bs encoded : List UInt8) (out : DeviceConfig), ConfigurationAccepted bs →
      encoded.length = configurationSize →
        encodeConfiguration (decodeConfiguration bs out).2 encoded = (.ok, bs)) ∧
    (∀ (bs encoded : List UInt8) (out : DeviceConfigMetadata), MetadataAccepted bs →
      encoded.length = metadataSize →
        encodeMetadata (decodeMetadata bs out).2 encoded = (.ok, bs)) ∧
    (∀ (bs : List UInt8) (out : DeviceConfig) (out' : DeviceConfigMetadata),
      ¬ ((decodeConfiguration bs out).1 = .ok ∧ (decodeMetadata bs out').1 = .ok)) ∧
    (∀ (bs : List UInt8) (out : DeviceConfig), (decodeConfiguration bs out).1 ≠ .ok →
      (¬ HeaderMatches configurationMagic configurationPayloadSize bs →
          (decodeConfiguration bs out).2 = out) ∧
        (HeaderMatches configurationMagic configurationPayloadSize bs →
          (decodeConfiguration bs out).2 = .zero)) ∧
    (∀ (bs : List UInt8) (out : DeviceConfigMetadata), (decodeMetadata bs out).1 ≠ .ok →
      (¬ HeaderMatches metadataMagic metadataPayloadSize bs →
          (decodeMetadata bs out).2 = out) ∧
        (HeaderMatches metadataMagic metadataPayloadSize bs →
          (decodeMetadata bs out).2 = .zero)) := by
  refine ⟨?_, ?_, decodeConfiguration_ok_iff, decodeMetadata_ok_iff, ?_, ?_, ?_,
    decodeConfiguration_rejected, decodeMetadata_rejected⟩
  · intro c out encoded hc hl
    rw [encodeConfiguration_eq c encoded hl]
    exact ⟨rfl, decodeConfiguration_configurationBlob c out hc⟩
  · intro m out encoded hm hl
    rw [encodeMetadata_eq m encoded hl]
    exact ⟨rfl, decodeMetadata_metadataBlob m out hm⟩
  · intro bs encoded out h hl
    have hd : decodeConfiguration bs out = (.ok, (decodeConfiguration bs out).2) :=
      Prod.ext ((decodeConfiguration_ok_iff bs out).mpr h) rfl
    rw [encodeConfiguration_eq _ _ hl, ← (configurationBlob_of_decode _ _ _ hd).1]
  · intro bs encoded out h hl
    have hd : decodeMetadata bs out = (.ok, (decodeMetadata bs out).2) :=
      Prod.ext ((decodeMetadata_ok_iff bs out).mpr h) rfl
    rw [encodeMetadata_eq _ _ hl, ← (metadataBlob_of_decode _ _ _ hd).1]
  · intro bs out out' h
    exact not_both_accepted bs ⟨(decodeConfiguration_ok_iff bs out).mp h.1,
      (decodeMetadata_ok_iff bs out').mp h.2⟩

/-- The all-zero configuration and metadata survive a round trip through their buffers. -/
theorem storage_format_bijection_zero :
    decodeConfiguration (encodeConfiguration .zero (.replicate configurationSize 0)).2 .zero =
        (.ok, .zero) ∧
      decodeMetadata (encodeMetadata .zero (.replicate metadataSize 0)).2 .zero =
        (.ok, .zero) :=
  ⟨(storage_format_bijection.1 .zero .zero _ ⟨by decide, by decide⟩ List.length_replicate).2,
    (storage_format_bijection.2.1 .zero .zero _ ⟨by decide, by decide⟩
      List.length_replicate).2⟩

end EdgeMonitor.Firmware.ConfigStorage
