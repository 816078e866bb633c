import EdgeMonitor.Base.Utf8
import EdgeMonitor.Firmware.ConfigValidate
import EdgeMonitor.Scripts.DeviceLifecycle

/-!
# Device identities

Library `Scripts`. The check of an identity in the firmware, on the bytes of a C string, beside
the one in the backend, on the characters of a text, and what the host tool issues.
-/

namespace EdgeMonitor.Scripts
open EdgeMonitor.Base EdgeMonitor.Firmware EdgeMonitor.Firmware.DeviceConfig
open EdgeMonitor.Backend (validateDeviceIdSyntax validateDeviceId validateProvisionableDeviceId
  deviceIdCharacter reservedDeviceIdentities legacyDeviceIdentity)

/-! ### Characters -/

theorem asciiAlphanumeric_eq (b : UInt8) :
    asciiAlphanumeric b = Text.isAlphanumeric b.toNat := by
  rw [asciiAlphanumeric, Text.isAlphanumeric]
  simp only [UInt8.le_iff_toNat_le]
  rfl

/-- The characters that the byte loop lets pass are those of the pattern. -/
theorem refused_eq (b : UInt8) :
    (!asciiAlphanumeric b && b != 0x2E && b != 0x5F && b != 0x2D) =
      !deviceIdCharacter b.toNat := by
  have hne (c : UInt8) : (b != c) = !(b.toNat == c.toNat) := by
    rw [bne, Bool.eq_iff_iff]
    simp [UInt8.toNat_inj]
  rw [deviceIdCharacter, asciiAlphanumeric_eq, hne, hne, hne]
  simp only [Bool.not_or]
  rfl

theorem lt_of_isAlphanumeric {c : Nat} (h : Text.isAlphanumeric c = true) : c < 0x80 := by
  rw [Text.isAlphanumeric] at h
  simp only [Bool.or_eq_true, Bool.and_eq_true, decide_eq_true_eq] at h
  omega

theorem lt_of_deviceIdCharacter {c : Nat} (h : deviceIdCharacter c = true) : c < 0x80 := by
  rw [deviceIdCharacter] at h
  simp only [Bool.or_eq_true, beq_iff_eq] at h
  rcases h with ((h | h) | h) | h
  · exact lt_of_isAlphanumeric h
  · omega
  · omega
  · omega

/-- The characters of an accepted identity, and how many there can be. -/
theorem characters_of_validateDeviceIdSyntax {value : Text}
    (h : validateDeviceIdSyntax value = true) :
    (∀ c ∈ value, deviceIdCharacter c = true) ∧ value.length ≤ 63 := by
  cases value with
  | nil => cases h
  | cons first rest =>
    rw [validateDeviceIdSyntax, Bool.and_eq_true, Bool.and_eq_true] at h
    obtain ⟨⟨hfirst, hrest⟩, hlength⟩ := h
    constructor
    · intro c hc
      rcases List.mem_cons.mp hc with rfl | hc
      · simp [deviceIdCharacter, hfirst]
      · exact List.all_eq_true.mp hrest c hc
    · rw [decide_eq_true_eq] at hlength
      rw [List.length_cons]
      omega

/-! ### The two checks -/

/-- The reserved identities of the firmware are those of the backend and `legacy-device`. -/
theorem reservedDeviceIds_eq : reservedDeviceIds.map (·.map UInt8.toNat) =
    reservedDeviceIdentities ++ [legacyDeviceIdentity] := by decide +kernel

theorem mem_reservedDeviceIds_iff {bytes : List UInt8} : bytes ∈ reservedDeviceIds ↔
    bytes.map UInt8.toNat ∈ reservedDeviceIdentities ∨
      bytes.map UInt8.toNat = legacyDeviceIdentity := by
  have hinj : Function.Injective (List.map UInt8.toNat) :=
    List.map_injective_iff.mpr fun _ _ ↦ UInt8.toNat_inj.mp
  rw [← List.mem_map_of_injective hinj, reservedDeviceIds_eq, List.mem_append,
    List.mem_singleton]

/-- On bytes the checks are the same. -/
theorem validDeviceId_iff {bytes : List UInt8} : validDeviceId bytes = true ↔
    validateProvisionableDeviceId (bytes.map UInt8.toNat) = true := by
  rw [validateProvisionableDeviceId, validateDeviceId]
  cases bytes with
  | nil => simp [validDeviceId, validateDeviceIdSyntax]
  | cons first rest =>
    have hany : (first :: rest).any (fun c ↦
        !asciiAlphanumeric c && c != 0x2E && c != 0x5F && c != 0x2D) =
          !(deviceIdCharacter first.toNat && (rest.map UInt8.toNat).all deviceIdCharacter) := by
      simp only [refused_eq, List.any_cons, List.all_map, Bool.not_and]
      rw [List.not_all_eq_any_not]
      rfl
    have hcharacter : Text.isAlphanumeric first.toNat = true →
        deviceIdCharacter first.toNat = true := by
      intro h
      simp [deviceIdCharacter, h]
    rw [validDeviceId, hany, List.headD_cons, asciiAlphanumeric_eq, List.map_cons,
      validateDeviceIdSyntax, ← List.map_cons]
    have hreserved := @mem_reservedDeviceIds_iff (first :: rest)
    by_cases hlength : rest.length ≤ 62
    · by_cases hfirst : Text.isAlphanumeric first.toNat = true
      · by_cases hrest : (rest.map UInt8.toNat).all deviceIdCharacter = true
        · simp [hlength, hfirst, hrest, hcharacter, hreserved]
          omega
        · simp [hlength, hfirst, hrest]
      · simp [hlength, hfirst]
    · have hlong : (first :: rest).length > 63 := by
        rw [List.length_cons]
        omega
      simp [hlength]
      omega

/-! ### Texts and their bytes -/

/-- A text whose bytes are ASCII has the same characters. -/
theorem eq_map_of_utf8 {value : Text} {bytes : List UInt8} (h : value.utf8 = some bytes)
    (hascii : ∀ b ∈ bytes, b.toNat < 0x80) : value = bytes.map UInt8.toNat := by
  induction bytes generalizing value with
  | nil =>
    cases value with
    | nil => rfl
    | cons c value =>
      have hmem (d : Nat) (hd : d < 0x80) : d ∉ c :: value := by
        rw [← Text.mem_utf8_iff hd h]
        exact List.not_mem_nil
      by_cases hc : c < 0x80
      · exact absurd List.mem_cons_self (hmem c hc)
      · obtain ⟨first, rest, hjoin, hfirst⟩ :=
          Text.exists_joinSurrogates_cons (show 0x80 ≤ c by omega) value
        rw [Text.utf8, hjoin] at h
        obtain ⟨x, y, hx, -, heq⟩ := Text.utf8Scalars_cons_eq_some.mp h
        have hnil : x = [] := (List.append_eq_nil_iff.mp heq.symm).1
        exact absurd hnil (Text.le_of_mem_utf8Character hfirst hx).1
  | cons b bytes ih =>
    have hb : b.toNat < 0x80 := hascii b List.mem_cons_self
    rw [← UInt8.ofNat_toNat (x := b)] at h
    obtain ⟨rest, rfl, hrest⟩ := Text.exists_of_utf8_eq_cons hb h
    rw [List.map_cons, ih hrest fun b' hb' ↦ hascii b' (List.mem_cons_of_mem _ hb')]

/-- An ASCII text is what its bytes say. -/
theorem map_asciiBytes {value : Text} (h : ∀ c ∈ value, c < 0x80) :
    value.asciiBytes.map UInt8.toNat = value := by
  rw [Text.asciiBytes, List.map_map]
  calc value.map (UInt8.toNat ∘ UInt8.ofNat) = value.map id := by
        apply List.map_congr_left
        intro c hc
        have hlt := h c hc
        rw [Function.comp_apply, UInt8.toNat_ofNat', id]
        omega
    _ = value := List.map_id value

theorem characters_of_provisionable {value : Text}
    (h : validateProvisionableDeviceId value = true) :
    (∀ c ∈ value, deviceIdCharacter c = true) ∧ value.length ≤ 63 := by
  rw [validateProvisionableDeviceId, validateDeviceId, Bool.and_eq_true, Bool.and_eq_true] at h
  exact characters_of_validateDeviceIdSyntax h.1.1

/-- No level of a topic is split by the identity of a device. -/
theorem slash_not_mem_of_provisionable {value : Text}
    (h : validateProvisionableDeviceId value = true) : 0x2F ∉ value := by
  intro hslash
  have hcharacter := (characters_of_provisionable h).1 _ hslash
  cases hcharacter

theorem lt_of_validateProvisionableDeviceId {value : Text}
    (h : validateProvisionableDeviceId value = true) : ∀ c ∈ value, c < 0x80 :=
  fun c hc ↦ lt_of_deviceIdCharacter ((characters_of_provisionable h).1 c hc)

/-- The bytes of an identity that the backend accepts. -/
theorem utf8_of_validateProvisionableDeviceId {value : Text}
    (h : validateProvisionableDeviceId value = true) :
    value.utf8 = some value.asciiBytes ∧ validDeviceId value.asciiBytes = true := by
  have hascii := lt_of_validateProvisionableDeviceId h
  refine ⟨Text.utf8_eq_asciiBytes hascii, ?_⟩
  rw [validDeviceId_iff, map_asciiBytes hascii]
  exact h

theorem validDeviceId_iff_of_utf8 {value : Text} {bytes : List UInt8}
    (h : value.utf8 = some bytes) :
    validDeviceId bytes = true ↔ validateProvisionableDeviceId value = true := by
  constructor
  · intro hvalid
    have hprovisionable := validDeviceId_iff.mp hvalid
    have hascii := lt_of_validateProvisionableDeviceId hprovisionable
    rwa [eq_map_of_utf8 h fun b hb ↦ hascii _ (List.mem_map_of_mem hb)]
  · intro hprovisionable
    obtain ⟨hbytes, hvalid⟩ := utf8_of_validateProvisionableDeviceId hprovisionable
    rw [h] at hbytes
    rwa [Option.some.inj hbytes]

/-! ### What the host tool issues -/

/-- The check of the host tool is the one of the backend. -/
theorem provisionable_of_checkDeviceId {value issued : Text} (h : checkDeviceId value = .ok issued) :
    issued = value ∧ validateProvisionableDeviceId value = true := by
  rw [checkDeviceId] at h
  split at h
  · cases h
  · split at h
    · cases h
    · split at h
      · cases h
      · next hsyntax hreserved hlegacy =>
        cases h
        refine ⟨rfl, ?_⟩
        simpa [validateProvisionableDeviceId, validateDeviceId, hreserved, hlegacy] using hsyntax

/-- A client id that fits its buffer and that the firmware accepts beside the user name,
`device_config.c:177–184`. -/
def ClientIdFits (clientId username : List UInt8) : Prop :=
  clientId ≠ [] ∧ clientId.length ≤ 127 ∧ clientId ≠ username ∧ 0 ∉ clientId ∧
    0x2F ∉ clientId ∧ 0x2B ∉ clientId ∧ 0x23 ∉ clientId

theorem clientIdFits_of_provisionable {value : Text}
    (h : validateProvisionableDeviceId value = true) :
    ClientIdFits (Text.asciiBytes (Text.ofString "iem-") ++ value.asciiBytes)
      value.asciiBytes := by
  obtain ⟨hcharacters, hlength⟩ := characters_of_provisionable h
  have hlabel : (Text.asciiBytes (Text.ofString "iem-")).length = 4 := by decide +kernel
  have hstart : ∀ b ∈ Text.asciiBytes (Text.ofString "iem-"),
      deviceIdCharacter b.toNat = true := by decide +kernel
  have hbytes : value.asciiBytes.length = value.length := List.length_map _
  have hall : ∀ b ∈ Text.asciiBytes (Text.ofString "iem-") ++ value.asciiBytes,
      deviceIdCharacter b.toNat = true := by
    intro b hb
    rcases List.mem_append.mp hb with hb | hb
    · exact hstart b hb
    · have hmem : b.toNat ∈ value := by
        rw [← map_asciiBytes (lt_of_validateProvisionableDeviceId h)]
        exact List.mem_map_of_mem hb
      exact hcharacters _ hmem
  have hnot (b : UInt8) (hb : deviceIdCharacter b.toNat = false) :
      b ∉ Text.asciiBytes (Text.ofString "iem-") ++ value.asciiBytes := by
    intro hmem
    rw [hall b hmem] at hb
    cases hb
  refine ⟨?_, ?_, ?_, hnot 0 (by decide), hnot 0x2F (by decide), hnot 0x2B (by decide),
    hnot 0x23 (by decide)⟩
  · intro hnil
    have hzero := congrArg List.length hnil
    rw [List.length_append, List.length_nil] at hzero
    omega
  · rw [List.length_append]
    omega
  · intro hsame
    have hcount := congrArg List.length hsame
    rw [List.length_append] at hcount
    omega

/-- The firmware and the backend accept the same identities. What is configured on a device is
the text of an identity that may publish, and the host tool issues identities and client ids that
can be configured. -/
theorem device_identities_agree :
    (∀ (value : Text) (bytes : List UInt8), 0 ∉ value → value.utf8 = some bytes →
      (validDeviceId bytes = true ↔ validateProvisionableDeviceId value = true)) ∧
    (∀ (platform : Platform) (c : DeviceConfig), validate platform c = .ok →
      ∃ value : Text, value.utf8 = some c.deviceId.toCString ∧
        validateProvisionableDeviceId value = true) ∧
    (∀ value issued clientId, checkDeviceId value = .ok issued →
      mqttClientId value = .ok clientId → issued = value ∧
        ∃ bytes clientBytes, issued.utf8 = some bytes ∧ validDeviceId bytes = true ∧
          clientId.utf8 = some clientBytes ∧ ClientIdFits clientBytes bytes) := by
  refine ⟨fun _ _ _ ↦ validDeviceId_iff_of_utf8, ?_, ?_⟩
  · intro platform c h
    have hvalid := (valid_of_validate h).deviceId
    have hprovisionable := validDeviceId_iff.mp hvalid
    have hascii := lt_of_validateProvisionableDeviceId hprovisionable
    refine ⟨c.deviceId.toCString.map UInt8.toNat, ?_, hprovisionable⟩
    rw [Text.utf8_eq_asciiBytes hascii, Text.asciiBytes, List.map_map]
    have hsame : UInt8.ofNat ∘ UInt8.toNat = id := funext fun b ↦ UInt8.ofNat_toNat
    rw [hsame, List.map_id]
  · intro value issued clientId hissued hclient
    obtain ⟨rfl, hprovisionable⟩ := provisionable_of_checkDeviceId hissued
    obtain ⟨hbytes, hvalid⟩ := utf8_of_validateProvisionableDeviceId hprovisionable
    rw [mqttClientId, hissued] at hclient
    obtain rfl := Except.ok.inj hclient
    refine ⟨rfl, _, _, hbytes, hvalid, ?_, clientIdFits_of_provisionable hprovisionable⟩
    rw [Text.utf8_append_eq_some (by decide +kernel)]
    exact ⟨_, hbytes, rfl⟩

end EdgeMonitor.Scripts
