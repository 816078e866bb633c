import EdgeMonitor.Firmware.CandidateRequest

/-!
# Replaced passwords in stored candidates

Library `Firmware`. Two running configurations that differ in their passwords only lead to
the same stored candidate for a request that replaces both, exactly when their password
arrays agree behind the ends of the new passwords.
-/

namespace EdgeMonitor.Firmware
open EdgeMonitor.Base
open DeviceConfig (ascii)
open CJson

/-! ### Strings copied into an array -/

namespace CharArray

variable {n : Nat} {text : List UInt8}

/-- A copied string is read back. -/
theorem toCString_snprintf (array : CharArray n) (h : text.length < n) (hnul : 0 ∉ text) :
    (array.snprintf text).toCString = text := by
  rw [toCString, toList_snprintf array h, List.append_assoc,
    List.takeWhile_append_of_pos]
  · simp
  · intro b hb
    rw [decide_eq_true_eq]
    rintro rfl
    exact hnul hb

/-- A copied string is terminated. -/
theorem terminated_snprintf (array : CharArray n) (h : text.length < n) :
    DeviceConfig.terminated (array.snprintf text) = true := by
  rw [DeviceConfig.terminated, toList_snprintf array h]
  simp

/-- Copying leaves a difference exactly where the arrays differ behind the string. -/
theorem snprintf_inj (array array' : CharArray n) (h : text.length < n) :
    array.snprintf text = array'.snprintf text ↔
      array.toList.drop (text.length + 1) = array'.toList.drop (text.length + 1) := by
  rw [← Vector.toList_inj, toList_snprintf array h, toList_snprintf array' h]
  exact List.append_right_inj _

/-- The first byte after copying. -/
theorem snprintf_zero (array : CharArray (n + 1)) (h : text.length < n + 1) :
    (array.snprintf text)[0] = (text ++ [0]).headD 0 := by
  have hlist := toList_snprintf array h
  have hzero : (array.snprintf text)[0] = (array.snprintf text).toList.headD 0 := by
    rw [List.headD_eq_head?_getD, List.head?_eq_getElem?, Vector.getElem?_toList,
      Vector.getElem?_eq_getElem (by omega), Option.getD_some]
  rw [hzero, hlist]
  cases text <;> rfl

end CharArray

/-! ### Passwords in a request -/

/-- The configuration with other passwords. -/
def DeviceConfig.withPasswords (c : DeviceConfig) (wifi : CharArray 64) (mqtt : CharArray 128) :
    DeviceConfig :=
  { c with wifiPassword := wifi, mqttPassword := mqtt }

/-- A request supplies both passwords. -/
structure Supplies (root : Option CJson) (wifi mqtt : CString) : Prop where
  wifi_eq : item root "wifi_password" = some (.string wifi)
  mqtt_eq : item (fieldSource root (item root "mqtt"))
    (fieldName (item root "mqtt") "password" "mqtt_password") = some (.string mqtt)

/-- A supplied string is copied if it is neither empty nor too long. -/
theorem copyJsonString_supplied {n : Nat} {object : Option CJson} {name : String}
    {text : CString} (h : item object name = some (.string text)) (target : CharArray n)
    (required : Bool) : copyJsonString object name target required =
      if text.val ≠ [] ∧ text.val.length < n then some (target.snprintf text.val) else none := by
  rw [copyJsonString, h]
  simp only [Option.isNone_some, Bool.false_and, Bool.false_eq_true, if_false, text?]
  by_cases hempty : text.val = [] <;> simp [hempty]

/-- The strings of a request with both passwords: the arrays take the passwords, and the
rest does not depend on what they held. -/
theorem parseStrings_withPasswords {root : Option CJson} {wifi mqtt : CString}
    (h : Supplies root wifi mqtt) (hasActive : Bool) (c : DeviceConfig) (w w' : CharArray 64)
    (m m' : CharArray 128) : parseStrings hasActive root (c.withPasswords w m) =
      (parseStrings hasActive root (c.withPasswords w' m')).map
        (·.withPasswords (w.snprintf wifi.val) (m.snprintf mqtt.val)) := by
  simp only [parseStrings, copyJsonString_supplied h.wifi_eq, copyJsonString_supplied h.mqtt_eq,
    DeviceConfig.withPasswords, bind, pure, Option.map_bind, Function.comp_def]
  by_cases hwifi : wifi.val ≠ [] ∧ wifi.val.length < 64
  · by_cases hmqtt : mqtt.val ≠ [] ∧ mqtt.val.length < 128
    · simp only [if_pos hwifi, if_pos hmqtt, Option.bind_some, Option.map_some]
    · simp only [if_pos hwifi, if_neg hmqtt, Option.bind_some, Option.bind_none]
  · simp only [if_neg hwifi, Option.bind_none]

/-- A request whose strings are accepted has passwords that fit. -/
theorem fits_of_parseStrings {root : Option CJson} {wifi mqtt : CString}
    (h : Supplies root wifi mqtt) {hasActive : Bool} {c c' : DeviceConfig}
    (hparsed : parseStrings hasActive root c = some c') :
    wifi.val.length < 64 ∧ mqtt.val.length < 128 := by
  simp only [parseStrings, copyJsonString_supplied h.wifi_eq, copyJsonString_supplied h.mqtt_eq,
    bind, Option.bind_eq_some_iff, Option.ite_none_right_eq_some] at hparsed
  obtain ⟨-, -, -, -, -, ⟨hwifi, -⟩, -, -, -, -, -, ⟨hmqtt, -⟩, -⟩ := hparsed
  exact ⟨hwifi.2, hmqtt.2⟩

/-- The maintenance fields do not depend on the passwords. -/
theorem parseMaintenance_withPasswords (root : Option CJson) (c : DeviceConfig)
    (w : CharArray 64) (m : CharArray 128) :
    parseMaintenance root (c.withPasswords w m) =
      (parseMaintenance root c).map (·.withPasswords w m) := by
  simp only [parseMaintenance, DeviceConfig.withPasswords, bind, Except.bind, pure, Except.pure]
  repeat' split
  all_goals trivial

/-- Nor do the machine status fields. -/
theorem parseMachineStatus_withPasswords (root : Option CJson) (c : DeviceConfig)
    (w : CharArray 64) (m : CharArray 128) :
    parseMachineStatus root (c.withPasswords w m) =
      (parseMachineStatus root c).map (·.withPasswords w m) := by
  simp only [parseMachineStatus, DeviceConfig.withPasswords, bind, Except.bind, pure, Except.pure]
  repeat' split
  all_goals trivial

theorem readRequest_withPasswords {root : Option CJson} {wifi mqtt : CString}
    (h : Supplies root wifi mqtt) (c : DeviceConfig) (w w' : CharArray 64)
    (m m' : CharArray 128) : readRequest (some (c.withPasswords w m)) root =
      (readRequest (some (c.withPasswords w' m')) root).map
        (·.withPasswords (w.snprintf wifi.val) (m.snprintf mqtt.val)) := by
  simp only [readRequest, bind, Except.bind]
  cases require "schema_version is missing or unsupported"
    ((jsonUint root "schema_version" 0 true).filter (· == Firmware.schemaVersion)) with
  | error message => rfl
  | ok schemaVersion =>
    have hbase (w : CharArray 64) (m : CharArray 128) :
        { baseConfiguration (some (c.withPasswords w m)) with schemaVersion } =
          { c with schemaVersion, revision := c.revision + 1 }.withPasswords w m := rfl
    simp only [hbase, Option.isSome_some,
      parseStrings_withPasswords h true { c with schemaVersion, revision := c.revision + 1 }
        w w' m m']
    generalize parseStrings true root
      ({ c with schemaVersion, revision := c.revision + 1 }.withPasswords w' m') = strings
    cases strings with
    | none => rfl
    | some strings =>
      simp only [Option.map_some, require, parseMaintenance_withPasswords]
      cases parseMaintenance root strings with
      | error message => rfl
      | ok maintained => exact parseMachineStatus_withPasswords root maintained _ _

/-- Validation sees the passwords as C strings. -/
theorem validationMessage_withPasswords (platform : Platform) (c : DeviceConfig)
    {wifi mqtt : CString} (hwifi : wifi.val.length < 64) (hmqtt : mqtt.val.length < 128)
    (w w' : CharArray 64) (m m' : CharArray 128) :
    (c.withPasswords (w.snprintf wifi.val) (m.snprintf mqtt.val)).validationMessage platform =
      (c.withPasswords (w'.snprintf wifi.val) (m'.snprintf mqtt.val)).validationMessage
        platform := by
  have hw (array : CharArray 64) : (array.snprintf wifi.val).toCString = wifi.val :=
    CharArray.toCString_snprintf array hwifi wifi.property
  have hterminated (array : CharArray 128) :
      DeviceConfig.terminated (array.snprintf mqtt.val) = true :=
    CharArray.terminated_snprintf array hmqtt
  have hzero (array : CharArray 128) : (array.snprintf mqtt.val)[0] =
      (mqtt.val ++ [0]).headD 0 := CharArray.snprintf_zero array hmqtt
  simp only [DeviceConfig.validationMessage, DeviceConfig.withPasswords, hw, hterminated, hzero]
  rfl

/-- An accepted request has passwords that fit. -/
theorem fits_of_readRequest {root : Option CJson} {wifi mqtt : CString}
    (h : Supplies root wifi mqtt) {current : Option DeviceConfig} {c : DeviceConfig}
    (hread : readRequest current root = .ok c) :
    wifi.val.length < 64 ∧ mqtt.val.length < 128 := by
  simp only [readRequest, bind, Except.bind] at hread
  split at hread
  next => cases hread
  next schemaVersion hschema =>
    cases hstrings : parseStrings current.isSome root
        { baseConfiguration current with schemaVersion } with
    | none => simp [hstrings, require] at hread
    | some strings => exact fits_of_parseStrings h hstrings

theorem fits_of_parseConfiguration {platform : Platform} {root : Option CJson}
    {wifi mqtt : CString} (h : Supplies root wifi mqtt) {current : Option DeviceConfig}
    {c : DeviceConfig} (hparsed : parseConfiguration platform current root = .ok c) :
    wifi.val.length < 64 ∧ mqtt.val.length < 128 := by
  simp only [parseConfiguration, bind, Except.bind] at hparsed
  split at hparsed
  next => cases hparsed
  next candidate hread => exact fits_of_readRequest h hread

/-- What a request becomes depends on the old passwords behind the new ones only. -/
theorem parseConfiguration_withPasswords (platform : Platform) {root : Option CJson}
    {wifi mqtt : CString} (h : Supplies root wifi mqtt) (c : DeviceConfig)
    (w w' : CharArray 64) (m m' : CharArray 128) :
    parseConfiguration platform (some (c.withPasswords w m)) root =
      (parseConfiguration platform (some (c.withPasswords w' m')) root).map
        (·.withPasswords (w.snprintf wifi.val) (m.snprintf mqtt.val)) := by
  have hself := readRequest_withPasswords h c w' w' m' m'
  simp only [parseConfiguration, bind, Except.bind, readRequest_withPasswords h c w w' m m']
  cases hread : readRequest (some (c.withPasswords w' m')) root with
  | error message => rfl
  | ok candidate =>
    obtain ⟨hwifi, hmqtt⟩ := fits_of_readRequest h hread
    rw [hread, Except.map, Except.ok.injEq] at hself
    have hmessage : (candidate.withPasswords (w.snprintf wifi.val)
        (m.snprintf mqtt.val)).validationMessage platform =
          candidate.validationMessage platform := by
      rw [validationMessage_withPasswords platform candidate hwifi hmqtt w w' m m', ← hself]
    simp only [Except.map, hmessage]
    cases candidate.validationMessage platform <;> rfl

/-- The blob that a write stores under a key. -/
def NvsWrite.blobOf (key : Key) : NvsWrite → Option (List UInt8)
  | setBlob key' blob => if key' = key then some blob else none
  | _ => none

/-- The candidate blobs that `candidate_put_handler` commits for a request. -/
def candidateBlobs (platform : Platform) (current : Option DeviceConfig) (root : Option CJson)
    (s : Store) (faults : List (Fault Failure)) : List (List UInt8) :=
  match parseConfiguration platform current root with
  | .error _ => []
  | .ok candidate =>
    ((configStore platform).step s (.call (.stage candidate) faults)).2.writes.filterMap
      (NvsWrite.blobOf .candidate)

/-- In an erased store without faults, an accepted request commits its candidate. -/
theorem candidateBlobs_erased {platform : Platform} {current : Option DeviceConfig}
    {root : Option CJson} {candidate : DeviceConfig}
    (h : parseConfiguration platform current root = .ok candidate) :
    candidateBlobs platform current root ⟨.erased, .clear⟩ [] =
      [ConfigStorage.configurationBlob candidate] := by
  have hvalid := validate_of_parseConfiguration h
  rw [candidateBlobs, h]
  simp only [call_of_applied platform (.stage candidate) _ [] (by simp), Store.after,
    Operation.plan, hvalid, storedMetadata_erased]
  rfl

/-- The arrays of a configuration are part of its blob. -/
theorem passwords_of_configurationBlob {c c' : DeviceConfig}
    (h : ConfigStorage.configurationBlob c = ConfigStorage.configurationBlob c') :
    c.wifiPassword = c'.wifiPassword ∧ c.mqttPassword = c'.mqttPassword := by
  have hfields := ConfigStorage.configurationLayout.encode_injective
    ((List.append_right_inj _).mp h)
  simp only [ConfigStorage.DeviceConfig.toFields, Prod.mk.injEq] at hfields
  obtain ⟨-, -, -, -, hwifi, -, -, -, hmqtt, -⟩ := hfields
  exact ⟨hwifi, hmqtt⟩

/-- An activation writes the stored candidate to the active slot. -/
theorem activated_blob {platform : Platform} {s : Store} {verified : DeviceConfig}
    {faults : List (Fault Failure)} {blob : List UInt8}
    (h : .setBlob .active blob ∈
      ((configStore platform).step s (.call (.activate verified) faults)).2.writes) :
    s.flash.candidate = some blob := by
  have hactive {candidate : DeviceConfig} {m : DeviceConfigMetadata}
      (hactivates : Activates platform s verified candidate m) {writes : List NvsWrite}
      (hmem : .setBlob .active blob ∈ NvsWrite.configuration .active candidate :: writes)
      (hothers : .setBlob .active blob ∉ writes) : s.flash.candidate = some blob := by
    rw [List.mem_cons, NvsWrite.configuration, NvsWrite.setBlob.injEq] at hmem
    rw [(hmem.resolve_right hothers).2]
    exact ((storedConfiguration_eq_some_iff _ .candidate _ _).mp hactivates.stored).1
  change _ ∈ (((Operation.activate verified).program platform).run NvsWrite.apply s.flash s.ram
    faults).writes at h
  rcases activate_cases (reached_call platform (.activate verified) s faults) with
    ⟨hnone, -⟩ | ⟨candidate, m, hactivates, ⟨hone, -⟩ | ⟨htwo, -⟩ | hthree⟩
  · rw [hnone] at h
    cases h
  · exact hactive hactivates (hone ▸ h) (by simp)
  · exact hactive hactivates (htwo ▸ h) (by simp [NvsWrite.metadata])
  · exact hactive hactivates (hthree ▸ h) (by simp [NvsWrite.metadata])

/-- The candidates of two configurations that differ in their passwords, for an accepted
request that replaces both, are equal when the arrays agree behind the new passwords. -/
theorem replaced_eq_iff {wifi mqtt : CString} (hwifi : wifi.val.length < 64)
    (hmqtt : mqtt.val.length < 128) (c : DeviceConfig) (w w' : CharArray 64)
    (m m' : CharArray 128) :
    ConfigStorage.configurationBlob
        (c.withPasswords (w.snprintf wifi.val) (m.snprintf mqtt.val)) =
      ConfigStorage.configurationBlob
        (c.withPasswords (w'.snprintf wifi.val) (m'.snprintf mqtt.val)) ↔
    w.toList.drop (wifi.val.length + 1) = w'.toList.drop (wifi.val.length + 1) ∧
      m.toList.drop (mqtt.val.length + 1) = m'.toList.drop (mqtt.val.length + 1) := by
  rw [← CharArray.snprintf_inj w w' hwifi, ← CharArray.snprintf_inj m m' hmqtt]
  constructor
  · exact passwords_of_configurationBlob
  · rintro ⟨hw, hm⟩
    rw [hw, hm]

/-- The candidate blobs are equal in every store and under all faults exactly when the
request is refused or the old arrays agree behind the new passwords. -/
theorem candidateBlobs_eq_iff (platform : Platform) (c : DeviceConfig) (w w' : CharArray 64)
    (m m' : CharArray 128) {root : Option CJson} {wifi mqtt : CString}
    (h : Supplies root wifi mqtt) :
    (∀ s faults, candidateBlobs platform (some (c.withPasswords w m)) root s faults =
        candidateBlobs platform (some (c.withPasswords w' m')) root s faults) ↔
      (∃ message, parseConfiguration platform (some (c.withPasswords w m)) root =
        .error message) ∨
      w.toList.drop (wifi.val.length + 1) = w'.toList.drop (wifi.val.length + 1) ∧
        m.toList.drop (mqtt.val.length + 1) = m'.toList.drop (mqtt.val.length + 1) := by
  have hparse := parseConfiguration_withPasswords platform h c w w' m m'
  cases hother : parseConfiguration platform (some (c.withPasswords w' m')) root with
  | error message =>
    rw [hother, Except.map] at hparse
    exact iff_of_true (fun s faults ↦ by rw [candidateBlobs, candidateBlobs, hparse, hother])
      (.inl ⟨message, hparse⟩)
  | ok candidate =>
    have hself := parseConfiguration_withPasswords platform h c w' w' m' m'
    rw [hother, Except.map] at hparse hself
    rw [Except.ok.injEq] at hself
    obtain ⟨hwifi, hmqtt⟩ := fits_of_parseConfiguration h hother
    have hblobs := replaced_eq_iff hwifi hmqtt candidate w w' m m'
    rw [← hself] at hblobs
    constructor
    · intro heq
      have herased := heq ⟨.erased, .clear⟩ []
      rw [candidateBlobs_erased hparse, candidateBlobs_erased hother,
        List.singleton_inj] at herased
      exact .inr (hblobs.mp herased)
    · rintro (⟨message, hrefused⟩ | ⟨hw, hm⟩) s faults
      · rw [hparse] at hrefused
        cases hrefused
      · rw [(CharArray.snprintf_inj w w' hwifi).mpr hw, (CharArray.snprintf_inj m m' hmqtt).mpr hm,
          ← hself] at hparse
        rw [candidateBlobs, candidateBlobs, hparse, hother]

/-- Two running configurations that differ in their passwords lead to the same candidate
blobs for a request that replaces both exactly when the request is refused or the old arrays
agree behind the new passwords. An activation stores the bytes of the candidate. -/
theorem replaced_passwords_stored (platform : Platform) (c : DeviceConfig) (w w' : CharArray 64)
    (m m' : CharArray 128) (root : Option CJson) (wifi mqtt : CString)
    (h : Supplies root wifi mqtt) :
    ((∀ s faults, candidateBlobs platform (some (c.withPasswords w m)) root s faults =
        candidateBlobs platform (some (c.withPasswords w' m')) root s faults) ↔
      (∃ message, parseConfiguration platform (some (c.withPasswords w m)) root =
        .error message) ∨
      w.toList.drop (wifi.val.length + 1) = w'.toList.drop (wifi.val.length + 1) ∧
        m.toList.drop (mqtt.val.length + 1) = m'.toList.drop (mqtt.val.length + 1)) ∧
    ∀ s verified faults blob, .setBlob .active blob ∈
        ((configStore platform).step s (.call (.activate verified) faults)).2.writes →
      s.flash.candidate = some blob :=
  ⟨candidateBlobs_eq_iff platform c w w' m m' h, fun _ _ _ _ ↦ activated_blob⟩

/-- A request that repeats the sample configuration with shorter passwords. -/
def sampleRequest : Option CJson :=
  let text (s : String) (h : 0 ∉ ascii s) : CString := ⟨ascii s, h⟩
  some (.object [
    (text "schema_version" (by decide), .number 1),
    (text "device_id" (by decide), .string (text "press-07" (by decide))),
    (text "wifi_ssid" (by decide), .string (text "plant" (by decide))),
    (text "wifi_password" (by decide), .string (text "new-wifi" (by decide))),
    (text "mqtt_broker_uri" (by decide), .string (text "mqtts://broker.local:8883" (by decide))),
    (text "mqtt_username" (by decide), .string (text "press-07" (by decide))),
    (text "mqtt_password" (by decide), .string (text "new" (by decide))),
    (text "mqtt_client_id" (by decide), .string (text "press-07-client" (by decide))),
    (text "telemetry_interval_seconds" (by decide), .number 5),
    (text "maintenance_on_boot" (by decide), .bool false),
    (text "maintenance_window_seconds" (by decide), .number 600),
    (text "maintenance_max_session_seconds" (by decide), .number 1800),
    (text "machine_status_provider" (by decide), .string (text "disabled" (by decide)))])

theorem supplies_sampleRequest : Supplies sampleRequest ⟨ascii "new-wifi", by decide⟩
    ⟨ascii "new", by decide⟩ := ⟨rfl, rfl⟩

/-- The passwords of the sample configuration, and others of the same length. -/
theorem replaced_passwords_stored_sample :
    let c := DeviceConfig.sample 1
    let wifi := DeviceConfig.textArray 64 "wifi-password" (by decide)
    let wifi' := DeviceConfig.textArray 64 "WIFI-password" (by decide)
    let mqtt := DeviceConfig.textArray 128 "secret" (by decide)
    let mqtt' := DeviceConfig.textArray 128 "SECret" (by decide)
    ∀ s faults, candidateBlobs DeviceConfig.samplePlatform (some (c.withPasswords wifi mqtt))
        sampleRequest s faults =
      candidateBlobs DeviceConfig.samplePlatform (some (c.withPasswords wifi' mqtt'))
        sampleRequest s faults :=
  (replaced_passwords_stored _ _ _ _ _ _ sampleRequest _ _ supplies_sampleRequest).1.mpr
    (.inr (by decide +kernel))

/-- With a longer old password, its tail stays in the candidate. -/
theorem replaced_passwords_stored_fails : ¬ ∀ (platform : Platform) (c : DeviceConfig)
    (w w' : CharArray 64) (m m' : CharArray 128) (root : Option CJson) (wifi mqtt : CString),
    Supplies root wifi mqtt → ∀ s faults,
      candidateBlobs platform (some (c.withPasswords w m)) root s faults =
        candidateBlobs platform (some (c.withPasswords w' m')) root s faults := by
  intro h
  have hequal := (candidateBlobs_eq_iff DeviceConfig.samplePlatform (.sample 1)
    (DeviceConfig.textArray 64 "wifi-password" (by decide))
    (DeviceConfig.textArray 64 "wifi-passphrase" (by decide))
    (DeviceConfig.textArray 128 "secret" (by decide))
    (DeviceConfig.textArray 128 "secret" (by decide)) supplies_sampleRequest).mp
    (h _ _ _ _ _ _ _ _ _ supplies_sampleRequest)
  rcases hequal with ⟨message, hrefused⟩ | ⟨hwifi, -⟩
  · have haccepted : (parseConfiguration DeviceConfig.samplePlatform
        (some ((DeviceConfig.sample 1).withPasswords
          (DeviceConfig.textArray 64 "wifi-password" (by decide))
          (DeviceConfig.textArray 128 "secret" (by decide)))) sampleRequest).isOk = true := by
      decide +kernel
    rw [hrefused] at haccepted
    cases haccepted
  · revert hwifi
    decide +kernel

end EdgeMonitor.Firmware
