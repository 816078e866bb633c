import EdgeMonitor.Firmware.ReplacedSecrets
import EdgeMonitor.Firmware.SessionTokens

/-!
# Configuration and status responses

Library `Firmware`. The JSON bodies of `config_handler` and `status_handler`,
`firmware/components/provisioning_service/provisioning_service.c:481–572`, and what the page
makes of the first one: it deletes three members, shows the rest to the operator and sends it
back to `parse_configuration`.
-/

namespace EdgeMonitor.Firmware
open EdgeMonitor.Base
open DeviceConfig (ascii terminated)
open CJson

/-! ### Building objects -/

theorem zero_notMem_takeWhile (s : List UInt8) : 0 ∉ s.takeWhile (· ≠ 0) := by
  intro h
  have hne := List.mem_takeWhile_imp h
  simp at hne

/-- The C string at the beginning of some memory. -/
def cString (memory : List UInt8) : CString :=
  ⟨memory.takeWhile (· ≠ 0), zero_notMem_takeWhile memory⟩

/-- The `double` that an integer is converted to, ties to even. -/
def double (n : Int) : ℚ :=
  let magnitude := n.natAbs
  if magnitude < 2 ^ 53 then n
  else
    let shift := magnitude.log2 - 52
    let quotient := magnitude / 2 ^ shift
    let rest := magnitude % 2 ^ shift
    let up := 2 ^ (shift - 1) < rest ∨ (rest = 2 ^ (shift - 1) ∧ quotient % 2 = 1)
    n.sign * ((if up then quotient + 1 else quotient) * 2 ^ shift : Nat)

namespace CJson

/-- An object that `cJSON_AddStringToObject` and its like have filled in this order. -/
def objectOf (members : List (String × CJson)) : CJson :=
  .object (members.map fun m ↦ (cString (ascii m.1), m.2))

/-- `cJSON_AddNumberToObject`. -/
def integer (n : Int) : CJson := .number (double n)

/-- `cJSON_AddStringToObject` of a string literal. -/
def literal (s : String) : CJson := .string (cString (ascii s))

/-- `cJSON_AddStringToObject` of a string in memory. -/
def text (s : List UInt8) : CJson := .string (cString s)

end CJson

/-! ### The handlers' bodies -/

/-- The members that `config_handler` adds, `provisioning_service.c:545–567`. -/
def configurationMembers (r : DeviceConfigRedacted) : List (String × CJson) :=
  [("schema_version", integer r.schemaVersion.toNat),
    ("revision", integer r.revision.toNat),
    ("device_id", text r.deviceId),
    ("wifi_ssid", text r.wifiSsid),
    ("wifi_password_configured", .bool r.wifiPasswordConfigured),
    ("mqtt_broker_uri", text r.mqttBrokerUri),
    ("mqtt_username", text r.mqttUsername),
    ("mqtt_password_configured", .bool r.mqttPasswordConfigured),
    ("mqtt_client_id", text r.mqttClientId),
    ("mqtt_ca_certificate_configured", .bool r.mqttCaCertificateConfigured),
    ("telemetry_interval_seconds", integer r.telemetryIntervalSeconds.toNat),
    ("machine_status_provider",
      literal (if r.machineStatusProvider = MachineProvider.gpio then "gpio" else "disabled")),
    ("machine_status_gpio", integer r.machineStatusGpio.toInt),
    ("machine_status_active_level", literal (if r.machineStatusActiveHigh then "high" else "low")),
    ("machine_status_pull",
      literal (if r.machineStatusPull = Pull.up then "up"
        else if r.machineStatusPull = Pull.down then "down" else "none")),
    ("maintenance_on_boot", .bool r.maintenanceOnBoot),
    ("maintenance_window_seconds", integer r.maintenanceWindowSeconds.toNat),
    ("maintenance_max_session_seconds", integer r.maintenanceMaxSessionSeconds.toNat)]

/-- The members of the body of `config_handler`. -/
def configurationBody : Option DeviceConfigRedacted → List (String × CJson)
  | none => [("state", literal "unprovisioned")]
  | some r => configurationMembers r

/-- `configuration_state_name`. -/
def configurationStateName (state : ConfigState) : String :=
  if state = ConfigState.active then "active"
  else if state = ConfigState.pending then "pending"
  else if state = ConfigState.rollback then "rollback"
  else "none"

/-- The members of the body of `status_handler`, `provisioning_service.c:502–530`. -/
def statusBody (deviceId wifiSsid : List UInt8) (metadata : DeviceConfigMetadata)
    (s : DeviceStatus) : List (String × CJson) :=
  [("device_id", text deviceId),
    ("firmware_version", .string s.firmwareVersion),
    ("uptime_seconds", integer s.uptimeSeconds),
    ("reset_reason", integer s.resetReason),
    ("free_heap_bytes", integer s.freeHeapBytes),
    ("minimum_free_heap_bytes", integer s.minimumFreeHeapBytes),
    ("configuration_state", literal (configurationStateName metadata.state)),
    ("candidate_revision", integer metadata.candidateRevision.toNat),
    ("boot_attempts", integer metadata.bootAttempts.toNat),
    ("boot_count", integer metadata.bootCount.toNat),
    ("station_ip", .string s.stationIp),
    ("wifi_ssid", text wifiSsid),
    ("wifi_rssi_dbm", match s.wifiRssiDbm with
      | some rssi => integer rssi
      | none => .null),
    ("sntp_synchronized", .bool s.sntpSynchronized),
    ("mqtt_tls_connected", .bool s.mqttTlsConnected),
    ("mqtt_last_error", .string s.mqttLastError),
    ("sensor_status", .string s.sensorStatus),
    ("machine_status", .string s.machineStatus),
    ("device_health", .string s.deviceHealth),
    ("telemetry_counters", objectOf
      [("samples_ok", integer s.samplesOk.toNat),
        ("samples_rejected", integer s.samplesRejected.toNat),
        ("publish_ok", integer s.publishOk.toNat),
        ("publish_failed", integer s.publishFailed.toNat)]),
    ("last_rollback_reason", text metadata.lastRollbackReason.toCString)]

/-- The JSON body of an error, a configuration or a status. -/
def HttpResponse.body : HttpResponse → Option CJson
  | error _ message => some (objectOf [("ok", .bool false), ("error", literal message)])
  | configuration c => some (objectOf (configurationBody c))
  | status deviceId wifiSsid metadata s => some (objectOf (statusBody deviceId wifiSsid metadata s))
  | _ => none

/-! ### The page -/

/-- The members that `loadCurrent` of the page deletes, `provisioning_service.c:75`. -/
def configuredFlags : List (List UInt8) :=
  [ascii "wifi_password_configured", ascii "mqtt_password_configured",
    ascii "mqtt_ca_certificate_configured"]

/-- The configuration that the page shows and, unless the operator edits it, saves. -/
def loadCurrent : CJson → CJson
  | .object items => .object (items.filter fun entry ↦ entry.1.val ∉ configuredFlags)
  | other => other

/-- The request that saves the running configuration as it was read. -/
def savedConfiguration (c : DeviceConfig) : Option CJson :=
  some (loadCurrent (objectOf (configurationBody (some c.redacted))))

/-- The members of this request. -/
def savedMembers (r : DeviceConfigRedacted) : List (String × CJson) :=
  (configurationMembers r).filter fun m ↦ (cString (ascii m.1)).val ∉ configuredFlags

/-- The names in a request that saves. -/
def savedNames : List String :=
  ["schema_version", "revision", "device_id", "wifi_ssid", "mqtt_broker_uri", "mqtt_username",
    "mqtt_client_id", "telemetry_interval_seconds", "machine_status_provider",
    "machine_status_gpio", "machine_status_active_level", "machine_status_pull",
    "maintenance_on_boot", "maintenance_window_seconds", "maintenance_max_session_seconds"]

theorem savedConfiguration_eq (c : DeviceConfig) :
    savedConfiguration c = some (objectOf (savedMembers c.redacted)) := by
  rw [savedConfiguration, objectOf, loadCurrent, List.filter_map]
  rfl

theorem savedMembers_names (r : DeviceConfigRedacted) :
    (savedMembers r).map (·.1) = savedNames := by
  have hfilter : ((configurationMembers r).map (·.1)).filter
      (fun n ↦ (cString (ascii n)).val ∉ configuredFlags) = (savedMembers r).map (·.1) :=
    List.filter_map
  have hnames : (configurationMembers r).map (·.1) =
      ["schema_version", "revision", "device_id", "wifi_ssid", "wifi_password_configured",
        "mqtt_broker_uri", "mqtt_username", "mqtt_password_configured", "mqtt_client_id",
        "mqtt_ca_certificate_configured", "telemetry_interval_seconds", "machine_status_provider",
        "machine_status_gpio", "machine_status_active_level", "machine_status_pull",
        "maintenance_on_boot", "maintenance_window_seconds", "maintenance_max_session_seconds"] :=
    rfl
  rw [← hfilter, hnames]
  decide +kernel

/-- A member of an object is found under its name, when names differ. -/
theorem item_objectOf {members : List (String × CJson)} {name : String} {value : CJson}
    (hnodup : ((members.map (·.1)).map fun n ↦ (cString (ascii n)).val).Nodup)
    (hname : (cString (ascii name)).val = ascii name) (h : (name, value) ∈ members) :
    item (some (objectOf members)) name = some value := by
  induction members with
  | nil => cases h
  | cons m members ih =>
    rw [List.map_cons, List.map_cons, List.nodup_cons] at hnodup
    rw [objectOf, item, List.map_cons]
    cases List.mem_cons.mp h with
    | inl h =>
      subst h
      rw [List.find?_cons_of_pos (by simp [hname])]
      rfl
    | inr h =>
      have hne : ((cString (ascii m.1)).val == ascii name) = false := by
        apply beq_eq_false_iff_ne.mpr
        intro hsame
        apply hnodup.1
        rw [hsame, ← hname]
        exact List.mem_map_of_mem (List.mem_map_of_mem h)
      simp only [List.find?_cons, hne]
      exact ih hnodup.2 h

theorem item_objectOf_none {members : List (String × CJson)} {name : String}
    (h : ascii name ∉ (members.map (·.1)).map fun n ↦ (cString (ascii n)).val) :
    item (some (objectOf members)) name = none := by
  rw [objectOf, item, List.find?_eq_none.mpr]
  · rfl
  · intro entry hentry hsame
    obtain ⟨m, hm, rfl⟩ := List.mem_map.mp hentry
    apply h
    rw [← beq_iff_eq.mp hsame]
    exact List.mem_map_of_mem (List.mem_map_of_mem hm)

theorem savedNames_nodup : (savedNames.map fun n ↦ (cString (ascii n)).val).Nodup := by
  decide +kernel

/-- The names have no NUL, and none of them is one of the flags. -/
theorem savedNames_plain : ∀ n ∈ savedNames,
    (cString (ascii n)).val = ascii n ∧ (cString (ascii n)).val ∉ configuredFlags := by
  decide +kernel

/-- What a request that saves has under a name of its own, which `config_handler` adds at this
place. -/
theorem item_savedConfiguration {c : DeviceConfig} {name : String} {value : CJson} (i : Nat)
    (h : (configurationMembers c.redacted)[i]? = some (name, value)) (hname : name ∈ savedNames) :
    item (savedConfiguration c) name = some value := by
  obtain ⟨hplain, hflag⟩ := savedNames_plain name hname
  rw [savedConfiguration_eq]
  refine item_objectOf ?_ hplain ?_
  · rw [savedMembers_names]
    exact savedNames_nodup
  · exact List.mem_filter.mpr ⟨List.mem_of_getElem? h, decide_eq_true hflag⟩

/-- A request that saves has nothing under another name. -/
theorem item_savedConfiguration_none (c : DeviceConfig) {name : String}
    (h : ascii name ∉ savedNames.map fun n ↦ (cString (ascii n)).val) :
    item (savedConfiguration c) name = none := by
  rw [savedConfiguration_eq]
  apply item_objectOf_none
  rwa [savedMembers_names]

/-! ### Fields that are copied to themselves -/

/-- A terminated array whose string is not empty. -/
def HoldsText {n : Nat} (array : CharArray n) : Prop :=
  terminated array = true ∧ array.toCString ≠ []

theorem cString_toCString {n : Nat} (array : CharArray n) :
    (cString array.toCString).val = array.toCString := by
  rw [cString, CharArray.toCString]
  exact List.takeWhile_idem

theorem toList_of_terminated {n : Nat} {array : CharArray n} (h : terminated array = true) :
    array.toList = array.toCString ++ [0] ++ array.toList.drop (array.toCString.length + 1) := by
  rw [terminated, List.contains_iff_mem] at h
  obtain ⟨before, rest, hsplit, hbefore⟩ := List.eq_append_cons_of_mem h
  have htext : array.toCString = before := by
    rw [CharArray.toCString, hsplit, List.takeWhile_append_of_pos,
      List.takeWhile_cons_of_neg (by simp), List.append_nil]
    intro b hb
    exact decide_eq_true fun hzero ↦ hbefore (hzero ▸ hb)
  have hdrop : (before ++ 0 :: rest).drop (before.length + 1) = rest := by simp [List.drop_append]
  rw [htext, hsplit, hdrop, List.append_assoc]
  rfl

/-- Copying the string of an array to it changes nothing. -/
theorem snprintf_toCString {n : Nat} {array : CharArray n} (h : terminated array = true) :
    array.toCString.length < n ∧ array.snprintf array.toCString = array := by
  have hlist := toList_of_terminated h
  have hlength : array.toCString.length < n := by
    have hlength := congrArg List.length hlist
    simp only [Vector.length_toList, List.length_append, List.length_singleton] at hlength
    omega
  refine ⟨hlength, ?_⟩
  rw [← Vector.toList_inj, CharArray.toList_snprintf array hlength, ← hlist]

theorem copyJsonString_self {n : Nat} {object : Option CJson} {name : String} {array : CharArray n}
    (harray : HoldsText array) (h : item object name = some (text array.toCString))
    (required : Bool) : copyJsonString object name array required = some array := by
  obtain ⟨hlength, hself⟩ := snprintf_toCString harray.1
  rw [copyJsonString_supplied h, cString_toCString, if_pos ⟨harray.2, hlength⟩, hself]

theorem copyJsonString_missing {n : Nat} {object : Option CJson} {name : String}
    (h : item object name = none) (array : CharArray n) :
    copyJsonString object name array false = some array := by
  rw [copyJsonString, h]
  rfl

/-- Integers of 32 bits are doubles. -/
theorem double_of_lt {n : Int} (h : n.natAbs < 2 ^ 53) : double n = n := if_pos h

/-- `json_uint` takes an integer exactly if it is not negative and has 32 bits. -/
theorem jsonUint_integer {object : Option CJson} {name : String} {n : Int} (target : UInt32)
    (required : Bool) (h : item object name = some (integer n)) (hn : n.natAbs < 2 ^ 53) :
    jsonUint object name target required =
      if 0 ≤ n ∧ n ≤ 4294967295 then some (UInt32.ofNat n.toNat) else none := by
  have hcheck : ((n : ℚ) < 0 ∨ (n : ℚ) > 4294967295 ∨ (n : ℚ) ≠ (n : ℚ).floor) ↔
      ¬ (0 ≤ n ∧ n ≤ 4294967295) := by
    have hfloor : (n : ℚ) = (n : ℚ).floor := by simp
    have hlow : (n : ℚ) < 0 ↔ n < 0 := by exact_mod_cast Iff.rfl
    have hhigh : (n : ℚ) > 4294967295 ↔ n > 4294967295 := by exact_mod_cast Iff.rfl
    rw [hlow, hhigh]
    simp only [← hfloor, ne_eq, not_true_eq_false, or_false]
    omega
  rw [jsonUint, h]
  simp only [integer, double_of_lt hn, Option.isNone_some, Bool.false_and, Bool.false_eq_true,
    if_false, hcheck]
  by_cases hrange : 0 ≤ n ∧ n ≤ 4294967295
  · rw [if_pos hrange, if_neg (not_not.mpr hrange)]
    simp
  · rw [if_neg hrange, if_pos hrange]

theorem jsonUint_uint32 {object : Option CJson} {name : String} {n : UInt32} (target : UInt32)
    (required : Bool) (h : item object name = some (integer n.toNat)) :
    jsonUint object name target required = some n := by
  have hlt := n.toNat_lt
  rw [jsonUint_integer target required h (by omega), if_pos ⟨by omega, by omega⟩, Int.toNat_natCast,
    UInt32.ofNat_toNat]

/-! ### Saving what was read -/

/-- The strings that every request has to give, as an accepted configuration holds them. -/
structure GivenStrings (c : DeviceConfig) : Prop where
  deviceId : HoldsText c.deviceId
  wifiSsid : HoldsText c.wifiSsid
  mqttBrokerUri : HoldsText c.mqttBrokerUri
  mqttUsername : HoldsText c.mqttUsername
  mqttClientId : HoldsText c.mqttClientId

private theorem refusal_eq_none {p : Prop} [Decidable p] {message : String}
    {rest : Option String} :
    (if p then some message else rest) = none ↔ ¬ p ∧ rest = none := by
  by_cases h : p <;> simp [h]

theorem toCString_ne_nil {n : Nat} {array : CharArray (n + 1)} (h : array[0] ≠ 0) :
    array.toCString ≠ [] := by
  have hlist : array.toList = array[0] :: array.toList.tail := by
    cases hl : array.toList with
    | nil => simpa using congrArg List.length hl
    | cons b rest => simp [← Vector.getElem_toList, hl]
  rw [CharArray.toCString, hlist]
  simp [h]

theorem givenStrings_of_validate {platform : Platform} {c : DeviceConfig}
    (h : c.validate platform = .ok) : c.schemaVersion = schemaVersion ∧ GivenStrings c := by
  have hnone : c.validationMessage platform = none := by
    unfold DeviceConfig.validate at h
    split at h
    next => cases h
    next hs => simpa using hs
  unfold DeviceConfig.validationMessage at hnone
  simp only [refusal_eq_none, Bool.or_eq_true, not_or, Bool.not_eq_true', Bool.not_eq_false,
    beq_iff_eq, bne_iff_ne, ne_eq, not_not] at hnone
  obtain ⟨hschema, -, hdevice, hssid, -, huri, husername, -, hclient, -⟩ := hnone
  have hid : c.deviceId.toCString ≠ [] := by
    intro hnil
    rw [hnil] at hdevice
    exact absurd hdevice.2 (by decide)
  have hbroker : c.mqttBrokerUri.toCString ≠ [] := by
    intro hnil
    rw [hnil] at huri
    exact absurd huri.2 (by decide +kernel)
  exact ⟨hschema, ⟨hdevice.1, hid⟩, ⟨hssid.1, toCString_ne_nil hssid.2⟩, ⟨huri.1, hbroker⟩,
    ⟨husername.1, by rw [husername.2]; exact hid⟩,
    ⟨hclient.1.1.1.1.1, toCString_ne_nil hclient.1.1.1.1.2⟩⟩

section

variable {c : DeviceConfig}

/-- The strings of a request that saves are those of the running configuration. -/
theorem parseStrings_saved (h : GivenStrings c) (revision schemaVersion : UInt32) :
    parseStrings true (savedConfiguration c) { c with revision, schemaVersion } =
      some { c with revision, schemaVersion } := by
  have hmqtt : item (savedConfiguration c) "mqtt" = none :=
    item_savedConfiguration_none c (by decide +kernel)
  have hwifi : item (savedConfiguration c) "wifi_password" = none :=
    item_savedConfiguration_none c (by decide +kernel)
  have hpassword : item (savedConfiguration c) "mqtt_password" = none :=
    item_savedConfiguration_none c (by decide +kernel)
  have hcertificate : item (savedConfiguration c) "mqtt_ca_certificate" = none :=
    item_savedConfiguration_none c (by decide +kernel)
  have hid : item (savedConfiguration c) "device_id" = some (text c.deviceId.toCString) :=
    item_savedConfiguration 2 rfl (by decide)
  have hssid : item (savedConfiguration c) "wifi_ssid" = some (text c.wifiSsid.toCString) :=
    item_savedConfiguration 3 rfl (by decide)
  have huri : item (savedConfiguration c) "mqtt_broker_uri" =
      some (text c.mqttBrokerUri.toCString) :=
    item_savedConfiguration 5 rfl (by decide)
  have husername : item (savedConfiguration c) "mqtt_username" =
      some (text c.mqttUsername.toCString) :=
    item_savedConfiguration 6 rfl (by decide)
  have hclient : item (savedConfiguration c) "mqtt_client_id" =
      some (text c.mqttClientId.toCString) :=
    item_savedConfiguration 8 rfl (by decide)
  have hinterval : item (savedConfiguration c) "telemetry_interval_seconds" =
      some (integer c.telemetryIntervalSeconds.toNat) :=
    item_savedConfiguration 10 rfl (by decide)
  simp only [parseStrings, hmqtt, fieldSource, fieldName, isObject, Bool.false_eq_true, if_false,
    Bool.not_true, copyJsonString_self h.deviceId hid, copyJsonString_self h.wifiSsid hssid,
    copyJsonString_missing hwifi, copyJsonString_self h.mqttBrokerUri huri,
    copyJsonString_self h.mqttUsername husername, copyJsonString_missing hpassword,
    copyJsonString_self h.mqttClientId hclient, copyJsonString_missing hcertificate,
    jsonUint_uint32 _ _ hinterval]
  rfl

/-- So are its maintenance fields. -/
theorem parseMaintenance_saved (revision schemaVersion : UInt32) :
    parseMaintenance (savedConfiguration c) { c with revision, schemaVersion } =
      .ok { c with revision, schemaVersion } := by
  have hgroup : item (savedConfiguration c) "maintenance" = none :=
    item_savedConfiguration_none c (by decide +kernel)
  have hboot : item (savedConfiguration c) "maintenance_on_boot" =
      some (.bool c.maintenanceOnBoot) :=
    item_savedConfiguration 15 rfl (by decide)
  have hwindow : item (savedConfiguration c) "maintenance_window_seconds" =
      some (integer c.maintenanceWindowSeconds.toNat) :=
    item_savedConfiguration 16 rfl (by decide)
  have hsession : item (savedConfiguration c) "maintenance_max_session_seconds" =
      some (integer c.maintenanceMaxSessionSeconds.toNat) :=
    item_savedConfiguration 17 rfl (by decide)
  simp only [parseMaintenance, hgroup, fieldSource, fieldName, isObject, Bool.false_eq_true,
    if_false, hboot, bool?, jsonUint_uint32 _ _ hwindow, jsonUint_uint32 _ _ hsession]
  rfl

/-- A level or a pull is read back from its name, and so is the provider; a GPIO number is
refused when it is negative, also for a provider that does not use it. -/
theorem parseMachineStatus_saved (hprovider : c.machineStatusProvider = MachineProvider.disabled ∨
      c.machineStatusProvider = MachineProvider.gpio) (hpull : c.machineStatusPull ≤ Pull.down)
    (revision schemaVersion : UInt32) :
    parseMachineStatus (savedConfiguration c) { c with revision, schemaVersion } =
      if 0 ≤ c.machineStatusGpio then .ok { c with revision, schemaVersion }
      else .error "machine_status_gpio must be an integer" := by
  have hgroup : item (savedConfiguration c) "machine_status" = none :=
    item_savedConfiguration_none c (by decide +kernel)
  have hname : item (savedConfiguration c) "machine_status_provider" =
      some (literal (if c.machineStatusProvider = MachineProvider.gpio then "gpio"
        else "disabled")) :=
    item_savedConfiguration 11 rfl (by decide)
  have hgpio : item (savedConfiguration c) "machine_status_gpio" =
      some (integer c.machineStatusGpio.toInt) :=
    item_savedConfiguration 12 rfl (by decide)
  have hlevel : item (savedConfiguration c) "machine_status_active_level" =
      some (literal (if c.machineStatusActiveHigh then "high" else "low")) :=
    item_savedConfiguration 13 rfl (by decide)
  have hpullName : item (savedConfiguration c) "machine_status_pull" =
      some (literal (if c.machineStatusPull = Pull.up then "up"
        else if c.machineStatusPull = Pull.down then "down" else "none")) :=
    item_savedConfiguration 14 rfl (by decide)
  have hint : c.machineStatusGpio.toInt.natAbs < 2 ^ 53 := by
    have hlow := c.machineStatusGpio.le_toInt
    have hhigh := c.machineStatusGpio.toInt_lt
    omega
  have hprovider' : (if text? (some (literal
        (if c.machineStatusProvider = MachineProvider.gpio then "gpio" else "disabled"))) =
          some (ascii "disabled") then some MachineProvider.disabled
      else if text? (some (literal
        (if c.machineStatusProvider = MachineProvider.gpio then "gpio" else "disabled"))) =
          some (ascii "gpio") then some MachineProvider.gpio
      else none) = some c.machineStatusProvider := by
    rcases hprovider with h | h <;> rw [h] <;> decide +kernel
  have hlevel' : (if text? (some (literal (if c.machineStatusActiveHigh then "high" else "low"))) =
        some (ascii "high") then some true
      else if text? (some (literal (if c.machineStatusActiveHigh then "high" else "low"))) =
        some (ascii "low") then some false
      else none) = some c.machineStatusActiveHigh := by
    cases c.machineStatusActiveHigh <;> decide +kernel
  have hpulls : c.machineStatusPull = Pull.none ∨ c.machineStatusPull = Pull.up ∨
      c.machineStatusPull = Pull.down := by
    have hle : c.machineStatusPull.toNat ≤ 2 := hpull
    simp only [← UInt32.toNat_inj]
    change _ = 0 ∨ _ = 1 ∨ _ = 2
    omega
  have hpull' : (if text? (some (literal (if c.machineStatusPull = Pull.up then "up"
        else if c.machineStatusPull = Pull.down then "down" else "none"))) == some (ascii "none")
        then some Pull.none
      else if text? (some (literal (if c.machineStatusPull = Pull.up then "up"
        else if c.machineStatusPull = Pull.down then "down" else "none"))) = some (ascii "up")
        then some Pull.up
      else if text? (some (literal (if c.machineStatusPull = Pull.up then "up"
        else if c.machineStatusPull = Pull.down then "down" else "none"))) = some (ascii "down")
        then some Pull.down
      else none) = some c.machineStatusPull := by
    rcases hpulls with h | h | h <;> rw [h] <;> decide +kernel
  simp only [parseMachineStatus, hgroup, fieldSource, fieldName, isObject, Bool.false_eq_true,
    if_false, hname, hprovider', jsonUint_integer _ _ hgpio hint, hlevel, Option.isNone_some,
    hlevel', hpullName, Bool.false_or, hpull', require, bind, Except.bind, pure, Except.pure]
  by_cases hsign : 0 ≤ c.machineStatusGpio
  · have hnonneg : 0 ≤ c.machineStatusGpio.toInt := Int32.le_iff_toInt_le.mp hsign
    have hmax := c.machineStatusGpio.toInt_lt
    have hback : (UInt32.ofNat c.machineStatusGpio.toInt.toNat).toInt32 = c.machineStatusGpio := by
      rw [UInt32.toInt32_ofNat', ← Int32.ofInt_eq_ofNat, Int.toNat_of_nonneg hnonneg,
        Int32.ofInt_toInt]
    rw [if_pos hsign, if_pos ⟨hnonneg, by omega⟩]
    simp only [hback]
  · have hnegative : ¬ (0 ≤ c.machineStatusGpio.toInt ∧
        c.machineStatusGpio.toInt ≤ 4294967295) := by
      intro h
      exact hsign (Int32.le_iff_toInt_le.mpr h.1)
    rw [if_neg hsign, if_neg hnegative]

/-- A request that saves is read as the running configuration with the next revision, or
refused for the GPIO number. -/
theorem readRequest_saved {platform : Platform} (hvalid : c.validate platform = .ok) :
    readRequest (some c) (savedConfiguration c) =
      if 0 ≤ c.machineStatusGpio then .ok { c with revision := c.revision + 1 }
      else .error "machine_status_gpio must be an integer" := by
  obtain ⟨hschema, hstrings⟩ := givenStrings_of_validate hvalid
  have hchecked := DeviceConfig.valid_of_validate hvalid
  have hversion : item (savedConfiguration c) "schema_version" =
      some (integer c.schemaVersion.toNat) :=
    item_savedConfiguration 0 rfl (by decide)
  have hbase : { baseConfiguration (some c) with schemaVersion := c.schemaVersion } =
      { c with revision := c.revision + 1, schemaVersion := c.schemaVersion } := rfl
  rw [readRequest, jsonUint_uint32 0 true hversion]
  simp only [Option.filter_some, hschema, beq_self_eq_true, if_true, require, bind, Except.bind,
    Option.isSome_some]
  rw [← hschema, hbase, parseStrings_saved hstrings]
  simp only [parseMaintenance_saved, parseMachineStatus_saved hchecked.provider hchecked.pull]

/-- Validation sees the revision only as zero or not. -/
theorem validate_revision {platform : Platform} (hvalid : c.validate platform = .ok)
    {revision : UInt32} (h : revision ≠ 0) :
    ({ c with revision } : DeviceConfig).validationMessage platform = none := by
  have hnone : c.validationMessage platform = none := by
    unfold DeviceConfig.validate at hvalid
    split at hvalid
    next => cases hvalid
    next hs => simpa using hs
  unfold DeviceConfig.validationMessage at hnone ⊢
  simp only [refusal_eq_none] at hnone ⊢
  exact ⟨hnone.1, h, hnone.2.2⟩

end

theorem handle_config {platform : HttpPlatform} {service : ProvisioningService}
    {request : HttpRequest} (h : authorizes platform service request false = true) :
    (service.handle platform .config request).2 =
      [.configuration (service.currentConfiguration.map DeviceConfig.redacted)] := by
  change (((afterAuth platform request false sendConfiguration).run
    ⟨service, [], request.sends⟩).2).responses = _
  rw [run_afterAuth_of_authorizes h]
  rfl

theorem handle_status {platform : HttpPlatform} {service : ProvisioningService}
    {request : HttpRequest} (h : authorizes platform service request false = true) :
    (service.handle platform .status request).2 =
      if (getMetadataLocked .zero service.store.flash).1 ≠ .ok then
        [.error "503 Service Unavailable" "configuration metadata is unavailable"]
      else
        [.status ((service.currentConfiguration.map (·.deviceId.toCString)).getD
            (ascii "unprovisioned"))
          ((service.currentConfiguration.map (·.wifiSsid.toCString)).getD [])
          (getMetadataLocked .zero service.store.flash).2 request.status] := by
  change (((afterAuth platform request false (sendStatus request)).run
    ⟨service, [], request.sends⟩).2).responses = _
  rw [run_afterAuth_of_authorizes h]
  change ((sendStatus request).run ⟨service.activity, [], request.sends⟩).2.responses = _
  have hflash : service.activity.store.flash = service.store.flash := rfl
  have hcurrent : service.activity.currentConfiguration = service.currentConfiguration := rfl
  rw [sendStatus, run_bind, run_current]
  dsimp only
  rw [hflash, hcurrent]
  by_cases hread : (getMetadataLocked .zero service.store.flash).1 = .ok
  · rw [if_neg (not_not.mpr hread), if_neg (not_not.mpr hread)]
    cases service.currentConfiguration <;> rfl
  · rw [if_pos hread, if_pos hread]
    rfl

/-- Reading the running configuration and saving it as it is makes a candidate that differs in
the revision only, exactly if the GPIO number is not negative. -/
theorem saved_configuration_iff (platform : HttpPlatform) (service : ProvisioningService)
    (request : HttpRequest) (c : DeviceConfig) (hcurrent : service.currentConfiguration = some c)
    (hvalid : c.validate platform.toPlatform = .ok) (hrevision : c.revision ≠ 4294967295)
    (h : authorizes platform service request false = true) :
    ∃ body, (service.handle platform .config request).2.map HttpResponse.body = [some body] ∧
      (parseConfiguration platform.toPlatform service.currentConfiguration
          (some (loadCurrent body)) = .ok { c with revision := c.revision + 1 } ↔
        0 ≤ c.machineStatusGpio) := by
  refine ⟨objectOf (configurationBody (some c.redacted)), ?_, ?_⟩
  · rw [handle_config h, hcurrent]
    rfl
  · change parseConfiguration _ _ (savedConfiguration c) = _ ↔ _
    have hne : c.revision + 1 ≠ 0 := by
      intro hzero
      apply hrevision
      have hnat := congrArg UInt32.toNat hzero
      have hlt := c.revision.toNat_lt
      rw [UInt32.toNat_add] at hnat
      apply UInt32.toNat_inj.mp
      change _ = 4294967295
      change (c.revision.toNat + 1) % 2 ^ 32 = 0 at hnat
      omega
    rw [hcurrent, parseConfiguration, readRequest_saved hvalid]
    by_cases hsign : 0 ≤ c.machineStatusGpio
    · rw [if_pos hsign]
      simp only [bind, Except.bind, validate_revision hvalid hne]
      simp [hsign]
    · rw [if_neg hsign]
      simp [bind, Except.bind, hsign]

/-- A configuration that the parser and the validation accept. -/
def Acceptable (platform : Platform) (c : DeviceConfig) : Prop :=
  ∃ current root, parseConfiguration platform current root = .ok c

/-- A first configuration with an unused GPIO number beyond 31 bits. -/
def sampleGpioRequest : Option CJson :=
  some (objectOf [("schema_version", integer 1), ("device_id", literal "press-07"),
    ("wifi_ssid", literal "plant"), ("wifi_password", literal "wifi-password"),
    ("mqtt_broker_uri", literal "mqtts://broker.local:8883"), ("mqtt_username", literal "press-07"),
    ("mqtt_password", literal "secret"), ("mqtt_client_id", literal "press-07-client"),
    ("mqtt_ca_certificate", literal "-----BEGIN CERTIFICATE-----"),
    ("telemetry_interval_seconds", integer 5), ("machine_status_provider", literal "disabled"),
    ("machine_status_gpio", integer 4294967295), ("maintenance_on_boot", .bool false),
    ("maintenance_window_seconds", integer 600), ("maintenance_max_session_seconds", integer 1800)])

/-- The service of the samples with a running configuration. -/
def runningService (c : DeviceConfig) : ProvisioningService :=
  { sampleService with currentConfiguration := some c }

theorem authorizes_runningService (c : DeviceConfig) :
    authorizes sampleHttpPlatform (runningService c) sessionRequest false = true := by
  have hsample : authorizes sampleHttpPlatform sampleService sessionRequest false = true := by
    decide +kernel
  exact hsample

theorem saved_configuration_sample :
    ∃ body, ((runningService (.sample 1)).handle sampleHttpPlatform .config
        sessionRequest).2.map HttpResponse.body = [some body] ∧
      (parseConfiguration sampleHttpPlatform.toPlatform (some (.sample 1))
          (some (loadCurrent body)) = .ok (.sample 2) ↔
        0 ≤ (DeviceConfig.sample 1).machineStatusGpio) :=
  saved_configuration_iff sampleHttpPlatform (runningService (.sample 1)) sessionRequest (.sample 1)
    rfl (by decide +kernel) (by decide +kernel) (authorizes_runningService (.sample 1))

/-- A GPIO number that is not used, and was accepted, is refused when it comes back. -/
theorem saved_configuration_fails : ¬ ∀ (platform : HttpPlatform) (service : ProvisioningService)
    (request : HttpRequest) (c : DeviceConfig), service.currentConfiguration = some c →
    Acceptable platform.toPlatform c → c.revision ≠ 4294967295 →
    authorizes platform service request false = true →
    ∃ body, (service.handle platform .config request).2.map HttpResponse.body = [some body] ∧
      parseConfiguration platform.toPlatform service.currentConfiguration
        (some (loadCurrent body)) = .ok { c with revision := c.revision + 1 } := by
  intro h
  have haccepted : (parseConfiguration DeviceConfig.samplePlatform none
      sampleGpioRequest).toOption.any
        (fun c ↦ c.revision = 1 && c.machineStatusGpio = -1) = true := by
    decide +kernel
  cases hparsed : parseConfiguration DeviceConfig.samplePlatform none sampleGpioRequest with
  | error message =>
    rw [hparsed] at haccepted
    cases haccepted
  | ok c =>
    rw [hparsed] at haccepted
    simp only [Except.toOption, Option.any_some, Bool.and_eq_true, decide_eq_true_eq] at haccepted
    have hauth := authorizes_runningService c
    obtain ⟨body, hbody, hsaved⟩ := h sampleHttpPlatform (runningService c) sessionRequest c rfl
      ⟨none, sampleGpioRequest, hparsed⟩ (by rw [haccepted.1]; decide) hauth
    rw [handle_config hauth] at hbody
    have hsame : objectOf (configurationBody (some c.redacted)) = body :=
      Option.some.inj (List.cons.inj hbody).1
    rw [← hsame] at hsaved
    change parseConfiguration _ (some c) (savedConfiguration c) = _ at hsaved
    rw [parseConfiguration, readRequest_saved (validate_of_parseConfiguration hparsed),
      if_neg (by rw [haccepted.2]; decide)] at hsaved
    cases hsaved

/-! ### Secrets in responses -/

/-- The configuration with its secrets and the certificate blanked. -/
def DeviceConfig.withoutSecrets (c : DeviceConfig) : DeviceConfig :=
  { c with
    wifiPassword := .replicate _ 0, mqttPassword := .replicate _ 0
    mqttCaCertificate := .replicate _ 0 }

/-- None of the blanked fields is empty. -/
def DeviceConfig.HasSecrets (c : DeviceConfig) : Prop :=
  c.wifiPassword.toCString ≠ [] ∧ c.mqttPassword.toCString ≠ [] ∧ c.mqttCaCertificate.toCString ≠ []

/-- The service without what is secret in it. -/
def ProvisioningService.withoutSecrets (service : ProvisioningService) : ProvisioningService :=
  { service with
    currentConfiguration := service.currentConfiguration.map DeviceConfig.withoutSecrets
    setupSecret := .empty, sessionToken := .empty, csrfToken := .empty }

/-- Two services differ in secrets only. -/
structure SameButSecrets (s t : ProvisioningService) : Prop where
  left : ∀ c ∈ s.currentConfiguration, c.HasSecrets
  right : ∀ c ∈ t.currentConfiguration, c.HasSecrets
  rest : s.withoutSecrets = t.withoutSecrets

/-- The snapshot shows of the secrets only that they are there. -/
theorem redacted_of_hasSecrets {c : DeviceConfig} (h : c.HasSecrets) :
    c.redacted = { c.withoutSecrets.redacted with
      wifiPasswordConfigured := true
      mqttPasswordConfigured := true
      mqttCaCertificateConfigured := true } := by
  have hwifi : (c.wifiPassword.toCString != []) = true := bne_iff_ne.mpr h.1
  have hmqtt : (c.mqttPassword.toCString != []) = true := bne_iff_ne.mpr h.2.1
  have hcertificate : (c.mqttCaCertificate.toCString != []) = true := bne_iff_ne.mpr h.2.2
  simp only [DeviceConfig.redacted, hwifi, hmqtt, hcertificate]
  rfl

/-- What a response takes from the running configuration is the same in both services. -/
theorem SameButSecrets.configuration_eq {α : Type} {s t : ProvisioningService}
    (h : SameButSecrets s t) (f : DeviceConfig → α)
    (hf : ∀ c c', c.HasSecrets → c'.HasSecrets → c.withoutSecrets = c'.withoutSecrets →
      f c = f c') : s.currentConfiguration.map f = t.currentConfiguration.map f := by
  have hrest : s.currentConfiguration.map DeviceConfig.withoutSecrets =
      t.currentConfiguration.map DeviceConfig.withoutSecrets :=
    congrArg ProvisioningService.currentConfiguration h.rest
  cases hs : s.currentConfiguration with
  | none =>
    cases ht : t.currentConfiguration with
    | none => rfl
    | some c' =>
      rw [hs, ht] at hrest
      cases hrest
  | some c =>
    cases ht : t.currentConfiguration with
    | none =>
      rw [hs, ht] at hrest
      cases hrest
    | some c' =>
      rw [hs, ht] at hrest
      exact congrArg some (hf c c' (h.left c hs) (h.right c' ht) (Option.some.inj hrest))

/-- What `config_handler` and `status_handler` answer to an authorized request does not depend on
secrets. -/
theorem responses_without_secrets (platform : HttpPlatform) (s t : ProvisioningService)
    (request request' : HttpRequest) (h : SameButSecrets s t)
    (hs : authorizes platform s request false = true)
    (ht : authorizes platform t request' false = true) (hstatus : request.status = request'.status)
    (route : Route) (hroute : route = .config ∨ route = .status) :
    (s.handle platform route request).2 = (t.handle platform route request').2 ∧
      (s.handle platform route request).2.map HttpResponse.body =
        (t.handle platform route request').2.map HttpResponse.body := by
  have hsame : (s.handle platform route request).2 = (t.handle platform route request').2 := by
    rcases hroute with rfl | rfl
    · rw [handle_config hs, handle_config ht, h.configuration_eq DeviceConfig.redacted]
      intro c c' hc hc' hsame
      rw [redacted_of_hasSecrets hc, redacted_of_hasSecrets hc', hsame]
    · have hflash : s.store.flash = t.store.flash :=
        congrArg (fun service ↦ service.store.flash) h.rest
      have hid := h.configuration_eq (fun c ↦ c.deviceId.toCString) fun c c' _ _ hsame ↦
        congrArg (fun c ↦ c.deviceId.toCString) hsame
      have hssid := h.configuration_eq (fun c ↦ c.wifiSsid.toCString) fun c c' _ _ hsame ↦
        congrArg (fun c ↦ c.wifiSsid.toCString) hsame
      rw [handle_status hs, handle_status ht, hflash, hid, hssid, hstatus]
  exact ⟨hsame, by rw [hsame]⟩

/-- The sample service with another Wi-Fi password and another setup secret. -/
theorem responses_without_secrets_sample :
    let c := { DeviceConfig.sample 1 with
      wifiPassword := DeviceConfig.textArray 64 "another-password" (by decide) }
    let other := { runningService c with setupSecret := sampleToken }
    ((runningService (.sample 1)).handle sampleHttpPlatform .config sessionRequest).2 =
        (other.handle sampleHttpPlatform .config sessionRequest).2 ∧
      ((runningService (.sample 1)).handle sampleHttpPlatform .config
          sessionRequest).2.map HttpResponse.body =
        (other.handle sampleHttpPlatform .config sessionRequest).2.map HttpResponse.body := by
  have hsecrets : (DeviceConfig.sample 1).HasSecrets :=
    ⟨by decide +kernel, by decide +kernel, by decide +kernel⟩
  refine responses_without_secrets sampleHttpPlatform (runningService (.sample 1)) _ sessionRequest
    sessionRequest ⟨?_, ?_, rfl⟩ (authorizes_runningService _) (authorizes_runningService _) rfl
    .config (.inl rfl)
  · intro c hc
    rw [← Option.some.inj hc]
    exact hsecrets
  · intro c hc
    rw [← Option.some.inj hc]
    exact ⟨by decide +kernel, hsecrets.2⟩

end EdgeMonitor.Firmware
