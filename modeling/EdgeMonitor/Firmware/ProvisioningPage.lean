import EdgeMonitor.Firmware.ConfigurationResponses

/-!
# The provisioning page

Library `Firmware`. How the page lays a package of the host tool and the inputs of the operator
over its defaults, `loadPackage` and `save` of
`firmware/components/provisioning_service/provisioning_service.c:74–76`, and when
`parse_configuration` accepts the request.
-/

namespace EdgeMonitor.Firmware
open EdgeMonitor.Base
open DeviceConfig (ascii terminated)

/-! ### Objects by name -/

/-- A member name of ASCII characters other than NUL. -/
def PlainName (name : String) : Prop := ∀ c ∈ name.toList, 0 < c.toNat ∧ c.toNat < 0x80

instance (name : String) : Decidable (PlainName name) :=
  inferInstanceAs (Decidable (∀ c ∈ name.toList, 0 < c.toNat ∧ c.toNat < 0x80))

theorem PlainName.cString {name : String} (h : PlainName name) :
    (cString (ascii name)).val = ascii name := by
  apply List.takeWhile_eq_self_iff.mpr
  intro b hb
  obtain ⟨c, hc, rfl⟩ := List.mem_map.mp hb
  rw [decide_eq_true_eq]
  intro hzero
  have hplain := h c hc
  have hnat := congrArg UInt8.toNat hzero
  rw [UInt8.toNat_ofNat'] at hnat
  change c.toNat % 256 = 0 at hnat
  omega

namespace CJson

/-- `object[name] = value`. -/
def set (object : CJson) (name : String) (value : CJson) : CJson :=
  match object with
  | .object items =>
    if items.any fun entry ↦ entry.1.val == ascii name then
      .object (items.map fun entry ↦ if entry.1.val = ascii name then (entry.1, value) else entry)
    else .object (items ++ [(cString (ascii name), value)])
  | other => other

/-- The member of an object literal that is copied from another object, if it is there. -/
def copied (object : CJson) (name : String) : List (String × CJson) :=
  (item (some object) name).toList.map (name, ·)

section Members
variable {members : List (String × CJson)} {name : String}

/-- The names of these members are plain. -/
def PlainMembers (members : List (String × CJson)) : Prop := ∀ m ∈ members, PlainName m.1

/-- The members after an assignment. -/
def setMember (name : String) (value : CJson) (members : List (String × CJson)) :
    List (String × CJson) :=
  if members.any (·.1 == name) then
    members.map fun m ↦ if m.1 = name then (m.1, value) else m
  else members ++ [(name, value)]

theorem plainMembers_of_names {names : List String} (h : members.map (·.1) = names)
    (hplain : ∀ name ∈ names, PlainName name) : PlainMembers members := by
  intro m hm
  exact hplain m.1 (h ▸ List.mem_map_of_mem hm)

end Members
end CJson
open CJson

/-! ### The page -/

/-- The strings of a package. -/
structure PackageStrings where
  deviceId : CString
  brokerUri : CString
  username : CString
  password : CString
  clientId : CString
  caCertificate : CString

/-- The object under `mqtt` of a package. -/
def PackageStrings.packageMqtt (s : PackageStrings) : List (String × CJson) := [
  ("broker_uri", .string s.brokerUri),
  ("username", .string s.username),
  ("password", .string s.password),
  ("client_id", .string s.clientId),
  ("ca_certificate", .string s.caCertificate)]

/-- The package with these strings. -/
def PackageStrings.package (s : PackageStrings) : CJson := objectOf [
  ("schema_version", integer 1),
  ("device_id", .string s.deviceId),
  ("mqtt", objectOf s.packageMqtt)]

/-- The object under `mqtt` of the request. -/
def PackageStrings.mqtt (s : PackageStrings) : List (String × CJson) := [
  ("broker_uri", .string s.brokerUri),
  ("username", .string s.username),
  ("client_id", .string s.clientId),
  ("ca_certificate", .string s.caCertificate),
  ("password", .string s.password)]

/-- The object under `machine_status`. -/
def pageMachineStatus : List (String × CJson) := [
  ("provider", literal "gpio"),
  ("gpio", integer 27),
  ("active_level", literal "high"),
  ("pull", literal "none")]

/-- The object under `maintenance`. -/
def pageMaintenance : List (String × CJson) := [
  ("on_boot", .bool true),
  ("window_seconds", integer 300),
  ("max_session_seconds", integer 900)]

/-- The members of the request but for the Wi-Fi password. -/
def PackageStrings.members (s : PackageStrings) (wifiSsid : CString) : List (String × CJson) := [
  ("schema_version", integer 1),
  ("device_id", .string s.deviceId),
  ("wifi_ssid", .string wifiSsid),
  ("mqtt", objectOf s.mqtt),
  ("telemetry_interval_seconds", integer 5),
  ("machine_status", objectOf pageMachineStatus),
  ("maintenance", objectOf pageMaintenance)]

/-- The Wi-Fi password, if the operator enters one. -/
def wifiMember (wifiPassword : CString) : List (String × CJson) :=
  if wifiPassword.val = [] then [] else [("wifi_password", .string wifiPassword)]

/-- The names on the page. -/
def pageNames : List String :=
  ["schema_version", "device_id", "mqtt", "broker_uri", "username", "password", "client_id",
    "ca_certificate", "wifi_ssid", "wifi_password", "telemetry_interval_seconds", "machine_status",
    "provider", "gpio", "active_level", "pull", "maintenance", "on_boot", "window_seconds",
    "max_session_seconds", "mqtt_password"]

theorem pageNames_plain : ∀ name ∈ pageNames, PlainName name := by
  simp [pageNames, PlainName]

/-- The names of these members are on the page. -/
def PageMembers (members : List (String × CJson)) : Prop := members.map (·.1) ⊆ pageNames

theorem PageMembers.plain {members : List (String × CJson)} (h : PageMembers members) :
    PlainMembers members :=
  plainMembers_of_names rfl fun name hname ↦ pageNames_plain name (h hname)

section Page
variable {members : List (String × CJson)} {name : String}

end Page

section Request
variable (s : PackageStrings) (wifiSsid wifiPassword : CString)

/-- The request. -/
def PackageStrings.request : CJson := objectOf (s.members wifiSsid ++ wifiMember wifiPassword)

/-- The strings of the request have their places. -/
structure PackageStrings.Fit : Prop where
  deviceId : s.deviceId.val ≠ [] ∧ s.deviceId.val.length < 64
  wifiSsid : wifiSsid.val ≠ [] ∧ wifiSsid.val.length < 33
  wifiPassword : wifiPassword.val ≠ [] ∧ wifiPassword.val.length < 64
  brokerUri : s.brokerUri.val ≠ [] ∧ s.brokerUri.val.length < 256
  username : s.username.val ≠ [] ∧ s.username.val.length < 64
  password : s.password.val ≠ [] ∧ s.password.val.length < 128
  clientId : s.clientId.val ≠ [] ∧ s.clientId.val.length < 128
  caCertificate : s.caCertificate.val ≠ [] ∧ s.caCertificate.val.length < 4096

/-- The configuration with the strings of the request. -/
def PackageStrings.stored (c : DeviceConfig) : DeviceConfig :=
  { c with
    deviceId := c.deviceId.snprintf s.deviceId.val
    wifiSsid := c.wifiSsid.snprintf wifiSsid.val
    wifiPassword := c.wifiPassword.snprintf wifiPassword.val
    mqttBrokerUri := c.mqttBrokerUri.snprintf s.brokerUri.val
    mqttUsername := c.mqttUsername.snprintf s.username.val
    mqttPassword := c.mqttPassword.snprintf s.password.val
    mqttClientId := c.mqttClientId.snprintf s.clientId.val
    mqttCaCertificate := c.mqttCaCertificate.snprintf s.caCertificate.val
    telemetryIntervalSeconds := 5 }

/-- The configuration with the defaults of the page. -/
def pageDefaults (c : DeviceConfig) : DeviceConfig :=
  { c with
    machineStatusProvider := MachineProvider.gpio
    machineStatusGpio := 27
    machineStatusActiveHigh := true
    machineStatusPull := Pull.none
    maintenanceOnBoot := true
    maintenanceWindowSeconds := 300
    maintenanceMaxSessionSeconds := 900 }

/-- The candidate that a request makes. -/
def PackageStrings.candidate (current : Option DeviceConfig) : DeviceConfig :=
  pageDefaults (s.stored wifiSsid wifiPassword { baseConfiguration current with schemaVersion })

/-- A request that passes the checks of its strings. -/
structure PackageStrings.Acceptable (platform : Platform) : Prop where
  fit : s.Fit wifiSsid wifiPassword
  validDeviceId : DeviceConfig.validDeviceId s.deviceId.val = true
  wifiPasswordLength : 8 ≤ wifiPassword.val.length
  validBrokerUri : DeviceConfig.validMqttsUri s.brokerUri.val = true
  sameUsername : s.username.val = s.deviceId.val
  validClientId : s.clientId.val ≠ s.username.val ∧ 0x2F ∉ s.clientId.val ∧ 0x2B ∉ s.clientId.val ∧
    0x23 ∉ s.clientId.val
  pem : DeviceConfig.strstr (ascii "-----BEGIN CERTIFICATE-----") s.caCertificate.val = true
  parses : platform.certificateParses s.caCertificate.val = true

end Request

end EdgeMonitor.Firmware
