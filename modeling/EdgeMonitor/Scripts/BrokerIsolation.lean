import EdgeMonitor.Backend.MessageIsolation
import EdgeMonitor.Scripts.PlannedBundles
import EdgeMonitor.Scripts.PublishedMessages
import EdgeMonitor.Scripts.Revocation

/-!
# Isolation of devices

Library `Scripts`. The broker lets a device publish what the policy of the repository allows its
identity, and the collector stores what it accepts under this identity.
-/

namespace EdgeMonitor.Scripts
open EdgeMonitor.Base
open Firmware.DeviceConfig (ascii)
open Backend (validateProvisionableDeviceId processMessage IsolatedTo Database PyError Instant)

/-! ### The policy of the repository -/

/-- The type of entries for publishing. -/
def publishClientSend : Text := Text.ofString "publishClientSend"

/-- An entry of `security-policy.json`, all of which allow at priority 10. -/
def allowed (acltype topic : String) : Acl :=
  ⟨Text.ofString acltype, Text.ofString topic, 10, true⟩

/-- The role `device`. -/
def deviceRole : SecurityRole where
  rolename := Text.ofString "device"
  acls := [
    allowed "publishClientSend" "industrial/devices/%u/telemetry",
    allowed "publishClientSend" "industrial/devices/%u/health",
    allowed "publishClientSend" "industrial/devices/%u/availability"]

/-- `docker/mosquitto/security-policy.json`. -/
def securityPolicy : SecurityPolicy where
  defaultAclAccess := ⟨false, false, false, true⟩
  serviceRoles := [
    (Text.ofString "collector", Text.ofString "collector"),
    (Text.ofString "healthcheck", Text.ofString "healthcheck"),
    (Text.ofString "simulator", Text.ofString "legacy-publisher"),
    (Text.ofString "legacy-test", Text.ofString "legacy-publisher")]
  defaultRole := Text.ofString "device"
  roles := [
    deviceRole,
    { rolename := Text.ofString "collector"
      acls := [
        allowed "subscribeLiteral" "industrial/telemetry",
        allowed "subscribeLiteral" "industrial/devices/+/telemetry",
        allowed "subscribeLiteral" "industrial/devices/+/health",
        allowed "subscribeLiteral" "industrial/devices/+/availability",
        allowed "publishClientReceive" "industrial/telemetry",
        allowed "publishClientReceive" "industrial/devices/+/telemetry",
        allowed "publishClientReceive" "industrial/devices/+/health",
        allowed "publishClientReceive" "industrial/devices/+/availability"] },
    { rolename := Text.ofString "legacy-publisher"
      acls := [allowed "publishClientSend" "industrial/telemetry"] },
    { rolename := Text.ofString "healthcheck"
      acls := [allowed "publishClientSend" "industrial/healthcheck"] }]

/-! ### The broker -/

/-- A topic of an entry for a client: `%u` stands for its username. -/
def substituteUser (username : Text) : Text → Text
  | [] => []
  | 0x25 :: 0x75 :: rest => username ++ substituteUser username rest
  | c :: rest => c :: substituteUser username rest

/-- A client may publish on a topic when the default allows it, or an entry of its role. -/
def MayPublish (configuration : DynamicSecurity) (username topic : Text) : Prop :=
  configuration.defaultAclAccess.publishClientSend = true ∨
    ∃ client ∈ configuration.clients, client.username = username ∧
      ∃ role ∈ configuration.roles, role.rolename = client.rolename ∧
        ∃ acl ∈ role.acls, acl.acltype = publishClientSend ∧ acl.allow = true ∧
          substituteUser username acl.topic = topic

theorem substituteUser_plain (username : Text) {s : Text} (h : 0x25 ∉ s) :
    substituteUser username s = s := by
  induction s with
  | nil => rfl
  | cons c rest ih =>
    rw [List.mem_cons, not_or] at h
    rw [substituteUser, ih h.2]
    rintro _ rfl
    exact absurd rfl h.1

/-- One `%u` in a topic. -/
theorem substituteUser_append (username : Text) {before after : Text} (hbefore : 0x25 ∉ before)
    (hafter : 0x25 ∉ after) :
    substituteUser username (before ++ 0x25 :: 0x75 :: after) = before ++ (username ++ after) := by
  induction before with
  | nil => rw [List.nil_append, substituteUser, substituteUser_plain username hafter, List.nil_append]
  | cons c before ih =>
    rw [List.mem_cons, not_or] at hbefore
    rw [List.cons_append, substituteUser, ih hbefore.2, List.cons_append]
    rintro _ rfl
    exact absurd rfl hbefore.1

/-! ### What a device may publish -/

/-- What the topics of devices start with. -/
def devicesStart : Text := Text.ofString "industrial/devices"

/-- A topic of a device. -/
def deviceTopic (username : Text) (kind : Backend.MessageKind) : Text :=
  (devicesStart ++ 0x2F :: username) ++ 0x2F :: kind.text

theorem substituteUser_entry (username : Text) (kind : Backend.MessageKind) :
    substituteUser username (devicesStart ++ 0x2F :: 0x25 :: 0x75 :: 0x2F :: kind.text) =
      deviceTopic username kind := by
  have hlist : devicesStart ++ 0x2F :: 0x25 :: 0x75 :: 0x2F :: kind.text =
      (devicesStart ++ [0x2F]) ++ 0x25 :: 0x75 :: (0x2F :: kind.text) := by simp
  have hbefore : 0x25 ∉ devicesStart ++ [0x2F] := by decide
  have hafter : 0x25 ∉ 0x2F :: kind.text := by
    cases kind <;> decide
  rw [hlist, substituteUser_append username hbefore hafter, deviceTopic]
  simp

/-- The entries of the role `device`. -/
theorem topic_of_deviceRole {acl : Acl} (h : acl ∈ deviceRole.acls) :
    ∃ kind : Backend.MessageKind,
      acl.topic = devicesStart ++ 0x2F :: 0x25 :: 0x75 :: 0x2F :: kind.text := by
  simp only [deviceRole, List.mem_cons, List.not_mem_nil, or_false] at h
  rcases h with rfl | rfl | rfl
  · exact ⟨.telemetry, by decide⟩
  · exact ⟨.health, by decide⟩
  · exact ⟨.availability, by decide⟩

/-- No service has the username of a device. -/
theorem roleOf_provisionable {username : Text}
    (h : validateProvisionableDeviceId username = true) :
    securityPolicy.roleOf username = deviceRole.rolename := by
  obtain ⟨-, hreserved⟩ := Backend.not_reserved_of_provisionable h
  have hkeys : securityPolicy.serviceRoles.map (·.1) = Backend.reservedDeviceIdentities := by
    decide
  have hnone : securityPolicy.serviceRoles.lookup username = none := by
    rw [List.lookup_eq_none_iff]
    intro entry hentry
    rw [← hkeys] at hreserved
    have hne : username ≠ entry.1 := by
      rintro rfl
      exact hreserved (List.mem_map_of_mem hentry)
    simpa using hne
  rw [SecurityPolicy.roleOf, hnone]
  rfl

/-- The configuration that is built with the policy of the repository. -/
theorem buildConfiguration_securityPolicy (passwords : List (Text × Text)) :
    buildConfiguration securityPolicy passwords = .ok {
      defaultAclAccess := securityPolicy.defaultAclAccess
      clients := (passwords.mergeSort fun p q ↦ textLe p.1 q.1).map
        fun (username, encodedPassword) ↦
          { username, encodedPassword, rolename := securityPolicy.roleOf username }
      roles := securityPolicy.roles } := by
  have hnodup : (securityPolicy.roles.map (·.rolename)).Nodup := by decide
  have hroles : securityPolicy.defaultRole :: securityPolicy.serviceRoles.map (·.2) ⊆
      securityPolicy.roles.map (·.rolename) := by decide
  rw [buildConfiguration]
  dsimp only
  rw [if_neg (not_not.mpr hnodup), if_neg (not_not.mpr hroles)]

/-- A device may publish its own telemetry, health and availability only. -/
theorem topic_of_mayPublish {passwords : List (Text × Text)} {configuration : DynamicSecurity}
    {username topic : Text} (hid : validateProvisionableDeviceId username = true)
    (hbuild : buildConfiguration securityPolicy passwords = .ok configuration)
    (h : MayPublish configuration username topic) :
    ∃ kind, topic = deviceTopic username kind := by
  rw [buildConfiguration_securityPolicy] at hbuild
  cases hbuild
  obtain hdefault | ⟨client, hclient, hname, role, hrole, hrolename, acl, hacl, -, -, htopic⟩ := h
  · cases hdefault
  obtain ⟨⟨user, encodedPassword⟩, -, rfl⟩ := List.mem_map.mp hclient
  have huser : user = username := hname
  have hdevice : role.rolename = deviceRole.rolename := by
    rw [hrolename, ← roleOf_provisionable hid, ← huser]
  have hnodup : (securityPolicy.roles.map (·.rolename)).Nodup := by decide
  have heq : role = deviceRole :=
    List.inj_on_of_nodup_map hnodup hrole List.mem_cons_self hdevice
  rw [heq] at hacl
  obtain ⟨kind, hkind⟩ := topic_of_deviceRole hacl
  use kind
  rw [← htopic, hkind]
  exact substituteUser_entry username kind

/-- Its topics are allowed. -/
theorem mayPublish_deviceTopic {passwords : List (Text × Text)} {configuration : DynamicSecurity}
    {username : Text} (hid : validateProvisionableDeviceId username = true)
    (hbuild : buildConfiguration securityPolicy passwords = .ok configuration)
    (hlisted : username ∈ passwords.map (·.1)) (kind : Backend.MessageKind) :
    MayPublish configuration username (deviceTopic username kind) := by
  have hperm := (clients_of_buildConfiguration hbuild).map Prod.fst
  rw [List.map_map] at hperm
  obtain ⟨client, hclient, hname⟩ := List.mem_map.mp (hperm.mem_iff.mpr hlisted)
  rw [buildConfiguration_securityPolicy] at hbuild
  cases hbuild
  have hname : client.username = username := hname
  have hrole : deviceRole.rolename = client.rolename := by
    obtain ⟨⟨user, encodedPassword⟩, -, rfl⟩ := List.mem_map.mp hclient
    have huser : user = username := hname
    rw [← roleOf_provisionable hid, ← huser]
  have hentry : ∃ acl ∈ deviceRole.acls, acl.acltype = publishClientSend ∧ acl.allow = true ∧
      acl.topic = devicesStart ++ 0x2F :: 0x25 :: 0x75 :: 0x2F :: kind.text := by
    cases kind <;> decide
  obtain ⟨acl, hacl, hsend, hallow, htopic⟩ := hentry
  refine .inr ⟨client, hclient, hname, deviceRole, List.mem_cons_self, hrole, acl, hacl, hsend,
    hallow, ?_⟩
  rw [htopic]
  exact substituteUser_entry username kind

/-- A user of the password file is one client, and a device has the role `device`. -/
theorem roles_of_buildConfiguration {text username : Text} {passwords : List (Text × Text)}
    {configuration : DynamicSecurity} (hpasswords : loadPasswords text = .ok passwords)
    (hlisted : username ∈ passwords.map (·.1))
    (hid : validateProvisionableDeviceId username = true)
    (hbuild : buildConfiguration securityPolicy passwords = .ok configuration) :
    (configuration.clients.filter (·.username = username)).map (·.rolename) =
      [deviceRole.rolename] := by
  have hperm := (clients_of_buildConfiguration hbuild).map Prod.fst
  rw [List.map_map] at hperm
  have hnodup := nodup_of_loadPasswordLines (loadPasswords_eq_ok_iff.mp hpasswords).1 List.nodup_nil
  have hnames : (configuration.clients.map (·.username)).Nodup := hperm.nodup_iff.mpr hnodup
  obtain ⟨client, hclient, hname⟩ := List.mem_map.mp (hperm.mem_iff.mpr hlisted)
  have hrole : client.rolename = deviceRole.rolename := by
    rw [buildConfiguration_securityPolicy] at hbuild
    cases hbuild
    obtain ⟨⟨user, encodedPassword⟩, -, rfl⟩ := List.mem_map.mp hclient
    have huser : user = username := hname
    rw [← roleOf_provisionable hid, ← huser]
  have hone : configuration.clients.filter (·.username = username) = [client] := by
    have hnodups : (configuration.clients.filter (·.username = username)).Nodup :=
      hnames.of_map.filter _
    apply List.perm_singleton.mp
    rw [List.perm_ext_iff_of_nodup hnodups (List.nodup_singleton client)]
    intro other
    rw [List.mem_filter, decide_eq_true_eq, List.mem_singleton]
    constructor
    · rintro ⟨hother, hothername⟩
      exact List.inj_on_of_nodup_map hnames hother hclient (hothername.trans hname.symm)
    · rintro rfl
      exact ⟨hclient, hname⟩
  rw [hone, List.map_singleton, hrole]

/-! ### What the collector stores -/

/-- `MQTT_TOPIC` of `config.py:80`, the topic that the role `legacy-publisher` publishes. -/
def legacyTopic : Text := Text.ofString "industrial/telemetry"

theorem slash_not_mem_kind (kind : Backend.MessageKind) : 0x2F ∉ kind.text := by
  cases kind <;> decide

/-- The last level of a topic. -/
theorem append_cons_inj {sep : Nat} {a a' b b' : Text} (hb : sep ∉ b) (hb' : sep ∉ b')
    (h : a ++ sep :: b = a' ++ sep :: b') : a = a' ∧ b = b' := by
  rw [List.append_eq_append_iff] at h
  obtain ⟨as, ha, hbs⟩ | ⟨as, ha, hbs⟩ := h
  · cases as with
    | nil =>
      rw [List.append_nil] at ha
      exact ⟨ha.symm, (List.cons.inj hbs).2⟩
    | cons c as =>
      rw [(List.cons.inj hbs).2] at hb
      exact absurd (List.mem_append_right as List.mem_cons_self) hb
  · cases as with
    | nil =>
      rw [List.append_nil] at ha
      exact ⟨ha, (List.cons.inj hbs).2.symm⟩
    | cons c as =>
      rw [(List.cons.inj hbs).2] at hb'
      exact absurd (List.mem_append_right as List.mem_cons_self) hb'

/-- The topic of a device is not the legacy one. -/
theorem deviceTopic_ne_legacyTopic (username : Text) (kind : Backend.MessageKind) :
    deviceTopic username kind ≠ legacyTopic := by
  intro h
  have hdevice : (deviceTopic username kind)[11]? = some 0x64 := by
    rw [deviceTopic, List.append_assoc, List.getElem?_append_left (by decide)]
    decide
  rw [h] at hdevice
  exact absurd hdevice (by decide)

/-- A topic of a device is routed to this device, or to none. -/
theorem routeTopic_deviceTopic {topicPrefix username deviceId : Text}
    {kind kind' : Backend.MessageKind} (hid : validateProvisionableDeviceId username = true)
    (hdevice : validateProvisionableDeviceId deviceId = true)
    (h : Backend.routeTopic ⟨legacyTopic, topicPrefix⟩ (deviceTopic username kind) =
      some (deviceId, kind')) : deviceId = username := by
  obtain ⟨hlegacy, -⟩ | ⟨-, hlevels⟩ := Backend.routeTopic_eq_some h
  · exact absurd hlegacy (deviceTopic_ne_legacyTopic username kind)
  · rw [deviceTopic, Backend.CollectorSettings.topicStart] at hlevels
    have hstart := (append_cons_inj (slash_not_mem_kind kind) (slash_not_mem_kind kind') hlevels).1
    rw [List.append_assoc] at hstart
    exact (append_cons_inj (slash_not_mem_of_provisionable hid)
      (slash_not_mem_of_provisionable hdevice) hstart).2.symm

/-- Devices are isolated from each other. A user of the password file with a provisionable
identity has the role `device` and no other, and whatever it publishes on a topic that the broker
allows it, `process_message` raises and leaves the database as it was, or it inserts and changes
rows of this device only. -/
theorem device_isolation {text username : Text} {passwords : List (Text × Text)}
    (hpasswords : loadPasswords text = .ok passwords) (hlisted : username ∈ passwords.map (·.1))
    (hid : validateProvisionableDeviceId username = true) :
    ∃ configuration, buildConfiguration securityPolicy passwords = .ok configuration ∧
      (configuration.clients.filter (·.username = username)).map (·.rolename) =
        [Text.ofString "device"] ∧
      ∀ (topicPrefix topic : Text) (loads : List UInt8 → Except PyError Json)
        (dumpKey : Text → Except PyError Text) (receivedAt : Instant) (rawPayload : List UInt8)
        (db : Database), MayPublish configuration username topic →
        let result := (processMessage ⟨legacyTopic, topicPrefix⟩ loads dumpKey receivedAt topic
          rawPayload).run db
        (∃ e, result = (.error e, db)) ∨
          result.1 = .ok () ∧ IsolatedTo username db result.2 := by
  have hbuild := buildConfiguration_securityPolicy passwords
  refine ⟨_, hbuild, roles_of_buildConfiguration hpasswords hlisted hid hbuild, ?_⟩
  intro topicPrefix topic loads dumpKey receivedAt rawPayload db hmay
  dsimp only
  obtain ⟨kind, rfl⟩ := topic_of_mayPublish hid hbuild hmay
  have hlegacy := deviceTopic_ne_legacyTopic username kind
  cases hroute : Backend.routeTopic ⟨legacyTopic, topicPrefix⟩ (deviceTopic username kind) with
  | none =>
    refine .inl ⟨.valueError, ?_⟩
    rw [processMessage, hroute]
    rfl
  | some route =>
    obtain hrejected | ⟨_, _, message, -, -, -, -, hdevice, hstored⟩ :=
      @Backend.processMessage_of_route ⟨legacyTopic, topicPrefix⟩ loads dumpKey receivedAt _
        route.1 route.2 rawPayload hroute
    · obtain ⟨e, he⟩ := hrejected
      exact .inl ⟨e, he db⟩
    · have hrouted : route.1 = username := routeTopic_deviceTopic hid (hdevice hlegacy) hroute
      obtain ⟨db', hrun, heffects⟩ := hstored db
      rw [hrouted] at heffects
      rw [hrun]
      exact .inr ⟨rfl, heffects.isolatedTo⟩

/-- The device `esp32-001` may publish its health, and is isolated. -/
theorem device_isolation_sample :
    ∃ configuration, buildConfiguration securityPolicy
        [(Text.ofString "collector", Text.ofString "$7$c"),
          (Text.ofString "esp32-001", Text.ofString "$7$e")] = .ok configuration ∧
      MayPublish configuration (Text.ofString "esp32-001")
        (Text.ofString "industrial/devices/esp32-001/health") ∧
      (configuration.clients.filter (·.username = Text.ofString "esp32-001")).map (·.rolename) =
        [Text.ofString "device"] ∧
      ∀ (topicPrefix topic : Text) (loads : List UInt8 → Except PyError Json)
        (dumpKey : Text → Except PyError Text) (receivedAt : Instant) (rawPayload : List UInt8)
        (db : Database), MayPublish configuration (Text.ofString "esp32-001") topic →
        let result := (processMessage ⟨legacyTopic, topicPrefix⟩ loads dumpKey receivedAt topic
          rawPayload).run db
        (∃ e, result = (.error e, db)) ∨
          result.1 = .ok () ∧ IsolatedTo (Text.ofString "esp32-001") db result.2 := by
  have hpasswords : loadPasswords (Text.ofString "collector:$7$c\nesp32-001:$7$e\n") =
      .ok [(Text.ofString "collector", Text.ofString "$7$c"),
        (Text.ofString "esp32-001", Text.ofString "$7$e")] := by rfl
  have hid : validateProvisionableDeviceId (Text.ofString "esp32-001") = true := by decide
  obtain ⟨configuration, hbuild, hroles, hisolated⟩ :=
    device_isolation hpasswords (by decide) hid
  have hmay := mayPublish_deviceTopic hid hbuild (by decide) .health
  have htopic : deviceTopic (Text.ofString "esp32-001") .health =
      Text.ofString "industrial/devices/esp32-001/health" := by decide
  rw [htopic] at hmay
  exact ⟨configuration, hbuild, hmay, hroles, hisolated⟩

/-! ### The topics of the firmware -/

theorem Paired.publishedTopic_eq_deviceTopic {settings : Backend.CollectorSettings}
    {deviceId : List UInt8} (h : Paired settings (ascii "industrial/devices") deviceId)
    (kind : Backend.MessageKind) : publishedTopic (ascii "industrial/devices") deviceId kind =
      deviceTopic (deviceId.map UInt8.toNat) kind := by
  have hstart : (ascii "industrial/devices").map UInt8.toNat = devicesStart := by decide
  rw [h.publishedTopic_eq, h.topicStart, hstart, deviceTopic]
  simp

/-- Firmware, broker and collector agree on the topics of a device. With the prefix that the
firmware has by default, a device that is a user of the password file may publish on the topics
that it forms and on no others, no other device may publish on them, and the collector routes them
to this device. -/
theorem published_topics_agree {settings : Backend.CollectorSettings} {deviceId : List UInt8}
    {passwords : List (Text × Text)} {configuration : DynamicSecurity}
    (h : Paired settings (ascii "industrial/devices") deviceId)
    (hlisted : deviceId.map UInt8.toNat ∈ passwords.map (·.1))
    (hbuild : buildConfiguration securityPolicy passwords = .ok configuration) (topic : Text) :
    (MayPublish configuration (deviceId.map UInt8.toNat) topic ↔
      ∃ kind, topic = publishedTopic (ascii "industrial/devices") deviceId kind) ∧
    ∀ kind, topic = publishedTopic (ascii "industrial/devices") deviceId kind →
      Backend.routeTopic settings topic = some (deviceId.map UInt8.toNat, kind) ∧
      ∀ username, validateProvisionableDeviceId username = true →
        MayPublish configuration username topic → username = deviceId.map UInt8.toNat := by
  have hid := h.provisionable
  constructor
  · constructor
    · intro hmay
      obtain ⟨kind, rfl⟩ := topic_of_mayPublish hid hbuild hmay
      exact ⟨kind, (h.publishedTopic_eq_deviceTopic kind).symm⟩
    · rintro ⟨kind, rfl⟩
      rw [h.publishedTopic_eq_deviceTopic]
      exact mayPublish_deviceTopic hid hbuild hlisted kind
  · rintro kind rfl
    refine ⟨(h.routeTopic_eq kind).2, ?_⟩
    intro username hother hmay
    obtain ⟨kind', htopic⟩ := topic_of_mayPublish hother hbuild hmay
    rw [h.publishedTopic_eq_deviceTopic, deviceTopic, deviceTopic] at htopic
    have hstart := (append_cons_inj (slash_not_mem_kind kind) (slash_not_mem_kind kind') htopic).1
    exact (append_cons_inj (slash_not_mem_of_provisionable hid)
      (slash_not_mem_of_provisionable hother) hstart).2.symm

theorem published_topics_agree_sample :
    ∃ configuration, buildConfiguration securityPolicy
        [(Text.ofString "collector", Text.ofString "$7$c"),
          (Text.ofString "pump-1", Text.ofString "$7$p")] = .ok configuration ∧
      MayPublish configuration (Text.ofString "pump-1")
        (publishedTopic (ascii "industrial/devices") (ascii "pump-1") .health) ∧
      ¬ MayPublish configuration (Text.ofString "pump-2")
        (publishedTopic (ascii "industrial/devices") (ascii "pump-1") .health) := by
  have hbuild := buildConfiguration_securityPolicy
    [(Text.ofString "collector", Text.ofString "$7$c"),
      (Text.ofString "pump-1", Text.ofString "$7$p")]
  obtain ⟨hmay, hroute⟩ := published_topics_agree paired_sample (by decide) hbuild
    (publishedTopic (ascii "industrial/devices") (ascii "pump-1") .health)
  have hother : Text.ofString "pump-2" ≠ (ascii "pump-1").map UInt8.toNat := by decide
  refine ⟨_, hbuild, hmay.mpr ⟨.health, rfl⟩, ?_⟩
  intro hpublish
  exact hother ((hroute .health rfl).2 _ (by decide) hpublish)

end EdgeMonitor.Scripts
