import EdgeMonitor.Backend.Availability
import EdgeMonitor.Firmware.Payloads
import EdgeMonitor.Scripts.DeviceIdentities

/-!
# Published messages

Library `Scripts`. What the firmware publishes beside what the collector accepts: every sample,
every snapshot of the health and both messages about availability are accepted on the topics of
the device, and are stored with the values that they were printed from.
-/

namespace EdgeMonitor.Scripts
open EdgeMonitor.Base EdgeMonitor.Firmware EdgeMonitor.Firmware.DeviceConfig JsonText
open EdgeMonitor.Backend (CollectorSettings MessageKind routeTopic PyError processMessage
  storeMessage Instant Database validateProvisionableDeviceId Checked field noExtra modelValidate
  dictOf dumpItems DateTime validateDeviceTimestamp)

/-! ### Topics -/

/-- A device and a collector that are configured for each other. -/
structure Paired (settings : CollectorSettings) (topicStart deviceId : List UInt8) : Prop where
  deviceId : validDeviceId deviceId = true
  length_le : topicStart.length ≤ 50
  topicStart : settings.topicStart = topicStart.map UInt8.toNat ++ [0x2F]
  notLegacy : ¬ settings.topicStart <+: settings.mqttTopic

/-- A device and a collector with the topics that both have by default. -/
theorem paired_sample :
    Paired Backend.sampleSettings (ascii "industrial/devices") (ascii "pump-1") where
  deviceId := by decide
  length_le := by decide
  topicStart := by decide
  notLegacy := by decide

/-- The topic of a kind of messages. -/
def publishedTopic (topicStart deviceId : List UInt8) : MessageKind → Text
  | .telemetry => (telemetryTopic topicStart deviceId).map UInt8.toNat
  | .health => (healthTopic topicStart deviceId).map UInt8.toNat
  | .availability => (availabilityTopic topicStart deviceId).map UInt8.toNat

section

variable {settings : CollectorSettings} {topicStart deviceId : List UInt8}

theorem Paired.publishedTopic_eq (h : Paired settings topicStart deviceId) (kind : MessageKind) :
    publishedTopic topicStart deviceId kind =
      settings.topicStart ++ (deviceId.map UInt8.toNat ++ 0x2F :: kind.text) := by
  obtain ⟨htelemetry, hhealth, havailability⟩ := topics_eq h.deviceId h.length_le
  have hlevel (level : List UInt8) :
      (topicStart ++ 0x2F :: (deviceId ++ level)).map UInt8.toNat =
        settings.topicStart ++ (deviceId.map UInt8.toNat ++ level.map UInt8.toNat) := by
    rw [h.topicStart, List.map_append, List.map_cons, List.map_append, List.append_assoc]
    rfl
  cases kind with
  | telemetry =>
    rw [publishedTopic, htelemetry, hlevel]
    rfl
  | health =>
    rw [publishedTopic, hhealth, hlevel]
    rfl
  | availability =>
    rw [publishedTopic, havailability, hlevel]
    rfl

theorem Paired.provisionable (h : Paired settings topicStart deviceId) :
    validateProvisionableDeviceId (deviceId.map UInt8.toNat) = true :=
  validDeviceId_iff.mp h.deviceId

/-- The collector finds device and kind in a topic. -/
theorem Paired.routeTopic_eq (h : Paired settings topicStart deviceId) (kind : MessageKind) :
    publishedTopic topicStart deviceId kind ≠ settings.mqttTopic ∧
    routeTopic settings (publishedTopic topicStart deviceId kind) =
      some (deviceId.map UInt8.toNat, kind) := by
  rw [h.publishedTopic_eq]
  have hlegacy (rest : Text) : settings.topicStart ++ rest ≠ settings.mqttTopic := by
    intro heq
    exact h.notLegacy ⟨rest, heq⟩
  refine ⟨hlegacy _, ?_⟩
  have hslash : 0x2F ∉ deviceId.map UInt8.toNat := slash_not_mem_of_provisionable h.provisionable
  have hkind : 0x2F ∉ kind.text := by cases kind <;> decide
  have hsplit : (deviceId.map UInt8.toNat ++ 0x2F :: kind.text).splitOn 0x2F =
      [deviceId.map UInt8.toNat, kind.text] := by
    have hlevels : ∀ level ∈ [deviceId.map UInt8.toNat, kind.text], 0x2F ∉ level := by
      intro level hlevel
      rcases List.mem_cons.mp hlevel with rfl | hlevel
      · exact hslash
      · rwa [List.mem_singleton.mp hlevel]
    rw [← List.splitOn_intercalate 0x2F hlevels (by simp)]
    simp
  have htext : MessageKind.ofText kind.text = some kind := by cases kind <;> decide
  rw [routeTopic, if_neg (hlegacy _), if_pos (by simp), List.drop_left, hsplit]
  dsimp only
  rw [htext]
  rfl

/-! ### Documents -/

variable {loads : List UInt8 → Except PyError Json} {dumpKey : Text → Except PyError Text}
  {nearest : ℚ → ℚ} {members : List (String × JsonText)}

/-- A document with the identity of the device passes the identity checks. -/
theorem Paired.processMessage_eq (h : Paired settings topicStart deviceId)
    (dumpKey : Text → Except PyError Text) (kind : MessageKind) (receivedAt : Instant)
    (hdistinct : Distinct members)
    (hmember : ("device_id", JsonText.string deviceId) ∈ members)
    (hplain : (JsonText.object members).Plain) (hloads : ReadBy loads nearest (.object members)) :
    processMessage settings loads dumpKey receivedAt (publishedTopic topicStart deviceId kind)
        (JsonText.object members).render =
      storeMessage dumpKey receivedAt (deviceId.map UInt8.toNat) false kind
        (.object (valueMembers nearest members)) := by
  obtain ⟨hlegacy, hroute⟩ := h.routeTopic_eq kind
  have hread : loads (JsonText.object members).render =
      .ok (.object (valueMembers nearest members)) := by
    rw [hloads hplain, value]
  have hidentity : Json.member (valueMembers nearest members) (Text.ofString "device_id") =
      some (.string (deviceId.map UInt8.toNat)) := by
    rw [member_valueMembers hdistinct hmember, value]
  have hidentify : Backend.identify settings (publishedTopic topicStart deviceId kind)
      (deviceId.map UInt8.toNat) (.object (valueMembers nearest members)) =
        .ok (.object (valueMembers nearest members)) := by
    rw [Backend.identify, if_neg hlegacy, if_pos h.provisionable]
    dsimp only [Backend.getDeviceId, bind, Except.bind]
    rw [hidentity]
    exact if_pos rfl
  have hnot : (publishedTopic topicStart deviceId kind == settings.mqttTopic) = false :=
    beq_eq_false_iff_ne.mpr hlegacy
  rw [Backend.processMessage_eq settings loads dumpKey receivedAt _ hroute, hread, hnot]
  change Session.ofExcept (Backend.identify settings _ _ _) >>= _ = _
  rw [hidentify]
  rfl

theorem field_valueMembers {α : Type} (check : Json → Checked α) (hdistinct : Distinct members)
    {key : String} {t : JsonText} (hmem : (key, t) ∈ members) :
    field (valueMembers nearest members) key check = check (t.value nearest) := by
  rw [field, member_valueMembers hdistinct hmem]

theorem noExtra_valueMembers {names : List String} (hnames : members.map Prod.fst = names) :
    noExtra (valueMembers nearest members) names = .valid () := by
  apply if_pos
  rw [← hnames, valueMembers_eq, List.all_eq_true]
  intro m hm
  obtain ⟨member, hmember, rfl⟩ := List.mem_map.mp hm
  rw [List.contains_iff_mem, List.map_map]
  exact List.mem_map_of_mem (f := Text.ofString ∘ Prod.fst) hmember

/-! ### Timestamps -/

/-- The time of a clock that counts seconds from 1970 on. -/
def clockTime (now : Nat) : DateTime := .ofSeconds (now + 62135683200) 0

/-- The text of the clock is the one that the collector stores for the same instant, and is
accepted. -/
theorem clockTime_spec {timeValid : Bool} {now : Nat} {timestamp : List UInt8}
    (h : systemTimeGetTimestamp timeValid now = some timestamp) :
    (clockTime now).instant = now * 1000000 ∧
    (clockTime now).stored = timestamp.map UInt8.toNat ∧
    validateDeviceTimestamp (.string (timestamp.map UInt8.toNat)) = .ok (clockTime now) := by
  obtain ⟨-, date, hdate, hyear, htext⟩ := systemTimeGetTimestamp_eq_some h
  have hdays : ((now : Int) + 62135683200) / 86400 = (now / 86400 + 719163 : Nat) := by
    push_cast
    omega
  have hrest : (((now : Int) + 62135683200) % 86400).toNat = now % 86400 := by omega
  have htime : clockTime now = ⟨date, now % 86400 / 3600, now % 86400 % 3600 / 60,
      now % 86400 % 60, 0, some 0⟩ := by
    rw [clockTime, DateTime.ofSeconds, hdays, hrest, Int.toNat_natCast, ← hdate]
  have hrepresentable : Backend.Representable (now + 62135683200) := by
    obtain ⟨hvalid, hordinal⟩ :=
      Calendar.ofOrdinal_spec (show 1 ≤ now / 86400 + 719163 by omega)
    rw [← hdate] at hvalid hordinal
    have hlast := (Calendar.Date.toOrdinal_le_iff hvalid 9999).mpr hyear
    have hmax : Calendar.daysBeforeYear (9999 + 1) = 3652059 := by decide
    rw [hordinal, hmax] at hlast
    rw [Backend.Representable, hdays, Backend.maxOrdinal]
    omega
  obtain ⟨hexists, hseconds⟩ := Backend.ofSeconds_spec hrepresentable 0
  have hstored : (clockTime now).stored = timestamp.map UInt8.toNat := by
    rw [htext, htime]
    exact Backend.stored_eq rfl
  refine ⟨?_, hstored, ?_⟩
  · rw [DateTime.instant]
    change (Backend.clockSeconds (clockTime now).date (clockTime now).hour (clockTime now).minute
      (clockTime now).second - 62135683200) * 1000000 + ((0 : Nat) : Int) = _
    rw [clockTime, hseconds]
    omega
  · rw [← hstored]
    exact Backend.validate_stored hexists rfl rfl

/-! ### Field types -/

theorem deviceId_eq (h : Paired settings topicStart deviceId) :
    Backend.deviceId ((JsonText.string deviceId).value nearest) =
      .valid (deviceId.map UInt8.toNat) := by
  have hvalid := h.provisionable
  rw [validateProvisionableDeviceId, Bool.and_eq_true] at hvalid
  rw [value, Backend.deviceId, if_pos hvalid.1]

theorem deviceTimestamp_eq (nearest : ℚ → ℚ) {timeValid : Bool} {now : Nat} {timestamp : List UInt8}
    (h : systemTimeGetTimestamp timeValid now = some timestamp) :
    Backend.deviceTimestamp ((JsonText.string timestamp).value nearest) =
      .valid (clockTime now) := by
  rw [value, Backend.deviceTimestamp, (clockTime_spec h).2.2]

theorem strictFloat_eq (h : Rounds nearest) {q : ℚ} (low high : Nat) (hlow : -(low : ℚ) ≤ q)
    (hhigh : q ≤ high) (hlow' : low ≤ 2 ^ 53) (hhigh' : high ≤ 2 ^ 53) :
    Backend.strictFloat (-low) high ((ofRat q).value nearest) = .valid (nearest (printed q)) := by
  rw [ofRat, value, Backend.strictFloat]
  exact if_pos (h.printed_bounds hlow hhigh hlow' hhigh')

/-- The texts of the firmware are those of the schemas. -/
theorem map_toText :
    (∀ s : OverallStatus, (ascii s.toText).map UInt8.toNat = Text.ofString s.toText) ∧
    (∀ s : Availability, (ascii s.toText).map UInt8.toNat = Text.ofString s.toText) ∧
    (∀ s : ComponentStatus, (ascii s.toText).map UInt8.toNat = Text.ofString s.toText) ∧
    (∀ s : HealthError, (ascii s.toText).map UInt8.toNat = Text.ofString s.toText) ∧
    (∀ s : MachineStatus, (ascii s.toText).map UInt8.toNat = Text.ofString s.toText) := by
  refine ⟨?_, ?_, ?_, ?_, ?_⟩ <;> intro s <;> cases s <;> rfl

theorem literalOne_eq (nearest : ℚ → ℚ) :
    Backend.literalOne ((JsonText.integer 1).value nearest) = .valid () := by
  rw [value]
  rfl

theorem literal_eq {values : List String} {s : String}
    (hascii : (ascii s).map UInt8.toNat = Text.ofString s) (h : s ∈ values) :
    Backend.literal values ((JsonText.string (ascii s)).value nearest) =
      .valid (Text.ofString s) := by
  rw [value, hascii, Backend.literal, if_pos]
  exact List.contains_iff_mem.mpr (List.mem_map_of_mem h)

/-! ### Samples -/

/-- What is stored of a sample. -/
def storedSample (nearest : ℚ → ℚ) (now : Nat) (telemetry : Telemetry) :
    Backend.TelemetryMessage where
  deviceId := telemetry.deviceId.map UInt8.toNat
  timestamp := clockTime now
  temperature := nearest (printed telemetry.temperature)
  humidity := nearest (printed telemetry.humidity)
  machineStatus := Text.ofString telemetry.machineStatus

theorem distinct_telemetryMembers (telemetry : Telemetry) :
    Distinct (telemetryMembers telemetry) := by
  change List.Nodup ["device_id", "timestamp", "temperature", "humidity", "machine_status"]
  decide

theorem check_sample (h : Paired settings topicStart deviceId) (hrounds : Rounds nearest)
    {timeValid : Bool} {now : Nat} {timestamp : List UInt8} {telemetry : Telemetry}
    (hclock : systemTimeGetTimestamp timeValid now = some timestamp)
    (hsample : IsSample deviceId timestamp telemetry) :
    Backend.TelemetryMessage.check (.object (valueMembers nearest (telemetryMembers telemetry))) =
      .valid (storedSample nearest now telemetry) := by
  have hdistinct := distinct_telemetryMembers telemetry
  obtain ⟨status, hstatus⟩ := hsample.machineStatus
  have hstatusMem : status.toText ∈ Backend.machineStatuses := by cases status <;> decide
  have htemperature : Backend.strictFloat (-40) 85 ((ofRat telemetry.temperature).value nearest) =
      .valid (nearest (printed telemetry.temperature)) := by
    have hbounds := hsample.temperature
    have hchecked := strictFloat_eq hrounds 40 85 (by push_cast; linarith)
      (by push_cast; linarith) (by decide) (by decide)
    exact_mod_cast hchecked
  have hhumidity : Backend.strictFloat 0 100 ((ofRat telemetry.humidity).value nearest) =
      .valid (nearest (printed telemetry.humidity)) := by
    have hbounds := hsample.humidity
    have hchecked := strictFloat_eq hrounds 0 100 (by push_cast; linarith)
      (by push_cast; linarith) (by decide) (by decide)
    exact_mod_cast hchecked
  rw [Backend.TelemetryMessage.check,
    field_valueMembers _ hdistinct (.head _), field_valueMembers _ hdistinct (.tail _ (.head _)),
    field_valueMembers _ hdistinct (.tail _ (.tail _ (.head _))),
    field_valueMembers _ hdistinct (.tail _ (.tail _ (.tail _ (.head _)))),
    field_valueMembers _ hdistinct (.tail _ (.tail _ (.tail _ (.tail _ (.head _))))),
    hsample.deviceId, deviceId_eq h, hsample.timestamp, deviceTimestamp_eq nearest hclock, hstatus,
    literal_eq (map_toText.2.2.2.2 status) hstatusMem, htemperature, hhumidity,
    noExtra_valueMembers]
  · rw [storedSample, hsample.deviceId, hstatus]
    rfl
  · rfl

/-! ### Snapshots -/

/-- Keys of ASCII characters are dumped as they are. -/
def DumpsAscii (dumpKey : Text → Except PyError Text) : Prop :=
  ∀ key, (∀ c ∈ key, c < 0x80) → dumpKey key = .ok key

/-- A dictionary whose values are accepted and dumped as they were published is so, too. -/
theorem exists_dictOf {α : Type} {check : Json → Checked α} {dump : α → Json}
    (hkeys : DumpsAscii dumpKey) (hdistinct : Distinct members)
    (hascii : ∀ key ∈ members.map Prod.fst, ∀ c ∈ Text.ofString key, c < 0x80)
    (h : ∀ m ∈ members, ∃ a, check (m.2.value nearest) = .valid a ∧
      dump a = m.2.value nearest) :
    ∃ items, dictOf check ((JsonText.object members).value nearest) = .valid items ∧
      dumpItems dumpKey dump items = .ok ((JsonText.object members).value nearest) := by
  have hitems : ∃ items : List (Text × α),
      Check.all (fun m ↦ Prod.mk m.1 <$> check m.2) (valueMembers nearest members) =
        .valid items ∧
      (items.mapM fun item ↦ (dumpKey item.1).map (·, dump item.2)) =
        .ok (valueMembers nearest members) := by
    clear hdistinct
    induction members with
    | nil => exact ⟨[], rfl, rfl⟩
    | cons m rest ih =>
      rw [List.map_cons] at hascii
      obtain ⟨a, hcheck, hdump⟩ := h m List.mem_cons_self
      obtain ⟨items, hall, hmap⟩ := ih (fun key hkey ↦ hascii key (List.mem_cons_of_mem _ hkey))
        fun m hm ↦ h m (List.mem_cons_of_mem _ hm)
      have hkey := hkeys (Text.ofString m.1) (hascii m.1 List.mem_cons_self)
      refine ⟨(Text.ofString m.1, a) :: items, ?_, ?_⟩
      · rw [valueMembers, Check.all, hcheck, hall]
        rfl
      · rw [valueMembers, List.mapM_cons, hkey, hmap, hdump]
        rfl
  obtain ⟨items, hall, hmap⟩ := hitems
  have hsame : Json.items (valueMembers nearest members) = valueMembers nearest members :=
    Json.items_of_nodup (nodup_valueMembers hdistinct)
  refine ⟨items, ?_, ?_⟩
  · rw [value, dictOf, hsame, hall]
  · rw [dumpItems, hmap, value]
    exact congrArg (fun members ↦ Except.ok (Json.object members)) hsame

theorem nullable_eq (nearest : ℚ → ℚ) {timestamp : Option (List UInt8)}
    (h : ∀ t ∈ timestamp, IsTimestamp t) :
    ∃ time : Option DateTime,
      Backend.nullable Backend.deviceTimestamp ((timestampDocument timestamp).value nearest) =
        .valid time ∧
      time.map DateTime.stored = timestamp.map (List.map UInt8.toNat) := by
  cases timestamp with
  | none => exact ⟨none, rfl, rfl⟩
  | some t =>
    obtain ⟨now, hclock⟩ := h t rfl
    refine ⟨some (clockTime now), ?_, congrArg some (clockTime_spec hclock).2.1⟩
    have htime := deviceTimestamp_eq nearest hclock
    rw [value] at htime
    rw [timestampDocument, value, Backend.nullable, htime]
    · rfl
    · simp

theorem timeJson_eq (nearest : ℚ → ℚ) {time : Option DateTime} {timestamp : Option (List UInt8)}
    (h : time.map DateTime.stored = timestamp.map (List.map UInt8.toNat)) :
    Backend.timeJson time = (timestampDocument timestamp).value nearest := by
  cases time with
  | none =>
    cases timestamp with
    | none => rfl
    | some t => cases h
  | some time =>
    cases timestamp with
    | none => cases h
    | some t =>
      have htext := Option.some.inj h
      rw [timestampDocument, value, ← htext]
      rfl

theorem distinct_componentMembers (component : ComponentSnapshot) :
    Distinct (componentMembers component) := by
  change List.Nodup ["status", "error_code", "updated_at"]
  decide

/-- A component is accepted, and its dump is the document. -/
theorem check_component (nearest : ℚ → ℚ) {component : ComponentSnapshot}
    (h : ∀ t ∈ component.updatedAt, IsTimestamp t) :
    ∃ message, Backend.ComponentHealthMessage.check ((componentDocument component).value nearest) =
        .valid message ∧
      message.dump = (componentDocument component).value nearest := by
  have hdistinct := distinct_componentMembers component
  have hstatus := map_toText.2.2.1 component.status
  have herror := map_toText.2.2.2.1 component.error
  have hstatusMem : component.status.toText ∈ ["healthy", "degraded", "fault", "unknown"] := by
    cases component.status <;> decide
  have herrorMem : component.error.toText ∈ Backend.diagnosticErrorCodes := by
    cases component.error <;> decide
  obtain ⟨time, htime, hstored⟩ := nullable_eq nearest h
  refine ⟨⟨Text.ofString component.status.toText, Text.ofString component.error.toText, time⟩,
    ?_, ?_⟩
  · rw [componentDocument, value, Backend.ComponentHealthMessage.check,
      field_valueMembers _ hdistinct (.head _), field_valueMembers _ hdistinct (.tail _ (.head _)),
      field_valueMembers _ hdistinct (.tail _ (.tail _ (.head _))), literal_eq hstatus hstatusMem,
      literal_eq herror herrorMem, htime, noExtra_valueMembers]
    · rfl
    · rfl
  · rw [Backend.ComponentHealthMessage.dump, timeJson_eq nearest hstored, componentDocument, value,
      componentMembers]
    simp only [valueMembers, value, hstatus, herror]

/-- What is stored of a snapshot. -/
def storedSnapshot (nearest : ℚ → ℚ) (deviceId : List UInt8) (timestamp : Option (List UInt8))
    (snapshot : HealthSnapshot) : Backend.HealthDump where
  deviceId := deviceId.map UInt8.toNat
  timestamp := timestamp.map (List.map UInt8.toNat)
  status := Text.ofString snapshot.status.toText
  availability := Text.ofString snapshot.availability.toText
  components := (JsonText.object (componentsMembers snapshot.components)).value nearest
  counters := (JsonText.object (countersMembers snapshot.counters)).value nearest
  metrics := (JsonText.object (metricsMembers snapshot.metrics)).value nearest

theorem distinct_healthMembers (deviceId : List UInt8) (timestamp : Option (List UInt8))
    (snapshot : HealthSnapshot) : Distinct (healthMembers deviceId timestamp snapshot) := by
  change List.Nodup ["schema_version", "device_id", "timestamp", "status", "availability",
    "components", "counters", "metrics"]
  decide

theorem distinct_componentsMembers (components : HealthComponent → ComponentSnapshot) :
    Distinct (componentsMembers components) := by
  change List.Nodup ["sensor", "machine_status", "system_time", "mqtt"]
  decide

theorem distinct_countersMembers (counters : HealthCounters) :
    Distinct (countersMembers counters) := by
  change List.Nodup ["samples_ok", "samples_rejected", "publish_ok", "publish_failed",
    "machine_status_errors"]
  decide

theorem distinct_metricsMembers (metrics : HealthMetrics) : Distinct (metricsMembers metrics) := by
  change List.Nodup ["uptime_seconds", "free_heap_bytes", "minimum_free_heap_bytes",
    "wifi_rssi_dbm"]
  decide

/-- The stored payload is the published document. -/
theorem payload_storedSnapshot (nearest : ℚ → ℚ) (deviceId : List UInt8)
    (timestamp : Option (List UInt8)) (snapshot : HealthSnapshot) :
    (storedSnapshot nearest deviceId timestamp snapshot).payload =
      (healthDocument deviceId timestamp snapshot).value nearest := by
  have hstatus := map_toText.1 snapshot.status
  have havailability := map_toText.2.1 snapshot.availability
  rw [Backend.HealthDump.payload, healthDocument, value, healthMembers]
  simp only [valueMembers, storedSnapshot]
  cases timestamp <;> simp [timestampDocument, value, hstatus, havailability]

theorem exists_components (nearest : ℚ → ℚ) (hkeys : DumpsAscii dumpKey) {snapshot : HealthSnapshot}
    (h : snapshot.Stamped) : ∃ items,
      dictOf Backend.ComponentHealthMessage.check
        ((JsonText.object (componentsMembers snapshot.components)).value nearest) = .valid items ∧
      dumpItems dumpKey Backend.ComponentHealthMessage.dump items =
        .ok ((JsonText.object (componentsMembers snapshot.components)).value nearest) := by
  have hascii : ∀ key ∈ ["sensor", "machine_status", "system_time", "mqtt"],
      ∀ c ∈ Text.ofString key, c < 0x80 := by decide
  apply exists_dictOf hkeys (distinct_componentsMembers snapshot.components) hascii
  intro m hm
  have hcomponent : ∃ c, m.2 = componentDocument (snapshot.components c) := by
    simp only [componentsMembers, List.mem_cons, List.not_mem_nil, or_false] at hm
    rcases hm with rfl | rfl | rfl | rfl
    all_goals exact ⟨_, rfl⟩
  obtain ⟨c, hc⟩ := hcomponent
  rw [hc]
  exact check_component nearest (h c)

theorem exists_counters (nearest : ℚ → ℚ) (hkeys : DumpsAscii dumpKey)
    (counters : HealthCounters) : ∃ items,
    dictOf Backend.strictNonNegativeInt
      ((JsonText.object (countersMembers counters)).value nearest) = .valid items ∧
    dumpItems dumpKey Json.integer items =
      .ok ((JsonText.object (countersMembers counters)).value nearest) := by
  have hascii : ∀ key ∈ ["samples_ok", "samples_rejected", "publish_ok", "publish_failed",
      "machine_status_errors"], ∀ c ∈ Text.ofString key, c < 0x80 := by decide
  apply exists_dictOf hkeys (distinct_countersMembers counters) hascii
  intro m hm
  have hcounter : ∃ n : Nat, m.2 = .integer n := by
    simp only [countersMembers, List.mem_cons, List.not_mem_nil, or_false] at hm
    rcases hm with rfl | rfl | rfl | rfl | rfl
    all_goals exact ⟨_, rfl⟩
  obtain ⟨n, hn⟩ := hcounter
  rw [hn, value, Backend.strictNonNegativeInt, if_pos (Int.natCast_nonneg n)]
  exact ⟨n, rfl, rfl⟩

theorem exists_metrics (nearest : ℚ → ℚ) (hkeys : DumpsAscii dumpKey)
    (metrics : HealthMetrics) : ∃ items,
    dictOf Backend.metricValue
      ((JsonText.object (metricsMembers metrics)).value nearest) = .valid items ∧
    dumpItems dumpKey id items =
      .ok ((JsonText.object (metricsMembers metrics)).value nearest) := by
  have hascii : ∀ key ∈ ["uptime_seconds", "free_heap_bytes", "minimum_free_heap_bytes",
      "wifi_rssi_dbm"], ∀ c ∈ Text.ofString key, c < 0x80 := by decide
  apply exists_dictOf hkeys (distinct_metricsMembers metrics) hascii
  intro m hm
  have hmetric : m.2 = .null ∨ ∃ n, m.2 = .integer n := by
    simp only [metricsMembers, rssiDocument, List.mem_cons, List.not_mem_nil, or_false] at hm
    rcases hm with rfl | rfl | rfl | rfl
    · exact .inr ⟨_, rfl⟩
    · exact .inr ⟨_, rfl⟩
    · exact .inr ⟨_, rfl⟩
    · dsimp only
      split
      · exact .inr ⟨_, rfl⟩
      · exact .inl rfl
  rcases hmetric with hm | ⟨n, hm⟩
  · rw [hm, value]
    exact ⟨.null, rfl, rfl⟩
  · rw [hm, value]
    exact ⟨.integer n, rfl, rfl⟩

/-- A snapshot is accepted, and its dump is the document. -/
theorem check_snapshot (nearest : ℚ → ℚ) (h : Paired settings topicStart deviceId)
    (hkeys : DumpsAscii dumpKey)
    {timestamp : Option (List UInt8)} {snapshot : HealthSnapshot}
    (htime : ∀ t ∈ timestamp, IsTimestamp t) (hsnapshot : snapshot.Stamped) :
    ∃ message, Backend.HealthMessage.check
        (.object (valueMembers nearest (healthMembers deviceId timestamp snapshot))) =
        .valid message ∧
      message.modelDump dumpKey = .ok (storedSnapshot nearest deviceId timestamp snapshot) := by
  have hdistinct := distinct_healthMembers deviceId timestamp snapshot
  have hstatus := map_toText.1 snapshot.status
  have havailability := map_toText.2.1 snapshot.availability
  have hstatusMem : snapshot.status.toText ∈ ["healthy", "degraded"] := by
    cases snapshot.status <;> decide
  have havailabilityMem : snapshot.availability.toText ∈ ["online", "offline"] := by
    cases snapshot.availability <;> decide
  obtain ⟨time, htimeValid, hstored⟩ := nullable_eq nearest htime
  obtain ⟨components, hcomponents, hcomponentsDump⟩ := exists_components nearest hkeys hsnapshot
  obtain ⟨counters, hcounters, hcountersDump⟩ := exists_counters nearest hkeys snapshot.counters
  obtain ⟨metrics, hmetrics, hmetricsDump⟩ := exists_metrics nearest hkeys snapshot.metrics
  refine ⟨⟨deviceId.map UInt8.toNat, time, Text.ofString snapshot.status.toText,
    Text.ofString snapshot.availability.toText, components, counters, metrics⟩, ?_, ?_⟩
  · rw [Backend.HealthMessage.check,
      field_valueMembers _ hdistinct (.head _), field_valueMembers _ hdistinct (.tail _ (.head _)),
      field_valueMembers _ hdistinct (.tail _ (.tail _ (.head _))),
      field_valueMembers _ hdistinct (.tail _ (.tail _ (.tail _ (.head _)))),
      field_valueMembers _ hdistinct (.tail _ (.tail _ (.tail _ (.tail _ (.head _))))),
      field_valueMembers _ hdistinct (.tail _ (.tail _ (.tail _ (.tail _ (.tail _ (.head _)))))),
      field_valueMembers _ hdistinct
        (.tail _ (.tail _ (.tail _ (.tail _ (.tail _ (.tail _ (.head _))))))),
      field_valueMembers _ hdistinct
        (.tail _ (.tail _ (.tail _ (.tail _ (.tail _ (.tail _ (.tail _ (.head _)))))))),
      literalOne_eq, deviceId_eq h, htimeValid, literal_eq hstatus hstatusMem,
      literal_eq havailability havailabilityMem, hcomponents, hcounters, hmetrics,
      noExtra_valueMembers]
    · rfl
    · rfl
  · rw [Backend.HealthMessage.modelDump]
    dsimp only
    rw [hcomponentsDump, hcountersDump, hmetricsDump, hstored]
    rfl

/-! ### Availability -/

theorem distinct_availabilityMembers (deviceId : List UInt8) (availability : Availability) :
    Distinct (availabilityMembers deviceId availability) := by
  change List.Nodup ["schema_version", "device_id", "status"]
  decide

theorem check_availability (h : Paired settings topicStart deviceId)
    (availability : Availability) : Backend.AvailabilityMessage.check
      (.object (valueMembers nearest (availabilityMembers deviceId availability))) =
    .valid ⟨deviceId.map UInt8.toNat, Text.ofString availability.toText⟩ := by
  have hdistinct := distinct_availabilityMembers deviceId availability
  have hmem : availability.toText ∈ ["online", "offline"] := by cases availability <;> decide
  rw [Backend.AvailabilityMessage.check, field_valueMembers _ hdistinct (.head _),
    field_valueMembers _ hdistinct (.tail _ (.head _)),
    field_valueMembers _ hdistinct (.tail _ (.tail _ (.head _))), literalOne_eq, deviceId_eq h,
    literal_eq (map_toText.2.1 availability) hmem, noExtra_valueMembers]
  · rfl
  · rfl

end

end EdgeMonitor.Scripts
