import EdgeMonitor.Base.Machine
import EdgeMonitor.Backend.Subscriber

/-!
# Availability

Library `Backend`. What the registry says of a device after a sequence of messages, from
`mark_seen`, `upsert_health` and `set_availability`.
-/

namespace EdgeMonitor.Backend
open EdgeMonitor.Base

/-! ### The collector -/

/-- A message as it comes in. -/
structure Arrival where
  topic : Text
  rawPayload : List UInt8
  receivedAt : Instant

section

variable (settings : CollectorSettings) (loads : List UInt8 → Except PyError Json)
  (dumpKey : Text → Except PyError Text)

/-- `on_message`: one message after another is processed; a step outputs how that ended. -/
def collector : Machine Database Arrival (Except PyError Unit) where
  step db arrival :=
    let result := (processMessage settings loads dumpKey arrival.receivedAt arrival.topic
      arrival.rawPayload).run db
    (result.2, result.1)

/-- A message for a device that is accepted. -/
structure Contact (deviceId : Text) (kind : MessageKind) (arrival : Arrival) : Prop where
  routed : routeTopic settings arrival.topic = some (deviceId, kind)
  accepted : ∀ db, ((collector settings loads dumpKey).step db arrival).2 = .ok ()

end

/-- The registry row of a device but for `last_seen`. -/
def standing (deviceId : Text) (db : Database) : Option DeviceRow :=
  (db.devices.find deviceId).map fun row ↦ { row with lastSeen := none }

/-- Telemetry of a per-device topic, which says nothing of availability. -/
def Unannounced (settings : CollectorSettings) (deviceId : Text) (arrival : Arrival) : Prop :=
  arrival.topic ≠ settings.mqttTopic ∧
    routeTopic settings arrival.topic = some (deviceId, .telemetry)

instance (settings : CollectorSettings) (deviceId : Text) (arrival : Arrival) :
    Decidable (Unannounced settings deviceId arrival) := inferInstanceAs (Decidable (_ ∧ _))

/-- The row, but for `last_seen`, that a first message of telemetry or health inserts. -/
def firstContact (settings : CollectorSettings) (deviceId : Text) (arrival : Arrival) : DeviceRow :=
  ⟨deviceId, if Unannounced settings deviceId arrival then offlineText else onlineText, none, none⟩

section

variable {settings : CollectorSettings} {loads : List UInt8 → Except PyError Json}
  {dumpKey : Text → Except PyError Text} {deviceId : Text} {kind : MessageKind} {arrival : Arrival}

/-- A message that is accepted once is accepted always. -/
theorem accepted_of_accepted {db : Database}
    (hroute : routeTopic settings arrival.topic = some (deviceId, kind))
    (h : ((collector settings loads dumpKey).step db arrival).2 = .ok ()) :
    Contact settings loads dumpKey deviceId kind arrival := by
  refine ⟨hroute, fun db' ↦ ?_⟩
  obtain ⟨e, herror⟩ | ⟨_, _, _, _, _, _, _, _, hstored⟩ :=
    @processMessage_of_route settings loads dumpKey arrival.receivedAt arrival.topic deviceId kind
      arrival.rawPayload hroute
  · have hresult := congrArg Prod.fst (herror db)
    cases h.symm.trans hresult
  · obtain ⟨_, hrun, -⟩ := hstored db'
    exact congrArg Prod.fst hrun

/-- What an accepted message stores. -/
theorem Contact.stored (h : Contact settings loads dumpKey deviceId kind arrival) (db : Database) :
    ∃ message : Message, (∃ payload, Conforms dumpKey payload kind message) ∧
      message.Stored deviceId arrival.receivedAt (arrival.topic == settings.mqttTopic) db
        ((collector settings loads dumpKey).step db arrival).1 := by
  obtain ⟨e, herror⟩ | ⟨_, _, message, _, _, _, hconforms, _, hstored⟩ :=
    @processMessage_of_route settings loads dumpKey arrival.receivedAt arrival.topic deviceId kind
      arrival.rawPayload h.routed
  · cases (h.accepted db).symm.trans (congrArg Prod.fst (herror db))
  · obtain ⟨db', hrun, heffect⟩ := hstored db
    have hstep : ((collector settings loads dumpKey).step db arrival).1 = db' :=
      congrArg Prod.snd hrun
    rw [hstep]
    exact ⟨message, ⟨_, hconforms⟩, heffect⟩

/-- A row that is set or inserted keeps what it said but for `last_seen`. -/
theorem standing_of_seen {db db' : Database} {availability : Text} {receivedAt : Instant}
    (h : SetsRow db.devices db'.devices deviceId
      ((db.devices.find deviceId).elim ⟨deviceId, availability, some receivedAt, none⟩
        (seenAt receivedAt))) :
    standing deviceId db' =
      some ((standing deviceId db).getD ⟨deviceId, availability, none, none⟩) := by
  rw [standing, h.1, standing]
  cases db.devices.find deviceId with
  | none => rfl
  | some row => rfl

/-- Telemetry and health leave a registered device as it is, and register it otherwise. -/
theorem standing_step (h : Contact settings loads dumpKey deviceId kind arrival)
    (hkind : kind ≠ .availability) (db : Database) :
    standing deviceId ((collector settings loads dumpKey).step db arrival).1 =
      some ((standing deviceId db).getD (firstContact settings deviceId arrival)) := by
  obtain ⟨message, ⟨payload, hconforms⟩, hstored⟩ := h.stored db
  have hroute := h.routed
  cases hconforms with
  | telemetry message hmessage =>
    obtain ⟨rfl, heffect⟩ := hstored
    rw [standing_of_seen heffect.devices, firstContact]
    by_cases hlegacy : arrival.topic = settings.mqttTopic
    · have hannounced : ¬ Unannounced settings message.deviceId arrival :=
        fun hun ↦ hun.1 hlegacy
      rw [if_neg hannounced, if_pos (by simpa using hlegacy)]
    · have hun : Unannounced settings message.deviceId arrival := ⟨hlegacy, hroute⟩
      rw [if_pos hun, if_neg (by simpa using hlegacy)]
  | health message dump hmessage hdump =>
    rw [standing_of_seen hstored.devices, firstContact]
    have hannounced : ¬ Unannounced settings deviceId arrival := by
      intro hun
      rw [hun.2] at hroute
      cases hroute
    rw [if_neg hannounced]
  | availability message hmessage => exact absurd rfl hkind

/-! ### Orders of arrival -/

/-- Accepted messages of telemetry and health of one device. -/
def Contacts (settings : CollectorSettings) (loads : List UInt8 → Except PyError Json)
    (dumpKey : Text → Except PyError Text) (deviceId : Text) (arrivals : List Arrival) : Prop :=
  ∀ arrival ∈ arrivals, ∃ kind, Contact settings loads dumpKey deviceId kind arrival ∧
    kind ≠ .availability

/-- Only the first message can register the device. -/
theorem standing_run {arrivals : List Arrival}
    (h : Contacts settings loads dumpKey deviceId arrivals) (db : Database) :
    standing deviceId ((collector settings loads dumpKey).run db arrivals) =
      arrivals.head?.elim (standing deviceId db) fun first ↦
        some ((standing deviceId db).getD (firstContact settings deviceId first)) := by
  induction arrivals generalizing db with
  | nil => rfl
  | cons first rest ih =>
    obtain ⟨kind, hcontact, hkind⟩ := h first List.mem_cons_self
    rw [Machine.run_cons, ih fun a ha ↦ h a (List.mem_cons_of_mem first ha),
      standing_step hcontact hkind]
    cases rest.head? with
    | none => rfl
    | some next => rfl

theorem firstContact_eq_iff {a b : Arrival} :
    firstContact settings deviceId a = firstContact settings deviceId b ↔
      (Unannounced settings deviceId a ↔ Unannounced settings deviceId b) := by
  have hne : onlineText ≠ offlineText := by decide +kernel
  rw [firstContact, firstContact, DeviceRow.mk.injEq]
  by_cases ha : Unannounced settings deviceId a
  · by_cases hb : Unannounced settings deviceId b
    · simp [ha, hb]
    · simp [ha, hb, hne.symm]
  · by_cases hb : Unannounced settings deviceId b
    · simp [ha, hb, hne]
    · simp [ha, hb]

/-- Two orders of the same messages of telemetry and health leave the registry row of their device
the same but for `last_seen`, exactly when the device is registered before or both orders start
with a message that says the same of availability. -/
theorem arrival_order_iff (db : Database) {xs ys : List Arrival}
    (hxs : Contacts settings loads dumpKey deviceId xs)
    (hys : Contacts settings loads dumpKey deviceId ys)
    (hsame : (xs.map fun a ↦ (a.topic, a.rawPayload)).Perm
      (ys.map fun a ↦ (a.topic, a.rawPayload))) :
    standing deviceId ((collector settings loads dumpKey).run db xs) =
        standing deviceId ((collector settings loads dumpKey).run db ys) ↔
      (db.devices.find deviceId).isSome = true ∨
        ∀ x ∈ xs.head?, ∀ y ∈ ys.head?,
          (Unannounced settings deviceId x ↔ Unannounced settings deviceId y) := by
  rw [standing_run hxs, standing_run hys]
  cases xs with
  | nil =>
    have hnil : ys = [] := by simpa using hsame.symm.eq_nil
    simp [hnil]
  | cons x xs =>
    cases ys with
    | nil => simp at hsame
    | cons y ys =>
      simp only [List.head?_cons, Option.elim_some, Option.some.injEq, Option.mem_def,
        forall_eq']
      rw [standing]
      cases db.devices.find deviceId with
      | none => simp [firstContact_eq_iff]
      | some row => simp

end

/-! ### A device that is new -/

/-- The default topics. -/
def sampleSettings : CollectorSettings where
  mqttTopic := Text.ofString "industrial/telemetry"
  mqttTopicPrefix := Text.ofString "industrial/devices"

/-- A health message without components. -/
def sampleHealth : Json :=
  .object [(Text.ofString "schema_version", .integer 1),
    (Text.ofString "device_id", .string (Text.ofString "pump-1")),
    (Text.ofString "timestamp", .null), (Text.ofString "status", .string (Text.ofString "healthy")),
    (Text.ofString "availability", .string (Text.ofString "online")),
    (Text.ofString "components", .object []), (Text.ofString "counters", .object []),
    (Text.ofString "metrics", .object [])]

/-- Payloads by number. -/
def sampleLoads : List UInt8 → Except PyError Json
  | [0] => .ok (sampleTelemetry "2026-08-22T10:30:45Z")
  | [1] => .ok sampleHealth
  | _ => .error .valueError

def samplePump : Text := Text.ofString "pump-1"

/-- Telemetry and health of one device, at the first or the second of two times. -/
def pumpTelemetry (second : Bool) : Arrival :=
  ⟨Text.ofString "industrial/devices/pump-1/telemetry", [0], if second then 2 else 1⟩
def pumpHealth (second : Bool) : Arrival :=
  ⟨Text.ofString "industrial/devices/pump-1/health", [1], if second then 2 else 1⟩

theorem eq_ok_of_toBool {ε : Type} {r : Except ε Unit} (h : r.toBool = true) : r = .ok () := by
  cases r with
  | ok a => rfl
  | error e => cases h

theorem contact_pumpTelemetry (second : Bool) :
    Contact sampleSettings sampleLoads .ok samplePump .telemetry (pumpTelemetry second) := by
  have haccepted : ∀ second, ((collector sampleSettings sampleLoads .ok).step Database.empty
      (pumpTelemetry second)).2.toBool = true := by decide +kernel
  have hroute : routeTopic sampleSettings (pumpTelemetry second).topic =
      some (samplePump, .telemetry) := by
    change routeTopic _ (Text.ofString _) = _
    decide +kernel
  exact accepted_of_accepted hroute (eq_ok_of_toBool (haccepted second))

theorem contact_pumpHealth (second : Bool) :
    Contact sampleSettings sampleLoads .ok samplePump .health (pumpHealth second) := by
  have haccepted : ∀ second, ((collector sampleSettings sampleLoads .ok).step Database.empty
      (pumpHealth second)).2.toBool = true := by decide +kernel
  have hroute : routeTopic sampleSettings (pumpHealth second).topic =
      some (samplePump, .health) := by
    change routeTopic _ (Text.ofString _) = _
    decide +kernel
  exact accepted_of_accepted hroute (eq_ok_of_toBool (haccepted second))

theorem contacts_pump (second second' : Bool) :
    Contacts sampleSettings sampleLoads .ok samplePump
        [pumpTelemetry second, pumpHealth second'] ∧
      Contacts sampleSettings sampleLoads .ok samplePump
        [pumpHealth second, pumpTelemetry second'] := by
  constructor
  · intro arrival h
    rcases List.mem_pair.mp h with rfl | rfl
    · exact ⟨_, contact_pumpTelemetry second, by simp⟩
    · exact ⟨_, contact_pumpHealth second', by simp⟩
  · intro arrival h
    rcases List.mem_pair.mp h with rfl | rfl
    · exact ⟨_, contact_pumpHealth second, by simp⟩
    · exact ⟨_, contact_pumpTelemetry second', by simp⟩

theorem unannounced_pump (second : Bool) :
    Unannounced sampleSettings samplePump (pumpTelemetry second) ∧
      ¬ Unannounced sampleSettings samplePump (pumpHealth second) := by
  constructor
  · refine ⟨?_, (contact_pumpTelemetry second).routed⟩
    change ¬ Text.ofString _ = _
    decide +kernel
  · rintro ⟨-, hroute⟩
    rw [(contact_pumpHealth second).routed] at hroute
    cases hroute

/-- Telemetry before health leaves a new device offline, health before telemetry online. -/
theorem arrival_order_fails :
    (¬ ∀ (settings : CollectorSettings) (loads : List UInt8 → Except PyError Json)
      (dumpKey : Text → Except PyError Text) (deviceId : Text) (db : Database)
      (xs ys : List Arrival), Contacts settings loads dumpKey deviceId xs →
      Contacts settings loads dumpKey deviceId ys →
      (xs.map fun a ↦ (a.topic, a.rawPayload)).Perm (ys.map fun a ↦ (a.topic, a.rawPayload)) →
      standing deviceId ((collector settings loads dumpKey).run db xs) =
        standing deviceId ((collector settings loads dumpKey).run db ys)) ∧
    standing samplePump ((collector sampleSettings sampleLoads .ok).run .empty
        [pumpTelemetry false, pumpHealth true]) = some ⟨samplePump, offlineText, none, none⟩ ∧
    standing samplePump ((collector sampleSettings sampleLoads .ok).run .empty
        [pumpHealth false, pumpTelemetry true]) = some ⟨samplePump, onlineText, none, none⟩ := by
  obtain ⟨hun, -⟩ := unannounced_pump false
  obtain ⟨-, hann⟩ := unannounced_pump false
  have htelemetry : standing samplePump ((collector sampleSettings sampleLoads .ok).run .empty
      [pumpTelemetry false, pumpHealth true]) = some ⟨samplePump, offlineText, none, none⟩ := by
    rw [standing_run (contacts_pump false true).1, List.head?_cons, Option.elim_some, firstContact,
      if_pos hun]
    rfl
  have hhealth : standing samplePump ((collector sampleSettings sampleLoads .ok).run .empty
      [pumpHealth false, pumpTelemetry true]) = some ⟨samplePump, onlineText, none, none⟩ := by
    rw [standing_run (contacts_pump false true).2, List.head?_cons, Option.elim_some, firstContact,
      if_neg hann]
    rfl
  refine ⟨fun h ↦ ?_, htelemetry, hhealth⟩
  have hsame := h sampleSettings sampleLoads .ok samplePump .empty _ _ (contacts_pump false true).1
    (contacts_pump false true).2 (List.Perm.swap _ _ _)
  rw [htelemetry, hhealth] at hsame
  have hne : offlineText ≠ onlineText := by decide +kernel
  exact hne (congrArg DeviceRow.reportedAvailability (Option.some.inj hsame))

/-- The two orders differ on a new device. -/
theorem arrival_order_iff_sample :
    standing samplePump ((collector sampleSettings sampleLoads .ok).run .empty
        [pumpTelemetry false, pumpHealth true]) ≠
      standing samplePump ((collector sampleSettings sampleLoads .ok).run .empty
        [pumpHealth false, pumpTelemetry true]) := by
  have hiff := arrival_order_iff .empty (contacts_pump false true).1 (contacts_pump false true).2
    (List.Perm.swap _ _ _)
  rw [Ne, hiff]
  rintro (h | h)
  · cases h
  · have hsame := h _ rfl _ rfl
    exact (unannounced_pump false).2 (hsame.mp (unannounced_pump false).1)

end EdgeMonitor.Backend
