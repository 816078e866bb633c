import EdgeMonitor.Base.Check
import EdgeMonitor.Backend.Database
import EdgeMonitor.Backend.DeviceTimestamp
import EdgeMonitor.Backend.Validation

/-!
# Message schemas

Library `Backend`. The models of `backend/collector/schemas.py` as checks of a JSON value. The
fields of a model are checked in their order. A check that fails is noted, and the others go on;
at the end `model_validate` raises `ValidationError` if there was one. An exception other than
`ValueError` in a validator ends the validation at once.
-/

namespace EdgeMonitor.Backend
open EdgeMonitor.Base

/-! ### Field types -/

/-- A check of one value of a message. -/
abbrev Checked (α : Type) := Check PyError α

/-- A required field. -/
def field {α : Type} (members : List (Text × Json)) (name : String) (check : Json → Checked α) :
    Checked α :=
  match Json.member members (Text.ofString name) with
  | none => .invalid
  | some value => check value

/-- `ConfigDict(extra="forbid")`. -/
def noExtra (members : List (Text × Json)) (names : List String) : Checked Unit :=
  if members.all fun m ↦ (names.map Text.ofString).contains m.1 then .valid () else .invalid

/-- `DeviceId` with its validator, `schemas.py:46–49`. -/
def deviceId : Json → Checked Text
  | .string s => if validateDeviceId s then .valid s else .invalid
  | _ => .invalid

/-- `DeviceTimestamp`. pydantic turns a `ValueError` of the validator into a refusal. -/
def deviceTimestamp (value : Json) : Checked DateTime :=
  match validateDeviceTimestamp value with
  | .ok d => .valid d
  | .error (.valueError _) => .invalid
  | .error .overflowError => .raised .overflowError

/-- A value that may be null. -/
def nullable {α : Type} (check : Json → Checked α) : Json → Checked (Option α)
  | .null => .valid none
  | value => some <$> check value

/-- `Literal` of texts. -/
def literal (values : List String) : Json → Checked Text
  | .string s => if (values.map Text.ofString).contains s then .valid s else .invalid
  | _ => .invalid

/-- `Literal[1]`, by Python's equality. -/
def literalOne : Json → Checked Unit
  | .integer n => if n = 1 then .valid () else .invalid
  | .boolean b => if b then .valid () else .invalid
  | .float x => if x = .finite 1 then .valid () else .invalid
  | _ => .invalid

/-- A strict finite `float` in a range. Integers are accepted, booleans are not. -/
def strictFloat (ge le : ℚ) : Json → Checked ℚ
  | .integer n => if ge ≤ n ∧ n ≤ le then .valid (n : ℚ) else .invalid
  | .float (.finite q) => if ge ≤ q ∧ q ≤ le then .valid q else .invalid
  | _ => .invalid

/-- `StrictNonNegativeInt`. -/
def strictNonNegativeInt : Json → Checked Int
  | .integer n => if 0 ≤ n then .valid n else .invalid
  | _ => .invalid

/-- `MetricValue`: a strict integer, a strict finite float, or null, as it is. -/
def metricValue : Json → Checked Json
  | .null => .valid .null
  | .integer n => .valid (.integer n)
  | .float (.finite q) => .valid (.float (.finite q))
  | _ => .invalid

/-- `dict[str, …]`. -/
def dictOf {α : Type} (check : Json → Checked α) : Json → Checked (List (Text × α))
  | .object members => Check.all (fun m ↦ Prod.mk m.1 <$> check m.2) (Json.items members)
  | _ => .invalid

/-- The result of `model_validate`. -/
def modelValidate {α : Type} (check : Json → Checked α) (value : Json) : Except PyError α :=
  (check value).toExcept .validationError

/-! ### Models -/

/-- `MachineStatus`. -/
def machineStatuses : List String := ["running", "stopped", "unknown"]

/-- `DiagnosticErrorCode`. -/
def diagnosticErrorCodes : List String :=
  ["none", "not_initialized", "communication_failed", "read_failed", "value_not_finite",
    "temperature_out_of_range", "humidity_out_of_range", "time_not_synchronized",
    "mqtt_disconnected", "publish_failed", "machine_status_unavailable"]

/-- `TelemetryMessage`. -/
structure TelemetryMessage where
  deviceId : Text
  timestamp : DateTime
  temperature : ℚ
  humidity : ℚ
  machineStatus : Text
  deriving DecidableEq

/-- `ComponentHealthMessage`. -/
structure ComponentHealthMessage where
  status : Text
  errorCode : Text
  updatedAt : Option DateTime

/-- `HealthMessage`. -/
structure HealthMessage where
  deviceId : Text
  timestamp : Option DateTime
  status : Text
  availability : Text
  components : List (Text × ComponentHealthMessage)
  counters : List (Text × Int)
  metrics : List (Text × Json)

/-- `AvailabilityMessage`. -/
structure AvailabilityMessage where
  deviceId : Text
  status : Text

/-- The fields of `TelemetryMessage`, `schemas.py:37–49`. -/
def TelemetryMessage.check : Json → Checked TelemetryMessage
  | .object members =>
    (fun deviceId timestamp temperature humidity machineStatus _ ↦
      ⟨deviceId, timestamp, temperature, humidity, machineStatus⟩) <$>
      field members "device_id" Backend.deviceId <*>
      field members "timestamp" deviceTimestamp <*>
      field members "temperature" (strictFloat (-40) 85) <*>
      field members "humidity" (strictFloat 0 100) <*>
      field members "machine_status" (literal machineStatuses) <*>
      noExtra members ["device_id", "timestamp", "temperature", "humidity", "machine_status"]
  | _ => .invalid

/-- The fields of `ComponentHealthMessage`, `schemas.py:52–57`. -/
def ComponentHealthMessage.check : Json → Checked ComponentHealthMessage
  | .object members =>
    (fun status errorCode updatedAt _ ↦ ⟨status, errorCode, updatedAt⟩) <$>
      field members "status" (literal ["healthy", "degraded", "fault", "unknown"]) <*>
      field members "error_code" (literal diagnosticErrorCodes) <*>
      field members "updated_at" (nullable deviceTimestamp) <*>
      noExtra members ["status", "error_code", "updated_at"]
  | _ => .invalid

/-- The fields of `HealthMessage`, `schemas.py:60–72`. -/
def HealthMessage.check : Json → Checked HealthMessage
  | .object members =>
    (fun _ deviceId timestamp status availability components counters metrics _ ↦
      ⟨deviceId, timestamp, status, availability, components, counters, metrics⟩) <$>
      field members "schema_version" literalOne <*>
      field members "device_id" Backend.deviceId <*>
      field members "timestamp" (nullable deviceTimestamp) <*>
      field members "status" (literal ["healthy", "degraded"]) <*>
      field members "availability" (literal ["online", "offline"]) <*>
      field members "components" (dictOf ComponentHealthMessage.check) <*>
      field members "counters" (dictOf strictNonNegativeInt) <*>
      field members "metrics" (dictOf metricValue) <*>
      noExtra members ["schema_version", "device_id", "timestamp", "status", "availability",
        "components", "counters", "metrics"]
  | _ => .invalid

/-- The fields of `AvailabilityMessage`, `schemas.py:75–82`. -/
def AvailabilityMessage.check : Json → Checked AvailabilityMessage
  | .object members =>
    (fun _ deviceId status _ ↦ ⟨deviceId, status⟩) <$>
      field members "schema_version" literalOne <*>
      field members "device_id" Backend.deviceId <*>
      field members "status" (literal ["online", "offline"]) <*>
      noExtra members ["schema_version", "device_id", "status"]
  | _ => .invalid

/-! ### Valid messages -/

theorem modelValidate_eq_ok {α : Type} {check : Json → Checked α} {value : Json} {a : α}
    (h : modelValidate check value = .ok a) : check value = .valid a := by
  rw [modelValidate] at h
  cases hcheck : check value with
  | valid b =>
    rw [hcheck] at h
    cases h
    rfl
  | invalid =>
    rw [hcheck] at h
    cases h
  | raised e =>
    rw [hcheck] at h
    cases h

theorem field_eq_valid {α : Type} {members : List (Text × Json)} {name : String}
    {check : Json → Checked α} {a : α} (h : field members name check = .valid a) :
    ∃ value, Json.member members (Text.ofString name) = some value ∧ check value = .valid a := by
  rw [field] at h
  split at h
  next => cases h
  next value hvalue => exact ⟨value, hvalue, h⟩

theorem deviceId_eq_valid {value : Json} {s : Text} (h : deviceId value = .valid s) :
    value = .string s ∧ validateDeviceId s = true := by
  cases value with
  | string t =>
    rw [deviceId] at h
    split at h
    next hid =>
      cases h
      exact ⟨rfl, hid⟩
    next => cases h
  | _ => cases h

theorem literal_eq_valid {values : List String} {value : Json} {s : Text}
    (h : literal values value = .valid s) : (values.map Text.ofString).contains s = true := by
  cases value with
  | string t =>
    rw [literal] at h
    split at h
    next hin =>
      cases h
      exact hin
    next => cases h
  | _ => cases h

/-- The identity of a model is the text of its member. -/
theorem member_of_deviceId {members : List (Text × Json)} {s : Text}
    (h : field members "device_id" deviceId = .valid s) :
    Json.member members (Text.ofString "device_id") = some (.string s) := by
  obtain ⟨value, hvalue, hs⟩ := field_eq_valid h
  rw [hvalue, (deviceId_eq_valid hs).1]

theorem TelemetryMessage.member_of_valid {members : List (Text × Json)}
    {message : TelemetryMessage} (h : check (.object members) = .valid message) :
    Json.member members (Text.ofString "device_id") = some (.string message.deviceId) := by
  simp only [check, Check.seq_eq_valid, Check.map_eq_valid] at h
  obtain ⟨_, _, ⟨_, _, ⟨_, _, ⟨_, _, ⟨_, _, ⟨_, hid, rfl⟩, _, rfl⟩, _, rfl⟩, _, rfl⟩, _, rfl⟩, _,
    rfl⟩ := h
  exact member_of_deviceId hid

/-- The texts of an accepted health message are those of its literals. -/
theorem HealthMessage.literals_of_valid {payload : Json} {message : HealthMessage}
    (h : check payload = .valid message) :
    (["healthy", "degraded"].map Text.ofString).contains message.status = true ∧
      (["online", "offline"].map Text.ofString).contains message.availability = true := by
  cases payload with
  | object members =>
    simp only [check, Check.seq_eq_valid, Check.map_eq_valid] at h
    obtain ⟨_, _, ⟨_, _, ⟨_, _, ⟨_, _, ⟨_, _, ⟨_, _, ⟨_, _, ⟨_, _, ⟨_, _, rfl⟩, _, rfl⟩, _, rfl⟩,
      hstatus, rfl⟩, havailability, rfl⟩, _, rfl⟩, _, rfl⟩, _, rfl⟩, _, rfl⟩ := h
    obtain ⟨_, _, hs⟩ := field_eq_valid hstatus
    obtain ⟨_, _, ha⟩ := field_eq_valid havailability
    exact ⟨literal_eq_valid hs, literal_eq_valid ha⟩
  | _ => cases h

theorem AvailabilityMessage.literal_of_valid {payload : Json} {message : AvailabilityMessage}
    (h : check payload = .valid message) :
    (["online", "offline"].map Text.ofString).contains message.status = true := by
  cases payload with
  | object members =>
    simp only [check, Check.seq_eq_valid, Check.map_eq_valid] at h
    obtain ⟨_, _, ⟨_, _, ⟨_, _, ⟨_, _, rfl⟩, _, rfl⟩, hstatus, rfl⟩, _, rfl⟩ := h
    obtain ⟨_, _, hs⟩ := field_eq_valid hstatus
    exact literal_eq_valid hs
  | _ => cases h

/-! ### Timestamps of a message -/

/-- The text of a value that is one. -/
def textOf : Json → List Text
  | .string s => [s]
  | _ => []

/-- The text of a member that is one. -/
def textsAt (name : String) : Json → List Text
  | .object members => (Json.member members (Text.ofString name)).elim [] textOf
  | _ => []

/-- The components of a health message. -/
def componentsOf : Json → List (Text × Json)
  | .object members =>
    match Json.member members (Text.ofString "components") with
    | some (.object components) => Json.items components
    | _ => []
  | _ => []

/-- The timestamps of a health message. -/
def healthTimestamps (payload : Json) : List Text :=
  textsAt "timestamp" payload ++
    (componentsOf payload).flatMap fun component ↦ textsAt "updated_at" component.2

/-- A message is accepted or rejected with `ValidationError`. -/
def AcceptedOrRejected {α : Type} (result : Except PyError α) : Prop :=
  (∃ message, result = .ok message) ∨ result = .error .validationError

section
open Check

/-- A field type that raises nothing. -/
def Quiet {α : Type} (check : Json → Checked α) : Prop := ∀ value e, check value ≠ .raised e

theorem quiet_deviceId : Quiet deviceId := by
  intro value e
  cases value with
  | string s =>
    rw [deviceId]
    split <;> simp
  | _ => simp [deviceId]

theorem quiet_literal (values : List String) : Quiet (literal values) := by
  intro value e
  cases value with
  | string s =>
    rw [literal]
    split <;> simp
  | _ => simp [literal]

theorem quiet_literalOne : Quiet literalOne := by
  intro value e
  rw [literalOne.eq_def]
  repeat' split
  all_goals simp

theorem quiet_strictFloat (ge le : ℚ) : Quiet (strictFloat ge le) := by
  intro value e
  rw [strictFloat.eq_def]
  repeat' split
  all_goals simp

theorem quiet_strictNonNegativeInt : Quiet strictNonNegativeInt := by
  intro value e
  rw [strictNonNegativeInt.eq_def]
  repeat' split
  all_goals simp

theorem quiet_metricValue : Quiet metricValue := by
  intro value e
  rw [metricValue.eq_def]
  split
  all_goals simp

theorem quiet_noExtra (members : List (Text × Json)) (names : List String) (e : PyError) :
    noExtra members names ≠ .raised e := by
  rw [noExtra]
  split <;> simp

variable {α : Type} (members : List (Text × Json))

theorem raisesWhen_field {check : Json → Checked α} {p : Json → Prop}
    (h : ∀ value, (check value).RaisesWhen .overflowError (p value)) (name : String) :
    (field members name check).RaisesWhen .overflowError
      (∃ value ∈ Json.member members (Text.ofString name), p value) := by
  rw [field]
  cases Json.member members (Text.ofString name) with
  | none => exact (raisesWhen_false (by simp)).congr (by simp)
  | some value => exact (h value).congr (by simp)

theorem raisesWhen_dictOf {check : Json → Checked α} {p : Json → Prop}
    (h : ∀ value, (check value).RaisesWhen .overflowError (p value)) (value : Json) :
    (dictOf check value).RaisesWhen .overflowError
      (∃ entries, value = .object entries ∧ ∃ m ∈ Json.items entries, p m.2) := by
  cases value with
  | object entries =>
    have hall := RaisesWhen.all (fun m : Text × Json ↦ (h m.2).map (Prod.mk m.1))
      (Json.items entries)
    exact hall.congr (by simp)
  | _ => exact (raisesWhen_false (by simp [dictOf])).congr (by simp)

theorem Quiet.field {check : Json → Checked α} (h : Quiet check) (name : String) (e : PyError) :
    Backend.field members name check ≠ .raised e := by
  rw [Backend.field]
  split
  · simp
  · exact h _ e

theorem Quiet.dictOf {check : Json → Checked α} (h : Quiet check) : Quiet (dictOf check) := by
  intro value
  have hdict := raisesWhen_dictOf (fun value ↦ raisesWhen_false (h value)) value
  exact hdict.2 (by simp)

/-- A timestamp raises when it does not fit. -/
theorem raisesWhen_deviceTimestamp (value : Json) :
    (deviceTimestamp value).RaisesWhen .overflowError (∃ s ∈ textOf value, ¬ FitsUtc s) := by
  cases value with
  | string s =>
    have hiff := @validate_rejects_iff s
    rw [deviceTimestamp]
    cases h : validateDeviceTimestamp (.string s) with
    | ok d =>
      have hfits : FitsUtc s := by
        obtain ⟨m, -, -, -, rfl⟩ := validate_eq_ok_iff.mp h
        exact hiff.mp (.inl ⟨_, h, rfl, rfl⟩)
      exact (raisesWhen_false (by simp)).congr (by simp [textOf, hfits])
    | error e =>
      cases e with
      | valueError message =>
        have hfits : FitsUtc s := hiff.mp (.inr ⟨message, h⟩)
        exact (raisesWhen_false (by simp)).congr (by simp [textOf, hfits])
      | overflowError =>
        have hfits : ¬ FitsUtc s := by
          rw [← hiff, h]
          simp
        constructor
        · exact fun _ ↦ rfl
        · exact fun hnot ↦ absurd ⟨s, List.mem_singleton_self s, hfits⟩ hnot
  | _ =>
    constructor
    · simp [textOf]
    · simp [deviceTimestamp, validateDeviceTimestamp]

theorem raisesWhen_nullable (value : Json) : (nullable deviceTimestamp value).RaisesWhen
    .overflowError (∃ s ∈ textOf value, ¬ FitsUtc s) := by
  cases value with
  | null => exact (raisesWhen_false (by simp [nullable])).congr (by simp [textOf])
  | _ => exact (raisesWhen_deviceTimestamp _).map some

theorem exists_mem_textsAt (name : String) (p : Text → Prop) :
    (∃ value ∈ Json.member members (Text.ofString name), ∃ s ∈ textOf value, p s) ↔
      ∃ s ∈ textsAt name (.object members), p s := by
  rw [textsAt]
  cases Json.member members (Text.ofString name) with
  | none => simp
  | some value => simp

/-- The fields of a telemetry message raise for its timestamp only. -/
theorem TelemetryMessage.raisesWhen_check (payload : Json) :
    (TelemetryMessage.check payload).RaisesWhen .overflowError
      (∃ s ∈ textsAt "timestamp" payload, ¬ FitsUtc s) := by
  cases payload with
  | object members =>
    rw [← exists_mem_textsAt]
    have hid := (raisesWhen_false (e := .overflowError)
      (quiet_deviceId.field members "device_id")).map
      (fun deviceId timestamp temperature humidity machineStatus (_ : Unit) ↦
        TelemetryMessage.mk deviceId timestamp temperature humidity machineStatus)
    have htimestamp := hid.seq (raisesWhen_field members raisesWhen_deviceTimestamp "timestamp")
    have hvalues := ((htimestamp.congr (by rw [false_or])).seq_quiet
      ((quiet_strictFloat (-40) 85).field members "temperature")).seq_quiet
      ((quiet_strictFloat 0 100).field members "humidity")
    exact (hvalues.seq_quiet
      ((quiet_literal machineStatuses).field members "machine_status")).seq_quiet
      (quiet_noExtra members _)
  | _ =>
    constructor
    · simp [textsAt]
    · simp [TelemetryMessage.check]

theorem ComponentHealthMessage.raisesWhen_check (payload : Json) :
    (ComponentHealthMessage.check payload).RaisesWhen .overflowError
      (∃ s ∈ textsAt "updated_at" payload, ¬ FitsUtc s) := by
  cases payload with
  | object members =>
    rw [← exists_mem_textsAt]
    have hstatus := (raisesWhen_false (e := .overflowError) ((quiet_literal
      ["healthy", "degraded", "fault", "unknown"]).field members "status")).map
      (fun status errorCode updatedAt (_ : Unit) ↦
        ComponentHealthMessage.mk status errorCode updatedAt)
    have hcode := hstatus.seq_quiet
      ((quiet_literal diagnosticErrorCodes).field members "error_code")
    have htime := hcode.seq (raisesWhen_field members raisesWhen_nullable "updated_at")
    exact (htime.congr (by rw [false_or])).seq_quiet (quiet_noExtra members _)
  | _ =>
    constructor
    · simp [textsAt]
    · simp [ComponentHealthMessage.check]

/-- The fields of a health message raise for its timestamp and those of its components. -/
theorem HealthMessage.raisesWhen_check (payload : Json) :
    (HealthMessage.check payload).RaisesWhen .overflowError
      (∃ s ∈ healthTimestamps payload, ¬ FitsUtc s) := by
  cases payload with
  | object members =>
    have hversion := (raisesWhen_false (e := .overflowError)
      (quiet_literalOne.field members "schema_version")).map
      (fun _ deviceId timestamp status availability components counters metrics (_ : Unit) ↦
        HealthMessage.mk deviceId timestamp status availability components counters metrics)
    have htime := (hversion.seq_quiet (quiet_deviceId.field members "device_id")).seq
      (raisesWhen_field members raisesWhen_nullable "timestamp")
    have hstatus := (htime.seq_quiet
      ((quiet_literal ["healthy", "degraded"]).field members "status")).seq_quiet
      ((quiet_literal ["online", "offline"]).field members "availability")
    have hcomponents := hstatus.seq (raisesWhen_field members
      (raisesWhen_dictOf ComponentHealthMessage.raisesWhen_check) "components")
    have hall := ((hcomponents.seq_quiet
      (quiet_strictNonNegativeInt.dictOf.field members "counters")).seq_quiet
      (quiet_metricValue.dictOf.field members "metrics")).seq_quiet
      (quiet_noExtra members ["schema_version", "device_id", "timestamp", "status",
        "availability", "components", "counters", "metrics"])
    apply hall.congr
    rw [exists_mem_textsAt, false_or, healthTimestamps, componentsOf]
    simp only [List.mem_append, or_and_right, exists_or]
    apply or_congr_right
    cases Json.member members (Text.ofString "components") with
    | none => simp
    | some value =>
      cases value with
      | object entries =>
        simp only [List.mem_flatMap]
        constructor
        · rintro ⟨_, hvalue, entries', rfl, component, hcomponent, s, hs, hfits⟩
          cases hvalue
          exact ⟨s, ⟨component, hcomponent, hs⟩, hfits⟩
        · rintro ⟨s, ⟨component, hcomponent, hs⟩, hfits⟩
          exact ⟨_, rfl, entries, rfl, component, hcomponent, s, hs, hfits⟩
      | _ => simp
  | _ =>
    constructor
    · simp [healthTimestamps, textsAt, componentsOf]
    · simp [HealthMessage.check]

/-- Whether the rejection of bad timestamps is complete depends on the conversion to UTC. -/
theorem timestamps_rejected_iff (value : Text) (payload : Json) :
    ((∃ d, validateDeviceTimestamp (.string value) = .ok d ∧ d.utcOffset = some 0 ∧
        d.microsecond = 0) ∨
      (∃ message, validateDeviceTimestamp (.string value) = .error (.valueError message)) ↔
        FitsUtc value) ∧
    (AcceptedOrRejected (modelValidate TelemetryMessage.check payload) ↔
      ∀ value ∈ textsAt "timestamp" payload, FitsUtc value) ∧
    (AcceptedOrRejected (modelValidate HealthMessage.check payload) ↔
      ∀ value ∈ healthTimestamps payload, FitsUtc value) := by
  refine ⟨validate_rejects_iff, ?_, ?_⟩
  · have hraises := TelemetryMessage.raisesWhen_check payload
    rw [AcceptedOrRejected, modelValidate, hraises.toExcept (by simp)]
    simp
  · have hraises := HealthMessage.raisesWhen_check payload
    rw [AcceptedOrRejected, modelValidate, hraises.toExcept (by simp)]
    simp

/-- Telemetry that is right but for its timestamp. -/
def sampleTelemetry (timestamp : String) : Json :=
  .object [(Text.ofString "device_id", .string (Text.ofString "pump-1")),
    (Text.ofString "timestamp", .string (Text.ofString timestamp)),
    (Text.ofString "temperature", .integer 20), (Text.ofString "humidity", .integer 50),
    (Text.ofString "machine_status", .string (Text.ofString "running"))]

/-- The offset takes the first hour of the year 1 out of the range of `datetime`, and the last of
the year 9999. -/
theorem timestamps_rejected_fails :
    (¬ ∀ value, (∃ d, validateDeviceTimestamp (.string value) = .ok d ∧ d.utcOffset = some 0 ∧
        d.microsecond = 0) ∨
      ∃ message, validateDeviceTimestamp (.string value) = .error (.valueError message)) ∧
    validateDeviceTimestamp (.string (Text.ofString "0001-01-01T00:00:00+01:00")) =
      .error .overflowError ∧
    validateDeviceTimestamp (.string (Text.ofString "9999-12-31T23:59:59-01:00")) =
      .error .overflowError ∧
    modelValidate TelemetryMessage.check (sampleTelemetry "0001-01-01T00:00:00+01:00") =
      .error .overflowError := by
  have hfirst : validateDeviceTimestamp (.string (Text.ofString "0001-01-01T00:00:00+01:00")) =
      .error .overflowError := by decide +kernel
  refine ⟨?_, hfirst, by decide +kernel, by decide +kernel⟩
  intro h
  have hvalue := h (Text.ofString "0001-01-01T00:00:00+01:00")
  rw [hfirst] at hvalue
  simp at hvalue

end

end EdgeMonitor.Backend
