import EdgeMonitor.Firmware.DeviceConfig
import EdgeMonitor.Firmware.HealthRevision

/-!
# Telemetry cycles and their counters

Library `Firmware`. `telemetry_collect_and_publish` of
`firmware/components/telemetry/telemetry.c`, `telemetry_model.c` and the failed health
publications of `device_health_service.c`. A cycle reads nothing of the shared health, so the
outcomes of the calls that it makes determine what it does. Each access of the shared health is
a step, and the health task may act between any two steps of a cycle.
-/

namespace EdgeMonitor.Firmware
open EdgeMonitor.Base

/-! ### Samples -/

/-- `sensor_data_t` without the pressure, which a sample does not contain. A `float` is none when
it is not finite. -/
structure SensorData where
  temperature : Option ℚ
  humidity : Option ℚ

/-- The results of `telemetry_model_create` other than `ESP_OK`. -/
inductive TelemetryModelError where
  | sensorRead
  | valueNotFinite
  | temperatureRange
  | humidityRange
  | timestamp
  | esp (error : EspErr)
  deriving DecidableEq

/-- `machine_status_t`. -/
inductive MachineStatus where
  | running
  | stopped
  | unknown
  deriving DecidableEq

/-- The variables of `machine_status.c`, and the level of the input. -/
structure MachineInput where
  enabled : Bool
  initialized : Bool
  activeHigh : Bool
  level : Bool

/-- `machine_status_get`, `machine_status.c:57–75`. -/
def machineStatusGet (input : MachineInput) : MachineStatus × EspErr :=
  if !input.enabled then (.unknown, .notSupported)
  else if !input.initialized then (.unknown, .invalidState)
  else
    let active := if !input.activeHigh then !input.level else input.level
    (if active then .running else .stopped, .ok)

/-- `machine_status_to_string`. -/
def MachineStatus.toText : MachineStatus → String
  | .running => "running"
  | .stopped => "stopped"
  | .unknown => "unknown"

/-- `telemetry_t`. -/
structure Telemetry where
  deviceId : List UInt8
  timestamp : List UInt8
  temperature : ℚ
  humidity : ℚ
  machineStatus : String
  machineStatusResult : EspErr

/-- `validate_measurement`, `telemetry_model.c:31–48`, with the values that it accepts. -/
def validateMeasurement (data : SensorData) : Except TelemetryModelError (ℚ × ℚ) :=
  match data.temperature, data.humidity with
  | some temperature, some humidity =>
    if temperature < -40 ∨ temperature > 85 then .error .temperatureRange
    else if humidity < 0 ∨ humidity > 100 then .error .humidityRange
    else .ok (temperature, humidity)
  | _, _ => .error .valueNotFinite

/-- The outcomes of the calls that a cycle makes: `get_timestamp`, `system_time_is_valid`,
`sensor_read`, the timestamp of the sample, the input of the machine status, the length that the
payload would have, the connection and the answer of the client. -/
structure CycleOutcomes where
  timestamp : Option (List UInt8)
  timeValid : Bool
  sensor : Except EspErr SensorData
  sampleTimestamp : Option (List UInt8)
  machine : MachineInput
  written : Int
  connected : Bool
  messageId : Int

/-- `telemetry_model_create`, `telemetry_model.c:50–142`, for the `runtime_device_id`. -/
def telemetryModelCreate (runtimeDeviceId : List UInt8) (outcomes : CycleOutcomes) :
    Except TelemetryModelError Telemetry :=
  match outcomes.sensor with
  | .error _ => .error .sensorRead
  | .ok data =>
    match validateMeasurement data with
    | .error error => .error error
    | .ok (temperature, humidity) =>
      match outcomes.sampleTimestamp with
      | none => .error .timestamp
      | some timestamp =>
        let (status, result) := machineStatusGet outcomes.machine
        if status.toText.utf8ByteSize = 0 ∨ status.toText.utf8ByteSize ≥ 16 then
          .error (.esp .invalidSize)
        else if runtimeDeviceId.length = 0 ∨ runtimeDeviceId.length ≥ 64 then
          .error (.esp .invalidSize)
        else
          .ok ⟨runtimeDeviceId, timestamp, temperature, humidity, status.toText, result⟩

/-! ### Cycles -/

/-- What a cycle does to its surroundings. -/
inductive CycleAction where
  | health (operation : HealthOperation)
  /-- A call of `mqtt_publish_telemetry`. -/
  | request

/-- `telemetry_to_json` with the length that `snprintf` returns; the buffer has 256 bytes. -/
def telemetryToJson (written : Int) : Int :=
  if written < 0 ∨ written ≥ 256 then -1 else written

/-- `mqtt_publish`, `mqtt_client_app.c:224–253`, with the answer of the client. -/
def mqttPublish (connected : Bool) (messageId : Int) : EspErr :=
  if !connected then .invalidState else if messageId < 0 then .fail else .ok

/-- `update_sensor_failure`, `telemetry.c:28–46`. -/
def updateSensorFailure (error : TelemetryModelError) (timestamp : Option (List UInt8)) :
    CycleAction :=
  .health (.updateComponent .sensor .fault
    (match error with
      | .valueNotFinite => .valueNotFinite
      | .temperatureRange => .temperatureOutOfRange
      | .humidityRange => .humidityOutOfRange
      | _ => .readFailed) timestamp)

/-- `update_machine_status_health`, `telemetry.c:48–72`. -/
def updateMachineStatusHealth (telemetry : Telemetry) (timestamp : Option (List UInt8)) :
    List CycleAction :=
  match telemetry.machineStatusResult with
  | .ok => [.health (.updateComponent .machineStatus .healthy .none timestamp)]
  | .notSupported => [.health (.updateComponent .machineStatus .unknown .none timestamp)]
  | _ =>
    [.health (.increment .machineStatusErrors),
      .health (.updateComponent .machineStatus .fault .machineStatusUnavailable timestamp)]

/-- What a cycle does about a sample that it rejects, `telemetry.c:95–122`. -/
def rejectSample (error : TelemetryModelError) (timestamp : Option (List UInt8)) :
    List CycleAction :=
  .health (.increment .samplesRejected) ::
    match error with
    | .sensorRead | .valueNotFinite | .temperatureRange | .humidityRange =>
      [updateSensorFailure error timestamp]
    | .timestamp =>
      [.health (.updateComponent .systemTime .degraded .timeNotSynchronized none)]
    | .esp _ => []

/-- The publication of a sample, `telemetry.c:140–188`. -/
def publishSample (outcomes : CycleOutcomes) : List CycleAction :=
  if telemetryToJson outcomes.written < 0 then [.health (.increment .publishFailed)]
  else
    .request ::
      match mqttPublish outcomes.connected outcomes.messageId with
      | .ok =>
        [.health (.increment .publishOk),
          .health (.updateComponent .mqtt .healthy .none outcomes.timestamp)]
      | .invalidState =>
        [.health (.increment .publishFailed),
          .health (.updateComponent .mqtt .degraded .mqttDisconnected outcomes.timestamp)]
      | _ =>
        [.health (.increment .publishFailed),
          .health (.updateComponent .mqtt .fault .publishFailed outcomes.timestamp)]

/-- `telemetry_collect_and_publish`, `telemetry.c:74–189`. -/
def telemetryCollectAndPublish (runtimeDeviceId : List UInt8) (outcomes : CycleOutcomes) :
    List CycleAction :=
  if !outcomes.timeValid then
    [.health (.increment .samplesRejected),
      .health (.updateComponent .systemTime .degraded .timeNotSynchronized none)]
  else
    match telemetryModelCreate runtimeDeviceId outcomes with
    | .error error => rejectSample error outcomes.timestamp
    | .ok telemetry =>
      [.health (.increment .samplesOk),
        .health (.updateComponent .sensor .healthy .none outcomes.timestamp),
        .health (.updateComponent .systemTime .healthy .none outcomes.timestamp)] ++
      updateMachineStatusHealth telemetry outcomes.timestamp ++ publishSample outcomes

/-- `record_health_publish_failure`, `device_health_service.c:227–240`. -/
def recordHealthPublishFailure (timestamp : Option (List UInt8)) : List HealthOperation :=
  [.increment .publishFailed, .updateComponent .mqtt .fault .publishFailed timestamp]

/-! ### The tasks -/

/-- An operation that increments no counter. -/
def OtherOperation := { operation : HealthOperation // ∀ counter, operation ≠ .increment counter }

/-- The shared health, what the cycle that runs is still to do, and what the health task is still
to do about a failed publication. -/
structure TelemetrySystem where
  health : HealthSnapshot
  cycle : Option (List CycleAction)
  failure : List HealthOperation

/-- The system after `device_health_init`. -/
def TelemetrySystem.start : TelemetrySystem := ⟨.init, none, []⟩

/-- What can happen. The tasks take their steps in any order. -/
inductive TelemetryEvent where
  /-- `telemetry_task` begins a cycle. -/
  | start (outcomes : CycleOutcomes)
  /-- The next step of the cycle. -/
  | telemetry
  /-- The health task has called `publish_health_snapshot`. -/
  | published (result : EspErr) (timestamp : Option (List UInt8))
  /-- The next step of `record_health_publish_failure`. -/
  | record
  /-- An operation of another function. -/
  | other (operation : OtherOperation)

/-- What can be observed of a step. -/
inductive TelemetryOutput where
  | started
  | performed (action : CycleAction)
  | finished
  | publicationFailed

namespace TelemetrySystem

/-- A step. A cycle begins after the end of the previous one, and the health task publishes after
it has recorded the previous failure. -/
def step (runtimeDeviceId : List UInt8) (s : TelemetrySystem) :
    TelemetryEvent → TelemetrySystem × Option TelemetryOutput
  | .start outcomes =>
    match s.cycle with
    | none =>
      ({ s with cycle := some (telemetryCollectAndPublish runtimeDeviceId outcomes) },
        some .started)
    | some _ => (s, none)
  | .telemetry =>
    match s.cycle with
    | none => (s, none)
    | some [] => ({ s with cycle := none }, some .finished)
    | some (.health operation :: actions) =>
      ({ s with health := s.health.apply operation, cycle := some actions },
        some (.performed (.health operation)))
    | some (.request :: actions) => ({ s with cycle := some actions }, some (.performed .request))
  | .published result timestamp =>
    match s.failure, result with
    | [], .ok => (s, none)
    | [], _ => ({ s with failure := recordHealthPublishFailure timestamp }, some .publicationFailed)
    | _ :: _, _ => (s, none)
  | .record =>
    match s.failure with
    | [] => (s, none)
    | operation :: operations =>
      ({ s with health := s.health.apply operation, failure := operations }, none)
  | .other operation => ({ s with health := s.health.apply operation.val }, none)

end TelemetrySystem

/-- The telemetry task, the health task and the other tasks. -/
def telemetrySystem (runtimeDeviceId : List UInt8) :
    Machine TelemetrySystem TelemetryEvent (Option TelemetryOutput) where
  step := TelemetrySystem.step runtimeDeviceId

/-! ### Counters -/

/-- The value of a counter. -/
def HealthCounters.value (counters : HealthCounters) : HealthCounter → UInt64
  | .samplesOk => counters.samplesOk
  | .samplesRejected => counters.samplesRejected
  | .publishOk => counters.publishOk
  | .publishFailed => counters.publishFailed
  | .machineStatusErrors => counters.machineStatusErrors

namespace HealthOperation

/-- The operation increments the counter. -/
def increments (counter : HealthCounter) : HealthOperation → Bool
  | .increment other => decide (other = counter)
  | _ => false

end HealthOperation

/-- The action increments the counter. -/
def CycleAction.increments (counter : HealthCounter) : CycleAction → Bool
  | .health operation => operation.increments counter
  | .request => false

/-- The action requests a publication. -/
def CycleAction.requests : CycleAction → Bool
  | .request => true
  | .health _ => false

namespace HealthSnapshot

/-- The operation does not make a counter wrap around. -/
def Counts (s : HealthSnapshot) : HealthOperation → Prop
  | .increment counter => s.counters.value counter ≠ 0xFFFFFFFFFFFFFFFF
  | _ => True

instance (s : HealthSnapshot) (operation : HealthOperation) : Decidable (s.Counts operation) :=
  match operation with
  | .increment counter => inferInstanceAs (Decidable (s.counters.value counter ≠ _))
  | .updateComponent .. | .setAvailability _ | .setMetrics _ => inferInstanceAs (Decidable True)

variable {s : HealthSnapshot} {operation : HealthOperation}

theorem value_increment (counters : HealthCounters) (counter other : HealthCounter) :
    (counters.increment other).value counter =
      counters.value counter + if other = counter then 1 else 0 := by
  cases other <;> cases counter <;> simp [HealthCounters.increment, HealthCounters.value]

/-- An operation adds one to the counter that it increments. -/
theorem value_apply (h : s.Counts operation) (counter : HealthCounter) :
    ((s.apply operation).counters.value counter).toNat =
      (s.counters.value counter).toNat + (operation.increments counter).toNat := by
  cases operation with
  | increment other =>
    change ((s.counters.increment other).value counter).toNat = _
    rw [value_increment]
    by_cases hother : other = counter
    · subst hother
      have hne : (s.counters.value other).toNat ≠ 18446744073709551615 :=
        fun hn ↦ h (UInt64.toNat_inj.mp hn)
      have hlt := (s.counters.value other).toNat_lt
      simp only [if_pos, HealthOperation.increments, decide_true, Bool.toNat_true,
        UInt64.toNat_add, UInt64.toNat_one]
      omega
    · simp [HealthOperation.increments, hother]
  | updateComponent | setAvailability | setMetrics => rfl

end HealthSnapshot

/-! ### What a cycle counts -/

/-- How often actions increment a counter. -/
def tally (actions : List CycleAction) (counter : HealthCounter) : Nat :=
  actions.countP (·.increments counter)

/-- How often actions request a publication. -/
def requests (actions : List CycleAction) : Nat := actions.countP (·.requests)

section Tally
variable (action : CycleAction) (actions actions' : List CycleAction) (counter : HealthCounter)

@[simp] theorem tally_nil : tally [] counter = 0 := rfl

@[simp] theorem requests_nil : requests [] = 0 := rfl

@[simp] theorem tally_cons : tally (action :: actions) counter =
    (action.increments counter).toNat + tally actions counter := by
  rw [tally, tally, List.countP_cons, Nat.add_comm]
  cases action.increments counter <;> rfl

@[simp] theorem requests_cons : requests (action :: actions) =
    action.requests.toNat + requests actions := by
  rw [requests, requests, List.countP_cons, Nat.add_comm]
  cases action.requests <;> rfl

@[simp] theorem tally_append :
    tally (actions ++ actions') counter = tally actions counter + tally actions' counter :=
  List.countP_append

@[simp] theorem requests_append :
    requests (actions ++ actions') = requests actions + requests actions' := List.countP_append

end Tally

/-- The actions count one sample, one publication if they accept it, and request a publication
only of an accepted sample, and once. -/
structure Balanced (actions : List CycleAction) : Prop where
  sample : tally actions .samplesOk + tally actions .samplesRejected = 1
  publication : tally actions .publishOk + tally actions .publishFailed = tally actions .samplesOk
  request : requests actions ≤ tally actions .samplesOk

/-- The report of the machine status is not counted with the samples. -/
theorem tally_updateMachineStatusHealth (telemetry : Telemetry) (timestamp : Option (List UInt8))
    {counter : HealthCounter} (h : counter ≠ .machineStatusErrors) :
    tally (updateMachineStatusHealth telemetry timestamp) counter = 0 ∧
      requests (updateMachineStatusHealth telemetry timestamp) = 0 := by
  unfold updateMachineStatusHealth
  split <;> simp [CycleAction.increments, CycleAction.requests, HealthOperation.increments, h.symm]

/-- A publication is counted once, and no sample with it. -/
theorem tally_publishSample (outcomes : CycleOutcomes) :
    tally (publishSample outcomes) .samplesOk = 0 ∧
    tally (publishSample outcomes) .samplesRejected = 0 ∧
    tally (publishSample outcomes) .publishOk + tally (publishSample outcomes) .publishFailed = 1 ∧
    requests (publishSample outcomes) ≤ 1 := by
  unfold publishSample
  split
  · exact ⟨rfl, rfl, rfl, Nat.zero_le 1⟩
  · split <;> exact ⟨rfl, rfl, rfl, Nat.le_refl 1⟩

/-- A rejected sample is counted once, and nothing is published. -/
theorem balanced_rejectSample (error : TelemetryModelError) (timestamp : Option (List UInt8)) :
    Balanced (rejectSample error timestamp) := by
  cases error <;> exact ⟨rfl, rfl, Nat.le_refl 0⟩

/-- Each exit of a cycle counts what the cycle did. -/
theorem balanced_telemetryCollectAndPublish (runtimeDeviceId : List UInt8)
    (outcomes : CycleOutcomes) :
    Balanced (telemetryCollectAndPublish runtimeDeviceId outcomes) := by
  unfold telemetryCollectAndPublish
  split
  · exact ⟨rfl, rfl, Nat.le_refl 0⟩
  · split
    next error _ => exact balanced_rejectSample error outcomes.timestamp
    next telemetry _ =>
      have hstatus := fun counter (h : counter ≠ HealthCounter.machineStatusErrors) ↦
        tally_updateMachineStatusHealth telemetry outcomes.timestamp h
      obtain ⟨hok, hrejected, hpublication, hrequests⟩ := tally_publishSample outcomes
      constructor
      · simp [(hstatus .samplesOk (by decide)).1, (hstatus .samplesRejected (by decide)).1, hok,
          hrejected, CycleAction.increments, HealthOperation.increments]
      · simpa [(hstatus .samplesOk (by decide)).1, (hstatus .publishOk (by decide)).1,
          (hstatus .publishFailed (by decide)).1, hok, CycleAction.increments,
          HealthOperation.increments] using hpublication
      · simp [(hstatus .samplesOk (by decide)).1, (hstatus .samplesOk (by decide)).2, hok,
          hrequests, CycleAction.increments, CycleAction.requests, HealthOperation.increments]

/-! ### Accounts -/

/-- What can be observed of a run. -/
abbrev TelemetryTrace := List (TelemetryEvent × Option TelemetryOutput)

namespace TelemetryTrace

/-- How many cycles have ended. -/
def finished (t : TelemetryTrace) : Nat :=
  t.countP fun
    | (_, some .finished) => true
    | _ => false

/-- How many health publications have failed. -/
def failed (t : TelemetryTrace) : Nat :=
  t.countP fun
    | (_, some .publicationFailed) => true
    | _ => false

/-- What the steps of cycles have done. -/
def actions (t : TelemetryTrace) : List CycleAction :=
  t.filterMap fun
    | (_, some (.performed action)) => some action
    | _ => none

/-- A cycle has begun. -/
def Starts (t : TelemetryTrace) : Prop := ∃ x ∈ t, x.2 = some .started

theorem finished_append (t t' : TelemetryTrace) :
    finished (t ++ t') = t.finished + t'.finished := List.countP_append

theorem failed_append (t t' : TelemetryTrace) : failed (t ++ t') = t.failed + t'.failed :=
  List.countP_append

theorem actions_append (t t' : TelemetryTrace) : actions (t ++ t') = t.actions ++ t'.actions :=
  List.filterMap_append

end TelemetryTrace

namespace TelemetrySystem

variable {runtimeDeviceId : List UInt8} {s s' s'' : TelemetrySystem} {e : TelemetryEvent}

/-- The operation on the shared health that a step makes. -/
def operation? (s : TelemetrySystem) : TelemetryEvent → Option HealthOperation
  | .telemetry =>
    match s.cycle with
    | some (.health operation :: _) => some operation
    | _ => none
  | .record => s.failure.head?
  | .other operation => some operation.val
  | .start _ | .published .. => none

/-- A step does not make a counter wrap around. -/
def Counts (s : TelemetrySystem) (e : TelemetryEvent) : Prop :=
  match s.operation? e with
  | some operation => s.health.Counts operation
  | none => True

instance (s : TelemetrySystem) (e : TelemetryEvent) : Decidable (s.Counts e) := by
  unfold Counts
  split <;> infer_instance

/-- How often failures that are not yet recorded increment a counter. -/
def unrecorded (s : TelemetrySystem) (counter : HealthCounter) : Nat :=
  s.failure.countP (·.increments counter)

/-- The value of a counter when the tasks have done what they have begun. -/
def due (s : TelemetrySystem) (counter : HealthCounter) : Nat :=
  (s.health.counters.value counter).toNat + s.cycle.elim 0 (tally · counter) + s.unrecorded counter

/-- Of a cycle that runs. -/
def running (s : TelemetrySystem) : Nat := s.cycle.elim 0 fun _ ↦ 1

/-- What has been observed between two states agrees with the counters. -/
structure Accounts (s s' : TelemetrySystem) (t : TelemetryTrace) : Prop where
  samples : s'.due .samplesOk + s'.due .samplesRejected + s.running =
    s.due .samplesOk + s.due .samplesRejected + t.finished + s'.running
  publications : s'.due .publishOk + s'.due .publishFailed + s.due .samplesOk =
    s.due .publishOk + s.due .publishFailed + t.failed + s'.due .samplesOk

theorem Accounts.refl (s : TelemetrySystem) : Accounts s s [] :=
  ⟨Nat.add_right_comm _ 0 _, Nat.add_right_comm _ 0 _⟩

theorem Accounts.trans {t t' : TelemetryTrace} (h : Accounts s s' t) (h' : Accounts s' s'' t') :
    Accounts s s'' (t ++ t') := by
  have hfinished := t.finished_append t'
  have hfailed := t.failed_append t'
  obtain ⟨hsamples, hpublications⟩ := h
  obtain ⟨hsamples', hpublications'⟩ := h'
  constructor <;> omega

/-- What is due does not change with what is done. -/
theorem Accounts.of_due {t : TelemetryTrace} (h : ∀ counter, s'.due counter = s.due counter)
    (hfinished : s.running = s'.running + t.finished) (hfailed : t.failed = 0) :
    Accounts s s' t := by
  constructor
  · rw [h, h]
    omega
  · rw [h, h, h]
    omega

/-- The accounts of a step. -/
theorem accounts_step (h : s.Counts e) :
    Accounts s (s.step runtimeDeviceId e).1 [(e, (s.step runtimeDeviceId e).2)] := by
  obtain ⟨health, cycle, failure⟩ := s
  cases e with
  | start outcomes =>
    cases cycle with
    | none =>
      obtain ⟨hsample, hpublication, -⟩ :=
        balanced_telemetryCollectAndPublish runtimeDeviceId outcomes
      constructor <;> simp [due, running, step, unrecorded, TelemetryTrace.finished,
        TelemetryTrace.failed] <;> omega
    | some actions => exact .of_due (fun _ ↦ rfl) rfl rfl
  | telemetry =>
    cases cycle with
    | none => exact .of_due (fun _ ↦ rfl) rfl rfl
    | some actions =>
      cases actions with
      | nil => exact .of_due (fun _ ↦ rfl) rfl rfl
      | cons action actions =>
        cases action with
        | health operation =>
          apply Accounts.of_due _ rfl rfl
          intro counter
          simp only [due, step, unrecorded, Option.elim, HealthSnapshot.value_apply h, tally_cons,
            CycleAction.increments]
          omega
        | request =>
          apply Accounts.of_due _ rfl rfl
          intro counter
          simp [due, step, unrecorded, CycleAction.increments]
  | published result timestamp =>
    cases failure with
    | nil =>
      by_cases hresult : result = .ok
      · subst hresult
        exact .of_due (fun _ ↦ rfl) rfl rfl
      · have hstep : step runtimeDeviceId ⟨health, cycle, []⟩ (.published result timestamp) =
            (⟨health, cycle, recordHealthPublishFailure timestamp⟩, some .publicationFailed) := by
          cases result <;> first | rfl | exact absurd rfl hresult
        rw [hstep]
        constructor
        · simp [due, running, unrecorded, recordHealthPublishFailure, HealthOperation.increments,
            TelemetryTrace.finished]
        · simp [due, unrecorded, recordHealthPublishFailure, HealthOperation.increments,
            TelemetryTrace.failed]
          omega
    | cons operation operations => cases result <;> exact .of_due (fun _ ↦ rfl) rfl rfl
  | record =>
    cases failure with
    | nil => exact .of_due (fun _ ↦ rfl) rfl rfl
    | cons operation operations =>
      apply Accounts.of_due _ rfl rfl
      intro counter
      simp only [due, step, unrecorded, HealthSnapshot.value_apply h, List.countP_cons]
      cases operation.increments counter with
      | false => simp
      | true =>
        simp
        omega
  | other operation =>
    obtain ⟨operation, hother⟩ := operation
    apply Accounts.of_due _ rfl rfl
    intro counter
    have hno : operation.increments counter = false := by
      cases operation with
      | increment other => exact absurd rfl (hother other)
      | updateComponent | setAvailability | setMetrics => rfl
    simp [due, step, unrecorded, HealthSnapshot.value_apply h, hno]

/-- The accounts of a run. -/
theorem accounts_run {events : List TelemetryEvent}
    (h : (telemetrySystem runtimeDeviceId).Along Counts s events) :
    Accounts s ((telemetrySystem runtimeDeviceId).run s events)
      ((telemetrySystem runtimeDeviceId).trace s events) := by
  induction events generalizing s with
  | nil => exact .refl s
  | cons e events ih => exact (accounts_step h.1).trans (ih h.2)

/-- The failures that are not yet recorded increment `publishFailed` only. -/
def RecordsFailure (s : TelemetrySystem) : Prop :=
  ∀ operation ∈ s.failure, ∀ counter, operation.increments counter = true → counter = .publishFailed

theorem recordsFailure_step (h : s.RecordsFailure) :
    (s.step runtimeDeviceId e).1.RecordsFailure := by
  obtain ⟨health, cycle, failure⟩ := s
  cases e with
  | start | other => cases cycle <;> exact h
  | telemetry => rcases cycle with _ | _ | ⟨_ | _, _⟩ <;> exact h
  | published result timestamp =>
    cases failure with
    | nil =>
      have hrecord : RecordsFailure ⟨health, cycle, recordHealthPublishFailure timestamp⟩ := by
        intro operation hoperation counter hcounter
        rcases List.mem_pair.mp hoperation with rfl | rfl
        · exact (of_decide_eq_true hcounter).symm
        · cases hcounter
      cases result <;> first | exact hrecord | exact h
    | cons operation operations => cases result <;> exact h
  | record =>
    cases failure with
    | nil => exact h
    | cons operation operations =>
      exact fun operation' hoperation' ↦ h operation' (List.mem_cons_of_mem operation hoperation')

theorem unrecorded_eq_zero (h : s.RecordsFailure) {counter : HealthCounter}
    (hne : counter ≠ .publishFailed) : s.unrecorded counter = 0 :=
  List.countP_eq_zero.mpr fun operation hoperation hcounter ↦
    hne (h operation hoperation counter hcounter)

/-! ### The actions of a cycle -/

/-- A step that begins no cycle does the next action of the cycle that runs, or none. -/
theorem actions_step (h : (s.step runtimeDeviceId e).2 ≠ some .started) :
    TelemetryTrace.actions [(e, (s.step runtimeDeviceId e).2)] ++
      (s.step runtimeDeviceId e).1.cycle.getD [] = s.cycle.getD [] := by
  obtain ⟨health, cycle, failure⟩ := s
  cases e with
  | start outcomes =>
    cases cycle with
    | none => exact absurd rfl h
    | some actions => rfl
  | telemetry => rcases cycle with _ | _ | ⟨_ | _, _⟩ <;> rfl
  | published result timestamp => cases failure <;> cases result <;> rfl
  | record => cases failure <;> rfl
  | other operation => rfl

/-- What a cycle has done is a part of what it was to do when it began. -/
theorem actions_part {events : List TelemetryEvent} {cycle after : TelemetryTrace}
    (h : (telemetrySystem runtimeDeviceId).trace s events = cycle ++ after)
    (hstarts : ¬ cycle.Starts) : cycle.actions <+: s.cycle.getD [] := by
  induction events generalizing s cycle with
  | nil =>
    obtain ⟨rfl, -⟩ := List.append_eq_nil_iff.mp h.symm
    exact List.nil_prefix
  | cons e events ih =>
    cases cycle with
    | nil => exact List.nil_prefix
    | cons x cycle =>
      obtain ⟨rfl, hrest⟩ := List.cons.inj h
      have hlater := ih hrest fun ⟨x, hx, he⟩ ↦ hstarts ⟨x, List.mem_cons_of_mem _ hx, he⟩
      have hfirst : (step runtimeDeviceId s e).2 ≠ some .started :=
        fun hstarted ↦ hstarts ⟨_, List.mem_cons_self, hstarted⟩
      rw [← actions_step hfirst, ← List.singleton_append, TelemetryTrace.actions_append]
      exact (List.prefix_append_right_inj _).mpr hlater

/-- A cycle begins with the actions of `telemetryCollectAndPublish`. -/
theorem cycle_of_started (h : (s.step runtimeDeviceId e).2 = some .started) :
    ∃ outcomes, (s.step runtimeDeviceId e).1.cycle =
      some (telemetryCollectAndPublish runtimeDeviceId outcomes) := by
  obtain ⟨health, cycle, failure⟩ := s
  cases e with
  | start outcomes =>
    cases cycle with
    | none => exact ⟨outcomes, rfl⟩
    | some actions => cases h
  | telemetry => rcases cycle with _ | _ | ⟨_ | _, _⟩ <;> cases h
  | published result timestamp => cases failure <;> cases result <;> cases h
  | record => cases failure <;> cases h
  | other operation => cases h

/-- The telemetry counters account for every cycle. In a run in which no counter wraps around,
between two cycles the accepted and the rejected samples are the cycles that ended, and the
publications that succeeded or failed are the accepted samples and the failed health publications,
without those that the health task has not recorded yet. A cycle that rejects its sample
requests no publication, and each cycle requests at most one. -/
theorem counters_account (runtimeDeviceId : List UInt8) (events : List TelemetryEvent)
    (h : (telemetrySystem runtimeDeviceId).Along Counts start events) :
    let s := (telemetrySystem runtimeDeviceId).run start events
    let t : TelemetryTrace := (telemetrySystem runtimeDeviceId).trace start events
    let counters := s.health.counters
    (s.cycle = none →
      counters.samplesOk.toNat + counters.samplesRejected.toNat = t.finished ∧
      counters.publishOk.toNat + counters.publishFailed.toNat + s.unrecorded .publishFailed =
        counters.samplesOk.toNat + t.failed) ∧
    ∀ before x cycle after, t = before ++ x :: (cycle ++ after) → x.2 = some .started →
      ¬ TelemetryTrace.Starts cycle →
      (0 < tally (TelemetryTrace.actions cycle) .samplesRejected →
        requests (TelemetryTrace.actions cycle) = 0) ∧
      requests (TelemetryTrace.actions cycle) ≤ 1 := by
  intro s t counters
  constructor
  · intro hidle
    have hrecords : s.RecordsFailure :=
      (telemetrySystem runtimeDeviceId).invariant (fun _ _ ↦ recordsFailure_step)
        (fun _ hoperation ↦ absurd hoperation List.not_mem_nil) events
    have hdue : ∀ counter,
        s.due counter = (counters.value counter).toNat + s.unrecorded counter := by
      intro counter
      rw [due, hidle]
      rfl
    have hrunning : s.running = 0 := by
      rw [running, hidle]
      rfl
    have haccounts : Accounts start s t := accounts_run h
    obtain ⟨hsamples, hpublications⟩ := haccounts
    have hok : s.unrecorded .samplesOk = 0 := unrecorded_eq_zero hrecords (by decide)
    have hrejected : s.unrecorded .samplesRejected = 0 := unrecorded_eq_zero hrecords (by decide)
    have hpublishOk : s.unrecorded .publishOk = 0 := unrecorded_eq_zero hrecords (by decide)
    rw [hdue, hdue, hok, hrejected, hrunning] at hsamples
    rw [hdue, hdue, hdue, hok, hpublishOk] at hpublications
    have hzero : ∀ counter, start.due counter = 0 := by
      intro counter
      cases counter <;> rfl
    rw [hzero, hzero] at hsamples
    rw [hzero, hzero, hzero] at hpublications
    have hstart : start.running = 0 := rfl
    constructor
    · change (counters.value .samplesOk).toNat + (counters.value .samplesRejected).toNat = _
      omega
    · change (counters.value .publishOk).toNat + (counters.value .publishFailed).toNat + _ =
        (counters.value .samplesOk).toNat + _
      omega
  · intro before x cycle after ht hx hstarts
    obtain ⟨events', e, rest, rfl, rfl, rfl⟩ := Machine.trace_eq_append_cons _ ht
    -- What follows the beginning of the cycle is the trace of a run that begins there.
    have hrest := (Machine.trace_append _ _ _ _).symm.trans ht
    have hcycle := (List.cons.inj (List.append_cancel_left hrest)).2
    obtain ⟨outcomes, hbegin⟩ := cycle_of_started hx
    have hpart := actions_part hcycle hstarts
    rw [show ((telemetrySystem runtimeDeviceId).step _ e).1.cycle = _ from hbegin] at hpart
    have hbalanced := balanced_telemetryCollectAndPublish runtimeDeviceId outcomes
    have hrejected : tally (TelemetryTrace.actions cycle) .samplesRejected ≤ _ :=
      hpart.sublist.countP_le
    have hrequests : requests (TelemetryTrace.actions cycle) ≤ _ := hpart.sublist.countP_le
    have hsample := hbalanced.sample
    have hrequest := hbalanced.request
    change tally _ _ ≤ tally (telemetryCollectAndPublish runtimeDeviceId outcomes) _ at hrejected
    change requests _ ≤ requests (telemetryCollectAndPublish runtimeDeviceId outcomes) at hrequests
    constructor
    · intro hpositive
      omega
    · omega

/-- A cycle whose sample is published, while a health publication fails. -/
def sampleEvents : List TelemetryEvent :=
  [.start ⟨none, true, .ok ⟨some 21, some 50⟩, some [0x32], ⟨true, true, true, true⟩, 120, true, 1⟩,
    .telemetry, .published .fail none, .telemetry, .record, .telemetry, .telemetry, .telemetry,
    .record, .telemetry, .telemetry, .telemetry]

theorem counters_account_sample :
    let s := (telemetrySystem [0x31]).run start sampleEvents
    s.health.counters.samplesOk.toNat + s.health.counters.samplesRejected.toNat = 1 ∧
    s.health.counters.publishOk.toNat + s.health.counters.publishFailed.toNat = 2 := by
  obtain ⟨hbetween, -⟩ := counters_account [0x31] sampleEvents (by decide +kernel)
  have hcounts := hbetween rfl
  exact hcounts

end TelemetrySystem

end EdgeMonitor.Firmware
