import EdgeMonitor.Base.Machine
import EdgeMonitor.Firmware.DeviceHealth

/-!
# The health task

Library `Firmware`. `health_task` of
`firmware/components/device_health_service/device_health_service.c`, the connection state of
`firmware/components/mqtt_client_app/mqtt_client_app.c` and the tasks that report the health
of components. A step of the health task is one access of the shared health state or of the
connection, or one publish request; the other tasks may act between any two steps. The
payloads fit their buffers.
-/

namespace EdgeMonitor.Firmware
open EdgeMonitor.Base

/-! ### State -/

/-- `mqtt_connected` and `connection_generation`, `mqtt_client_app.c:18–19`. The event handler
is in between its two accesses of a `MQTT_EVENT_CONNECTED` while `counting`. -/
structure MqttConnection where
  connected : Bool
  generation : UInt32
  counting : Bool
  deriving DecidableEq

/-- The local variables of an iteration of `health_task`. -/
structure HealthIteration where
  snapshot : DeviceHealth
  now : UInt32
  generation : UInt32
  retryAttempt : Bool

/-- Where the health task is in its loop. -/
inductive HealthStep where
  /-- In `update_runtime_components`, `device_health_service.c:139–189`. -/
  | systemTime
  | connection (timestamp : Option (List UInt8))
  | availability (timestamp : Option (List UInt8)) (connected : Bool)
  | mqttComponent (timestamp : Option (List UInt8)) (connected : Bool)
  /-- In `health_task` before the publication, `device_health_service.c:274–284`. -/
  | snapshot
  | generation (snapshot : DeviceHealth)
  | check (snapshot : DeviceHealth) (now generation : UInt32)
  /-- In the publication, `device_health_service.c:285–318`. -/
  | online (iteration : HealthIteration)
  | healthSnapshot (iteration : HealthIteration)
  | publish (iteration : HealthIteration) (handed : DeviceHealth)
  | failure (iteration : HealthIteration)
  | retry (iteration : HealthIteration)
  | failedSnapshot (iteration : HealthIteration)
  | success (iteration : HealthIteration)
  | successComponent (iteration : HealthIteration)
  /-- Before the end of the iteration, `device_health_service.c:321`. -/
  | finish (generation : UInt32)

/-- The variables of `health_task` and `update_runtime_components` that outlive an iteration. -/
structure HealthTask where
  lastHeartbeat : UInt32
  lastAttemptedRevision : UInt32
  lastConnectionGeneration : UInt32
  healthRetryPending : Bool
  mqttStateObserved : Bool
  mqttWasConnected : Bool
  step : HealthStep

/-- The shared state and the health task. -/
structure HealthSystem where
  health : DeviceHealth
  mqtt : MqttConnection
  task : HealthTask

/-- The system when the health task starts. -/
def HealthSystem.start : HealthSystem where
  health := .init
  mqtt := ⟨false, 0, false⟩
  task := ⟨0, 0, 0, false, false, false, .systemTime⟩

/-! ### Steps -/

/-- What a step of the health task meets: the validity of the clock and the timestamp, the
tick count, and whether the client accepts a message. -/
structure HealthInput where
  timeValid : Bool
  timestamp : Option (List UInt8)
  tick : UInt32
  accepted : Bool

/-- What can happen to the system. A connection takes two accesses. -/
inductive HealthEvent where
  | task (input : HealthInput)
  | connected
  | counted
  | disconnected
  | update (component : HealthComponent) (status : ComponentStatus) (error : HealthError)
    (updatedAt : Option (List UInt8))

/-- The reasons for a publication that an iteration finds, `device_health_service.c:278–284`. -/
structure HealthDecision where
  generation : UInt32
  reconnected : Bool
  heartbeatDue : Bool
  stateChanged : Bool
  retryPending : Bool
  deriving DecidableEq

/-- There is a reason other than the heartbeat. -/
def HealthDecision.urgent (d : HealthDecision) : Bool :=
  d.reconnected || d.stateChanged || d.retryPending

/-- There is a reason. -/
def HealthDecision.publishes (d : HealthDecision) : Bool :=
  d.reconnected || d.heartbeatDue || d.stateChanged || d.retryPending

/-- What can be observed of a step. -/
inductive HealthOutput where
  /-- An iteration found MQTT connected. -/
  | found (decision : HealthDecision)
  | online (generation : UInt32) (accepted : Bool)
  /-- A call of `mqtt_publish_health`. -/
  | handedOver (snapshot : DeviceHealth) (accepted : Bool)
  | ended

/-- `mqtt_publish` with the answer of the client, `mqtt_client_app.c:224–254`. -/
def MqttConnection.publish (mqtt : MqttConnection) (accepted : Bool) : Bool :=
  mqtt.connected && accepted

namespace HealthSystem

/-- The task at another step. -/
def goto (s : HealthSystem) (step : HealthStep) : HealthSystem :=
  { s with task := { s.task with step } }

/-- The end of a publication, `device_health_service.c:310–318`. -/
def published (s : HealthSystem) (iteration : HealthIteration) (revision : UInt32) :
    HealthSystem :=
  { s with
    task :=
      { s.task with
        lastAttemptedRevision := revision
        lastHeartbeat := iteration.now
        step := .finish iteration.generation } }

/-- An update of a component. -/
def updateComponent (s : HealthSystem) (component : HealthComponent) (status : ComponentStatus)
    (error : HealthError) (updatedAt : Option (List UInt8)) : HealthSystem :=
  { s with health := s.health.updateComponent component status error updatedAt }

/-- The step of `update_runtime_components` that reports MQTT, `device_health_service.c:164–189`. -/
def reportMqtt (s : HealthSystem) (timestamp : Option (List UInt8)) (connected : Bool) :
    HealthSystem :=
  if connected then
    if !s.task.mqttStateObserved || !s.task.mqttWasConnected then
      s.updateComponent .mqtt .healthy .none timestamp
    else s
  else s.updateComponent .mqtt .degraded .mqttDisconnected timestamp

/-- The reasons for a publication. -/
def decision (periodTicks : UInt32) (s : HealthSystem) (snapshot : DeviceHealth)
    (now generation : UInt32) : HealthDecision where
  generation := generation
  reconnected := generation != s.task.lastConnectionGeneration
  heartbeatDue := decide (now - s.task.lastHeartbeat ≥ periodTicks)
  stateChanged := snapshot.stateRevision != s.task.lastAttemptedRevision
  retryPending := s.task.healthRetryPending

/-- The start of a publication, `device_health_service.c:287–290`. -/
def startPublication (s : HealthSystem) (step : HealthStep) : HealthSystem :=
  { s with task := { s.task with healthRetryPending := false, step } }

/-- The decision of `health_task` whether to publish, `device_health_service.c:285–290`. -/
def check (periodTicks : UInt32) (s : HealthSystem) (snapshot : DeviceHealth)
    (now generation : UInt32) : HealthSystem × Option HealthOutput :=
  let d := s.decision periodTicks snapshot now generation
  let iteration := ⟨snapshot, now, generation, s.task.healthRetryPending⟩
  if s.mqtt.connected then
    if d.publishes then
      (s.startPublication (if d.reconnected then .online iteration else .healthSnapshot iteration),
        some (.found d))
    else (s.goto (.finish generation), some (.found d))
  else (s.goto (.finish generation), none)

/-- A step of `health_task`, `device_health_service.c:259–324`. -/
def advance (periodTicks : UInt32) (s : HealthSystem) (input : HealthInput) :
    HealthSystem × Option HealthOutput :=
  match s.task.step with
  | .systemTime =>
    if input.timeValid then
      ((s.updateComponent .systemTime .healthy .none input.timestamp).goto
        (.connection input.timestamp), none)
    else
      ((s.updateComponent .systemTime .degraded .timeNotSynchronized none).goto
        (.connection input.timestamp), none)
  | .connection timestamp => (s.goto (.availability timestamp s.mqtt.connected), none)
  | .availability timestamp connected =>
    ({ s with
        health := s.health.setAvailability (if connected then .online else .offline) }.goto
      (.mqttComponent timestamp connected), none)
  | .mqttComponent timestamp connected =>
    let s := s.reportMqtt timestamp connected
    ({ s with
        task :=
          { s.task with
            mqttStateObserved := true
            mqttWasConnected := connected
            step := .snapshot } }, none)
  | .snapshot => (s.goto (.generation s.health), none)
  | .generation snapshot => (s.goto (.check snapshot input.tick s.mqtt.generation), none)
  | .check snapshot now generation => s.check periodTicks snapshot now generation
  | .online iteration =>
    (s.goto (.healthSnapshot iteration),
      some (.online iteration.generation (s.mqtt.publish input.accepted)))
  | .healthSnapshot iteration => (s.goto (.publish iteration s.health), none)
  | .publish iteration handed =>
    let accepted := s.mqtt.publish input.accepted
    (s.goto (if accepted then .success iteration else .failure iteration),
      some (.handedOver handed accepted))
  | .failure iteration =>
    ((s.updateComponent .mqtt .fault .publishFailed input.timestamp).goto
      (if iteration.retryAttempt then .failedSnapshot iteration else .retry iteration), none)
  | .retry iteration =>
    ({ s with
        task := { s.task with healthRetryPending := s.mqtt.connected } }.goto
      (.failedSnapshot iteration), none)
  | .failedSnapshot iteration => (s.published iteration s.health.stateRevision, none)
  | .success iteration =>
    if s.mqtt.connected then (s.goto (.successComponent iteration), none)
    else (s.published iteration iteration.snapshot.stateRevision, none)
  | .successComponent iteration =>
    ((s.updateComponent .mqtt .healthy .none input.timestamp).published iteration
      iteration.snapshot.stateRevision, none)
  | .finish generation =>
    ({ s with
        task :=
          { s.task with
            lastConnectionGeneration := generation
            step := .systemTime } }, some .ended)

end HealthSystem

/-- What the event handler of the client does, `mqtt_client_app.c:95–119`. It handles one
event at a time. -/
def MqttConnection.handle (mqtt : MqttConnection) : HealthEvent → MqttConnection
  | .connected => if mqtt.counting then mqtt else { mqtt with connected := true, counting := true }
  | .counted =>
    if mqtt.counting then { mqtt with generation := mqtt.generation + 1, counting := false }
    else mqtt
  | .disconnected => if mqtt.counting then mqtt else { mqtt with connected := false }
  | _ => mqtt

/-- The health task and the other tasks. -/
def healthSystem (periodTicks : UInt32) : Machine HealthSystem HealthEvent (Option HealthOutput) where
  step s
    | .task input => s.advance periodTicks input
    | .update component status error updatedAt =>
      (s.updateComponent component status error updatedAt, none)
    | e => ({ s with mqtt := s.mqtt.handle e }, none)

/-- A step of the health task with a valid clock. -/
def sampleTask (accepted : Bool) : HealthEvent := .task ⟨true, none, 0, accepted⟩

/-! ### Connections -/

namespace MqttConnection

/-- The connection of a generation is up. -/
def Serves (mqtt : MqttConnection) (generation : UInt32) : Prop :=
  mqtt.connected = true ∧ mqtt.counting = false ∧ mqtt.generation = generation

/-- An event does not make the counter of connections wrap around. -/
def Counts (mqtt : MqttConnection) (e : HealthEvent) : Prop :=
  e = .counted → mqtt.counting = true → mqtt.generation ≠ 0xFFFFFFFF

instance (mqtt : MqttConnection) (generation : UInt32) : Decidable (mqtt.Serves generation) :=
  inferInstanceAs (Decidable (_ ∧ _ ∧ _))

instance (mqtt : MqttConnection) (e : HealthEvent) : Decidable (mqtt.Counts e) :=
  match e with
  | .counted => decidable_of_iff (mqtt.counting = true → mqtt.generation ≠ 0xFFFFFFFF)
      ⟨fun h _ ↦ h, fun h ↦ h rfl⟩
  | .task _ | .connected | .disconnected | .update .. => isTrue nofun

variable {mqtt : MqttConnection} {e : HealthEvent}

/-- What an event does to the connection. -/
theorem handle_cases (mqtt : MqttConnection) (e : HealthEvent) : mqtt.handle e = mqtt ∨
    mqtt.handle e = { mqtt with connected := true, counting := true } ∨
    mqtt.handle e = { mqtt with connected := false } ∨
    (e = .counted ∧ mqtt.counting = true ∧
      mqtt.handle e = { mqtt with generation := mqtt.generation + 1, counting := false }) := by
  cases e with
  | task | update => exact .inl rfl
  | connected =>
    simp only [handle]
    split
    · exact .inl rfl
    · exact .inr (.inl rfl)
  | counted =>
    simp only [handle]
    split
    next hc => exact .inr (.inr (.inr ⟨trivial, hc, rfl⟩))
    next => exact .inl rfl
  | disconnected =>
    simp only [handle]
    split
    · exact .inl rfl
    · exact .inr (.inr (.inl rfl))

/-- The counter goes up unless it wraps around. -/
private theorem lt_succ {generation : UInt32} (h : generation ≠ 0xFFFFFFFF) :
    generation < generation + 1 := by
  have hne : generation.toNat ≠ 4294967295 := fun hn ↦ h (UInt32.toNat_inj.mp hn)
  have hlt := generation.toNat_lt
  rw [UInt32.lt_iff_toNat_lt, UInt32.toNat_add, UInt32.toNat_one]
  omega

/-- The counter does not go down. -/
theorem generation_le_handle (h : mqtt.Counts e) :
    mqtt.generation ≤ (mqtt.handle e).generation := by
  rcases handle_cases mqtt e with he | he | he | ⟨hcounted, hcounting, he⟩ <;> rw [he]
  · exact UInt32.le_refl _
  · exact UInt32.le_refl _
  · exact UInt32.le_refl _
  · exact UInt32.le_of_lt (lt_succ (h hcounted hcounting))

/-- A connection that is up after an event, and that had been counted before it, was up. -/
theorem serves_of_handle {generation : UInt32} (h : mqtt.Counts e)
    (hle : generation ≤ mqtt.generation) (hs : (mqtt.handle e).Serves generation) :
    mqtt.Serves generation := by
  rcases handle_cases mqtt e with he | he | he | ⟨hcounted, hcounting, he⟩ <;> rw [he] at hs
  · exact hs
  · cases hs.2.1
  · cases hs.1
  · have hlt := lt_succ (h hcounted hcounting)
    rw [show mqtt.generation + 1 = generation from hs.2.2] at hlt
    exact absurd hle (UInt32.not_le.mpr hlt)

end MqttConnection

/-! ### Iterations -/

namespace HealthStep

/-- The generation that an iteration has read. -/
def generationRead : HealthStep → Option UInt32
  | check _ _ g => some g
  | online i | healthSnapshot i | publish i _ | failure i | retry i | failedSnapshot i
  | success i | successComponent i => some i.generation
  | finish g => some g
  | _ => none

/-- How far an iteration of a generation has come. -/
inductive Phase where
  /-- It has not decided whether to publish. -/
  | deciding
  /-- It is to announce that the device is online. -/
  | announcing (generation : UInt32)
  /-- It has decided, and made the announcement if there was one. -/
  | settled (generation : UInt32)

/-- The phase of a step. -/
def phase : HealthStep → Phase
  | online i => .announcing i.generation
  | healthSnapshot i | publish i _ | failure i | retry i | failedSnapshot i | success i
  | successComponent i => .settled i.generation
  | finish g => .settled g
  | _ => .deciding

/-- An iteration that has decided has read its generation. -/
theorem generationRead_of_settled {step : HealthStep} {g : UInt32}
    (h : step.phase = .settled g) : step.generationRead = some g := by
  cases step <;> cases h <;> rfl

end HealthStep

namespace HealthSystem

variable {periodTicks : UInt32} {s : HealthSystem} {e : HealthEvent} {input : HealthInput}

/-- The report of MQTT is an update of its component or nothing. -/
theorem reportMqtt_cases (s : HealthSystem) (timestamp : Option (List UInt8)) (connected : Bool) :
    s.reportMqtt timestamp connected = s ∨ ∃ status error,
      s.reportMqtt timestamp connected = s.updateComponent .mqtt status error timestamp := by
  unfold reportMqtt
  split
  · split
    · exact .inr ⟨_, _, rfl⟩
    · exact .inl rfl
  · exact .inr ⟨_, _, rfl⟩

/-- Where an iteration finds MQTT connected and no new generation, the connection it finds is
the one of this generation. -/
def findsCurrent (s : HealthSystem) (e : HealthEvent) : Bool :=
  match e, s.task.step with
  | .task _, .check _ _ g =>
    decide (s.mqtt.connected = true → g = s.task.lastConnectionGeneration → s.mqtt.Serves g)
  | _, _ => true

theorem serves_of_findsCurrent {snapshot : DeviceHealth} {now g : UInt32}
    (h : s.findsCurrent (.task input) = true) (hs : s.task.step = .check snapshot now g)
    (hconnected : s.mqtt.connected = true) (hlast : g = s.task.lastConnectionGeneration) :
    s.mqtt.Serves g := by
  simp only [findsCurrent, hs, decide_eq_true_eq] at h
  exact h hconnected hlast

/-- What the decision leads to: the end of the iteration or the first publication. -/
theorem check_cases (periodTicks : UInt32) (s : HealthSystem) (snapshot : DeviceHealth)
    (now g : UInt32) :
    let d := s.decision periodTicks snapshot now g
    let iteration := HealthIteration.mk snapshot now g s.task.healthRetryPending
    (s.mqtt.connected = false ∧
      s.check periodTicks snapshot now g = (s.goto (.finish g), none)) ∨
    (s.mqtt.connected = true ∧ d.publishes = false ∧
      s.check periodTicks snapshot now g = (s.goto (.finish g), some (.found d))) ∨
    (s.mqtt.connected = true ∧ d.reconnected = true ∧
      s.check periodTicks snapshot now g =
        (s.startPublication (.online iteration), some (.found d))) ∨
    (s.mqtt.connected = true ∧ d.reconnected = false ∧
      s.check periodTicks snapshot now g =
        (s.startPublication (.healthSnapshot iteration), some (.found d))) := by
  intro d iteration
  unfold check
  by_cases hc : s.mqtt.connected = true
  · rw [if_pos hc]
    by_cases hp : d.publishes = true
    · rw [if_pos hp]
      by_cases hr : d.reconnected = true
      · rw [if_pos hr]
        exact .inr (.inr (.inl ⟨hc, hr, rfl⟩))
      · rw [if_neg hr]
        exact .inr (.inr (.inr ⟨hc, eq_false_of_ne_true hr, rfl⟩))
    · rw [if_neg hp]
      exact .inr (.inl ⟨hc, eq_false_of_ne_true hp, rfl⟩)
  · rw [if_neg hc]
    exact .inl ⟨eq_false_of_ne_true hc, rfl⟩

/-- A step within a phase: it shows nothing but a snapshot that it hands over, and the
generation of the iteration is the one it had read or is now read. -/
structure WithinPhase (s : HealthSystem) (r : HealthSystem × Option HealthOutput) : Prop where
  mqtt : r.1.mqtt = s.mqtt
  last : r.1.task.lastConnectionGeneration = s.task.lastConnectionGeneration
  phase : r.1.task.step.phase = s.task.step.phase
  read : ∀ g, r.1.task.step.generationRead = some g →
    s.task.step.generationRead = some g ∨ g = s.mqtt.generation
  output : r.2 = none ∨ ∃ snapshot accepted, r.2 = some (.handedOver snapshot accepted)

/-- A step of the health task stays within a phase, or is the decision, the announcement or
the end of the iteration. -/
theorem advance_cases (periodTicks : UInt32) (s : HealthSystem) (input : HealthInput) :
    s.WithinPhase (s.advance periodTicks input) ∨
    (∃ snapshot now g, s.task.step = .check snapshot now g ∧
      s.advance periodTicks input = s.check periodTicks snapshot now g) ∨
    (∃ i, s.task.step = .online i ∧
      s.advance periodTicks input = (s.goto (.healthSnapshot i),
        some (.online i.generation (s.mqtt.publish input.accepted)))) ∨
    (∃ g, s.task.step = .finish g ∧
      s.advance periodTicks input =
        ({ s with
            task :=
              { s.task with
                lastConnectionGeneration := g
                step := .systemTime } }, some .ended)) := by
  unfold advance
  split
  next hs => exact .inl (by split <;> exact ⟨rfl, rfl, by rw [hs]; rfl, nofun, .inl rfl⟩)
  next hs => exact .inl ⟨rfl, rfl, by rw [hs]; rfl, nofun, .inl rfl⟩
  next hs => exact .inl ⟨rfl, rfl, by rw [hs]; rfl, nofun, .inl rfl⟩
  next timestamp connected hs =>
    refine .inl ?_
    rcases s.reportMqtt_cases timestamp connected with hr | ⟨_, _, hr⟩ <;> rw [hr] <;>
      exact ⟨rfl, rfl, by rw [hs]; rfl, nofun, .inl rfl⟩
  next hs => exact .inl ⟨rfl, rfl, by rw [hs]; rfl, nofun, .inl rfl⟩
  next hs =>
    exact .inl ⟨rfl, rfl, by rw [hs]; rfl, fun g hg ↦ .inr (Option.some.inj hg).symm, .inl rfl⟩
  next snapshot now g hs => exact .inr (.inl ⟨snapshot, now, g, hs, rfl⟩)
  next i hs => exact .inr (.inr (.inl ⟨i, hs, rfl⟩))
  next i hs =>
    exact .inl ⟨rfl, rfl, by rw [hs]; rfl, fun g hg ↦ .inl (by rw [hs]; exact hg), .inl rfl⟩
  next i handed hs =>
    refine .inl ⟨rfl, rfl, ?_, fun g hg ↦ .inl ?_, .inr ⟨handed, _, rfl⟩⟩
    · rw [hs]
      dsimp only [goto]
      split <;> rfl
    · rw [hs, ← hg]
      dsimp only [goto]
      split <;> rfl
  next i hs =>
    refine .inl ⟨rfl, rfl, ?_, fun g hg ↦ .inl ?_, .inl rfl⟩
    · rw [hs]
      dsimp only [goto]
      split <;> rfl
    · rw [hs, ← hg]
      dsimp only [goto]
      split <;> rfl
  next i hs =>
    exact .inl ⟨rfl, rfl, by rw [hs]; rfl, fun g hg ↦ .inl (by rw [hs]; exact hg), .inl rfl⟩
  next i hs =>
    exact .inl ⟨rfl, rfl, by rw [hs]; rfl, fun g hg ↦ .inl (by rw [hs]; exact hg), .inl rfl⟩
  next i hs =>
    refine .inl ?_
    split <;>
      exact ⟨rfl, rfl, by rw [hs]; rfl, fun g hg ↦ .inl (by rw [hs]; exact hg), .inl rfl⟩
  next i hs =>
    exact .inl ⟨rfl, rfl, by rw [hs]; rfl, fun g hg ↦ .inl (by rw [hs]; exact hg), .inl rfl⟩
  next g hs => exact .inr (.inr (.inr ⟨g, hs, rfl⟩))

/-- A decision is shown where an iteration finds MQTT connected. -/
theorem found_advance {d : HealthDecision}
    (h : (s.advance periodTicks input).2 = some (.found d)) :
    ∃ snapshot now g, s.task.step = .check snapshot now g ∧ s.mqtt.connected = true ∧
      d = s.decision periodTicks snapshot now g := by
  rcases s.advance_cases periodTicks input with hw | ⟨snapshot, now, g, hs, hr⟩ | ⟨i, hs, hr⟩ |
    ⟨g, hs, hr⟩
  · rcases hw.output with ho | ⟨_, _, ho⟩ <;> rw [ho] at h <;> cases h
  · rcases s.check_cases periodTicks snapshot now g with ⟨-, hc⟩ | ⟨hup, -, hc⟩ |
      ⟨hup, -, hc⟩ | ⟨hup, -, hc⟩ <;> rw [hr, hc] at h
    · cases h
    · exact ⟨snapshot, now, g, hs, hup, (HealthOutput.found.inj (Option.some.inj h)).symm⟩
    · exact ⟨snapshot, now, g, hs, hup, (HealthOutput.found.inj (Option.some.inj h)).symm⟩
    · exact ⟨snapshot, now, g, hs, hup, (HealthOutput.found.inj (Option.some.inj h)).symm⟩
  · rw [hr] at h
    cases h
  · rw [hr] at h
    cases h

/-- The end of an iteration is its last step. -/
theorem ended_advance (h : (s.advance periodTicks input).2 = some .ended) :
    ∃ g, s.task.step = .finish g := by
  rcases s.advance_cases periodTicks input with hw | ⟨snapshot, now, g, hs, hr⟩ | ⟨i, hs, hr⟩ |
    ⟨g, hs, hr⟩
  · rcases hw.output with ho | ⟨_, _, ho⟩ <;> rw [ho] at h <;> cases h
  · rcases s.check_cases periodTicks snapshot now g with ⟨-, hc⟩ | ⟨-, -, hc⟩ | ⟨-, -, hc⟩ |
      ⟨-, -, hc⟩ <;> rw [hr, hc] at h <;> cases h
  · rw [hr] at h
    cases h
  · exact ⟨g, hs⟩

/-- The generations that the health task has noted do not exceed the counter. -/
structure Noted (s : HealthSystem) : Prop where
  last : s.task.lastConnectionGeneration ≤ s.mqtt.generation
  read : ∀ g, s.task.step.generationRead = some g → g ≤ s.mqtt.generation

theorem noted_start : Noted .start where
  last := UInt32.le_refl _
  read := nofun

theorem noted_advance (h : s.Noted) : (s.advance periodTicks input).1.Noted := by
  have hread := h.read
  rcases s.advance_cases periodTicks input with hw | ⟨snapshot, now, g, hs, hr⟩ | ⟨i, hs, hr⟩ |
    ⟨g, hs, hr⟩
  · constructor
    · rw [hw.last, hw.mqtt]
      exact h.last
    · intro g hg
      rw [hw.mqtt]
      rcases hw.read g hg with hg | rfl
      · exact hread g hg
      · exact UInt32.le_refl _
  · rw [hs] at hread
    rcases s.check_cases periodTicks snapshot now g with ⟨-, hc⟩ | ⟨-, -, hc⟩ | ⟨-, -, hc⟩ |
      ⟨-, -, hc⟩ <;> rw [hr, hc] <;> exact ⟨h.last, hread⟩
  · rw [hs] at hread
    rw [hr]
    exact ⟨h.last, hread⟩
  · rw [hr]
    exact ⟨hread g (by rw [hs]; rfl), nofun⟩

/-- What the health task has noted stays behind the counter while that does not wrap. -/
theorem noted_step (h : s.Noted) (hc : s.mqtt.Counts e) :
    ((healthSystem periodTicks).step s e).1.Noted := by
  have hle := MqttConnection.generation_le_handle hc
  cases e with
  | task input => exact noted_advance h
  | update => exact ⟨h.last, h.read⟩
  | connected | counted | disconnected =>
    exact ⟨UInt32.le_trans h.last hle, fun g hg ↦ UInt32.le_trans (h.read g hg) hle⟩

end HealthSystem

end EdgeMonitor.Firmware
