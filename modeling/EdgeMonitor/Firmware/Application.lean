import EdgeMonitor.Firmware.ConfigStore

/-!
# The device application

Library `Firmware`. `app_main` of `firmware/main/app_main.c` as a step machine over the
configuration store, with the handlers of
`firmware/components/provisioning_service/provisioning_service.c` and the serial recovery
task that call the store while it runs. Outcomes of the station, SNTP and MQTT checks come
from outside. An event that the device cannot take in its current phase has no effect.
-/

namespace EdgeMonitor.Firmware
open EdgeMonitor.Base

/-- The steps of `app_main` after the configuration is loaded. -/
inductive Check where
  | station
  | time
  | mqtt
  | activation
  deriving DecidableEq, Repr

/-- Where the device is. `exposed` tells whether the provisioning service is running. -/
inductive Phase where
  /-- Without power or rebooting. -/
  | off
  /-- Storage or the setup secret is unusable, `app_main.c:115–137`. -/
  | recoveryOnly
  /-- No valid configuration, `app_main.c:189–193`. -/
  | unconfigured
  /-- Before the given check with the loaded configuration. -/
  | checking (configuration : DeviceConfig) (usingCandidate : Bool) (next : Check)
    (exposed : Bool)
  /-- After the checks, `app_main.c:214–237`. -/
  | operational (configuration : DeviceConfig) (exposed : Bool)
  /-- A candidate was rejected and `esp_restart` is near, `app_main.c:43–52`. -/
  | restarting (configuration : DeviceConfig) (exposed : Bool)

/-- What can happen to the device. Requests are those that passed authentication. -/
inductive DeviceEvent where
  /-- `app_main` starts; `ready` when storage and the setup secret are usable. -/
  | boot (ready : Bool) (faults : List (Fault Failure))
  /-- `wifi_wait_for_station` returned. -/
  | stationChecked (result : EspErr) (faults : List (Fault Failure))
  /-- `system_time_init` returned, with `system_time_is_valid` after it. -/
  | timeChecked (result : EspErr) (valid : Bool) (faults : List (Fault Failure))
  /-- `mqtt_init` returned, for a candidate followed by `mqtt_wait_connected`. -/
  | mqttChecked (result : EspErr) (faults : List (Fault Failure))
  /-- `app_main` reaches the activation of the candidate. -/
  | activate (faults : List (Fault Failure))
  /-- `candidate_put_handler` with a parsed request. -/
  | candidatePut (request : DeviceConfig) (faults : List (Fault Failure))
  /-- `candidate_delete_handler`. -/
  | candidateDelete (faults : List (Fault Failure))
  /-- `factory_reset_handler` with its confirmation. -/
  | factoryReset (faults : List (Fault Failure))
  /-- `recovery_task` with its confirmed command. -/
  | serialRecovery (faults : List (Fault Failure))
  /-- The maintenance window closes and `maintenance_task` stops the service. -/
  | maintenanceClosed
  /-- `esp_restart`, a watchdog reset or a power cut. -/
  | restart

/-- The current configuration of the provisioning service, none while it does not run. -/
def Phase.service : Phase → Option (Option DeviceConfig)
  | unconfigured => some none
  | checking configuration _ _ true => some (some configuration)
  | operational configuration true => some (some configuration)
  | restarting configuration true => some (some configuration)
  | _ => none

/-- The revision that `parse_configuration` assigns, `provisioning_service.c:593–604`. -/
def assignRevision (current : Option DeviceConfig) (request : DeviceConfig) : DeviceConfig :=
  match current with
  | some configuration => { request with revision := configuration.revision + 1 }
  | none => { request with revision := 1 }

/-- The call of the configuration store that an event leads to, with its faults. -/
def Phase.call (phase : Phase) : DeviceEvent → Option (Operation × List (Fault Failure))
  | .boot true faults =>
    match phase with
    | off => some (.load, faults)
    | _ => none
  | .stationChecked result faults =>
    match phase with
    | checking _ true .station _ =>
      if result ≠ .ok then
        some (.rollback (some (DeviceConfig.ascii "station connection timed out")), faults)
      else none
    | _ => none
  | .timeChecked result valid faults =>
    match phase with
    | checking _ true .time _ =>
      if result ≠ .ok ∨ !valid then
        some (.rollback (some (DeviceConfig.ascii "SNTP validation timed out")), faults)
      else none
    | _ => none
  | .mqttChecked result faults =>
    match phase with
    | checking _ true .mqtt _ =>
      if result ≠ .ok then
        some (.rollback (some (DeviceConfig.ascii "authenticated MQTT connection failed")), faults)
      else none
    | _ => none
  | .activate faults =>
    match phase with
    | checking configuration true .activation _ => some (.activate configuration, faults)
    | _ => none
  | .candidatePut request faults =>
    phase.service.map fun current ↦ (.stage (assignRevision current request), faults)
  | .candidateDelete faults => phase.service.map fun _ ↦ (.cancel, faults)
  | .factoryReset faults => phase.service.map fun _ ↦ (.factoryReset, faults)
  | .serialRecovery faults =>
    match phase with
    | off => none
    | _ => some (.recover, faults)
  | _ => none

/-- The phase after a call that returned. -/
def Phase.afterCall (phase : Phase) (e : DeviceEvent) (reply : Reply) : Phase :=
  match e, phase with
  | .boot _ _, _ =>
    match reply.loaded with
    | some l =>
      if l.result = .ok then
        .checking l.configuration l.usingCandidate .station
          (l.usingCandidate || l.configuration.maintenanceOnBoot)
      else .unconfigured
    | none => .unconfigured
  -- `ESP_ERROR_CHECK` aborts when the activation fails.
  | .activate _, .checking c _ _ exposed =>
    if reply.result = .ok then .operational c (exposed && c.maintenanceOnBoot) else .off
  | .stationChecked _ _, .checking c _ _ exposed => .restarting c exposed
  | .timeChecked _ _ _, .checking c _ _ exposed => .restarting c exposed
  | .mqttChecked _ _, .checking c _ _ exposed => .restarting c exposed
  | _, _ => phase

/-- The phase after an event that calls nothing. -/
def Phase.afterIdle (phase : Phase) (e : DeviceEvent) : Phase :=
  match e, phase with
  | .boot false _, .off => .recoveryOnly
  | .stationChecked _ _, .checking c candidate .station exposed =>
    .checking c candidate .time exposed
  | .timeChecked _ _ _, .checking c candidate .time exposed => .checking c candidate .mqtt exposed
  | .mqttChecked _ _, .checking c true .mqtt exposed => .checking c true .activation exposed
  | .mqttChecked _ _, .checking c false .mqtt exposed => .operational c exposed
  | .maintenanceClosed, .checking c candidate next _ => .checking c candidate next false
  | .maintenanceClosed, .operational c _ => .operational c false
  | .maintenanceClosed, .restarting c _ => .restarting c false
  | _, _ => phase

/-- The check that an event reports as passed. -/
def Phase.passed (phase : Phase) : DeviceEvent → Option Check
  | .stationChecked result _ =>
    match phase with
    | checking _ _ .station _ => if result = .ok then some .station else none
    | _ => none
  | .timeChecked result valid _ =>
    match phase with
    | checking _ _ .time _ => if result = .ok ∧ valid then some .time else none
    | _ => none
  | .mqttChecked result _ =>
    match phase with
    | checking _ _ .mqtt _ => if result = .ok then some .mqtt else none
    | _ => none
  | _ => none

/-- The device: its configuration store and where `app_main` is. -/
structure Device where
  store : Store
  phase : Phase

/-- What a step of the device did. -/
structure DeviceOutput where
  store : StoreOutput
  passed : Option Check

/-- A device without power has lost its RAM. -/
def Device.enter (store : Store) : Phase → Device
  | .off => ⟨{ store with ram := .clear }, .off⟩
  | phase => ⟨store, phase⟩

/-- The device as a machine. -/
def device (platform : Platform) : Machine Device DeviceEvent DeviceOutput where
  step x e :=
    match e with
    | .restart => (.enter x.store .off, ⟨⟨[], none⟩, none⟩)
    | e =>
      match x.phase.call e with
      | none => (.enter x.store (x.phase.afterIdle e), ⟨⟨[], none⟩, x.phase.passed e⟩)
      | some (op, faults) =>
        let r := (configStore platform).step x.store (.call op faults)
        match r.2.reply with
        | none => (.enter r.1 .off, ⟨r.2, none⟩)
        | some reply => (.enter r.1 (x.phase.afterCall e reply), ⟨r.2, none⟩)

/-- A device with the given flash contents before power is applied. -/
def Device.unpowered (flash : Flash) : Device := ⟨⟨flash, .clear⟩, .off⟩

section Step

variable {platform : Platform} {x : Device} {e : DeviceEvent}

@[simp] theorem enter_phase (s : Store) (p : Phase) : (Device.enter s p).phase = p := by
  unfold Device.enter
  split <;> rfl

@[simp] theorem enter_flash (s : Store) (p : Phase) : (Device.enter s p).store.flash = s.flash := by
  unfold Device.enter
  split <;> rfl

/-- Entering a powered phase keeps RAM. -/
theorem enter_powered (s : Store) {p : Phase} (h : p ≠ .off) : Device.enter s p = ⟨s, p⟩ := by
  unfold Device.enter
  split
  · exact absurd rfl h
  · rfl

theorem device_restart :
    (device platform).step x .restart = (.enter x.store .off, ⟨⟨[], none⟩, none⟩) := rfl

/-- An event that calls nothing. -/
theorem device_idle (hr : e ≠ .restart) (hc : x.phase.call e = none) :
    (device platform).step x e =
      (.enter x.store (x.phase.afterIdle e), ⟨⟨[], none⟩, x.phase.passed e⟩) := by
  cases e with
  | restart => exact absurd rfl hr
  | _ => simp only [device, hc]

/-- An event whose call loses power. -/
theorem device_call_lost {op : Operation} {faults : List (Fault Failure)}
    (hc : x.phase.call e = some (op, faults))
    (hl : ((configStore platform).step x.store (.call op faults)).2.reply = none) :
    (device platform).step x e =
      (.enter ((configStore platform).step x.store (.call op faults)).1 .off,
        ⟨((configStore platform).step x.store (.call op faults)).2, none⟩) := by
  cases e with
  | restart => cases hc
  | _ => simp only [device, hc, hl]

/-- An event whose call returns. -/
theorem device_call {op : Operation} {faults : List (Fault Failure)} {reply : Reply}
    (hc : x.phase.call e = some (op, faults))
    (hl : ((configStore platform).step x.store (.call op faults)).2.reply = some reply) :
    (device platform).step x e =
      (.enter ((configStore platform).step x.store (.call op faults)).1
          (x.phase.afterCall e reply),
        ⟨((configStore platform).step x.store (.call op faults)).2, none⟩) := by
  cases e with
  | restart => cases hc
  | _ => simp only [device, hc, hl]

/-- A step does to the store what its call does, or leaves NVS alone. -/
theorem device_store_cases (platform : Platform) (x : Device) (e : DeviceEvent) :
    (((device platform).step x e).2.store = ⟨[], none⟩ ∧
      ((device platform).step x e).1.store.flash = x.store.flash) ∨
    ∃ op faults, x.phase.call e = some (op, faults) ∧
      ((device platform).step x e).2.store =
        ((configStore platform).step x.store (.call op faults)).2 ∧
      ((device platform).step x e).1.store.flash =
        ((configStore platform).step x.store (.call op faults)).1.flash := by
  by_cases hr : e = .restart
  · subst hr
    rw [device_restart]
    exact .inl ⟨rfl, rfl⟩
  · cases hc : x.phase.call e with
    | none =>
      rw [device_idle hr hc]
      exact .inl ⟨rfl, enter_flash _ _⟩
    | some c =>
      obtain ⟨op, faults⟩ := c
      refine .inr ⟨op, faults, rfl, ?_⟩
      cases hl : ((configStore platform).step x.store (.call op faults)).2.reply with
      | none =>
        rw [device_call_lost hc hl]
        exact ⟨rfl, enter_flash _ _⟩
      | some reply =>
        rw [device_call hc hl]
        exact ⟨rfl, enter_flash _ _⟩

end Step

/-! ### Which events make which calls -/

/-- Every call that the device makes, with the phase and the event it comes from. -/
inductive Calls : Phase → DeviceEvent → Operation → List (Fault Failure) → Prop
  | boot (faults : List (Fault Failure)) : Calls .off (.boot true faults) .load faults
  | station (c : DeviceConfig) (exposed : Bool) (result : EspErr)
    (faults : List (Fault Failure)) (reason : Option (List UInt8)) :
    Calls (.checking c true .station exposed) (.stationChecked result faults)
      (.rollback reason) faults
  | time (c : DeviceConfig) (exposed : Bool) (result : EspErr) (valid : Bool)
    (faults : List (Fault Failure)) (reason : Option (List UInt8)) :
    Calls (.checking c true .time exposed) (.timeChecked result valid faults)
      (.rollback reason) faults
  | mqtt (c : DeviceConfig) (exposed : Bool) (result : EspErr)
    (faults : List (Fault Failure)) (reason : Option (List UInt8)) :
    Calls (.checking c true .mqtt exposed) (.mqttChecked result faults) (.rollback reason) faults
  | activate (c : DeviceConfig) (exposed : Bool) (faults : List (Fault Failure)) :
    Calls (.checking c true .activation exposed) (.activate faults) (.activate c) faults
  | put (phase : Phase) (current : Option DeviceConfig) (request : DeviceConfig)
    (faults : List (Fault Failure)) (h : phase.service = some current) :
    Calls phase (.candidatePut request faults) (.stage (assignRevision current request)) faults
  | delete (phase : Phase) (faults : List (Fault Failure)) :
    Calls phase (.candidateDelete faults) .cancel faults
  | reset (phase : Phase) (faults : List (Fault Failure)) :
    Calls phase (.factoryReset faults) .factoryReset faults
  | recover (phase : Phase) (faults : List (Fault Failure)) :
    Calls phase (.serialRecovery faults) .recover faults

/-- The calls of the device are the listed ones. -/
theorem calls_of_call {phase : Phase} {e : DeviceEvent} {op : Operation}
    {faults : List (Fault Failure)} (h : phase.call e = some (op, faults)) :
    Calls phase e op faults := by
  cases e with
  | boot ready f =>
    cases ready with
    | false => cases h
    | true =>
      cases phase with
      | off => cases h; exact .boot _
      | _ => cases h
  | stationChecked r f =>
    simp only [Phase.call] at h
    split at h
    · split at h
      · cases h; exact .station _ _ _ _ _
      · cases h
    · cases h
  | timeChecked r v f =>
    simp only [Phase.call] at h
    split at h
    · split at h
      · cases h; exact .time _ _ _ _ _ _
      · cases h
    · cases h
  | mqttChecked r f =>
    simp only [Phase.call] at h
    split at h
    · split at h
      · cases h; exact .mqtt _ _ _ _ _
      · cases h
    · cases h
  | activate f =>
    simp only [Phase.call] at h
    split at h
    · cases h; exact .activate _ _ _
    · cases h
  | candidatePut request f =>
    cases hs : phase.service with
    | none => simp [Phase.call, hs] at h
    | some current =>
      simp only [Phase.call, hs, Option.map_some] at h
      cases h
      exact .put phase current request _ hs
  | candidateDelete f =>
    cases hs : phase.service with
    | none => simp [Phase.call, hs] at h
    | some current =>
      simp only [Phase.call, hs, Option.map_some] at h
      cases h
      exact .delete phase _
  | factoryReset f =>
    cases hs : phase.service with
    | none => simp [Phase.call, hs] at h
    | some current =>
      simp only [Phase.call, hs, Option.map_some] at h
      cases h
      exact .reset phase _
  | serialRecovery f =>
    simp only [Phase.call] at h
    split at h
    · cases h
    · cases h
      exact .recover phase _
  | maintenanceClosed => cases h
  | restart => cases h

/-- Every event that calls nothing, with the phase it leads to and the check it passes. -/
inductive Idles : Phase → DeviceEvent → Phase → Option Check → Prop
  | same (phase : Phase) (e : DeviceEvent)
    (h : ∀ ready faults, e = .boot ready faults → phase ≠ .off) : Idles phase e phase none
  | unready (faults : List (Fault Failure)) : Idles .off (.boot false faults) .recoveryOnly none
  | station (c : DeviceConfig) (candidate exposed : Bool) (result : EspErr)
    (faults : List (Fault Failure)) (h : candidate = true → result = .ok) :
    Idles (.checking c candidate .station exposed) (.stationChecked result faults)
      (.checking c candidate .time exposed) (if result = .ok then some .station else none)
  | time (c : DeviceConfig) (candidate exposed : Bool) (result : EspErr) (valid : Bool)
    (faults : List (Fault Failure)) (h : candidate = true → result = .ok ∧ valid = true) :
    Idles (.checking c candidate .time exposed) (.timeChecked result valid faults)
      (.checking c candidate .mqtt exposed) (if result = .ok ∧ valid then some .time else none)
  | mqttCandidate (c : DeviceConfig) (exposed : Bool) (faults : List (Fault Failure)) :
    Idles (.checking c true .mqtt exposed) (.mqttChecked .ok faults)
      (.checking c true .activation exposed) (some .mqtt)
  | mqttActive (c : DeviceConfig) (exposed : Bool) (result : EspErr)
    (faults : List (Fault Failure)) :
    Idles (.checking c false .mqtt exposed) (.mqttChecked result faults)
      (.operational c exposed) (if result = .ok then some .mqtt else none)
  | checkingClosed (c : DeviceConfig) (candidate exposed : Bool) (next : Check) :
    Idles (.checking c candidate next exposed) .maintenanceClosed
      (.checking c candidate next false) none
  | operationalClosed (c : DeviceConfig) (exposed : Bool) :
    Idles (.operational c exposed) .maintenanceClosed (.operational c false) none
  | restartingClosed (c : DeviceConfig) (exposed : Bool) :
    Idles (.restarting c exposed) .maintenanceClosed (.restarting c false) none

/-- The events without a call are the listed ones. -/
theorem idles_of_call {phase : Phase} {e : DeviceEvent} (h : phase.call e = none) :
    Idles phase e (phase.afterIdle e) (phase.passed e) := by
  cases e with
  | boot ready f =>
    cases phase with
    | off =>
      cases ready with
      | false => exact .unready f
      | true => cases h
    | _ => cases ready <;> exact .same _ _ nofun
  | stationChecked r f =>
    cases phase with
    | checking c candidate next exposed =>
      cases next with
      | station =>
        refine .station c candidate exposed r f fun hc ↦ ?_
        subst hc
        simpa [Phase.call] using h
      | _ => cases candidate <;> exact .same _ _ nofun
    | _ => exact .same _ _ nofun
  | timeChecked r v f =>
    cases phase with
    | checking c candidate next exposed =>
      cases next with
      | time =>
        refine .time c candidate exposed r v f fun hc ↦ ?_
        subst hc
        simpa [Phase.call] using h
      | _ => cases candidate <;> exact .same _ _ nofun
    | _ => exact .same _ _ nofun
  | mqttChecked r f =>
    cases phase with
    | checking c candidate next exposed =>
      cases next with
      | mqtt =>
        cases candidate with
        | true =>
          obtain rfl : r = .ok := by simpa [Phase.call] using h
          exact .mqttCandidate c exposed f
        | false => exact .mqttActive c exposed r f
      | _ => cases candidate <;> exact .same _ _ nofun
    | _ => exact .same _ _ nofun
  | maintenanceClosed =>
    cases phase with
    | checking c candidate next exposed => exact .checkingClosed c candidate exposed next
    | operational c exposed => exact .operationalClosed c exposed
    | restarting c exposed => exact .restartingClosed c exposed
    | _ => exact .same _ _ nofun
  | _ => cases phase <;> exact .same _ _ nofun

/-! ### Steps that go through -/

section Through

variable {platform : Platform} {c : DeviceConfig} {m : DeviceConfigMetadata}

/-- A boot whose load returns no configuration waits for one. -/
theorem device_boot_unconfigured {s s' : Store} {faults : List (Fault Failure)}
    {writes : List NvsWrite} {l : LoadForBoot}
    (hs : (configStore platform).step s (.call .load faults) = (s', ⟨writes, some (.load l)⟩))
    (hl : l.result ≠ .ok) :
    ((device platform).step ⟨s, .off⟩ (.boot true faults)).1 = ⟨s', .unconfigured⟩ := by
  rw [device_call (x := ⟨s, .off⟩) rfl (congrArg (·.2.reply) hs), hs]
  simp [Phase.afterCall, Reply.load, hl, Device.enter]

/-- The first boot of an erased device waits for a configuration. -/
theorem device_boot_erased (platform : Platform) :
    ((device platform).step (.unpowered .erased) (.boot true [])).1 =
      ⟨⟨(NvsWrite.metadata DeviceConfigMetadata.zero.booted).apply .erased, .clear⟩,
        .unconfigured⟩ := by
  obtain ⟨l, hl, hs⟩ := step_load_erased platform .clear
  have hne : l.result ≠ .ok := by
    rw [hl]
    decide
  rw [Device.unpowered]
  exact device_boot_unconfigured hs hne

/-- A request with a valid configuration makes it the pending candidate. -/
theorem device_put {x : Device} {current : Option DeviceConfig} {request : DeviceConfig}
    (hs : x.phase.service = some current)
    (hv : (assignRevision current request).validate platform = .ok)
    (hp : x.store.ram.candidateValidationInProgress = false)
    (hm : storedMetadata x.store.flash = some m) :
    ∃ store, ((device platform).step x (.candidatePut request [])).1 = ⟨store, x.phase⟩ ∧
      store.ram = x.store.ram ∧ store.flash.active = x.store.flash.active ∧
      PendingCandidate platform store.flash (assignRevision current request)
        (m.pendingFor (assignRevision current request).revision) := by
  have hc : x.phase.call (.candidatePut request []) =
      some (.stage (assignRevision current request), []) := by
    simp [Phase.call, hs]
  have hstep := step_stage hv hp hm
  have hoff : x.phase ≠ .off := by
    intro h
    rw [h] at hs
    cases hs
  rw [device_call hc (congrArg (·.2.reply) hstep), hstep]
  exact ⟨_, enter_powered _ hoff, rfl, rfl, pendingCandidate_staged hv hm⟩

/-- A pending candidate below the attempt limit is booted and validated. -/
theorem device_boot_candidate {s : Store} (h : PendingCandidate platform s.flash c m)
    (hl : m.bootAttempts < platform.candidateMaxAttempts) :
    ∃ store, (device platform).step ⟨s, .off⟩ (.boot true []) =
        (⟨store, .checking c true .station true⟩,
          ⟨⟨[.metadata m.booted, .metadata m.booted.attempted],
            some (.load ⟨.ok, c, true, m.booted.attempted⟩)⟩, none⟩) ∧
      store.ram = ⟨true, m.candidateRevision⟩ ∧ store.flash.active = s.flash.active ∧
      PendingCandidate platform store.flash c m.booted.attempted := by
  have hstep := step_load_candidate (s := s) h hl
  rw [device_call (x := ⟨s, .off⟩) rfl (congrArg (·.2.reply) hstep), hstep]
  exact ⟨_, rfl, rfl, rfl, h.attempted⟩

end Through

end EdgeMonitor.Firmware
