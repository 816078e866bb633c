import EdgeMonitor.Firmware.Application

/-!
# The active configuration is a verified one

Library `Firmware`. Along every run of the device, with commits failing and power lost
anywhere, the active slot changes only by an erase or to the configuration that the current
boot loaded as its candidate, after the station, SNTP and MQTT checks of that boot. While the
candidate is being validated the HTTP interface can neither replace nor cancel it.
-/

namespace EdgeMonitor.Firmware
open EdgeMonitor.Base

/-! ### Equality of configurations -/

/-- All fields equal, the character arrays as C strings. -/
structure SameConfiguration (left right : DeviceConfig) : Prop where
  schemaVersion : left.schemaVersion = right.schemaVersion
  revision : left.revision = right.revision
  deviceId : left.deviceId.toCString = right.deviceId.toCString
  wifiSsid : left.wifiSsid.toCString = right.wifiSsid.toCString
  wifiPassword : left.wifiPassword.toCString = right.wifiPassword.toCString
  mqttBrokerUri : left.mqttBrokerUri.toCString = right.mqttBrokerUri.toCString
  mqttCaCertificate : left.mqttCaCertificate.toCString = right.mqttCaCertificate.toCString
  mqttUsername : left.mqttUsername.toCString = right.mqttUsername.toCString
  mqttPassword : left.mqttPassword.toCString = right.mqttPassword.toCString
  mqttClientId : left.mqttClientId.toCString = right.mqttClientId.toCString
  telemetryIntervalSeconds : left.telemetryIntervalSeconds = right.telemetryIntervalSeconds
  machineStatusProvider : left.machineStatusProvider = right.machineStatusProvider
  machineStatusGpio : left.machineStatusGpio = right.machineStatusGpio
  machineStatusActiveHigh : left.machineStatusActiveHigh = right.machineStatusActiveHigh
  machineStatusPull : left.machineStatusPull = right.machineStatusPull
  maintenanceOnBoot : left.maintenanceOnBoot = right.maintenanceOnBoot
  maintenanceWindowSeconds : left.maintenanceWindowSeconds = right.maintenanceWindowSeconds
  maintenanceMaxSessionSeconds :
    left.maintenanceMaxSessionSeconds = right.maintenanceMaxSessionSeconds

/-- `configurations_match` compares every field. -/
theorem configurationsMatch_iff (left right : DeviceConfig) :
    configurationsMatch left right = true ↔ SameConfiguration left right := by
  simp only [configurationsMatch, Bool.and_eq_true, beq_iff_eq, and_assoc]
  constructor
  · rintro ⟨h1, h2, h3, h4, h5, h6, h8, h9, h10, h7, h11, h12, h13, h14, h15, h16, h17, h18⟩
    exact ⟨h1, h2, h3, h4, h5, h6, h7, h8, h9, h10, h11, h12, h13, h14, h15, h16, h17, h18⟩
  · rintro ⟨h1, h2, h3, h4, h5, h6, h7, h8, h9, h10, h11, h12, h13, h14, h15, h16, h17, h18⟩
    exact ⟨h1, h2, h3, h4, h5, h6, h8, h9, h10, h7, h11, h12, h13, h14, h15, h16, h17, h18⟩

/-! ### The current boot -/

/-- What the device has done since its last boot: what `load_for_boot` returned, the checks
that passed, and whether a factory reset or a serial recovery erased NVS. -/
structure BootRecord where
  loaded : Option LoadForBoot
  passed : List Check
  erased : Bool

/-- Nothing has happened since power was applied. -/
def BootRecord.empty : BootRecord := ⟨none, [], false⟩

/-- The record after one more event; a boot starts a new one. -/
def BootRecord.observe (h : BootRecord) (x : Device) (e : DeviceEvent)
    (r : Device × DeviceOutput) : BootRecord :=
  match e, x.phase with
  | .restart, _ => .empty
  | .boot _ _, .off => ⟨r.2.store.reply.bind (·.loaded), [], false⟩
  | _, _ =>
    { h with
      passed := h.passed ++ r.2.passed.toList
      erased := h.erased || r.2.store.writes.any (· == .eraseAll) }

/-- The device with the record of its current boot. -/
def bootRecord (platform : Platform) :
    Machine (Device × BootRecord) DeviceEvent DeviceOutput :=
  (device platform).observed BootRecord.observe

/-- The checks that have passed before each step of `app_main` with a candidate. -/
def Check.passedBefore : Check → List Check
  | station => []
  | time => [.station]
  | mqtt => [.station, .time]
  | activation => [.station, .time, .mqtt]

/-- While the checks run, the configuration is the one the boot loaded; for a candidate the
earlier checks have passed, and its validation is in progress unless NVS was erased. -/
def Validating (x : Device × BootRecord) : Prop :=
  match x.1.phase with
  | .checking c candidate next _ =>
    ∃ loaded, x.2.loaded = some loaded ∧ loaded.result = .ok ∧ loaded.configuration = c ∧
      loaded.usingCandidate = candidate ∧
      (candidate = true → x.2.passed = next.passedBefore ∧
        (x.2.erased = false → x.1.store.ram = ⟨true, c.revision⟩))
  | _ => True

/-! ### One step of the device -/

/-- A step that stays in its phase keeps the record apart from erases. -/
private theorem validating_of_same_phase {x : Device} {h h' : BootRecord} {s : Store}
    (hv : Validating (x, h)) (hl : h'.loaded = h.loaded) (hp : h'.passed = h.passed)
    (he : h'.erased = false → h.erased = false ∧ s.ram = x.store.ram) :
    Validating (Device.enter s x.phase, h') := by
  obtain ⟨store, phase⟩ := x
  cases phase with
  | checking c candidate next exposed =>
    obtain ⟨loaded, h₁, h₂, h₃, h₄, h₅⟩ := hv
    refine ⟨loaded, hl.trans h₁, h₂, h₃, h₄, fun hc ↦ ⟨hp.trans (h₅ hc).1, fun hn ↦ ?_⟩⟩
    obtain ⟨hn, hr⟩ := he hn
    exact hr.trans ((h₅ hc).2 hn)
  | _ => trivial

/-- Only a boot starts the record anew. -/
private theorem observe_other {x : Device} {h : BootRecord} {e : DeviceEvent}
    {r : Device × DeviceOutput} (hr : e ≠ .restart)
    (hb : ∀ ready faults, e = .boot ready faults → x.phase ≠ .off) :
    h.observe x e r =
      { h with
        passed := h.passed ++ r.2.passed.toList
        erased := h.erased || r.2.store.writes.any (· == .eraseAll) } := by
  obtain ⟨store, phase⟩ := x
  cases e with
  | restart => exact absurd rfl hr
  | boot ready faults =>
    cases phase with
    | off => exact absurd rfl (hb ready faults rfl)
    | _ => rfl
  | _ => cases phase <;> rfl

/-- A check that passes moves the record on with the phase. -/
private theorem validating_checked {s : Store} {c : DeviceConfig} {candidate exposed : Bool}
    {check next : Check} {h : BootRecord} {passed : Option Check}
    (hn : candidate = true → check.passedBefore ++ passed.toList = next.passedBefore)
    (hv : Validating (⟨s, .checking c candidate check exposed⟩, h)) :
    Validating (⟨s, .checking c candidate next exposed⟩,
      { h with passed := h.passed ++ passed.toList, erased := h.erased || false }) := by
  obtain ⟨loaded, h₁, h₂, h₃, h₄, h₅⟩ := hv
  refine ⟨loaded, h₁, h₂, h₃, h₄, fun hc ↦ ⟨?_, ?_⟩⟩
  · rw [← hn hc]
    exact congrArg (· ++ _) (h₅ hc).1
  · intro he
    exact (h₅ hc).2 (by simpa using he)

private theorem validating_idle {x : Device} {h : BootRecord} {e : DeviceEvent}
    {phase : Phase} {passed : Option Check} (hr : e ≠ .restart)
    (hi : Idles x.phase e phase passed) (hv : Validating (x, h)) :
    Validating (Device.enter x.store phase,
      h.observe x e (Device.enter x.store phase, ⟨⟨[], none⟩, passed⟩)) := by
  obtain ⟨store, current⟩ := x
  cases hi with
  | same _ _ hb =>
    rw [observe_other hr hb]
    exact validating_of_same_phase hv rfl (by simp) fun he ↦ ⟨by simpa using he, rfl⟩
  | station c candidate exposed result faults hp =>
    rw [observe_other hr nofun]
    exact validating_checked (fun hc ↦ by simp [hp hc, Check.passedBefore]) hv
  | time c candidate exposed result valid faults hp =>
    rw [observe_other hr nofun]
    exact validating_checked (fun hc ↦ by simp [hp hc, Check.passedBefore]) hv
  | mqttCandidate c exposed faults =>
    rw [observe_other hr nofun]
    exact validating_checked (fun _ ↦ rfl) hv
  | checkingClosed c candidate exposed next =>
    rw [observe_other hr nofun]
    exact validating_checked (fun _ ↦ by simp) hv
  | _ => trivial

/-- A call that stays in its phase keeps the validation in progress or erases NVS. -/
private theorem validating_served {platform : Platform} {x : Device} {h : BootRecord}
    {e : DeviceEvent} {op : Operation} {faults : List (Fault Failure)} {reply : Reply}
    (hop : (∃ c, op = .stage c) ∨ op = .cancel ∨ op = .factoryReset ∨ op = .recover)
    (hr : e ≠ .restart) (hb : ∀ ready faults, e ≠ .boot ready faults)
    (hp : x.phase.afterCall e reply = x.phase)
    (hl : ((configStore platform).step x.store (.call op faults)).2.reply = some reply)
    (hv : Validating (x, h)) :
    let r := (configStore platform).step x.store (.call op faults)
    Validating (Device.enter r.1 (x.phase.afterCall e reply),
      h.observe x e (Device.enter r.1 (x.phase.afterCall e reply), ⟨r.2, none⟩)) := by
  intro r
  rw [observe_other hr fun ready faults he ↦ absurd he (hb ready faults), hp]
  refine validating_of_same_phase hv rfl (by simp) fun he ↦ ?_
  obtain ⟨he, hw⟩ : h.erased = false ∧ ∀ w ∈ r.2.writes, w ≠ .eraseAll := by simpa using he
  exact ⟨he, (ram_of_call hop hl).resolve_right fun hm ↦ hw _ hm rfl⟩

private theorem validating_call {platform : Platform} {x : Device} {h : BootRecord}
    {e : DeviceEvent} {op : Operation} {faults : List (Fault Failure)} {reply : Reply}
    (hc : Calls x.phase e op faults)
    (hl : ((configStore platform).step x.store (.call op faults)).2.reply = some reply)
    (hv : Validating (x, h)) :
    let r := (configStore platform).step x.store (.call op faults)
    Validating (Device.enter r.1 (x.phase.afterCall e reply),
      h.observe x e (Device.enter r.1 (x.phase.afterCall e reply), ⟨r.2, none⟩)) := by
  obtain ⟨store, phase⟩ := x
  cases hc with
  | boot faults =>
    cases hlo : reply.loaded with
    | none => simp [Phase.afterCall, hlo, Device.enter, Validating]
    | some l =>
      by_cases hok : l.result = .ok
      · simp only [Phase.afterCall, hlo, hok, if_true, Device.enter]
        refine ⟨l, ?_, hok, rfl, rfl, fun hu ↦ ⟨rfl, fun _ ↦ (ram_of_load hl hlo hu).2⟩⟩
        simp [BootRecord.observe, hl, hlo]
      · simp [Phase.afterCall, hlo, hok, Device.enter, Validating]
  | activate c exposed faults =>
    by_cases hok : reply.result = .ok <;>
      simp [Phase.afterCall, hok, Device.enter, Validating]
  | put phase current request faults hs =>
    exact validating_served (.inl ⟨_, rfl⟩) (by simp) (by simp) rfl hl hv
  | delete phase faults => exact validating_served (.inr (.inl rfl)) (by simp) (by simp) rfl hl hv
  | reset phase faults =>
    exact validating_served (.inr (.inr (.inl rfl))) (by simp) (by simp) rfl hl hv
  | recover phase faults =>
    exact validating_served (.inr (.inr (.inr rfl))) (by simp) (by simp) rfl hl hv
  | _ => trivial

/-- Every step of the device keeps the record of its boot. -/
theorem validating_step {platform : Platform} (x : Device × BootRecord) (e : DeviceEvent)
    (hv : Validating x) : Validating ((bootRecord platform).step x e).1 := by
  obtain ⟨d, h⟩ := x
  change Validating (((device platform).step d e).1, h.observe d e ((device platform).step d e))
  by_cases hr : e = .restart
  · subst hr
    trivial
  · cases hc : d.phase.call e with
    | none =>
      rw [device_idle hr hc]
      exact validating_idle hr (idles_of_call hc) hv
    | some c =>
      obtain ⟨op, faults⟩ := c
      cases hl : ((configStore platform).step d.store (.call op faults)).2.reply with
      | none =>
        rw [device_call_lost hc hl]
        trivial
      | some reply =>
        rw [device_call hc hl]
        exact validating_call (calls_of_call hc) hl hv

/-! ### Changes of the active slot -/

/-- A write that fills the active slot with the candidate of this boot, whose checks have
all passed. -/
structure BecomesVerified (x : Device × BootRecord) (e : DeviceEvent) (after : Flash) :
    Prop where
  activation : ∃ faults, e = .activate faults
  checks : x.2.passed = [.station, .time, .mqtt]
  verified : ∃ loaded candidate, x.2.loaded = some loaded ∧ loaded.result = .ok ∧
    loaded.usingCandidate = true ∧ SameConfiguration candidate loaded.configuration ∧
    after.active = some (ConfigStorage.configurationBlob candidate)

/-- A write that erases NVS for a factory reset or a serial recovery. -/
def ErasesAll (e : DeviceEvent) (w : NvsWrite) : Prop :=
  w = .eraseAll ∧ ∃ faults, e = .factoryReset faults ∨ e = .serialRecovery faults

/-- Each write of the event that changes the active slot erases NVS or fills the slot with
the verified candidate. -/
def ChangesVerified (platform : Platform) (x : Device × BootRecord) (e : DeviceEvent) : Prop :=
  ∀ t ∈ Program.trail NvsWrite.apply x.1.store.flash
      ((bootRecord platform).step x e).2.store.writes,
    t.2.2.active ≠ t.1.active → ErasesAll e t.2.1 ∨ BecomesVerified x e t.2.2

/-- The step writes nothing, leaves the device as it was and does not report success. -/
def NoEffect (platform : Platform) (x : Device) (e : DeviceEvent) : Prop :=
  ((device platform).step x e).2.store.writes = [] ∧ ((device platform).step x e).1 = x ∧
    ∀ reply ∈ ((device platform).step x e).2.store.reply, reply.result ≠ .ok

/-- While a candidate is validated, requests to replace or to cancel it are refused and
change nothing. -/
def RefusesRequests (platform : Platform) (x : Device × BootRecord) (e : DeviceEvent) : Prop :=
  ∀ c next exposed, x.1.phase = .checking c true next exposed → x.2.erased = false →
    ((∃ request faults, e = .candidatePut request faults) ∨ ∃ faults, e = .candidateDelete faults) →
    NoEffect platform x.1 e

private theorem store_bootRecord (platform : Platform) (x : Device × BootRecord)
    (e : DeviceEvent) :
    ((bootRecord platform).step x e).2 = ((device platform).step x.1 e).2 := rfl

/-- An activation changes the active slot to the candidate that it matches. -/
private theorem active_of_activate {platform : Platform} {s : Store} {verified : DeviceConfig}
    {faults : List (Fault Failure)} {t : Flash × NvsWrite × Flash}
    (ht : t ∈ Program.trail NvsWrite.apply s.flash
      ((configStore platform).step s (.call (.activate verified) faults)).2.writes)
    (ha : t.2.1.touchesActive = true) :
    ∃ candidate, SameConfiguration candidate verified ∧
      t.2.2.active = some (ConfigStorage.configurationBlob candidate) := by
  obtain ⟨hw, happly⟩ := Program.mem_trail NvsWrite.apply ht
  change t.2.1 ∈ (((Operation.activate verified).program platform).run _ _ _ _).writes at hw
  rw [happly]
  rcases activate_cases (reached_call platform (.activate verified) s faults) with
    ⟨h, -⟩ | ⟨candidate, m, hm, hwrites⟩
  · rw [h] at hw
    cases hw
  · have hfirst : t.2.1 = .configuration .active candidate := by
      rcases hwrites with ⟨h, -⟩ | ⟨h, -⟩ | h <;> rw [h] at hw <;> simp at hw
      · exact hw
      · rcases hw with hw | hw
        · exact hw
        · rw [hw] at ha
          cases ha
      · rcases hw with hw | hw | hw
        · exact hw
        · rw [hw] at ha
          cases ha
        · rw [hw] at ha
          cases ha
    rw [hfirst]
    exact ⟨candidate, (configurationsMatch_iff _ _).mp hm.matching, rfl⟩

/-- A step from a state whose record is kept changes the active slot as it should. -/
theorem changesVerified_step {platform : Platform} {x : Device × BootRecord} {e : DeviceEvent}
    (hv : Validating x) : ChangesVerified platform x e := by
  intro t ht hne
  have htouch : t.2.1.touchesActive = true := by
    cases hb : t.2.1.touchesActive with
    | true => rfl
    | false =>
      rw [(Program.mem_trail NvsWrite.apply ht).2] at hne
      exact absurd (active_apply_of_not_touches hb t.1) hne
  obtain ⟨⟨store, phase⟩, h⟩ := x
  rw [store_bootRecord] at ht
  rcases device_store_cases platform ⟨store, phase⟩ e with ⟨hs, -⟩ | ⟨op, faults, hc, hs, -⟩
  · rw [hs] at ht
    cases ht
  · rw [hs] at ht
    have hw := (Program.mem_trail NvsWrite.apply ht).1
    rcases touchesActive_of_mem_writes hw htouch with ⟨verified, f, hop⟩ | ⟨herase, f, hop⟩
    · cases hop
      cases calls_of_call hc with
      | activate c exposed faults =>
        obtain ⟨candidate, hsame, hactive⟩ := active_of_activate ht htouch
        obtain ⟨loaded, h₁, h₂, h₃, h₄, h₅⟩ := hv
        exact .inr ⟨⟨faults, rfl⟩, (h₅ rfl).1, loaded, candidate, h₁, h₂, h₄, h₃ ▸ hsame, hactive⟩
    · refine .inl ⟨herase, f, ?_⟩
      rcases hop with hop | hop <;> cases hop <;> cases calls_of_call hc
      · exact .inl rfl
      · exact .inr rfl

/-- While a validation is in progress a staging is refused. -/
private theorem stage_refused {platform : Platform} {s : Store} (c : DeviceConfig)
    (h : s.ram.candidateValidationInProgress = true) :
    ∃ result, result ≠ .ok ∧
      (Operation.stage c).plan platform s.flash s.ram = .refuse s.ram result := by
  by_cases hv : c.validate platform = .ok
  · refine ⟨.invalidState, by decide, ?_⟩
    rw [Operation.plan, if_neg (by simpa using hv), if_pos h]
  · exact ⟨_, hv, if_pos hv⟩

/-- A refused call of a running device has no effect. -/
private theorem noEffect_refused {platform : Platform} {x : Device} {e : DeviceEvent}
    {op : Operation} {faults : List (Fault Failure)} {result : EspErr}
    (hc : x.phase.call e = some (op, faults))
    (hp : x.phase.afterCall e (.code result) = x.phase) (hoff : x.phase ≠ .off)
    (hr : result ≠ .ok)
    (h : op.plan platform x.store.flash x.store.ram = .refuse x.store.ram result) :
    NoEffect platform x e := by
  have hs := step_refused h faults
  rw [NoEffect, device_call hc (congrArg (·.2.reply) hs), hs, hp, enter_powered _ hoff]
  exact ⟨rfl, rfl, by simpa [Reply.code] using hr⟩

/-- An event that calls nothing and stays in its phase has no effect. -/
private theorem noEffect_idle {platform : Platform} {x : Device} {e : DeviceEvent}
    (he : e ≠ .restart) (hc : x.phase.call e = none) (hp : x.phase.afterIdle e = x.phase)
    (hoff : x.phase ≠ .off) : NoEffect platform x e := by
  rw [NoEffect, device_idle he hc, hp, enter_powered _ hoff]
  exact ⟨rfl, rfl, by simp⟩

/-- A step from a state whose record is kept refuses the requests that it should. -/
theorem refusesRequests_step {platform : Platform} {x : Device × BootRecord} {e : DeviceEvent}
    (hv : Validating x) : RefusesRequests platform x e := by
  intro c next exposed hphase herased hrequest
  obtain ⟨⟨store, phase⟩, h⟩ := x
  obtain rfl : phase = .checking c true next exposed := hphase
  obtain ⟨loaded, -, -, -, -, h₅⟩ := hv
  have hram : store.ram = ⟨true, c.revision⟩ := (h₅ rfl).2 herased
  have hprogress : store.ram.candidateValidationInProgress = true := by rw [hram]
  rcases hrequest with ⟨request, faults, rfl⟩ | ⟨faults, rfl⟩ <;> cases exposed
  · exact noEffect_idle nofun rfl rfl nofun
  · obtain ⟨result, hr, hplan⟩ := stage_refused (assignRevision (some c) request) hprogress
    exact noEffect_refused rfl rfl nofun hr hplan
  · exact noEffect_idle nofun rfl rfl nofun
  · have hplan : Operation.cancel.plan platform store.flash store.ram =
        .refuse store.ram .invalidState := if_pos hprogress
    exact noEffect_refused rfl rfl nofun (by decide) hplan

/-- In every run each write that changes the active slot erases it for a factory reset or a
serial recovery, or fills it with the candidate of the current boot after its station, SNTP
and MQTT checks have passed; requests during the validation are refused. -/
theorem active_only_becomes_verified (platform : Platform) (flash : Flash)
    (es : List DeviceEvent) :
    (bootRecord platform).Along
      (fun x e ↦ ChangesVerified platform x e ∧ RefusesRequests platform x e)
      (.unpowered flash, .empty) es := by
  have hv : Validating (.unpowered flash, .empty) := trivial
  exact (bootRecord platform).along_of_kept validating_step
    (fun _ _ hv ↦ ⟨changesVerified_step hv, refusesRequests_step hv⟩) hv es

/-! ### A failed activation -/

/-- An activation that reports an error leaves the active slot alone. -/
def FailedActivationKeeps (platform : Platform) (x : Device) (e : DeviceEvent) : Prop :=
  (∃ faults, e = .activate faults) →
    (∃ reply, ((device platform).step x e).2.store.reply = some reply ∧ reply.result ≠ .ok) →
    ((device platform).step x e).1.store.flash.active = x.store.flash.active

/-- The events of a first candidate that is staged, booted and passes its checks. -/
def firstCandidate (request : DeviceConfig) : List DeviceEvent :=
  [.boot true [], .candidatePut request [], .restart, .boot true [], .stationChecked .ok [],
    .timeChecked .ok true [], .mqttChecked .ok []]

/-- From a device that waits for a configuration, the rest of these events. -/
private theorem run_fromUnconfigured {platform : Platform} {request : DeviceConfig} {s : Store}
    {m : DeviceConfigMetadata} (hv : (assignRevision none request).validate platform = .ok)
    (hr : s.ram = .clear) (hm : storedMetadata s.flash = some m) :
    ∃ store m, (device platform).run ⟨s, .unconfigured⟩ (firstCandidate request).tail =
        ⟨store, .checking (assignRevision none request) true .activation true⟩ ∧
      PendingCandidate platform store.flash (assignRevision none request) m ∧
      store.ram = ⟨true, m.candidateRevision⟩ ∧ store.flash.active = s.flash.active := by
  have hp : s.ram.candidateValidationInProgress = false := by rw [hr]; rfl
  obtain ⟨s₁, e₁, -, a₁, h₁⟩ := device_put (x := ⟨s, .unconfigured⟩) rfl hv hp hm
  let s₂ : Store := ⟨s₁.flash, .clear⟩
  have h₂ : PendingCandidate platform s₂.flash _ _ := h₁
  obtain ⟨s₃, e₃, r₃, a₃, h₃⟩ := device_boot_candidate h₂
    (UInt32.lt_of_lt_of_le (by decide : (0 : UInt32) < 1) platform.one_le_maxAttempts)
  refine ⟨s₃, _, ?_, h₃, r₃, a₃.trans a₁⟩
  rw [firstCandidate, List.tail_cons, Machine.run_cons, e₁, Machine.run_cons, device_restart,
    Machine.run_cons]
  rw [show Device.enter s₁ .off = ⟨s₂, .off⟩ from rfl, e₃]
  rfl

private theorem run_firstCandidate {platform : Platform} {request : DeviceConfig}
    (hv : (assignRevision none request).validate platform = .ok) :
    ∃ store m, (device platform).run (.unpowered .erased) (firstCandidate request) =
        ⟨store, .checking (assignRevision none request) true .activation true⟩ ∧
      PendingCandidate platform store.flash (assignRevision none request) m ∧
      store.ram = ⟨true, m.candidateRevision⟩ ∧ store.flash.active = none := by
  have hm := storedMetadata_write (storable_booted (storable_of_storedMetadata
    storedMetadata_erased)) .erased
  obtain ⟨store, m, hrun, h⟩ := run_fromUnconfigured
    (s := ⟨(NvsWrite.metadata DeviceConfigMetadata.zero.booted).apply .erased, .clear⟩) hv rfl hm
  refine ⟨store, m, ?_, h⟩
  rw [firstCandidate, Machine.run_cons, device_boot_erased]
  exact hrun

private theorem failedActivation_changes {platform : Platform} {request : DeviceConfig}
    (hv : (assignRevision none request).validate platform = .ok) (e : Failure) :
    ¬ (device platform).Along (FailedActivationKeeps platform) (.unpowered .erased)
      (firstCandidate request ++ [.activate [.applied, .failed e]]) := by
  intro h
  have hk := Machine.along_last _ h
  obtain ⟨s, m, hrun, hc, hr, ha⟩ := run_firstCandidate hv
  rw [hrun] at hk
  have hs := step_activate_failed hc hr e
  unfold FailedActivationKeeps at hk
  rw [device_call rfl (congrArg (·.2.reply) hs), hs] at hk
  have hactive := hk ⟨_, rfl⟩ ⟨_, rfl, e.property⟩
  rw [enter_flash, ha] at hactive
  cases hactive

/-- On an erased device the activation of a first candidate whose metadata commit fails
reports the error with the active slot filled. -/
theorem failed_activation_changes_active :
    ¬ (device DeviceConfig.samplePlatform).Along
      (FailedActivationKeeps DeviceConfig.samplePlatform) (.unpowered .erased)
      (firstCandidate (DeviceConfig.sample 0) ++ [.activate [.applied, .failed ⟨.fail, nofun⟩]]) :=
  failedActivation_changes (by decide +kernel) _

end EdgeMonitor.Firmware
