import EdgeMonitor.Base.Machine
import EdgeMonitor.Firmware.Bme280

/-!
# The device handle of the sensor

Library `Firmware`. Whatever the driver answers, the component keeps the handle of a device
that is registered on the bus, never registers a second one, and reads measurements only from
a device that it has started up.
-/

namespace EdgeMonitor.Firmware
open EdgeMonitor.Base

/-! ### Transactions -/

/-- A transaction registered a device. -/
def I2cTransaction.adds : I2cTransaction → Bool
  | ⟨.addDevice, .ok _⟩ => true
  | _ => false

/-- A transaction removed a device. -/
def I2cTransaction.removes : I2cTransaction → Bool
  | ⟨.rmDevice _, .ok _⟩ => true
  | _ => false

/-- The number of devices registered. -/
def addedDevices (transactions : List I2cTransaction) : Nat :=
  transactions.countP I2cTransaction.adds

/-- The number of devices removed. -/
def removedDevices (transactions : List I2cTransaction) : Nat :=
  transactions.countP I2cTransaction.removes

theorem addedDevices_cons (t : I2cTransaction) (ts : List I2cTransaction) :
    addedDevices (t :: ts) = addedDevices ts + if t.adds then 1 else 0 := List.countP_cons

theorem removedDevices_cons (t : I2cTransaction) (ts : List I2cTransaction) :
    removedDevices (t :: ts) = removedDevices ts + if t.removes then 1 else 0 := List.countP_cons

/-- Each device was registered when no other one was. -/
def OneAtATime (transactions : List I2cTransaction) : Prop :=
  ∀ t older, t :: older <:+ transactions → t.adds = true →
    addedDevices older = removedDevices older

/-- How far the startup of a device has come. -/
inductive StartupStage where
  | registered
  | identified
  | reset
  | copied
  | coefficients (block1 : Fin 26 → UInt8)
  | calibrated
  | humidity
  | config
  | configured

/-- What has happened since a device was registered is its startup up to a stage, followed by
measurements after the last one. -/
inductive StartedUp (device : I2cHandle) : StartupStage → List I2cTransaction → Prop where
  | registered {ts : List I2cTransaction} :
      StartedUp device .registered (⟨.addDevice, .ok device⟩ :: ts)
  | identified {ts : List I2cTransaction} {data : Fin 1 → UInt8}
      (h : StartedUp device .registered ts) (hdata : data 0 = Bme280.chipId) :
      StartedUp device .identified
        (⟨.transmitReceive device Bme280.regChipId 1, .ok data⟩ :: ts)
  | reset {ts : List I2cTransaction} (h : StartedUp device .identified ts) :
      StartedUp device .reset
        (⟨.transmit device [Bme280.regReset, Bme280.resetCommand], .ok ⟨⟩⟩ :: ts)
  | copying {ts : List I2cTransaction} {data : Fin 1 → UInt8}
      (h : StartedUp device .reset ts) (hdata : data 0 &&& Bme280.statusImUpdateMask ≠ 0) :
      StartedUp device .reset (⟨.transmitReceive device Bme280.regStatus 1, .ok data⟩ :: ts)
  | copied {ts : List I2cTransaction} {data : Fin 1 → UInt8}
      (h : StartedUp device .reset ts) (hdata : data 0 &&& Bme280.statusImUpdateMask = 0) :
      StartedUp device .copied (⟨.transmitReceive device Bme280.regStatus 1, .ok data⟩ :: ts)
  | coefficients {ts : List I2cTransaction} {block1 : Fin 26 → UInt8}
      (h : StartedUp device .copied ts) :
      StartedUp device (.coefficients block1)
        (⟨.transmitReceive device Bme280.regCalibT1 26, .ok block1⟩ :: ts)
  | calibrated {ts : List I2cTransaction} {block1 : Fin 26 → UInt8} {block2 : Fin 7 → UInt8}
      (h : StartedUp device (.coefficients block1) ts)
      (hdata : (Bme280.decodeCalibration block1 block2).digP1 ≠ 0) :
      StartedUp device .calibrated
        (⟨.transmitReceive device Bme280.regCalibH2 7, .ok block2⟩ :: ts)
  | humidity {ts : List I2cTransaction} (h : StartedUp device .calibrated ts) :
      StartedUp device .humidity
        (⟨.transmit device [Bme280.regCtrlHum, Bme280.ctrlHumValue], .ok ⟨⟩⟩ :: ts)
  | config {ts : List I2cTransaction} (h : StartedUp device .humidity ts) :
      StartedUp device .config
        (⟨.transmit device [Bme280.regConfig, Bme280.configValue], .ok ⟨⟩⟩ :: ts)
  | configured {ts : List I2cTransaction} (h : StartedUp device .config ts) :
      StartedUp device .configured
        (⟨.transmit device [Bme280.regCtrlMeas, Bme280.ctrlMeasValue], .ok ⟨⟩⟩ :: ts)
  | measured {ts : List I2cTransaction} {data : Fin 8 → UInt8}
      (h : StartedUp device .configured ts) :
      StartedUp device .configured
        (⟨.transmitReceive device Bme280.regPressMsb 8, .ok data⟩ :: ts)

/-! ### Runs -/

/-- The calls of the components. -/
inductive SensorCall where
  /-- `app_i2c_bus_init`, which may create the bus. -/
  | busInit (created : Bool)
  | init
  | read
  | invalidate

/-- The state after a function and its result, if it returns one. -/
def SensorM.after {α : Type} (m : SensorM α) (s : SensorState) : SensorState × Option α :=
  match m s with
  | .ok a s' => (s', some a)
  | .error _ s' => (s', none)

/-- The components, with the readings they return. -/
def sensorSystem (driver : I2cDriver) : Machine SensorState SensorCall (Option Bme280RawData) where
  step s
    | .busInit created => ({ s with busInitialized := s.busInitialized || created }, none)
    | .init => (((sensorInit driver).after s).1, none)
    | .read => (sensorRead driver).after s
    | .invalidate => (((sensorInvalidate driver).after s).1, none)

/-! ### The invariant -/

/-- The handle is that of the device registered on the bus, and the flags say that it has been
started up. -/
structure HandlesConserved (s : SensorState) : Prop where
  balance : addedDevices s.transactions =
    removedDevices s.transactions + if s.bme280Device.isSome then 1 else 0
  one : OneAtATime s.transactions
  ready : s.bme280Ready = true → ∃ device, s.bme280Device = some device ∧
    StartedUp device .configured s.transactions
  initialized : s.initialized = true → s.bme280Ready = true

/-- The handle is accounted for, and the flags have the given values. -/
structure Settled (ready initialized : Bool) (s : SensorState) : Prop where
  balance : addedDevices s.transactions =
    removedDevices s.transactions + if s.bme280Device.isSome then 1 else 0
  one : OneAtATime s.transactions
  ready : s.bme280Ready = ready
  initialized : s.initialized = initialized

/-- The handle is accounted for, and its device has come to a stage of its startup. -/
structure AtStage (ready initialized : Bool) (stage : StartupStage) (s : SensorState) : Prop
    extends Settled ready initialized s where
  device : ∃ device, s.bme280Device = some device ∧ StartedUp device stage s.transactions

/-- The handle is accounted for, and the last transaction is a successful one with a device
that had come to a stage of its startup. -/
structure Past (ready initialized : Bool) (stage : StartupStage)
    (operation : I2cHandle → I2cOperation) (output : ∀ device, (operation device).Output)
    (s : SensorState) : Prop extends Settled ready initialized s where
  device : ∃ device older, s.bme280Device = some device ∧ StartedUp device stage older ∧
    s.transactions = ⟨operation device, .ok (output device)⟩ :: older

section Specs

variable {driver : I2cDriver} {ready initialized : Bool} {stage stage' : StartupStage}
  {s : SensorState}

/-- What a call of the driver ensures. -/
theorem ensures_i2cOperation {operation : I2cOperation} {P E : SensorState → Prop}
    {Q : operation.Output → SensorState → Prop}
    (hok : ∀ s output, P s →
      Q output { s with transactions := ⟨operation, .ok output⟩ :: s.transactions })
    (herror : ∀ s code, P s →
      E { s with transactions := ⟨operation, .error code⟩ :: s.transactions }) :
    Ensures P (i2cOperation driver operation) Q E := by
  intro s hs
  unfold i2cOperation
  cases hr : driver s.transactions operation with
  | ok output => exact hok s output hs
  | error code => exact herror s code hs

/-- A transaction that registers no device leaves the order of registrations as it is. -/
theorem OneAtATime.cons {ts : List I2cTransaction} {t : I2cTransaction} (h : OneAtATime ts)
    (ht : t.adds = false) : OneAtATime (t :: ts) := by
  intro t' older hsuffix hadds
  rcases List.suffix_cons_iff.mp hsuffix with heq | hsuffix
  · obtain ⟨rfl, rfl⟩ := List.cons.inj heq
    rw [ht] at hadds
    cases hadds
  · exact h t' older hsuffix hadds

/-- A device may be registered when none is. -/
theorem OneAtATime.cons_of_balance {ts : List I2cTransaction} {t : I2cTransaction}
    (h : OneAtATime ts) (hbalance : addedDevices ts = removedDevices ts) :
    OneAtATime (t :: ts) := by
  intro t' older hsuffix hadds
  rcases List.suffix_cons_iff.mp hsuffix with heq | hsuffix
  · obtain ⟨rfl, rfl⟩ := List.cons.inj heq
    exact hbalance
  · exact h t' older hsuffix hadds

/-- A transaction that neither registers nor removes a device keeps the handle accounted for. -/
theorem Settled.transaction (h : Settled ready initialized s) {t : I2cTransaction}
    (hadds : t.adds = false) (hremoves : t.removes = false) :
    Settled ready initialized { s with transactions := t :: s.transactions } where
  balance := by
    simp only [addedDevices_cons, removedDevices_cons, hadds, hremoves]
    exact h.balance
  one := h.one.cons hadds
  ready := h.ready
  initialized := h.initialized

theorem ensures_bme280RemoveDevice :
    Ensures (Settled ready initialized) (bme280RemoveDevice driver)
      (fun _ s ↦ Settled ready initialized s ∧ s.bme280Device = none)
      (Settled ready initialized) := by
  refine .get_bind fun t ht ↦ ?_
  cases hd : t.bme280Device with
  | none =>
    refine .pure fun s hs ↦ ?_
    subst hs
    exact ⟨ht, hd⟩
  | some device =>
    refine .bind (Q := fun _ s ↦ s = { t with
      transactions := ⟨.rmDevice device, .ok ⟨⟩⟩ :: t.transactions }) ?_ fun _ ↦ ?_
    · refine ensures_i2cOperation (fun s output hs ↦ ?_) fun s code hs ↦ ?_
      · subst hs
        rfl
      · subst hs
        exact ht.transaction rfl rfl
    · refine .update fun s hs ↦ ?_
      subst hs
      refine ⟨⟨?_, ht.one.cons rfl, ht.ready, ht.initialized⟩, rfl⟩
      have hbalance := ht.balance
      rw [hd] at hbalance
      rw [addedDevices_cons, removedDevices_cons]
      exact hbalance

theorem ensures_i2cMasterBusAddDevice :
    Ensures (fun s ↦ Settled ready initialized s ∧ s.bme280Device = none)
      (i2cMasterBusAddDevice driver) (fun _ ↦ AtStage ready initialized .registered)
      (Settled ready initialized) := by
  refine .bind (Q := fun device s ↦ ∃ t, Settled ready initialized t ∧ t.bme280Device = none ∧
    s = { t with transactions := ⟨.addDevice, .ok device⟩ :: t.transactions }) ?_ fun device ↦ ?_
  · exact ensures_i2cOperation (fun t device ht ↦ ⟨t, ht.1, ht.2, rfl⟩)
      fun t code ht ↦ ht.1.transaction rfl rfl
  · refine .update fun s hs ↦ ?_
    obtain ⟨t, ht, hd, rfl⟩ := hs
    have hbalance : addedDevices t.transactions = removedDevices t.transactions := by
      have h := ht.balance
      rw [hd] at h
      exact h
    exact
      { balance := by
          rw [addedDevices_cons, removedDevices_cons]
          exact congrArg (· + 1) hbalance
        one := ht.one.cons_of_balance hbalance
        ready := ht.ready
        initialized := ht.initialized
        device := ⟨device, rfl, .registered⟩ }

/-- A read of registers from a device at some stage. -/
theorem ensures_bme280ReadRegisters {register : UInt8} {length : Nat} (hlength : length ≠ 0) :
    Ensures (AtStage ready initialized stage) (bme280ReadRegisters driver register length)
      (fun data ↦ Past ready initialized stage (.transmitReceive · register length) fun _ ↦ data)
      (Settled ready initialized) := by
  refine .get_bind fun t ht ↦ ?_
  obtain ⟨device, hd, hstarted⟩ := ht.device
  rw [hd]
  simp only [if_neg hlength]
  refine ensures_i2cOperation (fun s data hs ↦ ?_) fun s code hs ↦ ?_
  · subst hs
    exact ⟨ht.toSettled.transaction rfl rfl, device, _, hd, hstarted, rfl⟩
  · subst hs
    exact ht.toSettled.transaction rfl rfl

/-- A write of a register of a device at some stage. -/
theorem ensures_bme280WriteRegister {register value : UInt8}
    (hnext : ∀ device ts, StartedUp device stage ts →
      StartedUp device stage' (⟨.transmit device [register, value], .ok ⟨⟩⟩ :: ts)) :
    Ensures (AtStage ready initialized stage) (bme280WriteRegister driver register value)
      (fun _ ↦ AtStage ready initialized stage') (Settled ready initialized) := by
  refine .get_bind fun t ht ↦ ?_
  obtain ⟨device, hd, hstarted⟩ := ht.device
  rw [hd]
  refine ensures_i2cOperation (fun s data hs ↦ ?_) fun s code hs ↦ ?_
  · subst hs
    exact ⟨ht.toSettled.transaction rfl rfl, device, hd, hnext device _ hstarted⟩
  · subst hs
    exact ht.toSettled.transaction rfl rfl

theorem ensures_bme280ReadRegister {register : UInt8} :
    Ensures (AtStage ready initialized stage) (bme280ReadRegister driver register)
      (fun value s ↦ ∃ data : Fin 1 → UInt8, value = data 0 ∧
        Past ready initialized stage (.transmitReceive · register 1) (fun _ ↦ data) s)
      (Settled ready initialized) :=
  .bind (ensures_bme280ReadRegisters Nat.one_ne_zero) fun data ↦ .pure fun _ hs ↦ ⟨data, rfl, hs⟩

/-- A transaction that takes the device to a further stage. -/
theorem Past.atStage {operation : I2cHandle → I2cOperation}
    {output : ∀ device, (operation device).Output}
    (h : Past ready initialized stage operation output s)
    (hnext : ∀ device ts, StartedUp device stage ts →
      StartedUp device stage' (⟨operation device, .ok (output device)⟩ :: ts)) :
    AtStage ready initialized stage' s := by
  obtain ⟨device, older, hd, hstarted, hlast⟩ := h.device
  exact ⟨h.toSettled, device, hd, hlast ▸ hnext device older hstarted⟩

theorem ensures_bme280CheckChipId :
    Ensures (AtStage ready initialized .registered) (bme280CheckChipId driver)
      (fun _ ↦ AtStage ready initialized .identified) (Settled ready initialized) := by
  refine .bind ensures_bme280ReadRegister fun chipId ↦ ?_
  by_cases hchip : chipId = Bme280.chipId
  · rw [if_neg (not_not_intro hchip)]
    refine .pure fun s hs ↦ ?_
    obtain ⟨data, hvalue, hs⟩ := hs
    exact hs.atStage fun _ _ h ↦ .identified h (hvalue ▸ hchip)
  · rw [if_pos hchip]
    refine .throw fun s hs ↦ ?_
    obtain ⟨_, _, hs⟩ := hs
    exact hs.toSettled

/-- The copy is polled at the same stage until it is over or the attempts are. -/
theorem ensures_bme280WaitForCalibrationCopy (attempts : Nat) :
    Ensures (AtStage ready initialized .reset) (bme280WaitForCalibrationCopy driver attempts)
      (fun _ ↦ AtStage ready initialized .copied) (Settled ready initialized) := by
  induction attempts with
  | zero => exact .throw fun s hs ↦ hs.toSettled
  | succ attempts ih =>
    refine .bind ensures_bme280ReadRegister fun status ↦ ?_
    by_cases hstatus : status &&& Bme280.statusImUpdateMask = 0
    · rw [if_pos hstatus]
      refine .pure fun s hs ↦ ?_
      obtain ⟨data, hvalue, hs⟩ := hs
      exact hs.atStage fun _ _ h ↦ .copied h (hvalue ▸ hstatus)
    · rw [if_neg hstatus]
      refine ih.mono (fun s hs ↦ ?_) (fun _ _ h ↦ h) fun _ h ↦ h
      obtain ⟨data, hvalue, hs⟩ := hs
      exact hs.atStage fun _ _ h ↦ .copying h (hvalue ▸ hstatus)

/-- What is settled does not depend on the calibration. -/
theorem Settled.withCalibration (h : Settled ready initialized s)
    (calibration : Bme280Calibration) : Settled ready initialized { s with calibration } :=
  ⟨h.balance, h.one, h.ready, h.initialized⟩

theorem ensures_bme280ReadCalibration :
    Ensures (AtStage ready initialized .copied) (bme280ReadCalibration driver)
      (fun _ ↦ AtStage ready initialized .calibrated) (Settled ready initialized) := by
  refine .bind (ensures_bme280ReadRegisters (by decide)) fun block1 ↦ ?_
  have hblock2 : Ensures (AtStage ready initialized (.coefficients block1))
      (bme280ReadRegisters driver Bme280.regCalibH2 7)
      (fun data ↦ Past ready initialized (.coefficients block1)
        (.transmitReceive · Bme280.regCalibH2 7) fun _ ↦ data)
      (Settled ready initialized) := ensures_bme280ReadRegisters (by decide)
  refine .bind (hblock2.mono (fun s hs ↦ hs.atStage fun _ _ ↦ .coefficients) (fun _ _ h ↦ h)
    fun _ h ↦ h) fun block2 ↦ ?_
  refine .bind (Q := fun _ ↦ Past ready initialized (.coefficients block1)
    (.transmitReceive · Bme280.regCalibH2 7) fun _ ↦ block2)
    (.update fun s hs ↦ ⟨hs.toSettled.withCalibration _, hs.device⟩) fun _ ↦ ?_
  by_cases hp1 : (Bme280.decodeCalibration block1 block2).digP1 = 0
  · rw [if_pos hp1]
    exact .throw fun s hs ↦ hs.toSettled
  · rw [if_neg hp1]
    exact .pure fun s hs ↦ hs.atStage fun _ _ h ↦ .calibrated h hp1

theorem ensures_bme280Configure :
    Ensures (AtStage ready initialized .calibrated) (bme280Configure driver)
      (fun _ ↦ AtStage ready initialized .configured) (Settled ready initialized) :=
  .bind (ensures_bme280WriteRegister fun _ _ ↦ .humidity) fun _ ↦
    .bind (ensures_bme280WriteRegister fun _ _ ↦ .config) fun _ ↦
      ensures_bme280WriteRegister fun _ _ ↦ .configured

/-- A step of the startup that fails removes the device. -/
theorem Ensures.orRemoveDevice {m : SensorM PUnit} {P Q : SensorState → Prop}
    (h : Ensures P m (fun _ ↦ Q) (Settled ready initialized)) :
    Ensures P (orElseClean m (bme280RemoveDevice driver)) (fun _ ↦ Q)
      (Settled ready initialized) :=
  .orElseClean h (ensures_bme280RemoveDevice.mono (fun _ h ↦ h) (fun _ _ h ↦ h.1) fun _ h ↦ h)

theorem ensures_bme280StartUp :
    Ensures (AtStage ready initialized .registered) (bme280StartUp driver)
      (fun _ ↦ AtStage ready initialized .configured) (Settled ready initialized) := by
  refine .bind (Ensures.orRemoveDevice ensures_bme280CheckChipId) fun _ ↦ ?_
  refine .bind (Ensures.orRemoveDevice (ensures_bme280WriteRegister fun _ _ ↦ .reset)) fun _ ↦ ?_
  refine .bind (Ensures.orRemoveDevice (ensures_bme280WaitForCalibrationCopy _)) fun _ ↦ ?_
  refine .bind (Ensures.orRemoveDevice ensures_bme280ReadCalibration) fun _ ↦ ?_
  exact Ensures.orRemoveDevice ensures_bme280Configure

/-- Without a device that is ready the component is not ready. -/
theorem HandlesConserved.settled (h : HandlesConserved s)
    (hready : ¬ (s.bme280Device.isSome = true ∧ s.bme280Ready = true)) :
    Settled false s.initialized s := by
  refine ⟨h.balance, h.one, ?_, rfl⟩
  cases hr : s.bme280Ready with
  | false => rfl
  | true =>
    obtain ⟨device, hd, -⟩ := h.ready hr
    exact absurd ⟨by rw [hd]; rfl, hr⟩ hready

/-- An initialisation that succeeds leaves a device that has been started up. -/
theorem ensures_bme280Init :
    Ensures HandlesConserved (bme280Init driver)
      (fun _ s ↦ ∃ initialized, AtStage true initialized .configured s)
      (fun s ↦ ∃ initialized, Settled false initialized s) := by
  refine .get_bind fun t ht ↦ ?_
  by_cases hready : t.bme280Device.isSome = true ∧ t.bme280Ready = true
  · rw [if_pos hready]
    refine .pure fun s hs ↦ ?_
    subst hs
    exact ⟨_, ⟨ht.balance, ht.one, hready.2, rfl⟩, ht.ready hready.2⟩
  · rw [if_neg hready]
    have hsettled := ht.settled hready
    refine Ensures.mono (E := Settled false t.initialized)
      (Q := fun _ ↦ AtStage true t.initialized .configured) ?_ (fun s hs ↦ hs)
      (fun _ _ h ↦ ⟨_, h⟩) fun _ h ↦ ⟨_, h⟩
    refine .bind (ensures_bme280RemoveDevice.mono (fun s hs ↦ hs ▸ hsettled) (fun _ _ h ↦ h)
      fun _ h ↦ h) fun _ ↦ ?_
    split
    · exact .throw fun _ hs ↦ hs.1
    · refine .bind ensures_i2cMasterBusAddDevice fun _ ↦ ?_
      refine .bind ensures_bme280StartUp fun _ ↦ ?_
      exact .update fun s hs ↦ ⟨⟨hs.balance, hs.one, rfl, hs.initialized⟩, hs.device⟩

/-- The handle is accounted for, whatever the flags say. -/
def AnySettled (s : SensorState) : Prop := ∃ ready initialized, Settled ready initialized s

theorem ensures_sensorInvalidate (driver : I2cDriver) :
    Ensures AnySettled (sensorInvalidate driver) (fun _ ↦ Settled false false)
      (Settled false false) := by
  refine .bind (Q := fun _ s ↦ ∃ ready, Settled ready false s) (.update fun s hs ↦ ?_) fun _ ↦ ?_
  · obtain ⟨ready, initialized, hs⟩ := hs
    exact ⟨ready, hs.balance, hs.one, hs.ready, rfl⟩
  · refine .bind (Q := fun _ ↦ Settled false false) (.update fun s hs ↦ ?_) fun _ ↦ ?_
    · obtain ⟨ready, hs⟩ := hs
      exact ⟨hs.balance, hs.one, rfl, hs.initialized⟩
    · exact ensures_bme280RemoveDevice.mono (fun _ h ↦ h) (fun _ _ h ↦ h.1) fun _ h ↦ h

theorem ensures_sensorInit (driver : I2cDriver) :
    Ensures HandlesConserved (sensorInit driver) (fun _ ↦ AtStage true true .configured)
      (Settled false false) := by
  refine .bind (.orElseClean ensures_bme280Init ((ensures_sensorInvalidate driver).mono (fun s hs ↦ ?_)
    (fun _ _ h ↦ h) fun _ h ↦ h)) fun _ ↦ ?_
  · obtain ⟨initialized, hs⟩ := hs
    exact ⟨false, initialized, hs⟩
  · refine .update fun s hs ↦ ?_
    obtain ⟨initialized, hs⟩ := hs
    exact ⟨⟨hs.balance, hs.one, hs.ready, rfl⟩, hs.device⟩

/-- A reading comes from the last transaction, with a device that had been started up. -/
def ReadingFrom (reading : Bme280RawData) (s : SensorState) : Prop :=
  ∃ data : Fin 8 → UInt8, reading = Bme280.decodeRaw data ∧
    Past true true .configured (.transmitReceive · Bme280.regPressMsb 8) (fun _ ↦ data) s

theorem ensures_bme280Read :
    Ensures (AtStage true true .configured) (bme280Read driver) ReadingFrom
      (Settled true true) := by
  refine .get_bind fun t ht ↦ ?_
  have hready : ¬ (t.bme280Device = none ∨ (!t.bme280Ready) = true) := by
    obtain ⟨device, hd, -⟩ := ht.device
    simp [hd, ht.ready]
  rw [if_neg hready]
  exact .bind ((ensures_bme280ReadRegisters (by decide)).mono (fun s hs ↦ hs ▸ ht)
    (fun _ _ h ↦ h) fun _ h ↦ h) fun data ↦ .pure fun s hs ↦ ⟨data, rfl, hs⟩

theorem ensures_sensorRead (driver : I2cDriver) :
    Ensures HandlesConserved (sensorRead driver) ReadingFrom (Settled false false) := by
  have hread : Ensures (AtStage true true .configured)
      (orElseClean (bme280Read driver) (sensorInvalidate driver)) ReadingFrom
      (Settled false false) :=
    .orElseClean ensures_bme280Read ((ensures_sensorInvalidate driver).mono (fun _ h ↦ ⟨true, true, h⟩)
      (fun _ _ h ↦ h) fun _ h ↦ h)
  refine .get_bind fun t ht ↦ ?_
  by_cases hinitialized : t.initialized = true
  · rw [if_pos hinitialized]
    refine hread.mono (fun s hs ↦ ?_) (fun _ _ h ↦ h) fun _ h ↦ h
    subst hs
    have hready := ht.initialized hinitialized
    exact ⟨⟨ht.balance, ht.one, hready, hinitialized⟩, ht.ready hready⟩
  · rw [if_neg hinitialized]
    exact .bind ((ensures_sensorInit driver).mono (fun s hs ↦ hs ▸ ht) (fun _ _ h ↦ h) fun _ h ↦ h)
      fun _ ↦ hread

theorem handlesConserved_of_settled (h : Settled false false s) : HandlesConserved s where
  balance := h.balance
  one := h.one
  ready hr := by
    rw [h.ready] at hr
    cases hr
  initialized hi := by
    rw [h.initialized] at hi
    cases hi

theorem handlesConserved_of_atStage (h : AtStage true true .configured s) :
    HandlesConserved s where
  balance := h.balance
  one := h.one
  ready _ := h.device
  initialized _ := h.ready

theorem handlesConserved_start : HandlesConserved .start where
  balance := rfl
  one _ _ hsuffix := by cases List.suffix_nil.mp hsuffix
  ready := nofun
  initialized := nofun

/-- What a function ensures holds after it. -/
theorem Ensures.after {α : Type} {m : SensorM α} {P E : SensorState → Prop}
    {Q : α → SensorState → Prop} (h : Ensures P m Q E) (hs : P s) :
    (∃ a, (m.after s).2 = some a ∧ Q a (m.after s).1) ∨
      ((m.after s).2 = none ∧ E (m.after s).1) := by
  have hm := h s hs
  unfold SensorM.after
  cases hr : m s with
  | ok a s' =>
    rw [hr] at hm
    exact .inl ⟨a, rfl, hm⟩
  | error e s' =>
    rw [hr] at hm
    exact .inr ⟨rfl, hm⟩

/-- A call keeps the handle accounted for, and a reading that it returns is one. -/
theorem handlesConserved_step (h : HandlesConserved s) (call : SensorCall) :
    HandlesConserved ((sensorSystem driver).step s call).1 ∧
      ∀ reading, ((sensorSystem driver).step s call).2 = some reading →
        ReadingFrom reading ((sensorSystem driver).step s call).1 := by
  cases call with
  | busInit created => exact ⟨⟨h.balance, h.one, h.ready, h.initialized⟩, nofun⟩
  | init =>
    refine ⟨?_, nofun⟩
    rcases Ensures.after (ensures_sensorInit driver) h with ⟨_, -, hm⟩ | ⟨-, hm⟩
    · exact handlesConserved_of_atStage hm
    · exact handlesConserved_of_settled hm
  | read =>
    change HandlesConserved ((sensorRead driver).after s).1 ∧ ∀ reading,
      ((sensorRead driver).after s).2 = some reading →
        ReadingFrom reading ((sensorRead driver).after s).1
    rcases Ensures.after (ensures_sensorRead driver) h with ⟨a, ha, hm⟩ | ⟨ha, hm⟩
    · obtain ⟨data, -, hpast⟩ := id hm
      refine ⟨handlesConserved_of_atStage (hpast.atStage fun _ _ ↦ .measured), ?_⟩
      intro reading hreading
      rw [ha] at hreading
      exact Option.some.inj hreading ▸ hm
    · refine ⟨handlesConserved_of_settled hm, fun reading hreading ↦ ?_⟩
      rw [ha] at hreading
      cases hreading
  | invalidate =>
    refine ⟨?_, nofun⟩
    have hs : AnySettled s := ⟨_, _, h.balance, h.one, rfl, rfl⟩
    rcases Ensures.after (ensures_sensorInvalidate driver) hs with
      ⟨_, -, hm⟩ | ⟨-, hm⟩
    · exact handlesConserved_of_settled hm
    · exact handlesConserved_of_settled hm

end Specs

/-- A driver that answers every operation, and reads the chip id everywhere. -/
def sampleDriver : I2cDriver
  | _, .addDevice => .ok 1
  | _, .transmitReceive _ _ _ => .ok fun _ ↦ Bme280.chipId
  | _, .rmDevice _ => .ok ⟨⟩
  | _, .transmit _ _ => .ok ⟨⟩

/-- Whatever the driver answers, every sequence of calls keeps the handle of the device on
the bus, and returns readings only from a device that has been started up. -/
theorem handles_conserved (driver : I2cDriver) (calls : List SensorCall) :
    HandlesConserved ((sensorSystem driver).run .start calls) ∧
      (sensorSystem driver).Along (fun s call ↦ ∀ reading,
        ((sensorSystem driver).step s call).2 = some reading →
          ReadingFrom reading ((sensorSystem driver).step s call).1) .start calls := by
  have hstep (s : SensorState) (call : SensorCall) (h : HandlesConserved s) :
      HandlesConserved ((sensorSystem driver).step s call).1 := (handlesConserved_step h call).1
  exact ⟨(sensorSystem driver).invariant hstep handlesConserved_start calls,
    (sensorSystem driver).along_of_kept hstep (fun s call h ↦ (handlesConserved_step h call).2)
      handlesConserved_start calls⟩

example : ((sensorSystem sampleDriver).trace .start [.read, .busInit true, .read]).map
    (·.2.isSome) = [false, false, true] := by decide

end EdgeMonitor.Firmware
