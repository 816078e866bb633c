import EdgeMonitor.Base.Failing

/-!
# The BME280 sensor

Library `Firmware`. `firmware/components/bme280/bme280.c`,
`firmware/components/sensor/sensor.c` and `firmware/components/i2c_bus/i2c_bus.c`. The driver
of the I2C bus answers each operation as it likes, and every transaction is recorded. A reading
is the raw measurement; its compensation, which does not use the bus, is a function of its own.
-/

namespace EdgeMonitor.Firmware
open EdgeMonitor.Base

/-! ### The I2C driver -/

/-- `i2c_master_dev_handle_t`. A null handle is `none`. -/
abbrev I2cHandle := Nat

/-- The calls of the I2C driver that use a device. -/
inductive I2cOperation where
  | addDevice
  | rmDevice (device : I2cHandle)
  | transmitReceive (device : I2cHandle) (register : UInt8) (length : Nat)
  | transmit (device : I2cHandle) (bytes : List UInt8)

/-- What a successful operation returns. -/
@[reducible] def I2cOperation.Output : I2cOperation → Type
  | addDevice => I2cHandle
  | transmitReceive _ _ length => Fin length → UInt8
  | rmDevice _ | transmit _ _ => Unit

/-- An operation and its outcome: an error code, or what it returned. -/
structure I2cTransaction where
  operation : I2cOperation
  result : Except Int32 operation.Output

/-- A driver decides the outcome of an operation from all that has happened, the last
transaction first. An operation that fails returns nothing. -/
abbrev I2cDriver :=
  List I2cTransaction → (operation : I2cOperation) → Except Int32 operation.Output

/-! ### State -/

/-- `bme280_calibration_t`. -/
structure Bme280Calibration where
  digT1 : UInt16
  digT2 : Int16
  digT3 : Int16
  digP1 : UInt16
  digP2 : Int16
  digP3 : Int16
  digP4 : Int16
  digP5 : Int16
  digP6 : Int16
  digP7 : Int16
  digP8 : Int16
  digP9 : Int16
  digH1 : UInt8
  digH2 : Int16
  digH3 : UInt8
  digH4 : Int16
  digH5 : Int16
  digH6 : Int8
  deriving DecidableEq

/-- `bme280_raw_data_t`. -/
structure Bme280RawData where
  temperature : Int
  pressure : Int
  humidity : Int
  deriving DecidableEq

/-- The variables of the three components, whether the I2C bus exists, and the transactions,
the last first. -/
structure SensorState where
  transactions : List I2cTransaction
  busInitialized : Bool
  bme280Device : Option I2cHandle
  bme280Ready : Bool
  calibration : Bme280Calibration
  initialized : Bool

/-- The variables after a reset. -/
def SensorState.start : SensorState where
  transactions := []
  busInitialized := false
  bme280Device := none
  bme280Ready := false
  calibration := ⟨0, 0, 0, 0, 0, 0, 0, 0, 0, 0, 0, 0, 0, 0, 0, 0, 0, 0⟩
  initialized := false

/-- The error codes of the sensor: its own, and those of the driver. -/
inductive SensorError where
  | invalidArg
  | invalidState
  | invalidResponse
  | timeout
  | driver (code : Int32)
  deriving DecidableEq

/-- A function of the sensor. -/
abbrev SensorM := EStateM SensorError SensorState

/-! ### Registers -/

namespace Bme280

/-- `BME280_REG_CALIB_T1`. -/
def regCalibT1 : UInt8 := 0x88

/-- `BME280_REG_CALIB_H2`. -/
def regCalibH2 : UInt8 := 0xE1

/-- `BME280_REG_CHIP_ID`. -/
def regChipId : UInt8 := 0xD0

/-- `BME280_REG_RESET`. -/
def regReset : UInt8 := 0xE0

/-- `BME280_REG_STATUS`. -/
def regStatus : UInt8 := 0xF3

/-- `BME280_REG_CTRL_HUM`. -/
def regCtrlHum : UInt8 := 0xF2

/-- `BME280_REG_CTRL_MEAS`. -/
def regCtrlMeas : UInt8 := 0xF4

/-- `BME280_REG_CONFIG`. -/
def regConfig : UInt8 := 0xF5

/-- `BME280_REG_PRESS_MSB`. -/
def regPressMsb : UInt8 := 0xF7

/-- `BME280_CHIP_ID`. -/
def chipId : UInt8 := 0x60

/-- `BME280_RESET_COMMAND`. -/
def resetCommand : UInt8 := 0xB6

/-- `BME280_STATUS_IM_UPDATE_MASK`. -/
def statusImUpdateMask : UInt8 := 0x01

/-- `BME280_CTRL_HUM_VALUE`. -/
def ctrlHumValue : UInt8 := 0x01

/-- `BME280_CONFIG_VALUE`. -/
def configValue : UInt8 := 0xA0

/-- `BME280_CTRL_MEAS_VALUE`. -/
def ctrlMeasValue : UInt8 := 0x27

/-- `BME280_STARTUP_MAX_ATTEMPTS`. -/
def startupMaxAttempts : Nat := 10

/-- `bme280_uint16_from_le`. -/
def uint16FromLe (data0 data1 : UInt8) : UInt16 := data0.toUInt16 ||| data1.toUInt16 <<< 8

/-- `bme280_int16_from_le`. -/
def int16FromLe (data0 data1 : UInt8) : Int16 := (uint16FromLe data0 data1).toInt16

/-- The coefficients in the two blocks, `bme280.c:223–257`. -/
def decodeCalibration (block1 : Fin 26 → UInt8) (block2 : Fin 7 → UInt8) :
    Bme280Calibration where
  digT1 := uint16FromLe (block1 0) (block1 1)
  digT2 := int16FromLe (block1 2) (block1 3)
  digT3 := int16FromLe (block1 4) (block1 5)
  digP1 := uint16FromLe (block1 6) (block1 7)
  digP2 := int16FromLe (block1 8) (block1 9)
  digP3 := int16FromLe (block1 10) (block1 11)
  digP4 := int16FromLe (block1 12) (block1 13)
  digP5 := int16FromLe (block1 14) (block1 15)
  digP6 := int16FromLe (block1 16) (block1 17)
  digP7 := int16FromLe (block1 18) (block1 19)
  digP8 := int16FromLe (block1 20) (block1 21)
  digP9 := int16FromLe (block1 22) (block1 23)
  digH1 := block1 25
  digH2 := int16FromLe (block2 0) (block2 1)
  digH3 := block2 2
  digH4 := ((block2 3).toInt8.toInt16 * (16 : Int16)) ||| (block2 4 &&& 0x0F).toUInt16.toInt16
  digH5 := ((block2 5).toInt8.toInt16 * (16 : Int16)) ||| (block2 4 >>> 4).toUInt16.toInt16
  digH6 := (block2 6).toInt8

/-- The values in the measurement registers, `bme280.c:317–329`. -/
def decodeRaw (buffer : Fin 8 → UInt8) : Bme280RawData where
  pressure := ↑((buffer 0).toNat <<< 12 ||| (buffer 1).toNat <<< 4 ||| (buffer 2).toNat >>> 4)
  temperature := ↑((buffer 3).toNat <<< 12 ||| (buffer 4).toNat <<< 4 ||| (buffer 5).toNat >>> 4)
  humidity := ↑((buffer 6).toNat <<< 8 ||| (buffer 7).toNat)

end Bme280

/-! ### `bme280.c` -/

section Driver

variable (driver : I2cDriver)

/-- A call of the driver. -/
def i2cOperation (operation : I2cOperation) : SensorM operation.Output := fun s ↦
  let result := driver s.transactions operation
  let s := { s with transactions := ⟨operation, result⟩ :: s.transactions }
  match result with
  | .ok output => .ok output s
  | .error code => .error (.driver code) s

/-- `i2c_master_bus_add_device`, which stores the handle in `bme280_device`. -/
def i2cMasterBusAddDevice : SensorM PUnit := do
  let device ← i2cOperation driver .addDevice
  modify fun s ↦ { s with bme280Device := some device }

/-- `bme280_read_registers`. -/
def bme280ReadRegisters (register : UInt8) (length : Nat) : SensorM (Fin length → UInt8) := do
  match (← get).bme280Device with
  | none => throw .invalidState
  | some device =>
    if length = 0 then throw .invalidArg
    else i2cOperation driver (.transmitReceive device register length)

/-- `bme280_read_register`. -/
def bme280ReadRegister (register : UInt8) : SensorM UInt8 := do
  return (← bme280ReadRegisters driver register 1) 0

/-- `bme280_write_register`. -/
def bme280WriteRegister (register value : UInt8) : SensorM PUnit := do
  match (← get).bme280Device with
  | none => throw .invalidState
  | some device => i2cOperation driver (.transmit device [register, value])

/-- `bme280_remove_device`. -/
def bme280RemoveDevice : SensorM PUnit := do
  match (← get).bme280Device with
  | none => return
  | some device =>
    let _ ← i2cOperation driver (.rmDevice device)
    modify fun s ↦ { s with bme280Device := none }

/-- `bme280_wait_for_calibration_copy`, with the attempts that are left. -/
def bme280WaitForCalibrationCopy : Nat → SensorM PUnit
  | 0 => throw .timeout
  | attempts + 1 => do
    let status ← bme280ReadRegister driver Bme280.regStatus
    if status &&& Bme280.statusImUpdateMask = 0 then return
    else bme280WaitForCalibrationCopy attempts

/-- `bme280_read_calibration`. -/
def bme280ReadCalibration : SensorM PUnit := do
  let block1 ← bme280ReadRegisters driver Bme280.regCalibT1 26
  let block2 ← bme280ReadRegisters driver Bme280.regCalibH2 7
  let calibration := Bme280.decodeCalibration block1 block2
  modify fun s ↦ { s with calibration }
  if calibration.digP1 = 0 then throw .invalidResponse
  else return

/-- `bme280_configure`. -/
def bme280Configure : SensorM PUnit := do
  bme280WriteRegister driver Bme280.regCtrlHum Bme280.ctrlHumValue
  bme280WriteRegister driver Bme280.regConfig Bme280.configValue
  bme280WriteRegister driver Bme280.regCtrlMeas Bme280.ctrlMeasValue

/-- `bme280_read_raw`. -/
def bme280ReadRaw : SensorM Bme280RawData := do
  return Bme280.decodeRaw (← bme280ReadRegisters driver Bme280.regPressMsb 8)

/-- The check of the chip, `bme280.c:503–526`. -/
def bme280CheckChipId : SensorM PUnit := do
  let chipId ← bme280ReadRegister driver Bme280.regChipId
  if chipId ≠ Bme280.chipId then throw .invalidResponse
  else return

/-- The steps of `bme280_init` with the device, `bme280.c:503–567`. Each of them that fails
removes the device. -/
def bme280StartUp : SensorM PUnit := do
  orElseClean (bme280CheckChipId driver) (bme280RemoveDevice driver)
  orElseClean (bme280WriteRegister driver Bme280.regReset Bme280.resetCommand)
    (bme280RemoveDevice driver)
  orElseClean (bme280WaitForCalibrationCopy driver Bme280.startupMaxAttempts)
    (bme280RemoveDevice driver)
  orElseClean (bme280ReadCalibration driver) (bme280RemoveDevice driver)
  orElseClean (bme280Configure driver) (bme280RemoveDevice driver)

/-- `bme280_init`. -/
def bme280Init : SensorM PUnit := do
  let s ← get
  if s.bme280Device.isSome ∧ s.bme280Ready then return
  else
    -- A device that an earlier call could not remove; without one this does nothing.
    bme280RemoveDevice driver
    if !s.busInitialized then throw .invalidState
    else
      i2cMasterBusAddDevice driver
      bme280StartUp driver
      modify fun s ↦ { s with bme280Ready := true }

/-- `bme280_deinit`. -/
def bme280Deinit : SensorM PUnit := do
  modify fun s ↦ { s with bme280Ready := false }
  bme280RemoveDevice driver

/-- `bme280_read`. -/
def bme280Read : SensorM Bme280RawData := do
  let s ← get
  if s.bme280Device = none ∨ !s.bme280Ready then throw .invalidState
  else bme280ReadRaw driver

/-! ### `sensor.c` -/

/-- `sensor_invalidate`. -/
def sensorInvalidate : SensorM PUnit := do
  modify fun s ↦ { s with initialized := false }
  bme280Deinit driver

/-- `sensor_init`. -/
def sensorInit : SensorM PUnit := do
  orElseClean (bme280Init driver) (sensorInvalidate driver)
  modify fun s ↦ { s with initialized := true }

/-- `sensor_read`. -/
def sensorRead : SensorM Bme280RawData := do
  if (← get).initialized then orElseClean (bme280Read driver) (sensorInvalidate driver)
  else
    sensorInit driver
    orElseClean (bme280Read driver) (sensorInvalidate driver)

end Driver

end EdgeMonitor.Firmware
