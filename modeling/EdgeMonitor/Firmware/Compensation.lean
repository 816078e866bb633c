import EdgeMonitor.Base.SignedRange
import EdgeMonitor.Firmware.Bme280

/-!
# Compensation of a measurement

Library `Firmware`. `bme280_compensate_temperature` and `bme280_compensate_humidity` of
`firmware/components/bme280/bme280.c:335–459`, as far as the integer results from which the
published values are divided. The coefficients are those of any calibration that the driver
accepts, and some of them make the 32-bit arithmetic overflow.
-/

namespace EdgeMonitor.Firmware
open EdgeMonitor.Base

/-! ### The 32-bit arithmetic -/

/-- `bme280_compensate_temperature`: what it leaves in `temperature_fine`, and
`temperature_x100`. It has no value when an `int32_t` overflows. -/
def bme280CompensateTemperature (calibration : Bme280Calibration) (rawTemperature : Int) :
    Option (Int × Int) := do
  let digT1 : Int := calibration.digT1.toNat
  let doubled ← int32 (digT1 * 2 ^ 1)
  let difference ← int32 (rawTemperature / 2 ^ 3 - doubled)
  let product ← int32 (difference * calibration.digT2.toInt)
  let variable1 := product / 2 ^ 11
  let difference ← int32 (rawTemperature / 2 ^ 4 - digT1)
  let square ← int32 (difference * difference)
  let product ← int32 (square / 2 ^ 12 * calibration.digT3.toInt)
  let variable2 := product / 2 ^ 14
  let temperatureFine ← int32 (variable1 + variable2)
  let scaled ← int32 (temperatureFine * 5)
  let rounded ← int32 (scaled + 128)
  some (temperatureFine, rounded / 2 ^ 8)

/-- The limits of `bme280_compensate_humidity`, and `humidity_x1024`. -/
def clampHumidity (humidity : Int) : Int :=
  let humidity := if humidity < 0 then 0 else humidity
  let humidity := if humidity > 419430400 then 419430400 else humidity
  humidity / 2 ^ 12

/-- `bme280_compensate_humidity` with `temperature_fine`: `humidity_x1024`. It has no value when
an `int32_t` overflows. -/
def bme280CompensateHumidity (calibration : Bme280Calibration)
    (temperatureFine rawHumidity : Int) : Option Int := do
  let humidity ← int32 (temperatureFine - 76800)
  let raw ← int32 (rawHumidity * 2 ^ 14)
  let offset ← int32 (calibration.digH4.toInt * 2 ^ 20)
  let difference ← int32 (raw - offset)
  let drift ← int32 (calibration.digH5.toInt * humidity)
  let difference ← int32 (difference - drift)
  let left ← int32 (difference + 16384)
  let sixth ← int32 (humidity * calibration.digH6.toInt)
  let third ← int32 (humidity * calibration.digH3.toNat)
  let third ← int32 (third / 2 ^ 11 + 32768)
  let response ← int32 (sixth / 2 ^ 10 * third)
  let response ← int32 (response / 2 ^ 10 + 2097152)
  let gain ← int32 (response * calibration.digH2.toInt)
  let right ← int32 (gain + 8192)
  let humidity ← int32 (left / 2 ^ 15 * (right / 2 ^ 14))
  let square ← int32 (humidity / 2 ^ 15 * (humidity / 2 ^ 15))
  let damping ← int32 (square / 2 ^ 7 * calibration.digH1.toNat)
  let humidity ← int32 (humidity - damping / 2 ^ 4)
  some (clampHumidity humidity)

/-! ### The exact formulas -/

namespace Bme280Calibration

variable (c : Bme280Calibration)

/-- The distance of the raw temperature from the first coefficient, at the two scales. -/
def temperatureSlope (rawTemperature : Int) : Int :=
  (rawTemperature / 2 ^ 3 - c.digT1.toNat * 2 ^ 1) * c.digT2.toInt

def temperatureOffset (rawTemperature : Int) : Int := rawTemperature / 2 ^ 4 - c.digT1.toNat

def temperatureCurve (rawTemperature : Int) : Int :=
  c.temperatureOffset rawTemperature * c.temperatureOffset rawTemperature / 2 ^ 12 *
    c.digT3.toInt

/-- `temperature_fine`. -/
def fineTemperature (rawTemperature : Int) : Int :=
  c.temperatureSlope rawTemperature / 2 ^ 11 + c.temperatureCurve rawTemperature / 2 ^ 14

/-- `temperature_x100`. -/
def temperature (rawTemperature : Int) : Int :=
  (c.fineTemperature rawTemperature * 5 + 128) / 2 ^ 8

/-- The first factor of the humidity before its rounding. -/
def moisture (fine rawHumidity : Int) : Int :=
  rawHumidity * 2 ^ 14 - c.digH4.toInt * 2 ^ 20 - c.digH5.toInt * (fine - 76800)

/-- The response to the temperature. -/
def response (fine : Int) : Int :=
  (fine - 76800) * c.digH6.toInt / 2 ^ 10 * ((fine - 76800) * c.digH3.toNat / 2 ^ 11 + 32768)

/-- The second factor of the humidity before its rounding. -/
def gain (fine : Int) : Int := (c.response fine / 2 ^ 10 + 2097152) * c.digH2.toInt

def humidityProduct (fine rawHumidity : Int) : Int :=
  (c.moisture fine rawHumidity + 16384) / 2 ^ 15 * ((c.gain fine + 8192) / 2 ^ 14)

def damping (fine rawHumidity : Int) : Int :=
  c.humidityProduct fine rawHumidity / 2 ^ 15 * (c.humidityProduct fine rawHumidity / 2 ^ 15) /
    2 ^ 7 * c.digH1.toNat

/-- `humidity_x1024`. -/
def humidity (fine rawHumidity : Int) : Int :=
  clampHumidity (c.humidityProduct fine rawHumidity - c.damping fine rawHumidity / 2 ^ 4)

/-! ### When nothing overflows -/

/-- The products of the temperature that may be too large are not. -/
structure TemperatureFits (rawTemperature : Int) : Prop where
  slope : InInt32 (c.temperatureSlope rawTemperature)
  offset : -46340 ≤ c.temperatureOffset rawTemperature ∧ c.temperatureOffset rawTemperature ≤ 46340
  curve : InInt32 (c.temperatureCurve rawTemperature)

/-- The results of the humidity that may be too large are not. -/
structure HumidityFits (fine rawHumidity : Int) : Prop where
  raw : rawHumidity - c.digH4.toInt * 64 ≤ 131071
  drift : InInt32 (c.digH5.toInt * (fine - 76800))
  moisture : -2147483648 ≤ c.moisture fine rawHumidity ∧
    c.moisture fine rawHumidity ≤ 2147467263
  response : InInt32 (c.response fine)
  gain : -2147483648 ≤ c.gain fine ∧ c.gain fine ≤ 2147475455
  product : InInt32 (c.humidityProduct fine rawHumidity)
  square : -46340 ≤ c.humidityProduct fine rawHumidity / 2 ^ 15 ∧
    c.humidityProduct fine rawHumidity / 2 ^ 15 ≤ 46340
  damping : c.damping fine rawHumidity ≤ 2147483647

end Bme280Calibration

/-! ### Bounds -/

section

variable {c : Bme280Calibration}

theorem toInt_bounds16 (x : Int16) : -32768 ≤ x.toInt ∧ x.toInt ≤ 32767 := by
  have hlt := x.toInt_lt
  have hle := x.le_toInt
  omega

theorem toInt_bounds8 (x : Int8) : -128 ≤ x.toInt ∧ x.toInt ≤ 127 := by
  have hlt := x.toInt_lt
  have hle := x.le_toInt
  omega

/-- `temperature_fine` of a calibration that fits. -/
theorem Bme280Calibration.TemperatureFits.fine_bounds {rawTemperature : Int}
    (h : c.TemperatureFits rawTemperature) :
    -1179648 ≤ c.fineTemperature rawTemperature ∧ c.fineTemperature rawTemperature ≤ 1179646 := by
  have hslope := h.slope
  have hcurve := h.curve
  rw [InInt32] at hslope hcurve
  rw [Bme280Calibration.fineTemperature]
  omega

/-- Of the temperature, only the products can overflow. -/
theorem compensateTemperature_eq_some_iff {rawTemperature : Int}
    (hraw : 0 ≤ rawTemperature ∧ rawTemperature < 2 ^ 20) (result : Int × Int) :
    bme280CompensateTemperature c rawTemperature = some result ↔
      c.TemperatureFits rawTemperature ∧
        result = (c.fineTemperature rawTemperature, c.temperature rawTemperature) := by
  simp only [bme280CompensateTemperature, int32_bind_eq_some_iff]
  change InInt32 (c.digT1.toNat * 2 ^ 1) ∧
    InInt32 (rawTemperature / 2 ^ 3 - c.digT1.toNat * 2 ^ 1) ∧
    InInt32 (c.temperatureSlope rawTemperature) ∧ InInt32 (c.temperatureOffset rawTemperature) ∧
    InInt32 (c.temperatureOffset rawTemperature * c.temperatureOffset rawTemperature) ∧
    InInt32 (c.temperatureCurve rawTemperature) ∧ InInt32 (c.fineTemperature rawTemperature) ∧
    InInt32 (c.fineTemperature rawTemperature * 5) ∧
    InInt32 (c.fineTemperature rawTemperature * 5 + 128) ∧
    some (c.fineTemperature rawTemperature, c.temperature rawTemperature) = some result ↔ _
  constructor
  · rintro ⟨-, -, hslope, -, hsquare, hcurve, -, -, -, hresult⟩
    exact ⟨⟨hslope, (inInt32_square_iff _).mp hsquare, hcurve⟩, (Option.some.inj hresult).symm⟩
  · rintro ⟨hfits, hresult⟩
    have hdigT1 : c.digT1.toNat < 65536 := c.digT1.toNat_lt
    have hfine := hfits.fine_bounds
    have hoffset := hfits.offset
    refine ⟨?_, ?_, hfits.slope, ?_, (inInt32_square_iff _).mpr hoffset, hfits.curve, ?_, ?_, ?_,
      congrArg some hresult.symm⟩
    all_goals
      rw [InInt32]
      omega

/-- The sums and shifts of the humidity stay in range. -/
theorem compensateHumidity_eq_some_iff {fine rawHumidity : Int}
    (hfine : -1179648 ≤ fine ∧ fine ≤ 1179646) (hraw : 0 ≤ rawHumidity ∧ rawHumidity < 2 ^ 16)
    (hdigH4 : -2048 ≤ c.digH4.toInt ∧ c.digH4.toInt ≤ 2047) (result : Int) :
    bme280CompensateHumidity c fine rawHumidity = some result ↔
      c.HumidityFits fine rawHumidity ∧ result = c.humidity fine rawHumidity := by
  simp only [bme280CompensateHumidity, int32_bind_eq_some_iff]
  change InInt32 (fine - 76800) ∧ InInt32 (rawHumidity * 2 ^ 14) ∧
    InInt32 (c.digH4.toInt * 2 ^ 20) ∧
    InInt32 (rawHumidity * 2 ^ 14 - c.digH4.toInt * 2 ^ 20) ∧
    InInt32 (c.digH5.toInt * (fine - 76800)) ∧ InInt32 (c.moisture fine rawHumidity) ∧
    InInt32 (c.moisture fine rawHumidity + 16384) ∧
    InInt32 ((fine - 76800) * c.digH6.toInt) ∧ InInt32 ((fine - 76800) * c.digH3.toNat) ∧
    InInt32 ((fine - 76800) * c.digH3.toNat / 2 ^ 11 + 32768) ∧ InInt32 (c.response fine) ∧
    InInt32 (c.response fine / 2 ^ 10 + 2097152) ∧ InInt32 (c.gain fine) ∧
    InInt32 (c.gain fine + 8192) ∧ InInt32 (c.humidityProduct fine rawHumidity) ∧
    InInt32 (c.humidityProduct fine rawHumidity / 2 ^ 15 *
      (c.humidityProduct fine rawHumidity / 2 ^ 15)) ∧
    InInt32 (c.damping fine rawHumidity) ∧
    InInt32 (c.humidityProduct fine rawHumidity - c.damping fine rawHumidity / 2 ^ 4) ∧
    some (c.humidity fine rawHumidity) = some result ↔ _
  constructor
  · rintro ⟨-, -, -, hraw', hdrift, hmoisture, hrounded, -, -, -, hresponse, -, hgain, hgain',
      hproduct, hsquare, hdamping, -, hresult⟩
    refine ⟨⟨?_, hdrift, ?_, hresponse, ?_, hproduct, (inInt32_square_iff _).mp hsquare,
      hdamping.2⟩, (Option.some.inj hresult).symm⟩
    · rw [InInt32] at hraw'
      omega
    · rw [InInt32] at hmoisture hrounded
      omega
    · rw [InInt32] at hgain hgain'
      omega
  · rintro ⟨hfits, hresult⟩
    obtain ⟨hraw', hdrift, hmoisture, hresponse, hgain, hproduct, hsquare, hdamping⟩ := hfits
    have hdistance : -1256448 ≤ fine - 76800 ∧ fine - 76800 ≤ 1256448 := by omega
    have hsixth := mul_bounds (n := 128) hdistance
      (by have hdigH6 := toInt_bounds8 c.digH6; omega : -128 ≤ c.digH6.toInt ∧ c.digH6.toInt ≤ 128)
    have hdigH3 : c.digH3.toNat < 256 := c.digH3.toNat_lt
    have hthird := mul_bounds (n := 255) hdistance
      (by omega : -255 ≤ (c.digH3.toNat : Int) ∧ (c.digH3.toNat : Int) ≤ 255)
    have hpositive : 0 ≤ c.damping fine rawHumidity := by
      rw [Bme280Calibration.damping]
      apply mul_nonneg
      · exact Int.ediv_nonneg (mul_self_nonneg _) (by decide)
      · exact Int.natCast_nonneg _
    have hsquare' := (inInt32_square_iff _).mpr hsquare
    rw [InInt32] at hdrift hresponse hproduct
    refine ⟨?_, ?_, ?_, ?_, hdrift, ?_, ?_, ?_, ?_, ?_, hresponse, ?_, ?_, ?_, hproduct, hsquare',
      ?_, ?_, congrArg some hresult.symm⟩
    all_goals
      rw [InInt32]
      omega

/-- The fourth and the fifth coefficient of the humidity have 12 bits. -/
theorem toInt_twelveBits (high : UInt8) {low : UInt8} (hlow : low.toNat < 16) :
    -2048 ≤ ((high.toInt8.toInt16 * (16 : Int16)) ||| low.toUInt16.toInt16).toInt ∧
      ((high.toInt8.toInt16 * (16 : Int16)) ||| low.toUInt16.toInt16).toInt ≤ 2047 := by
  have hall : ∀ (high : Fin 256) (low : Fin 16),
      -2048 ≤ (((UInt8.ofNat high).toInt8.toInt16 * (16 : Int16)) |||
        (UInt8.ofNat low).toUInt16.toInt16).toInt ∧
      (((UInt8.ofNat high).toInt8.toInt16 * (16 : Int16)) |||
        (UInt8.ofNat low).toUInt16.toInt16).toInt ≤ 2047 := by decide +kernel
  have hcase := hall ⟨high.toNat, high.toNat_lt⟩ ⟨low.toNat, hlow⟩
  rwa [UInt8.ofNat_toNat, UInt8.ofNat_toNat] at hcase

end

/-! ### Calibrations of the driver -/

namespace Bme280

theorem digH4_bounds (block1 : Fin 26 → UInt8) (block2 : Fin 7 → UInt8) :
    -2048 ≤ (decodeCalibration block1 block2).digH4.toInt ∧
      (decodeCalibration block1 block2).digH4.toInt ≤ 2047 := by
  apply toInt_twelveBits
  rw [UInt8.toNat_and]
  exact Nat.lt_of_le_of_lt Nat.and_le_right (by decide)

/-- A raw temperature has 20 bits, and a raw humidity 16. -/
theorem decodeRaw_bounds (buffer : Fin 8 → UInt8) :
    (0 ≤ (decodeRaw buffer).temperature ∧ (decodeRaw buffer).temperature < 2 ^ 20) ∧
      0 ≤ (decodeRaw buffer).humidity ∧ (decodeRaw buffer).humidity < 2 ^ 16 := by
  have hbyte (i : Fin 8) : (buffer i).toNat < 256 := (buffer i).toNat_lt
  have htemperature : (buffer 3).toNat <<< 12 ||| (buffer 4).toNat <<< 4 |||
      (buffer 5).toNat >>> 4 < 2 ^ 20 := by
    have hfirst := hbyte 3
    have hsecond := hbyte 4
    have hthird := hbyte 5
    rw [Nat.shiftLeft_eq, Nat.shiftLeft_eq, Nat.shiftRight_eq_div_pow]
    apply Nat.or_lt_two_pow
    · apply Nat.or_lt_two_pow
      · omega
      · omega
    · omega
  have hhumidity : (buffer 6).toNat <<< 8 ||| (buffer 7).toNat < 2 ^ 16 := by
    have hfirst := hbyte 6
    have hsecond := hbyte 7
    rw [Nat.shiftLeft_eq]
    apply Nat.or_lt_two_pow
    · omega
    · omega
  refine ⟨⟨Int.natCast_nonneg _, ?_⟩, Int.natCast_nonneg _, ?_⟩
  · exact Int.ofNat_lt.mpr htemperature
  · exact Int.ofNat_lt.mpr hhumidity

end Bme280

/-- The temperature and the humidity are computed without overflow, and are the exact ones. -/
def Bme280Calibration.Compensates (c : Bme280Calibration) (rawTemperature rawHumidity : Int) :
    Prop :=
  bme280CompensateTemperature c rawTemperature =
      some (c.fineTemperature rawTemperature, c.temperature rawTemperature) ∧
    bme280CompensateHumidity c (c.fineTemperature rawTemperature) rawHumidity =
      some (c.humidity (c.fineTemperature rawTemperature) rawHumidity)

theorem compensates_iff {c : Bme280Calibration}
    (hdigH4 : -2048 ≤ c.digH4.toInt ∧ c.digH4.toInt ≤ 2047) {rawTemperature rawHumidity : Int}
    (htemperature : 0 ≤ rawTemperature ∧ rawTemperature < 2 ^ 20)
    (hhumidity : 0 ≤ rawHumidity ∧ rawHumidity < 2 ^ 16) :
    c.Compensates rawTemperature rawHumidity ↔ c.TemperatureFits rawTemperature ∧
      c.HumidityFits (c.fineTemperature rawTemperature) rawHumidity := by
  rw [Bme280Calibration.Compensates, compensateTemperature_eq_some_iff htemperature]
  constructor
  · rintro ⟨⟨hfits, -⟩, hhumid⟩
    exact ⟨hfits, ((compensateHumidity_eq_some_iff hfits.fine_bounds hhumidity hdigH4 _).mp
      hhumid).1⟩
  · rintro ⟨hfits, hhumid⟩
    exact ⟨⟨hfits, rfl⟩, (compensateHumidity_eq_some_iff hfits.fine_bounds hhumidity hdigH4 _).mpr
      ⟨hhumid, rfl⟩⟩

/-- For every calibration that can be read, and all raw values: nothing overflows exactly when
the results that may be too large are not. -/
theorem compensation_exact_iff (block1 : Fin 26 → UInt8) (block2 : Fin 7 → UInt8)
    (rawTemperature : Fin (2 ^ 20)) (rawHumidity : Fin (2 ^ 16)) :
    (Bme280.decodeCalibration block1 block2).Compensates rawTemperature.val rawHumidity.val ↔
      (Bme280.decodeCalibration block1 block2).TemperatureFits rawTemperature.val ∧
        (Bme280.decodeCalibration block1 block2).HumidityFits
          ((Bme280.decodeCalibration block1 block2).fineTemperature rawTemperature.val)
          rawHumidity.val := by
  apply compensates_iff (Bme280.digH4_bounds block1 block2)
  · exact ⟨Int.natCast_nonneg _, Int.ofNat_lt.mpr rawTemperature.isLt⟩
  · exact ⟨Int.natCast_nonneg _, Int.ofNat_lt.mpr rawHumidity.isLt⟩

/-- The same of the measurement registers. -/
theorem registers_compensate_iff (block1 : Fin 26 → UInt8) (block2 : Fin 7 → UInt8)
    (buffer : Fin 8 → UInt8) :
    let c := Bme280.decodeCalibration block1 block2
    let raw := Bme280.decodeRaw buffer
    c.Compensates raw.temperature raw.humidity ↔ c.TemperatureFits raw.temperature ∧
      c.HumidityFits (c.fineTemperature raw.temperature) raw.humidity :=
  compensates_iff (Bme280.digH4_bounds block1 block2) (Bme280.decodeRaw_bounds buffer).1
    (Bme280.decodeRaw_bounds buffer).2

/-- A first block with the temperature coefficients 27504, 28800 and 0 and a pressure
coefficient that is accepted. -/
def steepBlock : Fin 26 → UInt8
  | 0 => 0x70
  | 1 => 0x6B
  | 2 => 0x80
  | 3 => 0x70
  | 6 => 1
  | _ => 0

/-- The largest raw temperature, with that calibration. -/
theorem compensation_exact_fails :
    (¬ ∀ (block1 : Fin 26 → UInt8) (block2 : Fin 7 → UInt8) (rawTemperature : Fin (2 ^ 20))
      (rawHumidity : Fin (2 ^ 16)), (Bme280.decodeCalibration block1 block2).digP1 ≠ 0 →
      (Bme280.decodeCalibration block1 block2).Compensates rawTemperature.val rawHumidity.val) ∧
    (Bme280.decodeCalibration steepBlock fun _ ↦ 0).temperatureSlope 1048575 = 2190614400 := by
  constructor
  · intro h
    have hexact := h steepBlock (fun _ ↦ 0) ⟨1048575, by decide⟩ ⟨0, by decide⟩ (by decide)
    have hnone : bme280CompensateTemperature (Bme280.decodeCalibration steepBlock fun _ ↦ 0)
        1048575 = none := by decide +kernel
    have hsome := hexact.1
    change bme280CompensateTemperature _ 1048575 = _ at hsome
    rw [hnone] at hsome
    cases hsome
  · decide +kernel

end EdgeMonitor.Firmware
