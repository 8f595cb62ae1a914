import EnvMonitor.Numerics.CheckedInt32

/-!
# The humidity and temperature sensor

The part holds two calibration points for each quantity.  `humidity_temp_init` reads them once, and
`humidity_temp_read` converts both outputs along the lines through them, in hundredths.
-/

namespace EnvMonitor.Drivers.HumidityTemp

open Numerics

/-!
## Model
-/

abbrev humidityX2ToX100 : Int := 50
abbrev tempX8ToX100Num : Int := 100
abbrev tempX8Divisor : Int := 8
abbrev humidityMinX100 : Int := 0
abbrev humidityMaxX100 : Int := 10000

abbrev statusDataReadyMask : UInt8 := 0x03

inductive Err where
  | i2c
  | notReady
deriving DecidableEq

structure Cal where
  h0RhX2 : Int16
  h1RhX2 : Int16
  t0DegcX8 : Int16
  t1DegcX8 : Int16
  h0T0Out : Int16
  h1T0Out : Int16
  t0Out : Int16
  t1Out : Int16
deriving DecidableEq

structure State where
  cal : Cal
  ready : Bool

structure Data where
  humidityX100 : Int
  temperatureX100 : Int

/-- The registers `0x30` to `0x3F`. -/
abbrev Block := Vector UInt8 16

def prvLeI16 (lo hi : UInt8) : Int16 := ((hi.toUInt16 <<< 8) ||| lo.toUInt16).toInt16

def prvClampHumidity (value : Int) : Int :=
  if value < humidityMinX100 then humidityMinX100
  else if humidityMaxX100 < value then humidityMaxX100
  else value

/-- Nothing is returned where an operation is undefined. -/
def prvCompensateHumidity (c : Cal) (hRaw : Int16) : Option Int := do
  let span <- int32Sub c.h1T0Out.toInt c.h0T0Out.toInt
  let base <- int32Mul c.h0RhX2.toInt humidityX2ToX100
  if span ≠ 0 then
    let points <- int32Sub c.h1RhX2.toInt c.h0RhX2.toInt
    let rise <- int32Mul points humidityX2ToX100
    let offset <- int32Sub hRaw.toInt c.h0T0Out.toInt
    let product <- int32Mul rise offset
    let quotient <- int32Div product span
    let result <- int32Add quotient base
    some (prvClampHumidity result)
  else some (prvClampHumidity base)

def prvCompensateTemperature (c : Cal) (tRaw : Int16) : Option Int := do
  let span <- int32Sub c.t1Out.toInt c.t0Out.toInt
  let scaled <- int32Mul c.t0DegcX8.toInt tempX8ToX100Num
  let base <- int32Div scaled tempX8Divisor
  if span ≠ 0 then
    let points <- int32Sub c.t1DegcX8.toInt c.t0DegcX8.toInt
    let rise <- int32Mul points tempX8ToX100Num
    let offset <- int32Sub tRaw.toInt c.t0Out.toInt
    let product <- int32Mul rise offset
    let divisor <- int32Mul tempX8Divisor span
    let quotient <- int32Div product divisor
    int32Add quotient base
  else some base

/-- The answer of the bus is the status register. -/
def prvReadStatus (answer : Option UInt8) : Except Err Bool :=
  match answer with
  | none => .error .i2c
  | some status => .ok (status &&& statusDataReadyMask = statusDataReadyMask)

def prvParseCalibration (buf : Block) : Cal :=
  let msb := buf[5]
  { h0RhX2 := buf[0].toUInt16.toInt16
    h1RhX2 := buf[1].toUInt16.toInt16
    t0DegcX8 := (buf[2].toUInt16 ||| ((msb &&& 0x03).toUInt16 <<< 8)).toInt16
    t1DegcX8 := (buf[3].toUInt16 ||| ((msb &&& 0x0C).toUInt16 <<< 6)).toInt16
    h0T0Out := prvLeI16 buf[6] buf[7]
    h1T0Out := prvLeI16 buf[10] buf[11]
    t0Out := prvLeI16 buf[12] buf[13]
    t1Out := prvLeI16 buf[14] buf[15] }

/-- Whether the bus takes the two writes, and the calibration it reads, if it does. -/
def humidityTempInit (ctrl avg : Bool) (calib : Option Block) (s : State) :
    Except Err Unit × State :=
  let s := { s with ready := false }
  if !ctrl then (.error .i2c, s)
  else if !avg then (.error .i2c, s)
  else
    match calib with
    | none => (.error .i2c, s)
    | some buf => (.ok (), { cal := prvParseCalibration buf, ready := true })

/-- The status is read once more if the first finds no data. -/
def awaitReady (first second : Option UInt8) : Except Err Unit := do
  let dataReady <- prvReadStatus first
  let dataReady <- if dataReady then .ok true else prvReadStatus second
  if dataReady then .ok () else .error .notReady

/-- From what the bus answers to each read; nothing where a conversion is undefined. -/
def humidityTempRead (first second : Option UInt8) (raw : Option (Vector UInt8 4)) (s : State) :
    Option (Except Err Data) :=
  if !s.ready then some (.error .notReady)
  else
    match awaitReady first second with
    | .error err => some (.error err)
    | .ok () =>
        match raw with
        | none => some (.error .i2c)
        | some raw => do
            let humidity <- prvCompensateHumidity s.cal (prvLeI16 raw[0] raw[1])
            let temperature <- prvCompensateTemperature s.cal (prvLeI16 raw[2] raw[3])
            some (.ok { humidityX100 := humidity, temperatureX100 := temperature })

/-!
## Specification
-/

/-- The signed number in two registers. -/
def word (lo hi : UInt8) : Int := (hi.toBitVec ++ lo.toBitVec).toInt

/-- Outputs and relative humidity in percent. -/
def humidityPoints (block : Block) : Point × Point :=
  (⟨word block[6] block[7], block[0].toNat / 2⟩, ⟨word block[10] block[11], block[1].toNat / 2⟩)

/-- Eighths of a degree, in ten bits; the upper two are in register `0x35`. -/
def eighths (low : UInt8) (high : Nat) : Nat := low.toNat + 256 * (high % 4)

def firstEighths (block : Block) : Nat := eighths block[2] block[5].toNat

def secondEighths (block : Block) : Nat := eighths block[3] (block[5].toNat / 4)

/-- Outputs and degrees. -/
def temperaturePoints (block : Block) : Point × Point :=
  (⟨word block[12] block[13], firstEighths block / 8⟩,
    ⟨word block[14] block[15], secondEighths block / 8⟩)

/-- Less than two hundredths from the lines through the points. -/
structure Accurate (block : Block) (raw : Vector UInt8 4) (data : Data) : Prop where
  humidity : |(data.humidityX100 : ℚ) / 100 - max 0 (min 100
    (line (humidityPoints block).1 (humidityPoints block).2 (word raw[0] raw[1])))| < 2 / 100
  temperature : |(data.temperatureX100 : ℚ) / 100 -
    line (temperaturePoints block).1 (temperaturePoints block).2 (word raw[2] raw[3])| < 2 / 100

/-- The product of both differences that the temperature is computed from is in range, unless none
is computed. -/
def TemperatureFits (block : Block) (raw : Vector UInt8 4) : Prop :=
  word block[14] block[15] = word block[12] block[13] ∨
    InInt32 (((secondEighths block : Int) - firstEighths block) * (100 : Int) *
      (word raw[2] raw[3] - word block[12] block[13]))

/-!
## What is parsed
-/

theorem prvLeI16_toInt (lo hi : UInt8) : (prvLeI16 lo hi).toInt = word lo hi := by
  have hbits : (hi.toUInt16 <<< 8 ||| lo.toUInt16).toBitVec = hi.toBitVec ++ lo.toBitVec := by
    apply BitVec.eq_of_toNat_eq
    change (hi.toUInt16 <<< 8 ||| lo.toUInt16).toNat = _
    have hshift : hi.toNat <<< 8 < 2 ^ 16 := by
      rw [Nat.shiftLeft_eq]
      have hhi := hi.toNat_lt
      omega
    rw [UInt16.toNat_or, UInt16.toNat_shiftLeft, UInt8.toNat_toUInt16, UInt8.toNat_toUInt16,
      BitVec.toNat_append]
    change hi.toNat <<< 8 % 2 ^ 16 ||| lo.toNat = hi.toNat <<< 8 ||| lo.toNat
    rw [Nat.mod_eq_of_lt hshift]
  unfold word
  rw [← hbits]
  rfl

theorem toInt16_toInt {w : UInt16} (h : w.toNat < 2 ^ 15) : w.toInt16.toInt = w.toNat :=
  BitVec.toInt_eq_toNat_of_lt (by change 2 * w.toNat < 2 ^ 16; omega)

theorem byte_toInt (b : UInt8) : b.toUInt16.toInt16.toInt = b.toNat := by
  have hb := b.toNat_lt
  have hnat := UInt8.toNat_toUInt16 b
  rw [toInt16_toInt (by omega), hnat]

theorem eighths_or (low : UInt8) (high : Nat) :
    (high % 4) <<< 8 ||| low.toNat = eighths low high := by
  rw [← Nat.shiftLeft_add_eq_or_of_lt low.toNat_lt, Nat.shiftLeft_eq, Nat.add_comm, Nat.mul_comm]
  rfl

theorem eighths_toInt (low : UInt8) {bits : UInt16} {high : Nat}
    (hbits : bits.toNat = (high % 4) <<< 8) :
    (low.toUInt16 ||| bits).toInt16.toInt = eighths low high := by
  have hnat : (low.toUInt16 ||| bits).toNat = eighths low high := by
    rw [UInt16.toNat_or, UInt8.toNat_toUInt16, hbits, Nat.or_comm, eighths_or]
  have hlt : eighths low high < 2 ^ 15 := by
    unfold eighths
    have hlow := low.toNat_lt
    omega
  rw [toInt16_toInt (by rw [hnat]; exact hlt), hnat]

theorem msb_bits (msb : UInt8) :
    ((msb &&& 0x03).toUInt16 <<< 8).toNat = (msb.toNat % 4) <<< 8 ∧
      ((msb &&& 0x0C).toUInt16 <<< 6).toNat = (msb.toNat / 4 % 4) <<< 8 := by
  have hall : forall n : Fin 256, (n.val &&& 3) <<< 8 % 2 ^ 16 = (n.val % 4) <<< 8 ∧
      (n.val &&& 12) <<< 6 % 2 ^ 16 = (n.val / 4 % 4) <<< 8 := by
    decide +kernel
  rw [UInt16.toNat_shiftLeft, UInt16.toNat_shiftLeft, UInt8.toNat_toUInt16, UInt8.toNat_toUInt16,
    UInt8.toNat_and, UInt8.toNat_and]
  exact hall ⟨msb.toNat, msb.toNat_lt⟩

theorem parse_humidity (block : Block) :
    (prvParseCalibration block).h0RhX2.toInt = block[0].toNat ∧
      (prvParseCalibration block).h1RhX2.toInt = block[1].toNat ∧
      (prvParseCalibration block).h0T0Out.toInt = word block[6] block[7] ∧
      (prvParseCalibration block).h1T0Out.toInt = word block[10] block[11] :=
  ⟨byte_toInt _, byte_toInt _, prvLeI16_toInt _ _, prvLeI16_toInt _ _⟩

theorem parse_temperature (block : Block) :
    (prvParseCalibration block).t0DegcX8.toInt = firstEighths block ∧
      (prvParseCalibration block).t1DegcX8.toInt = secondEighths block ∧
      (prvParseCalibration block).t0Out.toInt = word block[12] block[13] ∧
      (prvParseCalibration block).t1Out.toInt = word block[14] block[15] :=
  ⟨eighths_toInt _ (msb_bits _).1, eighths_toInt _ (msb_bits _).2, prvLeI16_toInt _ _,
    prvLeI16_toInt _ _⟩

/-!
## What is computed
-/

theorem raw_sub_bounds (a b : Int16) : |a.toInt - b.toInt| ≤ 65535 := by
  have ha := a.toInt_lt
  have ha' := a.le_toInt
  have hb := b.toInt_lt
  have hb' := b.le_toInt
  exact abs_le.mpr ⟨by omega, by omega⟩

theorem int32Sub_raw (a b : Int16) : int32Sub a.toInt b.toInt = some (a.toInt - b.toInt) := by
  have habs := abs_le.mp (raw_sub_bounds a b)
  exact int32_of_bounds (by omega) (by omega)

theorem prvCompensateHumidity_eq {c : Cal} {hRaw : Int16} {h0 h1 : Nat}
    (h0_eq : c.h0RhX2.toInt = h0) (h1_eq : c.h1RhX2.toInt = h1) (h0_le : h0 < 256)
    (h1_le : h1 < 256) :
    prvCompensateHumidity c hRaw =
      some (prvClampHumidity
        (if c.h1T0Out.toInt - c.h0T0Out.toInt ≠ 0 then
          (((h1 : Int) - h0) * 50 * (hRaw.toInt - c.h0T0Out.toInt)).tdiv
            (c.h1T0Out.toInt - c.h0T0Out.toInt) + h0 * 50
        else h0 * 50)) := by
  have hbase : int32Mul (h0 : Int) 50 = some ((h0 : Int) * 50) :=
    int32_of_bounds (by omega) (by omega)
  have hpoints : int32Sub (h1 : Int) h0 = some ((h1 : Int) - h0) :=
    int32_of_bounds (by omega) (by omega)
  have hrise : int32Mul ((h1 : Int) - h0) 50 = some (((h1 : Int) - h0) * 50) :=
    int32_of_bounds (by omega) (by omega)
  have hriseAbs : |((h1 : Int) - h0) * 50| ≤ 12750 := abs_le.mpr ⟨by omega, by omega⟩
  have hproduct := int32Mul_of_bounds hriseAbs (raw_sub_bounds hRaw c.h0T0Out) (by decide)
  have hprodAbs : |((h1 : Int) - h0) * 50 * (hRaw.toInt - c.h0T0Out.toInt)| ≤ 12750 * 65535 := by
    rw [abs_mul]
    exact mul_le_mul hriseAbs (raw_sub_bounds _ _) (abs_nonneg _) (by decide)
  unfold prvCompensateHumidity
  simp only [int32Sub_raw, h0_eq, h1_eq, hbase, Option.bind_eq_bind, Option.bind_some]
  by_cases hspan : c.h1T0Out.toInt - c.h0T0Out.toInt ≠ 0
  · have hquotient := int32Div_of_bounds hspan (lt_of_le_of_lt hprodAbs (by decide))
    have hquotAbs := abs_le.mp
      (le_trans (abs_tdiv_le _ (c.h1T0Out.toInt - c.h0T0Out.toInt)) hprodAbs)
    have hadd : int32Add ((((h1 : Int) - h0) * 50 * (hRaw.toInt - c.h0T0Out.toInt)).tdiv
        (c.h1T0Out.toInt - c.h0T0Out.toInt)) (h0 * 50) = some _ :=
      int32_of_bounds (by omega) (by omega)
    rw [if_pos hspan, if_pos hspan]
    simp only [hpoints, hrise, hproduct, hquotient, hadd, Option.bind_some]
  · rw [if_neg hspan, if_neg hspan]

theorem prvCompensateTemperature_eq {c : Cal} {tRaw : Int16} {t0 t1 : Nat}
    (t0_eq : c.t0DegcX8.toInt = t0) (t1_eq : c.t1DegcX8.toInt = t1) (t0_le : t0 < 1024)
    (t1_le : t1 < 1024) :
    prvCompensateTemperature c tRaw =
      if c.t1Out.toInt - c.t0Out.toInt ≠ 0 then
        if InInt32 (((t1 : Int) - t0) * 100 * (tRaw.toInt - c.t0Out.toInt)) then
          some ((((t1 : Int) - t0) * 100 * (tRaw.toInt - c.t0Out.toInt)).tdiv
            (8 * (c.t1Out.toInt - c.t0Out.toInt)) + ((t0 : Int) * 100).tdiv 8)
        else none
      else some (((t0 : Int) * 100).tdiv 8) := by
  have hscaled : int32Mul (t0 : Int) 100 = some ((t0 : Int) * 100) :=
    int32_of_bounds (by omega) (by omega)
  have hscaledAbs : |(t0 : Int) * 100| ≤ 102300 := abs_le.mpr ⟨by omega, by omega⟩
  have hbase := int32Div_of_bounds (by decide : (8 : Int) ≠ 0)
    (lt_of_le_of_lt hscaledAbs (by decide))
  have hbaseAbs := abs_le.mp (le_trans (abs_tdiv_le _ 8) hscaledAbs)
  have hpoints : int32Sub (t1 : Int) t0 = some ((t1 : Int) - t0) :=
    int32_of_bounds (by omega) (by omega)
  have hrise : int32Mul ((t1 : Int) - t0) 100 = some (((t1 : Int) - t0) * 100) :=
    int32_of_bounds (by omega) (by omega)
  unfold prvCompensateTemperature
  rw [int32Sub_raw, t0_eq, t1_eq, Option.bind_eq_bind, Option.bind_some, hscaled,
    Option.bind_some, hbase, Option.bind_some]
  by_cases hspan : c.t1Out.toInt - c.t0Out.toInt ≠ 0
  · rw [if_pos hspan, if_pos hspan]
    rw [hpoints, Option.bind_some, hrise, Option.bind_some, int32Sub_raw, Option.bind_some]
    by_cases hfits : InInt32 (((t1 : Int) - t0) * 100 * (tRaw.toInt - c.t0Out.toInt))
    · have hproduct : int32Mul (((t1 : Int) - t0) * 100) (tRaw.toInt - c.t0Out.toInt) =
          some (((t1 : Int) - t0) * 100 * (tRaw.toInt - c.t0Out.toInt)) := by
        rw [int32Mul_eq, if_pos hfits]
      have hspanAbs := abs_le.mp (raw_sub_bounds c.t1Out c.t0Out)
      have hdivisor : int32Mul 8 (c.t1Out.toInt - c.t0Out.toInt) =
          some (8 * (c.t1Out.toInt - c.t0Out.toInt)) := int32_of_bounds (by omega) (by omega)
      have hquotAbs := abs_le.mp (abs_tdiv_mul_le hfits (by decide : (2 : Int) ≤ 8) hspan)
      have hquotient := int32Div_mul_of_inInt32 hfits (by decide : (2 : Int) ≤ 8) hspan
      have hadd : int32Add ((((t1 : Int) - t0) * 100 * (tRaw.toInt - c.t0Out.toInt)).tdiv
          (8 * (c.t1Out.toInt - c.t0Out.toInt))) (((t0 : Int) * 100).tdiv 8) = some _ :=
        int32_of_bounds (by omega) (by omega)
      rw [if_pos hfits]
      rw [hproduct, Option.bind_some, hdivisor, Option.bind_some, hquotient, Option.bind_some, hadd]
    · have hproduct : int32Mul (((t1 : Int) - t0) * 100) (tRaw.toInt - c.t0Out.toInt) = none := by
        rw [int32Mul_eq, if_neg hfits]
      rw [if_neg hfits, hproduct, Option.bind_none]
  · rw [if_neg hspan, if_neg hspan]

/-!
## How exact it is
-/

theorem prvClampHumidity_cast (value : Int) :
    ((prvClampHumidity value : Int) : ℚ) / 100 = max 0 (min 100 ((value : ℚ) / 100)) := by
  unfold prvClampHumidity
  by_cases hlow : value < humidityMinX100
  · have hneg : (value : ℚ) < 0 := by exact_mod_cast hlow
    rw [if_pos hlow, max_eq_left (le_trans (min_le_right _ _) (by linarith))]
    norm_num
  · have hpos : (0 : ℚ) ≤ value := by exact_mod_cast Int.not_lt.mp hlow
    rw [if_neg hlow]
    by_cases hhigh : humidityMaxX100 < value
    · have hbig : (10000 : ℚ) < value := by exact_mod_cast hhigh
      rw [if_pos hhigh, min_eq_left (by linarith)]
      norm_num
    · have hsmall : (value : ℚ) ≤ 10000 := by exact_mod_cast Int.not_lt.mp hhigh
      rw [if_neg hhigh, min_eq_right (by linarith), max_eq_right (by linarith)]

theorem hundredths_close {x y : ℚ} (h : |x - y * 100| < 2) : |x / 100 - y| < 2 / 100 := by
  have hsplit : x / 100 - y = (x - y * 100) / 100 := by ring
  rw [hsplit, abs_div, abs_of_pos (by norm_num : (0 : ℚ) < 100)]
  linarith

theorem humidity_close (h0 h1 : Nat) (out0 out1 raw : Int) :
    |(((if out1 - out0 ≠ 0 then
        (((h1 : Int) - h0) * 50 * (raw - out0)).tdiv (out1 - out0) + h0 * 50
      else h0 * 50 : Int)) : ℚ) / 100 - line ⟨out0, h0 / 2⟩ ⟨out1, h1 / 2⟩ raw| < 2 / 100 := by
  apply hundredths_close
  unfold line
  dsimp only
  by_cases hspan : out1 = out0
  · rw [if_neg (not_not.mpr (sub_eq_zero.mpr hspan)), if_pos hspan]
    have hexact : ((h0 * 50 : Int) : ℚ) - (h0 : ℚ) / 2 * 100 = 0 := by
      push_cast
      ring
    rw [hexact]
    norm_num
  · have hne : out1 - out0 ≠ 0 := sub_ne_zero.mpr hspan
    have hne' : (out1 : ℚ) - out0 ≠ 0 := by exact_mod_cast hne
    have hline : ((h0 : ℚ) / 2 + ((h1 : ℚ) / 2 - h0 / 2) * (raw - out0) / (out1 - out0)) * 100 =
        ((((h1 : Int) - h0) * 50 * (raw - out0) : Int) : ℚ) / ((out1 - out0 : Int) : ℚ) +
          (h0 : ℚ) * 50 := by
      push_cast
      field_simp
      ring
    rw [if_pos hne, if_neg hspan, hline]
    apply abs_tdiv_add_sub_lt hne
    push_cast
    rw [sub_self]
    norm_num

theorem temperature_close (t0 t1 : Nat) (out0 out1 raw : Int) :
    |(((if out1 - out0 ≠ 0 then
        (((t1 : Int) - t0) * 100 * (raw - out0)).tdiv (8 * (out1 - out0)) +
          ((t0 : Int) * 100).tdiv 8
      else ((t0 : Int) * 100).tdiv 8 : Int)) : ℚ) / 100 -
        line ⟨out0, t0 / 8⟩ ⟨out1, t1 / 8⟩ raw| < 2 / 100 := by
  have hbase : |((((t0 : Int) * 100).tdiv 8 : Int) : ℚ) - (t0 : ℚ) * 100 / 8| < 1 := by
    have htrunc := abs_tdiv_sub_lt (a := (t0 : Int) * 100) (by decide : (8 : Int) ≠ 0)
    push_cast at htrunc
    exact htrunc
  apply hundredths_close
  unfold line
  dsimp only
  by_cases hspan : out1 = out0
  · have hexact : (t0 : ℚ) / 8 * 100 = (t0 : ℚ) * 100 / 8 := by ring
    rw [if_neg (not_not.mpr (sub_eq_zero.mpr hspan)), if_pos hspan, hexact]
    linarith
  · have hne : out1 - out0 ≠ 0 := sub_ne_zero.mpr hspan
    have hne' : (out1 : ℚ) - out0 ≠ 0 := by exact_mod_cast hne
    have hline : ((t0 : ℚ) / 8 + ((t1 : ℚ) / 8 - t0 / 8) * (raw - out0) / (out1 - out0)) * 100 =
        ((((t1 : Int) - t0) * 100 * (raw - out0) : Int) : ℚ) / ((8 * (out1 - out0) : Int) : ℚ) +
          (t0 : ℚ) * 100 / 8 := by
      push_cast
      field_simp
      ring
    rw [if_pos hne, if_neg hspan, hline]
    exact abs_tdiv_add_sub_lt (mul_ne_zero (by decide) hne) hbase

theorem eighths_lt (low : UInt8) (high : Nat) : eighths low high < 1024 := by
  unfold eighths
  have hlow := low.toNat_lt
  omega

theorem humidity_accurate (block : Block) (lo hi : UInt8) :
    exists value, prvCompensateHumidity (prvParseCalibration block) (prvLeI16 lo hi) = some value ∧
      |(value : ℚ) / 100 - max 0 (min 100
        (line (humidityPoints block).1 (humidityPoints block).2 (word lo hi)))| < 2 / 100 := by
  rcases parse_humidity block with ⟨hh0, hh1, hout0, hout1⟩
  refine ⟨_, prvCompensateHumidity_eq hh0 hh1 block[0].toNat_lt block[1].toNat_lt, ?_⟩
  rw [prvClampHumidity_cast, hout0, hout1, prvLeI16_toInt]
  exact lt_of_le_of_lt (abs_limit_sub_limit_le _ _ _ _) (humidity_close _ _ _ _ _)

theorem temperature_eq (block : Block) (lo hi : UInt8) :
    prvCompensateTemperature (prvParseCalibration block) (prvLeI16 lo hi) =
      if word block[14] block[15] - word block[12] block[13] ≠ 0 then
        if InInt32 (((secondEighths block : Int) - firstEighths block) * (100 : Int) *
            (word lo hi - word block[12] block[13])) then
          some ((((secondEighths block : Int) - firstEighths block) * (100 : Int) *
            (word lo hi - word block[12] block[13])).tdiv
              ((8 : Int) * (word block[14] block[15] - word block[12] block[13])) +
            ((firstEighths block : Int) * 100).tdiv 8)
        else none
      else some (((firstEighths block : Int) * 100).tdiv 8) := by
  rcases parse_temperature block with ⟨ht0, ht1, hout0, hout1⟩
  rw [prvCompensateTemperature_eq ht0 ht1 (eighths_lt _ _) (eighths_lt _ _), hout0, hout1,
    prvLeI16_toInt]

theorem temperature_accurate {block : Block} {raw : Vector UInt8 4}
    (h : TemperatureFits block raw) :
    exists value,
      prvCompensateTemperature (prvParseCalibration block) (prvLeI16 raw[2] raw[3]) =
        some value ∧
      |(value : ℚ) / 100 - line (temperaturePoints block).1 (temperaturePoints block).2
        (word raw[2] raw[3])| < 2 / 100 := by
  have hclose := temperature_close (firstEighths block) (secondEighths block)
    (word block[12] block[13]) (word block[14] block[15]) (word raw[2] raw[3])
  rw [temperature_eq]
  by_cases hspan : word block[14] block[15] - word block[12] block[13] ≠ 0
  · rcases h with hsame | hfits
    · exact absurd (sub_eq_zero.mpr hsame) hspan
    · rw [if_pos hspan] at hclose
      rw [if_pos hspan, if_pos hfits]
      exact ⟨_, rfl, hclose⟩
  · rw [if_neg hspan] at hclose
    rw [if_neg hspan]
    exact ⟨_, rfl, hclose⟩

theorem humidityTempRead_eq {ctrl avg : Bool} {block : Block} {before s : State}
    (hinit : humidityTempInit ctrl avg (some block) before = (.ok (), s))
    (first second : Option UInt8) (raw : Vector UInt8 4) :
    humidityTempRead first second (some raw) s =
      match awaitReady first second with
      | .error err => some (.error err)
      | .ok () =>
          (prvCompensateHumidity (prvParseCalibration block) (prvLeI16 raw[0] raw[1])).bind
            fun humidity =>
              (prvCompensateTemperature (prvParseCalibration block) (prvLeI16 raw[2] raw[3])).bind
                fun temperature => some (.ok ⟨humidity, temperature⟩) := by
  have hs : s = { cal := prvParseCalibration block, ready := true } := by
    cases ctrl with
    | false => cases hinit
    | true =>
        cases avg with
        | false => cases hinit
        | true =>
            cases hinit
            rfl
  rw [hs]
  rfl

/-- Every pair of outputs is converted, and as exactly as two hundredths, unless the temperature
product leaves the range; then the read is undefined. -/
theorem reading_accurate_iff {ctrl avg : Bool} {block : Block} {before s : State}
    (hinit : humidityTempInit ctrl avg (some block) before = (.ok (), s)) (raw : Vector UInt8 4) :
    (exists data, Accurate block raw data ∧ forall first second,
      humidityTempRead first second (some raw) s =
        some ((awaitReady first second).map fun _ => data)) ↔
      TemperatureFits block raw := by
  constructor
  · intro h
    rcases h with ⟨data, -, hread⟩
    by_contra hbad
    rw [TemperatureFits, not_or] at hbad
    have hready := hread (some 0x03) none
    rw [humidityTempRead_eq hinit] at hready
    rcases humidity_accurate block raw[0] raw[1] with ⟨humidity, hhumidity, -⟩
    have hnone : prvCompensateTemperature (prvParseCalibration block)
        (prvLeI16 raw[2] raw[3]) = none := by
      rw [temperature_eq, if_pos (sub_ne_zero.mpr hbad.1), if_neg hbad.2]
    rw [hhumidity, hnone] at hready
    cases hready
  · intro hfits
    rcases humidity_accurate block raw[0] raw[1] with ⟨humidity, hhumidity, hhumidityClose⟩
    rcases temperature_accurate hfits with ⟨temperature, htemperature, htemperatureClose⟩
    refine ⟨⟨humidity, temperature⟩, ⟨hhumidityClose, htemperatureClose⟩, ?_⟩
    intro first second
    rw [humidityTempRead_eq hinit, hhumidity, htemperature]
    cases awaitReady first second with
    | error err => rfl
    | ok _ => rfl

/-- Points at 20 and 35 degrees and at 30 and 60 percent. -/
def shippedBlock : Block :=
  #v[60, 120, 160, 24, 0, 0x04, 0x00, 0x10, 0, 0, 0x00, 0xE0, 0x00, 0x00, 0x00, 0x04]

theorem shipped_reading_accurate :
    exists data, Accurate shippedBlock #v[0x34, 0x02, 0x56, 0x01] data ∧ forall first second,
      humidityTempRead first second (some #v[0x34, 0x02, 0x56, 0x01])
          ⟨prvParseCalibration shippedBlock, true⟩ =
        some ((awaitReady first second).map fun _ => data) := by
  have hinit : humidityTempInit true true (some shippedBlock)
      ⟨prvParseCalibration shippedBlock, false⟩ =
      (.ok (), ⟨prvParseCalibration shippedBlock, true⟩) := rfl
  apply (reading_accurate_iff hinit #v[0x34, 0x02, 0x56, 0x01]).mpr
  exact Or.inr (by decide)

/-- Points that lie almost 128 degrees apart, over half of the outputs. -/
def farBlock : Block :=
  #v[60, 120, 0, 0xFF, 0, 0x0C, 0x00, 0x10, 0, 0, 0x00, 0xE0, 0x00, 0x80, 0x00, 0x00]

/-- At the highest output the product is more than three times too large. -/
theorem far_reading_undefined :
    ¬forall (ctrl avg : Bool) (block : Block) (before s : State),
      humidityTempInit ctrl avg (some block) before = (.ok (), s) ->
      forall raw : Vector UInt8 4, exists data, Accurate block raw data ∧ forall first second,
        humidityTempRead first second (some raw) s =
          some ((awaitReady first second).map fun _ => data) := by
  intro h
  rcases h true true farBlock ⟨prvParseCalibration farBlock, false⟩
    ⟨prvParseCalibration farBlock, true⟩ rfl #v[0x34, 0x02, 0xFF, 0x7F] with ⟨data, -, hread⟩
  have hundefined : prvCompensateTemperature (prvParseCalibration farBlock)
      (prvLeI16 0xFF 0x7F) = none := by
    decide
  have hhumidity : prvCompensateHumidity (prvParseCalibration farBlock)
      (prvLeI16 0x34 0x02) = some 3862 := by
    decide
  have hready := hread (some 0x03) none
  change ((prvCompensateHumidity (prvParseCalibration farBlock) (prvLeI16 0x34 0x02)).bind
    fun humidity => (prvCompensateTemperature (prvParseCalibration farBlock)
      (prvLeI16 0xFF 0x7F)).bind fun temperature => some (.ok ⟨humidity, temperature⟩)) = _
    at hready
  rw [hhumidity, hundefined] at hready
  cases hready

end EnvMonitor.Drivers.HumidityTemp
