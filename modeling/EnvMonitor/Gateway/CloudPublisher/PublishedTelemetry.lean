import EnvMonitor.Gateway.CloudPublisher.PublishedRows

/-!
# Telemetry

The wire value of a reading is its rounded quotient, and undefined only where half a step added
leaves the 32-bit range.
-/

namespace EnvMonitor.Gateway.CloudPublisher.Published

open FlatJson JsonText LifecycleController Numerics

/-!
## Wire values
-/

theorem prvDivRound_eq {value divisor half : Int} (hdiv : divisor = 2 * half) (hhalf : 0 < half)
    (hvalue : InInt32 value) :
    prvDivRound value divisor =
      if value.natAbs + half < 2 ^ 31 then some (roundAway value divisor) else none := by
  have hd : divisor.tdiv 2 = half := by
    rw [hdiv, Int.mul_tdiv_cancel_left half (by decide)]
  have hquotient : forall {sum : Int}, 0 ≤ sum -> sum < 2 ^ 31 ->
      int32Div sum divisor = some (sum.tdiv divisor) := by
    intro sum hlow hhigh
    apply int32Div_of_bounds (by omega)
    rw [abs_of_nonneg hlow]
    exact hhigh
  rcases hvalue with ⟨hlo, hhi⟩
  unfold prvDivRound roundAway
  dsimp only
  rw [hd]
  by_cases hneg : 0 ≤ value
  · rw [if_pos hneg, if_pos hneg]
    by_cases hfits : value.natAbs + half < 2 ^ 31
    · have hsum : int32Add value half = some (value + half) :=
        int32_of_bounds (by omega) (by omega)
      rw [if_pos hfits, hsum, Option.bind_some]
      exact hquotient (by omega) (by omega)
    · have hsum : int32Add value half = none := by
        apply int32_eq_none
        rintro ⟨_, hsum⟩
        omega
      rw [if_neg hfits, hsum]
      rfl
  · rw [if_neg hneg, if_neg hneg]
    by_cases hfits : value.natAbs + half < 2 ^ 31
    · have hmirror : int32 (-value) = some (-value) := int32_of_bounds (by omega) (by omega)
      have hsum : int32Add (-value) half = some (-value + half) :=
        int32_of_bounds (by omega) (by omega)
      have hback : value + -half = -(-value + half) := by omega
      have hbound := abs_tdiv_le (-value + half) divisor
      rw [abs_of_nonneg (show 0 ≤ -value + half by omega)] at hbound
      have habs := abs_le.mp hbound
      rw [if_pos hfits, hmirror, Option.bind_some, hsum, Option.bind_some,
        hquotient (by omega) (by omega), Option.bind_some, hback, Int.neg_tdiv]
      exact int32_of_bounds (by omega) (by omega)
    · rw [if_neg hfits]
      by_cases hmin : -value < 2 ^ 31
      · have hmirror : int32 (-value) = some (-value) := int32_of_bounds (by omega) hmin
        have hsum : int32Add (-value) half = none := by
          apply int32_eq_none
          rintro ⟨_, hsum⟩
          omega
        rw [hmirror, Option.bind_some, hsum]
        rfl
      · have hmirror : int32 (-value) = none := by
          apply int32_eq_none
          rintro ⟨_, hmirror⟩
          exact hmin hmirror
        rw [hmirror]
        rfl

theorem prvClamp_eq {lo hi : Int} (h : lo ≤ hi) (value : Int) :
    prvClamp value lo hi = clamp lo hi value := by
  unfold prvClamp clamp
  split
  · omega
  · split
    · omega
    · omega

theorem natAbs_roundAway_le {n d half : Int} (hd : d = 2 * half) (hhalf : 0 < half) :
    (roundAway n d).natAbs ≤ n.natAbs + half.natAbs := by
  have hdiv : d.tdiv 2 = half := by
    rw [hd, Int.mul_tdiv_cancel_left half (by decide)]
  unfold roundAway
  rw [hdiv, Int.natAbs_tdiv]
  refine le_trans (Nat.div_le_self _ _) ?_
  split
  · omega
  · omega

theorem natAbs_clamp_le {lo hi n : Int} (h : 0 ≤ lo ∧ lo ≤ hi) :
    (clamp lo hi n).natAbs ≤ hi.natAbs := by
  unfold clamp
  omega

theorem prvDivRound_fits {value divisor half : Int} (hdiv : divisor = 2 * half) (hhalf : 0 < half)
    (h : value.natAbs + half < 2 ^ 31) :
    prvDivRound value divisor = some (roundAway value divisor) ∧
      (roundAway value divisor).natAbs < 10 ^ 10 := by
  have hround := @natAbs_roundAway_le value divisor half hdiv hhalf
  rw [prvDivRound_eq hdiv hhalf ⟨by omega, by omega⟩, if_pos h]
  exact ⟨rfl, by omega⟩

/-!
## Telemetry
-/

def optField (name : String) (h : name.toList.all plainChar = true) (valid : Bool) (value : Int) :
    Field :=
  ⟨name, if valid then .ld value else .null, h⟩

theorem prvAppendOpt_eq {name : String} (h : name.toList.all plainChar = true) (valid : Bool)
    (value : Int) :
    prvAppendOpt name valid (some value) =
      some (moreMembers [(optField name h valid value).member]) := by
  cases valid with
  | true =>
      change some (0x2C :: 0x22 :: (ascii name ++
          0x22 :: 0x3A :: (Numerics.decimalInt value ++ []))) =
        some (0x2C :: (0x22 :: (ascii name ++ 0x22 :: 0x3A :: Numerics.decimalInt value)) ++ [])
      rw [List.append_nil, List.append_nil]
  | false =>
      change some (0x2C :: 0x22 :: (ascii name ++ 0x22 :: 0x3A :: wordNull)) =
        some (0x2C :: (0x22 :: (ascii name ++ 0x22 :: 0x3A :: wordNull)) ++ [])
      rw [List.append_nil]

theorem optField_fits {name : String} (h : name.toList.all plainChar = true) (valid : Bool)
    {value : Int} (hvalue : value.natAbs < 10 ^ 10) :
    (optField name h valid value).content.Fits contentMax := by
  cases valid with
  | true => exact fits_ld hvalue (by decide)
  | false => exact fits_null (by decide)

theorem optField_meaning {name : String} (h : name.toList.all plainChar = true) (valid : Bool)
    (value : Int) :
    (optField name h valid value).member.meaning = (ascii name, channel valid value) := by
  cases valid with
  | true => rfl
  | false => rfl

/-- A channel whose wire value is defined. -/
structure Wire (call : Option Int) (value : Int) : Prop where
  defined : call = some value
  short : value.natAbs < 10 ^ 10

theorem wire_raw (value : Int32) : Wire (some value.toInt) value.toInt := by
  have hlow := value.le_toInt
  have hhigh := value.toInt_lt
  exact ⟨rfl, by omega⟩

theorem wire_temp {value : Int} (h : value.natAbs + 5 < 2 ^ 31) :
    Wire (prvWireTemp value) (roundAway value 10) := by
  have hfits := @prvDivRound_fits value 10 5 rfl (by decide) (by omega)
  exact ⟨hfits.1, hfits.2⟩

theorem wire_humidity {value : Int} (h : value.natAbs + 50 < 2 ^ 31) :
    Wire (prvWireHumidity value) (clamp 0 100 (roundAway value 100)) := by
  have hfits := @prvDivRound_fits value 100 50 rfl (by decide) (by omega)
  constructor
  · unfold prvWireHumidity
    rw [hfits.1, Option.map_some, prvClamp_eq (by decide)]
  · exact lt_of_le_of_lt (natAbs_clamp_le (by decide)) (by decide)

theorem wire_pressure {value : Int} (h : value.natAbs + 5 < 2 ^ 31) :
    Wire (prvWirePressure value) (clamp 0 65535 (roundAway value 10)) := by
  have hfits := @prvDivRound_fits value 10 5 rfl (by decide) (by omega)
  constructor
  · unfold prvWirePressure
    rw [hfits.1, Option.map_some, prvClamp_eq (by decide)]
  · exact lt_of_le_of_lt (natAbs_clamp_le (by decide)) (by decide)

theorem prvDivRound_none (value : Int32) {divisor half : Int} (hdiv : divisor = 2 * half)
    (hhalf : 0 < half) (h : ¬value.toInt.natAbs + half < 2 ^ 31) :
    prvDivRound value.toInt divisor = none := by
  have hlow := value.le_toInt
  have hhigh := value.toInt_lt
  rw [prvDivRound_eq hdiv hhalf ⟨by omega, by omega⟩, if_neg h]

theorem opt_spells (echo : List UInt8) (name : String) (h : name.toList.all plainChar = true)
    (valid : Bool) {call : Option Int} {value : Int} (hwire : Wire call value) :
    Spells echo (keysRoom [name]) [prvAppendOpt name valid call]
      [(ascii name, channel valid value)] := by
  have hfits := @forall_mem_one (fun f => f.content.Fits contentMax) _
    (optField_fits h valid hwire.short)
  refine ⟨[(optField name h valid value).member], ?_,
    ⟨[moreMembers [(optField name h valid value).member]], ?_, List.flatten_singleton⟩,
    @moreMembers_fields [optField name h valid value] fun f hf => (hfits f hf).short,
    fun _ => @utf8_fields [optField name h valid value] fun f hf => (hfits f hf).utf8⟩
  · rw [List.map_singleton, optField_meaning]
  · rw [hwire.defined, prvAppendOpt_eq h, List.map_singleton]

theorem onboard_spells (echo : List UInt8) {snap : SensorSnapshot}
    (htemp : (snap .temperature).value.toInt.natAbs + 5 < 2 ^ 31)
    (hhumidity : (snap .humidity).value.toInt.natAbs + 50 < 2 ^ 31)
    (hpressure : (snap .pressure).value.toInt.natAbs + 5 < 2 ^ 31) :
    Spells echo 597 (onboardCalls snap) (onboardMessage snap) := by
  have hraw : forall (name : String) (_ : name.toList.all plainChar = true) (sensor : SensorId),
      Spells echo (keysRoom [name]) [appendRaw name (snap sensor)]
        [(ascii name, channel (snap sensor).valid (snap sensor).value.toInt)] :=
    fun name h sensor => opt_spells echo name h (snap sensor).valid (wire_raw (snap sensor).value)
  have hall :=
    (opt_spells echo "temperature_deci_c" (by decide) (snap .temperature).valid
      (wire_temp htemp)).cons
    ((opt_spells echo "humidity_pct" (by decide) (snap .humidity).valid
      (wire_humidity hhumidity)).cons
    ((opt_spells echo "pressure_hpa" (by decide) (snap .pressure).valid
      (wire_pressure hpressure)).cons
    ((hraw "accel_x_mg" (by decide) .accelX).cons
    ((hraw "accel_y_mg" (by decide) .accelY).cons
    ((hraw "accel_z_mg" (by decide) .accelZ).cons
    ((hraw "gyro_x_mdps" (by decide) .gyroX).cons
    ((hraw "gyro_y_mdps" (by decide) .gyroY).cons
    ((hraw "gyro_z_mdps" (by decide) .gyroZ).cons
    ((hraw "mag_x_mgauss" (by decide) .magX).cons
    ((hraw "mag_y_mgauss" (by decide) .magY).cons
    (hraw "mag_z_mgauss" (by decide) .magZ)))))))))))
  exact hall.mono (by decide +kernel)

def onlineField (fd : FdReading) : Field :=
  ⟨"online", .flag (fd.linkOnline && fd.hasData), by decide +kernel⟩

theorem onlineField_meaning (fd : FdReading) : (onlineField fd).member.meaning =
    (ascii "online", .bool (fd.linkOnline && fd.hasData)) :=
  (onlineField fd).meaning_eq

/-- The channels of a field device; registers of 16 bits are rounded without a condition. -/
def fdFields (fd : FdReading) : List Field :=
  let online := fd.linkOnline && fd.hasData
  [optField "temperature_deci_c" (by decide +kernel) (online && fd.temperatureValid)
      (roundAway fd.temperatureCentiC.toInt 10),
    optField "humidity_pct" (by decide +kernel) (online && fd.humidityValid)
      (clamp 0 100 (roundAway fd.humidityCentiPct.toNat 100)),
    optField "pressure_hpa" (by decide +kernel) (online && fd.pressureValid)
      (clamp 0 65535 (roundAway fd.pressureDeciHpa.toNat 10))]

def fdMember (fd : FdReading) : Member where
  key := ascii "field_device"
  text := objectText (onlineField fd).member ((fdFields fd).map Field.member)
  value := .obj (fieldDeviceMessage fd)
  plain := plainKey_ascii (by decide +kernel)
  reads := by
    have hread := reads_object (onlineField fd).member ((fdFields fd).map Field.member)
    have hmeaning : ((onlineField fd).member :: (fdFields fd).map Field.member).map Member.meaning =
        fieldDeviceMessage fd := by
      unfold fdFields fieldDeviceMessage
      simp only [List.map_cons, List.map_nil, optField_meaning, onlineField_meaning]
    rw [hmeaning] at hread
    exact hread

theorem wire_fd (fd : FdReading) :
    Wire (prvWireTemp fd.temperatureCentiC.toInt) (roundAway fd.temperatureCentiC.toInt 10) ∧
      Wire (prvWireHumidity fd.humidityCentiPct.toNat)
        (clamp 0 100 (roundAway fd.humidityCentiPct.toNat 100)) ∧
      Wire (prvWirePressure fd.pressureDeciHpa.toNat)
        (clamp 0 65535 (roundAway fd.pressureDeciHpa.toNat 10)) := by
  have hlow := fd.temperatureCentiC.le_toInt
  have hhigh := fd.temperatureCentiC.toInt_lt
  have hhumidity := fd.humidityCentiPct.toNat_lt
  have hpressure := fd.pressureDeciHpa.toNat_lt
  exact ⟨wire_temp (by omega), wire_humidity (by omega), wire_pressure (by omega)⟩

theorem fd_fit (fd : FdReading) :
    forall f, f ∈ onlineField fd :: fdFields fd -> f.content.Fits contentMax := by
  rcases wire_fd fd with ⟨htemp, hhumidity, hpressure⟩
  unfold fdFields
  simp only [List.forall_mem_cons]
  exact ⟨flag_fits _, optField_fits _ _ htemp.short, optField_fits _ _ hhumidity.short,
    optField_fits _ _ hpressure.short, fun _ h => (by cases h)⟩

theorem fdOpen_eq (fd : FdReading) :
    prvPrint ",\"field_device\":\x7b\"online\":%s" [.s (boolText (fd.linkOnline && fd.hasData))] =
      some (0x2C :: 0x22 :: (ascii "field_device" ++ 0x22 :: 0x3A :: 0x7B ::
        (onlineField fd).member.written)) := by
  have hfmt : ",\"field_device\":\x7b\"online\":%s".toList =
      ',' :: '"' :: ("field_device".toList ++ '"' :: ':' :: '{' ::
        ('"' :: ("online".toList ++ '"' :: ':' :: convFlag))) := by
    decide +kernel
  have honline := (onlineField fd).format_fmt [] []
  rw [List.append_nil, List.append_nil] at honline
  change format ('"' :: ("online".toList ++ '"' :: ':' :: convFlag))
    [.s (boolText (fd.linkOnline && fd.hasData))] = _ ++ [] at honline
  rw [List.append_nil] at honline
  unfold prvPrint
  rw [hfmt, format_char (by decide), format_char (by decide), format_plain (by decide),
    format_char (by decide), format_char (by decide), format_char (by decide), honline]
  rfl

theorem fdMember_written (fd : FdReading) :
    (0x2C :: 0x22 :: (ascii "field_device" ++ 0x22 :: 0x3A :: 0x7B ::
        (onlineField fd).member.written)) ++
      (moreMembers ((fdFields fd).map Field.member) ++ [0x7D]) = moreMembers [fdMember fd] := by
  have hwritten : (fdMember fd).written = 0x22 :: (ascii "field_device" ++ 0x22 :: 0x3A :: 0x7B ::
      ((onlineField fd).member.written ++
        (moreMembers ((fdFields fd).map Field.member) ++ [0x7D]))) := rfl
  rw [moreMembers_cons, hwritten]
  change _ = _ :: (_ ++ [])
  simp only [List.cons_append, List.append_assoc, List.append_nil]

theorem fdMember_length (fd : FdReading) : (moreMembers [fdMember fd]).length ≤ 220 := by
  have hkeys : keysRoom ((onlineField fd :: fdFields fd).map Field.key) = 200 := by
    change keysRoom ["online", "temperature_deci_c", "humidity_pct", "pressure_hpa"] = 200
    decide +kernel
  have hroom := moreMembers_fields fun f hf => (fd_fit fd f hf).short
  have hname : (ascii "field_device").length = 12 := by decide +kernel
  rw [hkeys, List.map_cons, moreMembers_cons] at hroom
  rw [← fdMember_written]
  simp only [List.length_cons, List.length_append, List.length_nil] at hroom ⊢
  omega

theorem utf8_fdMember (fd : FdReading) :
    Utf8 (fdMember fd).key ∧ Utf8 (fdMember fd).text := by
  have hfields := utf8_fields fun f hf => (fd_fit fd f hf).utf8
  have honline := hfields (onlineField fd).member List.mem_cons_self
  have hmore : Utf8 (moreMembers ((fdFields fd).map Field.member)) :=
    utf8_moreMembers fun m hm => hfields m (List.mem_cons_of_mem _ hm)
  have hopen : Utf8 [0x7B, 0x22] := utf8_of_all (by decide)
  have hmiddle : Utf8 [0x22, 0x3A] := utf8_of_all (by decide)
  have hclose : Utf8 [0x7D] := utf8_of_all (by decide)
  have htext : (fdMember fd).text = [0x7B, 0x22] ++ ((onlineField fd).member.key ++
      ([0x22, 0x3A] ++ (onlineField fd).member.text)) ++
        (moreMembers ((fdFields fd).map Field.member) ++ [0x7D]) := rfl
  have hkey : Utf8 (ascii "field_device") := utf8_of_all (by decide +kernel)
  constructor
  · exact hkey
  · rw [htext]
    exact (hopen.append (honline.1.append (hmiddle.append honline.2))).append
      (hmore.append hclose)

theorem fieldDevice_spells (echo : List UInt8) (fd : Option FdReading) :
    Spells echo 220 (prvAppendFieldDevice fd)
      [(ascii "field_device", match fd with
        | none => .null
        | some fd => .obj (fieldDeviceMessage fd))] := by
  cases fd with
  | none =>
      exact spells_fields [⟨"field_device", .null, by decide⟩]
        [("field_device", ['n', 'u', 'l', 'l'])] rfl rfl rfl (by decide +kernel) (by decide +kernel)
        (forall_mem_one (fits_null (by decide)))
  | some fd =>
      rcases wire_fd fd with ⟨htemp, hhumidity, hpressure⟩
      refine ⟨[fdMember fd], rfl,
        ⟨(0x2C :: 0x22 :: (ascii "field_device" ++ 0x22 :: 0x3A :: 0x7B ::
          (onlineField fd).member.written)) ::
            (((fdFields fd).map fun f => moreMembers [f.member]) ++ [[0x7D]]), ?_, ?_⟩,
        fdMember_length fd, ?_⟩
      · unfold prvAppendFieldDevice fdFields
        dsimp only
        rw [fdOpen_eq, htemp.defined, hhumidity.defined, hpressure.defined,
          prvAppendOpt_eq (by decide), prvAppendOpt_eq (by decide), prvAppendOpt_eq (by decide)]
        rfl
      · have hflat := flatten_moreMembers ((fdFields fd).map Field.member)
        rw [List.map_map] at hflat
        change ((fdFields fd).map fun f => moreMembers [f.member]).flatten = _ at hflat
        rw [List.flatten_cons, List.flatten_append, hflat, List.flatten_singleton]
        exact fdMember_written fd
      · intro _ m hm
        rw [List.mem_singleton.mp hm]
        exact utf8_fdMember fd

end EnvMonitor.Gateway.CloudPublisher.Published
