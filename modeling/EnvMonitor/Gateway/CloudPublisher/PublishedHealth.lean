import EnvMonitor.Gateway.CloudPublisher.PublishedRows

/-!
# Health

The table of stack headroom is an array without the zeros at its end, the other members are numbers
and words.
-/

namespace EnvMonitor.Gateway.CloudPublisher.Published

open FlatJson JsonText LifecycleController Numerics

/-!
## The table
-/

theorem take_stackCount (words : List UInt16) {count : Nat} (h : count ≤ words.length) :
    words.take (prvStackCount words count) = (words.take count).rdropWhile (· = 0) := by
  induction count with
  | zero => rfl
  | succ count ih =>
      have hlt : count < words.length := h
      have hget : words.getD count 0 = words[count] := by
        rw [List.getD_eq_getElem?_getD, List.getElem?_eq_getElem hlt, Option.getD_some]
      rw [List.take_succ_eq_append_getElem hlt, List.rdropWhile_concat, prvStackCount, hget]
      by_cases hzero : words[count] = 0
      · rw [if_pos hzero, if_pos (decide_eq_true hzero)]
        exact ih (Nat.le_of_succ_le h)
      · rw [if_neg hzero, if_neg (by rw [decide_eq_true_iff]; exact hzero)]
        exact List.take_succ_eq_append_getElem hlt

theorem stackCount_le (words : List UInt16) (count : Nat) : prvStackCount words count ≤ count := by
  induction count with
  | zero => exact Nat.le_refl 0
  | succ count ih =>
      unfold prvStackCount
      split
      · exact Nat.le_succ_of_le ih
      · exact Nat.le_refl _

theorem flatten_numbers (w : Nat -> Nat) (count : Nat) :
    0x5B :: (((List.range count).map fun i =>
      (if 0 < i then [0x2C] else []) ++ Numerics.decimal (w i)).flatten ++ [0x5D]) =
        numbersText ((List.range count).map w) := by
  cases count with
  | zero => rfl
  | succ count =>
      have hmore : ((List.range count).map fun i =>
          (if 0 < i + 1 then [0x2C] else []) ++ Numerics.decimal (w (i + 1))).flatten =
          moreNumbers ((List.range count).map fun i => w (i + 1)) := by
        unfold moreNumbers
        rw [List.flatMap_map, List.flatMap_def]
        rfl
      rw [List.range_succ_eq_map, List.map_cons, List.map_map, List.map_cons, List.map_map,
        List.flatten_cons]
      change 0x5B :: (([] ++ Numerics.decimal (w 0)) ++ ((List.range count).map fun i =>
          (if 0 < i + 1 then [0x2C] else []) ++ Numerics.decimal (w (i + 1))).flatten ++ [0x5D]) = _
      rw [hmore, List.nil_append, List.append_assoc]
      rfl

theorem map_getD_range (words : List UInt16) {count : Nat} (h : count ≤ words.length) :
    (List.range count).map (fun i => (words.getD i 0).toNat) =
      (words.take count).map UInt16.toNat := by
  apply List.ext_getElem
  · rw [List.length_map, List.length_range, List.length_map, List.length_take, Nat.min_eq_left h]
  · intro i hi _
    rw [List.length_map, List.length_range] at hi
    have hlt : i < words.length := Nat.lt_of_lt_of_le hi h
    rw [List.getElem_map, List.getElem_range, List.getElem_map, List.getElem_take,
      List.getD_eq_getElem?_getD, List.getElem?_eq_getElem hlt, Option.getD_some]

def stackNumbers (snap : HealthSnapshot) : List Nat :=
  (snap.stackWatermarkWords.toList.rdropWhile (· = 0)).map UInt16.toNat

theorem stackCalls_texts (snap : HealthSnapshot) :
    exists texts : List (List UInt8), stackCalls snap.stackWatermarkWords.toList = texts.map some ∧
      0x5B :: (texts.flatten ++ [0x5D]) = numbersText (stackNumbers snap) := by
  have hlength : snap.stackWatermarkWords.toList.length = healthMonitorMaxTasks :=
    Vector.length_toList
  have hle := stackCount_le snap.stackWatermarkWords.toList healthMonitorMaxTasks
  have hnumbers : stackNumbers snap =
      (List.range (prvStackCount snap.stackWatermarkWords.toList healthMonitorMaxTasks)).map
        fun i => (snap.stackWatermarkWords.toList.getD i 0).toNat := by
    have htake := take_stackCount snap.stackWatermarkWords.toList (le_of_eq hlength.symm)
    have hwhole := @List.take_length _ snap.stackWatermarkWords.toList
    rw [hlength] at hwhole
    rw [hwhole] at htake
    unfold stackNumbers
    rw [← htake, map_getD_range _ (by rw [hlength]; exact hle)]
  refine ⟨(List.range (prvStackCount snap.stackWatermarkWords.toList healthMonitorMaxTasks)).map
    fun i => (if 0 < i then [0x2C] else []) ++
      Numerics.decimal (snap.stackWatermarkWords.toList.getD i 0).toNat, ?_, ?_⟩
  · unfold stackCalls
    rw [List.map_map]
    apply List.map_congr_left
    intro i _
    change some ((if 0 < i then [0x2C] else []) ++
      (Numerics.decimal (snap.stackWatermarkWords.toList.getD i 0).toNat ++ [])) = _
    rw [List.append_nil]
    rfl
  · rw [flatten_numbers, hnumbers]

def stackMember (snap : HealthSnapshot) : Member where
  key := ascii "stack_free_words"
  text := numbersText (stackNumbers snap)
  value := .arr ((stackNumbers snap).map fun n : Nat => .int n)
  plain := plainKey_ascii (by decide +kernel)
  reads := reads_numbers (stackNumbers snap)

theorem stackMember_meaning (snap : HealthSnapshot) : (stackMember snap).meaning =
    (ascii "stack_free_words", .arr ((snap.stackWatermarkWords.toList.rdropWhile (· = 0)).map
      fun words => .int words.toNat)) := by
  change (_, Json.arr ((stackNumbers snap).map fun n : Nat => .int n)) = _
  unfold stackNumbers
  rw [List.map_map]
  rfl

theorem moreNumbers_length_le {ns : List Nat} (h : forall n, n ∈ ns -> n < 10 ^ 5) :
    (moreNumbers ns).length ≤ 6 * ns.length := by
  induction ns with
  | nil => exact Nat.zero_le _
  | cons n ns ih =>
      have hdigits := decimal_length_le (by decide) (h n List.mem_cons_self)
      have hmore := ih fun m hm => h m (List.mem_cons_of_mem n hm)
      change (0x2C :: Numerics.decimal n ++ moreNumbers ns).length ≤ _
      rw [List.length_append, List.length_cons, List.length_cons]
      omega

theorem stackNumbers_lt {snap : HealthSnapshot} {n : Nat} (h : n ∈ stackNumbers snap) :
    n < 10 ^ 5 := by
  rcases List.mem_map.mp h with ⟨w, _, hw⟩
  rw [← hw]
  exact Nat.lt_trans w.toNat_lt (by decide)

theorem stackMember_length (snap : HealthSnapshot) :
    (moreMembers [stackMember snap]).length ≤ 70 := by
  have hcount : (stackNumbers snap).length ≤ 8 := by
    have hprefix := (List.rdropWhile_prefix (· = 0) (l := snap.stackWatermarkWords.toList)).length_le
    have hlength : snap.stackWatermarkWords.toList.length = 8 := Vector.length_toList
    unfold stackNumbers
    rw [List.length_map]
    omega
  have htext : (numbersText (stackNumbers snap)).length ≤ 50 := by
    have hall : forall n, n ∈ stackNumbers snap -> n < 10 ^ 5 := fun _ h => stackNumbers_lt h
    cases hns : stackNumbers snap with
    | nil => decide
    | cons n ns =>
        rw [hns] at hcount hall
        have hdigits := decimal_length_le (by decide) (hall n List.mem_cons_self)
        have hmore := moreNumbers_length_le fun m hm => hall m (List.mem_cons_of_mem n hm)
        unfold numbersText
        simp only [List.length_cons, List.length_append, List.length_nil] at hcount ⊢
        omega
  have hname : (ascii "stack_free_words").length = 16 := by decide +kernel
  change (0x2C :: (0x22 :: (ascii "stack_free_words" ++ 0x22 :: 0x3A ::
    numbersText (stackNumbers snap))) ++ []).length ≤ 70
  simp only [List.length_cons, List.length_append, List.length_nil]
  omega

theorem utf8_moreNumbers (ns : List Nat) : Utf8 (moreNumbers ns) := by
  induction ns with
  | nil => exact Utf8.nil
  | cons n ns ih =>
      have hcomma : Utf8 [0x2C] := utf8_of_all (by decide)
      exact (hcomma.append (utf8_decimal n)).append ih

theorem utf8_stackMember (snap : HealthSnapshot) :
    Utf8 (stackMember snap).key ∧ Utf8 (stackMember snap).text := by
  have hkey : Utf8 (ascii "stack_free_words") := utf8_of_all (by decide +kernel)
  have hopen : Utf8 [0x5B] := utf8_of_all (by decide)
  have hclose : Utf8 [0x5D] := utf8_of_all (by decide)
  refine ⟨hkey, ?_⟩
  change Utf8 (numbersText (stackNumbers snap))
  cases stackNumbers snap with
  | nil => exact hopen.append hclose
  | cons n ns =>
      exact hopen.append ((utf8_decimal n).append ((utf8_moreNumbers ns).append hclose))

/-!
## Numbers and words
-/

/-- The members of the first format string. -/
def stateFields (snap : HealthSnapshot) (fwVersion : UInt32) : List Field :=
  [⟨"fw_version", versionContent fwVersion, by decide +kernel⟩,
    ⟨"uptime_s", .lu snap.uptimeS.toNat, by decide +kernel⟩,
    ⟨"lifecycle_state", (lifecycleStr_word snap.lifecycleState).content, by decide +kernel⟩,
    ⟨"last_reset_cause", (resetCauseStr_word snap.lastResetCause).content, by decide +kernel⟩,
    ⟨"sensor_fail_count", .lu snap.sensorFailCount.toNat, by decide +kernel⟩,
    ⟨"alarm_raise_count", .lu snap.alarmRaiseCount.toNat, by decide +kernel⟩,
    ⟨"config_write_failed", .flag snap.configWriteFailed, by decide +kernel⟩]

def stateShapes : List (String × List Char) :=
  [("fw_version", convVersion), ("uptime_s", convLu), ("lifecycle_state", convText),
    ("last_reset_cause", convText), ("sensor_fail_count", convLu),
    ("alarm_raise_count", convLu), ("config_write_failed", convFlag)]

def firstCounter (snap : HealthSnapshot) : Field :=
  ⟨"modbus_transactions_ok", .lu snap.modbusTransactionsOk.toNat, by decide +kernel⟩

/-- The members of the second format string behind the first one. -/
def counterFields (snap : HealthSnapshot) : List Field :=
  [⟨"modbus_timeouts", .lu snap.modbusTimeouts.toNat, by decide +kernel⟩,
    ⟨"modbus_link_online", .flag snap.modbusLinkOnline, by decide +kernel⟩,
    ⟨"mqtt_publishes_sent", .lu snap.mqttPublishesSent.toNat, by decide +kernel⟩,
    ⟨"mqtt_publishes_failed", .lu snap.mqttPublishesFailed.toNat, by decide +kernel⟩,
    ⟨"mqtt_reconnect_count", .lu snap.mqttReconnectCount.toNat, by decide +kernel⟩,
    ⟨"wifi_rssi_dbm", .ld snap.wifiRssiDbm.toInt, by decide +kernel⟩,
    ⟨"cloud_connected", .flag snap.cloudConnected, by decide +kernel⟩,
    ⟨"buffer_entry_count", .lu snap.bufferEntryCount.toNat, by decide +kernel⟩,
    ⟨"buffer_overflow_count", .lu snap.bufferOverflowCount.toNat, by decide +kernel⟩,
    ⟨"ntp_sync_fail_count", .lu snap.ntpSyncFailCount.toNat, by decide +kernel⟩,
    ⟨"last_ntp_sync_epoch", .lu snap.lastNtpSyncEpoch.toNat, by decide +kernel⟩,
    ⟨"cpu_load_pct", .u snap.cpuLoadPct.toNat, by decide +kernel⟩,
    ⟨"arena_min_free_bytes", .lu snap.arenaMinFreeBytes.toNat, by decide +kernel⟩]

def counterShapes : List (String × List Char) :=
  [("modbus_timeouts", convLu), ("modbus_link_online", convFlag),
    ("mqtt_publishes_sent", convLu), ("mqtt_publishes_failed", convLu),
    ("mqtt_reconnect_count", convLu), ("wifi_rssi_dbm", convLd), ("cloud_connected", convFlag),
    ("buffer_entry_count", convLu), ("buffer_overflow_count", convLu),
    ("ntp_sync_fail_count", convLu), ("last_ntp_sync_epoch", convLu), ("cpu_load_pct", convU),
    ("arena_min_free_bytes", convLu)]

def healthFields (snap : HealthSnapshot) (fwVersion : UInt32) : List Field :=
  stateFields snap fwVersion ++ firstCounter snap :: counterFields snap

theorem health_fit (snap : HealthSnapshot) (fwVersion : UInt32) :
    forall f, f ∈ healthFields snap fwVersion -> f.content.Fits contentMax := by
  have hload : snap.cpuLoadPct.toNat < 10 ^ 10 :=
    Nat.lt_trans snap.cpuLoadPct.toNat_lt (by decide)
  unfold healthFields
  rw [List.forall_mem_append]
  constructor
  · unfold stateFields
    simp only [List.forall_mem_cons]
    exact ⟨version_fits _, uint32_fits _, word_fits _, word_fits _, uint32_fits _, uint32_fits _,
      flag_fits _, fun _ h => (by cases h)⟩
  · unfold counterFields
    simp only [List.forall_mem_cons]
    exact ⟨uint32_fits _, uint32_fits _, flag_fits _, uint32_fits _, uint32_fits _, uint32_fits _,
      int32_fits _, flag_fits _, uint32_fits _, uint32_fits _, uint32_fits _, uint32_fits _,
      fits_u hload (by decide), uint32_fits _, fun _ h => (by cases h)⟩

theorem state_text (snap : HealthSnapshot) (fwVersion : UInt32) :
    format healthStateFmt.toList (healthStateArgs snap fwVersion) =
      moreMembers ((stateFields snap fwVersion).map Field.member) ++ [0x2C] := by
  have hfmt : healthStateFmt.toList = shapesFmt stateShapes ++ [','] := by
    unfold healthStateFmt
    simp only [String.toList_append]
    decide +kernel
  have hshapes : (stateFields snap fwVersion).map Field.shape = stateShapes := rfl
  have hargs : healthStateArgs snap fwVersion = fieldsArgs (stateFields snap fwVersion) ++ [] := rfl
  have hend : format [','] [] = [0x2C] := by decide
  have hprint := format_fields (stateFields snap fwVersion) [','] []
  rw [fieldsFmt_eq, hshapes, hend] at hprint
  rw [hfmt, hargs]
  exact hprint

theorem counter_text (snap : HealthSnapshot) :
    format healthCounterFmt.toList (healthCounterArgs snap) =
      (firstCounter snap).member.written ++
        (moreMembers ((counterFields snap).map Field.member) ++
          0x2C :: 0x22 :: (ascii "stack_free_words" ++ [0x22, 0x3A, 0x5B])) := by
  have hfirst : (firstCounter snap).fmt =
      '"' :: ("modbus_transactions_ok".toList ++ '"' :: ':' :: convLu) := rfl
  have hfmt : healthCounterFmt.toList =
      ('"' :: ("modbus_transactions_ok".toList ++ '"' :: ':' :: convLu)) ++
        (shapesFmt counterShapes ++ ",\"stack_free_words\":[".toList) := by
    unfold healthCounterFmt
    simp only [String.toList_append]
    decide +kernel
  have hargs : healthCounterArgs snap =
      (firstCounter snap).content.args ++ (fieldsArgs (counterFields snap) ++ []) := rfl
  have hshapes : (counterFields snap).map Field.shape = counterShapes := rfl
  have hend : format ",\"stack_free_words\":[".toList [] =
      0x2C :: 0x22 :: (ascii "stack_free_words" ++ [0x22, 0x3A, 0x5B]) := by
    decide +kernel
  have hcounters := format_fields (counterFields snap) ",\"stack_free_words\":[".toList []
  rw [fieldsFmt_eq, hshapes, hend] at hcounters
  rw [hfmt, ← hfirst, hargs, ← hcounters]
  exact (firstCounter snap).format_fmt _ _

theorem health_spells (echo : List UInt8) (snap : HealthSnapshot) (fwVersion : UInt32) :
    Spells echo 1222 (healthCalls snap fwVersion) (healthMessage snap fwVersion) := by
  rcases stackCalls_texts snap with ⟨texts, hcalls, htable⟩
  have hfit := health_fit snap fwVersion
  have hstack := utf8_stackMember snap
  refine ⟨(healthFields snap fwVersion).map Field.member ++ [stackMember snap], ?_,
    ⟨[format healthStateFmt.toList (healthStateArgs snap fwVersion),
      format healthCounterFmt.toList (healthCounterArgs snap)] ++ texts ++ [[0x5D]], ?_, ?_⟩, ?_, ?_⟩
  · rw [List.map_append, fieldsMeaning_eq]
    change fieldsMeaning (healthFields snap fwVersion) ++ [(stackMember snap).meaning] = _
    rw [stackMember_meaning]
    rfl
  · unfold healthCalls
    rw [hcalls, List.map_append, List.map_append]
    rfl
  · rw [List.flatten_append, List.flatten_append, List.flatten_singleton, List.flatten_cons,
      List.flatten_singleton, state_text, counter_text, moreMembers_append, healthFields,
      List.map_append, moreMembers_append, List.map_cons, moreMembers_cons]
    change _ = _ ++ _ ++ ((0x2C :: 0x22 :: (ascii "stack_free_words" ++ 0x22 :: 0x3A ::
      numbersText (stackNumbers snap))) ++ [])
    rw [← htable]
    simp only [List.append_assoc, List.cons_append, List.nil_append, List.append_nil]
  · have hkeys : keysRoom ((healthFields snap fwVersion).map Field.key) = 1152 := by
      change keysRoom ["fw_version", "uptime_s", "lifecycle_state", "last_reset_cause",
        "sensor_fail_count", "alarm_raise_count", "config_write_failed", "modbus_transactions_ok",
        "modbus_timeouts", "modbus_link_online", "mqtt_publishes_sent", "mqtt_publishes_failed",
        "mqtt_reconnect_count", "wifi_rssi_dbm", "cloud_connected", "buffer_entry_count",
        "buffer_overflow_count", "ntp_sync_fail_count", "last_ntp_sync_epoch", "cpu_load_pct",
        "arena_min_free_bytes"] = 1152
      decide +kernel
    have hfields := moreMembers_fields fun f hf => (hfit f hf).short
    have htable := stackMember_length snap
    rw [hkeys] at hfields
    rw [moreMembers_append, List.length_append]
    omega
  · intro _ m hm
    rcases List.mem_append.mp hm with hm | hm
    · exact utf8_fields (fun f hf => (hfit f hf).utf8) m hm
    · rw [List.mem_singleton.mp hm]
      exact hstack

end EnvMonitor.Gateway.CloudPublisher.Published
