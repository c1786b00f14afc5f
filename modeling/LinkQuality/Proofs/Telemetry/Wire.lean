import LinkQuality.Proofs.Json.Records
import LinkQuality.Proofs.Telemetry.Bssid
import LinkQuality.Telemetry.Wire

/-!
# Samples survive their JSON form

A sample is written with all its members and read with whatever members there are. So taking members
out of what has been written puts defaults in their places, and nothing else changes. An access
point is all or nothing: it has no defaults for its parts.

## Main definitions

* `Counters.without`, `Sample.without`: defaults in place of what is dropped

## Main results

* `Sample.ofJson?_without`: what is read from the JSON form of a sample without some of its members
* `Sample.readChars?_without`: the text of that form is read as that form
* `Sample.survives_json`: what is read from the text of that form
-/

namespace LinkQuality

open Json

/-! ### Access points -/

namespace Bssid

/-- An address survives its JSON form. -/
theorem ofJson?_toJson (bssid : Bssid) : ofJson? bssid.toJson = some bssid := by
  rw [ofJson?, toJson, Json.text, text?, Option.bind_eq_bind, Option.bind_some, read_text]
  rfl

end Bssid

namespace AccessPoint

/-- The members of the JSON form of an access point. -/
def members (point : AccessPoint) : Fields :=
  [("bssid", point.bssid.toJson), ("frequency_mhz", .nat point.frequencyMhz)]

/-- An access point is read if nothing of it is missing. -/
theorem ofJson?_without {point : AccessPoint} (inRange : point.frequencyMhz < 0x100000000)
    (dropped : List String → Bool) :
    ofJson? (point.toJson.without dropped) =
      if dropped ["bssid"] || dropped ["frequency_mhz"] then none else some point := by
  have fields : (point.toJson.without dropped).fields? ["bssid", "frequency_mhz"] =
      some (point.members.without dropped) :=
    fields?_without_record dropped (by decide) rfl
  have bssid : (point.members.without dropped).required "bssid" Bssid.ofJson? =
      if dropped ["bssid"] then none else some point.bssid :=
    Fields.required_without dropped rfl point.bssid.ofJson?_toJson
  have frequency : (point.members.without dropped).required "frequency_mhz"
      (natBelow? 0x100000000) =
        if dropped ["frequency_mhz"] then none else some point.frequencyMhz :=
    Fields.required_without dropped rfl (natBelow?_nat inRange (by decide))
  rw [ofJson?, fields, Option.bind_eq_bind, Option.bind_some, bssid, frequency]
  cases dropped ["bssid"] <;> cases dropped ["frequency_mhz"] <;> rfl

theorem isPrintable_toJson (point : AccessPoint) : point.toJson.IsPrintable := by
  refine isPrintable_record ?_
  simp only [List.forall_mem_cons]
  exact ⟨rfl, isPrintable_nat _, List.forall_mem_nil _⟩

end AccessPoint

/-! ### Counters -/

namespace Counters

/-- The counters with zeros in place of those that are dropped. -/
def without (dropped : String → Bool) (counters : Counters) : Counters where
  txSuccess := if dropped "tx_success" then 0 else counters.txSuccess
  txRetries := if dropped "tx_retries" then 0 else counters.txRetries
  txBad := if dropped "tx_bad" then 0 else counters.txBad
  rxSuccess := if dropped "rx_success" then 0 else counters.rxSuccess
  beaconRx := if dropped "beacon_rx" then 0 else counters.beaconRx
  radioOnMs := if dropped "radio_on_time_ms" then 0 else counters.radioOnMs
  radioTxMs := if dropped "radio_tx_time_ms" then 0 else counters.radioTxMs
  radioRxMs := if dropped "radio_rx_time_ms" then 0 else counters.radioRxMs
  scanMs := if dropped "scan_time_ms" then 0 else counters.scanMs
  roamScanMs := if dropped "roam_scan_time_ms" then 0 else counters.roamScanMs
  radioOnChannelMs := if dropped "radio_on_freq_time_ms" then 0 else counters.radioOnChannelMs
  busyOnChannelMs := if dropped "cca_busy_freq_time_ms" then 0 else counters.busyOnChannelMs

/-- The counter of a name; zero for a name of none. -/
def named (counters : Counters) (name : String) : ℕ :=
  ((names.zip counters.toList).lookup name).getD 0

/-- The members of the JSON form of the counters. -/
def members (counters : Counters) : Fields := names.zip (counters.toList.map .nat)

/-- Counters that are missing are read as zeros, and all others as they are. -/
theorem ofJson?_without {counters : Counters}
    (inRange : ∀ count ∈ counters.toList, count < 0x10000000000000000)
    (dropped : List String → Bool) :
    ofJson? (counters.toJson.without dropped) =
      some (counters.without fun name => dropped [name]) := by
  have fields : (counters.toJson.without dropped).fields? names =
      some (counters.members.without dropped) :=
    fields?_without_record dropped (by decide) rfl
  have read (name : String) : (counters.members.without dropped).optional name count? 0 =
      some (if dropped [name] then 0 else counters.named name) := by
    have reads : ∀ entry ∈ names.zip counters.toList,
        count? ((nat entry.2).without fun place => dropped (name :: place)) = some entry.2 :=
      fun entry isIn => natBelow?_nat (inRange _ (List.of_mem_zip isIn).2) le_rfl
    rw [Fields.optional_without, members, List.zip_map_right, Fields.optional_map reads]
    split_ifs <;> rfl
  -- Counters are read one after the other, and none of them fails.
  have next {β : Type} (name : String) (rest : ℕ → Option β) :
      ((counters.members.without dropped).optional name count? 0 >>= rest) =
        rest (if dropped [name] then 0 else counters.named name) := by
    rw [read]
    rfl
  rw [ofJson?, fields, Option.bind_eq_bind, Option.bind_some]
  simp only [↓next]
  rfl

theorem isPrintable_toJson (counters : Counters) : counters.toJson.IsPrintable := by
  refine isPrintable_record fun member isIn => ?_
  obtain ⟨count, -, eq⟩ := List.mem_map.mp (List.of_mem_zip isIn).2
  exact eq ▸ isPrintable_nat count

end Counters

/-! ### Samples -/

namespace Sample

/-- The sample with defaults in place of what is dropped. -/
def without (dropped : List String → Bool) (sample : Sample) : Sample where
  timestampMs := if dropped ["timestamp_ms"] then 0 else sample.timestampMs
  accessPoint := if dropped ["identity"] then .unknown else sample.accessPoint
  rssiDbm := if dropped ["rssi_dbm"] then -127 else sample.rssiDbm
  txSpeedMbps := if dropped ["tx_link_speed_mbps"] then -1 else sample.txSpeedMbps
  rxSpeedMbps := if dropped ["rx_link_speed_mbps"] then -1 else sample.rxSpeedMbps
  counters :=
    if dropped ["counters"] then {}
    else sample.counters.without fun name => dropped ["counters", name]

/-- Whether a part of the access point is dropped, and the access point is not. -/
def dropsPartOfAccessPoint (dropped : List String → Bool) : Bool :=
  !dropped ["identity"] && (dropped ["identity", "bssid"] || dropped ["identity", "frequency_mhz"])

/-- The members of the JSON form of a sample. -/
def members (sample : Sample) : Fields :=
  [("timestamp_ms", .nat sample.timestampMs),
   ("identity", sample.accessPoint.toJson),
   ("rssi_dbm", .int sample.rssiDbm),
   ("tx_link_speed_mbps", .int sample.txSpeedMbps),
   ("rx_link_speed_mbps", .int sample.rxSpeedMbps),
   ("counters", sample.counters.toJson)]

/-- What is missing is read as its default, and all else as it is; but there is no access point
without one of its parts. -/
theorem ofJson?_without {sample : Sample} (inRange : sample.InRange)
    (dropped : List String → Bool) :
    ofJson? (sample.toJson.without dropped) =
      if dropsPartOfAccessPoint dropped then none else some (sample.without dropped) := by
  have fields : (sample.toJson.without dropped).fields? names =
      some (sample.members.without dropped) :=
    fields?_without_record dropped (by decide) rfl
  have timestamp : (sample.members.without dropped).optional "timestamp_ms" count? 0 =
      some (sample.without dropped).timestampMs :=
    Fields.optional_without_eq_some dropped rfl (natBelow?_nat inRange.timestamp le_rfl)
  have accessPoint : (sample.members.without dropped).optional "identity" AccessPoint.ofJson?
      .unknown = if dropsPartOfAccessPoint dropped then none
        else some (sample.without dropped).accessPoint := by
    rw [Fields.optional_without]
    change (if _ then _ else AccessPoint.ofJson? (sample.accessPoint.toJson.without _)) = _
    rw [AccessPoint.ofJson?_without inRange.frequency, dropsPartOfAccessPoint, without]
    cases dropped ["identity"] <;> rfl
  have rssi : (sample.members.without dropped).optional "rssi_dbm" int32? noSignalDbm =
      some (sample.without dropped).rssiDbm :=
    Fields.optional_without_eq_some dropped rfl (int32?_int inRange.rssi)
  have txSpeed : (sample.members.without dropped).optional "tx_link_speed_mbps" int32? (-1) =
      some (sample.without dropped).txSpeedMbps :=
    Fields.optional_without_eq_some dropped rfl (int32?_int inRange.txSpeed)
  have rxSpeed : (sample.members.without dropped).optional "rx_link_speed_mbps" int32? (-1) =
      some (sample.without dropped).rxSpeedMbps :=
    Fields.optional_without_eq_some dropped rfl (int32?_int inRange.rxSpeed)
  have counters : (sample.members.without dropped).optional "counters" Counters.ofJson? {} =
      some (sample.without dropped).counters :=
    Fields.optional_without_eq_some dropped rfl (Counters.ofJson?_without inRange.counters _)
  rw [ofJson?, fields]
  simp only [Option.bind_eq_bind, Option.bind_some]
  -- Only the access point can fail to be read, for all other members have defaults.
  rw [timestamp, Option.bind_some, accessPoint]
  cases dropsPartOfAccessPoint dropped with
  | true => rfl
  | false =>
    rw [if_neg Bool.false_ne_true, Option.bind_some, rssi, Option.bind_some, txSpeed,
      Option.bind_some, rxSpeed, Option.bind_some, counters]
    rfl

theorem isPrintable_toJson (sample : Sample) : sample.toJson.IsPrintable := by
  refine isPrintable_record ?_
  simp only [List.forall_mem_cons]
  exact ⟨isPrintable_nat _, sample.accessPoint.isPrintable_toJson, isPrintable_int _,
    isPrintable_int _, isPrintable_int _, sample.counters.isPrintable_toJson,
    List.forall_mem_nil _⟩

/-- The text of the JSON form of a sample is read as that form, whatever has been taken out. -/
theorem readChars?_without (sample : Sample) (dropped : List String → Bool) :
    readChars? (sample.toJson.without dropped).chars = some (sample.toJson.without dropped) :=
  readChars?_chars (isPrintable_without sample.isPrintable_toJson)

/-- **Samples survive their JSON form.** The text of it is read as the sample. If members are taken
out first, the sample has defaults in place of these, and no text is read that gives one part of an
access point without the other. -/
theorem survives_json {sample : Sample} (inRange : sample.InRange) :
    (readChars? sample.toJson.chars).bind ofJson? = some sample ∧
      ∀ dropped : List String → Bool,
        (readChars? (sample.toJson.without dropped).chars).bind ofJson? =
          if dropsPartOfAccessPoint dropped then none else some (sample.without dropped) := by
  have left (dropped : List String → Bool) :
      (readChars? (sample.toJson.without dropped).chars).bind ofJson? =
        if dropsPartOfAccessPoint dropped then none else some (sample.without dropped) := by
    rw [readChars?_without, Option.bind_some, ofJson?_without inRange]
  refine ⟨?_, left⟩
  have whole := left fun _ => false
  rwa [without_nothing] at whole

/-- The greatest numbers that the JSON form can hold, and the smallest signal strength. -/
def extreme : Sample where
  timestampMs := 0xFFFFFFFFFFFFFFFF
  accessPoint := ⟨.ofLastOctet 0xFF, 0xFFFFFFFF⟩
  rssiDbm := -0x80000000
  txSpeedMbps := 0x7FFFFFFF
  rxSpeedMbps := 0x7FFFFFFF
  counters := { txBad := 0xFFFFFFFFFFFFFFFF, busyOnChannelMs := 0xFFFFFFFFFFFFFFFF }

/-- A sample with extreme values survives, two of them can be taken out, and the access point is not
read without its address. -/
theorem survives_json_extreme :
    (readChars? extreme.toJson.chars).bind ofJson? = some extreme ∧
      (readChars? (extreme.toJson.without fun place =>
          place = ["rssi_dbm"] ∨ place = ["counters", "tx_bad"]).chars).bind ofJson? =
        some { extreme with
          rssiDbm := -127, counters := { busyOnChannelMs := 0xFFFFFFFFFFFFFFFF } } ∧
      (readChars? (extreme.toJson.without fun place => place = ["identity", "bssid"]).chars).bind
        ofJson? = none := by
  have inRange : extreme.InRange :=
    ⟨by decide, by decide, by decide, by decide, by decide, by decide⟩
  obtain ⟨whole, left⟩ := survives_json inRange
  refine ⟨whole, ?_, ?_⟩
  · rw [left]
    rfl
  · rw [left]
    rfl

end Sample

end LinkQuality
