import LinkQuality.Json.Record
import LinkQuality.Telemetry.Sample

/-!
# The JSON form of telemetry samples

A sample is an object whose members are named for what they measure. Every member may be left out
and then has its default; an access point, if it is given, must be complete. Values that do not fit
their width are refused.
-/

namespace LinkQuality

open Json

namespace Bssid

/-- The JSON form of an address. -/
def toJson (bssid : Bssid) : Json := .text bssid.text

/-- Reads the JSON form of an address. -/
def ofJson? (json : Json) : Option Bssid := do
  let text ← json.text?
  (Bssid.read text).toOption

end Bssid

namespace AccessPoint

/-- The JSON form of an access point. -/
def toJson (point : AccessPoint) : Json :=
  .record [("bssid", point.bssid.toJson), ("frequency_mhz", .nat point.frequencyMhz)]

/-- Reads the JSON form of an access point. -/
def ofJson? (json : Json) : Option AccessPoint := do
  let fields ← json.fields? ["bssid", "frequency_mhz"]
  let bssid ← fields.required "bssid" Bssid.ofJson?
  let frequencyMhz ← fields.required "frequency_mhz" (natBelow? 0x100000000)
  some ⟨bssid, frequencyMhz⟩

end AccessPoint

namespace Counters

/-- The names of the counters, in order. -/
def names : List String :=
  ["tx_success", "tx_retries", "tx_bad", "rx_success", "beacon_rx", "radio_on_time_ms",
    "radio_tx_time_ms", "radio_rx_time_ms", "scan_time_ms", "roam_scan_time_ms",
    "radio_on_freq_time_ms", "cca_busy_freq_time_ms"]

/-- The values of the counters, in order. -/
def toList (counters : Counters) : List Nat :=
  [counters.txSuccess, counters.txRetries, counters.txBad, counters.rxSuccess, counters.beaconRx,
    counters.radioOnMs, counters.radioTxMs, counters.radioRxMs, counters.scanMs,
    counters.roamScanMs, counters.radioOnChannelMs, counters.busyOnChannelMs]

/-- The JSON form of the counters. -/
def toJson (counters : Counters) : Json :=
  .record (names.zip (counters.toList.map .nat))

/-- Reads the JSON form of the counters. -/
def ofJson? (json : Json) : Option Counters := do
  let fields ← json.fields? names
  let count (name : String) : Option Nat := fields.optional name count? 0
  let txSuccess ← count "tx_success"
  let txRetries ← count "tx_retries"
  let txBad ← count "tx_bad"
  let rxSuccess ← count "rx_success"
  let beaconRx ← count "beacon_rx"
  let radioOnMs ← count "radio_on_time_ms"
  let radioTxMs ← count "radio_tx_time_ms"
  let radioRxMs ← count "radio_rx_time_ms"
  let scanMs ← count "scan_time_ms"
  let roamScanMs ← count "roam_scan_time_ms"
  let radioOnChannelMs ← count "radio_on_freq_time_ms"
  let busyOnChannelMs ← count "cca_busy_freq_time_ms"
  some { txSuccess, txRetries, txBad, rxSuccess, beaconRx, radioOnMs, radioTxMs, radioRxMs, scanMs,
         roamScanMs, radioOnChannelMs, busyOnChannelMs }

end Counters

namespace Sample

/-- The names of the members, in order. -/
def names : List String :=
  ["timestamp_ms", "identity", "rssi_dbm", "tx_link_speed_mbps", "rx_link_speed_mbps", "counters"]

/-- The JSON form of a sample. -/
def toJson (sample : Sample) : Json :=
  .record
    [("timestamp_ms", .nat sample.timestampMs),
     ("identity", sample.accessPoint.toJson),
     ("rssi_dbm", .int sample.rssiDbm),
     ("tx_link_speed_mbps", .int sample.txSpeedMbps),
     ("rx_link_speed_mbps", .int sample.rxSpeedMbps),
     ("counters", sample.counters.toJson)]

/-- Reads the JSON form of a sample. -/
def ofJson? (json : Json) : Option Sample := do
  let fields ← json.fields? names
  let timestampMs ← fields.optional "timestamp_ms" count? 0
  let accessPoint ← fields.optional "identity" AccessPoint.ofJson? .unknown
  let rssiDbm ← fields.optional "rssi_dbm" int32? noSignalDbm
  let txSpeedMbps ← fields.optional "tx_link_speed_mbps" int32? (-1)
  let rxSpeedMbps ← fields.optional "rx_link_speed_mbps" int32? (-1)
  let counters ← fields.optional "counters" Counters.ofJson? {}
  some { timestampMs, accessPoint, rssiDbm, txSpeedMbps, rxSpeedMbps, counters }

/-- Whether every value fits its width in the JSON form. -/
structure InRange (sample : Sample) : Prop where
  timestamp : sample.timestampMs < 0x10000000000000000
  frequency : sample.accessPoint.frequencyMhz < 0x100000000
  rssi : -0x80000000 ≤ sample.rssiDbm ∧ sample.rssiDbm < 0x80000000
  txSpeed : -0x80000000 ≤ sample.txSpeedMbps ∧ sample.txSpeedMbps < 0x80000000
  rxSpeed : -0x80000000 ≤ sample.rxSpeedMbps ∧ sample.rxSpeedMbps < 0x80000000
  counters : ∀ count ∈ sample.counters.toList, count < 0x10000000000000000

end Sample

end LinkQuality
