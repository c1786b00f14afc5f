import LinkQuality.Settings.Overrides
import LinkQuality.Text.Blank
import LinkQuality.Toml.Reader
import LinkQuality.Toml.Record

/-!
# Documents of settings

Settings are written in TOML, one table for each group. Every key may be left out, and keys that
are not known are ignored. A blank text leaves everything at its default.
-/

namespace LinkQuality.Settings

open Toml

/-- Reads a 64-bit number of milliseconds. -/
def millis? (value : Value) : Option UInt64 :=
  (value.natBelow? 0x10000000000000000).map .ofNat

/-- Reads a signed 32-bit integer. -/
def int32? : Value → Option Int := Value.intWithin? (-0x80000000) 0x7FFFFFFF

/-- Reads an unsigned 32-bit integer. -/
def nat32? : Value → Option Nat := Value.natBelow? 0x100000000

/-- Reads the name of a method. -/
def method? (value : Value) : Option Method := do
  let name ← value.word?
  if name = ['m', 'l'] then some .forest
  else if name = ['v', 'e', 'l', 'o', 'c', 'i', 't', 'y'] then some .trend
  else none

/-- Reads what a document says about polling. -/
def PollingOverrides.ofValue? (value : Value) : Option PollingOverrides := do
  let fields ← value.fields? ["polling_interval_ms", "polling_delay_ms"]
  let intervalMs ← fields.optional "polling_interval_ms" millis?
  let delayMs ← fields.optional "polling_delay_ms" millis?
  some { intervalMs, delayMs }

/-- Reads what a document says about traffic gates. -/
def GatesOverrides.ofValue? (value : Value) : Option (GatesOverrides Float) := do
  let fields ← value.fields?
    ["tx_pkt_count_threshold", "rx_pkt_count_threshold", "success_pkt_count_very_high_threshold",
      "min_cca_duration_ms", "default_mean_cca_busy_ratio", "subtract_rx_time_from_cca_busy_time"]
  let fewTxAttempts ← fields.optional "tx_pkt_count_threshold" Value.float?
  let fewRxSuccesses ← fields.optional "rx_pkt_count_threshold" Value.float?
  let manySuccesses ← fields.optional "success_pkt_count_very_high_threshold" Value.float?
  let littleChannelMs ← fields.optional "min_cca_duration_ms" Value.float?
  let assumeMeanBusyRatio ← fields.optional "default_mean_cca_busy_ratio" Value.boolean?
  let excludeOwnReception ← fields.optional "subtract_rx_time_from_cca_busy_time" Value.boolean?
  some { fewTxAttempts, fewRxSuccesses, manySuccesses, littleChannelMs, assumeMeanBusyRatio,
         excludeOwnReception }

/-- Reads what a document says about evidence. -/
def EvidenceOverrides.ofValue? (value : Value) : Option (EvidenceOverrides Float) := do
  let fields ← value.fields?
    ["low_rssi_dbm", "tx_bad_threshold", "tx_success_to_bad_ratio", "link_speed_low_mbps",
      "link_speed_very_low_mbps"]
  let hopelessRssiDbm ← fields.optional "low_rssi_dbm" int32?
  let txBadBurst ← fields.optional "tx_bad_threshold" Value.float?
  let txBadWeight ← fields.optional "tx_success_to_bad_ratio" Value.float?
  let slowMbps ← fields.optional "link_speed_low_mbps" int32?
  let verySlowMbps ← fields.optional "link_speed_very_low_mbps" int32?
  some { hopelessRssiDbm, txBadBurst, txBadWeight, slowMbps, verySlowMbps }

/-- Reads what a document says about hysteresis. -/
def HysteresisOverrides.ofValue? (value : Value) : Option (HysteresisOverrides Float) := do
  let fields ← value.fields?
    ["transition_score", "max_health_score", "max_score", "threshold", "threshold_hysteresis",
      "scan_triggering_threshold", "breach_rssi_dbm", "no_hysteresis_rssi_dbm", "debounce_ms",
      "block_wait_ms"]
  let transitionScore ← fields.optional "transition_score" Value.float?
  let maxHealthScore ← fields.optional "max_health_score" Value.float?
  let maxScore ← fields.optional "max_score" Value.float?
  let threshold ← fields.optional "threshold" Value.float?
  let margin ← fields.optional "threshold_hysteresis" Value.float?
  let scanThreshold ← fields.optional "scan_triggering_threshold" Value.float?
  let breachRssiDbm ← fields.optional "breach_rssi_dbm" int32?
  let urgentRssiDbm ← fields.optional "no_hysteresis_rssi_dbm" int32?
  let debounceMs ← fields.optional "debounce_ms" millis?
  let blockWaitMs ← fields.optional "block_wait_ms" millis?
  some { transitionScore, maxHealthScore, maxScore, threshold, margin, scanThreshold,
         breachRssiDbm, urgentRssiDbm, debounceMs, blockWaitMs }

/-- Reads what a document says about the levels of a band. -/
def LevelsOverrides.ofValue? (value : Value) : Option LevelsOverrides := do
  let fields ← value.fields? ["exit_dbm", "entry_dbm"]
  let exitDbm ← fields.optional "exit_dbm" int32?
  let entryDbm ← fields.optional "entry_dbm" int32?
  some { exitDbm, entryDbm }

/-- Reads what a document says about scoring by trend. -/
def TrendOverrides.ofValue? (value : Value) : Option (TrendOverrides Float) := do
  let fields ← value.fields?
    ["two_ghz", "five_ghz", "six_ghz", "transition_score", "secondary_transition_score",
      "max_score", "horizon_secs", "rssi_std_db", "accel_std", "rate_time_constant_ms",
      "min_pps_for_success", "busy_link_pps", "keep_below_transition_ms", "nud_knob",
      "low_score_scan_threshold"]
  let twoGhz ← fields.orElse "two_ghz" LevelsOverrides.ofValue? {}
  let fiveGhz ← fields.orElse "five_ghz" LevelsOverrides.ofValue? {}
  let sixGhz ← fields.orElse "six_ghz" LevelsOverrides.ofValue? {}
  let transitionScore ← fields.optional "transition_score" int32?
  let secondaryTransitionScore ← fields.optional "secondary_transition_score" int32?
  let maxScore ← fields.optional "max_score" int32?
  let horizonSeconds ← fields.optional "horizon_secs" Value.float?
  let readingStd ← fields.optional "rssi_std_db" Value.float?
  let accelerationStd ← fields.optional "accel_std" Value.float?
  let rateTimeConstantMs ← fields.optional "rate_time_constant_ms" millis?
  let minSuccessRate ← fields.optional "min_pps_for_success" Value.float?
  let busyRate ← fields.optional "busy_link_pps" Value.float?
  let holdBelowMs ← fields.optional "keep_below_transition_ms" millis?
  let probeKnob ← fields.optional "nud_knob" (Value.natBelow? 256)
  let scanBelow ← fields.optional "low_score_scan_threshold" int32?
  some { twoGhz, fiveGhz, sixGhz, transitionScore, secondaryTransitionScore, maxScore,
         horizonSeconds, readingStd, accelerationStd, rateTimeConstantMs, minSuccessRate, busyRate,
         holdBelowMs, probeKnob, scanBelow }

/-- Reads what a document says. -/
def Overrides.ofEntries? (entries : Entries) : Option (Overrides Float) := do
  let fields ← (Value.table .headed entries).fields?
    ["version", "kind", "model_id", "window", "derivation", "link_quality", "hysteresis",
      "velocity"]
  let version ← fields.orElse "version" nat32? 0
  let method ← fields.optional "kind" method?
  let modelId ← fields.optional "model_id" nat32?
  let polling ← fields.orElse "window" PollingOverrides.ofValue? {}
  let gates ← fields.orElse "derivation" GatesOverrides.ofValue? {}
  let evidence ← fields.orElse "link_quality" EvidenceOverrides.ofValue? {}
  let hysteresis ← fields.orElse "hysteresis" HysteresisOverrides.ofValue? {}
  let trend ← fields.orElse "velocity" TrendOverrides.ofValue? {}
  some { version, method, modelId, polling, gates, evidence, hysteresis, trend }

/-- The settings that the characters of a document lead to. -/
def ofChars (text : List Char) : Except (Fault Float) (Settings Float) :=
  if Text.allBlank text then .ok defaults
  else match (Toml.readChars? text).bind Overrides.ofEntries? with
    | none => .error .unreadable
    | some overrides => overrides.resolve

/-- The settings that a document leads to. -/
def ofText (text : String) : Except (Fault Float) (Settings Float) := ofChars text.toList

end LinkQuality.Settings
