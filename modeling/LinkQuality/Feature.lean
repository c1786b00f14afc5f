/-!
# Features

What a trained model sees of one interval, in the order in which models are trained.
-/

namespace LinkQuality

/-- A quantity of an interval that a model sees. -/
inductive Feature where
  | txThroughput
  | linkSpeed
  | rssi
  | busyRatio
  | radioOnChannel
  | radioOnPerAttempt
  | rxTimePerSuccess
  | txTimePerAttempt
  | roamScan
  | rxSuccess
  | scan
  | txAttempts
  | txBad
  | retriesPerAttempt
  | successPerAttempt
  deriving DecidableEq, Repr

namespace Feature

/-- All features, in order. -/
def all : Vector Feature 15 :=
  #v[txThroughput, linkSpeed, rssi, busyRatio, radioOnChannel, radioOnPerAttempt,
    rxTimePerSuccess, txTimePerAttempt, roamScan, rxSuccess, scan, txAttempts, txBad,
    retriesPerAttempt, successPerAttempt]

/-- The place of a feature in the order. -/
def index : Feature → Fin 15
  | txThroughput => 0
  | linkSpeed => 1
  | rssi => 2
  | busyRatio => 3
  | radioOnChannel => 4
  | radioOnPerAttempt => 5
  | rxTimePerSuccess => 6
  | txTimePerAttempt => 7
  | roamScan => 8
  | rxSuccess => 9
  | scan => 10
  | txAttempts => 11
  | txBad => 12
  | retriesPerAttempt => 13
  | successPerAttempt => 14

/-- The feature at a place. -/
def ofIndex (i : Fin 15) : Feature := all[i]

@[simp] theorem ofIndex_index (f : Feature) : ofIndex f.index = f := by
  cases f <;> rfl

@[simp] theorem index_ofIndex (i : Fin 15) : (ofIndex i).index = i := by
  revert i
  decide

/-- The name of a feature in training data. -/
def name : Feature → String
  | txThroughput => "est_tx_tput"
  | linkSpeed => "link_speed_mbps"
  | rssi => "rssi"
  | busyRatio => "cca_busy_ratio"
  | radioOnChannel => "radio_on_freq_time_diff"
  | radioOnPerAttempt => "radio_on_time_per_attempt"
  | rxTimePerSuccess => "radio_rx_time_per_rx_success"
  | txTimePerAttempt => "radio_tx_time_per_tx_attempt"
  | roamScan => "roam_scan_time_diff"
  | rxSuccess => "rx_success_diff"
  | scan => "scan_time_diff"
  | txAttempts => "tx_attempts"
  | txBad => "tx_bad_diff"
  | retriesPerAttempt => "tx_retries_per_attempt"
  | successPerAttempt => "tx_success_per_attempt"

end Feature

end LinkQuality
