import LinkQuality.Telemetry.AccessPoint

/-!
# Telemetry samples

One snapshot of a station's link: when it was taken, which access point it was taken on, signal
strength and link speeds, and counters that have been running since the interface came up.

Times and counters are naturals, signal strength and speeds integers. Their widths matter only in
the JSON form, which refuses what does not fit.
-/

namespace LinkQuality

/-- Counters that only grow while the interface is up. -/
structure Counters where
  txSuccess : Nat := 0
  txRetries : Nat := 0
  txBad : Nat := 0
  rxSuccess : Nat := 0
  beaconRx : Nat := 0
  radioOnMs : Nat := 0
  radioTxMs : Nat := 0
  radioRxMs : Nat := 0
  scanMs : Nat := 0
  roamScanMs : Nat := 0
  /-- Radio time on the current channel. -/
  radioOnChannelMs : Nat := 0
  /-- Time the current channel was found busy. -/
  busyOnChannelMs : Nat := 0
  deriving DecidableEq, Repr, Inhabited

/-- The signal strength that is reported when there is no measurement. -/
def noSignalDbm : Int := -127

/-- One telemetry snapshot. -/
structure Sample where
  timestampMs : Nat := 0
  accessPoint : AccessPoint := .unknown
  rssiDbm : Int := noSignalDbm
  /-- Negative when unknown. -/
  txSpeedMbps : Int := -1
  /-- Negative when unknown. -/
  rxSpeedMbps : Int := -1
  counters : Counters := {}
  deriving DecidableEq, Repr, Inhabited

namespace Sample

/-- The signal strength, if it was measured. -/
def rssi? (sample : Sample) : Option Int :=
  if sample.rssiDbm = noSignalDbm then none else some sample.rssiDbm

/-- The time since an earlier sample, unless time went backwards. -/
def gapSince? (sample earlier : Sample) : Option Nat :=
  if earlier.timestampMs ≤ sample.timestampMs then
    some (sample.timestampMs - earlier.timestampMs)
  else none

end Sample

end LinkQuality
